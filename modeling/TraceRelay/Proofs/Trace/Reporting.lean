import TraceRelay.Proofs.Client
import TraceRelay.Proofs.Transaction

/-!
# What a transaction sends and reports

A host asks a transaction for its baggage and its headers and hands over extra data, in any order. The
first question that needs the baggage settles it, and it is settled to what any other question would have
found (`Continues`). So all replies are those of the transaction as it was started, and the event at its
end tells of the items that were sent (`replies_never_drift`).
-/

namespace TraceRelay

open Run

inductive Request where
  | baggage
  | headers
  | extra (key : String) (value : Json)

inductive Reply where
  | baggage (b : Baggage)
  | headers (hs : List (String × String))
  | taken

namespace Transaction

def serve (t : Transaction) : Request → Reply × Transaction
  | .baggage => (.baggage t.sentBaggage, t.settleBaggage)
  | .headers => (.headers t.headers, t.afterHeaders)
  | .extra key value => (.taken, t.setExtra key value)

def serveAll (t : Transaction) : List Request → List Reply × Transaction
  | [] => ([], t)
  | r :: rest => ((t.serve r).1 :: ((t.serve r).2.serveAll rest).1, ((t.serve r).2.serveAll rest).2)

/-- The transaction at a later time: it has more extra data, and its baggage may be settled by now, to
what was to be sent all along. -/
structure Continues (t u : Transaction) : Prop where
  fields : u = { t with baggage := u.baggage, extra := u.extra }
  sent : u.sentBaggage = t.sentBaggage

variable {t u v : Transaction}

namespace Continues

theorem refl (t : Transaction) : Continues t t := ⟨rfl, rfl⟩

theorem trans (htu : Continues t u) (huv : Continues u v) : Continues t v := by
  refine ⟨?_, huv.sent.trans htu.sent⟩
  rw [huv.fields, htu.fields]

theorem headers (h : Continues t u) : u.headers = t.headers := by
  unfold Transaction.headers
  rw [h.sent]
  rw [h.fields]
  rfl

theorem event (h : Continues t u) : u.event = { t.event with extra := u.extra } := by
  unfold Transaction.event
  rw [h.sent]
  rw [h.fields]

end Continues

theorem sentBaggage_settleBaggage : t.settleBaggage.sentBaggage = t.sentBaggage :=
  -- what was sent is frozen, and frozen baggage is sent as it is
  sentBaggage_of_frozen (t := t.settleBaggage) frozen_sentBaggage

theorem continues_serve (t : Transaction) (r : Request) : Continues t (t.serve r).2 := by
  cases r with
  | baggage => exact ⟨rfl, sentBaggage_settleBaggage⟩
  | headers =>
    show Continues t t.afterHeaders
    unfold afterHeaders
    by_cases hp : t.propagates = true
    · rw [if_pos hp]
      exact ⟨rfl, sentBaggage_settleBaggage⟩
    · rw [if_neg hp]
      exact .refl t
  | extra key value => exact ⟨rfl, rfl⟩

theorem reply_of_continues (h : Continues t u) (r : Request) : (u.serve r).1 = (t.serve r).1 := by
  cases r with
  | baggage => exact congrArg Reply.baggage h.sent
  | headers => exact congrArg Reply.headers h.headers
  | extra key value => rfl

theorem serveAll_of_continues (h : Continues t u) (requests : List Request) :
    (u.serveAll requests).1 = requests.map (fun r => (t.serve r).1) ∧ Continues t (u.serveAll requests).2 := by
  induction requests generalizing u with
  | nil => exact ⟨rfl, h⟩
  | cons r rest ih =>
    obtain ⟨hreplies, hlast⟩ := ih (h.trans (continues_serve u r))
    refine ⟨?_, hlast⟩
    rw [serveAll, hreplies, reply_of_continues h, List.map_cons]

/-! ## The event -/

theorem finish_of_no_processors (hp : t.processors = []) (s : Supply) :
    t.finish.Returns s ∧ ∀ e, t.finish.Gives s e → e = if t.sampled then some t.event else none := by
  unfold finish
  rw [hp]
  by_cases hs : t.sampled = true
  · rw [if_pos hs, if_pos hs]
    exact ⟨returns_pure _, fun e => gives_pure.1⟩
  · rw [if_neg hs, if_neg hs]
    refine ⟨returns_bind (returns_notes _) fun _ _ => returns_pure _, fun e he => ?_⟩
    obtain ⟨_, -, he⟩ := gives_bind he
    exact gives_pure.1 he

theorem finish_of_continues (h : Continues t u) (hp : t.processors = []) (s : Supply) :
    u.finish.Returns s ∧ ∀ e, u.finish.Gives s e →
      e = if t.sampled then some { t.event with extra := u.extra } else none := by
  have hsampled : u.sampled = t.sampled := by rw [h.fields]
  have hp' : u.processors = [] := by rw [h.fields]; exact hp
  have hfinish := finish_of_no_processors hp' s
  rwa [hsampled, h.event] at hfinish

inductive Begun : Transaction → Prop where
  | started {c : Client} {o : StartOptions} {s : Supply} {t : Transaction} (hb : o.baggage = none)
    (ht : (c.start o).Gives s t) : Begun t
  | continued {c : Client} {carrier : Carrier} {name : String} {s : Supply} {t : Transaction}
    (ht : (c.continueTrace carrier name).Gives s t) : Begun t

theorem isWritable_of_begun (h : Begun t) : t.sentBaggage.IsWritable := by
  apply isWritable_sentBaggage
  cases h with
  | started hb ht =>
    obtain ⟨traceId, spanId, -, -, rfl⟩ := Client.gives_start ht
    have hbaggage : (Option.getD none Baggage.empty).IsWritable := ⟨rfl, Baggage.isForeignText_empty⟩
    rwa [← hb] at hbaggage
  | continued ht =>
    obtain ⟨context, traceId, spanId, hx, -, rfl⟩ := Client.gives_continueTrace ht
    exact Client.isWritable_continuedBaggage hx

end Transaction

/-- The items that a receiver of these headers reads; without a baggage header there are none. -/
def announcedItems (headers : List (String × String)) : Items :=
  (headers.lookup baggageHeaderName).elim .empty fun text => (Baggage.ofHeader text).items

theorem announcedItems_sentHeaders {h : TraceHeader} {b : Baggage} (hb : b.IsWritable) :
    announcedItems (sentHeaders h b) = b.items := by
  have hr := congrArg Baggage.items (Baggage.ofHeader_text hb)
  rw [announcedItems, Carrier.lookup_sentHeaders]
  by_cases ht : b.text = ""
  · rw [if_pos ht, ← hr, ht]
    rfl
  · rw [if_neg ht]
    exact hr

/-- Whatever a host asks and in whatever order, each reply is the one that the transaction would have
given at its start, all baggage that is handed out is frozen, and only the extra data and the state of the
baggage change. If nothing processes the event at the end, there is one exactly if the transaction was
sampled, and its items are those which any of the headers announced. -/
theorem replies_never_drift {t u : Transaction} {requests : List Request} {replies : List Reply}
    (h : t.serveAll requests = (replies, u)) :
    replies = requests.map (fun r => (t.serve r).1) ∧ (∀ b, .baggage b ∈ replies → b.frozen = true) ∧
      u = { t with baggage := u.baggage, extra := u.extra } ∧
      (t.Begun → t.propagates = true → t.processors = [] → ∀ s, u.finish.Returns s ∧
        ∀ e, u.finish.Gives s e → e.isSome = t.sampled ∧
          ∀ event, e = some event → ∀ hs, .headers hs ∈ replies → event.items = announcedItems hs) := by
  obtain ⟨hreplies, hu⟩ := Transaction.serveAll_of_continues (.refl t) requests
  rw [h] at hreplies hu
  have hasked : ∀ reply ∈ replies, ∃ r, (t.serve r).1 = reply := by
    intro reply hmem
    rw [show replies = _ from hreplies] at hmem
    obtain ⟨r, -, hr⟩ := List.mem_map.1 hmem
    exact ⟨r, hr⟩
  refine ⟨hreplies, fun b hb => ?_, hu.fields, fun hbegun hp hnone s => ?_⟩
  · obtain ⟨r, hr⟩ := hasked _ hb
    cases r <;> cases hr
    exact Transaction.frozen_sentBaggage
  · obtain ⟨hreturns, hgives⟩ := Transaction.finish_of_continues hu hnone s
    refine ⟨hreturns, fun e he => ?_⟩
    rw [hgives e he]
    refine ⟨by cases t.sampled <;> rfl, fun event hevent hs hmem => ?_⟩
    have hitems : event.items = t.sentBaggage.items := by
      cases ht : t.sampled <;> rw [ht] at hevent <;> cases hevent
      rfl
    have hheaders : hs = t.headers := by
      obtain ⟨r, hr⟩ := hasked _ hmem
      cases r <;> cases hr
      rfl
    rw [hitems, hheaders, t.headers_of_propagates hp,
      announcedItems_sentHeaders (Transaction.isWritable_of_begun hbegun)]

def Carrier.releaseRequest : Carrier :=
  .ofHeaders [(traceHeaderName, "00000000000000000000000000000000-0000000000000001-1"),
    (baggageHeaderName, "vendor=1,sentry-release=1%2C0")]

def releaseHeaders : List (String × String) :=
  [(traceHeaderName, "00000000000000000000000000000000-0000000000000000-1"),
    (baggageHeaderName, "sentry-release=1%2C0,sentry-sample_rand=0.876638,vendor=1")]

theorem release_is_reported : ∃ t u event, (Client.plain.continueTrace .releaseRequest "GET /").Gives .counting t ∧
    t.serveAll [.headers, .extra "user" .null, .baggage, .headers] =
      ([.headers releaseHeaders, .taken, .baggage t.sentBaggage, .headers releaseHeaders], u) ∧
    u.finish.Gives .counting (some event) ∧ event.items = announcedItems releaseHeaders := by
  obtain ⟨t, ht, hrun⟩ := gives_of_run
    (fun t : Transaction => (t.sampled, t.propagates, t.processors.isEmpty, t.headers)) (s := .counting)
    (b := (true, true, true, releaseHeaders)) (r := Client.plain.continueTrace .releaseRequest "GET /")
    (by decide +kernel)
  simp only [Prod.mk.injEq, List.isEmpty_iff] at hrun
  obtain ⟨hsampled, hp, hnone, hheaders⟩ := hrun
  generalize hu : t.serveAll [.headers, .extra "user" .null, .baggage, .headers] = served
  obtain ⟨replies, u⟩ := served
  obtain ⟨rfl, -, -, hevent⟩ := replies_never_drift hu
  obtain ⟨hreturns, hgives⟩ := hevent (.continued ht) hp hnone .counting
  obtain ⟨e, he⟩ := exists_gives hreturns
  obtain ⟨hsome, hitems⟩ := hgives e he
  rw [hsampled] at hsome
  obtain ⟨event, rfl⟩ := Option.isSome_iff_exists.1 hsome
  refine ⟨t, u, event, ht, ?_, he, hitems event rfl releaseHeaders ?_⟩
  · rw [← hheaders, hu]
    rfl
  · rw [← hheaders]
    exact List.mem_cons_self

end TraceRelay
