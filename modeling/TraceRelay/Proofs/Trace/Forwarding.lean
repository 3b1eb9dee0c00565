import TraceRelay.Proofs.Trace.Relay

/-!
# Baggage through many services

Each service reads the baggage of the one before and sends it on. The members of third parties stay
as they came. So do the items, but for the random value, where the head of the trace is known to
be elsewhere: then the baggage is frozen, and no service fills it in (`forwarded_baggage_eq`).
-/

namespace TraceRelay

open Run

structure KeptItems (old new : Items) : Prop where
  get? : ∀ k, k ≠ ItemKey.sampleRand → new.get? k = old.get? k
  all : (incomingRand? old).isSome → new = old

namespace KeptItems
variable {a b c : Items}

theorem refl (a : Items) : KeptItems a a := ⟨fun _ _ => rfl, fun _ => rfl⟩

theorem trans (hab : KeptItems a b) (hbc : KeptItems b c) : KeptItems a c where
  get? := fun k hk => (hbc.get? k hk).trans (hab.get? k hk)
  all := fun ha => by
    have hb := hab.all ha
    rw [← hb] at ha
    rw [hbc.all ha, hb]

theorem of_backfill {limit : Nat} {traceId : String} {sampled : Option Bool} {text : Option String}
    (h : backfill? limit traceId sampled a = some (text, b)) : KeptItems a b := by
  refine ⟨fun k hk => get?_backfill_of_ne h hk, fun ha => ?_⟩
  obtain ⟨-, hb⟩ | ⟨hn, -⟩ | ⟨hn, -⟩ := backfill?_cases h
  · exact hb
  · rw [hn] at ha; cases ha
  · rw [hn] at ha; cases ha

end KeptItems

theorem Context.Extracted.keptItems {limit : Nat} {carrier : Carrier} {context : Context} {id : TraceId}
    (hx : Extracted limit carrier context id) :
    KeptItems carrier.received.items (context.items.getD carrier.received.items) := by
  obtain ⟨he, hitems⟩ | ⟨text, hfill⟩ := hx.items_cases
  · rw [hitems, he]; exact .refl _
  · exact .of_backfill hfill

section
variable {c : Client} {limit : Nat} {carrier : Carrier} {context : Context} {traceId : TraceId} {spanId : SpanId}
  {name : String}

theorem foreign_continued : (c.transaction (Client.continuedOptions context carrier.received traceId name) traceId
    spanId).sentBaggage.foreign = carrier.received.foreign := by
  rw [Transaction.foreign_sentBaggage]
  show (Client.continuedBaggage context carrier.received).foreign = _
  rw [Client.continuedBaggage_eq]

/-- Nothing is filled in if the sender is known, or if any items came. -/
theorem sentBaggage_continued (c : Client) (spanId : SpanId) (name : String)
    (hx : Context.Extracted limit carrier context traceId)
    (hfrozen : carrier.traceHeader?.isSome ∨ carrier.received.items.isEmpty = false) :
    (c.transaction (Client.continuedOptions context carrier.received traceId name) traceId spanId).sentBaggage =
      Client.continuedBaggage context carrier.received := by
  refine Transaction.sentBaggage_of_frozen ?_
  show (Client.continuedBaggage context carrier.received).frozen = true
  rw [Client.continuedBaggage_eq, hx.parentSpanId, Option.isSome_map, Bool.or_eq_true]
  rcases hfrozen with h | h
  · exact .inr h
  · refine .inl (Bool.of_not_eq_false fun hopen => ?_)
    rw [Context.isEmpty_of_frozen_received hopen] at h
    cases h

theorem keptItems_continued (c : Client) (spanId : SpanId) (name : String)
    (hx : Context.Extracted limit carrier context traceId)
    (hfrozen : carrier.traceHeader?.isSome ∨ carrier.received.items.isEmpty = false) :
    KeptItems carrier.received.items (c.transaction (Client.continuedOptions context carrier.received traceId name)
      traceId spanId).sentBaggage.items := by
  rw [sentBaggage_continued c spanId name hx hfrozen, Client.continuedBaggage_eq]
  exact hx.keptItems

end

variable {admits : Client → Prop}

theorem forwarded_hop {c : Client} {t u : Transaction} (ht : Carried t) (hu : Hop c t u) :
    u.sentBaggage.foreign = t.sentBaggage.foreign ∧ KeptItems t.sentBaggage.items u.sentBaggage.items := by
  have hreceived := Carrier.received_headers hu.1 ht.baggage
  have hheader := Carrier.traceHeader?_headers hu.1 ⟨ht.traceId, ht.spanId⟩
  obtain ⟨limit, context, name, spanId, hx, -, -, -, rfl⟩ := hop_cases ht hu
  have hkept := keptItems_continued c spanId name hx (.inl (by rw [hheader]; rfl))
  rw [foreign_continued]
  rw [hreceived] at hkept ⊢
  exact ⟨rfl, hkept⟩

theorem forwarded_of_relayed {root t : Transaction} (h0 : Origin admits root) (ht : Relayed admits root t) :
    t.sentBaggage.foreign = root.sentBaggage.foreign ∧ KeptItems root.sentBaggage.items t.sentBaggage.items := by
  induction ht with
  | root => exact ⟨rfl, .refl _⟩
  | hop ht _ hu ih =>
    obtain ⟨hforeign, hkept⟩ := forwarded_hop (carried_of_relayed h0 ht).1 hu
    exact ⟨hforeign.trans ih.1, ih.2.trans hkept⟩

/-! ## What is forwarded -/

def Carrier.foreignMembers (carrier : Carrier) : List (List Char) :=
  (carrier.get? baggageHeaderName).elim [] TraceRelay.foreignMembers

theorem Carrier.foreign_received (carrier : Carrier) :
    carrier.received.foreign = String.ofList (joined carrier.foreignMembers) := by
  unfold foreignMembers
  cases hb : carrier.get? baggageHeaderName with
  | none =>
    rw [received_of_none hb]
    rfl
  | some header =>
    rw [received_of_some hb]
    exact Baggage.foreign_ofHeader header

theorem Carrier.memberTexts_received (carrier : Carrier) :
    memberTexts carrier.received.foreign.toList = carrier.foreignMembers := by
  unfold foreignMembers
  cases hb : carrier.get? baggageHeaderName with
  | none =>
    rw [received_of_none hb]
    rfl
  | some header =>
    rw [received_of_some hb]
    exact Baggage.memberTexts_foreign_ofHeader header

/-- All services of a continued trace send on the members of third parties that came first, each one
and in order. If a sender or any item came with them, they send on all items too, at most with another
random value than one that could not be used. What a service sends is what the next one receives. -/
theorem forwarded_baggage_eq {c : Client} {carrier : Carrier} {name : String} {s : Supply} {root t : Transaction}
    (h0 : (c.continueTrace carrier name).Gives s root) (ht : Relayed (fun _ => True) root t) :
    (t.sentBaggage.foreign = carrier.received.foreign ∧
      memberTexts t.sentBaggage.foreign.toList = carrier.foreignMembers) ∧
    (carrier.traceHeader?.isSome ∨ carrier.received.items.isEmpty = false →
      (∀ k, k ≠ ItemKey.sampleRand → t.sentBaggage.items.get? k = carrier.received.items.get? k) ∧
        (carrier.received.sampleRand?.isSome → t.sentBaggage.items = carrier.received.items)) ∧
    (t.propagates = true →
      (Carrier.ofHeaders t.headers).received = { t.sentBaggage with frozen := !t.sentBaggage.items.isEmpty }) := by
  have horigin : Origin (fun _ => True) root := .continued trivial h0
  obtain ⟨hforeign, hkept⟩ := forwarded_of_relayed horigin ht
  obtain ⟨context, traceId, spanId, hx, -, rfl⟩ := Client.gives_continueTrace h0
  have hforeign := hforeign.trans foreign_continued
  refine ⟨⟨hforeign, by rw [hforeign, carrier.memberTexts_received]⟩, fun hfrozen => ?_, fun hp => ?_⟩
  · have hitems := (keptItems_continued c _ name hx hfrozen).trans hkept
    exact ⟨hitems.get?, hitems.all⟩
  · exact Carrier.received_headers hp (carried_of_relayed horigin ht).1.baggage

def Carrier.vendorRequest : Carrier :=
  .ofHeaders [(baggageHeaderName, " b=x=y ,sentry-sample_rand= 0.25,, a c=1,sentry-release=1%2C0")]

def vendorHeaders : List (String × String) :=
  [(traceHeaderName, "00000000000000000000000000000000-0000000000000000-0"),
    (baggageHeaderName, "sentry-release=1%2C0,sentry-sample_rand=0.25,b=x=y,a c=1")]

theorem vendor_request_is_forwarded : ∃ root t,
    (Client.plain.continueTrace .vendorRequest "GET /").Gives .counting root ∧ Hop .plain root t ∧
      t.sentBaggage.items = Carrier.vendorRequest.received.items ∧
      memberTexts t.sentBaggage.foreign.toList = ["b=x=y".toList, "a c=1".toList] := by
  obtain ⟨root, h0, hroot⟩ := gives_of_run (fun t : Transaction => (t.propagates, t.headers)) (s := .counting)
    (b := (true, vendorHeaders)) (r := Client.plain.continueTrace .vendorRequest "GET /") (by decide +kernel)
  obtain ⟨hp, hheaders⟩ := Prod.mk.inj hroot
  obtain ⟨t, ht, -⟩ := gives_of_run (fun t : Transaction => t.name) (b := "next") (s := .counting)
    (r := Client.plain.continueTrace (.ofHeaders vendorHeaders) "next") (by decide +kernel)
  have hop : Hop .plain root t := ⟨hp, .counting, "next", by rw [hheaders]; exact ht⟩
  obtain ⟨hforeign, hitems, -⟩ := forwarded_baggage_eq h0 (.hop .root trivial hop)
  exact ⟨root, t, h0, hop, (hitems (.inr (by decide +kernel))).2 (by decide +kernel),
    hforeign.2.trans (by decide +kernel)⟩

end TraceRelay
