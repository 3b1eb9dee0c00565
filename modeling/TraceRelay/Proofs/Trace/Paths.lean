import TraceRelay.Proofs.Trace.Forwarding

/-!
# Two ways to pass a trace on

A service that was called with a trace header can pass the trace on in two ways: it continues it with a
transaction and sends the headers of that, or it extracts a context and injects it. Both read the baggage
header on their own, and the search for a random value may be longer on one way than on the other; they
come to the same items all the same (`Extracted.items_unique`). So they send the same trace id, and baggage
that differs by the members of third parties only (`paths_agree`).
-/

namespace TraceRelay

open Run

theorem Context.Extracted.items_unique {limit limit' : Nat} {carrier : Carrier} {c c' : Context} {id : TraceId}
    (h : Extracted limit carrier c id) (h' : Extracted limit' carrier c' id) : c.items = c'.items :=
  items_congr ⟨rfl, rfl⟩ h h'

theorem Context.Extracted.items_eq {limit : Nat} {carrier : Carrier} {c : Context} {id : TraceId}
    (h : Extracted limit carrier c id) : c.items.getD carrier.received.items = c.items.getD .empty := by
  cases hb : carrier.get? baggageHeaderName with
  | none =>
    rw [Carrier.received_of_none hb]
    rfl
  | some header =>
    obtain ⟨text, items, hitems, -⟩ := h.items header hb
    rw [hitems, Option.getD_some, Option.getD_some]

inductive Carrier.IsEmptyMap : Carrier → Prop where
  | table : IsEmptyMap .empty
  | json : IsEmptyMap (.json (.object []))

theorem Carrier.get?_foldl_set {into : Carrier} (hinto : into.IsEmptyMap) (h : TraceHeader) (b : Baggage) :
    ((sentHeaders h b).foldl (fun k e => k.set e.1 e.2) into).get? traceHeaderName = some h.encode ∧
      ((sentHeaders h b).foldl (fun k e => k.set e.1 e.2) into).get? baggageHeaderName =
        if b.text = "" then none else some b.text := by
  cases hinto with
  | table => exact get?_overwritten (.table .empty) h b
  | json => exact get?_overwritten (.json []) h b

theorem joinMembers_empty (a : String) : joinMembers a "" = a := by
  by_cases h : a = "" <;> simp [joinMembers, h]

theorem getD_text (b : Baggage) : (if b.text = "" then none else some b.text).getD "" = b.text := by
  by_cases h : b.text = "" <;> simp [h]

/-! ## Both ways -/

/-- The sender is known, so nothing is filled in, and what is sent are the items of the context and the
members that came. -/
theorem text_continued {limit : Nat} {c : Client} {carrier : Carrier} {context : Context} {id : TraceId}
    (hx : Context.Extracted limit carrier context id) (hparent : carrier.traceHeader?.isSome) (name : String)
    (spanId : SpanId) :
    (c.transaction (Client.continuedOptions context carrier.received id name) id spanId).sentBaggage.text =
      joinMembers context.baggage.text (String.ofList (joined carrier.foreignMembers)) := by
  have hinjected : context.baggage.text = (Baggage.ofItems (context.items.getD .empty)).itemsText :=
    joinMembers_empty _
  rw [sentBaggage_continued c spanId name hx (.inl hparent), hinjected, ← carrier.foreign_received,
    Client.continuedBaggage_eq, hx.items_eq]
  rfl

/-- Both ways send the id of the trace that came. The baggage of the transaction is the injected one with
the members of third parties behind it, whichever of both is missing. -/
theorem paths_agree {c : Client} {carrier into injected : Carrier} {name text : String} {h : TraceHeader}
    {s s' s'' : Supply} {t : Transaction} {context sender : Context}
    (htext : carrier.get? traceHeaderName = some text) (hw : TraceHeader.Written text h)
    (hp : c.settings.propagate = true) (ht : (c.continueTrace carrier name).Gives s t)
    (hc : (Context.extract carrier).Gives s' context) (hinto : into.IsEmptyMap)
    (hi : (context.inject true into).Gives s'' (injected, sender)) :
    t.headers.lookup traceHeaderName = some (TraceHeader.encode ⟨h.traceId, t.spanId, some t.sampled⟩) ∧
      (∃ spanId, injected.get? traceHeaderName = some (TraceHeader.encode ⟨h.traceId, spanId, h.sampled⟩)) ∧
      (t.headers.lookup baggageHeaderName).getD "" = joinMembers ((injected.get? baggageHeaderName).getD "")
        (String.ofList (joined carrier.foreignMembers)) := by
  have hh : carrier.traceHeader? = some h := by
    rw [Carrier.traceHeader?, htext, Option.bind_some, TraceHeader.decode_of_written hw]
    rfl
  obtain ⟨context', id, spanId, hx', -, rfl⟩ := Client.gives_continueTrace ht
  obtain ⟨id', hx⟩ := Context.extracted_of_gives hc
  -- the carrier settles the id, so both have read the same
  cases hx'.ofHeader h hh
  cases hx.ofHeader h hh
  have hbaggage : context.baggage = context'.baggage := by
    rw [Context.baggage, Context.baggage, hx.items_unique hx']
  obtain ⟨id, spanId', hid, -, -, rfl⟩ := Context.gives_inject hi
  rw [hx.traceId] at hid
  obtain ⟨hid⟩ | ⟨hid, -⟩ := hid <;> cases hid
  obtain ⟨htrace, hitems⟩ := Carrier.get?_foldl_set hinto ⟨h.traceId, spanId', context.parentSampled⟩ context.baggage
  rw [Transaction.headers_of_propagates hp]
  refine ⟨rfl, ⟨spanId', ?_⟩, ?_⟩
  · rw [htrace, hx.parentSampled, hh, Option.bind_some]
  · rw [hitems, Carrier.lookup_sentHeaders, getD_text, getD_text, hbaggage]
    exact text_continued hx' (by rw [hh]; rfl) name spanId

def Carrier.mixedRequest : Carrier :=
  .json (.object [("Baggage", .text " v=1 ,sentry-sample_rand=0.25,, no sign,w=a=b"),
    ("sentry-trace", .text "\t00000000000000000000000000000000-0000000000000001")])

theorem mixed_request_on_both_paths : ∃ t context injected sender,
    (Client.plain.continueTrace .mixedRequest "GET /").Gives .counting t ∧
      (Context.extract .mixedRequest).Gives .counting context ∧
      (context.inject true (.json (.object []))).Gives .counting (injected, sender) ∧
      injected.get? baggageHeaderName = some "sentry-sample_rand=0.25" ∧
      (t.headers.lookup baggageHeaderName).getD "" = "sentry-sample_rand=0.25,v=1,w=a=b" := by
  have hw : TraceHeader.Written "\t00000000000000000000000000000000-0000000000000001" ⟨.zeros, .ofNumber 1, none⟩ :=
    TraceHeader.written_of_decode (by decide +kernel)
  obtain ⟨t, ht, -⟩ := gives_of_run (fun t : Transaction => t.name) (b := "GET /") (s := .counting)
    (r := Client.plain.continueTrace .mixedRequest "GET /") (by decide +kernel)
  obtain ⟨context, hc, rfl⟩ := gives_of_run (fun c : Context => c) (s := .counting)
    (b := ⟨some .zeros, none, some (.ofNumber 1), none, some (.ofList [(ItemKey.sampleRand, "0.25")])⟩)
    (r := Context.extract .mixedRequest) (by decide +kernel)
  obtain ⟨⟨injected, sender⟩, hi, hbaggage⟩ := gives_of_run
    (fun x : Carrier × Context => x.1.get? baggageHeaderName) (b := some "sentry-sample_rand=0.25") (s := .counting)
    (r := Context.inject true ⟨some .zeros, none, some (.ofNumber 1), none,
      some (.ofList [(ItemKey.sampleRand, "0.25")])⟩ (.json (.object []))) (by decide +kernel)
  obtain ⟨-, -, hsent⟩ := paths_agree (by decide +kernel) hw rfl ht hc .json hi
  refine ⟨t, _, injected, sender, ht, hc, hi, hbaggage, hsent.trans ?_⟩
  rw [hbaggage]
  decide +kernel

end TraceRelay
