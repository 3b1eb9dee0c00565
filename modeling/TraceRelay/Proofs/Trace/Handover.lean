import TraceRelay.Proofs.Sending

/-!
# A context through many services

A service extracts a context, injects it into a request, and the next service extracts it there. The
first extraction settles what is handed over (`settled_of_extract`): each further one gives the same
trace, decision and items, and the span that sent them (`handover_eq`). So a context survives any
number of hops (`handed_on_eq`).
-/

namespace TraceRelay

open Run

namespace Context

/-- A context goes to the next service: it is injected into an empty carrier and extracted there.
`sender` is the context of the first service once it has sent; the supplies are those of the two. -/
def Handover (s s' : Supply) (c sender d : Context) : Prop :=
  ∃ carrier, (c.inject true .empty).Gives s (carrier, sender) ∧ (extract carrier).Gives s' d

inductive HandedOn (root : Context) : Context → Prop where
  | root : HandedOn root root
  | next {s s' : Supply} {c sender d : Context} (hc : HandedOn root c) (hd : Handover s s' c sender d) :
    HandedOn root d

def passedOn (c : Context) (spanId : SpanId) : Context := { c with spanId := none, parentSpanId := some spanId }

structure Settled (c : Context) : Prop where
  traceId : ∃ id, c.traceId = some id ∧ id.IsWire
  spanId : ∀ id, c.spanId = some id → id.IsWire
  noEmptyKey : ∀ items, c.items = some items → items.get? "" = none
  completed : ∀ items, c.items = some items → Completed c.parentSampled items

variable {s s' : Supply} {c sender d : Context}

theorem settled_of_extract {carrier : Carrier} (h : (extract carrier).Gives s c) : Settled c := by
  obtain ⟨id, hx⟩ := extracted_of_gives h
  have hitems : ∀ items, c.items = some items → ∃ text,
      backfill? s.drawLimit id.text c.parentSampled carrier.received.items = some (text, items) := by
    intro items hi
    cases hb : carrier.get? baggageHeaderName with
    | none => rw [hx.noItems hb] at hi; cases hi
    | some header =>
      obtain ⟨text, items', hi', hfill⟩ := hx.items header hb
      rw [hi] at hi'
      cases hi'
      exact ⟨text, hfill⟩
  refine ⟨⟨id, hx.traceId, hx.isWire⟩, fun id hid => ?_, fun items hi => ?_, fun items hi => ?_⟩
  · rw [spanId_of_extract h] at hid; cases hid
  · obtain ⟨text, hfill⟩ := hitems items hi
    rw [get?_backfill_of_ne hfill (by decide)]
    exact (isWritable_received carrier).noEmptyKey
  · obtain ⟨text, hfill⟩ := hitems items hi
    exact completed_of_backfill hfill

theorem Settled.passedOn (hc : Settled c) (spanId : SpanId) : Settled (c.passedOn spanId) where
  traceId := hc.traceId
  spanId := fun _ h => nomatch h
  noEmptyKey := hc.noEmptyKey
  completed := hc.completed

theorem Settled.isWritable (hc : Settled c) : c.baggage.IsWritable := isWritable_baggage hc.noEmptyKey

theorem complete_of_settled (hc : Settled c) (h : c.complete.Gives s d) : d = c := by
  obtain ⟨id, items, hid, rfl, hnone, hsome⟩ := gives_complete h
  obtain ⟨id', hid', -⟩ := hc.traceId
  rw [hid'] at hid
  rcases hid with hid | ⟨hid, -⟩ <;> cases hid
  have hitems : items = c.items := by
    cases hi : c.items with
    | none => exact hnone hi
    | some old =>
      obtain ⟨text, new, rfl, hfill⟩ := hsome old hi
      obtain ⟨text', hfill'⟩ := (hc.completed old hi).backfill s.drawLimit id.text
      rw [hfill'] at hfill
      cases hfill
      rfl
  rw [hitems, ← hid']

/-! ## Hops -/

theorem items_sentHeaders (hc : Settled c) (h : TraceHeader) :
    ((Carrier.ofHeaders (sentHeaders h c.baggage)).get? baggageHeaderName).map (fun t => (Baggage.ofHeader t).items) =
      c.items := by
  have hitems := items_baggage c
  rw [Carrier.get?_sentHeaders.2]
  cases hi : c.items with
  | none =>
    have ht : c.baggage.text = "" := by rw [baggage, hi]; rfl
    rw [if_pos ht]
    rfl
  | some items =>
    -- a backfill leaves some item, so there is something to write
    have hb : c.baggage.items = items := by rw [hitems, hi]; rfl
    have hne := Baggage.text_ne_empty hc.isWritable (by rw [hb]; exact (hc.completed items hi).isEmpty_eq_false)
    rw [if_neg hne, Option.map_some, Baggage.ofHeader_text hc.isWritable, ← hb]

theorem stated_of_inject (hc : Settled c) {carrier : Carrier} (h : (c.inject true .empty).Gives s (carrier, sender)) :
    ∃ spanId, sender = { c with spanId := some spanId } ∧ carrier.stated = c.passedOn spanId := by
  obtain ⟨traceId, spanId, hid, hspan, rfl, rfl⟩ := gives_inject h
  obtain ⟨id, hc1, hw⟩ := hc.traceId
  rw [hc1] at hid
  rcases hid with hid | ⟨hid, -⟩ <;> cases hid
  have hids : TraceHeader.HasWireIds ⟨traceId, spanId, c.parentSampled⟩ :=
    ⟨hw, hspan.elim (hc.spanId spanId) (·.2)⟩
  refine ⟨spanId, by rw [← hc1], ?_⟩
  rw [Carrier.foldl_set_empty, Carrier.stated, items_sentHeaders hc, Carrier.traceHeader?_sentHeaders hids,
    Context.passedOn, hc1]
  rfl

theorem handover_eq (hc : Settled c) (h : Handover s s' c sender d) :
    ∃ spanId, sender = { c with spanId := some spanId } ∧ d = c.passedOn spanId := by
  obtain ⟨carrier, hsent, hd⟩ := h
  obtain ⟨spanId, hsender, hstated⟩ := stated_of_inject hc hsent
  have hcomplete := complete_of_extract hd
  rw [hstated] at hcomplete
  exact ⟨spanId, hsender, complete_of_settled (hc.passedOn spanId) hcomplete⟩

theorem exists_handover (hc : Settled c) (s s' : Supply) : ∃ sender d, Handover s s' c sender d := by
  obtain ⟨⟨carrier, sender⟩, hsent⟩ := exists_gives (returns_inject c .empty (s := s))
  obtain ⟨spanId, -, hstated⟩ := stated_of_inject hc hsent
  -- nothing is drawn for completed items, so the supplies do not matter
  have hreturns : (extract carrier).Returns s' := returns_extract fun items hi => by
    rw [hstated] at hi ⊢
    exact hc.completed items hi
  obtain ⟨d, hd⟩ := exists_gives hreturns
  exact ⟨sender, d, carrier, hsent, hd⟩

theorem settled_of_handedOn {root : Context} (h0 : Settled root) (hc : HandedOn root c) :
    Settled c ∧ c.traceId = root.traceId ∧ c.parentSampled = root.parentSampled ∧ c.items = root.items := by
  induction hc with
  | root => exact ⟨h0, rfl, rfl, rfl⟩
  | next _ hd ih =>
    obtain ⟨hc, hid, hflag, hitems⟩ := ih
    obtain ⟨spanId, -, rfl⟩ := handover_eq hc hd
    exact ⟨hc.passedOn spanId, hid, hflag, hitems⟩

/-- A context survives any number of hops: all services have the trace, the decision and the items that
the first one extracted, items that are never none at all, and each knows the span that called it. Once
the first extraction has returned, every hop succeeds. -/
theorem handed_on_eq {carrier : Carrier} {root : Context} (h0 : (extract carrier).Gives s root)
    (hc : HandedOn root c) :
    (∃ id, c.traceId = some id ∧ root.traceId = some id) ∧ c.parentSampled = root.parentSampled ∧
      c.items = root.items ∧ (∀ items, c.items = some items → items.isEmpty = false) ∧
      (∀ s s' sender d, Handover s s' c sender d →
        sender = { c with spanId := sender.spanId } ∧ sender.spanId.isSome ∧ d.parentSpanId = sender.spanId) ∧
      ∀ s s', ∃ sender d, Handover s s' c sender d := by
  obtain ⟨hsettled, hid, hflag, hitems⟩ := settled_of_handedOn (settled_of_extract h0) hc
  obtain ⟨id, hid', -⟩ := hsettled.traceId
  refine ⟨⟨id, hid', hid ▸ hid'⟩, hflag, hitems, fun items hi => ?_, fun s s' sender d hd => ?_, ?_⟩
  · exact (hsettled.completed items hi).isEmpty_eq_false
  · obtain ⟨spanId, rfl, rfl⟩ := handover_eq hsettled hd
    exact ⟨rfl, rfl, rfl⟩
  · exact exists_handover hsettled

def contradictoryRequest : Carrier :=
  .ofHeaders [(traceHeaderName, "00000000000000000000000000000000-0000000000000001-0"),
    (baggageHeaderName, "sentry-sample_rate=1,sentry-sample_rand=1.5,vendor=x")]

theorem contradictory_request_is_handed_on : ∃ root sender c, (extract contradictoryRequest).Gives .counting root ∧
    Handover .counting .counting root sender c ∧ c.parentSpanId = sender.spanId ∧
      c.items = some (.ofList [(ItemKey.sampleRate, "1")]) := by
  obtain ⟨root, h0, hitems⟩ := gives_of_run (fun c : Context => c.items) (s := .counting)
    (b := some (.ofList [(ItemKey.sampleRate, "1")])) (r := extract contradictoryRequest) (by decide +kernel)
  obtain ⟨-, -, -, -, hspan, hnext⟩ := handed_on_eq h0 .root
  obtain ⟨sender, c, hc⟩ := hnext .counting .counting
  refine ⟨root, sender, c, h0, hc, (hspan _ _ _ _ hc).2.2, ?_⟩
  rw [(handed_on_eq h0 (.next .root hc)).2.2.1, hitems]

end Context

end TraceRelay
