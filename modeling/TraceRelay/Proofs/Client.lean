import TraceRelay.Client
import TraceRelay.Proofs.Context

/-!
# Transactions that a client starts

Without a sampler the rate of the head decides if both it and the random value came
(`sampled_of_head`), else the decision of the sender (`sampled_of_flag`).
-/

namespace TraceRelay

open Binary64 Run

/-- The decision that items stand for: made with their value and their rate, else the sender's. -/
def decisionOf (items : Items) (flag : Bool) : Bool :=
  match incomingRand? items, incomingRate? items with
  | some v, some r => shouldSample v r
  | _, _ => flag

theorem decisionOf_of_none {items : Items} (h : incomingRand? items = none ∨ incomingRate? items = none) (f : Bool) :
    decisionOf items f = f := by
  unfold decisionOf
  rcases h with h | h <;> rw [h]
  cases incomingRand? items <;> rfl

theorem decisionOf_of_some {items : Items} {v r : Binary64} (hv : incomingRand? items = some v)
    (hr : incomingRate? items = some r) (f : Bool) : decisionOf items f = shouldSample v r := by
  unfold decisionOf
  rw [hv, hr]

namespace StartOptions

def items (o : StartOptions) : Items := (o.baggage.getD .empty).items

theorem incomingRand?_eq (o : StartOptions) : o.incomingRand? = TraceRelay.incomingRand? o.items := by
  unfold incomingRand? items
  cases o.baggage <;> rfl

theorem incomingRate?_eq (o : StartOptions) : o.incomingRate? = TraceRelay.incomingRate? o.items := by
  unfold incomingRate? items
  cases o.baggage <;> rfl

theorem isFraction_rand (o : StartOptions) (traceId : TraceId) : (o.rand traceId).isFraction = true := by
  rw [rand]
  cases hv : o.incomingRand? with
  | none => rw [Option.getD_none]; exact quantize_isFraction _
  | some v =>
    rw [Option.getD_some]
    rw [incomingRand?_eq] at hv
    exact isFraction_of_incomingRand? hv

end StartOptions

namespace Client
variable {c : Client} {o : StartOptions} {traceId : TraceId} {spanId : SpanId}

theorem sampled_transaction : (c.transaction o traceId spanId).sampled =
    (c.transaction o traceId spanId).rate.any (shouldSample (c.transaction o traceId spanId).rand) := rfl

theorem proposedRate_of_head (hc : c.sampler = none) {q : RateQuery} {r : Binary64} (hq : q.parentRate = some r) :
    c.proposedRate q true = some r := by
  simp only [proposedRate, hc, hq]
  rfl

theorem proposedRate_of_flag (hc : c.sampler = none) {q : RateQuery} {hasRand : Bool}
    (h : hasRand = false ∨ q.parentRate = none) {f : Bool} (hf : q.parentSampled = some f) :
    c.proposedRate q hasRand = some (if f then .one else .zero) := by
  have hn : q.parentRate.filter (fun _ => hasRand) = none := by
    rcases h with rfl | h
    · simp
    · rw [h]; rfl
  simp only [proposedRate, hc, hn, hf]

theorem rate_of_head (hc : c.sampler = none) (hv : o.incomingRand?.isSome) {r : Binary64}
    (hr : o.incomingRate? = some r) : (c.transaction o traceId spanId).rate = some r := by
  have hrate : r.isRate = true := isRate_of_incomingRate? (o.incomingRate?_eq.symm.trans hr)
  show c.rateFor (o.query traceId) o.incomingRand?.isSome = some r
  rw [hv, rateFor, proposedRate_of_head hc (q := o.query traceId) hr, Option.filter_some_pos hrate]

theorem sampled_of_head (hc : c.sampler = none) {v r : Binary64} (hv : o.incomingRand? = some v)
    (hr : o.incomingRate? = some r) : (c.transaction o traceId spanId).sampled = shouldSample v r := by
  have hrand : (c.transaction o traceId spanId).rand = v := by
    show o.rand traceId = v
    rw [StartOptions.rand, hv, Option.getD_some]
  rw [sampled_transaction, rate_of_head hc (by rw [hv]; rfl) hr, hrand]
  rfl

theorem shouldSample_flag {v : Binary64} (hv : v.isFraction = true) (f : Bool) :
    shouldSample v (if f then .one else .zero) = f := by
  cases f
  · rw [if_neg Bool.false_ne_true]
    exact Bool.eq_false_iff.2 (not_lt_of_le (zero_le_of_isFraction hv))
  · rw [if_pos rfl]
    exact lt_one_of_isFraction hv

theorem sampled_of_flag (hc : c.sampler = none) (h : o.incomingRand? = none ∨ o.incomingRate? = none)
    {f : Bool} (hf : o.parentSampled = some f) : (c.transaction o traceId spanId).sampled = f := by
  have hrate : (c.transaction o traceId spanId).rate = some (if f then .one else .zero) := by
    show c.rateFor (o.query traceId) o.incomingRand?.isSome = _
    have hfrac : (if f then one else zero).isRate = true := by
      split
      · exact isRate_one
      · exact isRate_zero
    rw [rateFor, proposedRate_of_flag hc (q := o.query traceId) (h.imp_left fun hn => by rw [hn]; rfl) hf,
      Option.filter_some_pos hfrac]
  rw [sampled_transaction, hrate, Option.any_some]
  exact shouldSample_flag (o.isFraction_rand traceId) f

theorem sampled_eq_decisionOf (hc : c.sampler = none) {f : Bool} (hf : o.parentSampled = some f) :
    (c.transaction o traceId spanId).sampled = decisionOf o.items f := by
  have hv := o.incomingRand?_eq
  have hr := o.incomingRate?_eq
  cases ev : o.incomingRand? with
  | none => rw [sampled_of_flag hc (.inl ev) hf, decisionOf_of_none (.inl (hv ▸ ev))]
  | some v =>
    cases er : o.incomingRate? with
    | none => rw [sampled_of_flag hc (.inr er) hf, decisionOf_of_none (.inr (hr ▸ er))]
    | some r => rw [sampled_of_head hc ev er, decisionOf_of_some (hv ▸ ev) (hr ▸ er)]

end Client

namespace Client

theorem continuedBaggage_eq (context : Context) (received : Baggage) : continuedBaggage context received =
    ⟨context.items.getD received.items, received.foreign, received.frozen || context.parentSpanId.isSome⟩ := by
  unfold continuedBaggage
  cases context.items <;> cases context.parentSpanId <;> simp [Baggage.freeze]

theorem items_continuedOptions (context : Context) (received : Baggage) (traceId : TraceId) (name : String) :
    (continuedOptions context received traceId name).items = context.items.getD received.items := by
  show (continuedBaggage context received).items = _
  rw [continuedBaggage_eq]

theorem isWritable_continuedBaggage {limit : Nat} {carrier : Carrier} {context : Context} {id : TraceId}
    (hx : Context.Extracted limit carrier context id) : (continuedBaggage context carrier.received).IsWritable := by
  have hw := Context.isWritable_received carrier
  rw [continuedBaggage_eq]
  refine ⟨?_, hw.foreign⟩
  obtain ⟨-, he⟩ | ⟨text, hfill⟩ := hx.items_cases
  · rw [he]; rfl
  · exact (get?_backfill_of_ne hfill (by decide)).trans hw.noEmptyKey

end Client

/-! ## Runs -/

variable {s : Supply}

namespace Client
variable {c : Client} {t : Transaction}

/-- What a start does once it has a trace id. -/
def startWith (c : Client) (o : StartOptions) (traceId : TraceId) : Run Transaction := do
  c.noteRate (o.query traceId) o.incomingRand?.isSome
  let spanId ← freshSpanId
  debug (decisionMessage (c.transaction o traceId spanId))
  return c.transaction o traceId spanId

theorem start_eq (c : Client) (o : StartOptions) :
    c.start o = o.traceId.elim freshTraceId pure >>= c.startWith o := by
  unfold start
  cases o.traceId <;> rfl

theorem gives_start {o : StartOptions} (h : (c.start o).Gives s t) : ∃ traceId spanId,
    (o.traceId = some traceId ∨ o.traceId = none ∧ traceId.IsWire) ∧ spanId.IsWire ∧
      t = c.transaction o traceId spanId := by
  rw [start_eq] at h
  obtain ⟨traceId, hid, h⟩ := gives_bind h
  obtain ⟨_, -, h⟩ := gives_bind h
  obtain ⟨spanId, hspan, h⟩ := gives_bind h
  obtain ⟨_, -, h⟩ := gives_bind h
  refine ⟨traceId, spanId, ?_, isWire_of_freshSpanId hspan, gives_pure.1 h⟩
  cases ho : o.traceId with
  | none =>
    rw [ho] at hid
    exact .inr ⟨rfl, isWire_of_freshTraceId hid⟩
  | some id =>
    rw [ho] at hid
    exact .inl (by rw [gives_pure.1 hid])

theorem run_noteRate (c : Client) (q : RateQuery) (hasRand : Bool) (s : Supply) (p : Progress) :
    ∃ journal, ((c.noteRate q hasRand).run s).run p = some ((), { p with journal := journal }) := by
  unfold noteRate
  cases c.sampler <;> cases c.proposedRate q hasRand with
  | none => exact ⟨_, rfl⟩
  | some rate =>
    by_cases h : rate.isRate = true
    · exact ⟨_, by simp [h]; rfl⟩
    · exact ⟨_, by simp [h]; rfl⟩

theorem start_gives (c : Client) {o : StartOptions} {traceId : TraceId} (ho : o.traceId = some traceId)
    (s : Supply) : (c.start o).Gives s (c.transaction o traceId (.ofNumber (s.spanNumber 0))) := by
  obtain ⟨journal, h⟩ := run_noteRate c (o.query traceId) o.incomingRand?.isSome s .start
  refine ⟨.start, ?_⟩
  unfold start
  simp only [ho, bind_pure_comp, pure_bind, ReaderT.run_bind, ReaderT.run_map, StateT.run_bind, h,
    run_freshSpanId, StateT.run_map, Option.map_eq_map, Option.bind_eq_bind, Option.bind_some,
    Option.map_eq_some_iff, Prod.mk.injEq, Prod.exists, exists_eq_right_right, exists_and_right]
  exact ⟨⟨_, _, rfl⟩, rfl⟩

theorem returns_noteRate (c : Client) (q : RateQuery) (hasRand : Bool) : (c.noteRate q hasRand).Returns s := by
  intro p
  obtain ⟨journal, h⟩ := run_noteRate c q hasRand s p
  rw [h]
  rfl

theorem returns_start (c : Client) (o : StartOptions) : (c.start o).Returns s := by
  rw [start_eq]
  refine returns_bind ?_ fun traceId _ => ?_
  · cases o.traceId with
    | none => exact returns_freshTraceId
    | some id => exact returns_pure id
  · refine returns_bind (returns_noteRate c _ _) fun _ _ => ?_
    refine returns_bind returns_freshSpanId fun spanId _ => ?_
    exact returns_bind (returns_notes _) fun _ _ => returns_pure _

theorem continueTrace_eq (c : Client) (carrier : Carrier) (name : String) : c.continueTrace carrier name = (do
    let context ← Context.extract carrier
    let received ← (carrier.get? baggageHeaderName).elim (pure .empty) Baggage.receive
    let fixed ← context.fixTraceId
    c.start (continuedOptions fixed.2 received fixed.1 name)) := by
  unfold continueTrace
  cases carrier.get? baggageHeaderName <;> rfl

theorem gives_continueTrace {carrier : Carrier} {name : String} (h : (c.continueTrace carrier name).Gives s t) :
    ∃ context traceId spanId, Context.Extracted s.drawLimit carrier context traceId ∧ spanId.IsWire ∧
      t = c.transaction (continuedOptions context carrier.received traceId name) traceId spanId := by
  rw [continueTrace_eq] at h
  obtain ⟨context, hc, h⟩ := gives_bind h
  obtain ⟨received, hr, h⟩ := gives_bind h
  have hr : received = carrier.received := by
    cases hb : carrier.get? baggageHeaderName <;> rw [hb] at hr
    · rw [Carrier.received_of_none hb, gives_pure.1 hr]
    · rw [Carrier.received_of_some hb, gives_receive hr]
  obtain ⟨traceId, hx⟩ := Context.extracted_of_gives hc
  obtain ⟨⟨id, context'⟩, hid, h⟩ := gives_bind h
  -- extraction has fixed the id
  obtain ⟨rfl, hid | ⟨hid, -⟩⟩ := Context.gives_fixTraceId hid <;> rw [hx.traceId] at hid <;> cases hid
  obtain ⟨id, spanId, hid | ⟨hid, -⟩, hspan, rfl⟩ := gives_start h <;> cases hid
  refine ⟨context, traceId, spanId, hx, hspan, ?_⟩
  rw [hr, ← hx.traceId]

/-! ## Runs that agree -/

theorem agree_noteRate (c : Client) (q : RateQuery) (hasRand : Bool) :
    Agree (c.noteRate q hasRand) (c.noteRate q hasRand) := by
  intro s p p' ht hs
  obtain ⟨journal, h⟩ := run_noteRate c q hasRand s p
  obtain ⟨journal', h'⟩ := run_noteRate c q hasRand s p'
  unfold outcome
  rw [h, h', Option.map_some, Option.map_some, ht, hs]

theorem agree_start (c : Client) (o : StartOptions) : Agree (c.start o) (c.start o) := by
  rw [start_eq]
  refine agree_bind ?_ fun traceId => ?_
  · cases o.traceId with
    | none => exact agree_freshTraceId
    | some id => exact agree_pure id
  · refine agree_bind (agree_noteRate c _ _) fun _ => ?_
    refine agree_bind agree_freshSpanId fun spanId => ?_
    exact agree_bind (agree_notes _ _) fun _ => agree_pure _

theorem agree_continueTrace (c : Client) (name : String) {k k' : Carrier} (h : k.SameContent k') :
    Agree (c.continueTrace k name) (c.continueTrace k' name) := by
  rw [continueTrace_eq, continueTrace_eq]
  refine agree_bind (Context.agree_extract h) fun context => ?_
  refine agree_bind ?_ fun received => ?_
  · obtain ⟨hk, hk'⟩ | ⟨header, header', hk, hk', hb⟩ := h.baggage_cases <;> rw [hk, hk']
    · exact agree_pure _
    · exact agree_receive hb
  · exact agree_bind (Context.agree_fixTraceId context) fun fixed => agree_start c _

end Client

def Client.plain : Client := ⟨.defaults, none, []⟩

def TraceId.zeros : TraceId := .ofNumber 0

end TraceRelay
