import TraceRelay.Proofs.Client

/-!
# How a started transaction is decided

The rates that may apply stand in a fixed order (`rateSources`). The first one that is there is taken,
and if it is no rate then no later one stands in for it. The transaction is sampled if its random value
lies below that rate. All of that holds of whatever a client starts (`start_is_decided`).
-/

namespace TraceRelay

open Binary64 Run

/-- What may give the rate of a transaction, the source that goes before the others first: the sampler of
the host, the head of the trace if its random value came too, the sender's decision, the settings. -/
def rateSources (c : Client) (o : StartOptions) (traceId : TraceId) : List (Option Binary64) :=
  [c.sampler.map fun sampler => sampler ⟨o.name, traceId, o.parentSampled, incomingRate? o.items⟩,
    if (incomingRand? o.items).isSome then incomingRate? o.items else none,
    o.parentSampled.map fun sampled => if sampled then one else zero,
    c.settings.rate]

theorem proposedRate_eq (c : Client) (o : StartOptions) (traceId : TraceId) :
    c.proposedRate (o.query traceId) o.incomingRand?.isSome = (rateSources c o traceId).findSome? id := by
  unfold Client.proposedRate StartOptions.query rateSources
  rw [o.incomingRand?_eq, o.incomingRate?_eq]
  generalize (incomingRand? o.items).isSome = hasRand
  cases c.sampler with
  | some sampler => rfl
  | none =>
    -- without a sampler it matters only which of the other sources are there
    cases hasRand <;> cases incomingRate? o.items <;> cases o.parentSampled <;> cases c.settings.rate <;> rfl

/-! ## Decisions -/

structure DecidedBy (c : Client) (o : StartOptions) (t : Transaction) : Prop where
  traceId : ∀ id, o.traceId = some id → t.traceId = id
  rand : t.rand = (incomingRand? o.items).getD (quantize (derive t.traceId.text))
  rand_mem : zero ≤ t.rand ∧ t.rand < one
  rate : t.rate = ((rateSources c o t.traceId).findSome? id).filter isRate
  rate_mem : ∀ r, t.rate = some r → zero ≤ r ∧ r ≤ one
  sampled : t.sampled = true ↔ ∃ r, t.rate = some r ∧ t.rand < r

variable {c : Client} {o : StartOptions} {s : Supply} {t : Transaction}

theorem decidedBy_transaction (c : Client) (o : StartOptions) {traceId : TraceId} (spanId : SpanId)
    (hid : ∀ id, o.traceId = some id → traceId = id) : DecidedBy c o (c.transaction o traceId spanId) where
  traceId := hid
  rand := by rw [← o.incomingRand?_eq]; rfl
  rand_mem :=
    ⟨zero_le_of_isFraction (o.isFraction_rand traceId), lt_one_of_isFraction (o.isFraction_rand traceId)⟩
  rate := by
    show c.rateFor (o.query traceId) o.incomingRand?.isSome = _
    rw [Client.rateFor, proposedRate_eq]
    rfl
  rate_mem := by
    intro r hr
    have h := (Option.filter_eq_some_iff.1 hr).2
    exact ⟨zero_le_of_isRate h, le_one_of_isRate h⟩
  sampled := by
    rw [Client.sampled_transaction, Option.any_eq_true]
    rfl

theorem DecidedBy.sampled_of_sameValue (ht : DecidedBy c o t) {r : Binary64} (hr : t.rate = some r) :
    (r.sameValue one = true → t.sampled = true) ∧ (r.sameValue zero = true → t.sampled = false) := by
  constructor
  · intro h
    have hle : one ≤ r := (Bool.and_eq_true_iff.1 h).2
    exact ht.sampled.2 ⟨r, hr, lt_of_lt_of_le ht.rand_mem.2 hle⟩
  · intro h
    have hle : r ≤ zero := (Bool.and_eq_true_iff.1 h).1
    refine Bool.eq_false_iff.2 fun hs => ?_
    obtain ⟨r', hr', hlt⟩ := ht.sampled.1 hs
    rw [hr] at hr'
    cases hr'
    exact not_lt_of_le ht.rand_mem.1 (lt_of_lt_of_le hlt hle)

/-- Every start of a transaction succeeds, and the transaction is decided by its random value and by the
first rate that applies. A rate of one samples all traces, a rate of zero none. -/
theorem start_is_decided (c : Client) (o : StartOptions) (s : Supply) : (c.start o).Returns s ∧
    ∀ t, (c.start o).Gives s t → DecidedBy c o t ∧
      ∀ r, t.rate = some r →
        (r.sameValue one = true → t.sampled = true) ∧ (r.sameValue zero = true → t.sampled = false) := by
  refine ⟨Client.returns_start c o, fun t h => ?_⟩
  obtain ⟨traceId, spanId, hid, -, rfl⟩ := Client.gives_start h
  have ht : DecidedBy c o (c.transaction o traceId spanId) := by
    apply decidedBy_transaction
    intro id ho
    rcases hid with hid | ⟨hid, -⟩ <;> rw [ho] at hid <;> cases hid
    rfl
  exact ⟨ht, fun r => ht.sampled_of_sameValue⟩

def Client.undecided : Client := ⟨⟨some .one, true, .warn⟩, some fun _ => .nan, []⟩

def StartOptions.sampledSender : StartOptions :=
  ⟨"GET /", some .zeros, none, some true,
    some (.ofItems (.ofList [("sample_rate", "0.5"), ("sample_rand", " 0.25 ")]))⟩

theorem sampler_goes_first :
    (∃ t, (Client.undecided.start .sampledSender).Gives .counting t ∧ t.rate = none ∧ t.sampled = false) ∧
      ∃ t, (Client.plain.start .sampledSender).Gives .counting t ∧ t.rand = .ofDecimal false 25 (-2) ∧
        t.rate = some (.ofDecimal false 5 (-1)) ∧ t.sampled = true := by
  have hstart := fun c : Client => c.start_gives (o := .sampledSender) rfl .counting
  refine ⟨⟨_, hstart .undecided, ?_⟩, _, hstart .plain, ?_⟩
  · obtain ⟨ht, -⟩ := (start_is_decided .undecided .sampledSender .counting).2 _ (hstart .undecided)
    have hrate := ht.rate.trans (show _ = none by decide +kernel)
    refine ⟨hrate, Bool.eq_false_iff.2 fun hs => ?_⟩
    obtain ⟨r, hr, -⟩ := ht.sampled.1 hs
    rw [hrate] at hr
    cases hr
  · obtain ⟨ht, -⟩ := (start_is_decided .plain .sampledSender .counting).2 _ (hstart .plain)
    have hrate := ht.rate.trans (show _ = some (.ofDecimal false 5 (-1)) by decide +kernel)
    have hrand := ht.rand.trans (show _ = .ofDecimal false 25 (-2) by decide +kernel)
    exact ⟨hrand, hrate, ht.sampled.2 ⟨_, hrate, by rw [hrand]; decide +kernel⟩⟩

end TraceRelay
