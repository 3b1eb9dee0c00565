import TraceRelay.Proofs.Sampling.Truncation
import TraceRelay.Proofs.Trace.Decision

/-!
# Decisions at the root of a trace

Nothing comes with the root of a trace, so it is decided with the value derived from its id, cut off, and with
the rate of the settings (`Client.SetTo.sampled_iff`). Cutting off moves a value across a rate by less than one
step, and only downwards (`toRat_lt_of_quantize_lt`): the decision is that of the derived value but for one step
above the rate, and a higher rate samples whatever a lower one does (`root_decides_like_derivation`).
-/

namespace TraceRelay

open Binary64 Run

theorem stepValue_lt_of_gridPoint_lt {k : Nat} {r : Binary64} (hk : k < 10 ^ randPlaces) (hr : r.isRate = true)
    (h : gridPoint k < r) : stepValue k < r.toRat := by
  obtain ⟨f, rfl, h0, -⟩ := isRate_iff.1 hr
  rw [toRat_finite]
  by_contra hle
  -- a rate at or below the step would lie at or below the number of that step
  rw [not_lt, Finite.toRat, stepValue, div_le_div_iff₀ unitsPerOne_cast_pos stepsPerOne_pos,
    Finite.units_eq_magnitude h0] at hle
  have hle' : f.magnitude * 10 ^ randPlaces ≤ k * unitsPerOne := by exact_mod_cast hle
  exact not_lt_of_le (le_gridPoint hk h0 hle') h

/-- What is cut off to below a rate lay below it before, or less than one step above. -/
theorem toRat_lt_of_quantize_lt {x r : Binary64} (hx : x.isFraction = true) (hr : r.isRate = true)
    (h : quantize x < r) : x.toRat < r.toRat + 1 / 10 ^ 6 := by
  rw [quantize_eq_gridPoint] at h
  have hstep := stepValue_lt_of_gridPoint_lt (randSteps_lt x) hr h
  have hgap := toRat_lt_stepValue_add hx
  linarith

/-! ## Roots -/

structure Client.SetTo (c : Client) (rate : Binary64) : Prop where
  sampler : c.sampler = none
  rate_eq : c.settings.rate = some rate
  isRate : rate.isRate = true

structure StartOptions.IsRoot (o : StartOptions) : Prop where
  baggage : o.baggage = none
  parentSampled : o.parentSampled = none

variable {c : Client} {o : StartOptions} {r : Binary64} {s : Supply} {t : Transaction}

theorem StartOptions.IsRoot.items_eq (ho : o.IsRoot) : o.items = .empty := by
  rw [StartOptions.items, ho.baggage]
  rfl

namespace Client.SetTo

theorem rateSources_eq (hc : c.SetTo r) (ho : o.IsRoot) (traceId : TraceId) :
    rateSources c o traceId = [none, none, none, some r] := by
  rw [rateSources, hc.sampler, hc.rate_eq, ho.parentSampled, ho.items_eq, incomingRand?_empty]
  rfl

theorem sampled_iff (hc : c.SetTo r) (ho : o.IsRoot) (h : (c.start o).Gives s t) :
    t.sampled = true ↔ quantize (derive t.traceId.text) < r := by
  obtain ⟨traceId, spanId, -, -, rfl⟩ := Client.gives_start h
  have hrate : (c.transaction o traceId spanId).rate = some r := by
    show c.rateFor (o.query traceId) o.incomingRand?.isSome = some r
    rw [Client.rateFor, proposedRate_eq, hc.rateSources_eq ho]
    exact Option.filter_some_pos hc.isRate
  have hrand : (c.transaction o traceId spanId).rand = quantize (derive traceId.text) := by
    show o.rand traceId = _
    rw [StartOptions.rand, o.incomingRand?_eq, ho.items_eq, incomingRand?_empty, Option.getD_none]
  rw [Client.sampled_transaction, hrate, hrand, Option.any_some]
  exact Iff.rfl

end Client.SetTo

/-- A root is sampled if the value derived from its id lies below the rate, and only if it lies less than one
step above. At a higher rate, any service samples the trace that a service samples at a lower one. -/
theorem root_decides_like_derivation (hc : c.SetTo r) (ho : o.IsRoot) (s : Supply) :
    (c.start o).Returns s ∧
    ∀ t, (c.start o).Gives s t →
      (∀ id, o.traceId = some id → t.traceId = id) ∧
      (derive t.traceId.text < r → t.sampled = true) ∧
      (t.sampled = true → (derive t.traceId.text).toRat < r.toRat + 1 / 10 ^ 6) ∧
      ∀ c' r' o' s' t', Client.SetTo c' r' → StartOptions.IsRoot o' → (c'.start o').Gives s' t' →
        t'.traceId = t.traceId → r ≤ r' → t.sampled = true → t'.sampled = true := by
  refine ⟨Client.returns_start c o, fun t h => ?_⟩
  have hfrac := derive_isFraction t.traceId.text
  refine ⟨fun id hid => ?_, fun hlt => ?_, fun hs => ?_, fun c' r' o' s' t' hc' ho' h' hid hle hs => ?_⟩
  · obtain ⟨traceId, spanId, ho' | ⟨ho', -⟩, -, rfl⟩ := Client.gives_start h <;> rw [hid] at ho' <;> cases ho'
    rfl
  · exact (hc.sampled_iff ho h).2 (lt_of_le_of_lt (quantize_le hfrac) hlt)
  · exact toRat_lt_of_quantize_lt hfrac hc.isRate ((hc.sampled_iff ho h).1 hs)
  · rw [hc'.sampled_iff ho' h', hid]
    exact lt_of_lt_of_le ((hc.sampled_iff ho h).1 hs) hle

def Client.setTo (rate : Binary64) : Client := ⟨{ Settings.defaults with rate := some rate }, none, []⟩

theorem rate_below_derived_value_samples :
    ∃ t t', ((Client.setTo (.ofDecimal false 8766381 (-7))).start ⟨"root", some .zeros, none, none, none⟩).Gives
        .counting t ∧
      ((Client.setTo (.ofDecimal false 9 (-1))).start ⟨"root", some .zeros, none, none, none⟩).Gives .counting t' ∧
      Binary64.ofDecimal false 8766381 (-7) < derive t.traceId.text ∧ t.sampled = true ∧
      (derive t.traceId.text).toRat < (Binary64.ofDecimal false 8766381 (-7)).toRat + 1 / 10 ^ 6 ∧
      derive t'.traceId.text < .ofDecimal false 9 (-1) ∧ t'.sampled = true := by
  have hc : (Client.setTo (.ofDecimal false 8766381 (-7))).SetTo (.ofDecimal false 8766381 (-7)) :=
    ⟨rfl, rfl, by decide +kernel⟩
  have hc' : (Client.setTo (.ofDecimal false 9 (-1))).SetTo (.ofDecimal false 9 (-1)) :=
    ⟨rfl, rfl, by decide +kernel⟩
  have ho : StartOptions.IsRoot ⟨"root", some .zeros, none, none, none⟩ := ⟨rfl, rfl⟩
  have ht := (Client.setTo (.ofDecimal false 8766381 (-7))).start_gives
    (o := ⟨"root", some .zeros, none, none, none⟩) rfl .counting
  have ht' := (Client.setTo (.ofDecimal false 9 (-1))).start_gives
    (o := ⟨"root", some .zeros, none, none, none⟩) rfl .counting
  obtain ⟨hid, -, hstep, hmono⟩ := (root_decides_like_derivation hc ho .counting).2 _ ht
  obtain ⟨hid', -, -, -⟩ := (root_decides_like_derivation hc' ho .counting).2 _ ht'
  have hderive : derive TraceId.zeros.text = .ofDecimal false 8766381713144122 (-16) := by decide +kernel
  have hcut : quantize (derive TraceId.zeros.text) < .ofDecimal false 8766381 (-7) := by
    rw [hderive]
    decide +kernel
  have habove : Binary64.ofDecimal false 8766381 (-7) < derive TraceId.zeros.text := by
    rw [hderive]
    decide +kernel
  have hbelow : derive TraceId.zeros.text < .ofDecimal false 9 (-1) := by
    rw [hderive]
    decide +kernel
  have hle : Binary64.ofDecimal false 8766381 (-7) ≤ .ofDecimal false 9 (-1) := by decide +kernel
  have hs := (hc.sampled_iff ho ht).2 hcut
  have hsame := (hid' _ rfl).trans (hid _ rfl).symm
  exact ⟨_, _, ht, ht', habove, hs, hstep hs, hbelow, hmono _ _ _ _ _ hc' ho ht' hsame hle hs⟩

end TraceRelay
