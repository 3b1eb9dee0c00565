import TraceRelay.Proofs.Binary64.Shortest
import TraceRelay.Proofs.Text.Blank
import TraceRelay.Sampling.Text

/-!
# The grid of written random values

A random value is written as one of a million steps. The number nearest to a step lies in `[0, 1)`
(`gridPoint_isFraction`), and so close to it that rounding recovers the step (`roundedSteps_of_gridPoint`):
what was cut off once is written back unchanged (`fraction?_trimmedRandText`). Cutting off never goes
up (`quantize_le`), and it stays above whatever lies on an earlier step (`le_quantize_of_lt_steps`).
-/

namespace TraceRelay

def gridPoint (k : Nat) : Binary64 := .ofDecimal false k (-(randPlaces : Int))

theorem ten_pow_randPlaces : 10 ^ randPlaces = 1000000 := rfl

theorem gridPoint_eq_ofUnits (k : Nat) :
    gridPoint k = .ofUnits false (k * unitsPerOne) (10 ^ randPlaces) := by
  rw [gridPoint, Binary64.ofDecimal_eq_ofUnits]
  have h1 : (-(randPlaces : Int)).toNat = 0 := rfl
  have h2 : (-(-(randPlaces : Int))).toNat = randPlaces := rfl
  rw [h1, h2, Nat.pow_zero, Nat.mul_one]

theorem randSteps_lt (x : Binary64) : randSteps x < 10 ^ randPlaces := by
  unfold randSteps
  split
  · decide
  · split
    · decide
    · rename_i h0 h1
      cases x with
      | finite x =>
        have hu : x.units < unitsPerOne := by
          rw [Binary64.one_eq] at h1
          have := mt Binary64.finite_le_finite.2 h1
          rw [Finite.units_one] at this
          omega
        have hz : 0 ≤ x.units := by
          have := mt (Binary64.finite_le_finite (y := .zero false)).2 (not_or.1 h0).2
          rw [Finite.units_zero] at this
          omega
        rw [Finite.units_eq_magnitude hz] at hu
        show x.truncatedSteps randPlaces < _
        have hm : x.magnitude * 10 ^ randPlaces < unitsPerOne * 10 ^ randPlaces :=
          Nat.mul_lt_mul_of_pos_right (by omega) (Nat.pow_pos (by decide))
        exact Nat.div_lt_of_lt_mul hm
      | nan => exact Nat.pow_pos (by decide)
      | infinite => exact Nat.pow_pos (by decide)

theorem randSteps_of_isFraction {x : Finite} (h0 : 0 ≤ x.units) (h1 : x.units < unitsPerOne) :
    randSteps (.finite x) = x.truncatedSteps randPlaces := by
  have hone : ¬Binary64.one ≤ .finite x := by
    rw [Binary64.one_eq, Binary64.finite_le_finite, Finite.units_one]; omega
  unfold randSteps
  split
  · rename_i h
    have hz : x.units ≤ 0 := by
      rcases h with h | h
      · cases h
      · exact (Binary64.finite_le_finite (y := .zero false)).1 h
    have hm : x.magnitude = 0 := by rw [Finite.units_eq_magnitude h0] at hz; omega
    rw [Finite.truncatedSteps, hm, Nat.zero_mul, Nat.zero_div]
  · rfl

theorem ofText?_pointed_randPlaces (k : Nat) : Binary64.ofText? (pointed k randPlaces) = some (gridPoint k) :=
  ofText?_pointed false k randPlaces (by decide)

theorem quantize_eq_gridPoint (x : Binary64) : quantize x = gridPoint (randSteps x) := by
  rw [quantize, randChars, ofText?_pointed_randPlaces, Option.getD_some]

/-! ## Where the points of the grid lie -/

/-- How far rounding can go, in a binade of at most `k` excess bits. -/
theorem roundedUnits_near (num den k : Nat) (hd : 0 < den) (h : num < 2 ^ (53 + k) * den) :
    2 * (roundedUnits num den * den) ≤ 2 * num + den * 2 ^ k ∧
      2 * num ≤ 2 * (roundedUnits num den * den) + den * 2 ^ k := by
  have he : excessBits (num / den) ≤ k := excessBits_le ((Nat.div_lt_iff_lt_mul hd).2 h)
  have hk : den * 2 ^ excessBits (num / den) ≤ den * 2 ^ k :=
    Nat.mul_le_mul_left _ (Nat.pow_le_pow_right (by decide) he)
  have hD : 0 < den * 2 ^ excessBits (num / den) := Nat.mul_pos hd (Nat.two_pow_pos _)
  have h1 := roundHalfEven_lower num (den * 2 ^ excessBits (num / den))
  have h2 := roundHalfEven_upper num hD
  have e : roundedUnits num den * den =
      roundHalfEven num (den * 2 ^ excessBits (num / den)) * (den * 2 ^ excessBits (num / den)) := by
    rw [roundedUnits]; ring
  rw [← e] at h1 h2
  omega

/-- A point of the grid lies below one, so at most 1021 bits are cut off. -/
theorem roundedUnits_gap {k : Nat} (hk : k < 10 ^ randPlaces) :
    2 * (roundedUnits (k * unitsPerOne) (10 ^ randPlaces) * 10 ^ randPlaces) ≤
        2 * (k * unitsPerOne) + 10 ^ randPlaces * 2 ^ 1021 ∧
      2 * (k * unitsPerOne) ≤
        2 * (roundedUnits (k * unitsPerOne) (10 ^ randPlaces) * 10 ^ randPlaces) + 10 ^ randPlaces * 2 ^ 1021 := by
  have hu := @two_pow_mul_two_pow 53 1021 rfl
  have hlt : k * unitsPerOne < 2 ^ (53 + 1021) * 10 ^ randPlaces := by
    rw [Nat.pow_add 2 53 1021, hu, Nat.mul_comm unitsPerOne]
    exact Nat.mul_lt_mul_of_pos_right hk unitsPerOne_pos
  exact roundedUnits_near (k * unitsPerOne) (10 ^ randPlaces) 1021 (Nat.pow_pos (by decide)) hlt

theorem roundedUnits_step {k : Nat} (hk : k < 10 ^ randPlaces) :
    16384 * (2 * (roundedUnits (k * unitsPerOne) (10 ^ randPlaces) * 10 ^ randPlaces)) ≤
        16384 * (2 * (k * unitsPerOne)) + unitsPerOne ∧
      16384 * (2 * (k * unitsPerOne)) ≤
        16384 * (2 * (roundedUnits (k * unitsPerOne) (10 ^ randPlaces) * 10 ^ randPlaces)) + unitsPerOne := by
  have hu : 2 ^ 53 * 2 ^ 1021 = unitsPerOne := two_pow_mul_two_pow (a := 53) (b := 1021) rfl
  have h := roundedUnits_gap hk
  rw [ten_pow_randPlaces] at h ⊢
  generalize 2 ^ 1021 = gap at h hu
  omega

theorem exists_gridPoint {k : Nat} (hk : k < 10 ^ randPlaces) :
    ∃ f : Finite, gridPoint k = .finite f ∧ f.negative = false ∧
      f.magnitude = roundedUnits (k * unitsPerOne) (10 ^ randPlaces) := by
  rw [gridPoint_eq_ofUnits]
  rcases Binary64.ofUnits_cases false (k * unitsPerOne) (10 ^ randPlaces) with ⟨f, hf⟩ | ⟨-, hbig⟩
  · exact ⟨f, hf⟩
  · have hone : roundedUnits (k * unitsPerOne) (10 ^ randPlaces) ≤ unitsPerOne := by
      rw [← Finite.magnitude_one]
      refine roundedUnits_le Finite.one.representable (Nat.pow_pos (by decide)) ?_
      rw [Finite.magnitude_one, Nat.mul_comm]
      exact Nat.mul_le_mul_left _ (Nat.le_of_lt hk)
    have := Finite.one.magnitude_lt
    rw [Finite.magnitude_one] at this
    omega

theorem gridPoint_isFraction {k : Nat} (hk : k < 10 ^ randPlaces) : (gridPoint k).isFraction = true := by
  obtain ⟨f, hf, hn, hm⟩ := exists_gridPoint hk
  refine Binary64.isFraction_iff.2 ⟨f, hf, ?_, ?_⟩
  · rw [Finite.units_of_nonneg hn]; omega
  · have h := (roundedUnits_step hk).1
    have hpos := unitsPerOne_pos
    rw [ten_pow_randPlaces] at hk h hm
    have hle : k * unitsPerOne ≤ 999999 * unitsPerOne := Nat.mul_le_mul_right _ (by omega)
    rw [Finite.units_of_nonneg hn, hm]
    omega

theorem roundedSteps_of_gridPoint {k : Nat} (hk : k < 10 ^ randPlaces) {f : Finite} (hf : gridPoint k = .finite f) :
    f.roundedSteps randPlaces = k := by
  obtain ⟨g, hg, -, hm⟩ := exists_gridPoint hk
  obtain rfl : f = g := by rw [hf] at hg; exact Binary64.finite.inj hg
  have h := roundedUnits_step hk
  have hpos := unitsPerOne_pos
  have hmul : (2 * k + 1) * unitsPerOne = 2 * (k * unitsPerOne) + unitsPerOne := by ring
  have hmul' : 2 * k * unitsPerOne = 2 * (k * unitsPerOne) := Nat.mul_assoc ..
  rw [Finite.roundedSteps, hm]
  refine Nat.le_antisymm (roundHalfEven_le_of hpos ?_ ?_) (le_roundHalfEven_of hpos ?_ ?_)
  · rw [hmul]; omega
  · rw [hmul]; omega
  · rw [hmul']; omega
  · rw [hmul']; omega

theorem quantize_isFraction (x : Binary64) : (quantize x).isFraction = true := by
  rw [quantize_eq_gridPoint]; exact gridPoint_isFraction (randSteps_lt x)

section
variable {j k : Nat} {x : Finite}

theorem gridPoint_le (hk : k < 10 ^ randPlaces) (h0 : 0 ≤ x.units)
    (h : k * unitsPerOne ≤ x.magnitude * 10 ^ randPlaces) : gridPoint k ≤ .finite x := by
  obtain ⟨f, hf, hn, hm⟩ := exists_gridPoint hk
  rw [hf, Binary64.finite_le_finite, Finite.units_of_nonneg hn, hm, Finite.units_eq_magnitude h0]
  exact Int.ofNat_le.2 (roundedUnits_le x.representable (Nat.pow_pos (by decide)) h)

theorem le_gridPoint (hk : k < 10 ^ randPlaces) (h0 : 0 ≤ x.units)
    (h : x.magnitude * 10 ^ randPlaces ≤ k * unitsPerOne) : .finite x ≤ gridPoint k := by
  obtain ⟨f, hf, hn, hm⟩ := exists_gridPoint hk
  rw [hf, Binary64.finite_le_finite, Finite.units_of_nonneg hn, hm, Finite.units_eq_magnitude h0]
  exact Int.ofNat_le.2 (le_roundedUnits x.representable (Nat.pow_pos (by decide)) h)

theorem gridPoint_le_gridPoint (h : j ≤ k) (hk : k < 10 ^ randPlaces) : gridPoint j ≤ gridPoint k := by
  obtain ⟨f, hf, hfn, hfm⟩ := exists_gridPoint (Nat.lt_of_le_of_lt h hk)
  obtain ⟨g, hg, hgn, hgm⟩ := exists_gridPoint hk
  have hten : 0 < 10 ^ randPlaces := Nat.pow_pos (by decide)
  rw [hf, hg, Binary64.finite_le_finite, Finite.units_of_nonneg hfn, Finite.units_of_nonneg hgn, hfm, hgm]
  refine Int.ofNat_le.2 (roundedUnits_mono hten hten ?_)
  exact Nat.mul_le_mul_right _ (Nat.mul_le_mul_right _ h)

end

theorem quantize_le {x : Binary64} (h : x.isFraction = true) : quantize x ≤ x := by
  obtain ⟨f, rfl, h0, h1⟩ := Binary64.isFraction_iff.1 h
  have hk := randSteps_lt (.finite f)
  rw [quantize_eq_gridPoint]
  rw [randSteps_of_isFraction h0 h1] at hk ⊢
  exact gridPoint_le hk h0 (Nat.div_mul_le_self ..)

theorem le_quantize_of_lt_steps {x y : Binary64} (hx : x.isFraction = true)
    (h : randSteps x < randSteps y) : x ≤ quantize y := by
  obtain ⟨f, rfl, h0, h1⟩ := Binary64.isFraction_iff.1 hx
  rw [randSteps_of_isFraction h0 h1, Finite.truncatedSteps, Nat.div_lt_iff_lt_mul unitsPerOne_pos] at h
  rw [quantize_eq_gridPoint]
  exact le_gridPoint (randSteps_lt y) h0 (Nat.le_of_lt h)

theorem randSteps_mono {x y : Binary64} (hx : x.isFraction = true) (hy : y.isFraction = true) (h : x ≤ y) :
    randSteps x ≤ randSteps y := by
  obtain ⟨f, rfl, hf0, hf1⟩ := Binary64.isFraction_iff.1 hx
  obtain ⟨g, rfl, hg0, hg1⟩ := Binary64.isFraction_iff.1 hy
  rw [Binary64.finite_le_finite, Finite.units_eq_magnitude hf0, Finite.units_eq_magnitude hg0] at h
  rw [randSteps_of_isFraction hf0 hf1, randSteps_of_isFraction hg0 hg1]
  exact Nat.div_le_div_right (Nat.mul_le_mul_right _ (Int.ofNat_le.1 h))

end TraceRelay
