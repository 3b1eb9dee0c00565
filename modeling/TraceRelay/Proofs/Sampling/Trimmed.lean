import TraceRelay.Proofs.Sampling.Truncation

/-!
# Values on the grid are written back

A random value is written with the rounded places if these denote the value itself, else with the places it
is cut off to. So the numbers of the grid keep their value, and no other number does
(`ofText?_trimmedRandText`); to be the number of a step is to be nearest to that step
(`exists_gridPoint_iff`).
-/

namespace TraceRelay

open Binary64

/-- `text` is `full` without the zeros at its end; the first place stays. -/
def WithoutZeros (full text : String) : Prop :=
  ∃ ds j, full = String.ofList ('0' :: '.' :: (ds ++ List.replicate j '0')) ∧
    text = String.ofList ('0' :: '.' :: ds) ∧ ds ≠ [] ∧ (ds.getLast? = some '0' → ds = ['0'])

theorem withoutZeros_trimZeros {k places : Nat} (hp : 0 < places) (hk : k < 10 ^ places) :
    WithoutZeros (String.ofList (pointed k places)) (String.ofList (trimZeros (pointed k places))) := by
  obtain ⟨hdigits, hlen, -⟩ := places_spec k hp
  have hne : (Nat.toDigits 10 (k % 10 ^ places)).leftpad places '0' ≠ [] := by
    intro h
    rw [h, List.length_nil] at hlen
    omega
  obtain ⟨ds, j, hds, hlast, hfull, htrim⟩ := trimZeros_point ['0'] _ hne hdigits
  have hpointed : pointed k places = ['0'] ++ '.' :: (Nat.toDigits 10 (k % 10 ^ places)).leftpad places '0' := by
    rw [pointed, Nat.div_eq_of_lt hk, Nat.toDigits_zero]
  refine ⟨ds, j, ?_, ?_, hds, hlast⟩
  · rw [hpointed, hfull]
    rfl
  · rw [hpointed, htrim]
    rfl

theorem lt_of_gridPoint_lt_one {k : Nat} (h : gridPoint k < one) : k < 10 ^ randPlaces := by
  by_contra hk
  rw [gridPoint_eq_ofUnits] at h
  rcases ofUnits_cases false (k * unitsPerOne) (10 ^ randPlaces) with ⟨x, hx, hn, hm⟩ | ⟨hx, -⟩
  · have hle : Finite.one.magnitude ≤ x.magnitude := by
      rw [hm]
      refine le_roundedUnits Finite.one.representable (Nat.pow_pos (by decide)) ?_
      rw [Finite.magnitude_one, Nat.mul_comm]
      exact Nat.mul_le_mul_right _ (Nat.le_of_not_lt hk)
    rw [hx, one_eq, finite_lt_finite, Finite.units_of_nonneg hn, Finite.units_one] at h
    rw [Finite.magnitude_one] at hle
    omega
  · rw [hx, one_eq] at h
    cases h

theorem eq_of_sameValue {w : Binary64} {x : Finite} (h : w.sameValue (.finite x) = true) (hx : 0 < x.units) :
    w = .finite x := by
  obtain ⟨h1, h2⟩ := Bool.and_eq_true_iff.1 h
  cases w with
  | nan => cases h1
  | infinite negative => cases negative <;> simp [le] at h1 h2
  | finite z =>
    have hu : x.units = z.units := Int.le_antisymm (finite_le_finite.1 h2) (finite_le_finite.1 h1)
    rw [Finite.eq_of_units hx hu]

variable {x : Finite}

theorem fixedRandChars_of_not_gridPoint (hx : 0 < x.units) (h : ∀ k, gridPoint k ≠ .finite x) :
    fixedRandChars (.finite x) = randChars (.finite x) := by
  have hread : ofText? (x.fixed randPlaces) = some (gridPoint (x.roundedSteps randPlaces)) := by
    rw [Finite.fixed, Finite.negative_of_units_pos hx, signText, if_neg Bool.false_ne_true, List.nil_append,
      ofText?_pointed_randPlaces]
  have hsame : ¬(gridPoint (x.roundedSteps randPlaces)).sameValue (.finite x) = true := fun hsame =>
    h _ (eq_of_sameValue hsame hx)
  show (if _ && (ofText? (x.fixed randPlaces)).any (·.sameValue (.finite x)) then _ else randChars (.finite x)) = _
  rw [hread, Option.any_some, if_neg fun hand => hsame (Bool.and_eq_true_iff.1 hand).2]

theorem ofText?_trimmedRandText (h0 : 0 < x.units) (h1 : x.units < unitsPerOne) :
    ∃ k, ofText? (trimmedRandText (.finite x)).toList = some (gridPoint k) ∧ k < 10 ^ randPlaces ∧
      gridPoint k ≤ .finite x ∧ (gridPoint k = .finite x ↔ ∃ j, gridPoint j = .finite x) := by
  have hread := fun k => ofText?_trimZeros_pointed k randPlaces (by decide)
  rw [trimmedRandText, String.toList_ofList]
  by_cases h : ∃ k, gridPoint k = .finite x
  · obtain ⟨k, hk⟩ := h
    have hone : gridPoint k < one := by rwa [hk, one_eq, finite_lt_finite, Finite.units_one]
    have hlt := lt_of_gridPoint_lt_one hone
    rw [← hk, fixedRandChars_gridPoint hlt]
    refine ⟨k, hread k, hlt, ?_, fun _ => ⟨k, rfl⟩, fun _ => rfl⟩
    rw [hk]
    exact finite_le_finite.2 (Int.le_refl _)
  · have hfrac : (finite x).isFraction = true := isFraction_iff.2 ⟨x, rfl, Int.le_of_lt h0, h1⟩
    rw [fixedRandChars_of_not_gridPoint h0 fun k hk => h ⟨k, hk⟩]
    refine ⟨randSteps (.finite x), hread _, randSteps_lt _, ?_, fun hk => ⟨_, hk⟩, fun hk => absurd hk h⟩
    rw [← quantize_eq_gridPoint]
    exact quantize_le hfrac

/-! ## Nearest numbers -/

theorem stepValue_zero : stepValue 0 = 0 := by rw [stepValue, Int.cast_zero, zero_div]

theorem stepValue_all : stepValue (10 ^ randPlaces : Nat) = 1 := by
  rw [stepValue, Int.cast_natCast, div_self stepsPerOne_pos.ne']

namespace Finite

theorem IsNearest.pos {q : ℚ} (h : x.IsNearest q) (hx : 0 < x.toRat) : 0 < q := by
  by_contra hq
  have hzero : (zero false).toRat = 0 := toRat_eq_zero.2 (units_zero false)
  have hle := h (.zero false)
  rw [hzero, abs_of_nonneg (by linarith), abs_of_nonneg (by linarith)] at hle
  linarith

theorem IsNearest.lt_one {q : ℚ} (h : x.IsNearest q) (hx : x.toRat < 1) : q < 1 := by
  by_contra hq
  have hone : one.toRat = 1 := toRat_eq_one.2 units_one
  have hle := h .one
  rw [hone, abs_of_nonpos (by linarith), abs_of_nonpos (by linarith)] at hle
  linarith

theorem IsNearest.eq_or_add_eq {y : Finite} {q : ℚ} (hx : x.IsNearest q) (hy : y.IsNearest q) :
    x.toRat = y.toRat ∨ x.toRat + y.toRat = 2 * q := by
  rcases abs_eq_abs.1 (le_antisymm (hx y) (hy x)) with h | h
  · left
    linarith
  · right
    linarith

end Finite

/-- If the value of a step lies midway between two numbers, the step is a whole number of sixty-fourths. -/
theorem five_pow_dvd_of_midway {y : Finite} {k : Nat} (h : x.toRat + y.toRat = 2 * stepValue k) : 5 ^ 6 ∣ k := by
  have hcross : (x.units + y.units) * 10 ^ 6 = (2 * k * unitsPerOne : Nat) := by
    have hone := unitsPerOne_cast_pos.ne'
    rw [Finite.toRat, Finite.toRat, stepValue, ten_pow_randPlaces] at h
    generalize unitsPerOne = units at *
    field_simp at h
    push_cast at h
    have hcast : ((x.units + y.units) * 10 ^ 6 : ℚ) = 2 * k * units := by linarith
    exact_mod_cast hcast
  have hdvd : (5 ^ 6 : ℤ) ∣ (2 * k * unitsPerOne : Nat) :=
    ⟨(x.units + y.units) * 2 ^ 6, by rw [← hcross]; ring⟩
  have hcoprime : Nat.Coprime (5 ^ 6) unitsPerOne := by
    unfold unitsPerOne
    generalize 1074 = n
    exact Nat.Coprime.pow 6 n (by decide)
  have hdvd' : 5 ^ 6 ∣ 2 * k := hcoprime.dvd_of_dvd_mul_right (by exact_mod_cast hdvd)
  exact Nat.Coprime.dvd_of_dvd_mul_left (by decide) hdvd'

theorem gridPoint_exact {k : Nat} (hk : k < 10 ^ randPlaces) (h : 5 ^ 6 ∣ k) : (gridPoint k).toRat = stepValue k := by
  obtain ⟨j, rfl⟩ := h
  obtain ⟨f, hf, hn, hm⟩ := exists_gridPoint hk
  have hf0 : 0 ≤ f.units := by rw [Finite.units_of_nonneg hn]; exact Int.natCast_nonneg _
  have hten : 0 < 10 ^ randPlaces := Nat.pow_pos (by decide)
  have hone := @two_pow_mul_two_pow 1068 6 rfl
  have hunits : 5 ^ 6 * j * unitsPerOne = j * 2 ^ 1068 * 10 ^ randPlaces := by
    rw [← hone, ten_pow_randPlaces]
    generalize 2 ^ 1068 = gap
    ring
  have hj : j < 2 ^ 53 := by
    rw [ten_pow_randPlaces] at hk
    omega
  have hround : f.magnitude * 10 ^ randPlaces = 5 ^ 6 * j * unitsPerOne := by
    rw [hm, hunits, roundedUnits_exact ⟨j, 1068, hj, rfl⟩ hten]
  have hzero : |(f.magnitude * (10 ^ randPlaces : Nat) : ℤ) - (5 ^ 6 * j * unitsPerOne : Nat)| = 0 := by
    rw [← hround, Nat.cast_mul, sub_self, abs_zero]
  have hdist := Finite.abs_toRat_sub hf0 (5 ^ 6 * j * unitsPerOne) hten
  rw [← stepValue_eq, hzero, Int.cast_zero, zero_div] at hdist
  rw [hf, toRat_finite]
  exact sub_eq_zero.1 (abs_eq_zero.1 hdist)

theorem isNearest_of_gridPoint {k : Nat} (h : gridPoint k = .finite x) : x.IsNearest (stepValue k) := by
  rw [gridPoint_eq_ofUnits] at h
  rw [stepValue_eq]
  exact Finite.isNearest_of_ofUnits (Nat.pow_pos (by decide)) h

theorem gridPoint_of_isNearest {k : Nat} (hk : k < 10 ^ randPlaces) (h : x.IsNearest (stepValue k)) (hx : 0 < x.units) :
    gridPoint k = .finite x := by
  obtain ⟨f, hf, hn, -⟩ := exists_gridPoint hk
  have hnear := isNearest_of_gridPoint hf
  have heq : x.toRat = f.toRat := by
    rcases h.eq_or_add_eq hnear with h' | h'
    · exact h'
    · -- midway between two numbers there would be a third, and nearer
      have hexact := gridPoint_exact hk (five_pow_dvd_of_midway h')
      rw [hf, toRat_finite] at hexact
      linarith
  rw [hf, Finite.eq_of_units hx]
  have hle := Finite.toRat_le_toRat.1 (le_of_eq heq)
  have hge := Finite.toRat_le_toRat.1 (le_of_eq heq.symm)
  omega

theorem exists_gridPoint_iff (h0 : 0 < x.units) (h1 : x.units < unitsPerOne) :
    (∃ k, gridPoint k = .finite x) ↔ ∃ k : ℤ, x.IsNearest (stepValue k) := by
  constructor
  · rintro ⟨k, hk⟩
    exact ⟨k, isNearest_of_gridPoint hk⟩
  · rintro ⟨k, hk⟩
    have hzero : (Finite.zero false).toRat = 0 := Finite.toRat_eq_zero.2 (Finite.units_zero false)
    have hone : Finite.one.toRat = 1 := Finite.toRat_eq_one.2 Finite.units_one
    have hpos := hk.pos (hzero ▸ Finite.toRat_lt_toRat.2 (by rwa [Finite.units_zero]))
    have hlt := hk.lt_one (hone ▸ Finite.toRat_lt_toRat.2 (by rwa [Finite.units_one]))
    rw [← stepValue_zero] at hpos
    rw [← stepValue_all] at hlt
    have hpos' := not_le.1 (mt stepValue_le_stepValue.2 (not_le.2 hpos))
    have hlt' := not_le.1 (mt stepValue_le_stepValue.2 (not_le.2 hlt))
    obtain ⟨k, rfl⟩ := Int.eq_ofNat_of_zero_le (Int.le_of_lt hpos')
    exact ⟨k, gridPoint_of_isNearest (Int.ofNat_lt.1 hlt') hk h0⟩

/-! ## All numbers -/

/-- What a number is cut off to is written as the places it was cut off to, without needless zeros, and is read
back. A number between zero and one is written so that what is read lies at or below it, and is the number
itself exactly if that is nearest to a millionth of some whole number. -/
theorem trimmed_is_stable (x : Binary64) :
    WithoutZeros (randText x) (trimmedRandText (quantize x)) ∧
    ofText? (trimmedRandText (quantize x)).toList = some (quantize x) ∧
    ∀ f : Finite, x = .finite f → zero < x → x < one →
      ∃ v, ofText? (trimmedRandText x).toList = some v ∧ zero ≤ v ∧ v ≤ x ∧
        (v = x ↔ ∃ k : ℤ, f.IsNearest (stepValue k)) := by
  refine ⟨?_, ?_, ?_⟩
  · rw [trimmedRandText, fixedRandChars_quantize]
    exact withoutZeros_trimZeros (by decide) (randSteps_lt x)
  · rw [trimmedRandText, String.toList_ofList, fixedRandChars_quantize, quantize_eq_gridPoint]
    exact ofText?_trimZeros_pointed (randSteps x) randPlaces (by decide)
  · rintro f rfl h0 h1
    rw [zero, finite_lt_finite, Finite.units_zero] at h0
    rw [one_eq, finite_lt_finite, Finite.units_one] at h1
    obtain ⟨k, hread, hk, hle, heq⟩ := ofText?_trimmedRandText h0 h1
    exact ⟨gridPoint k, hread, zero_le_of_isFraction (gridPoint_isFraction hk), hle,
      heq.trans (exists_gridPoint_iff h0 h1)⟩

theorem three_tenths_are_written_back :
    (∃ f, Binary64.ofDecimal false 3 (-1) = .finite f ∧ zero < .ofDecimal false 3 (-1) ∧
      Binary64.ofDecimal false 3 (-1) < one ∧ trimmedRandText (.ofDecimal false 3 (-1)) = "0.3" ∧
      ∃ k : ℤ, f.IsNearest (stepValue k)) ∧
    ∃ f, Binary64.ofDecimal false 3 (-7) = .finite f ∧ zero < .ofDecimal false 3 (-7) ∧
      Binary64.ofDecimal false 3 (-7) < one ∧ trimmedRandText (.ofDecimal false 3 (-7)) = "0.0" ∧
      ¬∃ k : ℤ, f.IsNearest (stepValue k) := by
  have htext : trimmedRandText (.ofDecimal false 3 (-1)) = "0.3" := by decide +kernel
  have hread : ofText? "0.3".toList = some (.ofDecimal false 3 (-1)) := by decide +kernel
  have htext' : trimmedRandText (.ofDecimal false 3 (-7)) = "0.0" := by decide +kernel
  have hread' : ofText? "0.0".toList = some zero := by decide +kernel
  have h0 : zero < .ofDecimal false 3 (-1) := by decide +kernel
  have h1 : Binary64.ofDecimal false 3 (-1) < one := by decide +kernel
  have h0' : zero < .ofDecimal false 3 (-7) := by decide +kernel
  have h1' : Binary64.ofDecimal false 3 (-7) < one := by decide +kernel
  obtain ⟨f, hf, -, -⟩ := isFraction_iff.1 (isFraction_of_le_of_lt (le_of_lt h0) h1)
  obtain ⟨g, hg, -, -⟩ := isFraction_iff.1 (isFraction_of_le_of_lt (le_of_lt h0') h1')
  obtain ⟨v, hv, -, -, heq⟩ := (trimmed_is_stable (.ofDecimal false 3 (-1))).2.2 f hf h0 h1
  obtain ⟨w, hw, -, -, hne⟩ := (trimmed_is_stable (.ofDecimal false 3 (-7))).2.2 g hg h0' h1'
  rw [htext, hread, Option.some_inj] at hv
  rw [htext', hread', Option.some_inj] at hw
  refine ⟨⟨f, hf, h0, h1, htext, heq.1 hv.symm⟩, g, hg, h0', h1', htext', fun hk => ?_⟩
  rw [hw, hne.2 hk] at h0'
  exact not_lt_of_le (finite_le_finite.2 (Int.le_refl _)) (hg ▸ h0')

end TraceRelay
