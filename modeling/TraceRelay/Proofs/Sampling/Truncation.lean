import TraceRelay.Proofs.Binary64.Nearest
import TraceRelay.Proofs.Sampling.Filled

/-!
# Cutting off is exact

A random value is cut off on its exact value. To print eighty places and drop all but six of them gives the
same text, since rounding the last of eighty does not carry into the first six
(`Finite.randChars_eq_cutPlaces`). What a value is cut off to rises with it (`quantize_mono`), and lies less
than one step and the rounding of its number below it (`sub_quantize_lt`).
-/

namespace TraceRelay

open Binary64

/-- A number in positional notation without what stands behind its first `places` places. -/
def cutPlaces (places : Nat) (text : List Char) : List Char :=
  text.takeWhile (· != '.') ++ (text.dropWhile (· != '.')).take (places + 1)

theorem leftpad_toDigits_succ (n : Nat) {places : Nat} (hp : 0 < places) :
    (Nat.toDigits 10 n).leftpad (places + 1) '0' =
      (Nat.toDigits 10 (n / 10)).leftpad places '0' ++ [(n % 10).digitChar] := by
  rcases Nat.lt_or_ge n 10 with h | h
  · -- the one digit stands behind zeros only
    obtain ⟨places, rfl⟩ := Nat.exists_eq_succ_of_ne_zero (Nat.ne_of_gt hp)
    rw [Nat.toDigits_of_lt_base h, Nat.div_eq_of_lt h, Nat.toDigits_zero, Nat.mod_eq_of_lt h]
    simp [List.leftpad, List.replicate_succ']
  · rw [Nat.toDigits_of_base_le (by decide) h]
    simp [List.leftpad]

theorem take_leftpad_toDigits (n : Nat) {places rest : Nat} (hp : 0 < places) (hn : n < 10 ^ (places + rest)) :
    ((Nat.toDigits 10 n).leftpad (places + rest) '0').take places =
      (Nat.toDigits 10 (n / 10 ^ rest)).leftpad places '0' := by
  induction rest generalizing n with
  | zero =>
    have hlen := (Nat.length_toDigits_le_iff (by decide) hp).2 hn
    rw [Nat.pow_zero, Nat.div_one, Nat.add_zero]
    exact List.take_of_length_le (by rw [List.length_leftpad]; omega)
  | succ rest ih =>
    have hlt : n / 10 < 10 ^ (places + rest) := Nat.div_lt_of_lt_mul (by rwa [← Nat.pow_succ'])
    have hlen : places ≤ ((Nat.toDigits 10 (n / 10)).leftpad (places + rest) '0').length := by
      rw [List.length_leftpad]; omega
    rw [← Nat.add_assoc, leftpad_toDigits_succ n (by omega), List.take_append_of_le_length hlen, ih _ hlt,
      Nat.div_div_eq_div_mul, ← Nat.pow_succ']

theorem cutPlaces_pointed (n : Nat) {places : Nat} (rest : Nat) (hp : 0 < places) :
    cutPlaces places (pointed n (places + rest)) = pointed (n / 10 ^ rest) places := by
  have hwhole : ∀ c ∈ Nat.toDigits 10 (n / 10 ^ (places + rest)), (c != '.') = true := fun c hc =>
    bne_iff_ne.2 fun h => by
      have := isDigit_of_mem_toDigits hc
      rw [h] at this
      exact absurd this (by decide)
  have hmod : n % 10 ^ (places + rest) / 10 ^ rest = n / 10 ^ rest % 10 ^ places := by
    rw [Nat.pow_add, Nat.mul_comm, Nat.mod_mul_right_div_self]
  have hlt := Nat.mod_lt n (Nat.pow_pos (n := places + rest) (show 0 < 10 by decide))
  unfold cutPlaces
  rw [pointed, (takeWhile_append_of_all (r := '.' :: _) hwhole rfl).1,
    (takeWhile_append_of_all (r := '.' :: _) hwhole rfl).2, List.take_succ_cons,
    take_leftpad_toDigits _ hp hlt, hmod, pointed, Nat.div_div_eq_div_mul, ← Nat.pow_add, Nat.add_comm rest]

/-! ## Eighty places -/

/-- So many places write every number exactly that does not lie below the first step. -/
def exactPlaces : Nat := 80

theorem randPlaces_add_rest : randPlaces + (exactPlaces - randPlaces) = exactPlaces := rfl

namespace Finite
variable {x : Finite}

theorem ten_pow_exactPlaces : 10 ^ exactPlaces = 10 ^ randPlaces * 10 ^ (exactPlaces - randPlaces) := by
  rw [← Nat.pow_add]
  rfl

theorem roundedSteps_mul (h : 994 ≤ x.shift) :
    x.roundedSteps exactPlaces * unitsPerOne = x.magnitude * 10 ^ exactPlaces := by
  have hshift : 2 ^ x.shift = 2 ^ (x.shift - 994) * 2 ^ 994 := (Nat.pow_sub_mul_pow 2 h).symm
  have hone := @two_pow_mul_two_pow 994 exactPlaces rfl
  have hten := two_pow_mul_five_pow exactPlaces
  have hexact : x.magnitude * 10 ^ exactPlaces =
      x.significand * 2 ^ (x.shift - 994) * 5 ^ exactPlaces * unitsPerOne := by
    rw [magnitude, hshift, ← hten, ← hone]
    generalize 2 ^ 994 = gap
    ring
  rw [roundedSteps, hexact, roundHalfEven_mul _ unitsPerOne_pos]

theorem magnitude_lt_of_shift_lt (h : x.shift < 994) : x.magnitude * 2 ^ 28 < unitsPerOne := calc
  x.magnitude * 2 ^ 28 < 2 ^ 53 * 2 ^ x.shift * 2 ^ 28 :=
    Nat.mul_lt_mul_of_pos_right
      (Nat.mul_lt_mul_of_pos_right x.significand_lt (Nat.two_pow_pos _)) (Nat.two_pow_pos _)
  _ = 2 ^ (53 + x.shift + 28) := by rw [← Nat.pow_add, ← Nat.pow_add]
  _ ≤ unitsPerOne := two_pow_le_unitsPerOne (by omega)

/-- Rounding to eighty places does not carry into the first six. -/
theorem roundedSteps_div (x : Finite) :
    x.roundedSteps exactPlaces / 10 ^ (exactPlaces - randPlaces) = x.truncatedSteps randPlaces := by
  have hten := ten_pow_exactPlaces
  have hrest : 1 < 10 ^ (exactPlaces - randPlaces) := Nat.one_lt_pow (by decide) (by decide)
  rcases Nat.lt_or_ge x.shift 994 with hs | hs
  · -- such a number lies so far below the first step that rounding does not reach it
    have hsmall := magnitude_lt_of_shift_lt hs
    have hround := roundHalfEven_le (x.magnitude * 10 ^ exactPlaces) unitsPerOne
    have hq : 2 ^ 28 * (x.magnitude * 10 ^ exactPlaces / unitsPerOne) < 10 ^ exactPlaces := by
      refine Nat.lt_of_le_of_lt (Nat.mul_div_le_mul_div_assoc ..) (Nat.div_lt_of_lt_mul ?_)
      rw [← Nat.mul_assoc, Nat.mul_comm (2 ^ 28)]
      exact Nat.mul_lt_mul_of_pos_right hsmall (Nat.pow_pos (by decide))
    have hfirst : x.magnitude * 10 ^ randPlaces < unitsPerOne :=
      Nat.lt_of_le_of_lt (Nat.mul_le_mul_left _ (by decide)) hsmall
    have hlast : roundHalfEven (x.magnitude * 10 ^ exactPlaces) unitsPerOne < 10 ^ (exactPlaces - randPlaces) := by
      rw [ten_pow_randPlaces] at hten
      generalize x.magnitude * 10 ^ exactPlaces / unitsPerOne = q at hround hq
      generalize 10 ^ (exactPlaces - randPlaces) = rest at hten hrest ⊢
      omega
    rw [roundedSteps, truncatedSteps, Nat.div_eq_of_lt hlast, Nat.div_eq_of_lt hfirst]
  · -- every other number has an exact text
    rw [← Nat.mul_div_mul_right _ _ unitsPerOne_pos, roundedSteps_mul hs, hten, ← Nat.mul_assoc,
      Nat.mul_comm _ unitsPerOne, Nat.mul_div_mul_right _ _ (Nat.lt_trans Nat.one_pos hrest)]
    rfl

theorem randChars_eq_cutPlaces (h0 : 0 < x.units) (h1 : x.units < unitsPerOne) :
    randChars (.finite x) = cutPlaces randPlaces (x.fixed exactPlaces) := by
  have hs := negative_of_units_pos h0
  have hplaces : 0 < randPlaces := by decide
  have hcut := cutPlaces_pointed (x.roundedSteps exactPlaces) (exactPlaces - randPlaces) hplaces
  rw [randPlaces_add_rest, roundedSteps_div] at hcut
  rw [randChars, randSteps_of_isFraction (Int.le_of_lt h0) h1, fixed, hs, signText, if_neg Bool.false_ne_true,
    List.nil_append, hcut]

end Finite

theorem randSteps_of_le_zero {x : Binary64} (h : x = .nan ∨ x ≤ zero) : randSteps x = 0 := if_pos h

theorem randSteps_of_one_le {x : Binary64} (h : one ≤ x) : randSteps x = 10 ^ randPlaces - 1 := by
  have hn : ¬(x = .nan ∨ x ≤ zero) := by
    rintro (rfl | h0)
    · rw [one_eq] at h
      cases h
    · exact not_lt_of_le (le_trans h h0) zero_lt_one
  exact (if_neg hn).trans (if_pos h)

theorem randSteps_le_randSteps {x y : Binary64} (h : x ≤ y) : randSteps x ≤ randSteps y := by
  by_cases hzx : zero < x
  · by_cases hyo : y < one
    · have hx := isFraction_of_le_of_lt (le_of_lt hzx) (lt_of_le_of_lt h hyo)
      have hy := isFraction_of_le_of_lt (le_trans (le_of_lt hzx) h) hyo
      exact randSteps_mono hx hy h
    · have hy : one ≤ y := by
        rcases not_lt_iff.1 hyo with rfl | hone | hle
        · cases x <;> cases h
        · rw [one_eq] at hone; cases hone
        · exact hle
      rw [randSteps_of_one_le hy]
      have := randSteps_lt x
      omega
  · have hx : x ≤ zero := by
      rcases not_lt_iff.1 hzx with hz | rfl | hle
      · cases hz
      · cases h
      · exact hle
    rw [randSteps_of_le_zero (.inr hx)]
    exact Nat.zero_le _

theorem quantize_mono {x y : Binary64} (h : x ≤ y) : quantize x ≤ quantize y := by
  rw [quantize_eq_gridPoint, quantize_eq_gridPoint]
  exact gridPoint_le_gridPoint (randSteps_le_randSteps h) (randSteps_lt y)

/-! ## How much is cut off -/

theorem stepValue_eq (k : Nat) :
    stepValue k = ((k * unitsPerOne : Nat) : ℚ) / (10 ^ randPlaces : Nat) / unitsPerOne := by
  rw [stepValue, Nat.cast_mul, Int.cast_natCast, mul_div_right_comm, mul_div_cancel_right₀ _ unitsPerOne_cast_pos.ne']

theorem abs_gridPoint_sub {k : Nat} (hk : k < 10 ^ randPlaces) :
    |(gridPoint k).toRat - stepValue k| ≤ 1 / 2 ^ 54 := by
  obtain ⟨f, hf, hn, hm⟩ := exists_gridPoint hk
  have hf0 : 0 ≤ f.units := by rw [Finite.units_of_nonneg hn]; exact Int.natCast_nonneg _
  have hone : (0 : ℚ) < (10 ^ randPlaces : Nat) * unitsPerOne := mul_pos stepsPerOne_pos unitsPerOne_cast_pos
  have hu : 2 ^ 1021 * 2 ^ 53 = unitsPerOne := two_pow_mul_two_pow (a := 1021) (b := 53) rfl
  obtain ⟨h1, h2⟩ := roundedUnits_gap hk
  rw [← hm] at h1 h2
  have hdist : |(f.magnitude * (10 ^ randPlaces : Nat) : ℤ) - (k * unitsPerOne : Nat)| * 2 ^ 54 ≤
      (10 ^ randPlaces : Nat) * unitsPerOne := by
    rw [Int.abs_eq_natAbs]
    rw [ten_pow_randPlaces] at *
    generalize 2 ^ 1021 = gap at *
    generalize unitsPerOne = units at *
    omega
  rw [hf, toRat_finite, stepValue_eq, Finite.abs_toRat_sub hf0 _ (Nat.pow_pos (by decide)),
    div_le_div_iff₀ hone (by norm_num), MulOneClass.one_mul]
  exact_mod_cast hdist

theorem toRat_lt_stepValue_add {x : Binary64} (h : x.isFraction = true) :
    x.toRat < stepValue (randSteps x) + 1 / 10 ^ 6 := by
  have hfloor := Int.lt_floor_add_one (x.toRat * (10 ^ randPlaces : Nat))
  rw [stepValue, randSteps_eq_floor h]
  rw [ten_pow_randPlaces] at hfloor ⊢
  push_cast at hfloor ⊢
  linarith

theorem sub_quantize_lt {x : Binary64} (h : x.isFraction = true) :
    x.toRat - (quantize x).toRat < 1 / 10 ^ 6 + 1 / 2 ^ 53 := by
  have hgap := toRat_lt_stepValue_add h
  have hnear := (abs_le.1 (abs_gridPoint_sub (randSteps_lt x))).1
  rw [← quantize_eq_gridPoint] at hnear
  linarith

theorem quantize_toRat_le {x : Binary64} (h : x.isFraction = true) : (quantize x).toRat ≤ x.toRat := by
  obtain ⟨f, hf, -, -⟩ := isFraction_iff.1 (quantize_isFraction x)
  obtain ⟨g, rfl, -, -⟩ := isFraction_iff.1 h
  have hle := quantize_le h
  rw [hf] at hle ⊢
  exact Finite.toRat_le_toRat.2 (finite_le_finite.1 hle)

/-- Every number is written as `0.` and six digits: what lies in `[0, 1)` by the last step at or below its exact
value, what lies above by the last step there is, what lies below and what is not a number by none. Six of
eighty printed places are the same digits. So what is written rises with the number, and falls short of it by
less than one step and the rounding of a number below one. -/
theorem truncation_is_exact (x : Binary64) :
    (∃ k : Nat, IsWritten (randText x) k ∧
      (x.isFraction = true → (k : ℤ) = ⌊x.toRat * 10 ^ 6⌋) ∧
      (one ≤ x → k = 999999) ∧
      (x = .nan ∨ x < zero → k = 0)) ∧
    (∀ f : Finite, x = .finite f → zero < x → x < one → randText x = String.ofList (cutPlaces 6 (f.fixed 80))) ∧
    (ofText? (randText x).toList = some (quantize x) ∧ (quantize x).isFraction = true) ∧
    (∀ y, x ≤ y → quantize x ≤ quantize y) ∧
    (x.isFraction = true →
      0 ≤ x.toRat - (quantize x).toRat ∧ x.toRat - (quantize x).toRat < 1 / 10 ^ 6 + 1 / 2 ^ 53) := by
  refine ⟨⟨randSteps x, isWritten_randText x, fun h => ?_, fun h => ?_, fun h => ?_⟩, ?_,
    ⟨?_, quantize_isFraction x⟩, fun y => quantize_mono,
    fun h => ⟨sub_nonneg.2 (quantize_toRat_le h), sub_quantize_lt h⟩⟩
  · rw [randSteps_eq_floor h, ten_pow_randPlaces]
    norm_num
  · rw [randSteps_of_one_le h]
    rfl
  · exact randSteps_of_le_zero (h.imp_right le_of_lt)
  · rintro f rfl h0 h1
    rw [zero, finite_lt_finite, Finite.units_zero] at h0
    rw [one_eq, finite_lt_finite, Finite.units_one] at h1
    exact congrArg String.ofList (Finite.randChars_eq_cutPlaces h0 h1)
  · rw [randText, String.toList_ofList, ofText?_randChars]

theorem three_tenths_are_cut_off :
    (Binary64.ofDecimal false 3 (-1)).isFraction = true ∧ zero < .ofDecimal false 3 (-1) ∧
      Binary64.ofDecimal false 3 (-1) < one ∧ Binary64.ofDecimal false 3 (-1) ≤ one ∧
      (∃ k : Nat, IsWritten "0.299999" k ∧ (k : ℤ) = ⌊(Binary64.ofDecimal false 3 (-1)).toRat * 10 ^ 6⌋) ∧
      quantize (.ofDecimal false 3 (-1)) ≤ quantize one ∧
      0 ≤ (Binary64.ofDecimal false 3 (-1)).toRat - (quantize (.ofDecimal false 3 (-1))).toRat := by
  have hfrac : (Binary64.ofDecimal false 3 (-1)).isFraction = true := by decide +kernel
  have hle : Binary64.ofDecimal false 3 (-1) ≤ one := by decide +kernel
  have htext : randText (.ofDecimal false 3 (-1)) = "0.299999" := by decide +kernel
  obtain ⟨⟨k, hk, hfloor, -, -⟩, -, -, hmono, hgap⟩ := truncation_is_exact (.ofDecimal false 3 (-1))
  exact ⟨hfrac, by decide +kernel, by decide +kernel, hle, ⟨k, htext ▸ hk, hfloor hfrac⟩, hmono _ hle,
    (hgap hfrac).1⟩

end TraceRelay
