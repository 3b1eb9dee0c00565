import TraceRelay.Binary64.Shortest
import TraceRelay.Proofs.Binary64.Reading

/-!
# The shortest digits are read back

The search for the shortest digits ends on a grid point in the basin of the number, whatever the
grid (`digitsFrom_spec`), and whatever lies in the basin is rounded to the number
(`roundedUnits_of_basin`). So the text of a finite number that has a point and no exponent denotes
that number (`ofText?_text_rate`).
-/

namespace TraceRelay

theorem le_excessBits {n k : Nat} (h : 2 ^ (52 + k) ≤ n) : k ≤ excessBits n := by
  have hn : n ≠ 0 := by have := Nat.two_pow_pos (52 + k); omega
  have : 52 + k ≤ n.log2 := (Nat.le_log2 hn).2 h
  unfold excessBits; omega

theorem roundedUnits_eq_of {num den n k : Nat} (hd : 0 < den) (hlow : k = 0 ∨ 2 ^ (52 + k) * den ≤ num)
    (hhigh : num < 2 ^ (53 + k) * den) (h1 : 2 * n * (den * 2 ^ k) ≤ 2 * num + den * 2 ^ k)
    (h2 : 2 * num ≤ (2 * n + 1) * (den * 2 ^ k))
    (ht : 2 * n * (den * 2 ^ k) = 2 * num + den * 2 ^ k ∨ 2 * num = (2 * n + 1) * (den * 2 ^ k) → n % 2 = 0) :
    roundedUnits num den = n * 2 ^ k := by
  have he : excessBits (num / den) = k := by
    refine Nat.le_antisymm (excessBits_le ?_) ?_
    · exact (Nat.div_lt_iff_lt_mul hd).2 hhigh
    · rcases hlow with rfl | hlow
      · exact Nat.zero_le _
      · exact le_excessBits ((Nat.le_div_iff_mul_le hd).2 hlow)
  have hD : 0 < den * 2 ^ k := Nat.mul_pos hd (Nat.two_pow_pos k)
  rw [roundedUnits, he, Nat.le_antisymm (roundHalfEven_le_of hD h2 fun h => ht (.inr h))
    (le_roundHalfEven_of hD h1 fun h => ht (.inl h))]

namespace Finite

/-- How far the basin reaches down, in quarters of the last place: at the start of a binade the
lower neighbour is only half as far away. -/
def reach (x : Finite) : Nat := if x.significand = 2 ^ 52 ∧ x.shift ≠ 0 then 1 else 2

theorem reach_le (x : Finite) : x.reach ≤ 2 := by unfold reach; split <;> omega

theorem basin_iff (x : Finite) (n : Nat) :
    x.basin n = true ↔ (4 * x.significand - x.reach) * x.quarterGap ≤ n ∧
      n ≤ (4 * x.significand + 2) * x.quarterGap ∧
      ((4 * x.significand - x.reach) * x.quarterGap = n ∨ n = (4 * x.significand + 2) * x.quarterGap →
        x.significand % 2 = 0) := by
  have e1 : x.quarters - x.reach * x.quarterGap = (4 * x.significand - x.reach) * x.quarterGap :=
    (Nat.sub_mul ..).symm
  have e2 : x.quarters + 2 * x.quarterGap = (4 * x.significand + 2) * x.quarterGap :=
    (Nat.add_mul ..).symm
  have e0 : x.basin n = if x.significand % 2 = 0 then
        decide (x.quarters - x.reach * x.quarterGap ≤ n) && decide (n ≤ x.quarters + 2 * x.quarterGap)
      else decide (x.quarters - x.reach * x.quarterGap < n) && decide (n < x.quarters + 2 * x.quarterGap) := rfl
  rw [e0, e1, e2]
  generalize (4 * x.significand - x.reach) * x.quarterGap = low
  generalize (4 * x.significand + 2) * x.quarterGap = high
  by_cases hs : x.significand % 2 = 0
  · simp [hs]
  · simp only [hs, if_false, Bool.and_eq_true, decide_eq_true_eq]
    clear e0 e1 e2
    constructor
    · intro h
      exact ⟨by omega, by omega, by omega⟩
    · rintro ⟨h1, h2, h3⟩
      have h3 := not_or.1 h3
      omega

theorem roundedUnits_of_basin (x : Finite) {num den : Nat} (hd : 0 < den)
    (hlow : (4 * x.significand - x.reach) * (den * 2 ^ x.shift) ≤ 4 * num)
    (hhigh : 4 * num ≤ (4 * x.significand + 2) * (den * 2 ^ x.shift))
    (ht : (4 * x.significand - x.reach) * (den * 2 ^ x.shift) = 4 * num ∨
      4 * num = (4 * x.significand + 2) * (den * 2 ^ x.shift) → x.significand % 2 = 0) :
    roundedUnits num den = x.magnitude := by
  have hlt := x.significand_lt
  have hreach := x.reach_le
  have hD : 0 < den * 2 ^ x.shift := Nat.mul_pos hd (Nat.two_pow_pos _)
  have hpow : ∀ j, 2 ^ (j + x.shift) * den = 2 ^ j * (den * 2 ^ x.shift) := fun j => by ring
  by_cases hb : x.shift = 0 ∨ 2 ^ 52 * (den * 2 ^ x.shift) ≤ num
  · have hsub : (4 * x.significand - x.reach) * (den * 2 ^ x.shift) =
        4 * (x.significand * (den * 2 ^ x.shift)) - x.reach * (den * 2 ^ x.shift) := by
      rw [Nat.sub_mul, Nat.mul_assoc]
    have hadd : (4 * x.significand + 2) * (den * 2 ^ x.shift) =
        4 * (x.significand * (den * 2 ^ x.shift)) + 2 * (den * 2 ^ x.shift) := by ring
    have hmul : (2 * x.significand + 1) * (den * 2 ^ x.shift) =
        2 * (x.significand * (den * 2 ^ x.shift)) + den * 2 ^ x.shift := by ring
    have hr : x.reach * (den * 2 ^ x.shift) ≤ 2 * (den * 2 ^ x.shift) := Nat.mul_le_mul_right _ hreach
    have hmax : x.significand * (den * 2 ^ x.shift) ≤ (2 ^ 53 - 1) * (den * 2 ^ x.shift) :=
      Nat.mul_le_mul_right _ (by omega)
    rw [hsub] at hlow ht
    rw [hadd] at hhigh ht
    refine roundedUnits_eq_of hd ?_ ?_ ?_ ?_ ?_
    · rwa [hpow]
    · rw [hpow]; omega
    · rw [Nat.mul_assoc]; omega
    · rw [hmul]; omega
    · rw [hmul, Nat.mul_assoc]; intro h; exact ht (by omega)
  · -- below the first number of a binade, where the steps are half as long
    have hk : x.shift ≠ 0 := fun h => hb (.inl h)
    have hn : num < 2 ^ 52 * (den * 2 ^ x.shift) := Nat.lt_of_not_le fun h => hb (.inr h)
    have hs : x.significand = 2 ^ 52 := by
      have hc := x.canonical.resolve_left hk
      have : 4 * x.significand - x.reach < 4 * 2 ^ 52 :=
        Nat.lt_of_mul_lt_mul_right (Nat.lt_of_le_of_lt hlow (by rw [Nat.mul_assoc]; omega))
      omega
    have hr : x.reach = 1 := if_pos ⟨hs, hk⟩
    obtain ⟨k, hk⟩ := Nat.exists_eq_succ_of_ne_zero hk
    have hD2 : den * 2 ^ x.shift = 2 * (den * 2 ^ k) := by rw [hk, Nat.pow_succ]; ring
    have hpow : ∀ j, 2 ^ (j + k) * den = 2 ^ j * (den * 2 ^ k) := fun j => by ring
    have hm : x.magnitude = 2 ^ 53 * 2 ^ k := by
      rw [magnitude, hs, hk, ← Nat.pow_add, ← Nat.pow_add, Nat.succ_eq_add_one]; congr 1; omega
    rw [hs, hr, hD2] at hlow
    rw [hD2] at hn
    rw [hm]
    refine roundedUnits_eq_of hd ?_ ?_ ?_ ?_ fun _ => by decide
    · rw [hpow]; omega
    · rw [hpow]; omega
    · omega
    · omega

/-! ## The search -/

theorem quarterGap_pos (x : Finite) : 0 < x.quarterGap := by
  unfold quarterGap
  generalize 1074 = k
  exact Nat.mul_pos (Nat.two_pow_pos _) (Nat.pow_pos (by decide))

theorem basin_quarters (x : Finite) : x.basin x.quarters = true := by
  have hg := x.quarterGap_pos
  have hr := x.reach_le
  have h1 : 1 ≤ x.reach := by unfold reach; split <;> omega
  rw [basin_iff]
  refine ⟨Nat.mul_le_mul_right _ (by omega), Nat.mul_le_mul_right _ (by omega), ?_⟩
  rintro (h | h) <;> have := Nat.eq_of_mul_eq_mul_right hg h <;> omega

theorem basin_of_onGrid? {x : Finite} {up : Bool} {j n : Nat} (h : x.onGrid? up j = some n) :
    x.basin (n * (4 * 10 ^ j)) = true := by
  unfold onGrid? at h
  simp only at h
  split at h <;> rename_i h1 h2
  · split at h <;> cases h
    · exact h2
    · exact h1
  · cases h; exact h1
  · cases h; exact h2
  · cases h

theorem digitsFrom_spec (x : Finite) (up : Bool) : ∀ j, ∃ n i : Nat, x.digitsFrom up j = (n, (i : Int) - 1074) ∧
    x.basin (n * (4 * 10 ^ i)) = true
  | 0 => by
    refine ⟨x.magnitude * 5 ^ 1074, 0, rfl, ?_⟩
    have e : x.magnitude * 5 ^ 1074 * (4 * 10 ^ 0) = x.quarters := by
      rw [quarters, quarterGap, magnitude]
      generalize 5 ^ 1074 = five
      ring
    rw [e]; exact x.basin_quarters
  | j + 1 => by
    unfold digitsFrom
    split
    · rename_i n h
      exact ⟨n, j + 1, rfl, basin_of_onGrid? h⟩
    · exact digitsFrom_spec x up j

theorem two_pow_mul_five_pow (k : Nat) : 2 ^ k * 5 ^ k = 10 ^ k := by rw [← Nat.mul_pow]

theorem ten_pow_toNat_mul {e : Int} {i k : Nat} (h : e + k = i) :
    10 ^ e.toNat * (2 ^ k * 5 ^ k) = 10 ^ i * 10 ^ (-e).toNat := by
  have he : e.toNat + k = i + (-e).toNat := by omega
  rw [two_pow_mul_five_pow, ← Nat.pow_add, he, Nat.pow_add]

/-- A point of a decimal grid in the basin of a number denotes it. -/
theorem ofDecimal_of_basin {x : Finite} {n i : Nat} (h : x.basin (n * (4 * 10 ^ i)) = true) :
    Binary64.ofDecimal x.negative n ((i : Int) - 1074) = .finite x := by
  obtain ⟨h1, h2, ht⟩ := (x.basin_iff _).1 h
  rw [Binary64.ofDecimal_eq_ofUnits]
  apply Binary64.ofUnits_eq_finite
  have hd : 0 < 10 ^ (-((i : Int) - 1074)).toNat := Nat.pow_pos (by decide)
  generalize hden : 10 ^ (-((i : Int) - 1074)).toNat = den at hd ⊢
  generalize hnum : n * 10 ^ ((i : Int) - 1074).toNat * unitsPerOne = num
  -- both ends of the basin, and the grid point, are scaled by `den / 5 ^ 1074`
  have h5 := @Nat.pow_pos 5 1074 (by decide)
  have hgap : ∀ a, a * (den * 2 ^ x.shift) * 5 ^ 1074 = a * x.quarterGap * den := fun a => by
    rw [quarterGap]
    generalize 5 ^ 1074 = five
    ring
  have hpow : 10 ^ ((i : Int) - 1074).toNat * (unitsPerOne * 5 ^ 1074) = 10 ^ i * den := by
    have h := @ten_pow_toNat_mul ((i : Int) - 1074) i 1074 (by omega)
    rw [unitsPerOne, ← hden]; exact h
  have hpoint : 4 * num * 5 ^ 1074 = n * (4 * 10 ^ i) * den := by
    rw [← hnum]
    generalize 5 ^ 1074 = five at hpow ⊢
    calc 4 * (n * 10 ^ ((i : Int) - 1074).toNat * unitsPerOne) * five
        = 4 * n * (10 ^ ((i : Int) - 1074).toNat * (unitsPerOne * five)) := by ring
      _ = n * (4 * 10 ^ i) * den := by rw [hpow]; ring
  apply x.roundedUnits_of_basin hd
  · refine Nat.le_of_mul_le_mul_right ?_ h5
    rw [hgap, hpoint]; exact Nat.mul_le_mul_right _ h1
  · refine Nat.le_of_mul_le_mul_right ?_ h5
    rw [hgap, hpoint]; exact Nat.mul_le_mul_right _ h2
  · intro h
    refine ht (h.imp (fun h => ?_) fun h => ?_)
    · apply Nat.eq_of_mul_eq_mul_right hd
      rw [← hgap, ← hpoint, h]
    · apply Nat.eq_of_mul_eq_mul_right hd
      rw [← hgap, ← hpoint, h]

theorem ofDecimal_shortest (x : Finite) (up : Bool) :
    Binary64.ofDecimal x.negative (x.shortest up).1 (x.shortest up).2 = .finite x := by
  unfold shortest
  split
  · rename_i h0
    have hm : x.magnitude = 0 := by rw [magnitude, h0, Nat.zero_mul]
    exact congrArg Binary64.finite (eq_of_magnitude (x := .zero x.negative) rfl hm.symm)
  · obtain ⟨n, i, he, hb⟩ := x.digitsFrom_spec up (309 + 1074)
    rw [he]
    exact ofDecimal_of_basin hb

end Finite

/-! ## Text without an exponent -/

namespace Binary64

theorem ofText?_positional (negative : Bool) (n : Nat) (e : Int) :
    ofText? (signText negative ++ Layout.positional true n e) = some (ofDecimal negative n e) := by
  unfold Layout.positional
  split
  · rename_i he
    have hlen : (-((['0'] : List Char).length : Int)) = 0 - (1 : Nat) := rfl
    rw [if_pos rfl, ofText?_point negative (fun _ => isDigit_of_mem_toDigits) (by simp) Nat.toDigits_ne_nil,
      Nat.ofDigitChars_append, Nat.ofDigitChars_ten_toDigits, hlen, Nat.ofDigitChars_eq_ofDigitChars_zero]
    have hval : 10 ^ (['0'] : List Char).length * (n * 10 ^ e.toNat) + Nat.ofDigitChars 10 ['0'] 0 =
        n * 10 ^ e.toNat * 10 ^ 1 := by
      rw [show Nat.ofDigitChars 10 ['0'] 0 = 0 from rfl, List.length_singleton]; ring
    have h0 : (0 : Int) = e - e.toNat := by omega
    rw [hval, ofDecimal_scale, h0, ofDecimal_scale]
  · rename_i he
    rw [ofText?_pointed negative n _ (by omega)]
    congr 2; omega

theorem text_rate_eq (x : Finite) : (finite x).text .rate =
    signText x.negative ++ Layout.positional true (x.shortest true).1 (x.shortest true).2 := by
  have h : Layout.rate.magnitudeText (x.shortest true).1 (x.shortest true).2 =
      Layout.positional true (x.shortest true).1 (x.shortest true).2 := if_pos (.inr ⟨rfl, rfl⟩)
  rw [← h]; rfl

theorem ofText?_text_rate (x : Finite) : ofText? ((finite x).text .rate) = some (.finite x) := by
  rw [text_rate_eq, ofText?_positional, x.ofDecimal_shortest]

end Binary64

end TraceRelay
