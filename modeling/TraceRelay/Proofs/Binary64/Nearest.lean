import TraceRelay.Proofs.Binary64.Value

/-!
# Rounding goes to the nearest number

A quotient lies between two neighbouring steps of its binade, and no magnitude of 53 bits lies between
them (`Representable.le_cutOff`, `Representable.cutOff_lt`). So the step that the quotient is rounded to
is the nearest of all such magnitudes (`roundedUnits_nearest`), and among the numbers of either sign none
lies nearer to the value of the quotient (`Finite.isNearest_of_ofUnits`).
-/

namespace TraceRelay

variable {num den n e : Nat}

theorem Representable.exists_mul_two_pow (hn : Representable n) (h : 2 ^ (52 + e) ≤ n) : ∃ m, n = m * 2 ^ e := by
  obtain ⟨m, k, hm, rfl⟩ := hn
  have hlt : 2 ^ (52 + e) < 2 ^ (53 + k) := calc
    2 ^ (52 + e) ≤ m * 2 ^ k := h
    _ < 2 ^ 53 * 2 ^ k := Nat.mul_lt_mul_of_pos_right hm (Nat.two_pow_pos k)
    _ = 2 ^ (53 + k) := (Nat.pow_add ..).symm
  have hek : e ≤ k := by
    have := (Nat.pow_lt_pow_iff_right (by decide)).1 hlt
    omega
  exact ⟨m * 2 ^ (k - e), by rw [Nat.mul_assoc, ← Nat.pow_add, Nat.sub_add_cancel hek]⟩

theorem Representable.le_cutOff (hn : Representable n) (hd : 0 < den) (h : n * den ≤ num) :
    n ≤ num / (den * 2 ^ excessBits (num / den)) * 2 ^ excessBits (num / den) := by
  have hlow := le_div_of_excessBits num den
  generalize excessBits (num / den) = e at hlow ⊢
  have hD : 0 < den * 2 ^ e := Nat.mul_pos hd (Nat.two_pow_pos e)
  by_cases hb : e = 0 ∨ 2 ^ (52 + e) ≤ n
  · obtain ⟨m, rfl⟩ : ∃ m, n = m * 2 ^ e := by
      rcases hb with rfl | hb
      · exact ⟨n, (Nat.mul_one n).symm⟩
      · exact hn.exists_mul_two_pow hb
    refine Nat.mul_le_mul_right _ ((Nat.le_div_iff_mul_le hD).2 ?_)
    rwa [Nat.mul_comm den, ← Nat.mul_assoc]
  · -- below the binade of the quotient
    obtain ⟨he, hn⟩ := not_or.1 hb
    calc n ≤ 2 ^ (52 + e) := Nat.le_of_not_le hn
      _ = 2 ^ 52 * 2 ^ e := Nat.pow_add ..
      _ ≤ num / (den * 2 ^ e) * 2 ^ e := Nat.mul_le_mul_right _ (hlow he)

theorem Representable.cutOff_lt (hn : Representable n) (hd : 0 < den) (h : num < n * den) :
    (num / (den * 2 ^ excessBits (num / den)) + 1) * 2 ^ excessBits (num / den) ≤ n := by
  have hlow := le_div_of_excessBits num den
  generalize excessBits (num / den) = e at hlow ⊢
  have hD : 0 < den * 2 ^ e := Nat.mul_pos hd (Nat.two_pow_pos e)
  obtain ⟨m, rfl⟩ : ∃ m, n = m * 2 ^ e := by
    by_cases he : e = 0
    · exact ⟨n, by rw [he, Nat.pow_zero, Nat.mul_one]⟩
    · refine hn.exists_mul_two_pow ?_
      refine Nat.le_of_mul_le_mul_right ?_ hd
      calc 2 ^ (52 + e) * den = 2 ^ 52 * (den * 2 ^ e) := by ring
        _ ≤ num / (den * 2 ^ e) * (den * 2 ^ e) := Nat.mul_le_mul_right _ (hlow he)
        _ ≤ num := Nat.div_mul_le_self ..
        _ ≤ n * den := Nat.le_of_lt h
  refine Nat.mul_le_mul_right _ ((Nat.div_lt_iff_lt_mul hD).2 ?_)
  rwa [Nat.mul_comm den, ← Nat.mul_assoc]

/-- No magnitude of 53 bits is nearer to a quotient than the one that it is rounded to. -/
theorem roundedUnits_nearest (hd : 0 < den) (hn : Representable n) :
    |(roundedUnits num den * den : ℤ) - num| ≤ |(n * den : ℤ) - num| := by
  have hbelow : n * den ≤ num → _ := hn.le_cutOff hd
  have habove : num < n * den → _ := hn.cutOff_lt hd
  have hD : 0 < den * 2 ^ excessBits (num / den) := Nat.mul_pos hd (Nat.two_pow_pos _)
  rw [roundedUnits, roundHalfEven]
  generalize 2 ^ excessBits (num / den) = step at *
  have hdm := Nat.div_add_mod' num (den * step)
  have hmod := Nat.mod_lt num hD
  generalize num / (den * step) = q at *
  generalize num % (den * step) = r at *
  -- the number lies on this side of the steps around the quotient, or on the other
  have hn : n * den ≤ q * (den * step) ∨ (q + 1) * (den * step) ≤ n * den := by
    rcases Nat.lt_or_ge num (n * den) with h | h
    · right
      calc (q + 1) * (den * step) = (q + 1) * step * den := by ring
        _ ≤ n * den := Nat.mul_le_mul_right _ (habove h)
    · left
      calc n * den ≤ q * step * den := Nat.mul_le_mul_right _ (hbelow h)
        _ = q * (den * step) := by ring
  have hup : (q + 1) * (den * step) = q * (den * step) + den * step := Nat.succ_mul ..
  rw [Int.abs_eq_natAbs, Int.abs_eq_natAbs]
  split
  · have e : q * step * den = q * (den * step) := by ring
    omega
  · have e : (q + 1) * step * den = (q + 1) * (den * step) := by ring
    omega

theorem roundedUnits_lt {r : Nat} (hd : 0 < den) (hn : Representable n) (hlt : n < r)
    (h : 2 * num < (n + r) * den) : roundedUnits num den < r := by
  by_contra hge
  have hnearest : |(roundedUnits num den * den : ℤ) - num| ≤ |(n * den : ℤ) - num| := roundedUnits_nearest hd hn
  have hr : r * den ≤ roundedUnits num den * den := Nat.mul_le_mul_right den (Nat.le_of_not_lt hge)
  have hnr : n * den < r * den := Nat.mul_lt_mul_of_pos_right hlt hd
  rw [Nat.add_mul] at h
  rw [Int.abs_eq_natAbs, Int.abs_eq_natAbs] at hnearest
  omega

/-- Above the least number of full precision, the distance to the next one below is small against it. -/
theorem Finite.exists_below {x : Finite} (h : 2 ^ 52 < x.magnitude) :
    ∃ n, Representable n ∧ n < x.magnitude ∧ (x.magnitude - n) * 2 ^ 52 < x.magnitude := by
  rcases Nat.lt_or_ge (2 ^ 52) x.significand with hs | hs
  · have hstep : x.magnitude = (x.significand - 1) * 2 ^ x.shift + 2 ^ x.shift := by
      rw [magnitude, ← Nat.succ_mul]
      congr 1
      omega
    have hlt := x.significand_lt
    have hpos := Nat.two_pow_pos x.shift
    have hbig : 2 ^ 52 * 2 ^ x.shift < x.magnitude := Nat.mul_lt_mul_of_pos_right hs hpos
    refine ⟨(x.significand - 1) * 2 ^ x.shift, ⟨_, _, by omega, rfl⟩, by omega, ?_⟩
    rw [hstep, Nat.add_sub_cancel_left, ← hstep]
    omega
  · -- at the start of a binade the next number lies in the one below
    have hk : x.shift ≠ 0 := by
      intro h0
      rw [magnitude, h0] at h
      omega
    have hsig : x.significand = 2 ^ 52 := Nat.le_antisymm hs (x.canonical.resolve_left hk)
    obtain ⟨k, hk⟩ := Nat.exists_eq_succ_of_ne_zero hk
    have hmag : x.magnitude = 2 ^ 53 * 2 ^ k := by
      rw [magnitude, hsig, hk, Nat.succ_eq_add_one, Nat.pow_succ]
      omega
    have hpos := Nat.two_pow_pos k
    exact ⟨(2 ^ 53 - 1) * 2 ^ k, ⟨_, _, by decide, rfl⟩, by omega, by omega⟩

/-! ## Values -/

def Finite.IsNearest (x : Finite) (q : ℚ) : Prop := ∀ y : Finite, |x.toRat - q| ≤ |y.toRat - q|

namespace Finite

theorem toRat_of_nonneg {x : Finite} (h : 0 ≤ x.units) : x.toRat = x.magnitude / unitsPerOne := by
  rw [toRat, units_eq_magnitude h, Int.cast_natCast]

theorem abs_toRat_sub {x : Finite} (h : 0 ≤ x.units) (num : Nat) {den : Nat} (hd : 0 < den) :
    |x.toRat - num / den / unitsPerOne| =
      ((|(x.magnitude * den : ℤ) - num| : ℤ) : ℚ) / (den * unitsPerOne) := by
  have hden : (0 : ℚ) < den := Nat.cast_pos.2 hd
  have hone := unitsPerOne_cast_pos
  have e : x.toRat - num / den / unitsPerOne = ((x.magnitude * den : ℤ) - num : ℤ) / (den * unitsPerOne) := by
    rw [toRat_of_nonneg h]
    push_cast
    field_simp
  rw [e, abs_div, abs_of_pos (mul_pos hden hone), ← Int.cast_abs]

theorem isNearest_of_ofUnits {x : Finite} {num den : Nat} (hd : 0 < den)
    (h : Binary64.ofUnits false num den = .finite x) : x.IsNearest (num / den / unitsPerOne) := by
  obtain ⟨z, hz, hs, hm⟩ | ⟨hz, -⟩ := Binary64.ofUnits_cases false num den <;> rw [h] at hz <;> cases hz
  have hx : 0 ≤ x.units := by rw [units_of_nonneg hs]; exact Int.natCast_nonneg _
  have hscale : (0 : ℚ) ≤ den * unitsPerOne := mul_nonneg (Nat.cast_nonneg _) (Nat.cast_nonneg _)
  have hle : ∀ y : Finite, 0 ≤ y.units → |x.toRat - num / den / unitsPerOne| ≤ |y.toRat - num / den / unitsPerOne| := by
    intro y hy
    rw [abs_toRat_sub hx num hd, abs_toRat_sub hy num hd, hm]
    exact div_le_div_of_nonneg_right (Int.cast_le.2 (roundedUnits_nearest hd y.representable)) hscale
  intro y
  rcases Int.le_total 0 y.units with hy | hy
  · exact hle y hy
  · -- zero lies between a negative number and the quotient
    refine (hle (.zero false) (units_zero false).ge).trans ?_
    have hq : (0 : ℚ) ≤ num / den / unitsPerOne :=
      div_nonneg (div_nonneg (Nat.cast_nonneg _) (Nat.cast_nonneg _)) (Nat.cast_nonneg _)
    have h0 : (zero false).toRat = 0 := toRat_eq_zero.2 (units_zero false)
    have hy0 : y.toRat ≤ 0 := h0 ▸ toRat_le_toRat.2 (hy.trans (units_zero false).ge)
    rw [h0, abs_of_nonpos (by linarith), abs_of_nonpos (by linarith)]
    linarith

end Finite

end TraceRelay
