import TraceRelay.Proofs.Binary64.Order

/-!
# Exact results and monotone ones

An operation whose exact result fits into 53 bits has that result (`exists_mul`, `exists_add`), and a
sum is not below a term if the other one is not negative (`le_add`).
-/

namespace TraceRelay

namespace Binary64

theorem add_finite (x y : Finite) : Binary64.finite x + .finite y =
    if x.units + y.units = 0 then .finite (.zero (x.negative && y.negative))
    else ofUnits (x.units + y.units < 0) (x.units + y.units).natAbs 1 := by
  change add _ _ = _
  rw [add]

theorem sub_finite (x y : Finite) : Binary64.finite x - .finite y = .finite x + .finite y.neg := rfl

theorem mul_finite (x y : Finite) : Binary64.finite x * .finite y =
    ofUnits (x.negative != y.negative) (x.magnitude * y.magnitude) unitsPerOne := by
  change mul _ _ = _
  rw [mul]

theorem unitsPerOne_lt : unitsPerOne < 2 ^ (53 + 2045) := by
  have h := @unitsPerOne_lt_two_pow (53 + 2045) (by decide)
  exact h

theorem mul_unitsPerOne_lt {n : Nat} (hn : n < 2 ^ 53) : n * unitsPerOne < 2 ^ (53 + 2045) := by
  have hle := Nat.le_of_lt (@unitsPerOne_lt_two_pow 2045 (by decide))
  calc n * unitsPerOne < 2 ^ 53 * unitsPerOne := Nat.mul_lt_mul_of_pos_right hn unitsPerOne_pos
    _ ≤ 2 ^ 53 * 2 ^ 2045 := Nat.mul_le_mul_left _ hle
    _ = 2 ^ (53 + 2045) := (Nat.pow_add 2 53 2045).symm

theorem representable_mul_unitsPerOne {n : Nat} (hn : n < 2 ^ 53) : Representable (n * unitsPerOne) := by
  unfold unitsPerOne
  generalize 1074 = k
  exact ⟨n, k, hn, rfl⟩

theorem exists_ofNat {n : Nat} (hn : n < 2 ^ 53) :
    ∃ z : Finite, ofNat n = .finite z ∧ z.negative = false ∧ z.magnitude = n * unitsPerOne := by
  have hr := representable_mul_unitsPerOne hn
  have hlt := mul_unitsPerOne_lt hn
  unfold ofNat
  generalize unitsPerOne = units at *
  exact exists_ofUnits false (Nat.mul_one _).symm hr hlt Nat.one_pos

theorem exists_mul {x y : Finite} {n : Nat} (hx : x.negative = false) (hy : y.negative = false)
    (h : x.magnitude * y.magnitude = n * unitsPerOne) (hn : Representable n) (hlt : n < 2 ^ (53 + 2045)) :
    ∃ z : Finite, Binary64.finite x * .finite y = .finite z ∧ z.negative = false ∧ z.magnitude = n := by
  rw [mul_finite, hx, hy, bne_self_eq_false]
  exact exists_ofUnits false h hn hlt unitsPerOne_pos

theorem exists_add {x y : Finite} (hx : x.negative = false) (hy : y.negative = false)
    (hn : Representable (x.magnitude + y.magnitude)) (hlt : x.magnitude + y.magnitude < 2 ^ (53 + 2045)) :
    ∃ z : Finite, Binary64.finite x + .finite y = .finite z ∧ z.negative = false ∧
      z.magnitude = x.magnitude + y.magnitude := by
  have hu : x.units + y.units = ((x.magnitude + y.magnitude : Nat) : Int) := by
    rw [Finite.units_of_nonneg hx, Finite.units_of_nonneg hy]; rfl
  rw [add_finite]
  split
  · rename_i h0
    refine ⟨.zero false, by rw [hx, hy]; rfl, rfl, ?_⟩
    rw [Finite.magnitude_zero]; omega
  · rename_i h0
    rw [hu, Int.natAbs_natCast, decide_eq_false (by omega)]
    exact exists_ofUnits false (Nat.mul_one _).symm hn hlt Nat.one_pos

theorem le_add {x y : Finite} (hy : 0 ≤ y.units) : Binary64.finite x ≤ .finite x + .finite y := by
  rw [add_finite]
  split
  · rw [finite_le_finite, Finite.units_zero]; omega
  · rename_i h0
    rcases Int.lt_or_gt_of_ne h0 with hneg | hpos
    · -- the exact sum lies between `x` and zero
      have hxn : x.negative = true := by
        by_contra hn
        rw [Finite.units_of_nonneg (Bool.eq_false_of_not_eq_true hn)] at hneg
        omega
      have hxu : x.units = -(x.magnitude : Int) := if_pos hxn
      have hle : roundedUnits (x.units + y.units).natAbs 1 ≤ x.magnitude :=
        roundedUnits_le x.representable Nat.one_pos (by omega)
      rw [decide_eq_true hneg]
      rcases ofUnits_cases true (x.units + y.units).natAbs 1 with ⟨z, hz, hs, hm⟩ | ⟨-, hbig⟩
      · have hzu : z.units = -(z.magnitude : Int) := if_pos hs
        rw [hz, finite_le_finite]; omega
      · have := x.magnitude_lt; omega
    · rw [decide_eq_false (by omega)]
      rcases ofUnits_cases false (x.units + y.units).natAbs 1 with ⟨z, hz, hs, hm⟩ | ⟨hz, -⟩
      · rw [hz, finite_le_finite, Finite.units_of_nonneg hs, hm]
        rcases hn : x.negative with _ | _
        · have hxu := Finite.units_of_nonneg hn
          have : x.magnitude ≤ roundedUnits (x.units + y.units).natAbs 1 :=
            le_roundedUnits x.representable Nat.one_pos (by omega)
          omega
        · have := Finite.units_nonpos hn; omega
      · rw [hz]; rfl

theorem ofUnits_false_cases (num den : Nat) :
    (∃ z : Finite, ofUnits false num den = .finite z ∧ z.negative = false) ∨
      ofUnits false num den = .infinite false := by
  rcases ofUnits_cases false num den with ⟨z, hz, hs, -⟩ | ⟨hz, -⟩
  · exact .inl ⟨z, hz, hs⟩
  · exact .inr hz

/-- The difference to a smaller number is positive, or too great to be a number. -/
theorem sub_cases {x y : Finite} (h : x.units < y.units) :
    (∃ z : Finite, Binary64.finite y - .finite x = .finite z ∧ z.negative = false) ∨
      Binary64.finite y - .finite x = .infinite false := by
  have hsum : y.units + x.neg.units = y.units - x.units := by rw [Finite.units_neg]; rfl
  have e : Binary64.finite y - .finite x = ofUnits false (y.units - x.units).natAbs 1 := by
    rw [sub_finite, add_finite, hsum, if_neg (by omega), decide_eq_false (by omega)]
  rw [e]
  exact ofUnits_false_cases _ _

theorem mul_cases {x y : Finite} (hx : x.negative = false) (hy : y.negative = false) :
    (∃ z : Finite, Binary64.finite x * .finite y = .finite z ∧ z.negative = false) ∨
      Binary64.finite x * .finite y = .infinite false := by
  have e : Binary64.finite x * .finite y = ofUnits false (x.magnitude * y.magnitude) unitsPerOne := by
    rw [mul_finite, hx, hy]; rfl
  rw [e]
  exact ofUnits_false_cases _ _

/-! ## Neutral elements -/

theorem zero_add {z x : Finite} (hz : z.magnitude = 0) (hx : x.negative = false) :
    Binary64.finite z + .finite x = .finite x := by
  have hzu := Finite.units_eq_zero hz
  have hxu := Finite.units_of_nonneg hx
  rw [add_finite, hzu, Int.zero_add]
  split
  · rename_i h0
    rw [hx, Bool.and_false]
    exact congrArg _ (Finite.eq_of_magnitude (x := .zero false) hx.symm (by rw [Finite.magnitude_zero]; omega))
  · have h := ofUnits_magnitude x Nat.one_pos
    rw [decide_eq_false (by omega), hxu, Int.natAbs_natCast]
    rwa [hx, Nat.mul_one] at h

theorem add_comm_finite (x y : Finite) : Binary64.finite x + .finite y = .finite y + .finite x := by
  rw [add_finite, add_finite, Int.add_comm, Bool.and_comm]

theorem sub_zero {x z : Finite} (hz : z.magnitude = 0) (hx : x.negative = false) :
    Binary64.finite x - .finite z = .finite x := by
  rw [sub_finite, add_comm_finite]
  exact zero_add hz hx

theorem one_mul {x : Finite} (hx : x.negative = false) : one * .finite x = .finite x := by
  have h := ofUnits_magnitude x unitsPerOne_pos
  rw [one_eq, mul_finite, Finite.magnitude_one, Nat.mul_comm, hx]
  rwa [hx] at h

end Binary64

end TraceRelay
