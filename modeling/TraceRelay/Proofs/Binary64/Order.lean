import TraceRelay.Proofs.Binary64.Rounding

/-!
# Order

The numeric order is transitive, and total on what is a number. A rate and a fraction are finite, so
that the order on them is that of whole numbers of units.
-/

namespace TraceRelay

theorem unitsPerOne_pos : 0 < unitsPerOne := by
  unfold unitsPerOne
  generalize 1074 = n
  exact Nat.two_pow_pos n

theorem two_pow_le_unitsPerOne {n : Nat} (h : n ≤ 1074) : 2 ^ n ≤ unitsPerOne := by
  unfold unitsPerOne
  generalize 1074 = k at h ⊢
  exact Nat.pow_le_pow_right (by decide) h

theorem two_pow_lt_unitsPerOne {n : Nat} (h : n < 1074) : 2 ^ n < unitsPerOne := by
  unfold unitsPerOne
  generalize 1074 = k at h ⊢
  exact Nat.pow_lt_pow_right (by decide) h

theorem unitsPerOne_lt_two_pow {n : Nat} (h : 1074 < n) : unitsPerOne < 2 ^ n := by
  unfold unitsPerOne
  generalize 1074 = k at h ⊢
  exact Nat.pow_lt_pow_right (by decide) h

theorem two_pow_add_unitsPerOne (n : Nat) : 2 ^ (n + 1074) = 2 ^ n * unitsPerOne := by
  unfold unitsPerOne
  generalize 1074 = k
  exact Nat.pow_add 2 n k

theorem two_pow_mul_two_pow {a b : Nat} (h : a + b = 1074) : 2 ^ a * 2 ^ b = unitsPerOne := by
  unfold unitsPerOne
  rw [← Nat.pow_add, h]

namespace Finite

theorem units_of_nonneg {x : Finite} (h : x.negative = false) : x.units = x.magnitude := by
  simp [units, h]

theorem units_eq_magnitude {x : Finite} (h : 0 ≤ x.units) : x.units = x.magnitude := by
  unfold units at h ⊢
  split <;> rename_i hn
  · rw [if_pos hn] at h; omega
  · rfl

@[simp] theorem magnitude_zero (negative : Bool) : (zero negative).magnitude = 0 := rfl

@[simp] theorem units_zero (negative : Bool) : (zero negative).units = 0 := by
  cases negative <;> rfl

theorem units_eq_zero {x : Finite} (h : x.magnitude = 0) : x.units = 0 := by
  simp [units, h]

theorem magnitude_eq_zero {x : Finite} (h : x.units = 0) : x.magnitude = 0 := by
  unfold units at h
  split at h <;> omega

@[simp] theorem units_neg (x : Finite) : x.neg.units = -x.units := by
  cases hx : x.negative <;> simp [units, neg, hx, magnitude]

theorem units_nonpos {x : Finite} (h : x.negative = true) : x.units ≤ 0 := by
  simp [units, h]

theorem negative_of_units_pos {x : Finite} (h : 0 < x.units) : x.negative = false := by
  by_contra hn
  have := units_nonpos (Bool.eq_true_of_not_eq_false hn)
  omega

/-- Above zero each value has one form. -/
theorem eq_of_units {x y : Finite} (hx : 0 < x.units) (h : x.units = y.units) : x = y := by
  have hsx := negative_of_units_pos hx
  have hsy := negative_of_units_pos (h ▸ hx)
  rw [units_of_nonneg hsx, units_of_nonneg hsy] at h
  exact eq_of_magnitude (hsx.trans hsy.symm) (Int.ofNat_inj.1 h)

theorem least_significand_lt : 2 ^ 52 < 2 ^ 53 := by decide

def one : Finite :=
  ⟨false, 2 ^ 52, 1022, least_significand_lt, .inr (Nat.le_refl _), by decide⟩

theorem magnitude_eq_unitsPerOne {x : Finite} (hs : x.significand = 2 ^ 52) (hk : x.shift = 1022) :
    x.magnitude = unitsPerOne := by
  rw [magnitude, hs, hk, two_pow_mul_two_pow (a := 52) (b := 1022) (by decide)]

theorem magnitude_one : one.magnitude = unitsPerOne := magnitude_eq_unitsPerOne rfl rfl

theorem units_one : one.units = unitsPerOne := by rw [units_of_nonneg rfl, magnitude_one]

end Finite

namespace Binary64

theorem one_eq : one = .finite .one := by
  have h := ofUnits_magnitude .one Nat.one_pos
  rw [Finite.magnitude_one, Nat.mul_one] at h
  rw [one, ofNat, Nat.one_mul]
  exact h

@[simp] theorem finite_lt_finite {x y : Finite} :
    (Binary64.finite x < .finite y) ↔ x.units < y.units := decide_eq_true_iff

@[simp] theorem finite_le_finite {x y : Finite} :
    (Binary64.finite x ≤ .finite y) ↔ x.units ≤ y.units := decide_eq_true_iff

theorem lt_def {x y : Binary64} : x < y ↔ x.lt y = true := Iff.rfl

theorem le_def {x y : Binary64} : x ≤ y ↔ x.le y = true := Iff.rfl

theorem not_lt_of_le {x y : Binary64} (h : y ≤ x) : ¬x < y := by
  rw [lt_def]; rw [le_def] at h
  cases x <;> cases y <;> simp_all [lt, le]
  grind

theorem le_of_lt {x y : Binary64} (h : x < y) : x ≤ y := by
  rw [le_def]; rw [lt_def] at h
  cases x <;> cases y <;> simp_all [lt, le]
  omega

theorem le_trans {x y z : Binary64} (h : x ≤ y) (h' : y ≤ z) : x ≤ z := by
  rw [le_def] at h h' ⊢
  cases x <;> cases y <;> cases z <;> simp_all [le] <;> grind

theorem lt_of_le_of_lt {x y z : Binary64} (h : x ≤ y) (h' : y < z) : x < z := by
  rw [lt_def] at h' ⊢; rw [le_def] at h
  cases x <;> cases y <;> cases z <;> simp_all [lt, le]
  omega

theorem lt_of_lt_of_le {x y z : Binary64} (h : x < y) (h' : y ≤ z) : x < z := by
  rw [lt_def] at h ⊢; rw [le_def] at h'
  cases x <;> cases y <;> cases z <;> simp_all [lt, le]
  omega

/-- Not to lie below a number is to lie at or above it, but for what is not a number. -/
theorem not_lt_iff {x y : Binary64} : ¬x < y ↔ x = .nan ∨ y = .nan ∨ y ≤ x := by
  rw [lt_def, le_def]
  cases x with
  | nan => simp [lt]
  | infinite negative => cases negative <;> cases y <;> simp [lt, le]
  | finite x => cases y <;> simp [lt, le]

theorem isRate_iff {x : Binary64} :
    x.isRate = true ↔ ∃ f : Finite, x = .finite f ∧ 0 ≤ f.units ∧ f.units ≤ unitsPerOne := by
  have h1 := Finite.units_one
  unfold isRate
  rw [one_eq, zero]
  generalize Finite.one = o, unitsPerOne = units at *
  cases x <;> simp [le, h1]

theorem isFraction_iff {x : Binary64} :
    x.isFraction = true ↔ ∃ f : Finite, x = .finite f ∧ 0 ≤ f.units ∧ f.units < unitsPerOne := by
  have h1 := Finite.units_one
  unfold isFraction
  rw [one_eq, zero]
  generalize Finite.one = o, unitsPerOne = units at *
  cases x <;> simp [le, lt, h1]

theorem isRate_zero : zero.isRate = true := by
  refine isRate_iff.2 ⟨.zero false, rfl, ?_, ?_⟩
  · rw [Finite.units_zero]
  · rw [Finite.units_zero]
    exact Int.natCast_nonneg _

theorem isRate_one : one.isRate = true := by
  refine isRate_iff.2 ⟨.one, one_eq, ?_, ?_⟩
  · rw [Finite.units_one]
    exact Int.natCast_nonneg _
  · rw [Finite.units_one]

theorem zero_lt_one : zero < one := by
  rw [one_eq, zero, finite_lt_finite, Finite.units_one, Finite.units_zero]
  have := unitsPerOne_pos; omega

theorem zero_le_of_isRate {x : Binary64} (h : x.isRate = true) : zero ≤ x := (Bool.and_eq_true_iff.1 h).1

theorem le_one_of_isRate {x : Binary64} (h : x.isRate = true) : x ≤ one := (Bool.and_eq_true_iff.1 h).2

theorem isFraction_of_le_of_lt {x : Binary64} (h0 : zero ≤ x) (h1 : x < one) : x.isFraction = true :=
  Bool.and_eq_true_iff.2 ⟨h0, h1⟩

theorem lt_one_of_isFraction {x : Binary64} (h : x.isFraction = true) : x < one :=
  (Bool.and_eq_true_iff.1 h).2

theorem zero_le_of_isFraction {x : Binary64} (h : x.isFraction = true) : zero ≤ x :=
  (Bool.and_eq_true_iff.1 h).1

theorem units_eq_zero_of_isRate {x : Finite} (h : (finite x).isRate = true) (h0 : ¬zero < .finite x) :
    x.units = 0 := by
  obtain ⟨f, hf, hlow, -⟩ := isRate_iff.1 h
  cases hf
  rw [zero, finite_lt_finite, Finite.units_zero] at h0
  omega

theorem eq_one_of_isRate {x : Binary64} (h : x.isRate = true) (h1 : ¬x < one) : x = one := by
  obtain ⟨f, rfl, -, hhigh⟩ := isRate_iff.1 h
  rw [one_eq, finite_lt_finite, Finite.units_one] at h1
  have := unitsPerOne_pos
  rw [one_eq, Finite.eq_of_units (x := f) (y := .one) (by omega) (by rw [Finite.units_one]; omega)]

end Binary64

end TraceRelay
