import Mathlib.Data.Rat.Floor
import TraceRelay.Binary64.Fixed
import TraceRelay.Proofs.Binary64.Order

/-!
# The value of a number

A finite number is a rational one, and the numeric order is that of the values
(`Finite.toRat_lt_toRat`). To cut off decimal places is to take the floor of the value on their grid
(`Finite.floor_toRat`).
-/

namespace TraceRelay

theorem unitsPerOne_cast_pos : (0 : ℚ) < unitsPerOne := Nat.cast_pos.2 unitsPerOne_pos

namespace Finite

def toRat (x : Finite) : ℚ := x.units / unitsPerOne

variable {x y : Finite}

theorem toRat_lt_toRat : x.toRat < y.toRat ↔ x.units < y.units := by
  rw [toRat, toRat, div_lt_div_iff_of_pos_right unitsPerOne_cast_pos, Int.cast_lt]

theorem toRat_le_toRat : x.toRat ≤ y.toRat ↔ x.units ≤ y.units := by
  rw [← not_lt, toRat_lt_toRat, not_lt]

theorem toRat_eq_zero : x.toRat = 0 ↔ x.units = 0 := by
  rw [toRat, div_eq_zero_iff, or_iff_left unitsPerOne_cast_pos.ne', Int.cast_eq_zero]

theorem toRat_eq_one : x.toRat = 1 ↔ x.units = unitsPerOne := by
  rw [toRat, div_eq_one_iff_eq unitsPerOne_cast_pos.ne', ← Int.cast_natCast, Int.cast_inj]

theorem floor_toRat (h : 0 ≤ x.units) (places : Nat) :
    ⌊x.toRat * (10 ^ places : Nat)⌋ = x.truncatedSteps places := by
  have hmul : x.toRat * (10 ^ places : Nat) = ((x.magnitude * 10 ^ places : Nat) : ℚ) / (unitsPerOne : Nat) := by
    rw [toRat, units_eq_magnitude h, div_mul_eq_mul_div, Nat.cast_mul, Int.cast_natCast]
  rw [hmul, Rat.floor_natCast_div_natCast, truncatedSteps, Int.natCast_ediv]

end Finite

/-- The value of a number; what is no finite number counts as zero. -/
def Binary64.toRat : Binary64 → ℚ
  | .finite x => x.toRat
  | _ => 0

namespace Binary64

@[simp] theorem toRat_finite (x : Finite) : (finite x).toRat = x.toRat := rfl

theorem toRat_eq_zero_iff {r : Binary64} (h : r.isRate = true) : r.toRat = 0 ↔ ¬zero < r := by
  obtain ⟨x, rfl, h0, -⟩ := isRate_iff.1 h
  rw [toRat_finite, Finite.toRat_eq_zero, zero, finite_lt_finite, Finite.units_zero]
  omega

theorem toRat_eq_one_iff {r : Binary64} (h : r.isRate = true) : r.toRat = 1 ↔ ¬r < one := by
  obtain ⟨x, rfl, -, h1⟩ := isRate_iff.1 h
  rw [toRat_finite, Finite.toRat_eq_one, one_eq, finite_lt_finite, Finite.units_one]
  omega

theorem toRat_lt_toRat {v r : Binary64} (hv : v.isFraction = true) (hr : r.isRate = true) (h : v < r) :
    v.toRat < r.toRat := by
  obtain ⟨x, rfl, -, -⟩ := isFraction_iff.1 hv
  obtain ⟨y, rfl, -, -⟩ := isRate_iff.1 hr
  exact Finite.toRat_lt_toRat.2 (finite_lt_finite.1 h)

theorem toRat_le_toRat {v r : Binary64} (hv : v.isFraction = true) (hr : r.isRate = true) (h : r ≤ v) :
    r.toRat ≤ v.toRat := by
  obtain ⟨x, rfl, -, -⟩ := isFraction_iff.1 hv
  obtain ⟨y, rfl, -, -⟩ := isRate_iff.1 hr
  exact Finite.toRat_le_toRat.2 (finite_le_finite.1 h)

end Binary64

end TraceRelay
