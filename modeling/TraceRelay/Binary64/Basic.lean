/-!
# Double precision numbers

A number is not-a-number, an infinity, or a sign with a magnitude. Every finite magnitude is a
whole number of units of `2 ^ -1074`, the least one above zero, so exact arithmetic on finite
numbers is arithmetic on whole numbers. `ofUnits` is the one place where anything is rounded: to
the nearest number, a half going to the even significand.
-/

namespace TraceRelay

-- Powers are those of the core library, also where a larger algebraic library offers its own.
attribute [instance (high), default_instance (high + 1)] instPowNat

/-- A sign and a magnitude of `significand * 2 ^ shift` units; below `2 ^ 52` units there is only
one binade, so each value has one form. -/
structure Finite where
  negative : Bool
  significand : Nat
  shift : Nat
  significand_lt : significand < 2 ^ 53
  canonical : shift = 0 ∨ 2 ^ 52 ≤ significand
  shift_le : shift ≤ 2045
deriving DecidableEq

/-- A double precision number. All that is not a number counts as one value. -/
inductive Binary64 where
  | nan
  | infinite (negative : Bool)
  | finite (x : Finite)
deriving DecidableEq

namespace Finite

/-- The magnitude in units of `2 ^ -1074`. -/
def magnitude (x : Finite) : Nat := x.significand * 2 ^ x.shift

def units (x : Finite) : Int := if x.negative then -(x.magnitude : Int) else x.magnitude

def zero (negative : Bool) : Finite := ⟨negative, 0, 0, by decide, .inl rfl, by decide⟩

def neg (x : Finite) : Finite := { x with negative := !x.negative }

end Finite

def unitsPerOne : Nat := 2 ^ 1074

/-! ## Rounding -/

def roundHalfEven (num den : Nat) : Nat :=
  if 2 * (num % den) < den ∨ (2 * (num % den) = den ∧ num / den % 2 = 0) then num / den
  else num / den + 1

theorem le_roundHalfEven (num den : Nat) : num / den ≤ roundHalfEven num den := by
  unfold roundHalfEven; split <;> omega

theorem roundHalfEven_le (num den : Nat) : roundHalfEven num den ≤ num / den + 1 := by
  unfold roundHalfEven; split <;> omega

def excessBits (n : Nat) : Nat := n.log2 - 52

theorem div_lt_of_excessBits (num den : Nat) :
    num / (den * 2 ^ excessBits (num / den)) < 2 ^ 53 := by
  have h : num / den < 2 ^ ((num / den).log2 + 1) := Nat.lt_log2_self
  have hp : 2 ^ ((num / den).log2 + 1) ≤ 2 ^ 53 * 2 ^ excessBits (num / den) := by
    rw [← Nat.pow_add]; exact Nat.pow_le_pow_right (by decide) (by unfold excessBits; omega)
  rw [← Nat.div_div_eq_div_mul]
  exact Nat.div_lt_of_lt_mul (by rw [Nat.mul_comm]; omega)

theorem le_div_of_excessBits (num den : Nat) (h : excessBits (num / den) ≠ 0) :
    2 ^ 52 ≤ num / (den * 2 ^ excessBits (num / den)) := by
  have hn : num / den ≠ 0 := by intro h0; rw [h0] at h; exact h (by decide)
  have hp : 2 ^ 52 * 2 ^ excessBits (num / den) = 2 ^ (num / den).log2 := by
    rw [← Nat.pow_add]; congr 1; unfold excessBits at h ⊢; omega
  rw [← Nat.div_div_eq_div_mul, Nat.le_div_iff_mul_le (Nat.two_pow_pos _), hp]
  exact Nat.log2_self_le hn

namespace Binary64

/-- A rounded significand at its place; one that has grown to `2 ^ 53` moves up a binade, and
beyond the last binade lies infinity. -/
def ofRounded (negative : Bool) (m shift : Nat) (hm : m ≤ 2 ^ 53)
    (hc : shift = 0 ∨ 2 ^ 52 ≤ m) : Binary64 :=
  if h : m = 2 ^ 53 then
    if hs : shift + 1 ≤ 2045 then
      .finite ⟨negative, 2 ^ 52, shift + 1, by decide, .inr (Nat.le_refl _), hs⟩
    else .infinite negative
  else
    if hs : shift ≤ 2045 then .finite ⟨negative, m, shift, Nat.lt_of_le_of_ne hm h, hc, hs⟩
    else .infinite negative

def ofUnits (negative : Bool) (num den : Nat) : Binary64 :=
  ofRounded negative (roundHalfEven num (den * 2 ^ excessBits (num / den))) (excessBits (num / den))
    (Nat.le_trans (roundHalfEven_le _ _) (div_lt_of_excessBits num den))
    ((Nat.eq_zero_or_pos (excessBits (num / den))).imp_right fun h =>
      Nat.le_trans (le_div_of_excessBits num den (Nat.ne_of_gt h)) (le_roundHalfEven _ _))

def ofInt (n : Int) : Binary64 := ofUnits (n < 0) (n.natAbs * unitsPerOne) 1

def ofNat (n : Nat) : Binary64 := ofUnits false (n * unitsPerOne) 1

def zero : Binary64 := .finite (.zero false)

def one : Binary64 := ofNat 1

def twoPowNeg (k : Nat) : Binary64 := ofUnits false unitsPerOne (2 ^ k)

def isFinite : Binary64 → Bool
  | .finite _ => true
  | _ => false

/-! ## Order and arithmetic -/

/-- Numeric order; nothing is below or above what is not a number, and the two zeros are equal. -/
def lt : Binary64 → Binary64 → Bool
  | .finite x, .finite y => x.units < y.units
  | .finite _, .infinite negative => !negative
  | .infinite negative, .finite _ => negative
  | .infinite a, .infinite b => a && !b
  | _, _ => false

def le : Binary64 → Binary64 → Bool
  | .finite x, .finite y => x.units ≤ y.units
  | .finite _, .infinite negative => !negative
  | .infinite negative, .finite _ => negative
  | .infinite a, .infinite b => a || !b
  | _, _ => false

instance : LT Binary64 := ⟨fun x y => x.lt y = true⟩

instance : LE Binary64 := ⟨fun x y => x.le y = true⟩

instance (x y : Binary64) : Decidable (x < y) := inferInstanceAs (Decidable (x.lt y = true))

instance (x y : Binary64) : Decidable (x ≤ y) := inferInstanceAs (Decidable (x.le y = true))

/-- Equality of values: both zeros are equal, and what is not a number equals nothing. -/
def sameValue (x y : Binary64) : Bool := x.le y && y.le x

def isRate (x : Binary64) : Bool := zero.le x && x.le one

def isFraction (x : Binary64) : Bool := zero.le x && x.lt one

def neg : Binary64 → Binary64
  | .nan => .nan
  | .infinite negative => .infinite (!negative)
  | .finite x => .finite x.neg

/-- The exact sum, rounded; an exact zero is positive unless both terms are negative. -/
def add : Binary64 → Binary64 → Binary64
  | .finite x, .finite y =>
    if x.units + y.units = 0 then .finite (.zero (x.negative && y.negative))
    else ofUnits (x.units + y.units < 0) (x.units + y.units).natAbs 1
  | .infinite a, .infinite b => if a = b then .infinite a else .nan
  | .infinite a, .finite _ => .infinite a
  | .finite _, .infinite b => .infinite b
  | _, _ => .nan

def sub (x y : Binary64) : Binary64 := x.add y.neg

def mul : Binary64 → Binary64 → Binary64
  | .finite x, .finite y =>
    ofUnits (x.negative != y.negative) (x.magnitude * y.magnitude) unitsPerOne
  | .infinite a, .infinite b => .infinite (a != b)
  | .infinite a, .finite y => if y.magnitude = 0 then .nan else .infinite (a != y.negative)
  | .finite x, .infinite b => if x.magnitude = 0 then .nan else .infinite (x.negative != b)
  | _, _ => .nan

def div : Binary64 → Binary64 → Binary64
  | .finite x, .finite y =>
    if y.magnitude = 0 then
      if x.magnitude = 0 then .nan else .infinite (x.negative != y.negative)
    else ofUnits (x.negative != y.negative) (x.magnitude * unitsPerOne) y.magnitude
  | .infinite a, .finite y => .infinite (a != y.negative)
  | .finite x, .infinite b => .finite (.zero (x.negative != b))
  | _, _ => .nan

instance : Neg Binary64 := ⟨neg⟩

instance : Add Binary64 := ⟨add⟩

instance : Sub Binary64 := ⟨sub⟩

instance : Mul Binary64 := ⟨mul⟩

instance : Div Binary64 := ⟨div⟩

def toBits : Binary64 → UInt64
  | .nan => 0x7ff8000000000000
  | .infinite negative => if negative then 0xfff0000000000000 else 0x7ff0000000000000
  | .finite x => .ofNat ((if x.negative then 2 ^ 63 else 0) + x.shift * 2 ^ 52 + x.significand)

def ofBits (bits : UInt64) : Binary64 :=
  let negative : Bool := 2 ^ 63 ≤ bits.toNat
  let exponent := bits.toNat / 2 ^ 52 % 2 ^ 11
  let fraction := bits.toNat % 2 ^ 52
  if exponent = 2047 then if fraction = 0 then .infinite negative else .nan
  else if exponent = 0 then ofUnits negative fraction 1
  else ofUnits negative ((2 ^ 52 + fraction) * 2 ^ (exponent - 1)) 1

end Binary64

end TraceRelay
