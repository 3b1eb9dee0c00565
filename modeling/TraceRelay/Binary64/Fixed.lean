import TraceRelay.Binary64.Reading

/-!
# A fixed number of decimal places

`n` steps of `10 ^ -places` are written as whole part, point and exactly `places` digits. A
magnitude meets that grid in two ways: rounded to the nearest step, or truncated to the step at or
below it. Both work on the exact value of the number.
-/

namespace TraceRelay

def pointed (n places : Nat) : List Char :=
  Nat.toDigits 10 (n / 10 ^ places) ++ '.' :: (Nat.toDigits 10 (n % 10 ^ places)).leftpad places '0'

def signText (negative : Bool) : List Char := if negative then ['-'] else []

def wholeText (n : Int) : List Char := signText (n < 0) ++ Nat.toDigits 10 n.natAbs

namespace Finite

/-- The step of `10 ^ -places` nearest to the magnitude, a half going to the even step. -/
def roundedSteps (x : Finite) (places : Nat) : Nat :=
  roundHalfEven (x.magnitude * 10 ^ places) unitsPerOne

def truncatedSteps (x : Finite) (places : Nat) : Nat := x.magnitude * 10 ^ places / unitsPerOne

def fixed (x : Finite) (places : Nat) : List Char :=
  signText x.negative ++ pointed (x.roundedSteps places) places

end Finite

end TraceRelay
