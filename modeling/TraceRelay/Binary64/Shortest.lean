import TraceRelay.Binary64.Fixed

/-!
# Shortest digits

The text of a number has the fewest digits that are read back as that number. All decimal places
down to `10 ^ -1074` are whole multiples of `10 ^ -1074`, and so is every finite magnitude, so the
search for those digits runs on whole numbers: from the coarsest grid of powers of ten to the
finest, the first that has a point in the basin of the number.
-/

namespace TraceRelay

namespace Finite

def quarterGap (x : Finite) : Nat := 2 ^ x.shift * 5 ^ 1074

def quarters (x : Finite) : Nat := 4 * x.significand * x.quarterGap

/-- Magnitudes, in quarters of `10 ^ -1074`, that are rounded to this one: those nearer to it than
to its neighbours, of which the lower one is only half as far at the start of a binade. The two
ends belong to it when its significand is even. -/
def basin (x : Finite) (n : Nat) : Bool :=
  let low := x.quarters - (if x.significand = 2 ^ 52 ∧ x.shift ≠ 0 then 1 else 2) * x.quarterGap
  let high := x.quarters + 2 * x.quarterGap
  if x.significand % 2 = 0 then low ≤ n && n ≤ high else low < n && n < high

def onGrid? (x : Finite) (up : Bool) (j : Nat) : Option Nat :=
  let step := 4 * 10 ^ j
  let below := x.quarters / step
  let twice := 2 * (x.quarters % step)
  let upper : Bool := step < twice || (step == twice && (up || below % 2 == 1))
  match x.basin (below * step), x.basin ((below + 1) * step) with
  | true, true => some (if upper then below + 1 else below)
  | true, false => some below
  | false, true => some (below + 1)
  | false, false => none

/-- The first hit on the grids from `10 ^ (j - 1074)` downwards, with its exponent. The finest grid
holds the magnitude itself. -/
def digitsFrom (x : Finite) (up : Bool) : Nat → Nat × Int
  | 0 => (x.magnitude * 5 ^ 1074, -1074)
  | j + 1 =>
    match x.onGrid? up (j + 1) with
    | some n => (n, j + 1 - 1074)
    | none => x.digitsFrom up j

def shortest (x : Finite) (up : Bool) : Nat × Int :=
  if x.significand = 0 then (0, 0) else x.digitsFrom up (309 + 1074)

end Finite

/-! ## Layouts -/

/-- How a number is set out in text. Powers of ten from `least` on and below `bound` are written without an exponent.
Of two equally near shortest texts the greater is taken if `tieUp`, else the even one. -/
structure Layout where
  least : Option Int
  bound : Option Int
  wholePoint : Bool
  plusSign : Bool
  tieUp : Bool

namespace Layout

def message : Layout := ⟨none, none, false, false, true⟩

def rate : Layout := ⟨none, none, true, false, true⟩

def field : Layout := ⟨some (-4), some 16, true, false, true⟩

def json : Layout := ⟨some (-5), some 16, true, true, false⟩

def positional (wholePoint : Bool) (n : Nat) (exponent : Int) : List Char :=
  if 0 ≤ exponent then
    Nat.toDigits 10 (n * 10 ^ exponent.toNat) ++ (if wholePoint then ['.', '0'] else [])
  else pointed n (-exponent).toNat

def exponentText (plusSign : Bool) (power : Int) : List Char :=
  'e' :: ((if plusSign && 0 ≤ power then ['+'] else []) ++ wholeText power)

def scientific (plusSign : Bool) (digits : List Char) (power : Int) : List Char :=
  digits.take 1 ++ (if digits.length ≤ 1 then [] else '.' :: digits.drop 1) ++
    exponentText plusSign power

def magnitudeText (l : Layout) (n : Nat) (exponent : Int) : List Char :=
  let digits := Nat.toDigits 10 n
  let power := exponent + digits.length - 1
  if n = 0 ∨ (l.least.all (· ≤ power) ∧ l.bound.all (power < ·)) then
    positional l.wholePoint n exponent
  else scientific l.plusSign digits power

end Layout

namespace Binary64

def text (l : Layout) : Binary64 → List Char
  | .nan => ['N', 'a', 'N']
  | .infinite negative => signText negative ++ ['i', 'n', 'f']
  | .finite x =>
    signText x.negative ++ l.magnitudeText (x.shortest l.tieUp).1 (x.shortest l.tieUp).2

def write (l : Layout) (x : Binary64) : String := String.ofList (x.text l)

/-! Each layout at the ends of its range without an exponent. -/

example : (ofDecimal false 1 21).text .message = "1000000000000000000000".toList := by
  decide +kernel

example : (ofDecimal false 1 (-7)).text .message = "0.0000001".toList := by decide +kernel

example : one.text .rate = "1.0".toList := by decide +kernel

example : (ofDecimal false 1 (-4)).text .field = "0.0001".toList := by decide +kernel

example : (ofDecimal false 1 (-5)).text .field = "1e-5".toList := by decide +kernel

example : (ofDecimal true 1 16).text .field = "-1e16".toList := by decide +kernel

example : (ofDecimal false 1 (-5)).text .json = "0.00001".toList := by decide +kernel

example : (ofDecimal false 15 (-7)).text .json = "1.5e-6".toList := by decide +kernel

example : (ofDecimal false 1 16).text .json = "1e+16".toList := by decide +kernel

end Binary64

end TraceRelay
