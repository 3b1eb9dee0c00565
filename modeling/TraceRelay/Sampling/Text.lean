import TraceRelay.Binary64.Shortest
import TraceRelay.Text.Blank

/-!
# Rates and random values as text

A random value travels with six decimal places, cut off rather than rounded, so that what is
written never lies above the value that was decided with. `quantize` takes a value to what its
written form denotes; values on that grid are written back unchanged.
-/

namespace TraceRelay

def randPlaces : Nat := 6

def number? (text : String) : Option Binary64 := Binary64.ofText? (trim text.toList)

def rate? (text : String) : Option Binary64 := (number? text).filter Binary64.isRate

def fraction? (text : String) : Option Binary64 := (number? text).filter Binary64.isFraction

/-- The last written step that does not lie above a random value; out of range, the first or the
last there is. -/
def randSteps (x : Binary64) : Nat :=
  if x = .nan ∨ x ≤ .zero then 0
  else if Binary64.one ≤ x then 10 ^ randPlaces - 1
  else
    match x with
    | .finite x => x.truncatedSteps randPlaces
    | _ => 0

def randChars (x : Binary64) : List Char := pointed (randSteps x) randPlaces

def randText (x : Binary64) : String := String.ofList (randChars x)

def quantize (x : Binary64) : Binary64 := (Binary64.ofText? (randChars x)).getD .zero

def trimZeros (text : List Char) : List Char :=
  let trimmed := (text.reverse.dropWhile (· == '0')).reverse
  if trimmed.getLast? = some '.' then trimmed ++ ['0'] else trimmed

/-- The six places of a random value: rounded, if that denotes the value itself, else cut off. -/
def fixedRandChars (x : Binary64) : List Char :=
  match x with
  | .finite f =>
    if x.isFraction && (Binary64.ofText? (f.fixed randPlaces)).any (·.sameValue x) then
      f.fixed randPlaces
    else randChars x
  | _ => randChars x

def trimmedRandText (x : Binary64) : String := String.ofList (trimZeros (fixedRandChars x))

example : randChars (.ofDecimal false 9999999 (-7)) = "0.999999".toList := by decide +kernel

example : trimZeros (fixedRandChars (.ofDecimal false 25 (-2))) = "0.25".toList := by decide +kernel

def rateText (x : Binary64) : String := x.write .rate

end TraceRelay
