import TraceRelay.Json.Basic
import TraceRelay.Binary64.Reading

/-!
# Flags

A flag is true or false, or one or zero as a number, or a text that says one of these.
-/

namespace TraceRelay

inductive FlagError where
  | otherWhole
  | otherReal
  | otherText (text : String)
  | otherKind
deriving DecidableEq

def FlagError.message : FlagError → String
  | otherWhole => "The number is neither 1 nor 0"
  | otherReal => "The number is neither 1.0 nor 0.0"
  | otherText text => "Could not parse boolean from a string: " ++ text
  | otherKind => "data did not match any variant of untagged enum AnythingOrBool"

def isWord (n : Int) : Bool := -2 ^ 63 ≤ n && n < 2 ^ 63

def word? (text : List Char) : Option Int :=
  let (negative, digits) := match text with
    | '-' :: ds => (true, ds)
    | '+' :: ds => (false, ds)
    | ds => (false, ds)
  if digits ≠ [] ∧ digits.all Char.isDigit then
    let n : Int := Nat.ofDigitChars 10 digits 0
    let n := if negative then -n else n
    if isWord n then some n else none
  else none

namespace Flag

def ofWhole (n : Int) : Except FlagError Bool :=
  if n = 1 then .ok true else if n = 0 then .ok false else .error .otherWhole

/-- The distance within which a real number counts as one. -/
def tolerance : Binary64 := .twoPowNeg 52

def ofReal (x : Binary64) : Except FlagError Bool :=
  let distance := x - .one
  if distance < tolerance ∧ -tolerance < distance then .ok true
  else if x.sameValue .zero then .ok false
  else .error .otherReal

def ofText (text : String) : Except FlagError Bool :=
  match String.ofList (text.toList.map Char.toLower) with
  | "true" => .ok true
  | "false" => .ok false
  | _ =>
    match word? text.toList with
    | some n => ofWhole n
    | none =>
      match Binary64.ofText? text.toList with
      | some x => ofReal x
      | none => .error (.otherText text)

def ofJson : Json → Except FlagError Bool
  | .bool b => .ok b
  | .number (.whole n) => if isWord n then ofWhole n else ofReal (.ofInt n)
  | .number (.real x) => ofReal x
  | .text s => ofText s
  | _ => .error .otherKind

end Flag

end TraceRelay
