import TraceRelay.Binary64.Reading
import TraceRelay.Json.Basic

/-!
# Numbers in JSON text

Digits are gathered into a whole number below `2 ^ 64`; those that no longer fit only count as
places. A number with a point, an exponent or too many digits becomes real, by one multiplication
or division with a power of ten, each rounded. So the last bit may differ from the nearest number's.
-/

namespace TraceRelay

inductive JsonFault where
  | malformed
  | unfinished
  /-- The text is JSON, but not of the form that was asked for. -/
  | misfit
deriving DecidableEq

structure NumberText where
  negative : Bool
  whole : List Char
  places : Option (List Char)
  exponent : Option (Bool × List Char)

namespace NumberText

/-- The digits at the head of a text, of which there must be one; `short` is the fault of a text
that ends before it. -/
def digits (short : JsonFault) (text : List Char) : Except JsonFault (List Char × List Char) :=
  match text with
  | [] => .error short
  | c :: _ =>
    if c.isDigit then .ok (text.takeWhile Char.isDigit, text.dropWhile Char.isDigit)
    else .error .malformed

def scanWhole (short : JsonFault) (text : List Char) :
    Except JsonFault (List Char × List Char) := do
  let (ds, rest) ← digits short text
  if ds.head? = some '0' ∧ 1 < ds.length then .error .malformed else .ok (ds, rest)

def scanPlaces (short : JsonFault) :
    List Char → Except JsonFault (Option (List Char) × List Char)
  | '.' :: rest => do
    let (ds, rest) ← digits short rest
    .ok (some ds, rest)
  | rest => .ok (none, rest)

def scanExponent (short : JsonFault) (text : List Char) :
    Except JsonFault (Option (Bool × List Char) × List Char) :=
  match text with
  | [] => .ok (none, [])
  | e :: rest =>
    if e = 'e' ∨ e = 'E' then do
      let (negative, rest) := match rest with
        | '+' :: rest => (false, rest)
        | '-' :: rest => (true, rest)
        | rest => (false, rest)
      let (ds, rest) ← digits short rest
      .ok (some (negative, ds), rest)
    else .ok (none, text)

def scan (short : JsonFault) (text : List Char) : Except JsonFault (NumberText × List Char) := do
  let (negative, rest) := match text with
    | '-' :: rest => (true, rest)
    | rest => (false, rest)
  let (whole, rest) ← scanWhole short rest
  let (places, rest) ← scanPlaces short rest
  let (exponent, rest) ← scanExponent short rest
  .ok (⟨negative, whole, places, exponent⟩, rest)

def gather (significand : Nat) : List Char → Nat × List Char
  | [] => (significand, [])
  | d :: ds =>
    let n := Nat.ofDigitChars 10 [d] significand
    if n < 2 ^ 64 then gather n ds else (significand, d :: ds)

def greatestPower : Nat := 308

def powerOfTen (k : Nat) : Binary64 := .ofDecimal false 1 k

def scaled (x : Binary64) (exponent : Int) : Option Binary64 :=
  if exponent.natAbs ≤ greatestPower then
    if 0 ≤ exponent then
      let y := x * powerOfTen exponent.natAbs
      if y.isFinite then some y else none
    else some (x / powerOfTen exponent.natAbs)
  else if x.sameValue .zero then some x
  else if 0 ≤ exponent then none
  else scaled (x / powerOfTen greatestPower) (exponent + greatestPower)
termination_by (-exponent).toNat
decreasing_by simp only [greatestPower]; omega

def value? (t : NumberText) : Option JsonNumber :=
  let (s, left) := gather 0 t.whole
  if t.places.isNone ∧ t.exponent.isNone ∧ left = [] ∧ (t.negative → 0 < s ∧ s ≤ 2 ^ 63) then
    some (.whole (if t.negative then -(s : Int) else s))
  else
    let places := t.places.getD []
    let (s, unused) := gather s places
    let shift : Int := left.length - (places.length - unused.length : Nat)
    let sign (x : Binary64) : JsonNumber := .real (if t.negative then -x else x)
    match t.exponent with
    | none => (scaled (.ofNat s) shift).map sign
    | some (negative, ds) =>
      let e := Nat.ofDigitChars 10 ds 0
      if e < 2 ^ 31 then
        (scaled (.ofNat s) (if negative then shift - e else shift + e)).map sign
      else if s ≠ 0 ∧ !negative then none
      else some (sign .zero)

end NumberText

end TraceRelay
