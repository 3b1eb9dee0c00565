import TraceRelay.Binary64.Basic

/-!
# Reading numbers from decimal text

A number is written as digits with at most one point among them, an optional exponent, and an
optional sign; `inf`, `infinity` and `nan` in any case also name numbers. The value is exact before
it is rounded once.
-/

namespace TraceRelay

namespace Binary64

/-- The number nearest to `digits * 10 ^ exponent`. The first two cases lie beyond the last finite
number and below half of the least one. -/
def ofDecimal (negative : Bool) (digits : Nat) (exponent : Int) : Binary64 :=
  if digits = 0 then .finite (.zero negative)
  else if 400 < exponent then .infinite negative
  else if digits.log2 + 3 * exponent < -1200 then .finite (.zero negative)
  else ofUnits negative (digits * 10 ^ exponent.toNat * unitsPerOne) (10 ^ (-exponent).toNat)

def exponentValue (digits : List Char) : Nat :=
  digits.foldl (fun n d => if n < 2 ^ 16 then Nat.ofDigitChars 10 [d] n else n) 0

def exponent? : List Char → Option Int
  | [] => some 0
  | e :: rest =>
    if e = 'e' ∨ e = 'E' then
      match rest with
      | '-' :: ds => (digits? ds).map fun n => -(n : Int)
      | '+' :: ds => (digits? ds).map fun n => (n : Int)
      | ds => (digits? ds).map fun n => (n : Int)
    else none
where
  digits? (ds : List Char) : Option Nat :=
    if ds ≠ [] ∧ ds.all Char.isDigit then some (exponentValue ds) else none

def ofDigits? (negative : Bool) (text : List Char) : Option Binary64 :=
  let whole := text.takeWhile Char.isDigit
  let rest := text.dropWhile Char.isDigit
  let (places, rest) := match rest with
    | '.' :: r => (r.takeWhile Char.isDigit, r.dropWhile Char.isDigit)
    | _ => ([], rest)
  if whole ++ places = [] then none
  else (exponent? rest).map fun e =>
    ofDecimal negative (Nat.ofDigitChars 10 (whole ++ places) 0) (e - places.length)

def ofName? (negative : Bool) (text : List Char) : Option Binary64 :=
  match String.ofList (text.map Char.toLower) with
  | "inf" | "infinity" => some (.infinite negative)
  | "nan" => some .nan
  | _ => none

def ofUnsigned? (negative : Bool) (text : List Char) : Option Binary64 :=
  (ofDigits? negative text).or (ofName? negative text)

def ofText? : List Char → Option Binary64
  | '-' :: rest => ofUnsigned? true rest
  | '+' :: rest => ofUnsigned? false rest
  | text => ofUnsigned? false text

end Binary64

end TraceRelay
