import TraceRelay.Text.CasedTable
import TraceRelay.Text.LowerTable
import TraceRelay.Text.Ranges

/-!
# Lower case

Header names are compared in lower case, by the full rules of Unicode: a capital dotted i becomes
two characters, and a capital sigma becomes the final form at the end of a word.
-/

namespace TraceRelay

def isCased : Char → Bool := inRanges casedRanges

def isIgnorable : Char → Bool := inRanges ignorableRanges

def meetsCased (text : List Char) : Bool := (text.dropWhile isIgnorable).head?.any isCased

def lowerChar (c : Char) : List Char :=
  if c.toNat < 0x80 then [c.toLower]
  else if c.toNat = 0x130 then ['i', '\u0307']
  else
    match lowerRuns.find? (·.contains c.toNat) with
    | some r => [Char.ofNat (r.target + (c.toNat - r.first))]
    | none => [c]

/-- The form of a text that follows `before`, which is given in reverse. -/
def lowerAfter (before : List Char) : List Char → List Char
  | [] => []
  | c :: rest =>
    (if c.toNat = 0x3A3 then
      [if meetsCased before && !meetsCased rest then '\u03C2' else '\u03C3']
    else lowerChar c) ++ lowerAfter (c :: before) rest

def lowerChars (text : List Char) : List Char := lowerAfter [] text

def lower (text : String) : String := String.ofList (lowerChars text.toList)

example : lowerChars "ΑΣ-ΣΑΣ".toList = "ας-σας".toList := by decide +kernel

example : lowerChars ['İ', 'Ꟁ'] = ['i', '\u0307', 'ꟁ'] := by decide +kernel

def equalIgnoringCase (a b : String) : Bool :=
  a.toList.map Char.toLower == b.toList.map Char.toLower

end TraceRelay
