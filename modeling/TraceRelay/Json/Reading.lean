import TraceRelay.Json.Number

/-!
# Reading JSON text

A value is either kept or skipped. A skipped one has to be JSON too, but its depth is not limited,
its numbers may lie beyond the finite ones, and its texts may hold half of a surrogate pair.
-/

namespace TraceRelay

namespace Json

abbrev Reader (α : Type) : Type := List Char → Except JsonFault (α × List Char)

def isGap (c : Char) : Bool := c == ' ' || c == '\n' || c == '\t' || c == '\r'

def skipGaps (cs : List Char) : List Char := cs.dropWhile isGap

def word : (word text : List Char) → Except JsonFault (List Char)
  | [], rest => .ok rest
  | _ :: _, [] => .error .unfinished
  | w :: ws, c :: rest => if w = c then word ws rest else .error .malformed

def hexDigit? (c : Char) : Option Nat :=
  if c.isDigit then some (c.toNat - 48)
  else if 'a' ≤ c ∧ c ≤ 'f' then some (c.toNat - 87)
  else if 'A' ≤ c ∧ c ≤ 'F' then some (c.toNat - 55)
  else none

/-- Four hexadecimal digits. A text is unfinished if it has fewer than four octets left. -/
def hexUnit : Reader Nat := fun cs =>
  if (String.ofList (cs.take 4)).utf8ByteSize < 4 then .error .unfinished
  else
    match (cs.take 4).mapM hexDigit? with
    | some [a, b, c, d] => .ok (((a * 16 + b) * 16 + c) * 16 + d, cs.drop 4)
    | _ => .error .malformed

def secondHalf : Reader Nat := fun cs =>
  match cs with
  | [] => .error .unfinished
  | '\\' :: rest =>
    match rest with
    | [] => .error .unfinished
    | 'u' :: rest => do
      let (n, rest) ← hexUnit rest
      if 0xDC00 ≤ n ∧ n ≤ 0xDFFF then .ok (n, rest) else .error .malformed
    | _ => .error .malformed
  | _ => .error .malformed

def numbered (keep : Bool) : Reader Char := fun cs => do
  let (n, rest) ← hexUnit cs
  if keep ∧ 0xD800 ≤ n ∧ n ≤ 0xDFFF then
    if 0xDC00 ≤ n then .error .malformed
    else
      let (m, rest) ← secondHalf rest
      .ok (Char.ofNat (0x10000 + (n - 0xD800) * 0x400 + (m - 0xDC00)), rest)
  else .ok (Char.ofNat n, rest)

def escaped (keep : Bool) : Reader Char := fun cs =>
  match cs with
  | [] => .error .unfinished
  | '"' :: rest => .ok ('"', rest)
  | '\\' :: rest => .ok ('\\', rest)
  | '/' :: rest => .ok ('/', rest)
  | 'b' :: rest => .ok ('\x08', rest)
  | 'f' :: rest => .ok ('\x0c', rest)
  | 'n' :: rest => .ok ('\n', rest)
  | 'r' :: rest => .ok ('\r', rest)
  | 't' :: rest => .ok ('\t', rest)
  | 'u' :: rest => numbered keep rest
  | _ => .error .malformed

def quotedBody (keep : Bool) : (fuel : Nat) → Reader (List Char)
  | 0, _ => .error .unfinished
  | _, [] => .error .unfinished
  | fuel + 1, c :: rest =>
    if c = '"' then .ok ([], rest)
    else if c.toNat < 0x20 then .error .malformed
    else do
      let (d, rest) ← if c = '\\' then escaped keep rest else .ok (c, rest)
      let (ds, rest) ← quotedBody keep fuel rest
      .ok (d :: ds, rest)

def quotedText (keep : Bool) : Reader String := fun cs => do
  let (cs, rest) ← quotedBody keep (cs.length + 1) cs
  .ok (String.ofList cs, rest)

/-! ## Values -/

def numberValue (keep : Bool) : Reader Json := fun cs => do
  let (t, rest) ← NumberText.scan (if keep then .unfinished else .malformed) cs
  if keep then
    match t.value? with
    | some n => .ok (.number n, rest)
    | none => .error .malformed
  else .ok (.null, rest)

def key (keep : Bool) : Reader String := fun cs =>
  match cs with
  | [] => .error .unfinished
  | '"' :: rest => quotedText keep rest
  | _ => .error .malformed

def colon (cs : List Char) : Except JsonFault (List Char) :=
  match skipGaps cs with
  | [] => .error .unfinished
  | ':' :: rest => .ok rest
  | _ => .error .malformed

/-- How deep kept values may be nested, plus one. -/
def depthLimit : Nat := 128

def itemStart (first : Bool) (cs : List Char) : Except JsonFault (List Char) :=
  match first, cs with
  | true, cs => .ok cs
  | false, ',' :: rest => .ok (skipGaps rest)
  | false, _ => .error .malformed

mutual

/-- A value; `depth` is what is left of the depth limit. Of two calls in a row at least one takes a
character, so fuel twice as long as the text is enough. -/
def value (keep : Bool) : (fuel depth : Nat) → Reader Json
  | 0, _, _ => .error .unfinished
  | fuel + 1, depth, cs =>
    match skipGaps cs with
    | [] => .error .unfinished
    | c :: rest =>
      if c = 'n' then do .ok (.null, ← word "ull".toList rest)
      else if c = 't' then do .ok (.bool true, ← word "rue".toList rest)
      else if c = 'f' then do .ok (.bool false, ← word "alse".toList rest)
      else if c = '"' then do
        let (s, rest) ← quotedText keep rest
        .ok (.text s, rest)
      else if c = '[' then
        if keep ∧ depth ≤ 1 then .error .malformed
        else do
          let (items, rest) ← arrayItems keep fuel (depth - 1) true rest
          .ok (.array items, rest)
      else if c = '\x7b' then
        if keep ∧ depth ≤ 1 then .error .malformed
        else do
          let (members, rest) ← objectMembers keep fuel (depth - 1) true rest
          .ok (ofMembers members, rest)
      else if c = '-' ∨ c.isDigit then numberValue keep (c :: rest)
      else .error .malformed

def arrayItems (keep : Bool) : (fuel depth : Nat) → (first : Bool) → Reader (List Json)
  | 0, _, _, _ => .error .unfinished
  | fuel + 1, depth, first, cs =>
    match skipGaps cs with
    | [] => .error .unfinished
    | c :: rest =>
      if c = ']' then .ok ([], rest)
      else do
        let start ← itemStart first (c :: rest)
        let (j, rest) ← value keep fuel depth start
        let (js, rest) ← arrayItems keep fuel depth false rest
        .ok (j :: js, rest)

def objectMembers (keep : Bool) : (fuel depth : Nat) → (first : Bool) →
    Reader (List (String × Json))
  | 0, _, _, _ => .error .unfinished
  | fuel + 1, depth, first, cs =>
    match skipGaps cs with
    | [] => .error .unfinished
    | c :: rest =>
      if c = '\x7d' then .ok ([], rest)
      else do
        let start ← itemStart first (c :: rest)
        let (key, rest) ← key keep start
        let (j, rest) ← value keep fuel depth (← colon rest)
        let (ms, rest) ← objectMembers keep fuel depth false rest
        .ok ((key, j) :: ms, rest)

end

/-- A value that is kept, inside what has used up `used` levels of depth. -/
def kept (used : Nat) : Reader Json := fun cs =>
  value true (2 * cs.length + 2) (depthLimit - used) cs

def skipped : Reader Unit := fun cs => do
  let (_, rest) ← value false (2 * cs.length + 2) 0 cs
  .ok ((), rest)

def finish (rest : List Char) : Except JsonFault Unit :=
  if skipGaps rest = [] then .ok () else .error .malformed

def ofText (text : String) : Except JsonFault Json := do
  let (j, rest) ← kept 0 text.toList
  finish rest
  .ok j

end Json

end TraceRelay
