import TraceRelay.Ident

/-!
# The trace header

One line names the trace, the sending span, and, once it is made, the sampling decision:
`<trace id>-<span id>[-<0 or 1>]`. A reader admits spaces and tabs around it, and only lower case
digits.
-/

namespace TraceRelay

structure TraceHeader where
  traceId : TraceId
  spanId : SpanId
  sampled : Option Bool
deriving DecidableEq

def isGap (c : Char) : Bool := c == ' ' || c == '\t'

def trimGaps (text : List Char) : List Char :=
  ((text.dropWhile isGap).reverse.dropWhile isGap).reverse

namespace TraceHeader

def flagText : Option Bool → List Char
  | none => []
  | some sampled => ['-', if sampled then '1' else '0']

def flag? : List Char → Option (Option Bool)
  | [] => some none
  | ['-', '0'] => some (some false)
  | ['-', '1'] => some (some true)
  | _ => none

/-- The written form, whatever the ids hold. -/
def chars (h : TraceHeader) : List Char :=
  h.traceId.text.toList ++ '-' :: (h.spanId.text.toList ++ flagText h.sampled)

def encode (h : TraceHeader) : String := String.ofList h.chars

def ofChars? (text : List Char) : Option TraceHeader :=
  let traceId := text.take 32
  match text.drop 32 with
  | '-' :: rest =>
    let spanId := rest.take 16
    if isLowerHexOfWidth 32 traceId && isLowerHexOfWidth 16 spanId then
      (flag? (rest.drop 16)).map fun sampled =>
        ⟨⟨String.ofList traceId⟩, ⟨String.ofList spanId⟩, sampled⟩
    else none
  | _ => none

def decode (text : String) : Except HeaderError TraceHeader :=
  match ofChars? (trimGaps text.toList) with
  | some h => .ok h
  | none => .error .traceHeader

end TraceHeader

end TraceRelay
