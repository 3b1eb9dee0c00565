/-!
# Trace and span ids

A trace id names all the work done for one request, a span id one piece of it. On the wire they are
32 and 16 hexadecimal digits. An id is kept as it was given; only `parse` insists on that shape, and
fresh ids have it by construction.
-/

namespace TraceRelay

structure TraceId where
  text : String
deriving DecidableEq

structure SpanId where
  text : String
deriving DecidableEq

def isLowerHexDigit (c : Char) : Bool := c.isDigit || ('a' ≤ c && c ≤ 'f')

def isHexDigit (c : Char) : Bool := isLowerHexDigit c || ('A' ≤ c && c ≤ 'F')

def isHexOfWidth (width : Nat) (text : List Char) : Bool :=
  text.length == width && text.all isHexDigit

def isLowerHexOfWidth (width : Nat) (text : List Char) : Bool :=
  text.length == width && text.all isLowerHexDigit

/-- `width` hexadecimal digits of a number, its lowest ones. -/
def hexOfWidth (width n : Nat) : String :=
  String.ofList ((Nat.toDigits 16 (n % 16 ^ width)).leftpad width '0')

/-- The order of texts, by their octets in UTF-8. -/
def compareTexts (a b : String) : Ordering := if a < b then .lt else if a = b then .eq else .gt

/-- A text that ought to be an id or a trace header and is not. -/
inductive HeaderError where
  | traceId
  | spanId
  | traceHeader
deriving DecidableEq

def traceHeaderName : String := "sentry-trace"

namespace HeaderError

def subject : HeaderError → String
  | traceId => "trace_id"
  | spanId => "span_id"
  | traceHeader => traceHeaderName

def expectation : HeaderError → String
  | traceId => "expected 32 hexadecimal characters"
  | spanId => "expected 16 hexadecimal characters"
  | traceHeader => "expected `\x7b32 hex\x7d-\x7b16 hex\x7d[-\x7b0|1\x7d]`"

def message (e : HeaderError) : String :=
  "Cannot decode `" ++ e.subject ++ "` header: " ++ e.expectation

end HeaderError

namespace TraceId

def isValid (id : TraceId) : Bool := isHexOfWidth 32 id.text.toList

def parse (text : String) : Except HeaderError TraceId :=
  if isValid ⟨text⟩ then .ok ⟨text⟩ else .error .traceId

def ofNumber (n : Nat) : TraceId := ⟨hexOfWidth 32 n⟩

end TraceId

namespace SpanId

def isValid (id : SpanId) : Bool := isHexOfWidth 16 id.text.toList

def parse (text : String) : Except HeaderError SpanId :=
  if isValid ⟨text⟩ then .ok ⟨text⟩ else .error .spanId

def ofNumber (n : Nat) : SpanId := ⟨hexOfWidth 16 n⟩

end SpanId

end TraceRelay
