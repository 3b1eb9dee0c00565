import TraceRelay.Binary64.Shortest
import TraceRelay.Log.Level
import TraceRelay.Text.Quoted

/-!
# Log lines

A line holds the level of an event, the spans it happened in from the outermost on, its message, and
its fields. Controls in a message that could steer a terminal are written by their code.
-/

namespace TraceRelay

inductive FieldValue where
  | whole (n : Int)
  | number (x : Binary64)
  | text (s : String)

def FieldValue.write : FieldValue → String
  | whole n => String.ofList (wholeText n)
  | number x => x.write .field
  | text s => quoted s

abbrev Field : Type := String × FieldValue

def fieldText (f : Field) : String := f.1 ++ "=" ++ f.2.write

structure Span where
  level : Level
  name : String
  fields : List Field

structure LogEvent where
  level : Level
  message : String
  fields : List Field
  /-- The spans around the event, the outermost first. -/
  spans : List Span

def messageChar (c : Char) : List Char :=
  match c with
  | '\x1b' => "\\x1b".toList
  | '\x07' => "\\x07".toList
  | '\x08' => "\\x08".toList
  | '\x0c' => "\\x0c".toList
  | '\x7f' => "\\x7f".toList
  | c => if 0x80 ≤ c.toNat ∧ c.toNat ≤ 0x9F then codePointEscape c else [c]

def messageText (message : String) : String := String.ofList (message.toList.flatMap messageChar)

def Span.text (s : Span) : String :=
  s.name ++
    (if s.fields.isEmpty then ""
    else "\x7b" ++ " ".intercalate (s.fields.map fieldText) ++ "\x7d") ++
    ": "

namespace LogEvent

def plain (level : Level) (message : String) : LogEvent := ⟨level, message, [], []⟩

def line (max : Level) (e : LogEvent) : String :=
  "SENTRY_PROPAGATION | " ++ e.level.name ++ " | " ++
    String.join ((e.spans.filter fun s => max.allows s.level).map Span.text) ++
    messageText e.message ++ String.join (e.fields.map fun f => " " ++ fieldText f) ++ "\n"

def write (max : Level) (e : LogEvent) : String := if max.allows e.level then e.line max else ""

end LogEvent

inductive OutputError where
  | alreadySet

def OutputError.message : OutputError → String
  | alreadySet => "a global default trace dispatcher has already been set"

/-- Takes the place for a process's log output, which only the first can have. -/
def takeOutput (taken : Option Level) (level : Level) : Except OutputError Level :=
  match taken with
  | none => .ok level
  | some _ => .error .alreadySet

end TraceRelay
