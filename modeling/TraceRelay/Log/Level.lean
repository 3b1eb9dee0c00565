import TraceRelay.Text.Blank
import TraceRelay.Text.Lower

/-!
# Log levels

Levels from the most severe to the most talkative. A level is named in any case, between blanks.
-/

namespace TraceRelay

inductive Level where
  | error
  | warn
  | info
  | debug
  | trace
deriving DecidableEq

structure LevelError where
  text : String
deriving DecidableEq

def LevelError.message (e : LevelError) : String :=
  "Invalid log level: '" ++ e.text ++ "'. Valid levels are: error, warn, info, debug, trace"

namespace Level

def name : Level → String
  | error => "ERROR"
  | warn => "WARN"
  | info => "INFO"
  | debug => "DEBUG"
  | trace => "TRACE"

def filterName : Level → String
  | error => "error"
  | warn => "warn"
  | info => "info"
  | debug => "debug"
  | trace => "trace"

def verbosity : Level → Nat
  | error => 1
  | warn => 2
  | info => 3
  | debug => 4
  | trace => 5

def allows (max l : Level) : Bool := l.verbosity ≤ max.verbosity

def ofName? : String → Option Level
  | "error" => some error
  | "warn" => some warn
  | "warning" => some warn
  | "info" => some info
  | "debug" => some debug
  | "trace" => some trace
  | _ => none

def parse (text : String) : Except LevelError Level :=
  match ofName? (String.ofList (lowerChars (trim text.toList))) with
  | some l => .ok l
  | none => .error ⟨text⟩

end Level

end TraceRelay
