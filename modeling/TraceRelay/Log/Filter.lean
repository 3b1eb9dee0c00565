import TraceRelay.Log.Level
import TraceRelay.Text.Alphanumeric

/-!
# Log filters

The greatest level that a process logs at, if it logs at all. The environment can set it by
directives between commas: a level, or a place with a level, `place[span{fields}]=level`, of which
all parts but one may be missing. A filter goes as far as its most talkative directive does.
-/

namespace TraceRelay

abbrev Filter : Type := Option Level

namespace Filter

def all : Filter := some .trace

def name : Filter → String
  | none => "off"
  | some l => l.filterName

def verbosity : Filter → Nat
  | none => 0
  | some l => l.verbosity

def max (f g : Filter) : Filter := if f.verbosity < g.verbosity then g else f

def ofNumber? : Nat → Option Filter
  | 0 => some none
  | 1 => some (some .error)
  | 2 => some (some .warn)
  | 3 => some (some .info)
  | 4 => some (some .debug)
  | 5 => some (some .trace)
  | _ => none

def levelNumber? (word : List Char) : Option Nat :=
  let digits := if word.head? = some '+' then word.tail else word
  if digits ≠ [] ∧ digits.all Char.isDigit then some (Nat.ofDigitChars 10 digits 0) else none

def ofWord? (word : List Char) : Option Filter :=
  match levelNumber? word with
  | some n => ofNumber? n
  | none =>
    match String.ofList (word.map Char.toLower) with
    | "off" => some none
    | "warning" => none
    | name => (Level.ofName? name).map some

def ofLevelPart? (tidy : Bool) (word : List Char) : Option Filter :=
  if !tidy then none else if word = [] then some all else ofWord? word

/-! ## Directives -/

def isStart (c : Char) : Bool := c == '[' || c == '-' || c == ':' || c == '_' || isAlphanumeric c

def afterSpan? (tidy : Bool) : List Char → Option Filter
  | [] => some all
  | '=' :: word => ofLevelPart? tidy word
  | _ => none

/-- A span, behind its opening bracket. Where the value of a field matters, everything has to pass,
since a value is not known beforehand. -/
def ofSpan? (tidy : Bool) (text : List Char) : Option Filter :=
  match text.dropWhile fun c => c != ']' && c != '\x7b' with
  | ']' :: rest => afterSpan? tidy rest
  | '\x7b' :: rest =>
    match rest.takeWhile (· != '\x7d'), rest.dropWhile (· != '\x7d') with
    | [], _ => none
    | fields, '\x7d' :: ']' :: rest =>
      (afterSpan? tidy rest).map fun f => if '=' ∈ fields then all else f
    | _, _ => none
  | _ => none

/-- One directive. A word that names no level is a place, which logs at every level. -/
def ofDirective? (text : List Char) : Option Filter :=
  if (trim text).head?.any isStart then
    match (trim text).dropWhile fun c => c != '=' && c != '[' with
    | [] => some ((ofWord? text).getD all)
    | '=' :: word => ofLevelPart? (trim text == text) word
    | _ :: span => ofSpan? (trim text == text) span
  else none

def ofDirectives? (text : List Char) : Option Filter :=
  (((text.splitOn ',').filter (· ≠ [])).mapM ofDirective?).map (·.foldl max none)

example : ofDirectives? "warn,x=DEBUG".toList = some (some .debug) := by decide +kernel

example : ofDirectives? "x=,y=off".toList = some all := by decide +kernel

example : ofDirectives? "x= debug".toList = none := by decide +kernel

example : ofDirectives? [] = some none := by decide +kernel

/-- The filter in force at a level: readable directives of the environment win. -/
def inForce (level : Level) (directives : Option String) : Filter :=
  (directives.bind fun text => ofDirectives? text.toList).getD (some level)

end Filter

end TraceRelay
