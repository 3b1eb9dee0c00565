import TraceRelay.Json.Writing
import TraceRelay.Settings.Basic

/-!
# Settings from structured data

A JSON object holds settings by name, and an array in a fixed order. Here a rate or a level that
cannot be read is complained about and otherwise counts as absent; only a bad flag, or a value of
another kind, is refused.
-/

namespace TraceRelay

namespace Settings

def rateKey : String := "traces_sample_rate"
def propagateKey : String := "propagate_traces"
def logLevelKey : String := "log_level"

def rateOfJson : Json → Option Binary64
  | .number n => some n.toBinary64
  | .text s => number? s
  | _ => none

def rateComplaints : Json → List String
  | .null => []
  | .number _ => []
  | .text s =>
    if trim s.toList = [] ∨ (number? s).isSome then []
    else ["Failed to parse sample rate `" ++ s ++ "`, ignoring"]
  | j =>
    ["Failed to parse value, expected a number or a string, got: " ++ j.write ++ ", ignoring"]

def levelOfJson : Json → Level
  | .text s => match Level.parse s with
    | .ok l => l
    | .error _ => .warn
  | _ => .warn

def levelComplaints : Json → List String
  | .text s => match Level.parse s with
    | .ok _ => []
    | .error e => [e.message]
  | j => ["Expected a string for log level, got " ++ j.logText]

def ofFields (rate propagate logLevel : Option Json) : Except FlagError Settings := do
  let propagate ← propagate.elim (.ok defaults.propagate) Flag.ofJson
  .ok ⟨rate.elim defaults.rate rateOfJson, propagate, logLevel.elim defaults.logLevel levelOfJson⟩

/-! ## Whole values -/

inductive StructureError where
  | badFlag (e : FlagError)
  | otherKind (found : Json)
  | tooLong (length : Nat)

def kindText : Json → String
  | .null => "null"
  | .bool b => "boolean `" ++ String.ofList (Json.boolText b) ++ "`"
  | .number (.whole n) => "integer `" ++ String.ofList (wholeText n) ++ "`"
  | .number (.real x) => "floating point `" ++ x.write .json ++ "`"
  | .text s => "string " ++ quoted s
  | .array _ => "sequence"
  | .object _ => "map"

def StructureError.message : StructureError → String
  | badFlag e => e.message
  | otherKind found => "invalid type: " ++ kindText found ++ ", expected struct Config"
  | tooLong length =>
    "invalid length " ++ String.ofList (Nat.toDigits 10 length) ++
      ", expected fewer elements in array"

def fieldCount : Nat := 3

def ofJson : Json → Except StructureError Settings
  | .object ms =>
    match ofFields (ms.lookup rateKey) (ms.lookup propagateKey) (ms.lookup logLevelKey) with
    | .ok s => .ok s
    | .error e => .error (.badFlag e)
  | .array items =>
    match ofFields items[0]? items[1]? items[2]? with
    | .ok s => if items.length ≤ fieldCount then .ok s else .error (.tooLong items.length)
    | .error e => .error (.badFlag e)
  | j => .error (.otherKind j)

def flagPasses (propagate : Option Json) : Bool := propagate.all fun j => (Flag.ofJson j).isOk

/-- What is complained about, in the order of reading: by name for an object, by place for an array,
and nothing behind a flag that is refused. -/
def complaints : Json → List String
  | .object ms =>
    (ms.lookup logLevelKey).elim [] levelComplaints ++
      (if flagPasses (ms.lookup propagateKey) then (ms.lookup rateKey).elim [] rateComplaints
      else [])
  | .array items =>
    items[0]?.elim [] rateComplaints ++
      (if flagPasses items[1]? then items[2]?.elim [] levelComplaints else [])
  | _ => []

end Settings

end TraceRelay
