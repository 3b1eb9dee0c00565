import TraceRelay.Log.Level
import TraceRelay.Sampling.Text
import TraceRelay.Settings.Flag

/-!
# Settings

How a service samples, whether it propagates traces, and how much it logs. The environment is read
strictly: a variable that is set and cannot be read is an error, and so is a rate outside `[0, 1]`.
-/

namespace TraceRelay

structure Settings where
  /-- The rate of transactions that start a trace; without one they are not sampled. -/
  rate : Option Binary64
  propagate : Bool
  logLevel : Level
deriving DecidableEq

inductive SettingsError where
  | rateOutOfRange (rate : Binary64)
  | badVariable (name value : String)
deriving DecidableEq

def SettingsError.message : SettingsError → String
  | rateOutOfRange rate =>
    "Invalid traces sample rate " ++ rate.write .message ++ ": must be between 0.0 and 1.0"
  | badVariable name value => "Invalid value `" ++ value ++ "` for " ++ name

structure Environment where
  rate : Option String
  propagate : Option String
  logLevel : Option String

def variableText? (value : Option (List UInt8)) : Option String :=
  value.bind fun octets => String.fromUTF8? octets.toByteArray

namespace Settings

def rateVariable : String := "SENTRY_TRACES_SAMPLE_RATE"
def propagateVariable : String := "SENTRY_PROPAGATE_TRACES"
def logLevelVariable : String := "SENTRY_LOG_LEVEL"

def defaults : Settings := ⟨none, true, .warn⟩

def validate (s : Settings) : Except SettingsError Unit :=
  match s.rate with
  | some rate => if rate.isRate then .ok () else .error (.rateOutOfRange rate)
  | none => .ok ()

/-- A rate in the environment; a blank one counts as unset. -/
def environmentRate (text : String) : Except SettingsError (Option Binary64) :=
  if trim text.toList = [] then .ok none
  else
    match number? text with
    | some rate => .ok (some rate)
    | none => .error (.badVariable rateVariable (String.ofList (trim text.toList)))

def environmentFlag (text : String) : Except SettingsError Bool :=
  match Flag.ofText (String.ofList (lowerChars (trim text.toList))) with
  | .ok b => .ok b
  | .error _ => .error (.badVariable propagateVariable text)

def environmentLevel (text : String) : Except SettingsError Level :=
  match Level.parse text with
  | .ok l => .ok l
  | .error _ => .error (.badVariable logLevelVariable text)

def ofEnvironment (e : Environment) : Except SettingsError Settings := do
  let rate ← e.rate.elim (.ok none) environmentRate
  let propagate ← e.propagate.elim (.ok true) environmentFlag
  let logLevel ← e.logLevel.elim (.ok .warn) environmentLevel
  let s : Settings := ⟨rate, propagate, logLevel⟩
  s.validate
  .ok s

end Settings

end TraceRelay
