import TraceRelay.Json.Reading
import TraceRelay.Settings.Structured

/-!
# Settings from JSON text

The text is read member by member, so the first thing that is wrong with it decides the fault, and
what was complained about before that stays said. A setting may be given once only; members of
another name are skipped.
-/

namespace TraceRelay

namespace Settings

structure Draft where
  rate : Option (Option Binary64)
  propagate : Option Bool
  logLevel : Option Level

def Draft.empty : Draft := ⟨none, none, none⟩

def Draft.settings (d : Draft) : Settings :=
  ⟨d.rate.getD defaults.rate, d.propagate.getD defaults.propagate,
    d.logLevel.getD defaults.logLevel⟩

inductive Setting where
  | rate
  | propagate
  | logLevel

namespace Setting

def ofKey? (key : String) : Option Setting :=
  if key = rateKey then some rate
  else if key = propagateKey then some propagate
  else if key = logLevelKey then some logLevel
  else none

def isRead (d : Draft) : Setting → Bool
  | rate => d.rate.isSome
  | propagate => d.propagate.isSome
  | logLevel => d.logLevel.isSome

end Setting

/-- Reads on, and keeps what was complained about even where the text is refused. -/
abbrev Reading (α : Type) : Type := ExceptT JsonFault (StateM (List String)) α

def complain (messages : List String) : Reading Unit := modify (· ++ messages)

def Draft.store (d : Draft) (j : Json) : Setting → Reading Draft
  | .rate => do
    complain (rateComplaints j)
    return { d with rate := some (rateOfJson j) }
  | .propagate =>
    match Flag.ofJson j with
    | .ok b => return { d with propagate := some b }
    | .error _ => throw .misfit
  | .logLevel => do
    complain (levelComplaints j)
    return { d with logLevel := some (levelOfJson j) }

def readField (d : Draft) (f : Setting) (cs : List Char) : Reading (Draft × List Char) := do
  let (j, rest) ← ExceptT.mk (pure (Json.kept 1 cs))
  return (← d.store j f, rest)

def readMember (d : Draft) (key : String) (cs : List Char) : Reading (Draft × List Char) :=
  match Setting.ofKey? key with
  | some f =>
    if f.isRead d then throw .misfit
    else do
      let rest ← ExceptT.mk (pure (Json.colon cs))
      readField d f rest
  | none => do
    let rest ← ExceptT.mk (pure (Json.colon cs))
    let (_, rest) ← ExceptT.mk (pure (Json.skipped rest))
    return (d, rest)

def readMembers (d : Draft) : (fuel : Nat) → (first : Bool) → List Char →
    Reading (Draft × List Char)
  | 0, _, _ => throw .unfinished
  | fuel + 1, first, cs =>
    match Json.skipGaps cs with
    | [] => throw .unfinished
    | c :: rest =>
      if c = '\x7d' then return (d, rest)
      else do
        let start ← ExceptT.mk (pure (Json.itemStart first (c :: rest)))
        let (key, rest) ← ExceptT.mk (pure (Json.key true start))
        let (d, rest) ← readMember d key rest
        readMembers d fuel false rest

/-- The items of an array, as far as there are fields for them, up to its closing bracket. -/
def readItems (d : Draft) : (fields : List Setting) → (first : Bool) → List Char →
    Reading (Draft × List Char)
  | fields, first, cs =>
    match Json.skipGaps cs with
    | [] => throw .unfinished
    | c :: rest =>
      if c = ']' then return (d, rest)
      else
        match fields with
        | [] => throw .malformed
        | f :: fields => do
          let start ← ExceptT.mk (pure (Json.itemStart first (c :: rest)))
          let (d, rest) ← readField d f start
          readItems d fields false rest

def readText (text : String) : Reading Settings :=
  match Json.skipGaps text.toList with
  | [] => throw .unfinished
  | c :: rest => do
    let (d, rest) ←
      if c = '\x7b' then readMembers .empty (rest.length + 1) true rest
      else if c = '[' then readItems .empty [.rate, .propagate, .logLevel] true rest
      else do
        let _ ← ExceptT.mk (pure (Json.kept 0 (c :: rest)))
        throw .misfit
    ExceptT.mk (pure (Json.finish rest))
    return d.settings

def ofText (text : String) : Except JsonFault Settings × List String := (readText text).run.run []

end Settings

end TraceRelay
