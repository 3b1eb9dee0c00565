import TraceRelay.Ident
import TraceRelay.Log.Line

/-!
# What happens while a service runs

Operations that reach outside of their arguments do so in one way: they take fresh ids from a
supply, note what they log and whom they call, and may give up a search for a draw. All of it is
data. A run has a result only if no search was given up.
-/

namespace TraceRelay

structure RateQuery where
  name : String
  traceId : TraceId
  parentSampled : Option Bool
  parentRate : Option Binary64
deriving DecidableEq

/-- What is noted on the way: events that were logged, and calls of the samplers and processors that
a host supplies. -/
inductive Note where
  | logged (e : LogEvent)
  | sampler (query : RateQuery) (returned : Binary64)
  | processor (index : Nat) (transaction : String)

/-- Random numbers for fresh ids, in the order of their use, and how many draws a search may
take. -/
structure Supply where
  traceNumber : Nat → Nat
  spanNumber : Nat → Nat
  drawLimit : Nat

structure Progress where
  tracesTaken : Nat
  spansTaken : Nat
  journal : List Note

def Progress.start : Progress := ⟨0, 0, []⟩

abbrev Run (α : Type) : Type := ReaderT Supply (StateT Progress Option) α

namespace Run

def notes (ns : List Note) : Run Unit := modify fun p => { p with journal := p.journal ++ ns }

def note (n : Note) : Run Unit := notes [n]

def logAll (level : Level) (messages : List String) : Run Unit :=
  notes (messages.map fun m => .logged (.plain level m))

def log (level : Level) (message : String) : Run Unit := logAll level [message]

def debug (message : String) : Run Unit := log .debug message

def freshTraceId : Run TraceId := do
  let p ← get
  set { p with tracesTaken := p.tracesTaken + 1 }
  return .ofNumber ((← read).traceNumber p.tracesTaken)

def freshSpanId : Run SpanId := do
  let p ← get
  set { p with spansTaken := p.spansTaken + 1 }
  return .ofNumber ((← read).spanNumber p.spansTaken)

/-- The result of a search that may have been given up. -/
def found {α : Type} : Option α → Run α
  | some a => pure a
  | none => failure

/-! ## What a run does -/

variable (s : Supply) (p : Progress)

@[simp] theorem run_notes (ns : List Note) :
    ((notes ns).run s).run p = some ((), { p with journal := p.journal ++ ns }) := rfl

@[simp] theorem run_freshTraceId :
    (freshTraceId.run s).run p =
      some (.ofNumber (s.traceNumber p.tracesTaken), { p with tracesTaken := p.tracesTaken + 1 }) :=
  rfl

@[simp] theorem run_freshSpanId :
    (freshSpanId.run s).run p =
      some (.ofNumber (s.spanNumber p.spansTaken), { p with spansTaken := p.spansTaken + 1 }) :=
  rfl

@[simp] theorem run_found {α : Type} (o : Option α) :
    ((found o).run s).run p = o.map fun a => (a, p) := by
  cases o <;> rfl

end Run

end TraceRelay
