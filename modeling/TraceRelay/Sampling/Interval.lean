import TraceRelay.Binary64.Shortest
import TraceRelay.Draw.Stream

/-!
# Decisions and the intervals they come from

A trace is sampled if its random value lies below the rate. Where the decision is known and the
random value is not, the value has to come from the part of `[0, 1)` that agrees with the decision.
-/

namespace TraceRelay

def shouldSample (rand rate : Binary64) : Bool := rand.lt rate

structure Interval where
  lower : Binary64
  upper : Binary64
deriving DecidableEq

namespace Interval

/-- The random values that agree with a decision made at a rate; all of `[0, 1)` if either is
unknown. -/
def agreeing : (sampled : Option Bool) → (rate : Option Binary64) → Interval
  | some true, some rate => ⟨.zero, rate⟩
  | some false, some rate => ⟨rate, .one⟩
  | _, _ => ⟨.zero, .one⟩

def isEmpty (i : Interval) : Bool := !i.lower.lt i.upper

def place (i : Interval) (draw : Binary64) : Binary64 := i.lower + (i.upper - i.lower) * draw

def emptyMessage (i : Interval) : String :=
  "Cannot generate sample_rand in empty interval [" ++ i.lower.write .message ++ ", " ++
    i.upper.write .message ++ ")"

/-- The first of at most `limit` draws whose place lies below the upper end; scaling can round a
draw up onto it. -/
def firstBelow (i : Interval) : (limit : Nat) → Twister → Option Binary64
  | 0, _ => none
  | limit + 1, t =>
    if i.place t.draw.1 < i.upper then some (i.place t.draw.1) else i.firstBelow limit t.draw.2

end Interval

inductive Drawn where
  | value (rand : Binary64)
  | emptyInterval (i : Interval)
  | exhausted
deriving DecidableEq

def drawFrom (limit : Nat) (traceId : String) (i : Interval) : Drawn :=
  if i.isEmpty then .emptyInterval i
  else
    match i.firstBelow limit (drawsOf traceId) with
    | some rand => .value rand
    | none => .exhausted

end TraceRelay
