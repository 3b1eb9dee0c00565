import TraceRelay.Baggage
import TraceRelay.Journal
import TraceRelay.Sampling.Interval

/-!
# Backfilling the random value

A trace that comes without a usable random value gets one, drawn for its id from the interval that
agrees with the decision and the rate it came with. If that interval is empty there is none.
-/

namespace TraceRelay

/-- A written random value is kept if it is a rate other than one. -/
def isUsable (text : String) : Bool := (rate? text).any (·.lt .one)

def usableRand? (items : Items) : Option String := (items.get? ItemKey.sampleRand).filter isUsable

def incomingRate? (items : Items) : Option Binary64 := (items.get? ItemKey.sampleRate).bind rate?

def backfillInterval (sampled : Option Bool) (items : Items) : Interval :=
  .agreeing sampled (incomingRate? items)

/-- The written random value after a backfill, and the items with it. Nothing if the search for a
draw was given up. -/
def backfill? (limit : Nat) (traceId : String) (sampled : Option Bool) (items : Items) :
    Option (Option String × Items) :=
  match usableRand? items with
  | some text => some (some text, items)
  | none =>
    match drawFrom limit traceId (backfillInterval sampled items) with
    | .value rand => some (some (randText rand), items.insert ItemKey.sampleRand (randText rand))
    | .emptyInterval _ => some (none, items.erase ItemKey.sampleRand)
    | .exhausted => none

def optionText {α : Type} (write : α → String) : Option α → String
  | none => "None"
  | some a => "Some(" ++ write a ++ ")"

def flagWord (b : Bool) : String := if b then "true" else "false"

def discardedMessages (items : Items) : List String :=
  match items.get? ItemKey.sampleRand with
  | some text =>
    if isUsable text then []
    else ["Discarding invalid sample_rand value `" ++ text ++ "`"]
  | none => []

def emptyIntervalMessages (sampled : Option Bool) (items : Items) : List String :=
  if (usableRand? items).isNone ∧ (backfillInterval sampled items).isEmpty then
    ["Could not backfill sample_rand, parent_sampled=" ++ optionText flagWord sampled ++
      " sample_rate=" ++ optionText (·.write .field) (incomingRate? items) ++ ": " ++
      (backfillInterval sampled items).emptyMessage]
  else []

def backfill (traceId : String) (sampled : Option Bool) (items : Items) :
    Run (Option String × Items) := do
  Run.logAll .debug (discardedMessages items ++ emptyIntervalMessages sampled items)
  Run.found (backfill? (← read).drawLimit traceId sampled items)

end TraceRelay
