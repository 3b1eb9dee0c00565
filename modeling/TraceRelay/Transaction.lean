import TraceRelay.Baggage
import TraceRelay.Journal
import TraceRelay.Json.Basic
import TraceRelay.TraceHeader

/-!
# Transactions

The unit of work whose sampling decision travels on. Everything about a transaction is settled when
it starts, except its baggage, which the head of a trace fills in when it is first asked for, and
its extra data. A sampled transaction ends as an event that the host's processors see.
-/

namespace TraceRelay

structure Event where
  transaction : String
  traceId : String
  spanId : String
  parentSpanId : Option String
  sampleRate : Option Binary64
  sampleRand : Binary64
  items : Items
  extra : Dict Json

/-- Sees an event before it is handed over; it may change the event, or drop it. -/
abbrev Processor : Type := Event → Option Event

namespace Event

def textMap (d : Dict String) : Json := .object (d.entries.map fun e => (e.1, .text e.2))

def toJson (e : Event) : Json :=
  .ofMembers <|
    [("transaction", .text e.transaction), ("trace_id", .text e.traceId),
      ("span_id", .text e.spanId)] ++
    (e.parentSpanId.map fun id => ("parent_span_id", Json.text id)).toList ++
    (e.sampleRate.map fun r => ("sample_rate", Json.ofBinary64 r)).toList ++
    [("sample_rand", .ofBinary64 e.sampleRand)] ++
    (if e.items.isEmpty then [] else [("dynamic_sampling_context", textMap e.items)]) ++
    (if e.extra.isEmpty then [] else [("extra", .object e.extra.entries)])

def process (e : Event) : (index : Nat) → List Processor → Run (Option Event)
  | _, [] => pure (some e)
  | index, p :: rest => do
    Run.note (.processor index e.transaction)
    match p e with
    | some e => e.process (index + 1) rest
    | none => do
      Run.debug ("Transaction `" ++ e.transaction ++ "` dropped by event processor")
      return none

end Event

/-! ## Transactions -/

structure Transaction where
  name : String
  traceId : TraceId
  spanId : SpanId
  parentSpanId : Option SpanId
  sampled : Bool
  rate : Option Binary64
  rand : Binary64
  baggage : Option Baggage
  extra : Dict Json
  propagates : Bool
  processors : List Processor

namespace Transaction

def samplingState (t : Transaction) : SamplingState := ⟨t.traceId, t.rate, some t.sampled, t.rand⟩

/-- The baggage to send. Open baggage is filled in from the transaction, and then frozen. -/
def sentBaggage (t : Transaction) : Baggage :=
  let b := t.baggage.getD .empty
  if b.frozen then b else (b.populate t.samplingState).freeze

def settleBaggage (t : Transaction) : Transaction := { t with baggage := some t.sentBaggage }

def traceHeader (t : Transaction) : TraceHeader := ⟨t.traceId, t.spanId, some t.sampled⟩

def headers (t : Transaction) : List (String × String) :=
  if t.propagates then
    (traceHeaderName, t.traceHeader.encode) ::
      (if t.sentBaggage.text = "" then [] else [(baggageHeaderName, t.sentBaggage.text)])
  else []

def afterHeaders (t : Transaction) : Transaction := if t.propagates then t.settleBaggage else t

def setExtra (t : Transaction) (key : String) (value : Json) : Transaction :=
  { t with extra := t.extra.insert key value }

def event (t : Transaction) : Event where
  transaction := t.name
  traceId := t.traceId.text
  spanId := t.spanId.text
  parentSpanId := t.parentSpanId.map (·.text)
  sampleRate := t.rate
  sampleRand := t.rand
  items := t.sentBaggage.items
  extra := t.extra

/-- Ends a transaction. There is no event if it was not sampled, or if a processor drops it. -/
def finish (t : Transaction) : Run (Option Event) :=
  if t.sampled then t.event.process 0 t.processors
  else do
    Run.debug ("Discarding unsampled transaction `" ++ t.name ++ "`")
    return none

end Transaction

end TraceRelay
