import TraceRelay.Context
import TraceRelay.Settings.Basic
import TraceRelay.Transaction

/-!
# Clients

A client starts transactions and decides on them. The rate comes from its sampler, else from the
head of the trace, else from the sender's decision, else from its settings; the random value comes
with the trace or is derived from its id. A transaction is sampled if the value lies below the rate.
-/

namespace TraceRelay

structure Client where
  settings : Settings
  sampler : Option (RateQuery → Binary64)
  processors : List Processor

structure StartOptions where
  name : String
  traceId : Option TraceId
  parentSpanId : Option SpanId
  parentSampled : Option Bool
  baggage : Option Baggage

namespace StartOptions

def incomingRand? (o : StartOptions) : Option Binary64 := o.baggage.bind Baggage.sampleRand?

def incomingRate? (o : StartOptions) : Option Binary64 := o.baggage.bind Baggage.sampleRate?

def rand (o : StartOptions) (traceId : TraceId) : Binary64 :=
  o.incomingRand?.getD (quantize (derive traceId.text))

def query (o : StartOptions) (traceId : TraceId) : RateQuery :=
  ⟨o.name, traceId, o.parentSampled, o.incomingRate?⟩

end StartOptions

namespace Client

def proposedRate (c : Client) (q : RateQuery) (hasRand : Bool) : Option Binary64 :=
  match c.sampler with
  | some sampler => some (sampler q)
  | none =>
    match q.parentRate.filter fun _ => hasRand with
    | some rate => some rate
    | none =>
      match q.parentSampled with
      | some sampled => some (if sampled then .one else .zero)
      | none => c.settings.rate

/-- The rate that a transaction is decided with; a proposal outside `[0, 1]` is none. -/
def rateFor (c : Client) (q : RateQuery) (hasRand : Bool) : Option Binary64 :=
  (c.proposedRate q hasRand).filter Binary64.isRate

def transaction (c : Client) (o : StartOptions) (traceId : TraceId) (spanId : SpanId) :
    Transaction :=
  let rate := c.rateFor (o.query traceId) o.incomingRand?.isSome
  { name := o.name
    traceId := traceId
    spanId := spanId
    parentSpanId := o.parentSpanId
    sampled := rate.any (shouldSample (o.rand traceId))
    rate := rate
    rand := o.rand traceId
    baggage := o.baggage
    extra := .empty
    propagates := c.settings.propagate
    processors := c.processors }

def noteRate (c : Client) (q : RateQuery) (hasRand : Bool) : Run Unit := do
  match c.sampler with
  | some sampler => Run.note (.sampler q (sampler q))
  | none => pure ()
  match c.proposedRate q hasRand with
  | some rate =>
    if rate.isRate then pure ()
    else
      Run.log .warn
        ("Ignoring invalid sample rate " ++ rate.write .message ++ " for `" ++ q.name ++ "`")
  | none => pure ()

def decisionMessage (t : Transaction) : String :=
  "Transaction `" ++ t.name ++ "` sampled=" ++ flagWord t.sampled ++ " sample_rate=" ++
    optionText (·.write .field) t.rate ++ " sample_rand=" ++ t.rand.write .message

def start (c : Client) (o : StartOptions) : Run Transaction := do
  let traceId ← match o.traceId with
    | some id => pure id
    | none => Run.freshTraceId
  c.noteRate (o.query traceId) o.incomingRand?.isSome
  let spanId ← Run.freshSpanId
  let t := c.transaction o traceId spanId
  Run.debug (decisionMessage t)
  return t

/-- The baggage of a continued trace: the members that came, with the completed items, and frozen if
the sender is known. -/
def continuedBaggage (context : Context) (received : Baggage) : Baggage :=
  let b := match context.items with
    | some items => { received with items }
    | none => received
  if context.parentSpanId.isSome then b.freeze else b

def continuedOptions (context : Context) (received : Baggage) (traceId : TraceId) (name : String) :
    StartOptions :=
  ⟨name, some traceId, context.parentSpanId, context.parentSampled,
    some (continuedBaggage context received)⟩

/-- Starts a transaction that continues the trace of a carrier. The baggage header is read for the
context and once more for the members of third parties. -/
def continueTrace (c : Client) (carrier : Carrier) (name : String) : Run Transaction := do
  let context ← Context.extract carrier
  let received ← match carrier.get? baggageHeaderName with
    | some header => Baggage.receive header
    | none => pure .empty
  let (traceId, context) ← context.fixTraceId
  c.start (continuedOptions context received traceId name)

end Client

end TraceRelay
