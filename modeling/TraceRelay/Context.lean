import TraceRelay.Carrier
import TraceRelay.Sampling.Backfill
import TraceRelay.TraceHeader

/-!
# Propagation contexts

All that a service has to know to continue a trace. A context is extracted from a carrier and
injected into others. Ids that did not come with it are made up when they are first asked for, and
kept.
-/

namespace TraceRelay

structure Context where
  traceId : Option TraceId
  spanId : Option SpanId
  parentSpanId : Option SpanId
  parentSampled : Option Bool
  items : Option Items
deriving DecidableEq

def Baggage.receive (header : String) : Run Baggage := do
  Run.logAll .debug ((Baggage.headerErrors header).map EntryError.message)
  return .ofHeader header

namespace Context

def empty : Context := ⟨none, none, none, none, none⟩

def fixTraceId (c : Context) : Run (TraceId × Context) :=
  match c.traceId with
  | some id => pure (id, c)
  | none => do
    let id ← Run.freshTraceId
    return (id, { c with traceId := some id })

def fixSpanId (c : Context) : Run (SpanId × Context) :=
  match c.spanId with
  | some id => pure (id, c)
  | none => do
    let id ← Run.freshSpanId
    return (id, { c with spanId := some id })

def setTraceId (c : Context) (id : TraceId) : Context := { c with traceId := some id }

def setSpanId (c : Context) (id : SpanId) : Context := { c with spanId := some id }

/-! ## Operations -/

def continueHeader (c : Context) (h : TraceHeader) : Context :=
  { c with traceId := some h.traceId, parentSpanId := some h.spanId, parentSampled := h.sampled }

def readItems (carrier : Carrier) : Run (Option Items) :=
  match carrier.get? baggageHeaderName with
  | some header => do return some (← Baggage.receive header).items
  | none => pure none

def readTraceHeader (c : Context) (carrier : Carrier) : Run Context :=
  match carrier.get? traceHeaderName with
  | none => pure c
  | some header =>
    match TraceHeader.decode header with
    | .ok h => pure (c.continueHeader h)
    | .error e => do
      Run.debug ("Ignoring incoming trace: " ++ e.message)
      return c

/-- Sees to it that the trace has an id, and that its items, if there are any, hold a random value
where one can be had. -/
def complete (c : Context) : Run Context := do
  let (id, c) ← c.fixTraceId
  match c.items with
  | none => return c
  | some items =>
    let (_, items) ← backfill id.text c.parentSampled items
    return { c with items := some items }

def extract (carrier : Carrier) : Run Context := do
  let items ← readItems carrier
  let c ← { empty with items }.readTraceHeader carrier
  c.complete

def traceHeader (c : Context) : Run (TraceHeader × Context) := do
  let (traceId, c) ← c.fixTraceId
  let (spanId, c) ← c.fixSpanId
  return (⟨traceId, spanId, c.parentSampled⟩, c)

def baggage (c : Context) : Baggage := (Baggage.ofItems (c.items.getD .empty)).freeze

/-- Writes both headers into a carrier, the baggage only if it says anything. -/
def inject (enabled : Bool) (c : Context) (carrier : Carrier) : Run (Carrier × Context) :=
  if enabled then do
    let (header, c) ← c.traceHeader
    let carrier := carrier.set traceHeaderName header.encode
    return (if c.baggage.text = "" then carrier
      else carrier.set baggageHeaderName c.baggage.text, c)
  else pure (carrier, c)

/-- A new trace id drops the span id, which belonged to the old one. -/
def renewTrace (c : Context) (id : TraceId) : Context :=
  if c.traceId = some id then c else { c with traceId := some id, spanId := none }

/-- One entry of an update. Nothing if it names no field or has a value of the wrong kind. -/
def updateBy? (c : Context) : String × Json → Option Context
  | ("trace_id", .text id) => some (c.renewTrace ⟨id⟩)
  | ("parent_span_id", .text id) => some { c with parentSpanId := some ⟨id⟩ }
  | ("parent_span_id", .null) => some { c with parentSpanId := none }
  | ("parent_sampled", .bool b) => some { c with parentSampled := some b }
  | ("parent_sampled", .null) => some { c with parentSampled := none }
  | _ => none

def update (c : Context) (entries : List (String × Json)) : Context :=
  entries.foldl (fun c e => (c.updateBy? e).getD c) c

def ignoredKeys (entries : List (String × Json)) : List String :=
  (entries.filter fun e => (empty.updateBy? e).isNone).map (·.1)

def applyUpdate (c : Context) (entries : List (String × Json)) : Run Context := do
  Run.logAll .debug <| (ignoredKeys entries).map fun key =>
    "Ignoring propagation context update for `" ++ key ++ "`"
  return c.update entries

end Context

end TraceRelay
