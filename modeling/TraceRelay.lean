import TraceRelay.Client
import TraceRelay.Json.Reading
import TraceRelay.Json.Writing
import TraceRelay.Log.Filter
import TraceRelay.Proofs.Baggage.Classes
import TraceRelay.Proofs.Baggage.Rate
import TraceRelay.Proofs.Baggage.Wire
import TraceRelay.Proofs.Carrier.Environ
import TraceRelay.Proofs.Context.Operations
import TraceRelay.Proofs.Draw.Exact
import TraceRelay.Proofs.Draw.Key
import TraceRelay.Proofs.Sampling.Filled
import TraceRelay.Proofs.Sampling.FirstDraw
import TraceRelay.Proofs.Sampling.Trimmed
import TraceRelay.Proofs.Settings.Lenient
import TraceRelay.Proofs.Text.Lower
import TraceRelay.Proofs.Trace.Decision
import TraceRelay.Proofs.Trace.Handover
import TraceRelay.Proofs.Trace.Head
import TraceRelay.Proofs.Trace.Naming
import TraceRelay.Proofs.Trace.Paths
import TraceRelay.Proofs.Trace.Reporting
import TraceRelay.Proofs.Trace.Reuse
import TraceRelay.Proofs.Trace.Threshold
import TraceRelay.Proofs.Trace.Tolerance
import TraceRelay.Proofs.Trace.Travel
import TraceRelay.Settings.Reading
