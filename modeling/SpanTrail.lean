import SpanTrail.B3
import SpanTrail.Configuration
import SpanTrail.Http.Exchange
import SpanTrail.Sampler.Keyed.Script
import SpanTrail.Sampler.Survey
import SpanTrail.Scenario.Run
import SpanTrail.Agent.Audit
import SpanTrail.Proofs.Scope.Order
import SpanTrail.Proofs.Ledger.Report
import SpanTrail.Proofs.Ledger.Settlement
import SpanTrail.Proofs.B3.RoundTrip
import SpanTrail.Proofs.B3.Text
import SpanTrail.Proofs.Http.Rejected
import SpanTrail.Proofs.Http.Overlap
import SpanTrail.Proofs.Http.Traffic
import SpanTrail.Proofs.B3.Grammar
import SpanTrail.Proofs.B3.Precedence
import SpanTrail.Proofs.Agent.Decision
import SpanTrail.Proofs.Agent.Usage
import SpanTrail.Proofs.Scope.Depth
import SpanTrail.Proofs.Number
import SpanTrail.Proofs.Sampler.Calls
import SpanTrail.Proofs.Sampler.KeyedOrder
import SpanTrail.Proofs.Sampler.KeyedShare
import SpanTrail.Proofs.Scope.Frames
import SpanTrail.Proofs.Scenario.Run
import SpanTrail.Proofs.SpanRecord.Recovery
import SpanTrail.Proofs.Ledger.Origin
import SpanTrail.Proofs.Scope.Redundant
import SpanTrail.Proofs.Scope.Futures
import SpanTrail.Proofs.Http.Outcome
import SpanTrail.Proofs.Sampler.Rate
import SpanTrail.Proofs.Configuration.Environment
import SpanTrail.Proofs.Agent.Request
import SpanTrail.Proofs.Context.Derived
import SpanTrail.Proofs.Carrier.Writes
import SpanTrail.Proofs.Identifier.Faithful
import SpanTrail.Proofs.Endpoint.Changes
