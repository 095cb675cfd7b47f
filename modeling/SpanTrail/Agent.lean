import SpanTrail.B3
import SpanTrail.Configuration
import SpanTrail.Ledger
import SpanTrail.Scope

/-! An agent: the clock, the ledger, the sampler and the source of identities that spans are made
with, and how contexts are propagated and scopes are kept.  It also keeps a journal of what its
use brought about.  The sampling state of a new span is resolved once: overriding states come
first, then the state that came with the trace, and if neither is decided the sampler is asked.
Only spans that are recorded are registered. -/

namespace SpanTrail

/-- What was logged, what was handed to the sink, and which traces the sampler
was asked about, each in order. -/
structure Journal where
  events : List Event
  records : List SpanRecord
  asked : List TraceId

namespace Journal

def empty : Journal := ⟨[], [], []⟩

def log (journal : Journal) (events : List Event) : Journal :=
  { journal with events := journal.events ++ events }

def add (journal : Journal) (effects : Effects) : Journal :=
  { journal with
    events := journal.events ++ effects.events
    records := journal.records ++ effects.records }

end Journal

/-- An agent.  Where the source of identities gives one that denotes
nothing, a random one is taken instead; `replaced` counts these. -/
structure Agent where
  clock : Timestamp
  ledger : Ledger
  sampler : Sampler
  ids : IdSource
  fallback : Entropy
  replaced : Nat
  wide : Bool
  joins : Bool
  encoding : B3.Encoding
  policy : ScopePolicy
  journal : Journal

namespace Agent

def log (agent : Agent) (events : List Event) : Agent :=
  { agent with journal := agent.journal.log events }

def setClock (agent : Agent) (time : Timestamp) : Agent :=
  { agent with clock := time }

def advanceClock (agent : Agent) (time : UInt64) : Agent :=
  { agent with clock := agent.clock + time }

def describeMaker (agent : Agent) : String :=
  Layout.record "Tracer"
    [("sampler", agent.sampler.describe),
      ("trace_id_128bit", Layout.bool agent.wide),
      ("supports_join", Layout.bool agent.joins)]

def describe (agent : Agent) : String :=
  Layout.record "Tracing"
    [("tracer", agent.describeMaker),
      ("propagation",
        Layout.record "B3Propagator" [("inject_encoding", agent.encoding.describe)]),
      ("current", agent.policy.label),
      ("recorder", agent.ledger.describe)]

end Agent

/-- The settings of an agent.  Those that are not given come from the
configuration, and from the standard one if that is not given either. -/
structure AgentSettings where
  clock : Timestamp
  config : Option Configuration
  serviceName : Option String
  localEndpoint : Option Endpoint
  sampler : Option Sampler
  ids : Option IdSource
  wide : Option Bool
  joins : Option Bool
  sink : Option Sink
  policy : Option ScopePolicy
  encoding : Option B3.Encoding

namespace AgentSettings

def unset (clock : Timestamp) : AgentSettings :=
  ⟨clock, none, none, none, none, none, none, none, none, none, none⟩

/-- The endpoint of all records.  A given endpoint keeps its own service name, if it
has one. -/
def endpoint (settings : AgentSettings) (config : Configuration) : Endpoint :=
  let serviceName := settings.serviceName.getD config.serviceName
  match settings.localEndpoint with
  | none => .named serviceName
  | some endpoint =>
      if endpoint.serviceName.isSome then endpoint else endpoint.withName serviceName

def build (settings : AgentSettings) (entropy : Entropy) : Agent :=
  let config := settings.config.getD (.standard (entropy.branch 0))
  let endpoint := settings.endpoint config
  { clock := settings.clock
    ledger := .create endpoint (settings.sink.getD .discarding)
    sampler := settings.sampler.getD config.sampler
    ids := settings.ids.getD config.ids
    fallback := entropy.branch 1
    replaced := 0
    wide := settings.wide.getD config.wide
    joins := settings.joins.getD config.joins
    encoding := settings.encoding.getD .multiple
    policy := settings.policy.getD .lenient
    journal := Journal.empty.log [.agentBuilt endpoint] }

end AgentSettings

end SpanTrail

namespace SpanTrail.Agent

def narrow (agent : Agent) (generated : TraceId) : TraceId :=
  if agent.wide then generated else .ofLow generated.low

def freshTraceId (agent : Agent) : TraceId × Agent :=
  let (generated, ids) := agent.ids.nextTrace
  let narrowed := agent.narrow generated
  if narrowed.isValid then (narrowed, { agent with ids := ids })
  else
    (.ofLow (agent.fallback.nonZero agent.replaced),
      { agent with ids := ids, replaced := agent.replaced + 1 })

def freshSpanId (agent : Agent) : SpanId × Agent :=
  let (generated, ids) := agent.ids.nextSpan
  if generated.isValid then (generated, { agent with ids := ids })
  else
    (⟨agent.fallback.nonZero agent.replaced⟩,
      { agent with ids := ids, replaced := agent.replaced + 1 })

theorem freshTraceId_isValid (agent : Agent) : agent.freshTraceId.1.isValid = true := by
  simp only [freshTraceId]
  split
  · assumption
  · simpa [TraceId.isValid, TraceId.ofLow] using
      agent.fallback.nonZero_ne_zero agent.replaced

theorem freshSpanId_isValid (agent : Agent) : agent.freshSpanId.1.isValid = true := by
  simp only [freshSpanId]
  split
  · assumption
  · simpa [SpanId.isValid] using agent.fallback.nonZero_ne_zero agent.replaced

/-- The context of the first span of a new trace, whose identity is the low half of
that of the trace. -/
def rootContext (agent : Agent) : Context × Agent :=
  let (traceId, agent) := agent.freshTraceId
  (⟨traceId, ⟨traceId.low⟩, none, .undecided, false⟩, agent)

def childContext (agent : Agent) (parent : Context) : Context × Agent :=
  let (spanId, agent) := agent.freshSpanId
  ({ parent with spanId := spanId, parentId := some parent.spanId, shared := false }, agent)

theorem rootContext_eq (agent : Agent) :
    Context.root agent.rootContext.1.traceId agent.rootContext.1.spanId =
      .ok agent.rootContext.1 := by
  have valid := agent.freshTraceId_isValid
  have low : (SpanId.mk agent.freshTraceId.1.low).isValid = true := valid
  simp [rootContext, Context.root, valid, low]

theorem childContext_eq (agent : Agent) (parent : Context) :
    parent.child (agent.childContext parent).1.spanId = .ok (agent.childContext parent).1 := by
  have valid := agent.freshSpanId_isValid
  simp [childContext, Context.child, valid]

/-- The sampling state of a span.  An answer of the sampler never asks for debugging. -/
def resolve (agent : Agent) (traceId : TraceId) (overrides propagated : Sampling) :
    Sampling × Agent :=
  if overrides ≠ .undecided then (overrides, agent)
  else if propagated.sampled?.isSome then (propagated, agent)
  else
    let (decision, sampler) := agent.sampler.ask traceId
    (.decided decision,
      { agent with
        sampler := sampler
        journal := { agent.journal with asked := agent.journal.asked ++ [traceId] } })

def handle (context : Context) : Span :=
  ⟨context, !context.sampling.records⟩

def enter (agent : Agent) (context : Context) : Span × Agent :=
  let span := handle context
  if span.idle then (span, agent)
  else (span, { agent with ledger := agent.ledger.register context })

def enterResolved (agent : Agent) (context : Context) (overrides propagated : Sampling) :
    Span × Agent :=
  let (sampling, agent) := agent.resolve context.traceId overrides propagated
  agent.enter (context.withSampling sampling)

/-! ### Spans -/

def rootWith (agent : Agent) (sampling : Sampling) : Span × Agent :=
  let (context, agent) := agent.rootContext
  agent.enterResolved context .undecided sampling

def root (agent : Agent) : Span × Agent :=
  agent.rootWith .undecided

def child (agent : Agent) (parent : Context) : Span × Agent :=
  let (context, agent) := agent.childContext parent
  agent.enterResolved context .undecided context.sampling

/-- The span of a context that came from the other side of a call.  It shares its
identity with that side if joining is on, and is a new child of it if not. -/
def join (agent : Agent) (context : Context) : Span × Agent :=
  if agent.joins then
    let (sampling, agent) :=
      agent.resolve context.traceId .undecided context.sampling
    agent.enter ((context.withSampling sampling).withShared true)
  else agent.child context

/-- The span that follows what was extracted: a new child of a context, or the first
span of a new trace with the extracted state.  A decided override wins. -/
def next (agent : Agent) (extracted : Extraction) (overrides : Sampling) :
    Span × Agent :=
  match extracted with
  | .whole parent =>
      let (context, agent) := agent.childContext parent
      agent.enterResolved context overrides context.sampling
  | .lone sampling =>
      let (context, agent) := agent.rootContext
      agent.enterResolved context overrides sampling

def nextFrom (agent : Agent) (current : Option Context) : Span × Agent :=
  match current with
  | some parent => agent.child parent
  | none => agent.root

def handleOf (agent : Agent) (context : Context) : Span × Agent :=
  let (sampling, agent) := agent.resolve context.traceId .undecided context.sampling
  (handle (context.withSampling sampling), agent)

def call (agent : Agent) (span : Span) (call : SpanCall) : Agent :=
  if span.idle then agent
  else
    let (ledger, effects) := agent.ledger.perform span.context (call.at agent.clock)
    { agent with ledger := ledger, journal := agent.journal.add effects }

def callAll (agent : Agent) (span : Span) (calls : List SpanCall) : Agent :=
  calls.foldl (fun sofar next => sofar.call span next) agent

end SpanTrail.Agent
