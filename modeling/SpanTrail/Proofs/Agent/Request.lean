import SpanTrail.Proofs.Agent.Creation

/-! Requests for spans.  Every request draws a context and resolves its sampling state once; then
a span that is recorded is registered, unless only a handle was asked for.  So the sampler is
asked exactly if neither the request nor what it follows is decided.  A context is built from a
drawn identity, and another one is drawn as long as it is refused.  The first one never is,
whatever the source of identities gives: an identity that denotes nothing is replaced before a
context is built from it. -/

namespace SpanTrail

/-- A request for a new span, or for a handle to a span that may exist. -/
inductive SpanRequest where
  | root
  | rootWith (sampling : Sampling)
  | join (context : Context)
  | child (parent : Context)
  | next (extracted : Extraction)
  | nextWith (extracted : Extraction) (overrides : Sampling)
  | nextFromCurrent
  | handleOf (context : Context)

namespace SpanRequest

def perform (agent : Agent) (current : Option Context) : SpanRequest → Span × Agent
  | .root => agent.root
  | .rootWith sampling => agent.rootWith sampling
  | .join context => agent.join context
  | .child parent => agent.child parent
  | .next extracted => agent.next extracted .undecided
  | .nextWith extracted overrides => agent.next extracted overrides
  | .nextFromCurrent => agent.nextFrom current
  | .handleOf context => agent.handleOf context

def makes : SpanRequest → Bool
  | .handleOf _ => false
  | _ => true

def overrides : SpanRequest → Sampling
  | .nextWith _ overrides => overrides
  | _ => .undecided

def propagated (current : Option Context) : SpanRequest → Sampling
  | .root => .undecided
  | .rootWith sampling => sampling
  | .join context => context.sampling
  | .child parent => parent.sampling
  | .next extracted => extracted.state
  | .nextWith extracted _ => extracted.state
  | .nextFromCurrent => (current.map Context.sampling).getD .undecided
  | .handleOf context => context.sampling

def isOpen (request : SpanRequest) (current : Option Context) : Bool :=
  request.overrides = .undecided && (request.propagated current).sampled?.isNone

/-- The context of the span before its sampling state is resolved. -/
def drawn (agent : Agent) (current : Option Context) : SpanRequest → Context × Agent
  | .root => agent.rootContext
  | .rootWith _ => agent.rootContext
  | .join context =>
      if agent.joins then ({ context with shared := true }, agent)
      else agent.childContext context
  | .child parent => agent.childContext parent
  | .next (.whole parent) => agent.childContext parent
  | .next (.lone _) => agent.rootContext
  | .nextWith (.whole parent) _ => agent.childContext parent
  | .nextWith (.lone _) _ => agent.rootContext
  | .nextFromCurrent =>
      match current with
      | some parent => agent.childContext parent
      | none => agent.rootContext
  | .handleOf context => (context, agent)

def resolved (request : SpanRequest) (agent : Agent) (current : Option Context) :
    Sampling × Agent :=
  let drawn := request.drawn agent current
  drawn.2.resolve drawn.1.traceId request.overrides (request.propagated current)

def context (request : SpanRequest) (agent : Agent) (current : Option Context) : Context :=
  { (request.drawn agent current).1 with sampling := (request.resolved agent current).1 }

variable (request : SpanRequest) (agent : Agent) (current : Option Context)

theorem perform_eq :
    request.perform agent current =
      if request.makes then
        (request.resolved agent current).2.enter (request.context agent current)
      else
        (Agent.handle (request.context agent current), (request.resolved agent current).2) := by
  cases request with
  | root => exact agent.rootWith_eq .undecided
  | rootWith sampling => exact agent.rootWith_eq sampling
  | child parent => exact agent.child_eq parent
  | join context =>
      cases joins : agent.joins with
      | false =>
          have isDrawn : (join context).drawn agent current = agent.childContext context := by
            simp only [drawn, joins, Bool.false_eq_true, if_false]
          simp only [SpanRequest.context, resolved, isDrawn]
          exact (agent.join_apart joins context).trans (agent.child_eq context)
      | true =>
          have isDrawn : (join context).drawn agent current =
              ({ context with shared := true }, agent) := by
            simp only [drawn, joins, if_true]
          simp only [SpanRequest.context, resolved, isDrawn]
          exact agent.join_shared joins context
  | next extracted =>
      cases extracted with
      | whole parent => exact agent.next_whole parent .undecided
      | lone sampling => exact agent.next_lone sampling .undecided
  | nextWith extracted overrides =>
      cases extracted with
      | whole parent => exact agent.next_whole parent overrides
      | lone sampling => exact agent.next_lone sampling overrides
  | nextFromCurrent =>
      cases current with
      | none => exact agent.rootWith_eq .undecided
      | some parent => exact agent.child_eq parent
  | handleOf context => exact agent.handleOf_eq context

/-- Drawing a context asks no sampler and leaves all spans alone. -/
theorem drawn_agent :
    (request.drawn agent current).2.ledger = agent.ledger ∧
      (request.drawn agent current).2.sampler = agent.sampler ∧
      (request.drawn agent current).2.journal = agent.journal := by
  have root := agent.freshTraceId_ledger
  have child := agent.freshSpanId_ledger
  cases request with
  | root => exact root
  | rootWith sampling => exact root
  | join context =>
      unfold drawn
      cases agent.joins with
      | false => exact child
      | true => exact ⟨rfl, rfl, rfl⟩
  | child parent => exact child
  | next extracted =>
      cases extracted with
      | whole parent => exact child
      | lone sampling => exact root
  | nextWith extracted overrides =>
      cases extracted with
      | whole parent => exact child
      | lone sampling => exact root
  | nextFromCurrent =>
      cases current with
      | none => exact root
      | some parent => exact child
  | handleOf context => exact ⟨rfl, rfl, rfl⟩

theorem perform_span :
    (request.perform agent current).1 = Agent.handle (request.context agent current) := by
  rw [perform_eq]
  cases request.makes with
  | false => rfl
  | true => exact (request.resolved agent current).2.enter_span _

theorem resolved_agent :
    (request.resolved agent current).2.ledger = agent.ledger ∧
      (request.resolved agent current).2.journal.records = agent.journal.records := by
  obtain ⟨ledger, sampler, journal⟩ := request.drawn_agent agent current
  obtain ⟨sameLedger, sameRecords⟩ := (request.drawn agent current).2.resolve_ledger
    (request.drawn agent current).1.traceId request.overrides (request.propagated current)
  constructor
  · exact sameLedger.trans ledger
  · exact sameRecords.trans (congrArg Journal.records journal)

/-- A request that makes a recorded span registers it, and no request does more. -/
theorem perform_agent :
    (request.perform agent current).2 =
      { (request.resolved agent current).2 with
        ledger :=
          if request.makes && !(request.perform agent current).1.idle then
            agent.ledger.register (request.perform agent current).1.context
          else agent.ledger } := by
  have ledger := (request.resolved_agent agent current).1
  have idle : (!(request.perform agent current).1.idle) =
      (request.context agent current).sampling.records := by
    rw [perform_span]
    exact Bool.not_not _
  have context : (request.perform agent current).1.context = request.context agent current := by
    rw [perform_span]
    rfl
  rw [idle, context, perform_eq]
  cases request.makes with
  | false =>
      simp only [Bool.false_eq_true, if_false, Bool.false_and, ← ledger]
  | true =>
      simp only [if_true, Bool.true_and, Agent.enter_agent, ledger]

end SpanRequest

/-! ### Trying again -/

/-- An attempt that is made over and over until one succeeds, and in how many passes. -/
inductive Retries {State Error Result : Type} (attempt : State → Except Error Result × State) :
    State → Nat → Result → State → Prop where
  | done {state after : State} {result : Result} :
      attempt state = (.ok result, after) → Retries attempt state 1 result after
  | again {state next after : State} {passes : Nat} {error : Error} {result : Result} :
      attempt state = (.error error, next) → Retries attempt next passes result after →
        Retries attempt state (passes + 1) result after

namespace Retries

variable {State Error Result : Type} {attempt : State → Except Error Result × State}
variable {state after : State} {passes : Nat} {result : Result}

theorem iff_of_ok {made : Result} {last : State} (succeeds : attempt state = (.ok made, last)) :
    Retries attempt state passes result after ↔ passes = 1 ∧ (made, last) = (result, after) := by
  constructor
  · intro retries
    cases retries with
    | done again =>
        cases succeeds.symm.trans again
        exact ⟨rfl, rfl⟩
    | again fails => cases succeeds.symm.trans fails
  · rintro ⟨rfl, same⟩
    cases same
    exact done succeeds

end Retries

structure Context.Opens (context : Context) (wide : Bool) (generated : TraceId) : Prop where
  parentId : context.parentId = none
  low : context.traceId.low ≠ 0
  spanId : context.spanId = ⟨context.traceId.low⟩
  narrow : wide = false → context.traceId.high = 0
  kept : generated.low ≠ 0 →
    context.traceId = if wide then generated else .ofLow generated.low

structure Context.Descends (context parent : Context) (generated : SpanId) : Prop where
  traceId : context.traceId = parent.traceId
  spanId : context.spanId ≠ .none
  kept : generated ≠ .none → context.spanId = generated
  parentId : context.parentId = some parent.spanId
  shared : context.shared = false

namespace Agent

variable (agent : Agent)

theorem narrow_low (generated : TraceId) : (agent.narrow generated).low = generated.low := by
  unfold narrow
  split
  · rfl
  · rfl

theorem freshTraceId_ids : agent.freshTraceId.2.ids = agent.ids.nextTrace.2 := by
  unfold freshTraceId
  dsimp only
  split
  · rfl
  · rfl

theorem freshSpanId_ids : agent.freshSpanId.2.ids = agent.ids.nextSpan.2 := by
  unfold freshSpanId
  dsimp only
  split
  · rfl
  · rfl

theorem freshTraceId_kept (valid : agent.ids.nextTrace.1.low ≠ 0) :
    agent.freshTraceId.1 = agent.narrow agent.ids.nextTrace.1 := by
  have narrowed : (agent.narrow agent.ids.nextTrace.1).isValid = true := by
    unfold TraceId.isValid
    rw [narrow_low]
    exact bne_iff_ne.mpr valid
  unfold freshTraceId
  dsimp only
  rw [if_pos narrowed]

theorem freshTraceId_narrow (narrow : agent.wide = false) : agent.freshTraceId.1.high = 0 := by
  unfold freshTraceId Agent.narrow
  simp only [narrow, Bool.false_eq_true, if_false]
  split
  · rfl
  · rfl

theorem freshSpanId_kept (valid : agent.ids.nextSpan.1 ≠ .none) :
    agent.freshSpanId.1 = agent.ids.nextSpan.1 := by
  unfold freshSpanId
  dsimp only
  rw [if_pos (SpanId.isValid_iff_ne.mpr valid)]

theorem rootContext_opens : agent.rootContext.1.Opens agent.wide agent.ids.nextTrace.1 where
  parentId := rfl
  low := bne_iff_ne.mp agent.freshTraceId_isValid
  spanId := rfl
  narrow := agent.freshTraceId_narrow
  kept := agent.freshTraceId_kept

theorem childContext_descends (parent : Context) :
    (agent.childContext parent).1.Descends parent agent.ids.nextSpan.1 where
  traceId := rfl
  spanId := SpanId.isValid_iff_ne.mp agent.freshSpanId_isValid
  kept := agent.freshSpanId_kept
  parentId := rfl
  shared := rfl

def tryRoot : Except TracingError Context × Agent :=
  let (traceId, agent) := agent.freshTraceId
  (Context.root traceId ⟨traceId.low⟩, agent)

def tryChild (parent : Context) (agent : Agent) : Except TracingError Context × Agent :=
  let (spanId, agent) := agent.freshSpanId
  (parent.child spanId, agent)

theorem tryRoot_eq : agent.tryRoot = (.ok agent.rootContext.1, agent.rootContext.2) :=
  congrArg (fun made => (made, agent.freshTraceId.2)) agent.rootContext_eq

theorem tryChild_eq (parent : Context) :
    tryChild parent agent =
      (.ok (agent.childContext parent).1, (agent.childContext parent).2) :=
  congrArg (fun made => (made, agent.freshSpanId.2)) (agent.childContext_eq parent)

end Agent

namespace SpanRequest

def follows (current : Option Context) : SpanRequest → Option Context
  | .root => none
  | .rootWith _ => none
  | .join context => some context
  | .child parent => some parent
  | .next extracted => extracted.context?
  | .nextWith extracted _ => extracted.context?
  | .nextFromCurrent => current
  | .handleOf context => some context

def reuses (joins : Bool) : SpanRequest → Bool
  | .join _ => joins
  | .handleOf _ => true
  | _ => false

/-- A span with an identity of its own is a child of what it follows, or the first of a
trace if it follows nothing. -/
theorem drawn_eq (request : SpanRequest) {agent : Agent} (current : Option Context)
    (own : request.reuses agent.joins = false) :
    request.drawn agent current =
      match request.follows current with
      | none => agent.rootContext
      | some parent => agent.childContext parent := by
  cases request with
  | root => rfl
  | rootWith sampling => rfl
  | join context =>
      have apart : agent.joins = false := own
      simp only [drawn, follows, apart, Bool.false_eq_true, if_false]
  | child parent => rfl
  | next extracted =>
      cases extracted with
      | whole parent => rfl
      | lone sampling => rfl
  | nextWith extracted overrides =>
      cases extracted with
      | whole parent => rfl
      | lone sampling => rfl
  | nextFromCurrent =>
      cases current with
      | none => rfl
      | some parent => rfl
  | handleOf context => cases own

theorem perform_opens (request : SpanRequest) (agent : Agent) (current : Option Context)
    (own : request.reuses agent.joins = false) (first : request.follows current = none) :
    (request.perform agent current).1.context.Opens agent.wide agent.ids.nextTrace.1 := by
  have drawn := request.drawn_eq current own
  have opens := agent.rootContext_opens
  simp only [first] at drawn
  rw [perform_span]
  unfold SpanRequest.context Agent.handle
  rw [drawn]
  exact ⟨opens.parentId, opens.low, opens.spanId, opens.narrow, opens.kept⟩

theorem perform_descends (request : SpanRequest) (agent : Agent) (current : Option Context)
    (own : request.reuses agent.joins = false) {parent : Context}
    (after : request.follows current = some parent) :
    (request.perform agent current).1.context.Descends parent agent.ids.nextSpan.1 := by
  have drawn := request.drawn_eq current own
  have descends := agent.childContext_descends parent
  simp only [after] at drawn
  rw [perform_span]
  unfold SpanRequest.context Agent.handle
  rw [drawn]
  exact ⟨descends.traceId, descends.spanId, descends.kept, descends.parentId, descends.shared⟩

end SpanRequest

/-- Whatever the source of identities gives, one pass makes the context of a new trace or of
a child, and draws one identity.  Every span with an identity of its own has one of these. -/
theorem Agent.draws_in_one_pass (agent : Agent) :
    (∀ passes context after, Retries tryRoot agent passes context after ↔
      passes = 1 ∧ agent.rootContext = (context, after)) ∧
    (∀ parent passes context after, Retries (tryChild parent) agent passes context after ↔
      passes = 1 ∧ agent.childContext parent = (context, after)) ∧
    (agent.rootContext.1.Opens agent.wide agent.ids.nextTrace.1 ∧
      agent.rootContext.1.sampling = .undecided ∧ agent.rootContext.1.shared = false ∧
      agent.rootContext.2.ids = agent.ids.nextTrace.2) ∧
    (∀ parent, (agent.childContext parent).1.Descends parent agent.ids.nextSpan.1 ∧
      (agent.childContext parent).1.sampling = parent.sampling ∧
      (agent.childContext parent).2.ids = agent.ids.nextSpan.2) ∧
    ∀ (request : SpanRequest) current, request.reuses agent.joins = false →
      match request.follows current with
      | none =>
          (request.perform agent current).1.context.Opens agent.wide agent.ids.nextTrace.1
      | some parent =>
          (request.perform agent current).1.context.Descends parent agent.ids.nextSpan.1 := by
  refine ⟨?_, ?_, ?_, ?_, ?_⟩
  · intro passes context after
    exact Retries.iff_of_ok agent.tryRoot_eq
  · intro parent passes context after
    exact Retries.iff_of_ok (agent.tryChild_eq parent)
  · exact ⟨agent.rootContext_opens, rfl, rfl, agent.freshTraceId_ids⟩
  · intro parent
    exact ⟨agent.childContext_descends parent, rfl, agent.freshSpanId_ids⟩
  · intro request current own
    cases after : request.follows current with
    | none => exact request.perform_opens agent current own after
    | some parent => exact request.perform_descends agent current own after

end SpanTrail
