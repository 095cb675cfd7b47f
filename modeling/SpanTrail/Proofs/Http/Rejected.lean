import SpanTrail.Proofs.Http.Relay
import SpanTrail.Proofs.Ledger.Settlement
import SpanTrail.Proofs.Scope.Order

/-! Requests whose trace was rejected before they arrive.  Their server span is idle, and
an idle span makes no context current.  So what such a request sends in its turn does not
follow it: every client span starts a new trace, which the sampler decides on, or follows
a recorded one that did. -/

namespace SpanTrail

namespace ScopeThread

theorem Stands.current_mem {base : ScopeStack} {thread : ScopeThread} {tower : Tower}
    (stands : Stands base thread tower) {outermost : HeldScope}
    (isHeld : outermost ∈ thread.held) (counts : outermost.counts = true) :
    ∃ held ∈ thread.held, thread.stack.current = held.context := by
  have inEffect : outermost ∈ thread.inEffect := List.mem_filter.mpr ⟨isHeld, counts⟩
  have current := stands.current_eq
  cases scopes : thread.inEffect with
  | nil =>
      rw [scopes] at inEffect
      cases inEffect
  | cons newest older =>
      rw [scopes] at current
      have member : newest ∈ thread.inEffect := by
        rw [scopes]
        exact List.mem_cons_self
      exact ⟨newest, (List.mem_filter.mp member).1, current⟩

end ScopeThread

namespace Http

structure Sending where
  before : Agent
  offered : Carrier
  span : Span
  carrier : Carrier

/-- A thread that handles a request: the server span, what was sent, the newest first, and
the records that the calls of this request handed over. -/
structure Handling where
  agent : Agent
  server : Span
  thread : ScopeThread
  sendings : List Sending
  reported : List SpanRecord

/-- What may happen while a request is handled.  Any of its spans, or none, is made
current, and a scope other than that of the server span is closed; a request is sent; a
call is made on a span; and the process does anything else. -/
inductive HandlingStep where
  | enter (chosen : Option Nat)
  | leave (number : Nat) (unwinding : Bool)
  | send (settings : Settings) (carrier : Carrier) (request : Request)
  | call (chosen : Nat) (call : SpanCall)
  | elsewhere (change : Agent → Agent)

namespace Handling

/-- The server span is made current, in the scope with the number zero. -/
def start (received : Span × Agent) (stack : ScopeStack) : Handling where
  agent := received.2
  server := received.1
  thread := (ScopeThread.onStack stack).start (Span.scopeContext (some received.1))
  sendings := []
  reported := []

def spans (handling : Handling) : List Span :=
  handling.sendings.map Sending.span ++ [handling.server]

def advance (handling : Handling) (agent : Agent) : Handling :=
  { handling with
    agent := agent
    reported := handling.reported ++
      agent.journal.records.drop handling.agent.journal.records.length }

def send (handling : Handling) (settings : Settings) (carrier : Carrier) (request : Request) :
    Handling :=
  let sent :=
    clientSend settings handling.agent handling.thread.stack.current carrier request
  { handling.advance sent.2.2 with
    sendings := ⟨handling.agent, carrier, sent.1, sent.2.1⟩ :: handling.sendings }

def call (handling : Handling) (chosen : Nat) (call : SpanCall) : Handling :=
  match handling.spans[chosen]? with
  | none => handling
  | some span => handling.advance (handling.agent.call span call)

def step (handling : Handling) : HandlingStep → Handling
  | .enter chosen =>
      let span := chosen.bind fun number => handling.spans[number]?
      { handling with thread := handling.thread.start (Span.scopeContext span) }
  | .leave number unwinding =>
      { handling with
        thread := handling.thread.close handling.agent.policy (number + 1) unwinding }
  | .send settings carrier request => handling.send settings carrier request
  | .call chosen call => handling.call chosen call
  | .elsewhere change => { handling with agent := change handling.agent }

def run (handling : Handling) (steps : List HandlingStep) : Handling :=
  steps.foldl step handling

end Handling

/-! ### Where client spans come from -/

namespace Sending

def StartsAnew (sending : Sending) : Prop :=
  sending.span =
    Agent.handle
      { sending.before.rootContext.1 with
        sampling := .decided (sending.before.sampler.ask sending.before.freshTraceId.1).1 }

/-- The span is a new child of another one, and is recorded like it. -/
def Follows (sending parent : Sending) : Prop :=
  sending.span =
    ⟨{ parent.span.context with
        spanId := sending.before.freshSpanId.1
        parentId := some parent.span.context.spanId
        shared := false },
      false⟩

/-- The span starts anew or follows a recorded one that was sent before.  It is recorded
if it is sampled, and its context travels in any carrier that held no B3 field. -/
structure Explained (sending : Sending) (older : List Sending) : Prop where
  origin : sending.StartsAnew ∨
    ∃ parent ∈ older, parent.span.idle = false ∧ sending.Follows parent
  recorded : sending.span = Agent.handle sending.span.context
  wellFormed : sending.span.context.WellFormed
  travels : (∀ field : B3.Field, sending.offered.get? field.name = none) →
    B3.extract sending.carrier = .whole sending.span.context

end Sending

/-! ### What a step keeps -/

theorem clientSend_records (settings : Settings) (agent : Agent) {current : Option Context}
    (wellFormed : ∀ context ∈ current, context.WellFormed) (carrier : Carrier)
    (request : Request) :
    (clientSend settings agent current carrier request).2.2.journal.records =
      agent.journal.records := by
  obtain ⟨before, context, entered, _, _, handedOver⟩ := agent.nextFrom_eq_enter wellFormed
  change ((agent.nextFrom current).2.callAll _ _).journal.records = _
  rw [Agent.callAll_records _ _ (clientCalls_goOn settings request), entered,
    before.enter_journal, handedOver]

theorem scopeContext_eq_some {span : Option Span} {context : Context} :
    Span.scopeContext span = some context ↔ span = some ⟨context, false⟩ := by
  rcases span with _ | ⟨own, _ | _⟩ <;> simp [Span.scopeContext, Option.filter]

namespace Handling

/-- The scope of the server span is open, and every other scope makes none current or a
recorded client span. -/
structure Parted (base : ScopeStack) (handling : Handling) : Prop where
  server : handling.server.idle = true
  stands : ∃ tower, ScopeThread.Stands base handling.thread tower
  outermost : ∃ scope, ⟨0, none, scope, true⟩ ∈ handling.thread.held
  contexts : ∀ held ∈ handling.thread.held, ∀ context ∈ held.context,
    ∃ sending ∈ handling.sendings, sending.span = ⟨context, false⟩
  sendings : ∀ newer sending older, handling.sendings = newer ++ sending :: older →
    sending.Explained older
  reported : ∀ record ∈ handling.reported,
    ∃ sending ∈ handling.sendings, sending.span.idle = false ∧
      record.key = sending.span.context.key

variable {base : ScopeStack} {handling : Handling}

theorem Parted.mem_explained (parted : Parted base handling) {sending : Sending}
    (sent : sending ∈ handling.sendings) : ∃ older, sending.Explained older := by
  obtain ⟨newer, older, split⟩ := List.append_of_mem sent
  exact ⟨older, parted.sendings newer sending older split⟩

theorem Parted.current (parted : Parted base handling) :
    ∀ context ∈ handling.thread.stack.current,
      ∃ sending ∈ handling.sendings, sending.span = ⟨context, false⟩ := by
  intro context isCurrent
  obtain ⟨tower, stands⟩ := parted.stands
  obtain ⟨scope, isHeld⟩ := parted.outermost
  obtain ⟨held, member, current⟩ := stands.current_mem isHeld rfl
  rw [current] at isCurrent
  exact parted.contexts held member context isCurrent

theorem Parted.current_wellFormed (parted : Parted base handling) :
    ∀ context ∈ handling.thread.stack.current, context.WellFormed := by
  intro context isCurrent
  obtain ⟨sending, sent, isSpan⟩ := parted.current context isCurrent
  obtain ⟨older, explained⟩ := parted.mem_explained sent
  have wellFormed := explained.wellFormed
  rw [isSpan] at wellFormed
  exact wellFormed

theorem Parted.span_mem (parted : Parted base handling) {span : Span}
    (member : span ∈ handling.spans) (recorded : span.idle = false) :
    ∃ sending ∈ handling.sendings, sending.span = span := by
  rcases List.mem_append.mp member with sent | isServer
  · exact List.mem_map.mp sent
  · rw [List.mem_singleton.mp isServer, parted.server] at recorded
    cases recorded

theorem start_parted {received : Span × Agent} (idle : received.1.idle = true)
    (room : base.hasRoom = true) : Parted base (start received base) := by
  have current : Span.scopeContext (some received.1) = none := by
    unfold Span.scopeContext
    rw [Option.filter_some_neg (by rw [idle]; decide)]
    rfl
  have fits : base.slots.size < ScopeStack.noPosition := by
    rw [ScopeThread.hasRoom_eq, decide_eq_true_eq] at room
    unfold ScopeStack.noPosition
    omega
  have held : (start received base).thread.held =
      [⟨0, none, (Scope.start base none).scope, true⟩] := by
    have counts : decide (base.slots.size < 65534) = true := by
      rw [← ScopeThread.hasRoom_eq, room]
    change [HeldScope.mk 0 _ (Scope.start base _).scope (decide (base.slots.size < 65534))] = _
    rw [current, counts]
  refine ⟨idle, ?_, ?_, ?_, ?_, fun _ => nofun⟩
  · exact ScopeThread.start_stands (ScopeThread.onStack_stands fits) _
  · rw [held]
    exact ⟨_, List.mem_cons_self⟩
  · rw [held]
    intro scope member context isContext
    rw [List.mem_singleton.mp member] at isContext
    cases isContext
  · intro newer sending older split
    cases newer <;> cases split

theorem Parted.enter (parted : Parted base handling) (chosen : Option Nat) :
    Parted base (handling.step (.enter chosen)) := by
  obtain ⟨tower, stands⟩ := parted.stands
  obtain ⟨scope, outermost⟩ := parted.outermost
  refine ⟨parted.server, ScopeThread.start_stands stands _, ?_, ?_, parted.sendings,
    parted.reported⟩
  · exact ⟨scope, List.mem_cons_of_mem _ outermost⟩
  · intro held member context isContext
    rcases List.mem_cons.mp member with isNew | isOlder
    · rw [isNew] at isContext
      have isSpan := scopeContext_eq_some.mp isContext
      obtain ⟨number, _, found⟩ := Option.bind_eq_some_iff.mp isSpan
      exact parted.span_mem (List.mem_of_getElem? found) rfl
    · exact parted.contexts held isOlder context isContext

theorem Parted.leave (parted : Parted base handling) (number : Nat) (unwinding : Bool) :
    Parted base (handling.step (.leave number unwinding)) := by
  obtain ⟨tower, stands⟩ := parted.stands
  obtain ⟨scope, outermost⟩ := parted.outermost
  have remaining :=
    handling.thread.close_held handling.agent.policy (number + 1) unwinding
  refine ⟨parted.server, ScopeThread.close_stands _ stands _ _, ?_, ?_, parted.sendings,
    parted.reported⟩
  · refine ⟨scope, ?_⟩
    change _ ∈ (handling.thread.close _ _ _).held
    -- Only scopes with later numbers are closed.
    rw [remaining, List.mem_eraseP_of_neg (by simp)]
    exact outermost
  · intro held member
    change held ∈ (handling.thread.close _ _ _).held at member
    rw [remaining] at member
    exact parted.contexts held (List.mem_of_mem_eraseP member)

theorem Parted.call (parted : Parted base handling) (chosen : Nat) (call : SpanCall) :
    Parted base (handling.call chosen call) := by
  unfold Handling.call
  cases found : handling.spans[chosen]? with
  | none => exact parted
  | some span =>
      obtain ⟨records, handedOver, keys⟩ := handling.agent.call_reports span call
      refine ⟨parted.server, parted.stands, parted.outermost, parted.contexts, parted.sendings, ?_⟩
      intro record reported
      change record ∈ handling.reported ++ _ at reported
      rw [handedOver, List.drop_left] at reported
      rcases List.mem_append.mp reported with earlier | new
      · exact parted.reported record earlier
      · obtain ⟨recorded, key, _⟩ := keys record new
        obtain ⟨sending, sent, isSpan⟩ := parted.span_mem (List.mem_of_getElem? found) recorded
        refine ⟨sending, sent, ?_, ?_⟩
        · rw [isSpan, recorded]
        · rw [isSpan, key]

theorem Parted.explained (parted : Parted base handling) (settings : Settings)
    (carrier : Carrier) (request : Request) :
    let sent := clientSend settings handling.agent handling.thread.stack.current carrier request
    Sending.Explained ⟨handling.agent, carrier, sent.1, sent.2.1⟩ handling.sendings := by
  intro sent
  obtain ⟨recorded, wellFormed, travels⟩ := clientSend_extracted settings handling.agent
    parted.current_wellFormed carrier request
  refine ⟨?_, recorded, wellFormed, travels⟩
  cases isCurrent : handling.thread.stack.current with
  | none =>
      left
      change (handling.agent.nextFrom handling.thread.stack.current).1 = _
      rw [isCurrent]
      exact handling.agent.root_span
  | some context =>
      right
      obtain ⟨parent, earlier, isSpan⟩ := parted.current context isCurrent
      obtain ⟨older, explained⟩ := parted.mem_explained earlier
      refine ⟨parent, earlier, congrArg Span.idle isSpan, ?_⟩
      -- A span that is current is awake, so its context is a sampled one.
      have records : context.sampling.records = true := by
        have recorded := explained.recorded
        rw [isSpan] at recorded
        have awake := congrArg Span.idle recorded
        simpa [Agent.handle] using awake.symm
      unfold Sending.Follows
      rw [isSpan]
      change (handling.agent.nextFrom handling.thread.stack.current).1 = _
      rw [isCurrent]
      exact handling.agent.child_recorded records

theorem Parted.send (parted : Parted base handling) (settings : Settings) (carrier : Carrier)
    (request : Request) : Parted base (handling.send settings carrier request) := by
  refine ⟨parted.server, parted.stands, parted.outermost, ?_, ?_, ?_⟩
  · intro held member context isContext
    obtain ⟨sending, sent, isSpan⟩ := parted.contexts held member context isContext
    exact ⟨sending, List.mem_cons_of_mem _ sent, isSpan⟩
  · intro newer sending older split
    cases newer with
    | nil =>
        obtain ⟨rfl, rfl⟩ := List.cons.inj split
        exact parted.explained settings carrier request
    | cons newest newer =>
        exact parted.sendings newer sending older (List.cons.inj split).2
  · intro record reported
    have nothing := clientSend_records settings handling.agent parted.current_wellFormed carrier
      request
    change record ∈ handling.reported ++ List.drop _ (Journal.records _) at reported
    rw [nothing, List.drop_length, List.append_nil] at reported
    obtain ⟨sending, sent, own⟩ := parted.reported record reported
    exact ⟨sending, List.mem_cons_of_mem _ sent, own⟩

theorem Parted.step (parted : Parted base handling) (step : HandlingStep) :
    Parted base (handling.step step) := by
  cases step with
  | enter chosen => exact parted.enter chosen
  | leave number unwinding => exact parted.leave number unwinding
  | send settings carrier request => exact parted.send settings carrier request
  | call chosen call => exact parted.call chosen call
  | elsewhere change =>
      exact ⟨parted.server, parted.stands, parted.outermost, parted.contexts, parted.sendings,
        parted.reported⟩

theorem Parted.run (parted : Parted base handling) (steps : List HandlingStep) :
    Parted base (handling.run steps) := by
  induction steps generalizing handling with
  | nil => exact parted
  | cons step rest ih => exact ih (parted.step step)

end Handling

theorem serverReceive_rejected (settings : Settings) (agent : Agent) {carrier : Carrier}
    {context : Context} (extracted : B3.extract carrier = .whole context)
    (rejected : context.sampling.sampled? = some false) (request : Request) :
    let received := serverReceive settings agent carrier request
    received.1 = ⟨joinedContext agent context, true⟩ ∧ received.2.ledger = agent.ledger ∧
      received.2.sampler = agent.sampler ∧ received.2.journal = agent.journal := by
  have decided : context.sampling.sampled?.isSome = true := by
    rw [rejected]
    rfl
  have idle : (joinedContext agent context).sampling.records = false := by
    unfold Sampling.records
    rw [(joinedContext_trace agent context).2, rejected]
    rfl
  obtain ⟨before, entered, kept⟩ := join_eq_enter agent decided
  have silent : before.callAll ⟨joinedContext agent context, true⟩ (serverCalls settings request) =
      before := before.callAll_idle rfl _
  unfold serverReceive
  simp only [extracted, entered, Agent.enter_idle before idle, silent, true_and]
  exact kept

/-- The span of a request whose trace was rejected keeps the trace and the decision, is
idle, and makes no context current; nothing is registered, asked or handed over for it.
Whatever the request does then, each client span starts a new trace, which the sampler
decides on, or follows a recorded one of these, and is sent along so; and only records of
such recorded client spans are handed over. -/
theorem rejected_starts_anew (settings : Settings) (agent : Agent) {carrier : Carrier}
    {context : Context} (extracted : B3.extract carrier = .whole context)
    (rejected : context.sampling.sampled? = some false) (request : Request)
    (stack : ScopeStack) (room : stack.hasRoom = true) (steps : List HandlingStep) :
    let received := serverReceive settings agent carrier request
    let handling := (Handling.start received stack).run steps
    (received.1.idle = true ∧ received.1.context.traceId = context.traceId ∧
        received.1.context.sampling = context.sampling ∧
        (Handling.start received stack).thread.stack.current = none) ∧
      (received.2.ledger = agent.ledger ∧ received.2.sampler = agent.sampler ∧
        received.2.journal = agent.journal ∧
        ∀ later call, Agent.call later received.1 call = later) ∧
      (∀ newer sending older, handling.sendings = newer ++ sending :: older →
        sending.Explained older) ∧
      ∀ record ∈ handling.reported, ∃ sending ∈ handling.sendings,
        sending.span.idle = false ∧ record.key = sending.span.context.key := by
  intro received handling
  obtain ⟨isSpan, ledger, sampler, journal⟩ :=
    serverReceive_rejected settings agent extracted rejected request
  have idle : received.1.idle = true := congrArg Span.idle isSpan
  have trace := joinedContext_trace agent context
  have begun := Handling.start_parted idle room
  have parted : Handling.Parted stack handling := begun.run steps
  refine ⟨⟨idle, ?_, ?_, ?_⟩, ⟨ledger, sampler, journal, ?_⟩, parted.sendings, parted.reported⟩
  · exact (congrArg (fun span => span.context.traceId) isSpan).trans trace.1
  · exact (congrArg (fun span => span.context.sampling) isSpan).trans trace.2
  · rw [Option.eq_none_iff_forall_ne_some]
    intro other isCurrent
    obtain ⟨sending, sent, _⟩ := begun.current other isCurrent
    cases sent
  · intro later call
    exact Agent.call_idle later idle call

/-- A request of a rejected trace, from whose scope two requests are sent, the second one
below the span of the first. -/
theorem rejected_starts_anew_nested :
    let agent := { AgentSettings.unset 0 with
      sampler := some .always
      ids := some .increasing
      joins := some false }.build (Entropy.ofSeed 1)
    let settings := Settings.create .standard .standard none
    let request := Request.plain (some "GET") (some "/orders") none []
    let context : Context := ⟨.ofLow 10, ⟨11⟩, none, .rejected, false⟩
    let carrier := B3.inject .single context .emptyHeaders
    let handling := (Handling.start (serverReceive settings agent carrier request) .empty).run
      [.send settings .emptyMap request, .enter (some 0), .send settings .emptyMap request,
        .leave 0 false, .call 1 .finish]
    B3.extract carrier = .whole context ∧ context.sampling.sampled? = some false ∧
      ScopeStack.empty.hasRoom = true ∧
      ∀ newer sending older, handling.sendings = newer ++ sending :: older →
        sending.Explained older := by
  intro agent settings request context carrier handling
  have wellFormed : context.WellFormed := ⟨by decide, by decide, nofun⟩
  have extracted : B3.extract carrier = .whole context :=
    B3.extract_inject_unshared wellFormed nofun
  have facts := rejected_starts_anew settings agent extracted rfl request .empty (by decide)
    [.send settings .emptyMap request, .enter (some 0), .send settings .emptyMap request,
      .leave 0 false, .call 1 .finish]
  exact ⟨extracted, rfl, by decide, facts.2.2.1⟩

/-- A request of a rejected trace sends another one that is sampled, in another trace, and
whose span is reported. -/
theorem rejected_request_sends_sampled :
    let agent := { AgentSettings.unset 0 with
      sampler := some .always
      ids := some .increasing }.build (Entropy.ofSeed 1)
    let settings := Settings.create .standard .standard none
    let request := Request.plain (some "GET") (some "/orders") none []
    let carrier := Carrier.emptyHeaders.setAll
      [("x-b3-traceid", "000000000000000a"), ("x-b3-spanid", "000000000000000b"),
        ("x-b3-sampled", "0")]
    let handling := (Handling.start (serverReceive settings agent carrier request) .empty).run
      [.send settings .emptyHeaders request, .call 0 .finish]
    B3.extract carrier = .whole ⟨.ofLow 10, ⟨11⟩, none, .rejected, false⟩ ∧
      handling.sendings.map (fun sending => B3.extract sending.carrier) =
        [.whole ⟨.ofLow 1, ⟨1⟩, none, .accepted, false⟩] ∧
      handling.reported.map SpanRecord.key = [⟨.ofLow 1, ⟨1⟩, false⟩] := by
  decide +kernel

end Http

end SpanTrail
