import SpanTrail.Http.Exchange
import SpanTrail.Proofs.Agent.Creation
import SpanTrail.Proofs.B3.RoundTrip
import SpanTrail.Proofs.Scope.Thread

/-! Requests that are relayed from process to process.  Each process takes up the span
that arrives, makes its own span current and sends the request on.  A decision to record
the trace goes along, under debugging too, and every span is linked to the one before. -/

namespace SpanTrail.Http

/-- A process on the way of a request: its agent when the request arrives, whatever else
it does before it sends the request on, the scopes of the handling thread, which have room
for one more, and how it looks at what arrives and what leaves.  The carrier that leaves
holds no B3 field before. -/
structure Process where
  agent : Agent
  meanwhile : Agent → Agent
  stack : ScopeStack
  room : stack.hasRoom = true
  serverSettings : Settings
  clientSettings : Settings
  arriving : Request
  leaving : Request
  carrier : Carrier
  unused : ∀ field : B3.Field, carrier.get? field.name = none

/-- What a process did to a relayed request: the client span that arrived, the server span
with the agent that received it, and the client span that left with the agent that sent it
and the carrier. -/
structure Hop where
  process : Process
  sender : Span
  server : Span
  received : Agent
  client : Span
  sent : Agent
  carrier : Carrier

def Process.relay (process : Process) (sender : Span) (arrived : Carrier) : Hop :=
  let receipt := serverReceive process.serverSettings process.agent arrived process.arriving
  let opening := Scope.start process.stack (Span.scopeContext (some receipt.1))
  let dispatch := clientSend process.clientSettings (process.meanwhile receipt.2)
    opening.stack.current process.carrier process.leaving
  { process := process
    sender := sender
    server := receipt.1
    received := receipt.2
    client := dispatch.1
    sent := dispatch.2.2
    carrier := dispatch.2.1 }

def relays (sender : Span) (arrived : Carrier) : List Process → List Hop
  | [] => []
  | process :: rest =>
      let hop := process.relay sender arrived
      hop :: relays hop.client hop.carrier rest

theorem customization_goesOn (customization : Customization) :
    customization.call.isEnding = false := by
  cases customization <;> rfl

theorem openingCalls_goOn {Peer : Type} (kind : Kind) (customizations : List Customization)
    (peer : Option Peer) (endpoint : Peer → Endpoint) :
    ∀ call ∈ [SpanCall.update (.kind kind)] ++ customizations.map Customization.call ++
      (peer.map fun known => SpanCall.update (.remoteEndpoint (endpoint known))).toList ++
      [.start], call.isEnding = false := by
  intro call member
  simp only [List.mem_append, List.mem_singleton, List.mem_map, Option.mem_toList,
    Option.map_eq_some_iff] at member
  rcases member with ((isKind | ⟨customization, _, rfl⟩) | ⟨known, _, rfl⟩) | isStart
  · rw [isKind]
    rfl
  · exact customization_goesOn customization
  · rfl
  · rw [isStart]
    rfl

theorem clientCalls_goOn (settings : Settings) (request : Request) :
    ∀ call ∈ clientCalls settings request, call.isEnding = false :=
  openingCalls_goOn .client _ settings.serverName Endpoint.named

theorem serverCalls_goOn (settings : Settings) (request : Request) :
    ∀ call ∈ serverCalls settings request, call.isEnding = false :=
  openingCalls_goOn .server _ request.clientAddress? Endpoint.unknown.withAddress

theorem clientSend_extracted (settings : Settings) (agent : Agent) {current : Option Context}
    (wellFormed : ∀ context ∈ current, context.WellFormed) (carrier : Carrier)
    (request : Request) :
    let sent := clientSend settings agent current carrier request
    sent.1 = Agent.handle sent.1.context ∧ sent.1.context.WellFormed ∧
      ((∀ field : B3.Field, carrier.get? field.name = none) →
        B3.extract sent.2.1 = .whole sent.1.context) := by
  intro sent
  obtain ⟨before, context, entered, contextWellFormed, unshared, _⟩ :=
    agent.nextFrom_eq_enter wellFormed
  have isSpan : sent.1 = Agent.handle context := by
    change (agent.nextFrom current).1 = _
    rw [entered, Agent.enter_span]
  rw [isSpan]
  refine ⟨rfl, contextWellFormed, ?_⟩
  intro unused
  have kept : context.withShared false = context := by
    rw [← unshared]
    rfl
  change B3.extract (B3.inject (agent.nextFrom current).2.encoding sent.1.context carrier) =
    .whole context
  rw [isSpan]
  exact (B3.extract_inject_unshared contextWellFormed fun _ => unused).trans
    (congrArg Extraction.whole kept)

theorem clientSend_tracks (settings : Settings) (agent : Agent) {current : Option Context}
    (wellFormed : ∀ context ∈ current, context.WellFormed) (carrier : Carrier)
    (request : Request) :
    let sent := clientSend settings agent current carrier request
    sent.1.context.sampling.records = true → sent.2.2.ledger.tracks sent.1.context = true := by
  intro sent records
  obtain ⟨before, context, entered, _⟩ := agent.nextFrom_eq_enter wellFormed
  have isContext : sent.1.context = context := by
    change (agent.nextFrom current).1.context = _
    rw [entered, Agent.enter_span]
    rfl
  rw [isContext] at records ⊢
  apply Agent.callAll_tracks sent.1 (clientCalls_goOn settings request)
  change (agent.nextFrom current).2.ledger.tracks context = true
  rw [entered]
  exact before.enter_tracks records

structure Travels (span : Span) (carrier : Carrier) : Prop where
  wellFormed : span.context.WellFormed
  sampled : span.context.sampling.sampled? = some true
  extracted : B3.extract carrier = .whole span.context

theorem clientSend_travels (settings : Settings) (agent : Agent) {current : Option Context}
    (wellFormed : ∀ context ∈ current, context.WellFormed) {carrier : Carrier}
    (unused : ∀ field : B3.Field, carrier.get? field.name = none) (request : Request)
    (sampled : (clientSend settings agent current carrier request).1.context.sampling.sampled? =
      some true) :
    let sent := clientSend settings agent current carrier request
    Travels sent.1 sent.2.1 ∧ sent.1.idle = false ∧
      sent.2.2.ledger.tracks sent.1.context = true := by
  intro sent
  have records := Sampling.records_eq_true.mpr sampled
  obtain ⟨isHandle, sentWellFormed, extracted⟩ :=
    clientSend_extracted settings agent wellFormed carrier request
  refine ⟨⟨sentWellFormed, sampled, extracted unused⟩, ?_, ?_⟩
  · rw [isHandle, Agent.handle_recorded records]
  · exact clientSend_tracks settings agent wellFormed carrier request records

def joinedContext (agent : Agent) (context : Context) : Context :=
  if agent.joins then { context with shared := true } else (agent.childContext context).1

/-- A decided context that arrives is joined or followed by a child, without asking the
sampler. -/
theorem join_eq_enter (agent : Agent) {context : Context}
    (decided : context.sampling.sampled?.isSome = true) :
    ∃ before, agent.join context = Agent.enter before (joinedContext agent context) ∧
      before.ledger = agent.ledger ∧ before.sampler = agent.sampler ∧
      before.journal = agent.journal := by
  rw [Agent.join_decided agent decided]
  unfold joinedContext
  cases agent.joins with
  | true => exact ⟨agent, rfl, rfl, rfl, rfl⟩
  | false =>
      refine ⟨(agent.childContext context).2, ?_, agent.freshSpanId_ledger⟩
      exact Agent.child_decided agent decided

theorem joinedContext_wellFormed (agent : Agent) {context : Context}
    (wellFormed : context.WellFormed) : (joinedContext agent context).WellFormed := by
  unfold joinedContext
  split
  · exact ⟨wellFormed.traceId, wellFormed.spanId, wellFormed.parentId⟩
  · exact agent.childContext_wellFormed wellFormed

theorem joinedContext_trace (agent : Agent) (context : Context) :
    (joinedContext agent context).traceId = context.traceId ∧
      (joinedContext agent context).sampling = context.sampling := by
  unfold joinedContext
  split
  · exact ⟨rfl, rfl⟩
  · exact ⟨rfl, rfl⟩

theorem serverReceive_decided (settings : Settings) (agent : Agent) {carrier : Carrier}
    {context : Context} (extracted : B3.extract carrier = .whole context)
    (decided : context.sampling.sampled?.isSome = true) (request : Request) :
    (serverReceive settings agent carrier request).1 =
        Agent.handle (joinedContext agent context) ∧
      (context.sampling.records = true →
        (serverReceive settings agent carrier request).2.ledger.tracks
          (joinedContext agent context) = true) := by
  obtain ⟨before, entered, _⟩ := join_eq_enter agent decided
  unfold serverReceive
  simp only [extracted, entered, Agent.enter_span, true_and]
  intro records
  apply Agent.callAll_tracks _ (serverCalls_goOn settings request)
  apply Agent.enter_tracks
  rw [(joinedContext_trace agent context).2]
  exact records

theorem current_recorded {stack : ScopeStack} (room : stack.hasRoom = true) {span : Span}
    (recorded : span.idle = false) :
    (Scope.start stack (Span.scopeContext (some span))).stack.current = some span.context := by
  unfold Span.scopeContext
  rw [Scope.start_current room, Option.filter_some_pos (by rw [recorded]; rfl)]
  rfl

/-! ### One hop -/

section

variable {sender : Span} {arrived : Carrier}

theorem Travels.joined_sampled (travels : Travels sender arrived) (agent : Agent) :
    (joinedContext agent sender.context).sampling.sampled? = some true := by
  rw [(joinedContext_trace agent sender.context).2]
  exact travels.sampled

theorem relay_server (process : Process) (travels : Travels sender arrived) :
    let hop := process.relay sender arrived
    hop.server = ⟨joinedContext process.agent sender.context, false⟩ ∧
      hop.received.ledger.tracks (joinedContext process.agent sender.context) = true := by
  intro hop
  have decided : sender.context.sampling.sampled?.isSome = true := by
    rw [travels.sampled]
    rfl
  obtain ⟨received, tracked⟩ := serverReceive_decided process.serverSettings process.agent
    travels.extracted decided process.arriving
  have records := Sampling.records_eq_true.mpr (travels.joined_sampled process.agent)
  refine ⟨received.trans (Agent.handle_recorded records), ?_⟩
  exact tracked (Sampling.records_eq_true.mpr travels.sampled)

theorem relay_client (process : Process) (travels : Travels sender arrived) :
    let hop := process.relay sender arrived
    hop.client =
        ⟨((process.meanwhile hop.received).childContext hop.server.context).1, false⟩ ∧
      hop.sent.ledger.tracks hop.client.context = true ∧ Travels hop.client hop.carrier := by
  intro hop
  obtain ⟨isServer, _⟩ := relay_server process travels
  have sampled : hop.server.context.sampling.sampled? = some true := by
    rw [isServer]
    exact travels.joined_sampled process.agent
  have wellFormed : hop.server.context.WellFormed := by
    rw [isServer]
    exact joinedContext_wellFormed process.agent travels.wellFormed
  -- The server span is current when the request is sent on, since it is recorded.
  have current := current_recorded process.room (congrArg Span.idle isServer)
  have isClient : hop.client =
      ⟨((process.meanwhile hop.received).childContext hop.server.context).1, false⟩ := by
    change ((process.meanwhile hop.received).nextFrom (Scope.start process.stack
      (Span.scopeContext (some hop.server))).stack.current).1 = _
    rw [current]
    exact (process.meanwhile hop.received).child_recorded (Sampling.records_eq_true.mpr sampled)
  have goesOn : hop.client.context.sampling.sampled? = some true := by
    rw [isClient]
    exact sampled
  have currentWellFormed : ∀ context ∈ (Scope.start process.stack
      (Span.scopeContext (some hop.server))).stack.current, context.WellFormed := by
    intro context isCurrent
    rw [current] at isCurrent
    rw [← Option.some.inj isCurrent]
    exact wellFormed
  obtain ⟨after, _, tracked⟩ :=
    clientSend_travels process.clientSettings (process.meanwhile hop.received) currentWellFormed
      process.unused process.leaving goesOn
  exact ⟨isClient, tracked, after⟩

/-- Both spans of the process are recorded, the server span shares the identity of the span
that arrived or is a new child of it, and the client span is a new child of the server
span. -/
structure Hop.Linked (hop : Hop) : Prop where
  serverRecorded : hop.server.idle = false
  serverTracked : hop.received.ledger.tracks hop.server.context = true
  clientRecorded : hop.client.idle = false
  clientTracked : hop.sent.ledger.tracks hop.client.context = true
  joined : hop.process.agent.joins = true →
    hop.server.context = { hop.sender.context with shared := true }
  parted : hop.process.agent.joins = false →
    hop.server.context =
      { hop.sender.context with
        spanId := hop.process.agent.freshSpanId.1
        parentId := some hop.sender.context.spanId
        shared := false }
  followed :
    hop.client.context =
      { hop.server.context with
        spanId := (hop.process.meanwhile hop.received).freshSpanId.1
        parentId := some hop.server.context.spanId
        shared := false }

/-- A process that a sampled span reaches goes on with one. -/
theorem relay_linked (process : Process) (travels : Travels sender arrived) :
    (process.relay sender arrived).Linked ∧
      Travels (process.relay sender arrived).client (process.relay sender arrived).carrier := by
  let hop := process.relay sender arrived
  obtain ⟨isServer, serverTracked⟩ := relay_server process travels
  obtain ⟨isClient, clientTracked, after⟩ := relay_client process travels
  have joined : hop.server.context = joinedContext process.agent sender.context :=
    congrArg Span.context isServer
  refine ⟨⟨congrArg Span.idle isServer, ?_, congrArg Span.idle isClient, clientTracked, ?_, ?_,
    congrArg Span.context isClient⟩, after⟩
  · change hop.received.ledger.tracks hop.server.context = true
    rw [joined]
    exact serverTracked
  · intro joins
    exact joined.trans (if_pos joins)
  · intro joinsNot
    exact joined.trans (if_neg (ne_true_of_eq_false joinsNot))

end

structure Hop.Follows (hop : Hop) (first : Span) : Prop where
  serverTrace : hop.server.context.traceId = first.context.traceId
  serverSampling : hop.server.context.sampling = first.context.sampling
  clientTrace : hop.client.context.traceId = first.context.traceId
  clientSampling : hop.client.context.sampling = first.context.sampling

theorem Hop.Linked.follows {hop : Hop} (linked : hop.Linked) : hop.Follows hop.sender := by
  have trace : hop.server.context.traceId = hop.sender.context.traceId ∧
      hop.server.context.sampling = hop.sender.context.sampling := by
    cases joins : hop.process.agent.joins with
    | true =>
        rw [linked.joined joins]
        exact ⟨rfl, rfl⟩
    | false =>
        rw [linked.parted joins]
        exact ⟨rfl, rfl⟩
  refine ⟨trace.1, trace.2, ?_, ?_⟩
  · rw [linked.followed]
    exact trace.1
  · rw [linked.followed]
    exact trace.2

theorem relays_linked {sender : Span} {arrived : Carrier} (travels : Travels sender arrived)
    (processes : List Process) :
    ∀ hop ∈ relays sender arrived processes, hop.Linked ∧ hop.Follows sender := by
  induction processes generalizing sender arrived with
  | nil =>
      intro hop member
      exact absurd member List.not_mem_nil
  | cons process rest ih =>
      -- What leaves this process is what arrives at the next one.
      obtain ⟨linked, after⟩ := relay_linked process travels
      have here : (process.relay sender arrived).Follows sender := linked.follows
      intro hop member
      cases List.mem_cons.mp member with
      | inl isFirst =>
          rw [isFirst]
          exact ⟨linked, here⟩
      | inr later =>
          obtain ⟨laterLinked, follows⟩ := ih after hop later
          refine ⟨laterLinked, ?_, ?_, ?_, ?_⟩
          · exact follows.serverTrace.trans here.clientTrace
          · exact follows.serverSampling.trans here.clientSampling
          · exact follows.clientTrace.trans here.clientTrace
          · exact follows.clientSampling.trans here.clientSampling

/-- A client sends a request, which is relayed through any processes.  If the first client
span is sampled, it is recorded, and so are both spans of every process, in the same trace
and the same sampling state, whatever the samplers say.  Each server span shares the
identity of the client span that arrived if its process joins, and is a new child of it if
not; each client span is a new child of the server span of its own process. -/
theorem relays_keep_decision (settings : Settings) (agent : Agent) (current : Option Context)
    (built : ∀ context ∈ current, context.Built) (carrier : Carrier)
    (unused : ∀ field : B3.Field, carrier.get? field.name = none) (request : Request)
    (processes : List Process) :
    let first := clientSend settings agent current carrier request
    first.1.context.sampling.sampled? = some true →
      first.1.idle = false ∧ first.2.2.ledger.tracks first.1.context = true ∧
        ∀ hop ∈ relays first.1 first.2.1 processes, hop.Linked ∧ hop.Follows first.1 := by
  intro first sampled
  have wellFormed : ∀ context ∈ current, context.WellFormed := by
    intro context isCurrent
    exact (built context isCurrent).wellFormed
  obtain ⟨travels, recorded, tracked⟩ :=
    clientSend_travels settings agent wellFormed unused request sampled
  exact ⟨recorded, tracked, relays_linked travels processes⟩

/-- A request under debugging that reaches a process that joins and then one that does not,
both of which would sample nothing. -/
theorem relays_keep_decision_debug :
    let agent := { AgentSettings.unset 0 with
      sampler := some .never
      ids := some .increasing }.build (Entropy.ofSeed 1)
    let settings := Settings.create .standard .standard none
    let request := Request.plain (some "GET") (some "/orders") none []
    let current : Option Context := some ⟨.ofLow 10, ⟨11⟩, none, .debug, false⟩
    let joining : Process :=
      ⟨agent, fun later => later.setClock 20, .empty, by decide, settings, settings, request,
        request, .emptyHeaders, by intro field; cases field <;> decide⟩
    let parting : Process :=
      ⟨{ agent with joins := false }, id, .empty, by decide, settings, settings, request, request,
        .emptyMap, by intro field; cases field <;> decide⟩
    let first := clientSend settings agent current .emptyHeaders request
    (∀ context ∈ current, context.Built) ∧
      (∀ field : B3.Field, Carrier.emptyHeaders.get? field.name = none) ∧
      first.1.context.sampling.sampled? = some true ∧
      ∀ hop ∈ relays first.1 first.2.1 [joining, parting], hop.Linked ∧ hop.Follows first.1 := by
  intro agent settings request current joining parting first
  have built : ∀ context ∈ current, context.Built := by
    intro context isCurrent
    rw [← Option.some.inj isCurrent]
    exact Context.WellFormed.built ⟨by decide, by decide, nofun⟩
  have unused : ∀ field : B3.Field, Carrier.emptyHeaders.get? field.name = none := by
    intro field
    cases field <;> decide
  have sampled : first.1.context.sampling.sampled? = some true := rfl
  have facts := relays_keep_decision settings agent current built .emptyHeaders unused request
    [joining, parting] sampled
  exact ⟨built, unused, sampled, facts.2.2⟩

end SpanTrail.Http
