import SpanTrail.Agent
import SpanTrail.Proofs.Context.Built
import SpanTrail.Proofs.Ledger.Turn

/-! What an agent does when it makes a span.  A decided sampling state is kept and the
sampler is not asked; a span that is recorded is tracked from then on, until a call ends
it; and a span that is not recorded leaves no trace. -/

namespace SpanTrail

def SpanCall.isEnding : SpanCall → Bool
  | .finish => true
  | .conclude _ => true
  | _ => false

theorem SpanCall.at_ne_conclude {call : SpanCall} (goesOn : call.isEnding = false)
    (now : Timestamp) (ending : Ending) : call.at now ≠ .conclude ending := by
  cases call with
  | start => exact nofun
  | annotate value => exact nofun
  | update change => exact nofun
  | finish => cases goesOn
  | conclude ending => cases goesOn

theorem Ledger.tracks_perform {ledger : Ledger} {other : Context} (context : Context)
    {call : LedgerCall} (goesOn : ∀ ending, call ≠ .conclude ending)
    (tracked : ledger.tracks other = true) :
    (ledger.perform context call).1.tracks other = true := by
  unfold tracks Table.contains at tracked ⊢
  rw [get?_perform]
  split
  · obtain ⟨pending, found⟩ := Option.isSome_iff_exists.mp tracked
    rw [found]
    cases call with
    | register => rfl
    | update change => rfl
    | conclude ending => exact absurd rfl (goesOn ending)
  · exact tracked

/-- A call on a span that is not tracked changes nothing and hands nothing over. -/
theorem SpanCall.perform_absent (call : SpanCall) (now : Timestamp) {ledger : Ledger}
    {context : Context} (absent : ledger.pending.get? context.key = none) :
    (ledger.perform context (call.at now)).1 = ledger ∧
      (ledger.perform context (call.at now)).2.records = [] := by
  cases call with
  | start | annotate value | update change => exact ⟨Ledger.update_absent _ absent, rfl⟩
  | finish =>
      have concluded := Ledger.conclude_absent (.finish now) absent
      exact ⟨congrArg Prod.fst concluded, congrArg (fun ended => ended.2.records) concluded⟩
  | conclude ending =>
      have concluded := Ledger.conclude_absent ending absent
      exact ⟨congrArg Prod.fst concluded, congrArg (fun ended => ended.2.records) concluded⟩

theorem Sampling.records_eq_true {sampling : Sampling} :
    sampling.records = true ↔ sampling.sampled? = some true := by
  unfold Sampling.records
  exact beq_iff_eq

namespace Agent

/-- What is decided already is kept, and the sampler is not asked. -/
theorem resolve_settled (agent : Agent) (traceId : TraceId) {overrides propagated : Sampling}
    (settled : overrides ≠ .undecided ∨ propagated.sampled?.isSome = true) :
    agent.resolve traceId overrides propagated =
      (if overrides = .undecided then propagated else overrides, agent) := by
  unfold resolve
  by_cases unset : overrides = .undecided
  · have decided := settled.resolve_left (not_not_intro unset)
    rw [if_neg (not_not_intro unset), if_pos decided, if_pos unset]
  · rw [if_pos unset, if_neg unset]

theorem resolve_decided (agent : Agent) (traceId : TraceId) {sampling : Sampling}
    (decided : sampling.sampled?.isSome = true) :
    agent.resolve traceId .undecided sampling = (sampling, agent) :=
  agent.resolve_settled traceId (.inr decided)

theorem resolve_undecided (agent : Agent) (traceId : TraceId) :
    (agent.resolve traceId .undecided .undecided).1 =
      .decided (agent.sampler.ask traceId).1 := by
  rfl

theorem resolve_asked (agent : Agent) (traceId : TraceId) {propagated : Sampling}
    (undecided : propagated.sampled?.isNone = true) :
    agent.resolve traceId .undecided propagated =
      (.decided (agent.sampler.ask traceId).1,
        { agent with
          sampler := (agent.sampler.ask traceId).2
          journal := { agent.journal with asked := agent.journal.asked ++ [traceId] } }) := by
  have notDecided : ¬propagated.sampled?.isSome = true := by
    rw [Option.isNone_iff_eq_none.mp undecided]
    exact Bool.false_ne_true
  unfold resolve
  rw [if_neg (not_not_intro rfl), if_neg notDecided]

theorem resolve_ledger (agent : Agent) (traceId : TraceId) (overrides propagated : Sampling) :
    (agent.resolve traceId overrides propagated).2.ledger = agent.ledger ∧
      (agent.resolve traceId overrides propagated).2.journal.records =
        agent.journal.records := by
  unfold resolve
  split
  · exact ⟨rfl, rfl⟩
  · split
    · exact ⟨rfl, rfl⟩
    · exact ⟨rfl, rfl⟩

theorem freshTraceId_ledger (agent : Agent) :
    agent.freshTraceId.2.ledger = agent.ledger ∧
      agent.freshTraceId.2.sampler = agent.sampler ∧
      agent.freshTraceId.2.journal = agent.journal := by
  unfold freshTraceId
  dsimp only
  split
  · exact ⟨rfl, rfl, rfl⟩
  · exact ⟨rfl, rfl, rfl⟩

theorem freshSpanId_ledger (agent : Agent) :
    agent.freshSpanId.2.ledger = agent.ledger ∧
      agent.freshSpanId.2.sampler = agent.sampler ∧
      agent.freshSpanId.2.journal = agent.journal := by
  unfold freshSpanId
  dsimp only
  split
  · exact ⟨rfl, rfl, rfl⟩
  · exact ⟨rfl, rfl, rfl⟩

theorem rootContext_wellFormed (agent : Agent) : agent.rootContext.1.WellFormed :=
  Context.wellFormed_of_root agent.rootContext_eq

theorem childContext_wellFormed (agent : Agent) {parent : Context}
    (wellFormed : parent.WellFormed) : (agent.childContext parent).1.WellFormed :=
  wellFormed.child (agent.childContext_eq parent)

theorem enter_span (agent : Agent) (context : Context) :
    (agent.enter context).1 = handle context := by
  unfold enter
  dsimp only
  split
  · rfl
  · rfl

theorem enter_journal (agent : Agent) (context : Context) :
    (agent.enter context).2.journal = agent.journal := by
  unfold enter
  dsimp only
  split
  · rfl
  · rfl

theorem handle_recorded {context : Context} (records : context.sampling.records = true) :
    handle context = ⟨context, false⟩ := by
  unfold handle
  rw [records]
  rfl

theorem enter_recorded (agent : Agent) {context : Context}
    (records : context.sampling.records = true) :
    agent.enter context =
      (⟨context, false⟩, { agent with ledger := agent.ledger.register context }) := by
  unfold enter
  rw [handle_recorded records]
  rfl

theorem enter_tracks (agent : Agent) {context : Context}
    (records : context.sampling.records = true) :
    (agent.enter context).2.ledger.tracks context = true := by
  have registered := Ledger.get?_register agent.ledger context context.key
  rw [if_pos rfl] at registered
  rw [enter_recorded agent records]
  unfold Ledger.tracks Table.contains
  rw [registered]
  rfl

theorem enter_idle (agent : Agent) {context : Context}
    (idle : context.sampling.records = false) : agent.enter context = (⟨context, true⟩, agent) := by
  unfold enter handle
  simp only [idle, Bool.not_false, if_true]

/-- Making a span changes the spans in flight at most, and only for one that is recorded. -/
theorem enter_agent (agent : Agent) (context : Context) :
    (agent.enter context).2 =
      { agent with
        ledger :=
          if context.sampling.records then agent.ledger.register context else agent.ledger } := by
  cases records : context.sampling.records with
  | false => exact congrArg Prod.snd (agent.enter_idle records)
  | true => exact congrArg Prod.snd (agent.enter_recorded records)

/-! ### Spans -/

theorem rootWith_eq (agent : Agent) (sampling : Sampling) :
    agent.rootWith sampling =
      let resolved := agent.rootContext.2.resolve agent.rootContext.1.traceId .undecided sampling
      resolved.2.enter { agent.rootContext.1 with sampling := resolved.1 } := by
  unfold rootWith enterResolved
  simp only [Context.withSampling_eq]

theorem root_span (agent : Agent) :
    agent.root.1 =
      handle
        { agent.rootContext.1 with
          sampling := .decided (agent.sampler.ask agent.freshTraceId.1).1 } := by
  have asked := agent.rootContext.2.resolve_undecided agent.freshTraceId.1
  have sampler : agent.rootContext.2.sampler = agent.sampler := agent.freshTraceId_ledger.2.1
  rw [sampler] at asked
  unfold root
  rw [rootWith_eq, enter_span]
  change handle { agent.rootContext.1 with
    sampling := (agent.rootContext.2.resolve agent.freshTraceId.1 .undecided .undecided).1 } = _
  rw [asked]

theorem child_eq (agent : Agent) (parent : Context) :
    agent.child parent =
      let made := agent.childContext parent
      let resolved := made.2.resolve made.1.traceId .undecided made.1.sampling
      resolved.2.enter { made.1 with sampling := resolved.1 } := by
  unfold child enterResolved
  simp only [Context.withSampling_eq]

/-- A child of a decided context is in the same state, and the sampler is not asked. -/
theorem child_decided (agent : Agent) {parent : Context}
    (decided : parent.sampling.sampled?.isSome = true) :
    agent.child parent = (agent.childContext parent).2.enter (agent.childContext parent).1 := by
  have kept : (agent.childContext parent).1.sampling.sampled?.isSome = true := decided
  have resolved := (agent.childContext parent).2.resolve_decided
    (agent.childContext parent).1.traceId kept
  rw [child_eq]
  simp only [resolved]

theorem child_recorded (agent : Agent) {parent : Context}
    (records : parent.sampling.records = true) :
    (agent.child parent).1 = ⟨(agent.childContext parent).1, false⟩ := by
  have decided : parent.sampling.sampled?.isSome = true := by
    rw [Sampling.records_eq_true.mp records]
    rfl
  rw [child_decided agent decided, enter_span]
  exact handle_recorded records

/-- The span that follows a current one, or none, comes from a well-formed context that is
not shared.  Whatever is asked before it is registered hands no record over. -/
theorem nextFrom_eq_enter (agent : Agent) {current : Option Context}
    (wellFormed : ∀ context ∈ current, context.WellFormed) :
    ∃ before context, agent.nextFrom current = Agent.enter before context ∧
      context.WellFormed ∧ context.shared = false ∧
      before.journal.records = agent.journal.records := by
  cases current with
  | none =>
      have made := congrArg Journal.records agent.freshTraceId_ledger.2.2
      have resolved := (agent.rootContext.2.resolve_ledger agent.rootContext.1.traceId .undecided
        .undecided).2
      refine ⟨_, _, agent.rootWith_eq .undecided, ?_, rfl, resolved.trans made⟩
      have root := agent.rootContext_wellFormed
      exact ⟨root.traceId, root.spanId, root.parentId⟩
  | some parent =>
      have made := congrArg Journal.records agent.freshSpanId_ledger.2.2
      have resolved := ((agent.childContext parent).2.resolve_ledger
        (agent.childContext parent).1.traceId .undecided parent.sampling).2
      refine ⟨_, _, agent.child_eq parent, ?_, rfl, resolved.trans made⟩
      have child := agent.childContext_wellFormed (wellFormed parent rfl)
      exact ⟨child.traceId, child.spanId, child.parentId⟩

theorem join_apart (agent : Agent) (joins : agent.joins = false) (context : Context) :
    agent.join context = agent.child context := by
  unfold join
  simp only [joins, Bool.false_eq_true, if_false]

theorem join_shared (agent : Agent) (joins : agent.joins = true) (context : Context) :
    agent.join context =
      let resolved := agent.resolve context.traceId .undecided context.sampling
      resolved.2.enter { context with sampling := resolved.1, shared := true } := by
  unfold join Context.withShared
  simp only [joins, if_true, Context.withSampling_eq]

theorem next_whole (agent : Agent) (parent : Context) (overrides : Sampling) :
    agent.next (.whole parent) overrides =
      let made := agent.childContext parent
      let resolved := made.2.resolve made.1.traceId overrides made.1.sampling
      resolved.2.enter { made.1 with sampling := resolved.1 } := by
  unfold next enterResolved
  simp only [Context.withSampling_eq]

theorem next_lone (agent : Agent) (sampling overrides : Sampling) :
    agent.next (.lone sampling) overrides =
      let made := agent.rootContext
      let resolved := made.2.resolve made.1.traceId overrides sampling
      resolved.2.enter { made.1 with sampling := resolved.1 } := by
  unfold next enterResolved
  simp only [Context.withSampling_eq]

theorem handleOf_eq (agent : Agent) (context : Context) :
    agent.handleOf context =
      let resolved := agent.resolve context.traceId .undecided context.sampling
      (handle { context with sampling := resolved.1 }, resolved.2) := by
  unfold handleOf
  simp only [Context.withSampling_eq]

theorem join_decided (agent : Agent) {context : Context}
    (decided : context.sampling.sampled?.isSome = true) :
    agent.join context =
      if agent.joins then agent.enter { context with shared := true }
      else agent.child context := by
  have resolved := agent.resolve_decided context.traceId decided
  unfold join
  simp only [resolved, Context.withSampling_eq]
  rfl

theorem call_idle (agent : Agent) {span : Span} (idle : span.idle = true) (call : SpanCall) :
    agent.call span call = agent := by
  unfold Agent.call
  rw [if_pos idle]

theorem call_recorded (agent : Agent) {span : Span} (recorded : span.idle = false)
    (call : SpanCall) :
    (agent.call span call).ledger = (agent.ledger.perform span.context (call.at agent.clock)).1 ∧
      (agent.call span call).journal.records =
        agent.journal.records ++
          (agent.ledger.perform span.context (call.at agent.clock)).2.records := by
  unfold Agent.call
  rw [if_neg (by rw [recorded]; decide)]
  exact ⟨rfl, rfl⟩

theorem exists_records_call (agent : Agent) (span : Span) (call : SpanCall) :
    ∃ records, (agent.call span call).journal.records = agent.journal.records ++ records ∧
      ∀ record ∈ records, span.idle = false ∧
        record ∈ (agent.ledger.perform span.context (call.at agent.clock)).2.records := by
  cases idle : span.idle with
  | true =>
      rw [call_idle agent idle]
      exact ⟨[], (List.append_nil _).symm, fun _ => nofun⟩
  | false => exact ⟨_, (call_recorded agent idle call).2, fun _ reported => ⟨rfl, reported⟩⟩

/-- The records that a call on a span hands over are its own, and it was tracked. -/
theorem call_reports (agent : Agent) (span : Span) (call : SpanCall) :
    ∃ records, (agent.call span call).journal.records = agent.journal.records ++ records ∧
      ∀ record ∈ records, span.idle = false ∧ record.key = span.context.key ∧
        agent.ledger.tracks span.context = true := by
  obtain ⟨records, handedOver, own⟩ := agent.exists_records_call span call
  refine ⟨records, handedOver, ?_⟩
  intro record member
  obtain ⟨recording, reported⟩ := own record member
  obtain ⟨sameKey, tracked, _⟩ := Ledger.of_mem_records reported
  exact ⟨recording, sameKey, tracked⟩

/-- A call on an idle span changes nothing, and neither does one on a span that is not
tracked. -/
theorem call_quiet {agent : Agent} {span : Span} (call : SpanCall)
    (quiet : span.idle = true ∨ agent.ledger.tracks span.context = false) :
    (agent.call span call).ledger = agent.ledger ∧
      (agent.call span call).journal.records = agent.journal.records := by
  cases idle : span.idle with
  | true =>
      rw [call_idle agent idle]
      exact ⟨rfl, rfl⟩
  | false =>
      have untracked := quiet.resolve_left (by rw [idle]; exact Bool.false_ne_true)
      have absent := Option.isNone_iff_eq_none.mp (Option.isSome_eq_false_iff.mp untracked)
      obtain ⟨ledger, records⟩ := call_recorded agent idle call
      obtain ⟨ledgerKept, nothing⟩ := call.perform_absent agent.clock absent
      rw [ledger, records, nothing]
      exact ⟨ledgerKept, List.append_nil _⟩

theorem callAll_idle (agent : Agent) {span : Span} (idle : span.idle = true)
    (calls : List SpanCall) : agent.callAll span calls = agent := by
  induction calls with
  | nil => rfl
  | cons call rest ih =>
      change (agent.call span call).callAll span rest = agent
      rw [call_idle agent idle, ih]

theorem call_tracks {agent : Agent} (span : Span) {other : Context} {call : SpanCall}
    (goesOn : call.isEnding = false) (tracked : agent.ledger.tracks other = true) :
    (agent.call span call).ledger.tracks other = true := by
  cases idle : span.idle with
  | true =>
      rw [call_idle agent idle]
      exact tracked
  | false =>
      rw [(call_recorded agent idle call).1]
      exact Ledger.tracks_perform span.context (SpanCall.at_ne_conclude goesOn agent.clock) tracked

theorem callAll_tracks {agent : Agent} (span : Span) {other : Context} {calls : List SpanCall}
    (goesOn : ∀ call ∈ calls, call.isEnding = false)
    (tracked : agent.ledger.tracks other = true) :
    (agent.callAll span calls).ledger.tracks other = true := by
  induction calls generalizing agent with
  | nil => exact tracked
  | cons call rest ih =>
      have first := call_tracks span (goesOn call List.mem_cons_self) tracked
      exact ih (fun later member => goesOn later (List.mem_cons_of_mem _ member)) first

theorem callAll_records (agent : Agent) (span : Span) {calls : List SpanCall}
    (goesOn : ∀ call ∈ calls, call.isEnding = false) :
    (agent.callAll span calls).journal.records = agent.journal.records := by
  induction calls generalizing agent with
  | nil => rfl
  | cons call rest ih =>
      have later := ih (agent.call span call)
        fun later member => goesOn later (List.mem_cons_of_mem _ member)
      refine later.trans ?_
      cases idle : span.idle with
      | true => rw [call_idle agent idle]
      | false =>
          have ends := SpanCall.at_ne_conclude (goesOn call List.mem_cons_self) agent.clock
          have nothing :
              (agent.ledger.perform span.context (call.at agent.clock)).2.records = [] := by
            cases made : call.at agent.clock with
            | register => rfl
            | update change => rfl
            | conclude ending => exact absurd made (ends ending)
          rw [(call_recorded agent idle call).2, nothing, List.append_nil]

end Agent

end SpanTrail
