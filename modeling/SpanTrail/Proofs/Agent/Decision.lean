import SpanTrail.Proofs.Agent.Usage
import SpanTrail.Proofs.Sampler.Share

/-! Decisions about new spans.  A decided state that a request or what it follows carries is
kept, and only an open request asks the sampler, once.  So a counting sampler keeps its
share among the open requests, whatever else the agent is asked for in between. -/

namespace SpanTrail

theorem Sampling.decided_records (decision : Bool) : (decided decision).records = decision := by
  cases decision with
  | false => rfl
  | true => rfl

theorem Sampling.sampled?_isSome {sampling : Sampling} (settled : sampling ≠ .undecided) :
    sampling.sampled?.isSome = true := by
  cases sampling with
  | undecided => exact absurd rfl settled
  | rejected => rfl
  | accepted => rfl
  | debug => rfl

theorem Agent.handle_idle_iff {context : Context}
    (decided : context.sampling.sampled?.isSome = true) :
    (handle context).idle = true ↔ context.sampling.sampled? = some false := by
  unfold handle Sampling.records
  obtain ⟨decision, known⟩ := Option.isSome_iff_exists.mp decided
  rw [known]
  cases decision with
  | false => exact ⟨fun _ => rfl, fun _ => rfl⟩
  | true => exact ⟨nofun, nofun⟩

namespace SpanRequest

variable (request : SpanRequest) (agent : Agent) (current : Option Context)

theorem isOpen_iff :
    request.isOpen current = true ↔
      request.overrides = .undecided ∧ (request.propagated current).sampled?.isNone = true := by
  unfold isOpen
  rw [Bool.and_eq_true, decide_eq_true_eq]

theorem settled_of_closed (closed : request.isOpen current = false) :
    request.overrides ≠ .undecided ∨ (request.propagated current).sampled?.isSome = true := by
  by_cases unset : request.overrides = .undecided
  · right
    cases known : (request.propagated current).sampled? with
    | some decision => rfl
    | none =>
        have isOpen := (request.isOpen_iff current).mpr ⟨unset, by rw [known]; rfl⟩
        rw [closed] at isOpen
        cases isOpen
  · exact .inl unset

theorem perform_context :
    (request.perform agent current).1.context = request.context agent current := by
  rw [perform_span]
  rfl

theorem perform_asking :
    (request.perform agent current).2.sampler = (request.resolved agent current).2.sampler ∧
      (request.perform agent current).2.journal = (request.resolved agent current).2.journal := by
  rw [perform_agent]
  exact ⟨rfl, rfl⟩

theorem perform_closed (closed : request.isOpen current = false) :
    (request.perform agent current).1.context.sampling =
        (if request.overrides = .undecided then request.propagated current
          else request.overrides) ∧
      (request.perform agent current).2.sampler = agent.sampler ∧
      (request.perform agent current).2.journal.asked = agent.journal.asked := by
  obtain ⟨_, sampler, journal⟩ := request.drawn_agent agent current
  have resolved : request.resolved agent current = _ :=
    (request.drawn agent current).2.resolve_settled _ (request.settled_of_closed current closed)
  obtain ⟨samplerKept, journalKept⟩ := request.perform_asking agent current
  rw [perform_context, samplerKept, journalKept]
  unfold SpanRequest.context
  rw [resolved]
  exact ⟨rfl, sampler, congrArg Journal.asked journal⟩

theorem perform_open (isOpen : request.isOpen current = true) :
    let traceId := (request.perform agent current).1.context.traceId
    (request.perform agent current).1.context.sampling =
        .decided (agent.sampler.ask traceId).1 ∧
      (request.perform agent current).2.sampler = (agent.sampler.ask traceId).2 ∧
      (request.perform agent current).2.journal.asked = agent.journal.asked ++ [traceId] := by
  obtain ⟨unset, undecided⟩ := (request.isOpen_iff current).mp isOpen
  obtain ⟨_, sampler, journal⟩ := request.drawn_agent agent current
  have resolved := (request.drawn agent current).2.resolve_asked
    (request.drawn agent current).1.traceId undecided
  rw [← unset, sampler, journal] at resolved
  change request.resolved agent current = _ at resolved
  obtain ⟨samplerKept, journalKept⟩ := request.perform_asking agent current
  rw [perform_context, samplerKept, journalKept]
  unfold SpanRequest.context
  rw [resolved]
  exact ⟨rfl, rfl, rfl⟩

theorem perform_decided :
    (request.perform agent current).1.context.sampling.sampled?.isSome = true := by
  cases isOpen : request.isOpen current with
  | true =>
      rw [(request.perform_open agent current isOpen).1]
      cases (agent.sampler.ask _).1 with
      | false => rfl
      | true => rfl
  | false =>
      rw [(request.perform_closed agent current isOpen).1]
      by_cases unset : request.overrides = .undecided
      · rw [if_pos unset]
        exact (request.settled_of_closed current isOpen).resolve_left (not_not_intro unset)
      · rw [if_neg unset]
        exact Sampling.sampled?_isSome unset

theorem perform_idle_iff :
    (request.perform agent current).1.idle = true ↔
      (request.perform agent current).1.context.sampling.sampled? = some false := by
  have decided := request.perform_decided agent current
  rw [perform_span] at decided ⊢
  exact Agent.handle_idle_iff decided

theorem perform_open_idle (isOpen : request.isOpen current = true) :
    (request.perform agent current).1.idle =
      !(agent.sampler.ask (request.perform agent current).1.context.traceId).1 := by
  have sampling := (request.perform_open agent current isOpen).1
  rw [perform_span] at sampling ⊢
  change (!(Agent.handle (request.context agent current)).context.sampling.records) = _
  rw [sampling, Sampling.decided_records]

end SpanRequest

/-! ### Runs -/

/-- Whether the deed is an open request. -/
def Deed.isOpen : Deed → Bool
  | .made request current _ => request.isOpen current
  | .called _ _ => false

def Deed.isRecorded (deed : Deed) : Bool :=
  !deed.span.idle

theorem Agent.call_asking (agent : Agent) (span : Span) (call : SpanCall) :
    (agent.call span call).sampler = agent.sampler ∧
      (agent.call span call).journal.asked = agent.journal.asked := by
  unfold Agent.call
  split
  · exact ⟨rfl, rfl⟩
  · exact ⟨rfl, rfl⟩

namespace Usage

def opened (usage : Usage) : List Deed :=
  usage.history.filter Deed.isOpen

/-- The sampler was asked by the open requests, in their order, and by nothing else. -/
structure AskedBy (agent : Agent) (window : WindowSampler) (usage : Usage) : Prop where
  sampler : usage.agent.sampler = .counting (window.after usage.opened.length)
  asked : usage.agent.journal.asked =
    agent.journal.asked ++ usage.opened.map fun deed => deed.span.context.traceId
  answers : usage.opened.map Deed.isRecorded =
    (List.range usage.opened.length).map window.decision

theorem AskedBy.changed {agent : Agent} {window : WindowSampler} {before after : Usage}
    (changed : Changed before after) (asked : AskedBy agent window before) :
    AskedBy agent window after := by
  cases changed with
  | kept ledger sampler records sameAsked history =>
      have opened : after.opened = before.opened := congrArg (List.filter Deed.isOpen) history
      constructor
      · rw [sampler, opened, asked.sampler]
      · rw [sameAsked, opened, asked.asked]
      · rw [opened, asked.answers]
  | called span call isAfter history =>
      obtain ⟨sampler, sameAsked⟩ := before.agent.call_asking span call
      have opened : after.opened = before.opened := by
        unfold Usage.opened
        rw [history, List.filter_append]
        exact List.append_nil _
      constructor
      · rw [isAfter, sampler, opened, asked.sampler]
      · rw [isAfter, sameAsked, opened, asked.asked]
      · rw [opened, asked.answers]
  | requested request current isAfter history =>
      let deed := Deed.made request current (request.perform before.agent current).1
      cases isOpen : request.isOpen current with
      | false =>
          obtain ⟨_, sampler, sameAsked⟩ := request.perform_closed before.agent current isOpen
          have opened : after.opened = before.opened := by
            unfold Usage.opened
            rw [history, List.filter_append, List.filter_cons_of_neg]
            · exact List.append_nil _
            · change ¬request.isOpen current = true
              rw [isOpen]
              exact Bool.false_ne_true
          constructor
          · rw [isAfter, sampler, opened, asked.sampler]
          · rw [isAfter, sameAsked, opened, asked.asked]
          · rw [opened, asked.answers]
      | true =>
          -- Only an open request asks, and it is the last in the history.
          obtain ⟨_, sampler, moreAsked⟩ := request.perform_open before.agent current isOpen
          have answer := request.perform_open_idle before.agent current isOpen
          have opened : after.opened = before.opened ++ [deed] := by
            unfold Usage.opened
            rw [history, List.filter_append, List.filter_cons_of_pos]
            · rfl
            · exact isOpen
          have recorded : deed.isRecorded = window.decision before.opened.length := by
            change (!(request.perform before.agent current).1.idle) = _
            rw [answer, Bool.not_not, asked.sampler]
            rfl
          constructor
          · rw [isAfter, sampler, opened, asked.sampler, List.length_append]
            rfl
          · rw [isAfter, moreAsked, opened, asked.asked, List.map_append, List.append_assoc]
            rfl
          · rw [opened, List.map_append, asked.answers, List.length_append, List.length_singleton,
              List.range_succ, List.map_append, List.map_singleton, List.map_singleton, recorded]

theorem start_askedBy (agent : Agent) (window : WindowSampler) :
    AskedBy agent window (start { agent with sampler := .counting window }) where
  sampler := rfl
  asked := (List.append_nil _).symm
  answers := rfl

theorem AskedBy.share {agent : Agent} {window : WindowSampler} {usage : Usage}
    (asked : AskedBy agent window usage) {front hundred back : List Deed}
    (split : usage.opened = front ++ hundred ++ back) (size : hundred.length = windowSize) :
    hundred.countP Deed.isRecorded = window.perWindow := by
  have numbers : List.range usage.opened.length =
      List.range' 0 front.length ++ List.range' front.length windowSize ++
        List.range' (front.length + windowSize) back.length := by
    rw [split, List.length_append, List.length_append, size, List.range_eq_range',
      ← List.range'_append_1, ← List.range'_append_1, Nat.zero_add, Nat.zero_add]
  have answers := asked.answers
  rw [numbers, split, List.map_append, List.map_append, List.map_append, List.map_append]
    at answers
  have upToBack := (List.append_inj answers (by simp [size])).1
  have answered : hundred.map Deed.isRecorded =
      (List.range' front.length windowSize).map window.decision :=
    (List.append_inj upToBack (by simp)).2
  calc
    hundred.countP Deed.isRecorded = (hundred.map Deed.isRecorded).countP id := by
      rw [List.countP_map]
      rfl
    _ = (List.range' front.length windowSize).countP window.decision := by
      rw [answered, List.countP_map]
      rfl
    _ = window.perWindow := window.countP_decision front.length

/-- Whatever an agent is asked for: the overriding state of a request is taken if it has
one, and the state of what the span follows if that is decided; only otherwise the sampler
is asked, once and about the trace of the span, and its answer is taken, without debugging.
The state of the span is always decided, and the span is idle exactly if it is rejected.  So
in every run with a counting sampler just the open requests ask it, and of any hundred of
them in a row as many give recorded spans as slots were chosen. -/
theorem decided_once :
    (∀ (agent : Agent) (current : Option Context) (request : SpanRequest),
      let made := request.perform agent current
      let context := made.1.context
      let answer := agent.sampler.ask context.traceId
      (request.overrides ≠ .undecided → context.sampling = request.overrides) ∧
        (request.overrides = .undecided →
          (request.propagated current).sampled?.isSome = true →
          context.sampling = request.propagated current) ∧
        (request.isOpen current = true ↔
          request.overrides = .undecided ∧ (request.propagated current).sampled? = none) ∧
        (request.isOpen current = true →
          context.sampling = .decided answer.1 ∧ made.2.sampler = answer.2 ∧
            made.2.journal.asked = agent.journal.asked ++ [context.traceId]) ∧
        (request.isOpen current = false →
          made.2.sampler = agent.sampler ∧ made.2.journal.asked = agent.journal.asked) ∧
        context.sampling.sampled?.isSome = true ∧
        (made.1.idle = true ↔ context.sampling.sampled? = some false)) ∧
      ∀ (agent : Agent) (window : WindowSampler) (steps : List UsageStep),
        let usage := (start { agent with sampler := .counting window }).run steps
        usage.agent.journal.asked =
            agent.journal.asked ++ usage.opened.map (fun deed => deed.span.context.traceId) ∧
          ∀ front hundred back, usage.opened = front ++ hundred ++ back →
            hundred.length = windowSize →
            hundred.countP Deed.isRecorded = window.perWindow := by
  constructor
  · intro agent current request made context answer
    have closed := request.perform_closed agent current
    have kept : request.isOpen current = false → context.sampling =
        if request.overrides = .undecided then request.propagated current
        else request.overrides :=
      fun isClosed => (closed isClosed).1
    have isOpen_iff := request.isOpen_iff current
    rw [Option.isNone_iff_eq_none] at isOpen_iff
    refine ⟨?_, ?_, isOpen_iff, request.perform_open agent current, ?_,
      request.perform_decided agent current, request.perform_idle_iff agent current⟩
    · intro overridden
      have isClosed : request.isOpen current = false :=
        Bool.eq_false_iff.mpr fun isOpen => overridden (isOpen_iff.mp isOpen).1
      rw [kept isClosed, if_neg overridden]
    · intro unset decided
      have isClosed : request.isOpen current = false := by
        apply Bool.eq_false_iff.mpr
        intro isOpen
        rw [(isOpen_iff.mp isOpen).2] at decided
        cases decided
      rw [kept isClosed, if_pos unset]
    · intro isClosed
      exact (closed isClosed).2
  · intro agent window steps usage
    have askedBy : AskedBy agent window usage :=
      run_induction (fun _ _ changed asked => asked.changed changed)
        (start_askedBy agent window) steps
    refine ⟨askedBy.asked, ?_⟩
    intro front hundred back split size
    exact askedBy.share split size

end Usage

end SpanTrail
