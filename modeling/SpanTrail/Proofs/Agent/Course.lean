import SpanTrail.Proofs.Agent.Usage
import SpanTrail.Proofs.Ledger.Report

/-! Calls on a span among other work.  Between the calls of one user the agent may do anything
that leaves the key of the span alone.  The span is then made of the calls of that user only,
and once it has ended, more of them change nothing. -/

namespace SpanTrail

/-- What a request does to the entry of a key: it registers the key if it makes a recorded
span of it. -/
theorem SpanRequest.get?_perform (request : SpanRequest) (agent : Agent)
    (current : Option Context) (key : SpanKey) :
    (request.perform agent current).2.ledger.pending.get? key =
      if (Deed.made request current (request.perform agent current).1).creates key then
        LedgerCall.register.advance (agent.ledger.pending.get? key)
      else agent.ledger.pending.get? key := by
  rw [perform_agent]
  cases recorded : request.makes && !(request.perform agent current).1.idle with
  | false => simp only [Deed.creates, recorded, Bool.false_and, Bool.false_eq_true, if_false]
  | true =>
      simp only [Deed.creates, recorded, Bool.true_and, decide_eq_true_eq, if_true,
        Ledger.get?_register]

namespace Agent

def recordsOf (agent : Agent) (key : SpanKey) : List SpanRecord :=
  agent.journal.records.filter fun record => record.key = key

/-- What there is of a key: the fields of its span, if one is in flight, and its records. -/
structure Holds (agent : Agent) (key : SpanKey) (entry : Option Pending)
    (records : List SpanRecord) : Prop where
  entry : agent.ledger.pending.get? key = entry
  records : agent.recordsOf key = records

/-- Work that makes no recorded span of a key and calls none. -/
inductive Elsewhere (key : SpanKey) (before after : Agent) : Prop where
  | requested (request : SpanRequest) (current : Option Context)
      (isAfter : after = (request.perform before current).2)
      (apart : (Deed.made request current (request.perform before current).1).creates key = false)
  | called (span : Span) (call : SpanCall) (isAfter : after = before.call span call)
      (apart : span.idle = true ∨ span.context.key ≠ key)
  | kept (ledger : after.ledger = before.ledger)
      (records : after.journal.records = before.journal.records)

variable {before after : Agent} {key : SpanKey} {entry : Option Pending}
  {records : List SpanRecord}

theorem recordsOf_append {added : List SpanRecord}
    (handed : after.journal.records = before.journal.records ++ added) :
    after.recordsOf key =
      before.recordsOf key ++ added.filter fun record => record.key = key := by
  unfold recordsOf
  rw [handed, List.filter_append]

theorem Holds.kept (holds : before.Holds key entry records) (ledger : after.ledger = before.ledger)
    (sameRecords : after.journal.records = before.journal.records) :
    after.Holds key entry records := by
  constructor
  · rw [ledger]
    exact holds.entry
  · unfold recordsOf
    rw [sameRecords]
    exact holds.records

theorem Holds.elsewhere (holds : before.Holds key entry records)
    (work : Elsewhere key before after) : after.Holds key entry records := by
  cases work with
  | kept ledger sameRecords => exact holds.kept ledger sameRecords
  | requested request current isAfter apart =>
      subst isAfter
      constructor
      · rw [SpanRequest.get?_perform, apart]
        exact holds.entry
      · unfold recordsOf
        rw [SpanRequest.perform_records]
        exact holds.records
  | called span call isAfter apart =>
      subst isAfter
      cases idle : span.idle with
      | true =>
          rw [call_idle before idle]
          exact holds
      | false =>
          have other : span.context.key ≠ key :=
            apart.resolve_left (by rw [idle]; exact Bool.false_ne_true)
          obtain ⟨ledger, handed⟩ := call_recorded before idle call
          constructor
          · rw [ledger, Ledger.get?_perform, if_neg other.symm]
            exact holds.entry
          · rw [recordsOf_append handed, holds.records, List.append_right_eq_self]
            apply List.filter_eq_nil_iff.mpr
            intro record reported
            rw [decide_eq_true_eq, (Ledger.of_mem_records reported).1]
            exact other

variable {span : Span} {changes : List Update}

theorem Holds.update (holds : before.Holds span.context.key (some (.ofChanges changes)) records)
    (recorded : span.idle = false) (change : Update) :
    (before.call span (.update change)).Holds span.context.key
      (some (.ofChanges (changes ++ [change]))) records := by
  obtain ⟨ledger, handed⟩ := call_recorded before recorded (.update change)
  constructor
  · rw [ledger, Ledger.get?_perform, if_pos rfl, holds.entry, Pending.ofChanges_append]
    rfl
  · rw [recordsOf_append handed, holds.records]
    exact List.append_nil _

theorem Holds.start (holds : before.Holds span.context.key (some (.ofChanges changes)) records)
    (recorded : span.idle = false) :
    (before.call span .start).Holds span.context.key
      (some (.ofChanges (changes ++ [.start before.clock]))) records :=
  -- A start is the change to the time of the clock.
  holds.update recorded (.start before.clock)

theorem Holds.finish (holds : before.Holds span.context.key (some (.ofChanges changes)) records)
    (recorded : span.idle = false) :
    (before.call span .finish).Holds span.context.key none
      (records ++ [.ofLifetime before.ledger.localEndpoint changes span.context
        (.finish before.clock)]) := by
  obtain ⟨ledger, handed⟩ := call_recorded before recorded .finish
  constructor
  · rw [ledger, Ledger.get?_perform, if_pos rfl]
    rfl
  · let ended : Ending := .finish before.clock
    have concluded : (before.ledger.perform span.context (.conclude ended)).2.records =
        [.ofLifetime before.ledger.localEndpoint changes span.context ended] := by
      rw [← Pending.record_ofChanges]
      exact (Ledger.conclude_present ended holds.entry).2
    rw [recordsOf_append (handed.trans (congrArg _ concluded)), holds.records,
      List.filter_cons_of_pos]
    · rfl
    · exact decide_eq_true rfl

theorem Holds.late (holds : before.Holds span.context.key none records) (call : SpanCall) :
    (before.call span call).Holds span.context.key none records := by
  have untracked : before.ledger.tracks span.context = false := by
    unfold Ledger.tracks Table.contains
    rw [holds.entry]
    rfl
  obtain ⟨ledger, handed⟩ := call_quiet call (.inr untracked)
  exact holds.kept ledger handed

end Agent

namespace Agent

theorem callAll_append (agent : Agent) (span : Span) (first second : List SpanCall) :
    agent.callAll span (first ++ second) = (agent.callAll span first).callAll span second :=
  List.foldl_append

theorem callAll_clock (agent : Agent) (span : Span) (calls : List SpanCall) :
    (agent.callAll span calls).clock = agent.clock := by
  induction calls generalizing agent with
  | nil => rfl
  | cons call rest ih =>
      have once : (agent.call span call).clock = agent.clock := by
        unfold Agent.call
        split
        · rfl
        · rfl
      exact (ih (agent.call span call)).trans once

theorem resolve_clock (agent : Agent) (traceId : TraceId) (overrides propagated : Sampling) :
    (agent.resolve traceId overrides propagated).2.clock = agent.clock := by
  unfold resolve
  split
  · rfl
  · split
    · rfl
    · rfl

theorem freshTraceId_clock (agent : Agent) : agent.freshTraceId.2.clock = agent.clock := by
  unfold freshTraceId
  dsimp only
  split
  · rfl
  · rfl

theorem freshSpanId_clock (agent : Agent) : agent.freshSpanId.2.clock = agent.clock := by
  unfold freshSpanId
  dsimp only
  split
  · rfl
  · rfl

end Agent

theorem SpanRequest.perform_clock (request : SpanRequest) (agent : Agent)
    (current : Option Context) : (request.perform agent current).2.clock = agent.clock := by
  have drawn : (request.drawn agent current).2.clock = agent.clock := by
    have root := agent.freshTraceId_clock
    have child := agent.freshSpanId_clock
    cases request with
    | root | rootWith sampling => exact root
    | child parent => exact child
    | join context =>
        unfold SpanRequest.drawn
        cases agent.joins with
        | false => exact child
        | true => rfl
    | next extracted | nextWith extracted overrides =>
        cases extracted with
        | whole parent => exact child
        | lone sampling => exact root
    | nextFromCurrent =>
        cases current with
        | none => exact root
        | some parent => exact child
    | handleOf context => rfl
  rw [perform_agent]
  exact (Agent.resolve_clock _ _ _ _).trans drawn

/-! ### Courses -/

/-- Calls on a span in their order, with other work in between. -/
inductive Course (span : Span) : Agent → List SpanCall → Agent → Prop where
  | done (agent : Agent) : Course span agent [] agent
  | own {agent after : Agent} {call : SpanCall} {rest : List SpanCall}
      (course : Course span (agent.call span call) rest after) :
      Course span agent (call :: rest) after
  | other {agent next after : Agent} {calls : List SpanCall}
      (work : Agent.Elsewhere span.context.key agent next) (course : Course span next calls after) :
      Course span agent calls after

namespace Course

variable {span : Span} {before after : Agent}

theorem callAll (span : Span) (agent : Agent) (calls : List SpanCall) :
    Course span agent calls (agent.callAll span calls) := by
  induction calls generalizing agent with
  | nil => exact .done agent
  | cons call rest ih => exact .own (ih (agent.call span call))

theorem append {middle : Agent} {first second : List SpanCall}
    (earlier : Course span before first middle) (later : Course span middle second after) :
    Course span before (first ++ second) after := by
  induction earlier with
  | done agent => exact later
  | own course ih => exact .own (ih later)
  | other work course ih => exact .other work (ih later)

/-- A span in flight is made of the changes of its own calls. -/
theorem holds_updates {calls : List SpanCall} (course : Course span before calls after)
    (recorded : span.idle = false) {records : List SpanRecord} {made changes : List Update}
    (isUpdates : calls = changes.map .update)
    (holds : before.Holds span.context.key (some (.ofChanges made)) records) :
    after.Holds span.context.key (some (.ofChanges (made ++ changes))) records := by
  induction course generalizing made changes with
  | done agent =>
      rw [List.map_eq_nil_iff.mp isUpdates.symm, List.append_nil]
      exact holds
  | own course ih =>
      obtain ⟨change, rest, rfl, rfl, isRest⟩ := List.map_eq_cons_iff.mp isUpdates.symm
      have next := ih isRest.symm (holds.update recorded change)
      rw [List.append_assoc] at next
      exact next
  | other work course ih => exact ih isUpdates (holds.elsewhere work)

theorem holds_late {calls : List SpanCall} (course : Course span before calls after)
    {records : List SpanRecord} (holds : before.Holds span.context.key none records) :
    after.Holds span.context.key none records := by
  induction course with
  | done agent => exact holds
  | own course ih => exact ih (holds.late _)
  | other work course ih => exact ih (holds.elsewhere work)

end Course

end SpanTrail
