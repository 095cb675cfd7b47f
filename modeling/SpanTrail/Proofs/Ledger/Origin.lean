import SpanTrail.Proofs.Agent.Creation
import SpanTrail.Proofs.Ledger.Report
import SpanTrail.Proofs.Ledger.Settlement

/-! Where a reported record comes from: the ending that took it out, in its place among all calls,
and the lifetime that it ended.  The ledger finds an entry by its key alone and keeps nothing else
of the context that registered it.  So the ids of a record and its side are those of the
registration, but its parent and its debug flag are those of the ending.  Clocks may go backwards,
so a span may be finished before it was started.  Then its duration is zero, and the end that is
read off its record is its start. -/

namespace SpanTrail

namespace Ledger

theorem exists_of_mem_turns {ledger : Ledger} {calls : List (Context × LedgerCall)} {turn : Turn}
    (member : turn ∈ ledger.turns calls) :
    ∃ earlier later, calls = earlier ++ (turn.context, turn.call) :: later ∧
      turn.before = ledger.run earlier := by
  induction calls generalizing ledger with
  | nil => cases member
  | cons first rest ih =>
      obtain ⟨context, call⟩ := first
      rcases List.mem_cons.mp member with rfl | isLater
      · exact ⟨[], rest, rfl, rfl⟩
      · obtain ⟨earlier, later, rfl, before⟩ := ih isLater
        exact ⟨(context, call) :: earlier, later, rfl, before⟩

end Ledger

/-- The origin of a record among calls: a finish or a flush, and the lifetime of its key up to
there. -/
structure Origin (endpoint : Endpoint) (sink : Sink) (calls : List (Context × LedgerCall))
    (record : SpanRecord) where
  earlier : List (Context × LedgerCall)
  context : Context
  ending : Ending
  later : List (Context × LedgerCall)
  calls_eq : calls = earlier ++ (context, .conclude ending) :: later
  delivers : ending.delivers = true
  lifetime : Lifetime (Ledger.create endpoint sink) context.key earlier
  record_eq : record = .ofLifetime endpoint lifetime.changes context ending

namespace Origin

variable {endpoint : Endpoint} {sink : Sink} {calls : List (Context × LedgerCall)}
  {record : SpanRecord}

/-- The context that registered the span. -/
def registrant (origin : Origin endpoint sink calls record) : Context :=
  origin.lifetime.registrant

theorem key_eq (origin : Origin endpoint sink calls record) :
    record.key = origin.registrant.key := by
  have ended : record.key = origin.context.key := congrArg SpanRecord.key origin.record_eq
  exact ended.trans origin.lifetime.registrant_key.symm

/-- Another context of the same key would have ended the span with another parent and another
debug flag, if they differ in these, and with nothing else. -/
theorem ofLifetime_eq (origin : Origin endpoint sink calls record) {other : Context}
    (sameKey : other.key = origin.context.key) :
    SpanRecord.ofLifetime endpoint origin.lifetime.changes other origin.ending =
      { record with parentId := other.parentId, debug := other.sampling.isDebug } := by
  obtain ⟨earlier, context, ending, later, place, delivers, lifetime, rfl⟩ := origin
  obtain ⟨sameTrace, sameSpan, sameSide⟩ := (SpanKey.mk.injEq ..).mp sameKey
  simp only [SpanRecord.ofLifetime, sameTrace, sameSpan, sameSide]

theorem exists_of_turn {turn : Turn}
    (isTurn : turn ∈ (Ledger.create endpoint sink).turns calls) (handed : record ∈ turn.records) :
    ∃ origin : Origin endpoint sink calls record,
      turn = ⟨(Ledger.create endpoint sink).run origin.earlier, origin.context,
        .conclude origin.ending⟩ := by
  obtain ⟨earlier, later, place, isBefore⟩ := Ledger.exists_of_mem_turns isTurn
  obtain ⟨before, context, call⟩ := turn
  obtain ⟨ending, pending, rfl, delivers, found, made⟩ :=
    (Ledger.mem_records_perform before context call record).mp handed
  dsimp only at place isBefore
  subst isBefore
  obtain ⟨lifetime⟩ := Lifetime.exists_of_pending (Table.get?_empty context.key) found
  rw [lifetime.entry_eq, Option.some.injEq] at found
  rw [Ledger.run_localEndpoint, ← found, Pending.record_ofChanges] at made
  exact ⟨⟨earlier, context, ending, later, place, delivers, lifetime, made⟩, rfl⟩

theorem exists_of_reported
    (reported : record ∈ ((Ledger.create endpoint sink).turns calls).flatMap Turn.records) :
    Nonempty (Origin endpoint sink calls record) := by
  obtain ⟨turn, isTurn, handed⟩ := List.mem_flatMap.mp reported
  obtain ⟨origin, _⟩ := exists_of_turn isTurn handed
  exact ⟨origin⟩

/-- In any interleaving of threads, a record that was handed over has an origin among the calls
that took effect. -/
theorem exists_of_handedOver {steps : List ThreadStep}
    (handed : record ∈
      ((LedgerThreads.ofLedger (Ledger.create endpoint sink)).run steps).handedOver) :
    Nonempty (Origin endpoint sink
      ((LedgerThreads.ofLedger (Ledger.create endpoint sink)).run steps).calls record) := by
  have agrees := LedgerThreads.run_agrees steps
    (LedgerThreads.ofLedger_agrees (Ledger.create endpoint sink))
  exact exists_of_reported (agrees.records.mem_iff.mp (List.mem_append_left _ handed))

end Origin

namespace Agent

/-- A handle keeps all of its context but an undecided sampling state. -/
theorem handleOf_context (agent : Agent) (context : Context) :
    (agent.handleOf context).1.context.key = context.key ∧
      (agent.handleOf context).1.context.parentId = context.parentId ∧
      (agent.handleOf context).1.context.sampling.isDebug = context.sampling.isDebug := by
  rw [handleOf_eq]
  refine ⟨rfl, rfl, ?_⟩
  change (agent.resolve context.traceId .undecided context.sampling).1.isDebug = _
  cases decided : context.sampling.sampled? with
  | some decision =>
      rw [resolve_decided agent context.traceId (by rw [decided]; rfl)]
  | none =>
      rw [resolve_asked agent context.traceId (by rw [decided]; rfl)]
      have undecided : context.sampling = .undecided := by
        cases known : context.sampling with
        | undecided => rfl
        | rejected | accepted | debug => rw [known] at decided; cases decided
      rw [undecided]
      cases (agent.sampler.ask context.traceId).1 <;> rfl

/-- Whatever a call on a handle reports has the key, the parent and the debug flag of the
context that the handle was asked for. -/
theorem call_handleOf (maker agent : Agent) (context : Context) (call : SpanCall) :
    ∃ records,
      (agent.call (maker.handleOf context).1 call).journal.records =
          agent.journal.records ++ records ∧
        ∀ record ∈ records, record.key = context.key ∧ record.parentId = context.parentId ∧
          record.debug = context.sampling.isDebug := by
  obtain ⟨sameKey, sameParent, sameDebug⟩ := maker.handleOf_context context
  obtain ⟨records, handedOver, own⟩ := agent.exists_records_call (maker.handleOf context).1 call
  refine ⟨records, handedOver, ?_⟩
  intro record member
  obtain ⟨ending, pending, _, _, _, rfl⟩ :=
    (Ledger.mem_records_perform _ _ _ record).mp (own record member).2
  exact ⟨sameKey, sameParent, sameDebug⟩

end Agent

/-- In any interleaving, a record that is handed over has the trace, the id and the side of the
context that registered it, whichever context of the same key ended it.  Its parent and its
debug flag are those of the ending, also through a handle, and nothing else depends on it. -/
theorem Ledger.reports_keep_key (endpoint : Endpoint) (sink : Sink) :
    (∀ steps,
      let threads := (LedgerThreads.ofLedger (create endpoint sink)).run steps
      ∀ record ∈ threads.handedOver,
        ∃ origin : Origin endpoint sink threads.calls record,
          record.traceId = origin.registrant.traceId ∧
            record.spanId = origin.registrant.spanId ∧
            record.shared = origin.registrant.shared ∧
            record.parentId = origin.context.parentId ∧
            record.debug = origin.context.sampling.isDebug ∧
            ∀ other : Context, other.key = origin.context.key →
              SpanRecord.ofLifetime endpoint origin.lifetime.changes other origin.ending =
                { record with parentId := other.parentId, debug := other.sampling.isDebug }) ∧
      ∀ (maker agent : Agent) (context : Context) (call : SpanCall),
        ∃ records,
          (agent.call (maker.handleOf context).1 call).journal.records =
              agent.journal.records ++ records ∧
            ∀ record ∈ records, record.key = context.key ∧
              record.parentId = context.parentId ∧
              record.debug = context.sampling.isDebug := by
  refine ⟨?_, Agent.call_handleOf⟩
  intro steps threads record handed
  obtain ⟨origin⟩ := Origin.exists_of_handedOver handed
  obtain ⟨sameTrace, sameSpan, sameSide⟩ := (SpanKey.mk.injEq ..).mp origin.key_eq
  refine ⟨origin, sameTrace, sameSpan, sameSide, ?_, ?_, ?_⟩
  · exact congrArg SpanRecord.parentId origin.record_eq
  · exact congrArg SpanRecord.debug origin.record_eq
  · intro other sameKey
    exact origin.ofLifetime_eq sameKey

/-- A span under debugging with a parent, ended through a context of the same key that has
neither. -/
theorem Ledger.other_context_ends_without_parent :
    let registrant : Context := ⟨.ofLow 1, ⟨2⟩, some ⟨3⟩, .debug, false⟩
    let ender : Context := ⟨.ofLow 1, ⟨2⟩, none, .accepted, false⟩
    let threads := (LedgerThreads.ofLedger (create .unknown .keeping)).run
      [.call 0 registrant .register, .call 0 ender (.conclude .flush), .handOver 0]
    ender.key = registrant.key ∧
      ∃ record ∈ threads.handedOver, record.key = registrant.key ∧
        record.parentId ≠ registrant.parentId ∧
        record.debug ≠ registrant.sampling.isDebug := by
  decide +kernel

/-! ### Starts and finishes -/

namespace Timestamp

theorem max_toNat (left right : Timestamp) :
    (max left right).toNat = max left.toNat right.toNat := by
  change (if left ≤ right then right else left).toNat = _
  by_cases ordered : left ≤ right
  · rw [if_pos ordered]
    exact (Nat.max_eq_right (UInt64.le_iff_toNat_le.mp ordered)).symm
  · have later : right.toNat ≤ left.toNat :=
      Nat.le_of_not_le fun le => ordered (UInt64.le_iff_toNat_le.mpr le)
    rw [if_neg ordered]
    exact (Nat.max_eq_left later).symm

/-- A start and the time from there to a finish have a sum in range, the later one of both. -/
theorem add_since (start finish : Timestamp) :
    start.toNat + (finish.since start).toNat < UInt64.size ∧
      start + finish.since start = max start finish := by
  have sum : start.toNat + (finish.since start).toNat = max start.toNat finish.toNat := by
    rw [since_toNat]
    omega
  have startFits := start.toNat_lt_size
  have finishFits := finish.toNat_lt_size
  have fits : start.toNat + (finish.since start).toNat < UInt64.size := by omega
  refine ⟨fits, UInt64.toNat_inj.mp ?_⟩
  rw [UInt64.toNat_add, max_toNat, sum]
  exact Nat.mod_eq_of_lt (sum ▸ fits)

theorem le_max_left (left right : Timestamp) : left ≤ max left right := by
  rw [UInt64.le_iff_toNat_le, max_toNat]
  exact Nat.le_max_left ..

end Timestamp

/-- What the record of a span shows of its times, if it was first started at a time, or never,
and ended so. -/
structure SpanRecord.Timed (record : SpanRecord) (first : Option Timestamp) (ending : Ending) :
    Prop where
  start : record.start = first
  fits : ∀ start duration, record.start = some start → record.duration = some duration →
    start.toNat + duration.toNat < UInt64.size
  finished : ∀ start time, first = some start → ending = .finish time →
    (∃ duration, record.duration = some duration ∧
      (duration.toNat : Int) = max ((time.toNat : Int) - start.toNat) 0) ∧
      record.finish = .ok (some (max start time))
  unfinished : first = none ∨ ending = .flush →
    record.duration = none ∧ record.finish = .ok none
  ends : ∃ finish, record.finish = .ok finish ∧
    record.endAnnotations = .ok (match record.kind with
      | none => []
      | some kind =>
          (first.map fun time => ⟨time, kind.ends.1⟩).toList ++
            (finish.map fun time => ⟨time, kind.ends.2⟩).toList)
  inOrder : ∀ annotations, record.endAnnotations = .ok annotations →
    annotations.Pairwise fun earlier later => earlier.time ≤ later.time

namespace SpanRecord

variable {record : SpanRecord} {first : Option Timestamp} {ending : Ending}

theorem finish_untimed (untimed : record.duration = none) : record.finish = .ok none := by
  unfold finish
  rw [untimed]
  cases record.start <;> rfl

theorem finish_timed {start time : Timestamp} (started : record.start = some start)
    (timed : record.duration = some (time.since start)) :
    record.finish = .ok (some (max start time)) := by
  obtain ⟨fits, sum⟩ := Timestamp.add_since start time
  unfold finish
  rw [started, timed]
  dsimp only
  rw [if_pos fits, sum]

theorem endAnnotations_eq {end? : Option Timestamp} (isEnd : record.finish = .ok end?) :
    record.endAnnotations = .ok (match record.kind with
      | none => []
      | some kind =>
          (record.start.map fun time => ⟨time, kind.ends.1⟩).toList ++
            (end?.map fun time => ⟨time, kind.ends.2⟩).toList) := by
  unfold endAnnotations
  cases record.kind with
  | none => rfl
  | some kind =>
      rw [isEnd]
      rfl

/-- The annotation of the end comes after the one of the start, and not before it in time. -/
theorem endAnnotations_inOrder {end? : Option Timestamp} (isEnd : record.finish = .ok end?)
    (after : ∀ start time, record.start = some start → end? = some time → start ≤ time)
    {annotations : List Annotation} (shown : record.endAnnotations = .ok annotations) :
    annotations.Pairwise fun earlier later => earlier.time ≤ later.time := by
  rw [endAnnotations_eq isEnd, Except.ok.injEq] at shown
  rw [← shown]
  cases record.kind with
  | none => exact .nil
  | some kind =>
      dsimp only
      rw [List.pairwise_append]
      refine ⟨?_, ?_, ?_⟩
      · cases record.start with
        | none => exact .nil
        | some start => exact List.pairwise_singleton ..
      · cases end? with
        | none => exact .nil
        | some time => exact List.pairwise_singleton ..
      · intro earlier isStart later isLast
        rw [Option.mem_toList] at isStart isLast
        obtain ⟨start, started, rfl⟩ := Option.map_eq_some_iff.mp isStart
        obtain ⟨time, ended, rfl⟩ := Option.map_eq_some_iff.mp isLast
        exact after start time started ended

theorem Timed.of_finish {start time : Timestamp} (started : record.start = some start)
    (timed : record.duration = some (time.since start)) :
    record.Timed (some start) (.finish time) := by
  have isEnd := finish_timed started timed
  refine ⟨started, ?_, ?_, ?_, ?_, ?_⟩
  · intro first duration isFirst isDuration
    rw [started, Option.some.injEq] at isFirst
    rw [timed, Option.some.injEq] at isDuration
    subst isFirst isDuration
    exact (Timestamp.add_since start time).1
  · intro first last isFirst isLast
    cases isFirst
    cases isLast
    refine ⟨⟨_, timed, ?_⟩, isEnd⟩
    rw [Timestamp.since_toNat]
    omega
  · rintro (none | flushed)
    · cases none
    · cases flushed
  · refine ⟨_, isEnd, ?_⟩
    rw [endAnnotations_eq isEnd, started]
  · intro annotations shown
    apply endAnnotations_inOrder isEnd _ shown
    intro first last isFirst isLast
    rw [started] at isFirst
    cases isFirst
    cases isLast
    exact Timestamp.le_max_left start time

theorem Timed.of_untimed (start : record.start = first) (untimed : record.duration = none)
    (notFinished : first = none ∨ ∀ time, ending ≠ .finish time) : record.Timed first ending := by
  have isEnd := finish_untimed untimed
  refine ⟨start, ?_, ?_, fun _ => ⟨untimed, isEnd⟩, ?_, ?_⟩
  · intro start duration _ isDuration
    rw [untimed] at isDuration
    cases isDuration
  · intro start time isFirst isFinish
    rcases notFinished with none | other
    · rw [none] at isFirst
      cases isFirst
    · exact absurd isFinish (other time)
  · refine ⟨none, isEnd, ?_⟩
    rw [endAnnotations_eq isEnd, start]
  · intro annotations shown
    apply endAnnotations_inOrder isEnd _ shown
    intro start time _ isLast
    cases isLast

end SpanRecord

namespace Origin

variable {endpoint : Endpoint} {sink : Sink} {calls : List (Context × LedgerCall)}
  {record : SpanRecord}

def firstStart? (origin : Origin endpoint sink calls record) : Option Timestamp :=
  (origin.lifetime.changes.filterMap Update.start?).head?

def lateStart (origin : Origin endpoint sink calls record) : List Event :=
  match origin.firstStart?, origin.ending with
  | some start, .finish time =>
      if time < start then [.finishBeforeStart origin.context start time] else []
  | _, _ => []

theorem timed (origin : Origin endpoint sink calls record) :
    record.Timed origin.firstStart? origin.ending := by
  have started : record.start = origin.firstStart? := congrArg SpanRecord.start origin.record_eq
  have shown := congrArg SpanRecord.duration origin.record_eq
  cases ending : origin.ending with
  | finish time =>
      have duration : record.duration = origin.firstStart?.map time.since := by
        rw [shown, ending, SpanRecord.duration_ofLifetime]
        rfl
      cases first : origin.firstStart? with
      | none =>
          rw [first] at duration
          exact .of_untimed (started.trans first) duration (.inl rfl)
      | some start =>
          rw [first] at duration
          exact .of_finish (started.trans first) duration
  | flush | abandon =>
      have untimed : record.duration = none := by
        rw [shown, ending]
        rfl
      exact .of_untimed started untimed (.inr fun time => nofun)

end Origin

def Sink.answer (sink : Sink) (before : Nat) (context : Context) (record : SpanRecord) :
    List Event :=
  match sink.accept before record with
  | .ok events => events
  | .error cause => [.reportRejected context cause]

namespace Turn

theorem events_of_unreported {turn : Turn} (unreported : turn.records = []) :
    turn.effects.events = [] ∨
      ∃ ending, turn.effects.events = [.spanUnknown turn.context ending] := by
  obtain ⟨before, context, call⟩ := turn
  cases call with
  | register | update change => exact .inl rfl
  | conclude ending =>
      cases found : before.pending.get? context.key with
      | none =>
          refine .inr ⟨ending, ?_⟩
          exact congrArg (fun result => result.2.events) (Ledger.conclude_absent ending found)
      | some pending =>
          have records := (Ledger.conclude_present ending found).2
          change (before.conclude context ending).2.records = [] at unreported
          rw [records] at unreported
          cases ending with
          | finish time | flush => cases unreported
          | abandon =>
              left
              change (before.conclude context .abandon).2.events = []
              unfold Ledger.conclude
              rw [found]
              rfl

theorem events_of_reported {ledger : Ledger} {context : Context} {pending : Pending}
    {ending : Ending} (delivers : ending.delivers = true)
    (found : ledger.pending.get? context.key = some pending) :
    (Turn.mk ledger context (.conclude ending)).effects.events =
      pending.lateStart context ending ++ ledger.sink.answer ledger.delivered context
        (pending.record context ledger.localEndpoint ending) := by
  change (ledger.conclude context ending).2.events = _
  unfold Ledger.conclude
  rw [found]
  cases ending with
  | finish time | flush => rfl
  | abandon => cases delivers

end Turn

theorem Ledger.run_sink (ledger : Ledger) (calls : List (Context × LedgerCall)) :
    (ledger.run calls).sink = ledger.sink := by
  induction calls generalizing ledger with
  | nil => rfl
  | cons call rest ih => exact (ih _).trans (perform_frame ledger call.1 call.2).2.1

theorem Origin.effects_eq {endpoint : Endpoint} {sink : Sink}
    {calls : List (Context × LedgerCall)} {record : SpanRecord}
    (origin : Origin endpoint sink calls record) :
    let turn : Turn := ⟨(Ledger.create endpoint sink).run origin.earlier, origin.context,
      .conclude origin.ending⟩
    turn.records = [record] ∧
      turn.effects.events =
        origin.lateStart ++ sink.answer turn.before.delivered origin.context record := by
  intro turn
  have found := origin.lifetime.entry_eq
  have made : (Pending.ofChanges origin.lifetime.changes).record origin.context
      ((Ledger.create endpoint sink).run origin.earlier).localEndpoint origin.ending = record := by
    rw [Ledger.run_localEndpoint, Pending.record_ofChanges]
    exact origin.record_eq.symm
  constructor
  · refine (Ledger.conclude_present origin.ending found).2.trans ?_
    rw [if_pos origin.delivers, made]
  · have events := Turn.events_of_reported origin.delivers found
    rw [made, Ledger.run_sink] at events
    refine events.trans (congrArg (· ++ _) ?_)
    unfold Pending.lateStart lateStart firstStart?
    cases origin.ending with
    | finish time =>
        dsimp only [Pending.ofChanges]
        cases (origin.lifetime.changes.filterMap Update.start?).head? <;> rfl
    | flush | abandon =>
        dsimp only
        cases (origin.lifetime.changes.filterMap Update.start?).head? <;> rfl

/-- Clocks may show any times, also earlier ones after later ones.  In any interleaving, a span
that is reported shows the first of its starts; if it was started and finished, its duration
is the time in between, or zero if the finish was the earlier one, and its end is the later one
of both, within the range of timestamps.  A span that was flushed or never started shows no
duration and no end.  A record of some kind has its start and its end as annotations, as far as
they are known, in this order, and their times are in order too.  A finish before the start is
logged, before the sink is asked, and no other call logs one. -/
theorem Ledger.reports_in_time (endpoint : Endpoint) (sink : Sink) :
    (∀ steps,
      let threads := (LedgerThreads.ofLedger (create endpoint sink)).run steps
      ∀ record ∈ threads.handedOver, ∃ origin : Origin endpoint sink threads.calls record,
        record.Timed origin.firstStart? origin.ending) ∧
    ∀ calls, ∀ turn ∈ (create endpoint sink).turns calls,
      (turn.records = [] ∧
        (turn.effects.events = [] ∨
          ∃ ending, turn.effects.events = [.spanUnknown turn.context ending])) ∨
      ∃ record, turn.records = [record] ∧ ∃ origin : Origin endpoint sink calls record,
        turn.context = origin.context ∧ turn.call = .conclude origin.ending ∧
          record.Timed origin.firstStart? origin.ending ∧
          turn.effects.events =
            origin.lateStart ++ sink.answer turn.before.delivered turn.context record := by
  constructor
  · intro steps threads record handed
    obtain ⟨origin⟩ := Origin.exists_of_handedOver handed
    exact ⟨origin, origin.timed⟩
  · intro calls turn isTurn
    cases records : turn.records with
    | nil => exact .inl ⟨rfl, Turn.events_of_unreported records⟩
    | cons record others =>
        right
        have handed : record ∈ turn.records := by
          rw [records]
          exact List.mem_cons_self
        obtain ⟨origin, rfl⟩ := Origin.exists_of_turn isTurn handed
        obtain ⟨alone, events⟩ := origin.effects_eq
        exact ⟨record, records.symm.trans alone, origin, rfl, rfl, origin.timed, events⟩

/-- A span is started at 9, once more at 2, and finished at 5. -/
example :
    let context : Context := ⟨.ofLow 1, ⟨2⟩, none, .accepted, false⟩
    let turn : Turn := ⟨(Ledger.create .unknown .keeping).run
      [(context, .register), (context, .update (.start 9)), (context, .update (.start 2)),
        (context, .update (.kind .client))], context, .conclude (.finish 5)⟩
    turn.effects.events = [.finishBeforeStart context 9 5] ∧
      turn.records.map SpanRecord.duration = [some 0] ∧
      turn.records.map SpanRecord.endAnnotations = [.ok [⟨9, "cs"⟩, ⟨9, "cr"⟩]] :=
  ⟨rfl, rfl, rfl⟩

end SpanTrail
