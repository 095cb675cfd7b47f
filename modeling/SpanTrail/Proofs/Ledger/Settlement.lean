import SpanTrail.Proofs.Ledger.Turn
import SpanTrail.Proofs.Lists

/-! Settlement of spans.  Every registration of an absent key is matched by one report, by one
abandonment, or by an entry that is still pending, and no answer of the sink changes that.  A
call takes effect on its entry at once, but a thread that took an entry out hands its record to
the sink in a step of its own, and other threads may act in between.  The entries are then those
of the calls in the order in which they took effect, and so are the records, but for the order in
which they are handed over. -/

namespace SpanTrail

def Ledger.pendingCount (ledger : Ledger) (key : SpanKey) : Nat :=
  if (ledger.pending.get? key).isSome then 1 else 0

namespace Turn

/-- What a turn that ends a span does: it ignores an absent key, which is logged, or it
takes the entry out and hands over its record unless it abandons it. -/
theorem ending_cases {turn : Turn} {ending : Ending} (isEnding : turn.call = .conclude ending) :
    (∃ pending, turn.entry turn.key = some pending ∧
      turn.after.pending = turn.before.pending.erase turn.key ∧
      turn.after.delivered = turn.before.delivered + turn.records.length ∧
      turn.records = if ending.delivers then
        [pending.record turn.context turn.before.localEndpoint ending] else []) ∨
    (turn.entry turn.key = none ∧ turn.after = turn.before ∧
      turn.effects = ⟨[.spanUnknown turn.context ending], []⟩) := by
  obtain ⟨before, context, call⟩ := turn
  change call = .conclude ending at isEnding
  subst isEnding
  cases found : before.pending.get? context.key with
  | none =>
      have ignored := Ledger.conclude_absent ending found
      exact .inr ⟨found, congrArg Prod.fst ignored, congrArg Prod.snd ignored⟩
  | some pending =>
      have removed := Ledger.conclude_present ending found
      have counted := (Ledger.perform_frame before context (.conclude ending)).2.2
      exact .inl ⟨pending, found, removed.1, counted, removed.2⟩

theorem after_entry (turn : Turn) (key : SpanKey) :
    turn.after.pending.get? key =
      if key = turn.key then turn.call.advance (turn.entry key) else turn.entry key :=
  Ledger.get?_perform turn.before turn.context turn.call key

/-- Only an ending hands records over. -/
theorem records_eq_nil {turn : Turn} (noEnding : ∀ ending, turn.call ≠ .conclude ending) :
    turn.records = [] := by
  obtain ⟨before, context, call⟩ := turn
  cases call with
  | register => rfl
  | update change => rfl
  | conclude ending => exact absurd rfl (noEnding ending)

theorem key_of_mem_records {turn : Turn} {record : SpanRecord} (reported : record ∈ turn.records) :
    record.key = turn.key ∧ ∃ ending, turn.call = .conclude ending := by
  obtain ⟨sameKey, _, isEnding⟩ := Ledger.of_mem_records reported
  exact ⟨sameKey, isEnding⟩

theorem balance (turn : Turn) (key : SpanKey) :
    turn.records.countP (fun record => record.key = key) + (turn.abandons key).toNat +
        turn.after.pendingCount key =
      (turn.registers key).toNat + turn.before.pendingCount key := by
  unfold Ledger.pendingCount
  rw [after_entry]
  change _ = _ + if (turn.entry key).isSome then 1 else 0
  by_cases same : key = turn.key
  · subst same
    rw [if_pos rfl]
    cases call : turn.call with
    | register | update _ =>
        have none : turn.records = [] := records_eq_nil (by rw [call]; exact nofun)
        cases found : turn.entry turn.key with
        | none => simp [none, abandons, registers, call, found, LedgerCall.advance]
        | some pending => simp [none, abandons, registers, call, found, LedgerCall.advance]
    | conclude ending =>
        rcases ending_cases call with ⟨pending, found, _, _, records⟩ | ⟨found, _, effects⟩
        · have itsKey : (pending.record turn.context turn.before.localEndpoint ending).key =
              turn.key := rfl
          cases ending <;>
            simp [records, abandons, registers, call, found, LedgerCall.advance,
              Ending.delivers, itsKey]
        · have none : turn.records = [] := by rw [Turn.records, effects]
          simp [none, abandons, registers, call, found, LedgerCall.advance]
  · have other : ¬turn.key = key := fun equal => same equal.symm
    have none : turn.records.countP (fun record => record.key = key) = 0 := by
      rw [List.countP_eq_zero]
      intro record reported
      rw [(key_of_mem_records reported).1]
      simpa using other
    simp [none, abandons, registers, if_neg same, other]

end Turn

namespace Ledger

/-- A run keeps the balance of every key. -/
theorem run_balance (ledger : Ledger) (calls : List (Context × LedgerCall)) (key : SpanKey) :
    ((ledger.turns calls).flatMap Turn.records).countP (fun record => record.key = key) +
        (ledger.turns calls).countP (Turn.abandons key) + (ledger.run calls).pendingCount key =
      (ledger.turns calls).countP (Turn.registers key) + ledger.pendingCount key := by
  induction calls generalizing ledger with
  | nil => simp [turns, run]
  | cons call rest ih =>
      obtain ⟨context, call⟩ := call
      have first := Turn.balance ⟨ledger, context, call⟩ key
      have later := ih (ledger.perform context call).1
      change _ + _ + (run (ledger.perform context call).1 rest).pendingCount key = _
      change _ + _ + (ledger.perform context call).1.pendingCount key =
        _ + ledger.pendingCount key at first
      simp only [turns, List.flatMap_cons, List.countP_append, List.countP_cons]
      cases abandoned : Turn.abandons key ⟨ledger, context, call⟩ <;>
        cases registered : Turn.registers key ⟨ledger, context, call⟩ <;>
        simp only [abandoned, registered, Bool.toNat_true, Bool.toNat_false, if_true,
          Bool.false_eq_true, if_false] at first ⊢ <;>
        omega

theorem turns_eq_append {ledger : Ledger} {calls : List (Context × LedgerCall)}
    {first second : List Turn} (split : ledger.turns calls = first ++ second) :
    ∃ former latter, calls = former ++ latter ∧ first = ledger.turns former ∧
      second = (ledger.run former).turns latter := by
  induction first generalizing ledger calls with
  | nil => exact ⟨[], calls, rfl, rfl, split.symm⟩
  | cons turn first ih =>
      cases calls with
      | nil => cases split
      | cons call rest =>
          obtain ⟨context, call⟩ := call
          rw [turns, List.cons_append, List.cons.injEq] at split
          obtain ⟨former, latter, rfl, isFirst, isSecond⟩ := ih split.2
          refine ⟨(context, call) :: former, latter, rfl, ?_, isSecond⟩
          rw [turns, ← split.1, isFirst]

theorem turns_eq_cons {ledger : Ledger} {calls : List (Context × LedgerCall)} {turn : Turn}
    {rest : List Turn} (split : ledger.turns calls = turn :: rest) :
    turn.before = ledger ∧ ∃ latter, rest = turn.after.turns latter := by
  cases calls with
  | nil => cases split
  | cons call latter =>
      obtain ⟨context, call⟩ := call
      rw [turns, List.cons.injEq] at split
      obtain ⟨rfl, isRest⟩ := split
      exact ⟨rfl, latter, isRest.symm⟩

/-- Between two reports of a key it is registered again. -/
theorem registers_between {ledger : Ledger} {calls : List (Context × LedgerCall)}
    {key : SpanKey} {earlier middle later : List Turn} {first second : Turn}
    (split : ledger.turns calls = earlier ++ first :: (middle ++ second :: later))
    (firstReports : ∃ record ∈ first.records, record.key = key)
    (secondReports : ∃ record ∈ second.records, record.key = key) :
    ∃ turn ∈ middle, turn.registers key = true := by
  obtain ⟨former, latter, _, _, fromFirst⟩ := turns_eq_append split
  obtain ⟨_, remaining, afterFirst⟩ := turns_eq_cons fromFirst.symm
  obtain ⟨between, last, _, isMiddle, fromSecond⟩ := turns_eq_append afterFirst.symm
  obtain ⟨secondBefore, _⟩ := turns_eq_cons fromSecond.symm
  have gone : first.after.pendingCount key = 0 := by
    obtain ⟨record, reported, itsKey⟩ := firstReports
    obtain ⟨sameKey, ending, isEnding⟩ := Turn.key_of_mem_records reported
    unfold pendingCount
    rw [Turn.after_entry, if_pos (itsKey.symm.trans sameKey), isEnding]
    rfl
  have present : (first.after.run between).pendingCount key = 1 := by
    obtain ⟨record, reported, itsKey⟩ := secondReports
    obtain ⟨sameKey, ending, isEnding⟩ := Turn.key_of_mem_records reported
    rcases Turn.ending_cases isEnding with ⟨pending, found, _⟩ | ⟨_, _, effects⟩
    · have entry : second.entry key = some pending := by
        rw [← itsKey, sameKey]
        exact found
      unfold pendingCount
      rw [← secondBefore]
      change (if (second.entry key).isSome then 1 else 0) = 1
      rw [entry]
      rfl
    · rw [Turn.records, effects] at reported
      cases reported
  have balanced := run_balance first.after between key
  rw [gone, present, ← isMiddle] at balanced
  exact List.countP_pos_iff.mp (by omega)

end Ledger

/-- A step of a thread: a call takes effect, or the record that the thread took out is
handed over. -/
inductive ThreadStep where
  | call (thread : Nat) (context : Context) (call : LedgerCall)
  | handOver (thread : Nat)

structure Parcel where
  thread : Nat
  context : Context
  record : SpanRecord

/-- A ledger in the hands of threads, with the calls that took effect and the records
that were handed over, in order. -/
structure LedgerThreads where
  ledger : Ledger
  parcels : List Parcel
  calls : List (Context × LedgerCall)
  handedOver : List SpanRecord

namespace LedgerThreads

def ofLedger (ledger : Ledger) : LedgerThreads :=
  ⟨ledger, [], [], []⟩

/-- A step of a thread.  A thread with a record in its hands makes no other call, and one
without a record hands nothing over. -/
def step (threads : LedgerThreads) : ThreadStep → LedgerThreads
  | .call thread context call =>
      if threads.parcels.any fun parcel => parcel.thread == thread then threads
      else
        match threads.ledger.takenOut? context call with
        | none =>
            { threads with
              ledger := (threads.ledger.perform context call).1
              calls := threads.calls ++ [(context, call)] }
        | some record =>
            { threads with
              ledger :=
                { threads.ledger with pending := threads.ledger.pending.erase context.key }
              parcels := ⟨thread, context, record⟩ :: threads.parcels
              calls := threads.calls ++ [(context, call)] }
  | .handOver thread =>
      match threads.parcels.find? fun parcel => parcel.thread == thread with
      | none => threads
      | some parcel =>
          { threads with
            ledger := (threads.ledger.report parcel.context parcel.record).1
            parcels := threads.parcels.eraseP fun parcel => parcel.thread == thread
            handedOver := threads.handedOver ++ [parcel.record] }

def run (threads : LedgerThreads) (steps : List ThreadStep) : LedgerThreads :=
  steps.foldl step threads

end LedgerThreads

namespace Ledger

/-- An ending that delivers is the removal of the entry with the handing over of its
record right after it. -/
theorem perform_takenOut {ledger : Ledger} {context : Context} {call : LedgerCall}
    {record : SpanRecord} (taken : ledger.takenOut? context call = some record) :
    (ledger.perform context call).1 =
      ({ ledger with pending := ledger.pending.erase context.key }.report context record).1 := by
  cases call with
  | register => cases taken
  | update change => cases taken
  | conclude ending =>
      cases found : ledger.pending.get? context.key with
      | none => simp [takenOut?, found] at taken
      | some pending =>
          cases ending with
          | finish time => simp [perform, conclude, found, report]
          | flush => simp [perform, conclude, found, report]
          | abandon => cases taken

end Ledger

namespace LedgerThreads

/-- What threads and the run of their calls have in common. -/
structure Agrees (start : Ledger) (threads : LedgerThreads) : Prop where
  pending : threads.ledger.pending = (start.run threads.calls).pending
  localEndpoint : threads.ledger.localEndpoint = start.localEndpoint
  records : (threads.handedOver ++ threads.parcels.map Parcel.record).Perm
    ((start.turns threads.calls).flatMap Turn.records)

variable {start : Ledger} {threads : LedgerThreads}

theorem ofLedger_agrees (start : Ledger) : Agrees start (ofLedger start) where
  pending := rfl
  localEndpoint := rfl
  records := .refl _

theorem turns_snoc (start : Ledger) (calls : List (Context × LedgerCall)) (context : Context)
    (call : LedgerCall) :
    (start.turns (calls ++ [(context, call)])).flatMap Turn.records =
      (start.turns calls).flatMap Turn.records ++
        ((start.run calls).takenOut? context call).toList := by
  rw [Ledger.turns_append, List.flatMap_append, ← Ledger.records_perform]
  simp only [Ledger.turns, List.flatMap_cons, List.flatMap_nil, List.append_nil]
  rfl

theorem run_snoc (start : Ledger) (calls : List (Context × LedgerCall)) (context : Context)
    (call : LedgerCall) :
    start.run (calls ++ [(context, call)]) = ((start.run calls).perform context call).1 := by
  rw [Ledger.run_append]
  rfl

theorem call_agrees (agrees : Agrees start threads) (thread : Nat) (context : Context)
    (call : LedgerCall) : Agrees start (threads.step (.call thread context call)) := by
  unfold step
  dsimp only
  split
  · exact agrees
  · have endpoint : threads.ledger.localEndpoint = (start.run threads.calls).localEndpoint := by
      rw [agrees.localEndpoint, Ledger.run_localEndpoint]
    have congr := Ledger.perform_congr agrees.pending endpoint context call
    have sameTaken : (threads.ledger.takenOut? context call).toList =
        ((start.run threads.calls).takenOut? context call).toList := by
      rw [← Ledger.records_perform, ← Ledger.records_perform, congr.2]
    cases taken : threads.ledger.takenOut? context call with
    | none =>
        refine ⟨?_, ?_, ?_⟩
        · rw [run_snoc, ← congr.1]
        · exact (Ledger.perform_frame threads.ledger context call).1.trans agrees.localEndpoint
        · rw [turns_snoc, ← sameTaken, taken, Option.toList_none, List.append_nil]
          exact agrees.records
    | some record =>
        refine ⟨?_, agrees.localEndpoint, ?_⟩
        · rw [run_snoc, ← congr.1, Ledger.perform_takenOut taken]
          rfl
        · rw [turns_snoc, ← sameTaken, taken]
          exact List.perm_middle.trans ((agrees.records.cons record).trans
            (List.perm_append_singleton record _).symm)

theorem handOver_agrees (agrees : Agrees start threads) (thread : Nat) :
    Agrees start (threads.step (.handOver thread)) := by
  unfold step
  dsimp only
  cases found : threads.parcels.find? fun parcel => parcel.thread == thread with
  | none => exact agrees
  | some parcel =>
      obtain ⟨newer, older, parts, remaining⟩ := Lists.exists_of_find? found
      refine ⟨agrees.pending, agrees.localEndpoint, ?_⟩
      have before := agrees.records
      rw [parts, List.map_append, List.map_cons] at before
      simp only [remaining, List.map_append, List.append_assoc, List.singleton_append]
      exact (List.Perm.append_left _ List.perm_middle.symm).trans before

theorem run_agrees (steps : List ThreadStep) (agrees : Agrees start threads) :
    Agrees start (threads.run steps) := by
  induction steps generalizing threads with
  | nil => exact agrees
  | cons step rest ih =>
      apply ih
      cases step with
      | call thread context call => exact call_agrees agrees thread context call
      | handOver thread => exact handOver_agrees agrees thread

/-! ### Another sink -/

structure SinkApart (left right : LedgerThreads) : Prop where
  pending : left.ledger.pending = right.ledger.pending
  localEndpoint : left.ledger.localEndpoint = right.ledger.localEndpoint
  parcels : left.parcels = right.parcels
  calls : left.calls = right.calls
  handedOver : left.handedOver = right.handedOver

variable {left right : LedgerThreads}

theorem call_sinkApart (apart : SinkApart left right) (thread : Nat) (context : Context)
    (call : LedgerCall) :
    SinkApart (left.step (.call thread context call)) (right.step (.call thread context call)) := by
  obtain ⟨samePending, sameEndpoint, sameParcels, sameCalls, sameHandedOver⟩ := apart
  have sameTaken : left.ledger.takenOut? context call = right.ledger.takenOut? context call := by
    simp only [Ledger.takenOut?, samePending, sameEndpoint]
  have nextPending := (Ledger.perform_congr samePending sameEndpoint context call).1
  have leftEndpoint := (Ledger.perform_frame left.ledger context call).1
  have rightEndpoint := (Ledger.perform_frame right.ledger context call).1
  unfold step
  dsimp only
  rw [sameParcels, sameTaken]
  split
  · exact ⟨samePending, sameEndpoint, sameParcels, sameCalls, sameHandedOver⟩
  · cases right.ledger.takenOut? context call with
    | none =>
        refine ⟨nextPending, ?_, rfl, ?_, sameHandedOver⟩
        · rw [leftEndpoint, rightEndpoint, sameEndpoint]
        · rw [sameCalls]
    | some record =>
        refine ⟨?_, sameEndpoint, rfl, ?_, sameHandedOver⟩
        · rw [samePending]
        · rw [sameCalls]

theorem handOver_sinkApart (apart : SinkApart left right) (thread : Nat) :
    SinkApart (left.step (.handOver thread)) (right.step (.handOver thread)) := by
  obtain ⟨samePending, sameEndpoint, sameParcels, sameCalls, sameHandedOver⟩ := apart
  unfold step
  dsimp only
  rw [sameParcels]
  cases right.parcels.find? fun parcel => parcel.thread == thread with
  | none => exact ⟨samePending, sameEndpoint, sameParcels, sameCalls, sameHandedOver⟩
  | some parcel =>
      refine ⟨samePending, sameEndpoint, rfl, sameCalls, ?_⟩
      rw [sameHandedOver]

theorem run_sinkApart (steps : List ThreadStep) (apart : SinkApart left right) :
    SinkApart (left.run steps) (right.run steps) := by
  induction steps generalizing left right with
  | nil => exact apart
  | cons step rest ih =>
      apply ih
      cases step with
      | call thread context call => exact call_sinkApart apart thread context call
      | handOver thread => exact handOver_sinkApart apart thread

end LedgerThreads

/-- What a turn did apart from what the sink answered. -/
structure Settling where
  before : Table SpanKey Pending
  context : Context
  call : LedgerCall
  after : Table SpanKey Pending
  records : List SpanRecord

def Turn.settling (turn : Turn) : Settling :=
  ⟨turn.before.pending, turn.context, turn.call, turn.after.pending, turn.records⟩

namespace Ledger

/-- Ledgers that differ in their sinks only go through the same turns. -/
theorem settling_congr (left right : Ledger) (samePending : left.pending = right.pending)
    (sameEndpoint : left.localEndpoint = right.localEndpoint)
    (calls : List (Context × LedgerCall)) :
    (left.turns calls).map Turn.settling = (right.turns calls).map Turn.settling := by
  induction calls generalizing left right with
  | nil => rfl
  | cons call rest ih =>
      obtain ⟨context, call⟩ := call
      obtain ⟨nextPending, sameRecords⟩ :=
        perform_congr samePending sameEndpoint context call
      have nextEndpoint : (left.perform context call).1.localEndpoint =
          (right.perform context call).1.localEndpoint := by
        rw [(perform_frame left context call).1, (perform_frame right context call).1,
          sameEndpoint]
      rw [turns, turns, List.map_cons, List.map_cons, ih _ _ nextPending nextEndpoint]
      have same : Turn.settling ⟨left, context, call⟩ = Turn.settling ⟨right, context, call⟩ := by
        simp only [Turn.settling, Turn.after, Turn.records, Turn.effects, samePending, nextPending,
          sameRecords]
      rw [same]

/-- In every run of calls for any keys, with a sink that may refuse any of the records:
the reports of a key, its abandonments while pending and its entry, if there is one,
are as many as its registrations while absent, and between two reports it is registered
again; every ending takes out an entry, whose record is handed over once unless it is
abandoned, or finds none, which is logged and changes nothing; and another sink changes
nothing of it.  If threads hand records over in steps of their own, with steps of
others in between, the entries are those of their calls in the order in which these took
effect, and the records handed over with those still in hand are the same too; another
sink changes nothing of this either. -/
theorem settles_once (endpoint : Endpoint) (sink : Sink)
    (calls : List (Context × LedgerCall)) :
    let ledger := create endpoint sink
    let turns := ledger.turns calls
    (∀ key,
      (turns.flatMap Turn.records).countP (fun record => record.key = key) +
          turns.countP (Turn.abandons key) +
          (if (ledger.run calls).pending.contains key then 1 else 0) =
        turns.countP (Turn.registers key)) ∧
      (∀ key earlier first middle second later,
        turns = earlier ++ first :: (middle ++ second :: later) →
        (∃ record ∈ first.records, record.key = key) →
        (∃ record ∈ second.records, record.key = key) →
        ∃ turn ∈ middle, turn.registers key = true) ∧
      (∀ turn ∈ turns, ∀ ending, turn.call = .conclude ending →
        (∃ pending, turn.entry turn.key = some pending ∧
          turn.after.pending = turn.before.pending.erase turn.key ∧
          turn.after.delivered = turn.before.delivered + turn.records.length ∧
          turn.records = if ending.delivers then
            [pending.record turn.context turn.before.localEndpoint ending] else []) ∨
        (turn.entry turn.key = none ∧ turn.after = turn.before ∧
          turn.effects = ⟨[.spanUnknown turn.context ending], []⟩)) ∧
      (∀ other, ((create endpoint other).turns calls).map Turn.settling =
        turns.map Turn.settling) ∧
      ∀ steps,
        let threads := (LedgerThreads.ofLedger ledger).run steps
        threads.ledger.pending = (ledger.run threads.calls).pending ∧
          (threads.handedOver ++ threads.parcels.map Parcel.record).Perm
            ((ledger.turns threads.calls).flatMap Turn.records) ∧
          ∀ other,
            let others := (LedgerThreads.ofLedger (create endpoint other)).run steps
            others.ledger.pending = threads.ledger.pending ∧
              others.calls = threads.calls ∧ others.handedOver = threads.handedOver := by
  intro ledger turns
  refine ⟨?_, ?_, ?_, ?_, ?_⟩
  · intro key
    exact run_balance ledger calls key
  · intro key earlier first middle second later split firstReports secondReports
    exact registers_between split firstReports secondReports
  · intro turn _ ending isEnding
    exact Turn.ending_cases isEnding
  · intro other
    exact settling_congr (create endpoint other) ledger rfl rfl calls
  · intro steps threads
    have agrees : LedgerThreads.Agrees ledger threads :=
      LedgerThreads.run_agrees steps (LedgerThreads.ofLedger_agrees ledger)
    refine ⟨agrees.pending, agrees.records, ?_⟩
    intro other others
    have apart : LedgerThreads.SinkApart others threads :=
      LedgerThreads.run_sinkApart steps ⟨rfl, rfl, rfl, rfl, rfl⟩
    exact ⟨apart.pending, apart.calls, apart.handedOver⟩

end Ledger

end SpanTrail
