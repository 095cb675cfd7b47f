import SpanTrail.Ledger

/-! Runs of a ledger, call by call.  A call reads and changes only the entry of its own
key, and what it does to that entry does not depend on the sink.  The calls of several
threads each take effect as a whole, so any order of them is such a run. -/

namespace SpanTrail

def Ending.delivers : Ending → Bool
  | .finish _ => true
  | .flush => true
  | .abandon => false

def LedgerCall.advance : LedgerCall → Option Pending → Option Pending
  | .register, entry => some (entry.getD .fresh)
  | .update change, entry => entry.map fun pending => pending.update change
  | .conclude _, _ => none

/-- The record that a call takes out of a ledger, if it is a delivering ending of a
pending key. -/
def Ledger.takenOut? (ledger : Ledger) (context : Context) : LedgerCall → Option SpanRecord
  | .conclude ending =>
      if ending.delivers then
        (ledger.pending.get? context.key).map fun pending =>
          pending.record context ledger.localEndpoint ending
      else none
  | _ => none

def SpanRecord.key (record : SpanRecord) : SpanKey :=
  ⟨record.traceId, record.spanId, record.shared⟩

structure Turn where
  before : Ledger
  context : Context
  call : LedgerCall

namespace Turn

def after (turn : Turn) : Ledger :=
  (turn.before.perform turn.context turn.call).1

def effects (turn : Turn) : Effects :=
  (turn.before.perform turn.context turn.call).2

def records (turn : Turn) : List SpanRecord :=
  turn.effects.records

def key (turn : Turn) : SpanKey :=
  turn.context.key

def entry (turn : Turn) (key : SpanKey) : Option Pending :=
  turn.before.pending.get? key

def registers (key : SpanKey) (turn : Turn) : Bool :=
  turn.call = .register ∧ turn.key = key ∧ (turn.entry key).isNone

def abandons (key : SpanKey) (turn : Turn) : Bool :=
  turn.call = .conclude .abandon ∧ turn.key = key ∧ (turn.entry key).isSome

end Turn

namespace Ledger

theorem get?_register (ledger : Ledger) (context : Context) (key : SpanKey) :
    (ledger.register context).pending.get? key =
      if key = context.key then LedgerCall.register.advance (ledger.pending.get? key)
      else ledger.pending.get? key := by
  unfold register tracks Table.contains
  cases found : ledger.pending.get? context.key with
  | none =>
      simp only [Option.isSome_none, Bool.false_eq_true, if_false, Table.get?_insert]
      split
      · rename_i same
        rw [same, found]
        rfl
      · rfl
  | some pending =>
      simp only [Option.isSome_some, if_true]
      split
      · rename_i same
        rw [same, found]
        rfl
      · rfl

theorem get?_update (ledger : Ledger) (context : Context) (change : Update) (key : SpanKey) :
    (ledger.update context change).pending.get? key =
      if key = context.key then (LedgerCall.update change).advance (ledger.pending.get? key)
      else ledger.pending.get? key := by
  unfold update
  rw [Table.get?_modify]
  split
  · rename_i same
    rw [same]
    rfl
  · rfl

theorem conclude_absent {ledger : Ledger} {context : Context} (ending : Ending)
    (absent : ledger.pending.get? context.key = none) :
    ledger.conclude context ending = (ledger, ⟨[.spanUnknown context ending], []⟩) := by
  simp only [conclude, absent]

theorem update_absent {ledger : Ledger} {context : Context} (change : Update)
    (absent : ledger.pending.get? context.key = none) : ledger.update context change = ledger := by
  unfold update Table.modify
  rw [absent]

theorem conclude_present {ledger : Ledger} {context : Context} {pending : Pending}
    (ending : Ending) (present : ledger.pending.get? context.key = some pending) :
    (ledger.conclude context ending).1.pending = ledger.pending.erase context.key ∧
      (ledger.conclude context ending).2.records =
        if ending.delivers then [pending.record context ledger.localEndpoint ending] else [] := by
  simp only [conclude, present]
  cases ending with
  | finish time => exact ⟨rfl, rfl⟩
  | flush => exact ⟨rfl, rfl⟩
  | abandon => exact ⟨rfl, rfl⟩

theorem get?_conclude (ledger : Ledger) (context : Context) (ending : Ending) (key : SpanKey) :
    (ledger.conclude context ending).1.pending.get? key =
      if key = context.key then (LedgerCall.conclude ending).advance (ledger.pending.get? key)
      else ledger.pending.get? key := by
  cases found : ledger.pending.get? context.key with
  | none =>
      rw [conclude_absent ending found]
      split
      · rename_i same
        rw [same, found]
        rfl
      · rfl
  | some pending =>
      rw [(conclude_present ending found).1, Table.get?_erase]
      rfl

/-- A call advances the entry of its key and leaves all others. -/
theorem get?_perform (ledger : Ledger) (context : Context) (call : LedgerCall) (key : SpanKey) :
    (ledger.perform context call).1.pending.get? key =
      if key = context.key then call.advance (ledger.pending.get? key)
      else ledger.pending.get? key := by
  cases call with
  | register => exact get?_register ledger context key
  | update change => exact get?_update ledger context change key
  | conclude ending => exact get?_conclude ledger context ending key

theorem records_perform (ledger : Ledger) (context : Context) (call : LedgerCall) :
    (ledger.perform context call).2.records = (ledger.takenOut? context call).toList := by
  cases call with
  | register => rfl
  | update change => rfl
  | conclude ending =>
      change (ledger.conclude context ending).2.records = _
      cases found : ledger.pending.get? context.key with
      | none =>
          rw [conclude_absent ending found]
          simp [takenOut?, found]
      | some pending =>
          rw [(conclude_present ending found).2]
          cases delivers : ending.delivers with
          | false => simp [takenOut?, delivers]
          | true => simp [takenOut?, delivers, found]

/-- Only an ending hands a record over.  The record has the key of the call, which was tracked
until then. -/
theorem of_mem_records {ledger : Ledger} {context : Context} {call : LedgerCall}
    {record : SpanRecord} (reported : record ∈ (ledger.perform context call).2.records) :
    record.key = context.key ∧ ledger.tracks context = true ∧
      ∃ ending, call = .conclude ending := by
  rw [records_perform, Option.mem_toList] at reported
  cases call with
  | register | update change => cases reported
  | conclude ending =>
      obtain ⟨_, taken⟩ := Option.ite_none_right_eq_some.mp reported
      obtain ⟨pending, found, isRecord⟩ := Option.map_eq_some_iff.mp taken
      refine ⟨?_, ?_, ending, rfl⟩
      · rw [← isRecord]
        rfl
      · unfold tracks Table.contains
        rw [found]
        rfl

/-- What is pending after a call depends on what was pending before it, and not on the
sink.  The record depends on the endpoint too. -/
theorem perform_congr {left right : Ledger} (samePending : left.pending = right.pending)
    (sameEndpoint : left.localEndpoint = right.localEndpoint) (context : Context)
    (call : LedgerCall) :
    (left.perform context call).1.pending = (right.perform context call).1.pending ∧
      (left.perform context call).2.records = (right.perform context call).2.records := by
  constructor
  · cases call with
    | register =>
        have sameTracks : left.tracks context = right.tracks context := by
          simp only [tracks, samePending]
        simp only [perform, register, sameTracks]
        cases right.tracks context with
        | false => simp only [Bool.false_eq_true, if_false, samePending]
        | true => simp only [if_true, samePending]
    | update change => simp only [perform, update, samePending]
    | conclude ending =>
        change (left.conclude context ending).1.pending = (right.conclude context ending).1.pending
        cases found : right.pending.get? context.key with
        | none =>
            rw [conclude_absent ending found, conclude_absent ending (samePending ▸ found)]
            exact samePending
        | some pending =>
            rw [(conclude_present ending found).1,
              (conclude_present ending (samePending ▸ found)).1, samePending]
  · rw [records_perform, records_perform]
    cases call with
    | register => rfl
    | update change => rfl
    | conclude ending => simp only [takenOut?, samePending, sameEndpoint]

theorem perform_frame (ledger : Ledger) (context : Context) (call : LedgerCall) :
    (ledger.perform context call).1.localEndpoint = ledger.localEndpoint ∧
      (ledger.perform context call).1.sink = ledger.sink ∧
      (ledger.perform context call).1.delivered =
        ledger.delivered + (ledger.perform context call).2.records.length := by
  cases call with
  | register =>
      simp only [perform, register]
      split
      · exact ⟨rfl, rfl, rfl⟩
      · exact ⟨rfl, rfl, rfl⟩
  | update change => exact ⟨rfl, rfl, rfl⟩
  | conclude ending =>
      simp only [perform, conclude]
      cases ledger.pending.get? context.key with
      | none => exact ⟨rfl, rfl, rfl⟩
      | some pending =>
          cases ending with
          | finish time => exact ⟨rfl, rfl, rfl⟩
          | flush => exact ⟨rfl, rfl, rfl⟩
          | abandon => exact ⟨rfl, rfl, rfl⟩

def turns (ledger : Ledger) : List (Context × LedgerCall) → List Turn
  | [] => []
  | (context, call) :: rest =>
      ⟨ledger, context, call⟩ :: turns (ledger.perform context call).1 rest

def run (ledger : Ledger) (calls : List (Context × LedgerCall)) : Ledger :=
  calls.foldl (fun sofar call => (sofar.perform call.1 call.2).1) ledger

theorem run_append (ledger : Ledger) (first second : List (Context × LedgerCall)) :
    ledger.run (first ++ second) = (ledger.run first).run second := by
  exact List.foldl_append

theorem run_localEndpoint (ledger : Ledger) (calls : List (Context × LedgerCall)) :
    (ledger.run calls).localEndpoint = ledger.localEndpoint := by
  induction calls generalizing ledger with
  | nil => rfl
  | cons call rest ih => exact (ih _).trans (perform_frame ledger call.1 call.2).1

theorem turns_append (ledger : Ledger) (first second : List (Context × LedgerCall)) :
    ledger.turns (first ++ second) = ledger.turns first ++ (ledger.run first).turns second := by
  induction first generalizing ledger with
  | nil => rfl
  | cons call rest ih =>
      rw [List.cons_append, turns, turns, ih, List.cons_append]
      rfl

end Ledger

end SpanTrail
