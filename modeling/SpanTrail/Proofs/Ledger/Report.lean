import Mathlib.Data.List.Induction
import SpanTrail.Proofs.Ledger.Turn

/-! Lifetimes of spans and what a ledger reports of them.  A lifetime begins with the registration
of an absent key and goes on until a call ends the key.  Its record is made of the changes to the
key in between and of nothing else: the first start, the last of every other single value, all
annotations, and the last value of every tag.  In every run a record is reported exactly by a
delivering call within a lifetime of its key, and it is the record of that lifetime. -/

namespace SpanTrail

namespace Update

def start? : Update → Option Timestamp
  | .start time => some time
  | _ => none

def name? : Update → Option String
  | .name text => some text
  | _ => none

def kind? : Update → Option Kind
  | .kind role => some role
  | _ => none

def remoteEndpoint? : Update → Option Endpoint
  | .remoteEndpoint endpoint => some endpoint
  | _ => none

def annotation? : Update → Option Annotation
  | .annotate time value => some ⟨time, value⟩
  | _ => none

def tag? : Update → Option (String × String)
  | .tag key value => some (key, value)
  | _ => none

end Update

def lastValue? (name : String) (pairs : List (String × String)) : Option String :=
  ((pairs.filter fun pair => pair.1 = name).getLast?).map Prod.snd

theorem Tags.get?_foldl_insert (name : String) (pairs : List (String × String)) (tags : Tags) :
    (pairs.foldl (fun sofar pair => sofar.insert pair.1 pair.2) tags).get? name =
      (lastValue? name pairs).or (tags.get? name) := by
  induction pairs using List.reverseRecOn with
  | nil => rfl
  | append_singleton pairs pair ih =>
      rw [List.foldl_append, List.foldl_cons, List.foldl_nil, Tags.get?_insert, ih]
      unfold lastValue?
      rw [List.filter_append]
      by_cases same : name = pair.1
      · rw [if_pos same, List.filter_cons_of_pos (by simp [same])]
        simp
      · have other : ¬pair.1 = name := fun equal => same equal.symm
        rw [if_neg same, List.filter_cons_of_neg (by simp [other]), List.filter_nil,
          List.append_nil]

theorem Tags.get?_ofList (name : String) (pairs : List (String × String)) :
    (Tags.ofList pairs).get? name = lastValue? name pairs := by
  unfold ofList
  rw [get?_foldl_insert, get?_empty, Option.or_none]

theorem lastValue?_append (name : String) (earlier later : List (String × String)) :
    lastValue? name (earlier ++ later) = (lastValue? name later).or (lastValue? name earlier) := by
  unfold lastValue?
  rw [List.filter_append, List.getLast?_append, Option.map_or]

theorem lastValue?_optional (name key : String) (value : Option String) :
    lastValue? name (value.bind fun text => some (key, text)).toList =
      if name = key then value else none := by
  cases value with
  | none => exact (ite_self none).symm
  | some text =>
      change (([(key, text)].filter fun pair => pair.1 = name).getLast?).map Prod.snd = _
      by_cases same : name = key
      · have kept : decide (key = name) = true := decide_eq_true same.symm
        simp only [List.filter_cons, kept, if_true, if_pos same, List.filter_nil]
        rfl
      · have left : decide (key = name) = false := decide_eq_false fun equal => same equal.symm
        simp only [List.filter_cons, left, Bool.false_eq_true, if_false, if_neg same,
          List.filter_nil]
        rfl

/-- The fields of a span that was changed so since its registration. -/
def Pending.ofChanges (changes : List Update) : Pending where
  name := (changes.filterMap Update.name?).getLast?
  kind := (changes.filterMap Update.kind?).getLast?
  start := (changes.filterMap Update.start?).head?
  remoteEndpoint := (changes.filterMap Update.remoteEndpoint?).getLast?
  annotations := changes.filterMap Update.annotation?
  tags := .ofList (changes.filterMap Update.tag?)

theorem Pending.ofChanges_append (changes : List Update) (change : Update) :
    ofChanges (changes ++ [change]) = (ofChanges changes).update change := by
  unfold ofChanges
  simp only [List.filterMap_append, List.filterMap_cons, List.filterMap_nil]
  cases change with
  | start time =>
      have first : ((changes.filterMap Update.start?) ++ [time]).head? =
          some ((changes.filterMap Update.start?).head?.getD time) := by
        cases changes.filterMap Update.start? <;> rfl
      simp [update, Update.name?, Update.kind?, Update.start?, Update.remoteEndpoint?,
        Update.annotation?, Update.tag?, first]
  | name _ | kind _ | tag _ _ | annotate _ _ | remoteEndpoint _ =>
      simp [update, Update.name?, Update.kind?, Update.start?, Update.remoteEndpoint?,
        Update.annotation?, Update.tag?, Tags.ofList]

def SpanRecord.ofLifetime (endpoint : Endpoint) (changes : List Update) (context : Context)
    (ending : Ending) : SpanRecord where
  traceId := context.traceId
  spanId := context.spanId
  parentId := context.parentId
  name := (changes.filterMap Update.name?).getLast?
  kind := (changes.filterMap Update.kind?).getLast?
  start := (changes.filterMap Update.start?).head?
  duration :=
    match ending, (changes.filterMap Update.start?).head? with
    | .finish time, some start => some (UInt64.ofNat (time.toNat - start.toNat))
    | _, _ => none
  localEndpoint := if endpoint.isEmpty then none else some endpoint
  remoteEndpoint := (changes.filterMap Update.remoteEndpoint?).getLast?
  annotations := changes.filterMap Update.annotation?
  tags := .ofList (changes.filterMap Update.tag?)
  debug := context.sampling.isDebug
  shared := context.shared

theorem Timestamp.since_eq (finish start : Timestamp) :
    finish.since start = UInt64.ofNat (finish.toNat - start.toNat) := by
  rw [← Timestamp.since_toNat, UInt64.ofNat_toNat]

theorem Pending.record_ofChanges (changes : List Update) (context : Context)
    (endpoint : Endpoint) (ending : Ending) :
    (ofChanges changes).record context endpoint ending =
      SpanRecord.ofLifetime endpoint changes context ending := by
  have same : (ofChanges changes).duration ending =
      (SpanRecord.ofLifetime endpoint changes context ending).duration := by
    simp only [duration, ofChanges, SpanRecord.ofLifetime]
    cases ending with
    | finish time =>
        cases (changes.filterMap Update.start?).head? with
        | none => rfl
        | some start => simp only [Option.map_some, Timestamp.since_eq]
    | flush => rfl
    | abandon => rfl
  unfold record
  rw [same]
  rfl

theorem SpanRecord.duration_ofLifetime (endpoint : Endpoint) (changes : List Update)
    (context : Context) (time : Timestamp) :
    (ofLifetime endpoint changes context (.finish time)).duration =
      (changes.filterMap Update.start?).head?.map time.since := by
  rw [← Pending.record_ofChanges]
  rfl

def LedgerCall.update? : LedgerCall → Option Update
  | .update change => some change
  | _ => none

def changesOf (key : SpanKey) (calls : List (Context × LedgerCall)) : List Update :=
  calls.filterMap fun call => if call.1.key = key then call.2.update? else none

/-- A run of calls that ends within a lifetime of a key: a registration found the key
absent, and no call ended it since. -/
structure Lifetime (ledger : Ledger) (key : SpanKey) (calls : List (Context × LedgerCall)) where
  earlier : List (Context × LedgerCall)
  registrant : Context
  during : List (Context × LedgerCall)
  calls_eq : calls = earlier ++ (registrant, .register) :: during
  registrant_key : registrant.key = key
  absent : (ledger.run earlier).pending.get? key = none
  unended : ∀ call ∈ during, call.1.key = key → ∀ ending, call.2 ≠ .conclude ending

def Lifetime.changes {ledger : Ledger} {key : SpanKey} {calls : List (Context × LedgerCall)}
    (lifetime : Lifetime ledger key calls) : List Update :=
  changesOf key lifetime.during

namespace Ledger

/-- A call that does not end a key adds its change to those that the entry is made of. -/
theorem get?_perform_unended {ledger : Ledger} {key : SpanKey} {changes : List Update}
    (context : Context) (call : LedgerCall)
    (entry : ledger.pending.get? key = some (.ofChanges changes))
    (unended : context.key = key → ∀ ending, call ≠ .conclude ending) :
    (ledger.perform context call).1.pending.get? key =
      some (.ofChanges (changes ++ changesOf key [(context, call)])) := by
  rw [get?_perform, entry]
  by_cases same : context.key = key
  · rw [if_pos same.symm]
    cases call with
    | register => simp [LedgerCall.advance, changesOf, LedgerCall.update?]
    | update change =>
        have added : changesOf key [(context, LedgerCall.update change)] = [change] := by
          simp [changesOf, LedgerCall.update?, same]
        rw [added, Pending.ofChanges_append]
        rfl
    | conclude ending => exact absurd rfl (unended same ending)
  · have nothing : changesOf key [(context, call)] = [] := by
      simp [changesOf, same]
    rw [if_neg fun equal => same equal.symm, nothing, List.append_nil]

theorem get?_run_unended {ledger : Ledger} {key : SpanKey} {changes : List Update}
    {during : List (Context × LedgerCall)}
    (entry : ledger.pending.get? key = some (.ofChanges changes))
    (unended : ∀ call ∈ during, call.1.key = key → ∀ ending, call.2 ≠ .conclude ending) :
    (ledger.run during).pending.get? key =
      some (.ofChanges (changes ++ changesOf key during)) := by
  induction during generalizing ledger changes with
  | nil =>
      rw [changesOf, List.filterMap_nil, List.append_nil]
      exact entry
  | cons call rest ih =>
      have first := get?_perform_unended call.1 call.2 entry (unended call List.mem_cons_self)
      have later := ih first fun other member => unended other (List.mem_cons_of_mem _ member)
      have joined : changesOf key (call :: rest) = changesOf key [call] ++ changesOf key rest := by
        unfold changesOf
        rw [← List.filterMap_append, List.singleton_append]
      rw [joined, ← List.append_assoc]
      exact later

end Ledger

/-- Within a lifetime the entry is made of the changes since the registration. -/
theorem Lifetime.entry_eq {ledger : Ledger} {key : SpanKey}
    {calls : List (Context × LedgerCall)} (lifetime : Lifetime ledger key calls) :
    (ledger.run calls).pending.get? key = some (.ofChanges lifetime.changes) := by
  obtain ⟨earlier, registrant, during, rfl, registrantKey, absent, unended⟩ := lifetime
  have registered : ((ledger.run earlier).perform registrant .register).1.pending.get? key =
      some (.ofChanges []) := by
    rw [Ledger.get?_perform, if_pos registrantKey.symm, absent]
    rfl
  rw [Ledger.run_append]
  exact Ledger.get?_run_unended registered unended

/-- A key that was absent at first and is pending now is within a lifetime. -/
theorem Lifetime.exists_of_pending {ledger : Ledger} {key : SpanKey}
    {calls : List (Context × LedgerCall)} {pending : Pending}
    (absent : ledger.pending.get? key = none)
    (found : (ledger.run calls).pending.get? key = some pending) :
    Nonempty (Lifetime ledger key calls) := by
  -- By the last call: it begins a lifetime, or goes on with that of the calls before it.
  induction calls using List.reverseRecOn generalizing pending with
  | nil =>
      change ledger.pending.get? key = some pending at found
      rw [absent] at found
      cases found
  | append_singleton calls call ih =>
      obtain ⟨context, call⟩ := call
      have continued (before : Pending)
          (known : (ledger.run calls).pending.get? key = some before)
          (goesOn : context.key = key → ∀ ending, call ≠ .conclude ending) :
          Nonempty (Lifetime ledger key (calls ++ [(context, call)])) := by
        obtain ⟨earlier, registrant, during, rfl, registrantKey, absent, unended⟩ := ih known
        refine ⟨earlier, registrant, during ++ [(context, call)], by simp, registrantKey, absent,
          ?_⟩
        intro other member
        rcases List.mem_append.mp member with before | last
        · exact unended other before
        · rw [List.mem_singleton.mp last]
          exact goesOn
      rw [Ledger.run_append] at found
      change ((ledger.run calls).perform context call).1.pending.get? key = _ at found
      rw [Ledger.get?_perform] at found
      by_cases same : context.key = key
      · rw [if_pos same.symm] at found
        cases known : (ledger.run calls).pending.get? key with
        | none =>
            cases call with
            | register => exact ⟨⟨calls, context, [], rfl, same, known, by simp⟩⟩
            | update change =>
                rw [known] at found
                cases found
            | conclude ending => cases found
        | some before =>
            cases call with
            | register => exact continued before known (by intro _ ending; exact nofun)
            | update change => exact continued before known (by intro _ ending; exact nofun)
            | conclude ending => cases found
      · rw [if_neg fun equal => same equal.symm] at found
        exact continued pending found fun equal => absurd equal same

namespace Ledger

theorem mem_records_perform (ledger : Ledger) (context : Context) (call : LedgerCall)
    (record : SpanRecord) :
    record ∈ (ledger.perform context call).2.records ↔
      ∃ ending pending, call = .conclude ending ∧ ending.delivers = true ∧
        ledger.pending.get? context.key = some pending ∧
        record = pending.record context ledger.localEndpoint ending := by
  rw [records_perform, Option.mem_toList]
  cases call with
  | register => simp [takenOut?]
  | update change => simp [takenOut?]
  | conclude ending =>
      simp only [takenOut?, LedgerCall.conclude.injEq]
      constructor
      · intro taken
        split at taken
        · rename_i delivers
          obtain ⟨pending, found, made⟩ := Option.map_eq_some_iff.mp taken
          exact ⟨ending, pending, rfl, delivers, found, made.symm⟩
        · cases taken
      · rintro ⟨_, pending, rfl, delivers, found, made⟩
        rw [if_pos delivers, found, made]
        rfl

/-- After any run of calls for any spans, a call reports a record exactly if it is a
finish or a flush within a lifetime of its key.  The record is made of the changes to that
key in that lifetime, of the context of the ending and of the endpoint, and of nothing
else; each tag has its last value. -/
theorem reports_iff_lifetime (endpoint : Endpoint) (sink : Sink)
    (calls : List (Context × LedgerCall)) (context : Context) (call : LedgerCall)
    (record : SpanRecord) :
    record ∈ (((create endpoint sink).run calls).perform context call).2.records ↔
      ∃ ending, call = .conclude ending ∧ ending.delivers = true ∧
        ∃ lifetime : Lifetime (create endpoint sink) context.key calls,
          record = .ofLifetime endpoint lifetime.changes context ending ∧
          ∀ name, record.tags.get? name =
            lastValue? name (lifetime.changes.filterMap Update.tag?) := by
  rw [mem_records_perform, run_localEndpoint]
  constructor
  · rintro ⟨ending, pending, isEnding, delivers, found, made⟩
    obtain ⟨lifetime⟩ := Lifetime.exists_of_pending (Table.get?_empty context.key) found
    refine ⟨ending, isEnding, delivers, lifetime, ?_, ?_⟩
    · rw [lifetime.entry_eq, Option.some.injEq] at found
      rw [made, ← found]
      exact Pending.record_ofChanges lifetime.changes context endpoint ending
    · rw [lifetime.entry_eq, Option.some.injEq] at found
      intro name
      rw [made, ← found]
      exact Tags.get?_ofList name _
  · rintro ⟨ending, isEnding, delivers, lifetime, made, _⟩
    refine ⟨ending, .ofChanges lifetime.changes, isEnding, delivers, lifetime.entry_eq, ?_⟩
    rw [made]
    exact (Pending.record_ofChanges lifetime.changes context endpoint ending).symm

end Ledger

end SpanTrail
