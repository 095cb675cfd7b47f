import SpanTrail.Identifier
import SpanTrail.Proofs.Sampler.Share

/-! Calls that share one counting sampler.  A call reads the position, moves it on if no
other call was faster, and looks up the bit of the slot that it took.  The calls of any
number of threads overlap in any way; each is known by the order in which they start. -/

namespace SpanTrail

open WindowSampler

inductive CallStage where
  | started
  | read (slot : Fin windowSize)
  | taken (slot : Fin windowSize)
  | answered (slot : Fin windowSize) (decision : Bool)

namespace CallStage

def slot? : CallStage → Option (Fin windowSize)
  | .started | .read _ => none
  | .taken slot | .answered slot _ => some slot

def answer? : CallStage → Option Bool
  | .answered _ decision => some decision
  | _ => none

end CallStage

structure Taking where
  call : Nat
  slot : Fin windowSize
  deriving DecidableEq

/-- A sampler with the calls on it.  What was taken is kept in order. -/
structure SharedWindow where
  sampler : WindowSampler
  calls : List CallStage
  takings : List Taking

/-- What is read may be out of date by then, so it is any slot.  An exchange that finds
another slot than the one that was read has read the position again. -/
inductive CallStep where
  | start (traceId : TraceId)
  | read (call : Nat) (slot : Fin windowSize)
  | exchange (call : Nat)
  | answer (call : Nat)

namespace SharedWindow

def first (sampler : WindowSampler) : SharedWindow := ⟨sampler, [], []⟩

def enter (window : SharedWindow) (call : Nat) (stage : CallStage) : SharedWindow :=
  { window with calls := window.calls.set call stage }

def take (window : SharedWindow) (call : Nat) : SharedWindow where
  sampler := window.sampler.ask.2
  calls := window.calls.set call (.taken window.sampler.next)
  takings := window.takings ++ [⟨call, window.sampler.next⟩]

def accepts (window : SharedWindow) (slot : Fin windowSize) : Bool :=
  window.sampler.chosen.contains slot.val

def step (window : SharedWindow) : CallStep → SharedWindow
  | .start _ => { window with calls := window.calls ++ [.started] }
  | .read call slot =>
      match window.calls[call]? with
      | some .started | some (.read _) => window.enter call (.read slot)
      | _ => window
  | .exchange call =>
      match window.calls[call]? with
      | some (.read slot) =>
          if slot = window.sampler.next then window.take call
          else window.enter call (.read window.sampler.next)
      | _ => window
  | .answer call =>
      match window.calls[call]? with
      | some (.taken slot) =>
          window.enter call (.answered slot (window.accepts slot))
      | _ => window

def run (window : SharedWindow) (steps : List CallStep) : SharedWindow :=
  steps.foldl step window

def decisions (window : SharedWindow) : List Bool :=
  window.takings.map (window.accepts ·.slot)

def answers (window : SharedWindow) : List Bool :=
  window.calls.filterMap CallStage.answer?

/-- A call that no other disturbs is the sampler asked once. -/
theorem run_alone (sampler : WindowSampler) (traceId : TraceId) :
    (first sampler).run [.start traceId, .read 0 sampler.next, .exchange 0, .answer 0] =
      ⟨sampler.ask.2, [.answered sampler.next sampler.ask.1], [⟨0, sampler.next⟩]⟩ := by
  simp [run, step, first, enter, take, accepts, ask]

inductive Changed (before after : SharedWindow) : Prop where
  | idle (same : after = before)
  | started (grown : after = { before with calls := before.calls ++ [.started] })
  | entered (call : Nat) (old new : CallStage) (found : before.calls[call]? = some old)
      (kept : new.slot? = old.slot?)
      (decided : ∀ slot decision, new = .answered slot decision →
        decision = before.accepts slot)
      (moved : after = before.enter call new)
  | took (call : Nat) (old : CallStage) (found : before.calls[call]? = some old)
      (untaken : old.slot? = none) (moved : after = before.take call)

theorem step_changed (window : SharedWindow) (step : CallStep) :
    Changed window (window.step step) := by
  cases step with
  | start traceId => exact .started rfl
  | read call slot =>
      unfold SharedWindow.step
      dsimp only
      split
      · next found => exact .entered call _ (.read slot) found rfl nofun rfl
      · next found => exact .entered call _ (.read slot) found rfl nofun rfl
      · exact .idle rfl
  | exchange call =>
      unfold SharedWindow.step
      dsimp only
      split
      · next found =>
          split
          · exact .took call _ found rfl rfl
          · exact .entered call _ (.read window.sampler.next) found rfl nofun rfl
      · exact .idle rfl
  | answer call =>
      unfold SharedWindow.step
      dsimp only
      split
      · next found =>
          refine .entered call _ (.answered _ _) found rfl ?_ rfl
          intro slot decision same
          cases same
          rfl
      · exact .idle rfl

/-! ### The slots of the calls -/

def slotOf? (window : SharedWindow) (call : Nat) : Option (Fin windowSize) :=
  window.calls[call]?.bind CallStage.slot?

theorem slotOf?_of_found {window : SharedWindow} {call : Nat} {stage : CallStage}
    (found : window.calls[call]? = some stage) : window.slotOf? call = stage.slot? := by
  unfold slotOf?
  rw [found]
  rfl

theorem slotOf?_start (window : SharedWindow) (call : Nat) :
    ({ window with calls := window.calls ++ [.started] } : SharedWindow).slotOf? call =
      window.slotOf? call := by
  unfold slotOf?
  rw [Lists.getElem?_concat]
  split
  · next isNew =>
      rw [isNew, List.getElem?_eq_none_iff.mpr (Nat.le_refl _)]
      rfl
  · rfl

theorem slotOf?_set {window after : SharedWindow} {call : Nat} {old new : CallStage}
    (found : window.calls[call]? = some old) (moved : after.calls = window.calls.set call new)
    (other : Nat) :
    after.slotOf? other = if other = call then new.slot? else window.slotOf? other := by
  unfold slotOf?
  rw [moved, Lists.getElem?_set_of_some found]
  split
  · rfl
  · rfl

def takingsByCall (window : SharedWindow) : List Taking :=
  (List.range window.calls.length).filterMap fun call =>
    (window.slotOf? call).map (Taking.mk call)

structure Shares (initial : WindowSampler) (window : SharedWindow) : Prop where
  sampler : window.sampler = initial.after window.takings.length
  slots : window.takings.map Taking.slot =
    (List.range window.takings.length).map fun index => (initial.after index).next
  once : ∀ call, window.takings.filter (·.call == call) =
    ((window.slotOf? call).map (Taking.mk call)).toList
  decided : ∀ (call : Nat) (slot : Fin windowSize) (decision : Bool),
    window.calls[call]? = some (.answered slot decision) →
    decision = initial.chosen.contains slot.val

theorem first_shares (sampler : WindowSampler) : Shares sampler (first sampler) where
  sampler := rfl
  slots := rfl
  once := fun _ => rfl
  decided := nofun

section Step

variable {initial : WindowSampler} {window : SharedWindow}

theorem Shares.chosen (shares : Shares initial window) :
    window.sampler.chosen = initial.chosen := by
  rw [shares.sampler]
  exact (initial.after_eq _).1

theorem Shares.accepts (shares : Shares initial window) (slot : Fin windowSize) :
    window.accepts slot = initial.chosen.contains slot.val := by
  unfold SharedWindow.accepts
  rw [shares.chosen]

theorem Shares.start (shares : Shares initial window) :
    Shares initial { window with calls := window.calls ++ [.started] } where
  sampler := shares.sampler
  slots := shares.slots
  once := by
    intro call
    rw [slotOf?_start]
    exact shares.once call
  decided := by
    intro call slot decision found
    rw [Lists.getElem?_concat] at found
    split at found
    · cases found
    · exact shares.decided call slot decision found

theorem Shares.enter (shares : Shares initial window) {call : Nat} {old new : CallStage}
    (found : window.calls[call]? = some old) (kept : new.slot? = old.slot?)
    (decided : ∀ slot decision, new = .answered slot decision →
      decision = window.accepts slot) :
    Shares initial (window.enter call new) where
  sampler := shares.sampler
  slots := shares.slots
  once := by
    intro other
    rw [slotOf?_set found rfl]
    split
    · next same =>
        rw [kept, ← slotOf?_of_found found, same]
        exact shares.once call
    · exact shares.once other
  decided := by
    intro other slot decision entered
    change (window.calls.set call new)[other]? = _ at entered
    rw [Lists.getElem?_set_of_some found] at entered
    split at entered
    · rw [← shares.accepts]
      exact decided slot decision (Option.some.inj entered)
    · exact shares.decided other slot decision entered

/-- The call takes the slot that the next decision is due for. -/
theorem Shares.take (shares : Shares initial window) {call : Nat} {old : CallStage}
    (found : window.calls[call]? = some old) (untaken : old.slot? = none) :
    Shares initial (window.take call) where
  sampler := by
    change window.sampler.ask.2 = initial.after (window.takings ++ [_]).length
    rw [shares.sampler, List.length_append]
    rfl
  slots := by
    change (window.takings ++ [_]).map Taking.slot =
      (List.range (window.takings ++ [_]).length).map _
    rw [List.map_append, shares.slots, List.length_append, List.length_singleton,
      List.range_succ, List.map_append, shares.sampler]
    rfl
  once := by
    intro other
    change (window.takings ++ [_]).filter _ = _
    rw [slotOf?_set found rfl, List.filter_append, shares.once other]
    by_cases same : other = call
    · rw [if_pos same, same, slotOf?_of_found found, untaken, List.filter_singleton,
        beq_self_eq_true]
      rfl
    · rw [if_neg same, List.filter_singleton, beq_false_of_ne (Ne.symm same)]
      exact List.append_nil _
  decided := by
    intro other slot decision entered
    change (window.calls.set call _)[other]? = _ at entered
    rw [Lists.getElem?_set_of_some found] at entered
    split at entered
    · cases entered
    · exact shares.decided other slot decision entered

theorem Shares.step (shares : Shares initial window) (step : CallStep) :
    Shares initial (window.step step) := by
  rcases window.step_changed step with
    same | grown | ⟨call, old, new, found, kept, decided, moved⟩ |
      ⟨call, old, found, untaken, moved⟩
  · rw [same]
    exact shares
  · rw [grown]
    exact shares.start
  · rw [moved]
    exact shares.enter found kept decided
  · rw [moved]
    exact shares.take found untaken

end Step

theorem run_shares {sampler : WindowSampler} {window : SharedWindow}
    (shares : Shares sampler window) (steps : List CallStep) :
    Shares sampler (window.run steps) := by
  induction steps generalizing window with
  | nil => exact shares
  | cons step rest ih => exact ih (shares.step step)

section Decisions

variable {initial : WindowSampler} {window : SharedWindow}

theorem Shares.decisions_eq (shares : Shares initial window) :
    window.decisions = (List.range window.takings.length).map initial.decision := by
  have bySlot : window.decisions = (window.takings.map Taking.slot).map window.accepts := by
    rw [List.map_map]
    rfl
  rw [bySlot, shares.slots, List.map_map]
  apply List.map_congr_left
  intro index _
  change window.accepts _ = (initial.after index).chosen.contains _
  rw [shares.accepts, (initial.after_eq index).1]

theorem Shares.length_decisions (shares : Shares initial window) :
    window.decisions.length = window.takings.length := by
  rw [shares.decisions_eq, List.length_map, List.length_range]

theorem Shares.taking_mem_iff (shares : Shares initial window) {taking : Taking} :
    taking ∈ window.takings ↔ window.slotOf? taking.call = some taking.slot := by
  have own : taking ∈ window.takings.filter (·.call == taking.call) ↔ taking ∈ window.takings := by
    rw [List.mem_filter, beq_self_eq_true, eq_self, and_true]
  rw [← own, shares.once, Option.mem_toList, Option.map_eq_some_iff]
  constructor
  · rintro ⟨slot, found, same⟩
    rw [found, ← same]
  · intro found
    exact ⟨taking.slot, found, rfl⟩

theorem Shares.takings_nodup (shares : Shares initial window) : window.takings.Nodup := by
  apply List.nodup_iff_count_le_one.mpr
  intro taking
  have own : (taking.call == taking.call) = true := beq_self_eq_true _
  rw [← List.count_filter (p := (·.call == taking.call)) own, shares.once]
  cases window.slotOf? taking.call with
  | none => exact Nat.zero_le 1
  | some slot => exact List.count_le_length

theorem Shares.answer_index (shares : Shares initial window) {call : Nat} {slot : Fin windowSize}
    {decision : Bool} (answered : window.calls[call]? = some (.answered slot decision)) :
    ∃ index : Nat, window.takings[index]? = some ⟨call, slot⟩ ∧
      window.decisions[index]? = some decision := by
  have taken : Taking.mk call slot ∈ window.takings :=
    shares.taking_mem_iff.mpr (slotOf?_of_found answered)
  obtain ⟨index, found⟩ := List.mem_iff_getElem?.mp taken
  refine ⟨index, found, ?_⟩
  unfold decisions
  rw [List.getElem?_map, found, shares.decided call slot decision answered, ← shares.accepts]
  rfl

theorem Shares.takings_perm (shares : Shares initial window) :
    window.takings.Perm window.takingsByCall := by
  have distinct : window.takingsByCall.Nodup := by
    apply List.Nodup.filterMap _ List.nodup_range
    intro call other taking isOwn isOther
    obtain ⟨_, _, own⟩ := Option.map_eq_some_iff.mp isOwn
    obtain ⟨_, _, others⟩ := Option.map_eq_some_iff.mp isOther
    exact congrArg Taking.call (own.trans others.symm)
  -- Neither list has duplicates, so it is enough that they have the same members.
  apply (List.perm_ext_iff_of_nodup shares.takings_nodup distinct).mpr
  intro taking
  unfold takingsByCall
  rw [shares.taking_mem_iff, List.mem_filterMap]
  constructor
  · intro found
    refine ⟨taking.call, ?_, by rw [found]; rfl⟩
    obtain ⟨stage, isStage, _⟩ := Option.bind_eq_some_iff.mp found
    exact List.mem_range.mpr (List.getElem?_eq_some_iff.mp isStage).1
  · rintro ⟨call, _, isOwn⟩
    obtain ⟨slot, found, rfl⟩ := Option.map_eq_some_iff.mp isOwn
    exact found

theorem length_answers (returned : ∀ stage ∈ window.calls, stage.answer?.isSome = true) :
    window.answers.length = window.calls.length :=
  List.filterMap_length_eq_length.mpr returned

/-- When all calls have returned, their answers are the decisions in another order. -/
theorem Shares.answers_perm (shares : Shares initial window)
    (returned : ∀ stage ∈ window.calls, stage.answer?.isSome = true) :
    window.answers.Perm window.decisions := by
  have bySlot : ∀ stage ∈ window.calls, stage.answer? = stage.slot?.map window.accepts := by
    intro stage member
    have isReturned := returned stage member
    obtain ⟨call, found⟩ := List.mem_iff_getElem?.mp member
    cases stage with
    | started => cases isReturned
    | read slot => cases isReturned
    | taken slot => cases isReturned
    | answered slot decision =>
        rw [shares.decided call slot decision found, ← shares.accepts]
        rfl
  have answers : window.answers = window.takingsByCall.map (window.accepts ·.slot) := by
    unfold answers takingsByCall
    rw [List.filterMap_congr bySlot, Lists.filterMap_eq_range, List.map_filterMap]
    apply List.filterMap_congr
    intro call _
    rw [Option.map_map]
    exact Option.map_bind.symm
  rw [answers]
  exact (shares.takings_perm.map _).symm

end Decisions

/-- Each call on a counting sampler takes one slot and returns its decision, which is the bit
of the slot in the word that the draws gave.  The decisions come in a cycle of a hundred, and
any hundred of them in a row accept as often as slots were chosen. -/
theorem share_of_calls {rate : Binary} {draw : Nat → Nat} {sampler : WindowSampler}
    (accepted : WindowSampler.ofRate rate draw = .ok sampler) (steps : List CallStep) :
    let window := (first sampler).run steps
    let share := sampler.perWindow
    let total := window.takings.length
    (share = slotCount rate ∧ 1 ≤ share ∧ share ≤ 99) ∧
    (∀ call, window.takings.filter (·.call == call) =
      ((window.slotOf? call).map (Taking.mk call)).toList) ∧
    (∀ (call : Nat) slot decision, window.calls[call]? = some (.answered slot decision) →
      ∃ index : Nat, window.takings[index]? = some ⟨call, slot⟩ ∧
        window.decisions[index]? = some decision) ∧
    window.decisions = (List.range total).map
      (fun index => (mask share draw).getLsbD (index % 100)) ∧
    (∀ index, index + 100 < total →
      window.decisions[index + 100]? = window.decisions[index]?) ∧
    (∀ start, start + 100 ≤ total →
      ((window.decisions.drop start).take 100).count true = share) ∧
    (total / 100 * share ≤ window.decisions.count true ∧
      window.decisions.count true ≤ (total + 99) / 100 * share) ∧
    ((∀ stage ∈ window.calls, stage.answer?.isSome = true) →
      window.calls.length = total ∧ window.answers.Perm window.decisions) := by
  intro window share total
  obtain ⟨_, isCount⟩ := ofRate_inv accepted
  obtain ⟨positive, below⟩ := slotCount_bounds rate
  have shares : Shares sampler window := run_shares (first_shares sampler) steps
  have isShare : share = slotCount rate := by
    change sampler.perWindow = _
    rw [isCount]
    exact perWindow_ofCount (Nat.le_of_lt below) draw
  have byBit : ∀ index, sampler.decision index = (mask share draw).getLsbD (index % 100) := by
    intro index
    rw [isShare, getLsbD_mask (Nat.le_of_lt below), decision_eq, isCount]
    change _ = (ofCount _ draw).chosen.contains (index % windowSize)
    rw [show (ofCount (slotCount rate) draw).next.val = 0 from rfl, Nat.zero_add]
  refine ⟨⟨isShare, by omega, by unfold windowSize at below; omega⟩, shares.once,
    fun call slot decision => shares.answer_index, ?_, ?_, ?_, ?_, ?_⟩
  · rw [shares.decisions_eq, funext byBit]
  · intro index inside
    have inTotal : index < total := by omega
    rw [shares.decisions_eq, List.getElem?_map, List.getElem?_map, List.getElem?_range inside,
      List.getElem?_range inTotal]
    exact congrArg some (sampler.decision_periodic index)
  · intro start inside
    rw [shares.decisions_eq]
    exact count_stretch sampler.countP_decision inside
  · have counted : window.decisions.count true = (List.range' 0 total).countP sampler.decision := by
      rw [shares.decisions_eq, List.range_eq_range', List.count, List.countP_map]
      congr 1
      funext index
      exact beq_true _
    rw [counted]
    exact countP_between sampler.countP_decision (by decide) total
  · intro returned
    have answers := shares.answers_perm returned
    refine ⟨?_, answers⟩
    rw [← length_answers returned, answers.length_eq, shares.length_decisions]

/-- Of two calls that read the same position the faster one takes its slot, and the other
one tries again with the next. -/
theorem share_of_two_calls :
    let half : Binary := .finite false 8388608 (-24)
    let sampler := ofCount 50 fun _ => 0
    let window := (first sampler).run [.start .none, .start .none, .read 0 ⟨0, by decide⟩,
      .read 1 ⟨0, by decide⟩, .exchange 1, .exchange 0, .exchange 0, .answer 0, .answer 1]
    WindowSampler.ofRate half (fun _ => 0) = .ok sampler ∧
      sampler.perWindow = 50 ∧ window.takings.map Taking.call = [1, 0] ∧
      window.answers.Perm window.decisions := by
  have count : slotCount (.finite false 8388608 (-24)) = 50 := by decide
  have accepted : WindowSampler.ofRate (.finite false 8388608 (-24)) (fun _ => 0) =
      .ok (ofCount 50 fun _ => 0) := by
    unfold WindowSampler.ofRate
    rw [if_pos (by decide), count]
  obtain ⟨⟨share, _⟩, _, _, _, _, _, _, whole⟩ := share_of_calls accepted
    [.start .none, .start .none, .read 0 ⟨0, by decide⟩, .read 1 ⟨0, by decide⟩,
      .exchange 1, .exchange 0, .exchange 0, .answer 0, .answer 1]
  exact ⟨accepted, share.trans count, rfl, (whole (by decide +kernel)).2⟩

end SharedWindow

end SpanTrail
