import SpanTrail.Proofs.Scope.Thread

/-! Scopes released in any order.  What is current is always the context of the newest scope that
is still open, and a release is in order exactly if it is of that scope.  Both policies do the
same to the stack, and the strict one crashes exactly on the releases that are not in order,
unless the releasing code is crashing already. -/

namespace SpanTrail.ScopeThread

variable {base : ScopeStack} {thread : ScopeThread} {tower : Tower}

theorem Stands.current_eq (stands : Stands base thread tower) :
    thread.stack.current = (thread.inEffect.head?.map HeldScope.context).getD base.current := by
  have heads := congrArg (fun list => list.head?.map Prod.snd) stands.inEffect_eq
  simp only [List.head?_map, Option.map_map] at heads
  have same : thread.inEffect.head?.map HeldScope.context =
      (Tower.openings tower.layers).head?.map Prod.snd := heads
  rw [stands.stack_eq, Tower.stack_current, same]

/-- Once no scope is open any more, the stack is what it was before the first one. -/
theorem Stands.stack_eq_base (stands : Stands base thread tower) (none : thread.inEffect = []) :
    thread.stack = base := by
  have listed := stands.inEffect_eq
  rw [none, List.map_nil] at listed
  have empty := Tower.layers_eq_nil (List.map_eq_nil_iff.mp listed.symm)
  rw [stands.stack_eq]
  simp only [Tower.stack, empty, Tower.newest, Tower.slots, Array.toArray_toList]

/-- Releasing a scope in effect is in order exactly if no newer scope is.  Otherwise the
slot that becomes a hole lies within the stack. -/
theorem Stands.release_inEffect (stands : Stands base thread tower)
    {newer older : List HeldScope} {held : HeldScope}
    (split : thread.inEffect = newer ++ held :: older) :
    ∃ position, held.scope = .opened position held.context ∧
      (thread.stack.release position).2 = (if newer = [] then .inOrder else .outOfOrder) ∧
      (newer ≠ [] → position < thread.stack.slots.size) := by
  obtain ⟨above, height, below, openings, scope, sameNewer, _⟩ := stands.split split
  have isOpen : (height, held.context) ∈ Tower.openings tower.layers := by
    rw [openings]
    exact List.mem_append_right _ List.mem_cons_self
  have atTop : height = tower.layers.length ↔ newer = [] := by
    have lengths := congrArg List.length sameNewer
    rw [List.length_map, List.length_map] at lengths
    rw [Tower.height_eq_length_iff isOpen, ← List.length_eq_zero_iff, lengths,
      List.length_eq_zero_iff, openings]
    constructor
    · intro first
      cases above with
      | nil => rfl
      | cons opening rest =>
          -- The heights go down from the first opening, so only that one is at the top.
          have heights := Tower.openings_heights tower.layers
          rw [openings, List.cons_append] at heights
          have higher := (List.pairwise_cons.mp heights).1 (height, held.context)
            (List.mem_append_right _ List.mem_cons_self)
          simp only [List.cons_append, List.head?_cons, Option.some.injEq] at first
          rw [first] at higher
          exact absurd higher (Nat.lt_irrefl height)
    · intro none
      rw [none]
      rfl
  refine ⟨base.slots.size + height, scope, ?_, ?_⟩
  · rw [stands.stack_eq, Tower.release_stack isOpen stands.fits]
    by_cases none : newer = []
    · rw [if_pos none, if_pos (atTop.mpr none)]
    · rw [if_neg none, if_neg (fun same => none (atTop.mp same))]
  · intro some
    have bounds := Tower.openings_bounds isOpen
    have below : height ≠ tower.layers.length := fun same => some (atTop.mp same)
    rw [stands.size_eq]
    omega

/-- A thread may start scopes and close them in any order under the lenient policy.
What is current is the context of the newest scope in effect, and nothing without one.
A release is in order exactly if nothing newer is in effect, and is warned about
otherwise; it never reaches beyond the stack.  With the last scope in effect the
stack is empty again.  A scope without room changes nothing, neither when it is started
nor when it is closed. -/
theorem lenient_any_order (steps : List ScopeStep) :
    let thread := (onStack .empty).run .lenient steps
    thread.stack.current = (thread.inEffect.head?.map HeldScope.context).getD none ∧
      (thread.inEffect = [] → thread.stack = .empty) ∧
      (∀ newer held older, thread.inEffect = newer ++ held :: older →
        ∃ position, held.scope = .opened position held.context ∧
          (thread.stack.release position).2 = (if newer = [] then .inOrder else .outOfOrder) ∧
          (newer ≠ [] → position < thread.stack.slots.size) ∧
          ∀ unwinding, (held.scope.close .lenient unwinding thread.stack).events =
            if newer = [] then [] else [.scopeOutOfOrder position]) ∧
      (∀ held ∈ thread.held, held.counts = false →
        ∃ position expected, held.scope = .opened position expected ∧
          thread.stack.release position = (thread.stack, .notOpen) ∧
          ∀ unwinding, held.scope.close .lenient unwinding thread.stack =
            ⟨thread.stack, [.scopeNotOpen position], none⟩) ∧
      ∀ context, 65534 ≤ thread.stack.slots.size →
        (Scope.start thread.stack context).stack = thread.stack := by
  intro thread
  obtain ⟨tower, stands⟩ : ∃ tower, Stands .empty thread tower :=
    run_stands .lenient steps (onStack_stands (by decide))
  refine ⟨stands.current_eq, stands.stack_eq_base, ?_, ?_, ?_⟩
  · intro newer held older split
    obtain ⟨position, scope, outcome, within⟩ := stands.release_inEffect split
    refine ⟨position, scope, outcome, within, ?_⟩
    intro unwinding
    rw [scope]
    change Scope.warnings position (thread.stack.release position).2 = _
    rw [outcome]
    split
    · rfl
    · rfl
  · intro held isHeld uncounted
    obtain ⟨expected, scope⟩ := stands.without held isHeld uncounted
    refine ⟨ScopeStack.noPosition, expected, scope, release_noPosition thread.stack, ?_⟩
    intro unwinding
    rw [scope]
    simp only [Scope.close, release_noPosition, Scope.warnings]
  · intro context full
    have noRoom : thread.stack.hasRoom = false := by
      rw [hasRoom_eq, decide_eq_false_iff_not]
      omega
    rw [start_full noRoom]

end SpanTrail.ScopeThread

namespace SpanTrail

/-- The stack after a release does not depend on the policy, nor on whether the releasing
code is crashing. -/
theorem Scope.close_stack_policy (left right : ScopePolicy) (leftUnwinding rightUnwinding : Bool)
    (scope : Scope) (stack : ScopeStack) :
    (scope.close left leftUnwinding stack).stack =
      (scope.close right rightUnwinding stack).stack := by
  cases scope with
  | idle => rfl
  | opened position expected => rw [ScopeThread.close_stack, ScopeThread.close_stack]

namespace ScopeThread

theorem step_policy (left right : ScopePolicy) (thread : ScopeThread) (step : ScopeStep) :
    thread.step left step = thread.step right step := by
  cases step with
  | start context => rfl
  | close number unwinding =>
      change thread.close left number unwinding = thread.close right number unwinding
      unfold close
      cases thread.held.find? fun held => held.number == number with
      | none => rfl
      | some held =>
          dsimp only
          rw [Scope.close_stack_policy left right unwinding unwinding]

theorem run_policy (left right : ScopePolicy) (thread : ScopeThread) (steps : List ScopeStep) :
    thread.run left steps = thread.run right steps := by
  induction steps generalizing thread with
  | nil => rfl
  | cons step rest ih =>
      change (thread.step left step).run left rest = (thread.step right step).run right rest
      rw [step_policy left right, ih]

/-- Whether every scope that is started finds room. -/
def FindsRoom (policy : ScopePolicy) : ScopeThread → List ScopeStep → Prop
  | _, [] => True
  | thread, .start context :: rest =>
      thread.stack.slots.size < 65534 ∧ FindsRoom policy (thread.start context) rest
  | thread, .close number unwinding :: rest =>
      FindsRoom policy (thread.close policy number unwinding) rest

variable {thread : ScopeThread} {tower : Tower}

theorem run_counts {policy : ScopePolicy} {steps : List ScopeStep}
    (roomy : FindsRoom policy thread steps) (counts : ∀ held ∈ thread.held, held.counts = true) :
    ∀ held ∈ (thread.run policy steps).held, held.counts = true := by
  induction steps generalizing thread with
  | nil => exact counts
  | cons step rest ih =>
      cases step with
      | start context =>
          apply ih roomy.2
          intro held found
          rcases List.mem_cons.mp found with here | older
          · rw [here]
            exact decide_eq_true roomy.1
          · exact counts held older
      | close number unwinding =>
          apply ih roomy
          intro held found
          rw [close_held] at found
          exact counts held (List.mem_of_mem_eraseP found)

theorem inEffect_eq_held (counts : ∀ held ∈ thread.held, held.counts = true) :
    thread.inEffect = thread.held :=
  List.filter_eq_self.mpr counts

/-! ### Crashes -/

def outOfOrderText (context : Option Context) : String :=
  "scope for " ++ Scope.describeCurrent context ++ " closed out of order"

/-- A release that is in order finds the context of its scope, so the strict policy crashes
on no release but those that are out of order. -/
theorem Stands.crash_eq (stands : Stands .empty thread tower) {newer older : List HeldScope}
    {held : HeldScope} (split : thread.inEffect = newer ++ held :: older) (unwinding : Bool) :
    (held.scope.close .strict unwinding thread.stack).crash =
      if unwinding = true ∨ newer = [] then none else some (outOfOrderText held.context) := by
  obtain ⟨position, scope, outcome, _⟩ := stands.release_inEffect split
  rw [scope]
  change (if unwinding = true then none
    else Scope.crash? held.context thread.stack.current (thread.stack.release position).2) = _
  rw [outcome]
  cases unwinding with
  | true => rfl
  | false =>
      by_cases innermost : newer = []
      · have current : thread.stack.current = held.context := by
          rw [stands.current_eq, split, innermost]
          rfl
        have crash : Scope.crash? held.context held.context .inOrder = none := if_pos rfl
        rw [if_pos innermost, if_neg Bool.false_ne_true, current, crash]
        exact (if_pos (Or.inr innermost)).symm
      · have crashes : ¬(false = true ∨ newer = []) := by simpa using innermost
        rw [if_neg innermost, if_neg Bool.false_ne_true, if_neg crashes]
        rfl

/-- A thread may start scopes and close them in any order under the strict policy, as long as
every scope finds room.  Then closing a scope that it still holds crashes exactly if a newer
one is held, and always with the same text; the scope that is released in order finds its
own context.  Code that is crashing already never crashes so.  The thread is all the time the
one of the lenient policy, and closing any scope leaves the stack that this one would. -/
theorem strict_crashes_iff_newer (steps : List ScopeStep)
    (roomy : FindsRoom .strict (onStack .empty) steps) :
    let thread := (onStack .empty).run .strict steps
    (∀ newer held older, thread.held = newer ++ held :: older →
      (∀ text, (held.scope.close .strict false thread.stack).crash = some text ↔
        newer ≠ [] ∧ text = outOfOrderText held.context) ∧
      (held.scope.close .strict true thread.stack).crash = none ∧
      ∃ position, held.scope = .opened position held.context ∧
        ((thread.stack.release position).2 = .inOrder ↔ newer = []) ∧
        ((thread.stack.release position).2 = .inOrder → thread.stack.current = held.context)) ∧
    thread = (onStack .empty).run .lenient steps ∧
    ∀ held ∈ thread.held, ∀ unwinding,
      (held.scope.close .strict unwinding thread.stack).stack =
        (held.scope.close .lenient unwinding thread.stack).stack := by
  intro thread
  obtain ⟨tower, stands⟩ : ∃ tower, Stands .empty thread tower :=
    run_stands .strict steps (onStack_stands (by decide))
  have nothing : ∀ held ∈ (onStack .empty).held, held.counts = true := by
    intro held found
    cases found
  have inEffect : thread.inEffect = thread.held := inEffect_eq_held (run_counts roomy nothing)
  refine ⟨?_, run_policy .strict .lenient _ steps, ?_⟩
  · intro newer held older split
    rw [← inEffect] at split
    obtain ⟨position, scope, outcome, _⟩ := stands.release_inEffect split
    have inOrder : (thread.stack.release position).2 = .inOrder ↔ newer = [] := by
      rw [outcome]
      split
      · simpa
      · simpa
    refine ⟨?_, ?_, position, scope, inOrder, ?_⟩
    · intro text
      rw [stands.crash_eq split]
      by_cases innermost : newer = []
      · rw [if_pos (.inr innermost)]
        simp [innermost]
      · rw [if_neg (by simpa using innermost), Option.some.injEq]
        exact ⟨fun same => ⟨innermost, same.symm⟩, fun crash => crash.2.symm⟩
    · rw [stands.crash_eq split]
      rfl
    · intro released
      rw [stands.current_eq, split, inOrder.mp released]
      rfl
  · intro held _ unwinding
    exact Scope.close_stack_policy .strict .lenient unwinding unwinding held.scope thread.stack

/-- After the middle one of three scopes was closed, which crashed and left a hole, closing
the outermost crashes too, and closing the innermost does not. -/
theorem strict_crashes_around_hole :
    let context (number : UInt64) : Context := ⟨⟨0, number⟩, ⟨number⟩, none, .accepted, false⟩
    let steps : List ScopeStep :=
      [.start (some (context 1)), .start (some (context 2)), .start none, .close 1 false]
    let thread := (onStack .empty).run .strict steps
    FindsRoom .strict (onStack .empty) steps ∧
      ∃ innermost outermost, thread.held = [innermost, outermost] ∧
        (innermost.scope.close .strict false thread.stack).crash = none ∧
        (outermost.scope.close .strict false thread.stack).crash =
          some (outOfOrderText (some (context 1))) ∧
        (outermost.scope.close .strict true thread.stack).crash = none := by
  intro context steps thread
  have roomy : FindsRoom .strict (onStack .empty) steps := by
    refine ⟨by decide, by decide, by decide, trivial⟩
  have facts := (strict_crashes_iff_newer steps roomy).1
  obtain ⟨innermost, outermost, held, context⟩ : ∃ innermost outermost,
      thread.held = [innermost, outermost] ∧ outermost.context = some (context 1) :=
    ⟨_, _, rfl, rfl⟩
  obtain ⟨innerCrash, _⟩ := facts [] innermost [outermost] held
  obtain ⟨outerCrash, unwinding, _⟩ := facts [innermost] outermost [] held
  refine ⟨roomy, innermost, outermost, held, ?_, ?_, unwinding⟩
  · rw [Option.eq_none_iff_forall_ne_some]
    intro text crash
    exact ((innerCrash text).mp crash).1 rfl
  · rw [← context]
    exact (outerCrash _).mpr ⟨List.cons_ne_nil _ _, rfl⟩

end ScopeThread

end SpanTrail
