import SpanTrail.Proofs.Lists
import SpanTrail.Proofs.Scope.Tower

/-! Threads that start and close scopes in any order.  The stack of a thread is always
a tower above the stack it began with, whose open layers are the scopes that the
thread still holds and that found room. -/

namespace SpanTrail

inductive ScopeStep where
  | start (context : Option Context)
  | close (number : Nat) (unwinding : Bool)

/-- A scope that was started and not closed yet.  It counts if the stack had fewer
than 65534 slots when it was started. -/
structure HeldScope where
  number : Nat
  context : Option Context
  scope : Scope
  counts : Bool
  deriving DecidableEq

structure ScopeThread where
  stack : ScopeStack
  started : Nat
  held : List HeldScope

namespace ScopeThread

def onStack (stack : ScopeStack) : ScopeThread :=
  ⟨stack, 0, []⟩

def start (thread : ScopeThread) (context : Option Context) : ScopeThread :=
  let opening := Scope.start thread.stack context
  { stack := opening.stack
    started := thread.started + 1
    held :=
      ⟨thread.started, context, opening.scope, thread.stack.slots.size < 65534⟩ :: thread.held }

/-- Closes a scope that the thread holds.  A scope is closed once, so any other number
changes nothing. -/
def close (policy : ScopePolicy) (thread : ScopeThread) (number : Nat) (unwinding : Bool) :
    ScopeThread :=
  match thread.held.find? fun held => held.number == number with
  | none => thread
  | some held =>
      { thread with
        stack := (held.scope.close policy unwinding thread.stack).stack
        held := thread.held.eraseP fun held => held.number == number }

def step (policy : ScopePolicy) (thread : ScopeThread) : ScopeStep → ScopeThread
  | .start context => thread.start context
  | .close number unwinding => thread.close policy number unwinding

def run (policy : ScopePolicy) (thread : ScopeThread) (steps : List ScopeStep) : ScopeThread :=
  steps.foldl (step policy) thread

def inEffect (thread : ScopeThread) : List HeldScope :=
  thread.held.filter HeldScope.counts

/-! ### The invariant -/

/-- A thread whose stack is a tower above a base.  The open layers of the tower are
the scopes in effect; every other scope has the position of those without room. -/
structure Stands (base : ScopeStack) (thread : ScopeThread) (tower : Tower) : Prop where
  stack_eq : thread.stack = tower.stack base
  fits : base.slots.size + tower.layers.length < ScopeStack.noPosition
  inEffect_eq : thread.inEffect.map (fun held => (held.scope, held.context)) =
    (Tower.openings tower.layers).map fun opening =>
      (.opened (base.slots.size + opening.1) opening.2, opening.2)
  without : ∀ held ∈ thread.held, held.counts = false →
    ∃ expected, held.scope = .opened ScopeStack.noPosition expected

variable {base : ScopeStack} {thread : ScopeThread} {tower : Tower}

theorem onStack_stands (fits : base.slots.size < ScopeStack.noPosition) :
    Stands base (onStack base) .ground where
  stack_eq := rfl
  fits := fits
  inEffect_eq := rfl
  without := by
    intro held found
    cases found

theorem Stands.size_eq (stands : Stands base thread tower) :
    thread.stack.slots.size = base.slots.size + tower.layers.length := by
  rw [stands.stack_eq, Tower.stack_size]

/-- Without room nothing changes, and the position is that of no scope. -/
theorem start_full {stack : ScopeStack} (full : stack.hasRoom = false)
    (context : Option Context) :
    Scope.start stack context =
      ⟨stack, .opened ScopeStack.noPosition stack.current, [.scopesExhausted]⟩ := by
  simp [Scope.start, ScopeStack.push, full]

theorem start_roomy {stack : ScopeStack} (room : stack.hasRoom = true)
    (context : Option Context) :
    Scope.start stack context =
      ⟨(stack.push context).1, .opened (stack.slots.size + 1) context, []⟩ := by
  simp [Scope.start, ScopeStack.push, room]

theorem hasRoom_eq (stack : ScopeStack) :
    stack.hasRoom = decide (stack.slots.size < 65534) := by
  have same : stack.slots.size + 1 < 65535 ↔ stack.slots.size < 65534 := by omega
  simp only [ScopeStack.hasRoom, ScopeStack.noPosition, same]

theorem start_stands (stands : Stands base thread tower) (context : Option Context) :
    ∃ raised, Stands base (thread.start context) raised := by
  cases room : thread.stack.hasRoom with
  | false =>
      have counts : decide (thread.stack.slots.size < 65534) = false := by
        rw [← hasRoom_eq, room]
      refine ⟨tower, ?_, stands.fits, ?_, ?_⟩
      · simp only [start, start_full room]
        exact stands.stack_eq
      · have same : (thread.start context).inEffect = thread.inEffect := by
          simp only [start, inEffect, counts, List.filter_cons, Bool.false_eq_true, if_false]
        rw [same]
        exact stands.inEffect_eq
      · intro held found uncounted
        simp only [start, start_full room] at found
        rcases List.mem_cons.mp found with here | older
        · exact ⟨thread.stack.current, by rw [here]⟩
        · exact stands.without held older uncounted
  | true =>
      have counts : decide (thread.stack.slots.size < 65534) = true := by
        rw [← hasRoom_eq, room]
      have pushed := Tower.push_stack base tower context (by rw [← stands.stack_eq, room])
      refine ⟨tower.raise context, ?_, ?_, ?_, ?_⟩
      · simp only [start, start_roomy room]
        rw [stands.stack_eq, pushed]
      · have below := (Tower.hasRoom_iff thread.stack).mp room
        rw [stands.size_eq] at below
        simp only [Tower.raise, List.length_cons]
        omega
      · have added : (thread.start context).inEffect =
            ⟨thread.started, context, .opened (thread.stack.slots.size + 1) context, true⟩ ::
              thread.inEffect := by
          simp only [start, start_roomy room, inEffect, counts, List.filter_cons, if_true]
        rw [added, List.map_cons, stands.inEffect_eq, stands.size_eq]
        simp only [Tower.raise, Tower.openings, if_true, List.map_cons, Nat.add_assoc]
      · intro held found uncounted
        simp only [start] at found
        rcases List.mem_cons.mp found with here | older
        · rw [here] at uncounted
          simp only [counts] at uncounted
          cases uncounted
        · exact stands.without held older uncounted

theorem close_stack (policy : ScopePolicy) (unwinding : Bool) (position : Nat)
    (expected : Option Context) (stack : ScopeStack) :
    ((Scope.opened position expected).close policy unwinding stack).stack =
      (stack.release position).1 := by
  cases policy <;> rfl

theorem release_noPosition (stack : ScopeStack) :
    stack.release ScopeStack.noPosition = (stack, .notOpen) := by
  simp [ScopeStack.release]

/-- A scope in effect is one of the open layers, which lie between newer and older ones. -/
theorem Stands.split (stands : Stands base thread tower) {newer older : List HeldScope}
    {held : HeldScope} (split : thread.inEffect = newer ++ held :: older) :
    ∃ above height below,
      Tower.openings tower.layers = above ++ (height, held.context) :: below ∧
      held.scope = .opened (base.slots.size + height) held.context ∧
      newer.map (fun held => (held.scope, held.context)) =
        above.map (fun opening => (.opened (base.slots.size + opening.1) opening.2, opening.2)) ∧
      older.map (fun held => (held.scope, held.context)) =
        below.map fun opening => (.opened (base.slots.size + opening.1) opening.2, opening.2) := by
  have listed := stands.inEffect_eq
  rw [split, List.map_append, List.map_cons] at listed
  obtain ⟨above, rest, parts, sameNewer, sameRest⟩ := List.map_eq_append_iff.mp listed.symm
  obtain ⟨⟨height, context⟩, below, restParts, sameHeld, sameOlder⟩ :=
    List.map_eq_cons_iff.mp sameRest
  simp only [Prod.mk.injEq] at sameHeld
  obtain ⟨sameScope, sameContext⟩ := sameHeld
  refine ⟨above, height, below, ?_, ?_, sameNewer.symm, sameOlder.symm⟩
  · rw [parts, restParts, sameContext]
  · rw [← sameScope, sameContext]

/-- Heights tell the open layers apart, so leaving one out leaves the others. -/
theorem filter_openings {layers : List Layer} {above below : List (Nat × Option Context)}
    {height : Nat} {context : Option Context}
    (parts : Tower.openings layers = above ++ (height, context) :: below) :
    (Tower.openings layers).filter (fun opening => opening.1 ≠ height) = above ++ below := by
  have heights := Tower.openings_heights layers
  rw [parts] at heights ⊢
  obtain ⟨_, lower, higher⟩ := List.pairwise_append.mp heights
  rw [List.filter_append, List.filter_cons_of_neg (by simp)]
  congr 1
  · apply List.filter_eq_self.mpr
    intro opening found
    have greater := higher opening found (height, context) List.mem_cons_self
    simp only [ne_eq, decide_eq_true_eq]
    omega
  · apply List.filter_eq_self.mpr
    intro opening found
    have smaller := (List.pairwise_cons.mp lower).1 opening found
    simp only [ne_eq, decide_eq_true_eq]
    omega

theorem close_cases (policy : ScopePolicy) (thread : ScopeThread) (number : Nat)
    (unwinding : Bool) :
    thread.close policy number unwinding = thread ∨
      ∃ newer held older, thread.held = newer ++ held :: older ∧
        thread.close policy number unwinding =
          ⟨(held.scope.close policy unwinding thread.stack).stack, thread.started,
            newer ++ older⟩ := by
  unfold close
  cases found : thread.held.find? fun held => held.number == number with
  | none => exact .inl rfl
  | some held =>
      obtain ⟨newer, older, parts, remaining⟩ := Lists.exists_of_find? found
      refine .inr ⟨newer, held, older, parts, ?_⟩
      simp only [remaining]

theorem close_held (policy : ScopePolicy) (thread : ScopeThread) (number : Nat)
    (unwinding : Bool) :
    (thread.close policy number unwinding).held =
      thread.held.eraseP fun held => held.number == number := by
  unfold close
  cases found : thread.held.find? fun held => held.number == number with
  | none =>
      have others := List.find?_eq_none.mp found
      exact (List.eraseP_of_forall_not others).symm
  | some held => rfl

/-- A scope that is taken out of those that are held lowers the tower, if it counts. -/
theorem remove_stands (policy : ScopePolicy) (stands : Stands base thread tower)
    {newer older : List HeldScope} {held : HeldScope}
    (parts : thread.held = newer ++ held :: older) (unwinding : Bool) :
    ∃ lowered, Stands base
      ⟨(held.scope.close policy unwinding thread.stack).stack, thread.started, newer ++ older⟩
      lowered := by
  have stays : ∀ other ∈ newer ++ older, other ∈ thread.held := by
    intro other member
    rw [parts]
    exact Lists.mem_around.mpr (.inr member)
  have without : ∀ other ∈ newer ++ older, other.counts = false →
      ∃ expected, other.scope = .opened ScopeStack.noPosition expected :=
    fun other member => stands.without other (stays other member)
  cases counts : held.counts with
  | false =>
      have isHeld : held ∈ thread.held := parts ▸ List.mem_append_right _ List.mem_cons_self
      -- A scope that found no room has no layer, and its release finds no position.
      obtain ⟨expected, scope⟩ := stands.without held isHeld counts
      refine ⟨tower, ?_, stands.fits, ?_, without⟩
      · rw [scope, close_stack, release_noPosition]
        exact stands.stack_eq
      · have same : (newer ++ older).filter HeldScope.counts = thread.inEffect := by
          rw [inEffect, parts, List.filter_append, List.filter_append,
            List.filter_cons_of_neg (by simp [counts])]
        simp only [inEffect, same]
        exact stands.inEffect_eq
  | true =>
      have split : thread.inEffect =
          newer.filter HeldScope.counts ++ held :: older.filter HeldScope.counts := by
        rw [inEffect, parts, List.filter_append, List.filter_cons_of_pos counts]
      obtain ⟨above, height, below, openings, scope, sameNewer, sameOlder⟩ := stands.split split
      have isOpen : (height, held.context) ∈ Tower.openings tower.layers := by
        rw [openings]
        exact List.mem_append_right _ List.mem_cons_self
      refine ⟨tower.lower height, ?_, ?_, ?_, without⟩
      · rw [scope, close_stack, stands.stack_eq, Tower.release_stack isOpen stands.fits]
      · exact Nat.lt_of_le_of_lt
          (Nat.add_le_add_left (Tower.lower_length_le tower height) _) stands.fits
      · rw [Tower.openings_lower, filter_openings openings]
        simp only [inEffect, List.filter_append, List.map_append, sameNewer, sameOlder]

theorem close_stands (policy : ScopePolicy) (stands : Stands base thread tower) (number : Nat)
    (unwinding : Bool) : ∃ lowered, Stands base (thread.close policy number unwinding) lowered := by
  rcases close_cases policy thread number unwinding with
    same | ⟨newer, held, older, parts, closed⟩
  · rw [same]
    exact ⟨tower, stands⟩
  · rw [closed]
    exact remove_stands policy stands parts unwinding

theorem step_stands (policy : ScopePolicy) (stands : Stands base thread tower)
    (step : ScopeStep) : ∃ changed, Stands base (thread.step policy step) changed := by
  cases step with
  | start context => exact start_stands stands context
  | close number unwinding => exact close_stands policy stands number unwinding

/-- Whatever a thread does with its scopes, its stack stays a tower. -/
theorem run_stands (policy : ScopePolicy) (steps : List ScopeStep)
    (stands : Stands base thread tower) :
    ∃ changed, Stands base (thread.run policy steps) changed := by
  induction steps generalizing thread tower with
  | nil => exact ⟨tower, stands⟩
  | cons step rest ih =>
      obtain ⟨changed, after⟩ := step_stands policy stands step
      exact ih after

structure Numbered (thread : ScopeThread) : Prop where
  newestFirst : thread.held.Pairwise fun newer older => older.number < newer.number
  before : ∀ held ∈ thread.held, held.number < thread.started

theorem onStack_numbered (stack : ScopeStack) : Numbered (onStack stack) where
  newestFirst := .nil
  before := by
    intro held found
    cases found

theorem close_started (policy : ScopePolicy) (thread : ScopeThread) (number : Nat)
    (unwinding : Bool) : (thread.close policy number unwinding).started = thread.started := by
  rcases close_cases policy thread number unwinding with
    same | ⟨newer, held, older, parts, closed⟩
  · rw [same]
  · rw [closed]

theorem Numbered.start (numbered : Numbered thread) (context : Option Context) :
    Numbered (thread.start context) := by
  refine ⟨numbered.newestFirst.cons numbered.before, ?_⟩
  intro held found
  rcases List.mem_cons.mp found with here | older
  · rw [here]
    exact Nat.lt_succ_self _
  · exact Nat.lt_succ_of_lt (numbered.before held older)

theorem Numbered.close (numbered : Numbered thread) (policy : ScopePolicy) (number : Nat)
    (unwinding : Bool) : Numbered (thread.close policy number unwinding) := by
  have remaining := close_held policy thread number unwinding
  constructor
  · rw [remaining]
    exact numbered.newestFirst.sublist List.eraseP_sublist
  · intro held found
    rw [remaining] at found
    rw [close_started]
    exact numbered.before held (List.mem_of_mem_eraseP found)

theorem Numbered.step (numbered : Numbered thread) (policy : ScopePolicy) (step : ScopeStep) :
    Numbered (thread.step policy step) := by
  cases step with
  | start context => exact numbered.start context
  | close number unwinding => exact numbered.close policy number unwinding

theorem Numbered.run (numbered : Numbered thread) (policy : ScopePolicy)
    (steps : List ScopeStep) : Numbered (thread.run policy steps) := by
  induction steps generalizing thread with
  | nil => exact numbered
  | cons step rest ih => exact ih (numbered.step policy step)

theorem Numbered.number_ne (numbered : Numbered thread) (policy : ScopePolicy) {number : Nat}
    {unwinding : Bool} {held : HeldScope}
    (left : held ∈ (thread.close policy number unwinding).held) : held.number ≠ number := by
  rw [close_held] at left
  intro same
  cases found : thread.held.find? fun held => held.number == number with
  | none =>
      have other := List.find?_eq_none.mp found held (List.mem_of_mem_eraseP left)
      exact other (beq_iff_eq.mpr same)
  | some closed =>
      have isClosed : closed.number = number := by simpa using List.find?_some found
      obtain ⟨newer, older, parts, remaining⟩ := Lists.exists_of_find? found
      have ordered := numbered.newestFirst
      rw [parts] at ordered
      obtain ⟨_, olderLess, newerGreater⟩ := List.pairwise_append.mp ordered
      rw [remaining] at left
      rcases List.mem_append.mp left with isNewer | isOlder
      · have greater := newerGreater held isNewer closed List.mem_cons_self
        omega
      · have less := (List.pairwise_cons.mp olderLess).1 held isOlder
        omega

end ScopeThread

theorem Scope.start_current {stack : ScopeStack} (room : stack.hasRoom = true)
    (context : Option Context) : (start stack context).stack.current = context := by
  rw [ScopeThread.start_roomy room]
  unfold ScopeStack.push
  rw [if_pos room]

end SpanTrail
