import SpanTrail.Proofs.Scope.Frames

/-! Programs of nested scopes, which are released in reverse order of opening.  Some of the
scopes may be opened only if their context is not current already.  Such a program sees the
same contexts as the one that opens all of its scopes, and leaves the same stack. -/

namespace SpanTrail

/-- A step of a program of nested scopes: it opens a scope, perhaps only if the context is
new, or it releases the innermost one. -/
inductive NestStep where
  | start (context : Option Context) (ifNew : Bool)
  | close (unwinding : Bool)

def NestStep.always : NestStep → NestStep
  | .start context _ => .start context false
  | .close unwinding => .close unwinding

def NestStep.openAfter (count : Nat) : NestStep → Nat
  | .start _ _ => count + 1
  | .close _ => count - 1

def mostOpen (count : Nat) : List NestStep → Nat
  | [] => count
  | step :: rest => max count (mostOpen (step.openAfter count) rest)

theorem le_mostOpen (count : Nat) (steps : List NestStep) : count ≤ mostOpen count steps := by
  cases steps with
  | nil => exact Nat.le_refl count
  | cons step rest => exact Nat.le_max_left ..

/-- A thread in a program of nested scopes: its stack, the open scopes with the innermost
first, what was current after each step, what was logged, and the crashes of releases. -/
structure NestedRun where
  stack : ScopeStack
  scopes : List Scope
  seen : List (Option Context)
  events : List Event
  crashes : List String

namespace NestedRun

def onStack (stack : ScopeStack) : NestedRun :=
  ⟨stack, [], [], [], []⟩

def start (run : NestedRun) (context : Option Context) (ifNew : Bool) : NestedRun :=
  let opening :=
    if ifNew then Scope.startIfNew run.stack context else Scope.start run.stack context
  { run with
    stack := opening.stack
    scopes := opening.scope :: run.scopes
    seen := run.seen ++ [opening.stack.current]
    events := run.events ++ opening.events }

def close (policy : ScopePolicy) (run : NestedRun) (unwinding : Bool) : NestedRun :=
  match run.scopes with
  | [] => run
  | scope :: outer =>
      let closing := scope.close policy unwinding run.stack
      { stack := closing.stack
        scopes := outer
        seen := run.seen ++ [closing.stack.current]
        events := run.events ++ closing.events
        crashes := run.crashes ++ closing.crash.toList }

def step (policy : ScopePolicy) (run : NestedRun) : NestStep → NestedRun
  | .start context ifNew => run.start context ifNew
  | .close unwinding => run.close policy unwinding

def run (policy : ScopePolicy) (run : NestedRun) (steps : List NestStep) : NestedRun :=
  steps.foldl (step policy) run

end NestedRun

/-- Scopes that stand one in the other on a stack, with the context that each has made
current.  A scope was given a slot, or it is idle because its context was current. -/
inductive Nested (base : ScopeStack) : ScopeStack → List Scope → List (Option Context) → Prop where
  | ground : Nested base base [] []
  | started {stack : ScopeStack} {scopes : List Scope} {contexts : List (Option Context)}
      (inner : Nested base stack scopes contexts) (room : stack.hasRoom = true)
      (context : Option Context) :
      Nested base (Scope.start stack context).stack
        ((Scope.start stack context).scope :: scopes) (context :: contexts)
  | skipped {stack : ScopeStack} {scopes : List Scope} {contexts : List (Option Context)}
      (inner : Nested base stack scopes contexts) :
      Nested base stack (.idle :: scopes) (stack.current :: contexts)

namespace Nested

variable {base stack : ScopeStack} {scopes : List Scope} {contexts : List (Option Context)}

/-- What is current depends on the contexts only, and not on which of the scopes are idle. -/
theorem current_eq (nested : Nested base stack scopes contexts) :
    stack.current = contexts.head?.getD base.current := by
  cases nested with
  | ground => rfl
  | started inner room context => exact Scope.start_current room context
  | skipped inner => rfl

theorem size_le (nested : Nested base stack scopes contexts) :
    stack.slots.size ≤ base.slots.size + contexts.length := by
  induction nested with
  | ground => exact Nat.le_refl _
  | started inner room context ih =>
      rw [Scope.start_size room, List.length_cons]
      omega
  | skipped inner ih =>
      rw [List.length_cons]
      omega

theorem length_eq (nested : Nested base stack scopes contexts) :
    scopes.length = contexts.length := by
  induction nested with
  | ground => rfl
  | started inner room context ih | skipped inner ih => exact congrArg (· + 1) ih

theorem eq_base (nested : Nested base stack [] contexts) : stack = base := by
  cases nested with
  | ground => rfl

/-- Whether a scope is opened in any case or only for a new context, the scopes stay one in
the other, and nothing is logged. -/
theorem start (nested : Nested base stack scopes contexts)
    (fits : base.slots.size + contexts.length < 65534) (context : Option Context) (ifNew : Bool) :
    let opening := if ifNew then Scope.startIfNew stack context else Scope.start stack context
    Nested base opening.stack (opening.scope :: scopes) (context :: contexts) ∧
      opening.events = [] := by
  intro opening
  have room : stack.hasRoom = true := by
    have below := nested.size_le
    rw [ScopeThread.hasRoom_eq, decide_eq_true_eq]
    omega
  have begun : Nested base (Scope.start stack context).stack
      ((Scope.start stack context).scope :: scopes) (context :: contexts) ∧
        (Scope.start stack context).events = [] := by
    refine ⟨nested.started room context, ?_⟩
    rw [ScopeThread.start_roomy room]
  cases ifNew with
  | false => exact begun
  | true =>
      by_cases current : stack.current = context
      · have isOpening : opening = ⟨stack, .idle, []⟩ := if_pos current
        subst current
        rw [isOpening]
        exact ⟨nested.skipped, rfl⟩
      · have isOpening : opening = Scope.start stack context := if_neg current
        rw [isOpening]
        exact begun

/-- Releasing the innermost scope is quiet, and gives back the stack around it. -/
theorem close {scope : Scope} (nested : Nested base stack (scope :: scopes) contexts)
    (policy : ScopePolicy) (unwinding : Bool) :
    ∃ around, scope.close policy unwinding stack = ⟨around, [], none⟩ ∧
      Nested base around scopes contexts.tail := by
  cases nested with
  | started inner room context =>
      exact ⟨_, Scope.close_start_roomy policy unwinding room context, inner⟩
  | skipped inner => exact ⟨_, rfl, inner⟩

end Nested

/-! ### Two runs -/

/-- Two runs with scopes for the same contexts, of which either may have idle ones. -/
structure Alike (base : ScopeStack) (contexts : List (Option Context))
    (left right : NestedRun) : Prop where
  leftNested : Nested base left.stack left.scopes contexts
  rightNested : Nested base right.stack right.scopes contexts
  seen : left.seen = right.seen
  events : left.events = [] ∧ right.events = []
  crashes : left.crashes = [] ∧ right.crashes = []

namespace Alike

variable {base : ScopeStack} {contexts : List (Option Context)} {left right : NestedRun}

theorem start (alike : Alike base contexts left right)
    (fits : base.slots.size + contexts.length < 65534) (context : Option Context)
    (leftIfNew rightIfNew : Bool) :
    Alike base (context :: contexts) (left.start context leftIfNew)
      (right.start context rightIfNew) := by
  obtain ⟨leftNested, leftQuiet⟩ := alike.leftNested.start fits context leftIfNew
  obtain ⟨rightNested, rightQuiet⟩ := alike.rightNested.start fits context rightIfNew
  refine ⟨leftNested, rightNested, ?_, ⟨?_, ?_⟩, alike.crashes⟩
  · simp only [NestedRun.start, alike.seen, leftNested.current_eq, rightNested.current_eq]
  · simp only [NestedRun.start, alike.events.1, leftQuiet, List.append_nil]
  · simp only [NestedRun.start, alike.events.2, rightQuiet, List.append_nil]

theorem close (alike : Alike base contexts left right) (policy : ScopePolicy)
    (unwinding : Bool) :
    Alike base contexts.tail (left.close policy unwinding) (right.close policy unwinding) := by
  obtain ⟨leftNested, rightNested, seen, events, crashes⟩ := alike
  obtain ⟨leftStack, leftScopes, leftSeen, leftEvents, leftCrashes⟩ := left
  obtain ⟨rightStack, rightScopes, rightSeen, rightEvents, rightCrashes⟩ := right
  have sameLength : leftScopes.length = rightScopes.length :=
    leftNested.length_eq.trans rightNested.length_eq.symm
  -- Both runs have as many scopes, so either both release one or none does.
  cases leftScopes with
  | nil =>
      obtain rfl : rightScopes = [] := List.length_eq_zero_iff.mp sameLength.symm
      obtain rfl : contexts = [] := List.length_eq_zero_iff.mp leftNested.length_eq.symm
      exact ⟨leftNested, rightNested, seen, events, crashes⟩
  | cons leftScope leftOuter =>
      cases rightScopes with
      | nil => cases sameLength
      | cons rightScope rightOuter =>
          obtain ⟨leftAround, leftClosed, leftInner⟩ := leftNested.close policy unwinding
          obtain ⟨rightAround, rightClosed, rightInner⟩ := rightNested.close policy unwinding
          dsimp only at leftClosed rightClosed seen events crashes
          simp only [NestedRun.close, leftClosed, rightClosed, List.append_nil,
            Option.toList_none]
          refine ⟨leftInner, rightInner, ?_, events, crashes⟩
          dsimp only
          rw [seen, leftInner.current_eq, rightInner.current_eq]

/-- Runs that differ in which scopes are opened only for a new context stay alike, as long as
there is room for all of the scopes. -/
theorem run (alike : Alike base contexts left right) (policy : ScopePolicy)
    (steps : List NestStep)
    (fits : base.slots.size + mostOpen contexts.length steps ≤ 65534) :
    ∃ after, Alike base after (left.run policy steps)
      (right.run policy (steps.map NestStep.always)) := by
  induction steps generalizing contexts left right with
  | nil => exact ⟨contexts, alike⟩
  | cons step rest ih =>
      unfold mostOpen at fits
      cases step with
      | start context ifNew =>
          have deeper := le_mostOpen (contexts.length + 1) rest
          change base.slots.size + max _ (mostOpen (contexts.length + 1) rest) ≤ 65534 at fits
          refine ih (alike.start (by omega) context ifNew false) ?_
          rw [List.length_cons]
          omega
      | close unwinding =>
          change base.slots.size + max _ (mostOpen (contexts.length - 1) rest) ≤ 65534 at fits
          refine ih (alike.close policy unwinding) ?_
          rw [List.length_tail]
          omega

end Alike

/-- A program of nested scopes, of which at most 65534 are open at once, may open any of them
only if its context is not current already.  Then what is current is the same after every step
as if it opened all of them, although the stack is lower in between.  Neither way anything is
logged or crashes; and when all scopes are released, the stack is the same too, and the one
that was there before. -/
theorem NestedRun.skipping_unseen (policy : ScopePolicy) (base : ScopeStack)
    (steps : List NestStep) (fits : base.slots.size + mostOpen 0 steps ≤ 65534) :
    let skipping := (onStack base).run policy steps
    let plain := (onStack base).run policy (steps.map NestStep.always)
    skipping.seen = plain.seen ∧ skipping.stack.current = plain.stack.current ∧
      skipping.scopes.length = plain.scopes.length ∧
      (plain.scopes = [] → skipping.stack = plain.stack ∧ plain.stack = base) ∧
      (skipping.events = [] ∧ plain.events = []) ∧
      (skipping.crashes = [] ∧ plain.crashes = []) := by
  intro skipping plain
  have begin : Alike base [] (onStack base) (onStack base) :=
    ⟨.ground, .ground, rfl, ⟨rfl, rfl⟩, ⟨rfl, rfl⟩⟩
  obtain ⟨contexts, alike⟩ := begin.run policy steps fits
  have sameLength : skipping.scopes.length = plain.scopes.length :=
    alike.leftNested.length_eq.trans alike.rightNested.length_eq.symm
  refine ⟨alike.seen, ?_, sameLength, ?_, alike.events, alike.crashes⟩
  · exact alike.leftNested.current_eq.trans alike.rightNested.current_eq.symm
  · intro released
    have leftNested : Nested base skipping.stack skipping.scopes contexts := alike.leftNested
    have rightNested : Nested base plain.stack plain.scopes contexts := alike.rightNested
    rw [released] at sameLength rightNested
    rw [List.length_eq_zero_iff.mp sameLength] at leftNested
    exact ⟨leftNested.eq_base.trans rightNested.eq_base.symm, rightNested.eq_base⟩

/-- Four of the five scopes are opened only for a new context, and three of these are skipped:
the first, which repeats what is current on a stack with a hole, and two within others. -/
theorem NestedRun.skipping_unseen_above_hole :
    let context (number : UInt64) : Context := ⟨⟨0, number⟩, ⟨number⟩, none, .accepted, false⟩
    let base : ScopeStack := ⟨some (context 1), #[.restore none, .hole]⟩
    let steps : List NestStep :=
      [.start (some (context 1)) true, .start none true, .start none true,
        .start (some (context 2)) false, .start (some (context 2)) true, .close true,
        .close false, .close false, .close false, .close false]
    let skipping := (onStack base).run .strict steps
    let plain := (onStack base).run .strict (steps.map NestStep.always)
    base.slots.size + mostOpen 0 steps ≤ 65534 ∧ skipping.seen = plain.seen ∧
      skipping.stack = plain.stack ∧ plain.stack = base := by
  intro context base steps skipping plain
  have fits : base.slots.size + mostOpen 0 steps ≤ 65534 := by decide
  obtain ⟨seen, _, _, stack, _⟩ := skipping_unseen .strict base steps fits
  have released : plain.scopes = [] := by decide +kernel
  exact ⟨fits, seen, stack released⟩

end SpanTrail
