import SpanTrail.Proofs.Scope.Order

/-! How deep scopes are nested.  A scope is one deeper than the scope that was the
innermost open one when it was started, even if that one is released before it.  The
stack of a thread is as high as its innermost open scope is deep, so the depth is what
takes up the room, and not the number of the open scopes. -/

namespace SpanTrail

structure NestedScope where
  number : Nat
  context : Option Context
  depth : Nat
  deriving DecidableEq

/-- The open scopes of a thread with their depths, the newest first.  A scope that finds
no room is not among them. -/
structure Nesting where
  started : Nat
  scopes : List NestedScope

namespace Nesting

def none : Nesting := ⟨0, []⟩

def depth (nesting : Nesting) : Nat :=
  match nesting.scopes with
  | [] => 0
  | innermost :: _ => innermost.depth

def start (nesting : Nesting) (context : Option Context) : Nesting where
  started := nesting.started + 1
  scopes :=
    if nesting.depth < 65534 then
      ⟨nesting.started, context, nesting.depth + 1⟩ :: nesting.scopes
    else nesting.scopes

theorem start_shallow (nesting : Nesting) (shallow : nesting.depth < 65534)
    (context : Option Context) :
    nesting.start context =
      ⟨nesting.started + 1,
        ⟨nesting.started, context, nesting.depth + 1⟩ :: nesting.scopes⟩ := by
  simp only [start, if_pos shallow]

def close (nesting : Nesting) (number : Nat) : Nesting where
  started := nesting.started
  scopes := nesting.scopes.eraseP fun scope => scope.number == number

def step (nesting : Nesting) : ScopeStep → Nesting
  | .start context => nesting.start context
  | .close number _ => nesting.close number

def run (nesting : Nesting) (steps : List ScopeStep) : Nesting :=
  steps.foldl step nesting

theorem run_append (nesting : Nesting) (first second : List ScopeStep) :
    nesting.run (first ++ second) = (nesting.run first).run second :=
  List.foldl_append

/-- Whether every scope that is closed while it is open is the innermost one then. -/
def InOrder : Nesting → List ScopeStep → Prop
  | _, [] => True
  | nesting, .start context :: rest => InOrder (nesting.start context) rest
  | nesting, .close number _ :: rest =>
      (∀ scope ∈ nesting.scopes, scope.number = number → nesting.scopes.head? = some scope) ∧
        InOrder (nesting.close number) rest

def Stepwise : List NestedScope → Prop
  | [] => True
  | scope :: older => scope.depth = older.length + 1 ∧ Stepwise older

theorem Stepwise.depth_eq {nesting : Nesting} (stepwise : Stepwise nesting.scopes) :
    nesting.depth = nesting.scopes.length := by
  unfold depth
  cases parts : nesting.scopes with
  | nil => rfl
  | cons scope older =>
      rw [parts] at stepwise
      exact stepwise.1

theorem Stepwise.start {nesting : Nesting} (stepwise : Stepwise nesting.scopes)
    (context : Option Context) : Stepwise (nesting.start context).scopes := by
  unfold Nesting.start
  dsimp only
  split
  · constructor
    · dsimp only
      rw [stepwise.depth_eq]
    · exact stepwise
  · exact stepwise

/-- Taking out the first scope, or none, leaves no gap. -/
theorem Stepwise.close {nesting : Nesting} {number : Nat} (stepwise : Stepwise nesting.scopes)
    (inOrder : ∀ scope ∈ nesting.scopes, scope.number = number →
      nesting.scopes.head? = some scope) : Stepwise (nesting.close number).scopes := by
  unfold Nesting.close
  dsimp only
  cases parts : nesting.scopes with
  | nil => trivial
  | cons scope older =>
      rw [parts] at stepwise inOrder
      by_cases first : scope.number = number
      · rw [List.eraseP_cons_of_pos (by simpa using first)]
        exact stepwise.2
      · have absent : ∀ other ∈ scope :: older, ¬(other.number == number) = true := by
          intro other member same
          have isFirst := inOrder other member (by simpa using same)
          rw [List.head?_cons, Option.some.injEq] at isFirst
          rw [← isFirst] at same
          exact first (by simpa using same)
        rw [List.eraseP_of_forall_not absent]
        exact stepwise

theorem InOrder.stepwise {nesting : Nesting} {steps : List ScopeStep}
    (inOrder : nesting.InOrder steps) (stepwise : Stepwise nesting.scopes) :
    Stepwise (nesting.run steps).scopes := by
  induction steps generalizing nesting with
  | nil => exact stepwise
  | cons step rest ih =>
      cases step with
      | start context => exact ih inOrder (stepwise.start context)
      | close number unwinding => exact ih inOrder.2 (stepwise.close inOrder.1)

end Nesting

def HeldScope.nested (held : HeldScope) : NestedScope where
  number := held.number
  context := held.context
  depth :=
    match held.scope with
    | .idle => 0
    | .opened position _ => position

namespace ScopeThread

theorem run_append (policy : ScopePolicy) (thread : ScopeThread) (first second : List ScopeStep) :
    thread.run policy (first ++ second) = (thread.run policy first).run policy second :=
  List.foldl_append

variable {thread : ScopeThread} {tower : Tower} {nesting : Nesting}

structure Follows (thread : ScopeThread) (nesting : Nesting) : Prop where
  started : nesting.started = thread.started
  scopes : nesting.scopes = thread.inEffect.map HeldScope.nested
  numbered : Numbered thread

theorem onStack_follows (base : ScopeStack) : Follows (onStack base) .none where
  started := rfl
  scopes := rfl
  numbered := onStack_numbered base

theorem noRoom_of_size {stack : ScopeStack} (full : 65534 ≤ stack.slots.size) :
    stack.hasRoom = false := by
  rw [hasRoom_eq, decide_eq_false_iff_not]
  omega

/-- The innermost scope in effect has the layer on top, and so has its position. -/
theorem Stands.size_eq_depth (stands : Stands .empty thread tower)
    (follows : Follows thread nesting) : thread.stack.slots.size = nesting.depth := by
  have listed := stands.inEffect_eq
  rw [stands.size_eq]
  unfold Nesting.depth
  rw [follows.scopes]
  obtain ⟨layers, newestOpen⟩ := tower
  -- The topmost layer is open in every tower, so it is that of the newest scope in effect.
  cases layers with
  | nil =>
      have none : thread.inEffect = [] := List.map_eq_nil_iff.mp listed
      rw [none]
      rfl
  | cons layer rest =>
      have isOpen := newestOpen layer rfl
      simp only [Tower.openings, isOpen, if_true, List.map_cons] at listed
      obtain ⟨newest, older, parts, same, _⟩ := List.map_eq_cons_iff.mp listed
      rw [Prod.mk.injEq] at same
      rw [parts]
      simp only [List.map_cons, HeldScope.nested, same.1, List.length_cons]

theorem start_follows (stands : Stands .empty thread tower) (follows : Follows thread nesting)
    (context : Option Context) : Follows (thread.start context) (nesting.start context) := by
  have size := stands.size_eq_depth follows
  refine ⟨congrArg (· + 1) follows.started, ?_, follows.numbered.start context⟩
  unfold Nesting.start
  rw [← size, follows.started, follows.scopes]
  by_cases counts : thread.stack.slots.size < 65534
  · have room : thread.stack.hasRoom = true := by
      rw [hasRoom_eq, decide_eq_true counts]
    rw [if_pos counts]
    simp only [start, start_roomy room, inEffect, List.filter_cons, decide_eq_true counts,
      if_true, List.map_cons, HeldScope.nested]
  · rw [if_neg counts]
    simp only [start, inEffect, List.filter_cons, decide_eq_false counts, Bool.false_eq_true,
      if_false]

/-- Taking out the scope with a number and looking only at the scopes in effect may be
done in either order, as no other scope has the number. -/
theorem eraseP_nested {scopes : List HeldScope}
    (numbers : scopes.Pairwise fun newer older => older.number < newer.number) (number : Nat) :
    ((scopes.filter HeldScope.counts).map HeldScope.nested).eraseP
        (fun scope => scope.number == number) =
      ((scopes.eraseP fun held => held.number == number).filter HeldScope.counts).map
        HeldScope.nested := by
  induction scopes with
  | nil => rfl
  | cons held older ih =>
      obtain ⟨smaller, rest⟩ := List.pairwise_cons.mp numbers
      by_cases same : held.number = number
      · have absent : ∀ scope ∈ (older.filter HeldScope.counts).map HeldScope.nested,
            ¬(scope.number == number) = true := by
          intro scope member
          obtain ⟨other, isOlder, isScope⟩ := List.mem_map.mp member
          have less := smaller other (List.mem_filter.mp isOlder).1
          rw [← isScope, beq_iff_eq]
          change other.number ≠ number
          omega
        rw [List.eraseP_cons_of_pos (by simpa using same)]
        cases counts : held.counts with
        | true =>
            rw [List.filter_cons_of_pos counts, List.map_cons, List.eraseP_cons_of_pos]
            simpa [HeldScope.nested] using same
        | false =>
            rw [List.filter_cons_of_neg (by simp [counts]), List.eraseP_of_forall_not absent]
      · rw [List.eraseP_cons_of_neg (by simpa using same)]
        cases counts : held.counts with
        | true =>
            rw [List.filter_cons_of_pos counts, List.filter_cons_of_pos counts, List.map_cons,
              List.map_cons, List.eraseP_cons_of_neg (by simpa [HeldScope.nested] using same),
              ih rest]
        | false =>
            rw [List.filter_cons_of_neg (by simp [counts]),
              List.filter_cons_of_neg (by simp [counts]), ih rest]

theorem close_follows (follows : Follows thread nesting) (policy : ScopePolicy) (number : Nat)
    (unwinding : Bool) : Follows (thread.close policy number unwinding) (nesting.close number) := by
  have started := close_started policy thread number unwinding
  refine ⟨follows.started.trans started.symm, ?_, follows.numbered.close policy number unwinding⟩
  unfold Nesting.close inEffect
  rw [close_held, follows.scopes]
  exact eraseP_nested follows.numbered.newestFirst number

theorem run_follows (policy : ScopePolicy) (steps : List ScopeStep)
    (stands : Stands .empty thread tower) (follows : Follows thread nesting) :
    Follows (thread.run policy steps) (nesting.run steps) := by
  induction steps generalizing thread tower nesting with
  | nil => exact follows
  | cons step rest ih =>
      obtain ⟨changed, after⟩ := step_stands policy stands step
      apply ih after
      cases step with
      | start context => exact start_follows stands follows context
      | close number unwinding => exact close_follows follows policy number unwinding

/-! ### Scopes that are all opened one in the other -/

def starts (count : Nat) : List ScopeStep :=
  List.replicate count (.start none)

theorem starts_succ (count : Nat) : starts (count + 1) = starts count ++ [.start none] :=
  List.replicate_succ'

theorem nesting_starts {count : Nat} (small : count < 65534) :
    ∃ older, Nesting.none.run (starts (count + 1)) =
      ⟨count + 1, ⟨count, none, count + 1⟩ :: older⟩ := by
  induction count with
  | zero => exact ⟨[], rfl⟩
  | succ count ih =>
      obtain ⟨older, before⟩ := ih (by omega)
      refine ⟨⟨count, none, count + 1⟩ :: older, ?_⟩
      rw [starts_succ, Nesting.run_append, before]
      change Nesting.start ⟨_, ⟨count, none, count + 1⟩ :: older⟩ none = _
      rw [Nesting.start_shallow]
      · rfl
      · exact small

theorem held_starts (policy : ScopePolicy) (count : Nat) :
    let thread := (onStack .empty).run policy (starts (count + 1))
    thread.started = count + 1 ∧ ∃ inner outermost, thread.held = inner ++ [outermost] ∧
      outermost.number = 0 ∧ inner.length = count ∧ ∀ held ∈ inner, held.number ≠ 0 := by
  induction count with
  | zero =>
      have first : (onStack .empty).run policy (starts 1) = (onStack .empty).start none := rfl
      rw [first]
      refine ⟨rfl, [], _, (List.nil_append _).symm, rfl, rfl, ?_⟩
      intro held member
      cases member
  | succ count ih =>
      obtain ⟨started, inner, outermost, held, first, length, others⟩ := ih
      have next : (onStack .empty).run policy (starts (count + 1 + 1)) =
          ((onStack .empty).run policy (starts (count + 1))).start none := by
        rw [starts_succ, run_append]
        rfl
      rw [next]
      generalize (onStack .empty).run policy (starts (count + 1)) = thread at started held
      refine ⟨congrArg (· + 1) started, _ :: inner, outermost, congrArg (List.cons _) held, first,
        congrArg (· + 1) length, ?_⟩
      intro other member
      rcases List.mem_cons.mp member with here | isInner
      · rw [here, started]
        exact Nat.succ_ne_zero count
      · exact others other isInner

theorem close_outermost {total : Nat} (several : 1 < total) (small : total ≤ 65534)
    (isRun : thread = (onStack .empty).run .lenient (starts total ++ [.close 0 false])) :
    thread.held.length + 1 = total ∧ thread.stack.slots.size = total ∧
      thread.stack.current = none := by
  obtain ⟨count, rfl⟩ : ∃ count, total = count + 1 := ⟨total - 1, by omega⟩
  obtain ⟨_, inner, outermost, held, first, length, others⟩ := held_starts .lenient count
  obtain ⟨older, nested⟩ := nesting_starts (Nat.lt_of_succ_le small)
  have closed : thread =
      ((onStack .empty).run .lenient (starts (count + 1))).close .lenient 0 false :=
    isRun.trans (run_append ..)
  obtain ⟨tower, stands⟩ : ∃ tower, Stands .empty thread tower :=
    isRun ▸ run_stands .lenient _ (onStack_stands (by decide))
  have follows : Follows thread (Nesting.none.run (starts (count + 1) ++ [.close 0 false])) :=
    isRun ▸ run_follows .lenient _ (onStack_stands (by decide)) (onStack_follows .empty)
  have innermost : Nesting.none.run (starts (count + 1) ++ [.close 0 false]) =
      ⟨count + 1, ⟨count, none, count + 1⟩ :: older.eraseP fun scope => scope.number == 0⟩ := by
    have isInner : (count == 0) = false := by
      rw [beq_eq_false_iff_ne]
      omega
    rw [Nesting.run_append, nested]
    simp only [Nesting.run, List.foldl_cons, List.foldl_nil, Nesting.step, Nesting.close,
      List.eraseP_cons, isInner, cond_false]
  refine ⟨?_, ?_, ?_⟩
  · have unmarked : ∀ held ∈ inner, ¬(held.number == 0) = true := by
      intro held member
      simpa using others held member
    rw [closed, close_held, held, List.eraseP_append_right _ unmarked,
      List.eraseP_cons_of_pos (by simpa using first), List.append_nil, length]
  · rw [stands.size_eq_depth follows, innermost]
    rfl
  · have scopes := follows.scopes
    rw [innermost] at scopes
    obtain ⟨newest, rest, parts, same, _⟩ := List.map_eq_cons_iff.mp scopes.symm
    rw [stands.current_eq, parts]
    exact congrArg NestedScope.context same

/-- Releasing the outermost of as many scopes as there is room for makes no room. -/
theorem close_outermost_full {total : Nat} (full : total = 65534)
    (isRun : thread = (onStack .empty).run .lenient (starts total ++ [.close 0 false]))
    (context : Context) :
    thread.held.length < total ∧
      (Scope.start thread.stack (some context)).stack.current ≠ some context ∧
      (Scope.start thread.stack (some context)).events = [.scopesExhausted] := by
  obtain ⟨held, size, current⟩ := close_outermost (by omega) (Nat.le_of_eq full) isRun
  rw [start_full (noRoom_of_size (by omega)), current]
  exact ⟨by omega, nofun, rfl⟩

/-- A thread may start scopes and close them in any order.  Its stack has as many slots as
its innermost open scope is deep.  Up to the depth of 65533 a new scope makes its context
current without a warning; at the depth of 65534 it changes nothing and is warned
about.  Scopes that are closed in order are as deep as they are many, so fewer than 65534
open ones leave room for another; and with no scope open there is room for all again. -/
theorem room_by_depth (steps : List ScopeStep) (context : Option Context) :
    let thread := (onStack .empty).run .lenient steps
    let nesting := Nesting.none.run steps
    let opening := Scope.start thread.stack context
    thread.inEffect.map HeldScope.nested = nesting.scopes ∧
      thread.stack.slots.size = nesting.depth ∧
      (nesting.depth < 65534 → opening.stack.current = context ∧ opening.events = []) ∧
      (65534 ≤ nesting.depth →
        opening.stack = thread.stack ∧ opening.events = [.scopesExhausted]) ∧
      (Nesting.none.InOrder steps → nesting.depth = thread.inEffect.length) ∧
      (thread.inEffect = [] → nesting.depth = 0) := by
  intro thread nesting opening
  obtain ⟨tower, stands⟩ : ∃ tower, Stands .empty thread tower :=
    run_stands .lenient steps (onStack_stands (by decide))
  have follows : Follows thread nesting :=
    run_follows .lenient steps (onStack_stands (by decide)) (onStack_follows .empty)
  have size := stands.size_eq_depth follows
  refine ⟨follows.scopes.symm, size, ?_, ?_, ?_, ?_⟩
  · intro shallow
    have room : thread.stack.hasRoom = true := by
      rw [hasRoom_eq, size, decide_eq_true shallow]
    simp only [opening, start_roomy room, ScopeStack.push, room, if_true, and_self]
  · intro deep
    have full := noRoom_of_size (size ▸ deep)
    simp only [opening, start_full full, and_self]
  · intro inOrder
    rw [(inOrder.stepwise trivial).depth_eq, follows.scopes, List.length_map]
  · intro none
    unfold Nesting.depth
    rw [follows.scopes, none]
    rfl

/-- With 65534 scopes open one in the other, releasing the outermost makes no room: its
position stays taken as long as the inner ones are open. -/
theorem released_scope_takes_room :
    let thread := (onStack .empty).run .lenient (starts 65534 ++ [.close 0 false])
    let context : Context := ⟨⟨0, 2⟩, ⟨2⟩, none, .undecided, false⟩
    let opening := Scope.start thread.stack (some context)
    thread.held.length < 65534 ∧ opening.stack.current ≠ some context ∧
      opening.events = [.scopesExhausted] :=
  close_outermost_full rfl rfl _

end ScopeThread

end SpanTrail
