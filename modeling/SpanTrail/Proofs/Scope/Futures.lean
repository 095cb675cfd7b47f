import Mathlib.Logic.Function.Basic
import SpanTrail.Proofs.Scope.Frames
import SpanTrail.Scenario.Run

/-! Futures and streams that carry a context, which is current while they are polled.  They
are polled as often as it takes, on any threads and also within one another, and a poll may
leave scopes open for a later one.  A poll that releases the scopes it opens leaves its
thread as it was. -/

namespace SpanTrail

namespace ScopeThread

variable {thread : ScopeThread}

theorem step_started (policy : ScopePolicy) (thread : ScopeThread) (step : ScopeStep) :
    thread.started ≤ (thread.step policy step).started := by
  cases step with
  | start context => exact Nat.le_succ _
  | close number unwinding => exact Nat.le_of_eq (close_started ..).symm

theorem step_held (policy : ScopePolicy) {step : ScopeStep} {held : HeldScope}
    (found : held ∈ (thread.step policy step).held) :
    held ∈ thread.held ∨ thread.started ≤ held.number := by
  cases step with
  | start context =>
      rcases List.mem_cons.mp found with here | older
      · rw [here]
        exact .inr (Nat.le_refl _)
      · exact .inl older
  | close number unwinding =>
      rw [ScopeThread.step, close_held] at found
      exact .inl (List.mem_of_mem_eraseP found)

theorem run_held (policy : ScopePolicy) {steps : List ScopeStep} {held : HeldScope}
    (found : held ∈ (thread.run policy steps).held) :
    held ∈ thread.held ∨ thread.started ≤ held.number := by
  induction steps generalizing thread with
  | nil => exact .inl found
  | cons step rest ih =>
      rcases ih found with stillHeld | later
      · exact step_held policy stillHeld
      · exact .inr (Nat.le_trans (step_started policy thread step) later)

def beside (thread : ScopeThread) (older : List HeldScope) : ScopeThread :=
  { thread with held := thread.held ++ older }

theorem close_beside (policy : ScopePolicy) {older : List HeldScope} {number : Nat}
    (others : ∀ held ∈ older, held.number ≠ number) (unwinding : Bool) :
    (thread.beside older).close policy number unwinding =
      (thread.close policy number unwinding).beside older := by
  have unmarked : older.find? (fun held => held.number == number) = none := by
    rw [List.find?_eq_none]
    intro held member
    simpa using others held member
  have sameFound : (thread.held ++ older).find? (fun held => held.number == number) =
      thread.held.find? fun held => held.number == number := by
    rw [List.find?_append, unmarked, Option.or_none]
  unfold close beside
  dsimp only
  rw [sameFound]
  cases found : thread.held.find? fun held => held.number == number with
  | none => rfl
  | some held =>
      have taken := List.eraseP_append_left (List.find?_some found) older
        (List.mem_of_find?_eq_some found)
      dsimp only
      rw [taken]

/-- A step that leaves the older scopes held does the same as without them. -/
theorem step_beside (policy : ScopePolicy) {older : List HeldScope} {step : ScopeStep}
    (numbered : Numbered (thread.beside older))
    (kept : ∀ held ∈ older, held ∈ ((thread.beside older).step policy step).held) :
    (thread.beside older).step policy step = (thread.step policy step).beside older := by
  cases step with
  | start context => rfl
  | close number unwinding =>
      apply close_beside
      intro held member
      exact numbered.number_ne policy (kept held member)

theorem run_beside (policy : ScopePolicy) {older : List HeldScope} {steps : List ScopeStep}
    (numbered : Numbered (thread.beside older))
    (kept : ∀ held ∈ older, held ∈ ((thread.beside older).run policy steps).held) :
    (thread.beside older).run policy steps = (thread.run policy steps).beside older := by
  induction steps generalizing thread with
  | nil => rfl
  | cons step rest ih =>
      have next := numbered.step policy step
      have stepped : (thread.beside older).step policy step =
          (thread.step policy step).beside older := by
        apply step_beside policy numbered
        intro held member
        -- A scope that the step closes would not come back, as newer ones get newer numbers.
        rcases @run_held _ policy rest held (kept held member) with stillHeld | later
        · exact stillHeld
        · have earlier := numbered.before held (List.mem_append_right _ member)
          have started := step_started policy (thread.beside older) step
          omega
      change ((thread.beside older).step policy step).run policy rest = _
      change ∀ held ∈ older, held ∈ (((thread.beside older).step policy step).run policy rest).held
        at kept
      rw [stepped] at next kept ⊢
      exact ih next kept

/-- Steps after which a thread holds the same scopes as before leave its stack as it was. -/
theorem run_restores (policy : ScopePolicy) (steps : List ScopeStep)
    (fits : thread.stack.slots.size < ScopeStack.noPosition) (numbered : Numbered thread)
    (released : (thread.run policy steps).held = thread.held) :
    (thread.run policy steps).stack = thread.stack := by
  obtain ⟨stack, started, older⟩ := thread
  let bare : ScopeThread := ⟨stack, started, []⟩
  have apart : (bare.beside older).run policy steps = (bare.run policy steps).beside older := by
    have isBeside : Numbered (bare.beside older) := numbered
    apply run_beside policy isBeside
    intro held member
    exact released ▸ member
  obtain ⟨tower, stands⟩ : ∃ tower, Stands stack (bare.run policy steps) tower := by
    have begins : Stands stack bare .ground := ⟨rfl, fits, rfl, nofun⟩
    exact run_stands policy steps begins
  have none : (bare.run policy steps).held = [] := by
    have held := congrArg ScopeThread.held apart
    exact List.append_left_eq_self.mp (held.symm.trans released)
  refine (congrArg ScopeThread.stack apart).trans (stands.stack_eq_base ?_)
  unfold inEffect
  rw [none]
  rfl

end ScopeThread

/-! ### Polls -/

inductive PollEnd where
  | pending | ready | crashed
  deriving DecidableEq

/-- The threads, the contexts that futures and streams carry, in the order in which these
were wrapped, and the scopes of the polls that each thread is in, the innermost first. -/
structure Futures where
  threads : Nat → ScopeThread
  carried : List (Option Context)
  polls : Nat → List Nat

/-- What may happen on a thread.  A poll begins with the scope of the context that is carried,
and ends with its release.  In between the thread may do anything, polls included. -/
inductive FutureStep where
  | scope (thread : Nat) (step : ScopeStep)
  | wrap (context : Option Context)
  | wrapInCurrent (thread : Nat)
  | begin (thread number : Nat)
  | finish (thread : Nat) (ending : PollEnd)

namespace Futures

def start (ambient : Nat → ScopeStack) : Futures :=
  ⟨fun thread => .onStack (ambient thread), [], fun _ => []⟩

def begin (futures : Futures) (thread number : Nat) : Futures :=
  match futures.carried[number]? with
  | none => futures
  | some context =>
      let polling := futures.threads thread
      { futures with
        threads := Function.update futures.threads thread (polling.start context)
        polls :=
          Function.update futures.polls thread (polling.started :: futures.polls thread) }

def finish (policy : ScopePolicy) (futures : Futures) (thread : Nat) (ending : PollEnd) :
    Futures :=
  match futures.polls thread with
  | [] => futures
  | innermost :: outer =>
      let polling := futures.threads thread
      { futures with
        threads :=
          Function.update futures.threads thread
            (polling.close policy innermost (ending = .crashed))
        polls := Function.update futures.polls thread outer }

def step (policy : ScopePolicy) (futures : Futures) : FutureStep → Futures
  | .scope thread step =>
      { futures with
        threads :=
          Function.update futures.threads thread ((futures.threads thread).step policy step) }
  | .wrap context => { futures with carried := futures.carried ++ [context] }
  | .wrapInCurrent thread =>
      { futures with carried := futures.carried ++ [(futures.threads thread).stack.current] }
  | .begin thread number => futures.begin thread number
  | .finish thread ending => futures.finish policy thread ending

def run (policy : ScopePolicy) (futures : Futures) (steps : List FutureStep) : Futures :=
  steps.foldl (step policy) futures

variable {futures : Futures}

theorem step_thread (policy : ScopePolicy) (step : FutureStep) (thread : Nat) :
    ∃ steps, (futures.step policy step).threads thread =
      (futures.threads thread).run policy steps := by
  have updated (other : Nat) (step : ScopeStep) :
      ∃ steps, Function.update futures.threads other
          ((futures.threads other).step policy step) thread =
        (futures.threads thread).run policy steps := by
    by_cases same : thread = other
    · subst same
      exact ⟨[step], Function.update_self ..⟩
    · exact ⟨[], Function.update_of_ne same ..⟩
  cases step with
  | scope other step => exact updated other step
  | wrap context | wrapInCurrent other => exact ⟨[], rfl⟩
  | begin other number =>
      change ∃ steps, (futures.begin other number).threads thread = _
      unfold begin
      cases futures.carried[number]? with
      | none => exact ⟨[], rfl⟩
      | some context => exact updated other (.start context)
  | finish other ending =>
      change ∃ steps, (futures.finish policy other ending).threads thread = _
      unfold finish
      cases futures.polls other with
      | nil => exact ⟨[], rfl⟩
      | cons innermost outer => exact updated other (.close innermost (ending = .crashed))

theorem run_thread (policy : ScopePolicy) (steps : List FutureStep) (thread : Nat) :
    ∃ inner, (futures.run policy steps).threads thread =
      (futures.threads thread).run policy inner := by
  induction steps generalizing futures with
  | nil => exact ⟨[], rfl⟩
  | cons step rest ih =>
      obtain ⟨first, stepped⟩ := @step_thread futures policy step thread
      obtain ⟨later, ran⟩ := @ih (futures.step policy step)
      refine ⟨first ++ later, ran.trans ?_⟩
      rw [stepped, ScopeThread.run, ScopeThread.run, ScopeThread.run, List.foldl_append]

theorem run_carried (policy : ScopePolicy) (steps : List FutureStep) {number : Nat}
    {context : Option Context} (wrapped : futures.carried[number]? = some context) :
    (futures.run policy steps).carried[number]? = some context := by
  induction steps generalizing futures with
  | nil => exact wrapped
  | cons step rest ih =>
      apply ih
      cases step with
      | scope thread step => exact wrapped
      | wrap other | wrapInCurrent thread =>
          obtain ⟨inside, _⟩ := List.getElem?_eq_some_iff.mp wrapped
          exact (List.getElem?_append_left inside).trans wrapped
      | begin thread other =>
          change (futures.begin thread other).carried[number]? = _
          unfold begin
          cases futures.carried[other]? with
          | none => exact wrapped
          | some carried => exact wrapped
      | finish thread ending =>
          change (futures.finish policy thread ending).carried[number]? = _
          unfold finish
          cases futures.polls thread with
          | nil => exact wrapped
          | cons innermost outer => exact wrapped

/-- What polling a future to its end does, on a stack that has room. -/
theorem polls_roomy (policy : ScopePolicy) (carried : Option Context) (crashes : Bool)
    (left : Nat) {stack : ScopeStack} (room : stack.hasRoom = true) :
    Scenario.polls policy carried crashes left stack =
      ⟨stack, [], List.replicate (left + 1) carried, List.replicate (left + 1) stack.current,
        if crashes then some Scenario.pollCrash else none⟩ := by
  induction left with
  | zero =>
      unfold Scenario.polls
      dsimp only
      rw [Scope.close_start_roomy policy _ room, Scope.start_current room,
        ScopeThread.start_roomy room]
      cases crashes with
      | false => rfl
      | true => rfl
  | succ left ih =>
      have stays : (crashes && left + 1 == 0) = false := Bool.and_false _
      unfold Scenario.polls
      dsimp only
      rw [stays, Scope.close_start_roomy policy _ room, Scope.start_current room,
        ScopeThread.start_roomy room, if_neg Bool.false_ne_true]
      dsimp only
      rw [ih]
      rfl

/-- A poll from its beginning to its end, in which the thread releases the scopes that it
opens and those of the polls within.  The thread gets its stack and its scopes back. -/
theorem finish_restores (policy : ScopePolicy) {base : ScopeStack} {tower : Tower}
    {thread number : Nat} {context : Option Context}
    (stands : ScopeThread.Stands base (futures.threads thread) tower)
    (numbered : (futures.threads thread).Numbered)
    (carries : futures.carried[number]? = some context) (body : List FutureStep)
    (ending : PollEnd) :
    let begun := futures.step policy (.begin thread number)
    let ended := begun.run policy body
    let after := ended.step policy (.finish thread ending)
    ended.polls thread = begun.polls thread →
      (ended.threads thread).held = (begun.threads thread).held →
        (after.threads thread).stack = (futures.threads thread).stack ∧
        (after.threads thread).held = (futures.threads thread).held ∧
        after.polls thread = futures.polls thread := by
  intro begun ended after innermost released
  generalize isPolling : futures.threads thread = polling at stands numbered
  have isBegun : begun = { futures with
      threads := Function.update futures.threads thread (polling.start context)
      polls := Function.update futures.polls thread
        (polling.started :: futures.polls thread) } := by
    change futures.begin thread number = _
    unfold begin
    rw [carries, ← isPolling]
  have polls : ended.polls thread = polling.started :: futures.polls thread := by
    rw [innermost, isBegun]
    exact Function.update_self ..
  have begunThread : begun.threads thread = polling.start context := by
    rw [isBegun]
    exact Function.update_self ..
  have isAfter : after = { ended with
      threads := Function.update ended.threads thread
        ((ended.threads thread).close policy polling.started (ending = .crashed))
      polls := Function.update ended.polls thread (futures.polls thread) } := by
    change ended.finish policy thread ending = _
    unfold finish
    rw [polls]
  have afterThread : after.threads thread =
      (ended.threads thread).close policy polling.started (ending = .crashed) := by
    rw [isAfter]
    exact Function.update_self ..
  have held : (after.threads thread).held = polling.held := by
    rw [afterThread, ScopeThread.close_held, released, begunThread]
    exact List.eraseP_cons_of_pos (beq_self_eq_true _)
  obtain ⟨inner, ran⟩ := @run_thread begun policy body thread
  refine ⟨?_, held, ?_⟩
  · have whole : after.threads thread = polling.run policy
        (.start context :: inner ++ [.close polling.started (ending = .crashed)]) := by
      rw [afterThread, ran, begunThread, ScopeThread.run, ScopeThread.run, List.foldl_append]
      rfl
    have fits : polling.stack.slots.size < ScopeStack.noPosition := by
      rw [stands.size_eq]
      exact stands.fits
    rw [whole] at held ⊢
    exact ScopeThread.run_restores policy _ fits numbered held
  · rw [isAfter]
    exact Function.update_self ..

/-- What is wrapped carries its context, or the current one, wherever it is polled and however
often.  A poll on a thread with room begins with that context current, even if that is no
context at all.  When it ends, waiting, with a result or in a crash, and it has released the
scopes that it opened, in any order, and no others, the thread has the stack, and so the
current context, and the scopes that it had before the poll.  So polling a future to its end
finds its context at each poll and the one around it after each, and logs nothing. -/
theorem poll_in_carried (policy : ScopePolicy) {ambient : Nat → ScopeStack}
    (below : ∀ thread, (ambient thread).slots.size < ScopeStack.noPosition)
    (front : List FutureStep) :
    let futures := (start ambient).run policy front
    let next := futures.carried.length
    (∀ context later,
      ((futures.step policy (.wrap context)).run policy later).carried[next]? = some context) ∧
    (∀ thread later,
      ((futures.step policy (.wrapInCurrent thread)).run policy later).carried[next]? =
        some (futures.threads thread).stack.current) ∧
    ∀ (thread number : Nat) context, futures.carried[number]? = some context →
      let stack := (futures.threads thread).stack
      let begun := futures.step policy (.begin thread number)
      (stack.hasRoom = true →
        (begun.threads thread).stack.current = context ∧
        ∀ crashes left, Scenario.polls policy context crashes left stack =
          ⟨stack, [], List.replicate (left + 1) context, List.replicate (left + 1) stack.current,
            if crashes then some Scenario.pollCrash else none⟩) ∧
      ∀ body ending, let ended := begun.run policy body
        let after := ended.step policy (.finish thread ending)
        ended.polls thread = begun.polls thread →
          (ended.threads thread).held = (begun.threads thread).held →
            (after.threads thread).stack = stack ∧
            (after.threads thread).held = (futures.threads thread).held ∧
            after.polls thread = futures.polls thread := by
  intro futures next
  refine ⟨?_, ?_, ?_⟩
  · intro context later
    exact run_carried policy later List.getElem?_concat_length
  · intro thread later
    exact run_carried policy later List.getElem?_concat_length
  · intro thread number context carries stack begun
    constructor
    · intro room
      have isBegun : begun.threads thread = (futures.threads thread).start context := by
        change (futures.begin thread number).threads thread = _
        unfold begin
        rw [carries]
        exact Function.update_self ..
      refine ⟨?_, fun crashes left => polls_roomy policy context crashes left room⟩
      rw [isBegun]
      exact Scope.start_current room context
    · obtain ⟨steps, ran⟩ := @run_thread (start ambient) policy front thread
      have isThread : futures.threads thread =
          (ScopeThread.onStack (ambient thread)).run policy steps := ran
      obtain ⟨tower, stands⟩ : ∃ tower,
          ScopeThread.Stands (ambient thread) (futures.threads thread) tower := by
        rw [isThread]
        exact ScopeThread.run_stands policy steps (ScopeThread.onStack_stands (below thread))
      have numbered : (futures.threads thread).Numbered := by
        rw [isThread]
        exact (ScopeThread.onStack_numbered _).run policy steps
      intro body ending
      exact finish_restores policy stands numbered carries body ending

/-- On a stack with a hole, the second future, which carries no context, is polled within the
first one, which has left a scope open in an earlier poll.  It polls the first one again and
releases its own scopes from the outside in, before it crashes. -/
theorem poll_in_carried_above_hole :
    let context (number : UInt64) : Context := ⟨⟨0, number⟩, ⟨number⟩, none, .accepted, false⟩
    let ambient : Nat → ScopeStack := fun _ => ⟨none, #[.restore (some (context 1)), .hole]⟩
    let front : List FutureStep :=
      [.wrap (some (context 2)), .wrapInCurrent 1, .begin 1 0, .scope 1 (.start none),
        .finish 1 .pending, .begin 1 0]
    let body : List FutureStep :=
      [.scope 1 (.start (some (context 3))), .begin 1 0, .finish 1 .ready,
        .scope 1 (.start none), .scope 1 (.close 4 true), .scope 1 (.close 6 true)]
    let futures := (start ambient).run .strict front
    let begun := futures.step .strict (.begin 1 1)
    let ended := begun.run .strict body
    let after := ended.step .strict (.finish 1 .crashed)
    (∀ thread, (ambient thread).slots.size < ScopeStack.noPosition) ∧
      (futures.threads 1).stack.current = some (context 2) ∧
      (begun.threads 1).stack.current = none ∧
      (after.threads 1).stack = (futures.threads 1).stack := by
  intro context ambient front body futures begun ended after
  have below : ∀ thread, (ambient thread).slots.size < ScopeStack.noPosition := fun _ => by decide
  have carries : futures.carried[1]? = some none := by decide +kernel
  have current : (futures.threads 1).stack.current = some (context 2) := by decide +kernel
  have room : (futures.threads 1).stack.hasRoom = true := by decide +kernel
  have innermost : ended.polls 1 = begun.polls 1 := by decide +kernel
  have released : (ended.threads 1).held = (begun.threads 1).held := by decide +kernel
  -- The steps are hidden, so that none of them is taken once more below.
  clear_value front body
  obtain ⟨begins, ends⟩ := (poll_in_carried .strict below front).2.2 1 1 none carries
  obtain ⟨restored, _⟩ := ends body .crashed innermost released
  exact ⟨below, current, (begins room).1, restored⟩

end Futures

end SpanTrail
