import Mathlib.Logic.Function.Basic
import SpanTrail.Proofs.Scope.Order

/-! Code that runs within a scope of a context.  While it runs, the code around it waits with the
scopes that it holds; when it has ended and its scope is released, the code around it finds
everything as it was, however the scopes opened in between were released.  A task may be submitted
and run on any threads and at any times, also while other tasks run there. -/

namespace SpanTrail

namespace Scope

theorem close_start_roomy (policy : ScopePolicy) (unwinding : Bool) {stack : ScopeStack}
    (room : stack.hasRoom = true) (context : Option Context) :
    (start stack context).scope.close policy unwinding (start stack context).stack =
      ⟨stack, [], none⟩ := by
  have position : (stack.push context).2 = stack.slots.size + 1 := by
    unfold ScopeStack.push
    rw [if_pos room]
  have released := ScopeStack.release_push context room
  rw [position] at released
  have current : (stack.push context).1.current = context := by
    unfold ScopeStack.push
    rw [if_pos room]
  rw [ScopeThread.start_roomy room]
  unfold close
  dsimp only
  rw [released, current]
  cases policy with
  | lenient => rfl
  | strict =>
      have quiet : crash? context context .inOrder = none := if_pos rfl
      dsimp only
      rw [quiet, ite_self]

/-- Releasing a scope on the stack that its start left restores the stack, also if there was
no room for it. -/
theorem close_start (policy : ScopePolicy) (unwinding : Bool) (stack : ScopeStack)
    (context : Option Context) :
    ((start stack context).scope.close policy unwinding (start stack context).stack).stack =
      stack := by
  cases room : stack.hasRoom with
  | false =>
      rw [ScopeThread.start_full room, ScopeThread.close_stack, ScopeThread.release_noPosition]
  | true => rw [close_start_roomy policy unwinding room]

theorem start_size {stack : ScopeStack} (room : stack.hasRoom = true)
    (context : Option Context) :
    (start stack context).stack.slots.size = stack.slots.size + 1 := by
  rw [ScopeThread.start_roomy room]
  unfold ScopeStack.push
  rw [if_pos room, Array.size_push]

theorem start_fits {stack : ScopeStack} (fits : stack.slots.size < ScopeStack.noPosition)
    (context : Option Context) :
    (start stack context).stack.slots.size < ScopeStack.noPosition := by
  cases room : stack.hasRoom with
  | false =>
      rw [ScopeThread.start_full room]
      exact fits
  | true =>
      rw [start_size room]
      exact (Tower.hasRoom_iff stack).mp room

end Scope

/-- The code around some code: the scope in which that runs, and the thread as it was
before. -/
structure Frame where
  around : Scope
  before : ScopeThread

structure Worker where
  thread : ScopeThread
  frames : List Frame

namespace Worker

def onStack (stack : ScopeStack) : Worker := ⟨.onStack stack, []⟩

def current (worker : Worker) : Option Context :=
  worker.thread.stack.current

def enter (worker : Worker) (context : Option Context) : Worker :=
  let opening := Scope.start worker.thread.stack context
  ⟨.onStack opening.stack, ⟨opening.scope, worker.thread⟩ :: worker.frames⟩

/-- Ends the innermost code, which has released the scopes that it opened.  The code around
it goes on with the scopes that it holds. -/
def leave (policy : ScopePolicy) (worker : Worker) (unwinding : Bool) : Worker :=
  match worker.frames with
  | [] => worker
  | frame :: outer =>
      if worker.thread.held = [] then
        let closing := frame.around.close policy unwinding worker.thread.stack
        ⟨{ frame.before with stack := closing.stack }, outer⟩
      else worker

def step (policy : ScopePolicy) (worker : Worker) (step : ScopeStep) : Worker :=
  { worker with thread := worker.thread.step policy step }

/-- Whether the thread and the code around it stand on one another: the stack of each is a
tower above the stack that it began with. -/
inductive Framed : ScopeThread → List Frame → Prop where
  | outermost {base : ScopeStack} {thread : ScopeThread} {tower : Tower}
      (stands : ScopeThread.Stands base thread tower) : Framed thread []
  | within {frame : Frame} {outer : List Frame} {context : Option Context}
      {thread : ScopeThread} {tower : Tower} (around : Framed frame.before outer)
      (isScope : frame.around = (Scope.start frame.before.stack context).scope)
      (stands : ScopeThread.Stands (Scope.start frame.before.stack context).stack thread tower) :
      Framed thread (frame :: outer)

def IsFramed (worker : Worker) : Prop :=
  Framed worker.thread worker.frames

variable {worker : Worker}

theorem onStack_framed {stack : ScopeStack} (fits : stack.slots.size < ScopeStack.noPosition) :
    (onStack stack).IsFramed :=
  .outermost (ScopeThread.onStack_stands fits)

theorem Framed.fits {thread : ScopeThread} {frames : List Frame} (framed : Framed thread frames) :
    thread.stack.slots.size < ScopeStack.noPosition := by
  cases framed with
  | outermost stands =>
      rw [stands.size_eq]
      exact stands.fits
  | within around isScope stands =>
      rw [stands.size_eq]
      exact stands.fits

theorem enter_framed (framed : worker.IsFramed) (context : Option Context) :
    (worker.enter context).IsFramed :=
  .within framed rfl (ScopeThread.onStack_stands (Scope.start_fits framed.fits context))

theorem step_framed (framed : worker.IsFramed) (policy : ScopePolicy) (step : ScopeStep) :
    (worker.step policy step).IsFramed := by
  obtain ⟨thread, frames⟩ := worker
  cases framed with
  | outermost stands =>
      obtain ⟨tower, changed⟩ := ScopeThread.step_stands policy stands step
      exact .outermost changed
  | within around isScope stands =>
      obtain ⟨tower, changed⟩ := ScopeThread.step_stands policy stands step
      exact .within around isScope changed

/-- When the innermost code ends, the code around it finds its thread as it was. -/
theorem leave_eq (framed : worker.IsFramed) {frame : Frame} {outer : List Frame}
    (frames : worker.frames = frame :: outer) (released : worker.thread.held = [])
    (policy : ScopePolicy) (unwinding : Bool) :
    worker.leave policy unwinding = ⟨frame.before, outer⟩ := by
  obtain ⟨thread, _⟩ := worker
  subst frames
  cases framed with
  | within around isScope stands =>
      have none : thread.inEffect = [] := by
        unfold ScopeThread.inEffect
        rw [show thread.held = [] from released]
        rfl
      unfold leave
      dsimp only
      rw [if_pos released, stands.stack_eq_base none, isScope, Scope.close_start]

theorem leave_framed (framed : worker.IsFramed) (policy : ScopePolicy) (unwinding : Bool) :
    (worker.leave policy unwinding).IsFramed := by
  cases frames : worker.frames with
  | nil =>
      have same : worker.leave policy unwinding = worker := by
        unfold leave
        rw [frames]
      rw [same]
      exact framed
  | cons frame outer =>
      by_cases released : worker.thread.held = []
      · rw [leave_eq framed frames released]
        obtain ⟨thread, _⟩ := worker
        subst frames
        cases framed with
        | within around isScope stands => exact around
      · -- Code that still holds scopes does not end.
        have same : worker.leave policy unwinding = worker := by
          unfold leave
          rw [frames]
          exact if_neg released
        rw [same]
        exact framed

end Worker

structure Tasks where
  workers : Nat → Worker
  submissions : List (Option Context)

/-- What may happen on a thread.  Tasks are numbered as they are submitted; a delegate
begins them in any order, on any thread, or never. -/
inductive TaskStep where
  | scope (thread : Nat) (step : ScopeStep)
  | submit (thread : Nat)
  | begin (thread task : Nat)
  | finish (thread : Nat) (unwinding : Bool)

namespace Tasks

def start (ambient : Nat → ScopeStack) : Tasks :=
  ⟨fun thread => .onStack (ambient thread), []⟩

def update (tasks : Tasks) (thread : Nat) (worker : Worker) : Tasks :=
  { tasks with workers := Function.update tasks.workers thread worker }

def begin (tasks : Tasks) (thread task : Nat) : Tasks :=
  match tasks.submissions[task]? with
  | none => tasks
  | some captured => tasks.update thread ((tasks.workers thread).enter captured)

def step (policy : ScopePolicy) (tasks : Tasks) : TaskStep → Tasks
  | .scope thread step => tasks.update thread ((tasks.workers thread).step policy step)
  | .submit thread =>
      { tasks with submissions := tasks.submissions ++ [(tasks.workers thread).current] }
  | .begin thread task => tasks.begin thread task
  | .finish thread unwinding =>
      tasks.update thread ((tasks.workers thread).leave policy unwinding)

def run (policy : ScopePolicy) (tasks : Tasks) (steps : List TaskStep) : Tasks :=
  steps.foldl (step policy) tasks

variable {tasks : Tasks}

def AllFramed (tasks : Tasks) : Prop :=
  ∀ thread, (tasks.workers thread).IsFramed

theorem start_framed {ambient : Nat → ScopeStack}
    (below : ∀ thread, (ambient thread).slots.size < ScopeStack.noPosition) :
    (start ambient).AllFramed :=
  fun thread => Worker.onStack_framed (below thread)

theorem AllFramed.update (framed : tasks.AllFramed) {thread : Nat} {worker : Worker}
    (isFramed : worker.IsFramed) : (tasks.update thread worker).AllFramed := by
  intro other
  change (Function.update tasks.workers thread worker other).IsFramed
  by_cases same : other = thread
  · subst same
    rw [Function.update_self]
    exact isFramed
  · rw [Function.update_of_ne same]
    exact framed other

theorem AllFramed.step (framed : tasks.AllFramed) (policy : ScopePolicy) (step : TaskStep) :
    (tasks.step policy step).AllFramed := by
  cases step with
  | scope thread step => exact framed.update (Worker.step_framed (framed thread) policy step)
  | submit thread => exact framed
  | begin thread task =>
      change (tasks.begin thread task).AllFramed
      unfold Tasks.begin
      cases tasks.submissions[task]? with
      | none => exact framed
      | some captured => exact framed.update (Worker.enter_framed (framed thread) captured)
  | finish thread unwinding =>
      exact framed.update (Worker.leave_framed (framed thread) policy unwinding)

theorem AllFramed.run (framed : tasks.AllFramed) (policy : ScopePolicy) (steps : List TaskStep) :
    (tasks.run policy steps).AllFramed := by
  induction steps generalizing tasks with
  | nil => exact framed
  | cons step rest ih => exact ih (framed.step policy step)

theorem run_submissions (policy : ScopePolicy) (steps : List TaskStep) {number : Nat}
    {captured : Option Context} (submitted : tasks.submissions[number]? = some captured) :
    (tasks.run policy steps).submissions[number]? = some captured := by
  induction steps generalizing tasks with
  | nil => exact submitted
  | cons step rest ih =>
      apply ih
      cases step with
      | scope thread step => exact submitted
      | submit thread =>
          obtain ⟨inside, _⟩ := List.getElem?_eq_some_iff.mp submitted
          exact (List.getElem?_append_left inside).trans submitted
      | begin thread task =>
          change (tasks.begin thread task).submissions[number]? = _
          unfold Tasks.begin
          cases tasks.submissions[task]? with
          | none => exact submitted
          | some captured => exact submitted
      | finish thread unwinding => exact submitted

theorem begin_worker (policy : ScopePolicy) {number : Nat} {captured : Option Context}
    (submitted : tasks.submissions[number]? = some captured) (thread : Nat) :
    (tasks.step policy (.begin thread number)).workers thread =
      (tasks.workers thread).enter captured := by
  change (tasks.begin thread number).workers thread = _
  unfold Tasks.begin
  rw [submitted]
  exact Function.update_self ..

/-- A task captures what is current where it is submitted, also from within another task.
Wherever it begins and has room, that is current, and none of the scopes that are open are
its own; and when it has ended with its scopes released, in any order and whether it crashed
or not, the thread has its context, its stack and its scopes exactly as before the task. -/
theorem run_in_captured (policy : ScopePolicy) {ambient : Nat → ScopeStack}
    (below : ∀ thread, (ambient thread).slots.size < ScopeStack.noPosition)
    (front : List TaskStep) :
    let tasks := (start ambient).run policy front
    (∀ thread later,
      ((tasks.step policy (.submit thread)).run policy later).submissions[tasks.submissions.length]? =
        some (tasks.workers thread).current) ∧
    ∀ (thread number : Nat) captured, tasks.submissions[number]? = some captured →
      let begun := tasks.step policy (.begin thread number)
      ((tasks.workers thread).thread.stack.hasRoom = true →
        (begun.workers thread).current = captured) ∧
      (begun.workers thread).thread.held = [] ∧
      ∀ body unwinding, let ended := begun.run policy body
        (ended.workers thread).frames = (begun.workers thread).frames →
          (ended.workers thread).thread.held = [] →
            (ended.step policy (.finish thread unwinding)).workers thread =
              tasks.workers thread := by
  intro tasks
  have framed : tasks.AllFramed := (start_framed below).run policy front
  constructor
  · intro thread later
    apply run_submissions
    exact List.getElem?_concat_length
  · intro thread number captured submitted begun
    have isBegun : begun.workers thread = (tasks.workers thread).enter captured :=
      begin_worker policy submitted thread
    refine ⟨?_, ?_, ?_⟩
    · intro room
      rw [isBegun]
      exact Scope.start_current room captured
    · rw [isBegun]
      rfl
    · intro body unwinding ended innermost released
      have isFramed : (ended.workers thread).IsFramed :=
        ((framed.step policy (.begin thread number)).run policy body) thread
      -- The frame is that of the beginning, so what waits around the task is what was there.
      rw [isBegun] at innermost
      change Function.update _ _ _ thread = _
      rw [Function.update_self]
      exact Worker.leave_eq isFramed innermost released policy unwinding

/-- On a stack with a hole the task crashes and releases its outer scope first. -/
theorem run_in_captured_above_hole :
    let context : Context := ⟨⟨0, 2⟩, ⟨2⟩, none, .undecided, false⟩
    let ambient : Nat → ScopeStack := fun thread =>
      if thread = 0 then ⟨some context, #[]⟩ else ⟨none, #[.restore (some context), .hole]⟩
    let begun := ((start ambient).run .lenient [.submit 0]).step .lenient (.begin 1 0)
    let ended := begun.run .lenient [.scope 1 (.start none), .scope 1 (.start (some context)),
      .scope 1 (.close 0 true), .submit 1, .scope 1 (.close 1 true)]
    (∀ thread, (ambient thread).slots.size < ScopeStack.noPosition) ∧
      (begun.workers 1).current = some context ∧ (ended.workers 1).thread.held = [] ∧
      (ended.step .lenient (.finish 1 true)).workers 1 = .onStack (ambient 1) := by
  intro context ambient begun ended
  have below : ∀ thread, (ambient thread).slots.size < ScopeStack.noPosition := by
    intro thread
    by_cases isFirst : thread = 0
    · rw [show ambient thread = ⟨some context, #[]⟩ from if_pos isFirst]
      decide
    · rw [show ambient thread = ⟨none, #[.restore (some context), .hole]⟩ from if_neg isFirst]
      decide
  obtain ⟨_, begins⟩ := run_in_captured .lenient below [.submit 0]
  obtain ⟨current, _, restored⟩ := begins 1 0 (some context) rfl
  have room : (ambient 1).hasRoom = true := by decide
  have released : (ended.workers 1).thread.held = [] := by decide +kernel
  have innermost : (ended.workers 1).frames = (begun.workers 1).frames := by
    simp only [ended, run, step, update, Worker.step, List.foldl_cons, List.foldl_nil,
      Function.update_self]
  exact ⟨below, current room, released, restored _ true innermost released⟩

end Tasks

end SpanTrail
