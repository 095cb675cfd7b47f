import Mathlib.Data.List.Induction
import SpanTrail.Proofs.Scope.Frames
import SpanTrail.Scenario.Run

/-! Runs of scenarios.  However a list of steps opens and closes scopes, the stack of its place
stays a tower above the stack that it began with, and the open layers of the tower are the scopes
that the place lists.  Tasks leave the stack on which they run as it was, whatever their steps do
with scopes, and also if they submit and run further tasks. -/

namespace SpanTrail.Scenario

def openScopes (entries : List (Option Scope)) : List Scope :=
  (entries.reverse.filterMap id).filter (· ≠ .idle)

theorem openScopes_append (older newer : List (Option Scope)) :
    openScopes (older ++ newer) = openScopes newer ++ openScopes older := by
  unfold openScopes
  rw [List.reverse_append, List.filterMap_append, List.filter_append]

theorem openScopes_gap : openScopes [none] = [] := rfl

theorem openScopes_idle : openScopes [some .idle] = [] := rfl

theorem openScopes_opened (position : Nat) (expected : Option Context) :
    openScopes [some (.opened position expected)] = [.opened position expected] := rfl

/-- Whether a stack is a tower above another one whose open layers are the scopes of the
entries. -/
def Above (base stack : ScopeStack) (entries : List (Option Scope)) : Prop :=
  ∃ thread tower, ScopeThread.Stands base thread tower ∧ thread.stack = stack ∧
    thread.held.map HeldScope.scope = openScopes entries

section Above

variable {base stack : ScopeStack} {entries : List (Option Scope)}

theorem above_self (fits : base.slots.size < ScopeStack.noPosition) : Above base base [] :=
  ⟨.onStack base, .ground, ScopeThread.onStack_stands fits, rfl, rfl⟩

theorem Above.fits (above : Above base stack entries) :
    stack.slots.size < ScopeStack.noPosition := by
  obtain ⟨thread, tower, stands, rfl, _⟩ := above
  rw [stands.size_eq]
  exact stands.fits

theorem Above.start (above : Above base stack entries) (context : Option Context) :
    Above base (Scope.start stack context).stack
      (entries ++ [some (Scope.start stack context).scope]) := by
  obtain ⟨thread, tower, stands, rfl, scopes⟩ := above
  obtain ⟨raised, stillStands⟩ := ScopeThread.start_stands stands context
  refine ⟨thread.start context, raised, stillStands, rfl, ?_⟩
  rw [openScopes_append, ← scopes]
  rfl

theorem Above.startIfNew (above : Above base stack entries) (context : Option Context) :
    Above base (Scope.startIfNew stack context).stack
      (entries ++ [some (Scope.startIfNew stack context).scope]) := by
  unfold Scope.startIfNew
  split
  · obtain ⟨thread, tower, stands, same, scopes⟩ := above
    refine ⟨thread, tower, stands, same, ?_⟩
    rw [scopes, openScopes_append, openScopes_idle]
    rfl
  · exact above.start context

/-- Releasing one of the scopes, wherever it stands, leaves the others. -/
theorem Above.close {older newer : List (Option Scope)} {scope : Scope}
    (above : Above base stack (older ++ some scope :: newer)) (policy : ScopePolicy)
    (unwinding : Bool) :
    Above base (scope.close policy unwinding stack).stack (older ++ newer) := by
  obtain ⟨thread, tower, stands, rfl, scopes⟩ := above
  rw [← List.singleton_append, openScopes_append, openScopes_append] at scopes
  cases scope with
  | idle =>
      refine ⟨thread, tower, stands, rfl, ?_⟩
      rw [scopes, openScopes_idle, openScopes_append]
      exact List.append_assoc _ [] _
  | opened position expected =>
      rw [openScopes_opened, List.append_assoc] at scopes
      -- The scope is found among those that are held by its place among the entries.
      obtain ⟨front, rest, parts, isNewer, isRest⟩ := List.map_eq_append_iff.mp scopes
      obtain ⟨held, back, restParts, isScope, isOlder⟩ := List.map_eq_cons_iff.mp isRest
      rw [restParts] at parts
      obtain ⟨lowered, stillStands⟩ := ScopeThread.remove_stands policy stands parts unwinding
      rw [isScope] at stillStands
      refine ⟨_, lowered, stillStands, rfl, ?_⟩
      rw [List.map_append, isNewer, openScopes_append]
      exact congrArg (openScopes newer ++ ·) isOlder

theorem Above.gap_iff {older newer : List (Option Scope)} :
    Above base stack (older ++ none :: newer) ↔ Above base stack (older ++ newer) := by
  have scopes : openScopes (older ++ none :: newer) = openScopes (older ++ newer) := by
    rw [← List.singleton_append, openScopes_append, openScopes_append, openScopes_append,
      openScopes_gap, List.append_nil]
  unfold Above
  rw [scopes]

theorem Above.eq_base (above : Above base stack entries) (released : openScopes entries = []) :
    stack = base := by
  obtain ⟨thread, tower, stands, rfl, scopes⟩ := above
  rw [released, List.map_eq_nil_iff] at scopes
  apply stands.stack_eq_base
  unfold ScopeThread.inEffect
  rw [scopes]
  rfl

theorem Above.unwindAll {scopes order : List Scope}
    (above : Above base stack (entries ++ scopes.map some)) (rearranged : scopes.Perm order)
    (policy : ScopePolicy) : Above base (unwindAll policy stack order).1 entries := by
  unfold Scenario.unwindAll
  generalize ([] : List Event) = events
  induction order generalizing scopes stack events with
  | nil =>
      rw [List.Perm.eq_nil rearranged, List.map_nil, List.append_nil] at above
      exact above
  | cons scope rest ih =>
      obtain ⟨older, newer, rfl⟩ :=
        List.append_of_mem (rearranged.mem_iff.mpr List.mem_cons_self)
      have others : (older ++ newer).Perm rest :=
        (List.perm_middle.symm.trans rearranged).cons_inv
      rw [List.map_append, List.map_cons, ← List.append_assoc] at above
      have closed := above.close policy true
      rw [List.append_assoc, ← List.map_append] at closed
      exact ih closed others _

theorem Above.openAll (above : Above base stack entries) (contexts : List (Option Context)) :
    Above base (openAll stack contexts).1
      (entries ++ (openAll stack contexts).2.1.reverse.map some) := by
  unfold Scenario.openAll
  suffices general : ∀ (opened : List Scope) (events : List Event),
      Above base stack (entries ++ opened.reverse.map some) →
        let after := contexts.foldl
          (fun sofar context =>
            let opening := Scope.start sofar.1 context
            (opening.stack, opening.scope :: sofar.2.1, sofar.2.2 ++ opening.events))
          (stack, opened, events)
        Above base after.1 (entries ++ after.2.1.reverse.map some) by
    apply general [] []
    rw [List.reverse_nil, List.map_nil, List.append_nil]
    exact above
  clear above
  intro opened events above
  induction contexts generalizing stack opened events with
  | nil => exact above
  | cons context rest ih =>
      apply ih
      have started := above.start context
      rw [List.append_assoc, ← List.map_singleton, ← List.map_append] at started
      rw [List.reverse_cons]
      exact started

end Above

/-! ### Actions -/

def Place.Stands (base : ScopeStack) (place : Place) : Prop :=
  Above base place.stack place.scopes.toList

section Place

variable {base : ScopeStack} {place : Place} {session : Session}

theorem onStack_stands (fits : base.slots.size < ScopeStack.noPosition) :
    (Place.onStack base).Stands base :=
  above_self fits

theorem opened_stands {start : ScopeStack → Scope.Opening}
    (above : Above base (start place.stack).stack
      (place.scopes.toList ++ [some (start place.stack).scope])) :
    (opened session place start).place.Stands base := by
  change Above _ _ (place.scopes.push (some (start place.stack).scope)).toList
  rw [Array.toList_push]
  exact above

theorem pushMany_stands (stands : place.Stands base) (parent : Context) (identity : UInt64)
    (count : Nat) : (pushMany parent session place identity count).place.Stands base := by
  induction count generalizing session place identity with
  | zero => exact stands
  | succ count ih =>
      unfold pushMany
      cases parent.child ⟨identity⟩ with
      | error cause => exact stands
      | ok child =>
          apply ih
          change Above _ _ (place.scopes.push (some _)).toList
          rw [Array.toList_push]
          exact stands.start (some child)

theorem closeAt_stands (stands : place.Stands base) (index : Nat) :
    (closeAt session place index).place.Stands base := by
  obtain ⟨stack, scopes⟩ := place
  unfold closeAt
  cases found : scopes[index]?.getD none with
  | none => exact stands
  | some scope =>
      have listed : scopes.toList[index]? = some (some scope) := by
        rw [Array.getElem?_toList]
        exact Option.getD_eq_iff.mp found |>.resolve_right (fun absent => nomatch absent.2)
      obtain ⟨inside, isScope⟩ := List.getElem?_eq_some_iff.mp listed
      obtain ⟨older, newer, parts, _, replaced⟩ :
          ∃ older newer, scopes.toList = older ++ some scope :: newer ∧ older.length = index ∧
            scopes.toList.set index none = older ++ none :: newer :=
        isScope ▸ List.exists_of_set inside
      have closed : Above base (scope.close session.agent.policy false stack).stack
          (scopes.setIfInBounds index none).toList := by
        rw [Array.toList_setIfInBounds, replaced]
        change Above base stack scopes.toList at stands
        rw [parts] at stands
        exact Above.gap_iff.mpr (stands.close session.agent.policy false)
      dsimp only
      split
      · exact closed
      · exact closed

theorem closeMany_stands (stands : place.Stands base) (count : Nat) :
    (closeMany session place count).place.Stands base := by
  induction count generalizing session place with
  | zero => exact stands
  | succ count ih =>
      obtain ⟨stack, scopes⟩ := place
      rw [closeMany]
      dsimp only
      cases newest : scopes.back? with
      | none =>
          rw [Array.back?_eq_none_iff.mp newest] at stands ⊢
          exact ih stands
      | some entry =>
          obtain ⟨others, rfl⟩ := Array.back?_eq_some_iff.mp newest
          change Above base stack (others.push entry).toList at stands
          rw [Array.toList_push] at stands
          rw [Array.pop_push]
          cases entry with
          | none =>
              rw [Above.gap_iff, List.append_nil] at stands
              exact ih stands
          | some scope =>
              have closed := stands.close session.agent.policy false
              rw [List.append_nil] at closed
              dsimp only
              split
              · exact closed
              · exact ih closed

theorem crashIn_stands (stands : place.Stands base) (contexts : List (Option Context))
    (oldestFirst : Bool) (text : String) :
    (crashIn session place contexts oldestFirst text).place.Stands base := by
  change Above base (unwindAll session.agent.policy (openAll place.stack contexts).1
    (if oldestFirst then (openAll place.stack contexts).2.1.reverse
      else (openAll place.stack contexts).2.1)).1 place.scopes.toList
  apply (stands.openAll contexts).unwindAll
  cases oldestFirst with
  | true => exact .refl _
  | false => exact List.reverse_perm _

theorem polls_stack (policy : ScopePolicy) (carried : Option Context) (crashes : Bool)
    (left : Nat) (stack : ScopeStack) :
    (polls policy carried crashes left stack).stack = stack := by
  induction left generalizing stack with
  | zero => exact Scope.close_start policy _ stack carried
  | succ left ih =>
      unfold polls
      dsimp only
      split
      next earlier isSame _ =>
        obtain rfl : left = earlier := Nat.succ.inj isSame
        exact (ih _).trans (Scope.close_start policy _ stack carried)
      next => exact Scope.close_start policy _ stack carried

theorem pollsWithin_stack (policy : ScopePolicy) (ambient : Option (Option Context))
    (carried : Option Context) (crashes : Bool) (pending : Nat) (stack : ScopeStack) :
    (pollsWithin policy ambient carried crashes pending stack).1.stack = stack := by
  cases ambient with
  | none => exact polls_stack policy carried crashes pending stack
  | some ambient =>
      change (Scope.close policy false _ (polls policy carried crashes pending _).stack).stack = _
      rw [polls_stack]
      exact Scope.close_start policy false stack ambient

theorem proceed_stands {Value : Type} (value : Except Failure Value) (stands : place.Stands base)
    {next : Value → Performed} (after : ∀ value, (next value).place.Stands base) :
    (proceed value session place next).place.Stands base := by
  cases value with
  | ok value => exact after value
  | error cause => exact stands

theorem runFuture_stands (stands : place.Stands base) (future : Future) :
    (runFuture session place future).place.Stands base := by
  unfold runFuture
  apply proceed_stands _ stands
  intro carried
  apply proceed_stands _ stands
  intro ambient
  have same := pollsWithin_stack session.agent.policy ambient carried future.crashes
    future.pending place.stack
  dsimp only
  cases future.onThread with
  | true =>
      split
      · exact stands
      · exact stands
  | false =>
      have unchanged : Place.Stands base
          { place with stack := (pollsWithin session.agent.policy ambient carried future.crashes
              future.pending place.stack).1.stack } := by
        rw [same]
        exact stands
      split
      · exact unchanged
      · exact unchanged

theorem perform_stands (stands : place.Stands base) (action : Action) :
    (perform session place action).place.Stands base := by
  cases action with
  | scope span =>
      cases span with
      | none => exact opened_stands (stands.start none)
      | some index =>
          exact proceed_stands _ stands fun span => opened_stands (stands.start _)
  | push reference =>
      exact proceed_stands _ stands fun context => opened_stands (stands.start context)
  | pushIfNew reference =>
      exact proceed_stands _ stands fun context => opened_stands (stands.startIfNew context)
  | close index => exact closeAt_stands stands index
  | pushMany reference count =>
      exact proceed_stands _ stands fun parent => pushMany_stands stands parent _ count
  | closeMany count => exact closeMany_stands stands count
  | crashInScopes references oldestFirst text =>
      exact proceed_stands _ stands fun contexts => crashIn_stands stands contexts oldestFirst text
  | future future => exact runFuture_stands stands future
  | currentSpan =>
      rw [perform]
      split
      · exact stands
      · exact stands
  | clientSendWith index form =>
      exact proceed_stands _ stands fun request => proceed_stands _ stands fun span => stands
  -- Nothing else touches the stack.
  | _ => first | exact stands | exact proceed_stands _ stands fun _ => stands

/-- The scopes that are still open are released at the end, so that the stack is the one
that the place began with. -/
theorem abandon_eq (stands : place.Stands base) (policy : ScopePolicy) :
    place.abandon policy = base := by
  obtain ⟨stack, scopes⟩ := place
  unfold Place.abandon
  change Above base stack scopes.toList at stands
  rw [← Array.foldr_toList]
  generalize scopes.toList = entries at stands
  induction entries using List.reverseRecOn generalizing stack with
  | nil => exact stands.eq_base rfl
  | append_singleton older newest ih =>
      rw [List.foldr_append, List.foldr_cons, List.foldr_nil]
      apply ih
      cases newest with
      | none =>
          rw [Above.gap_iff, List.append_nil] at stands
          exact stands
      | some scope =>
          have closed := stands.close policy false
          rw [List.append_nil] at closed
          exact closed

/-- When a place that began with a scope is left, crashing or not, the stack is the one below
that scope. -/
theorem close_abandoned {stack : ScopeStack} {context : Option Context}
    (stands : place.Stands (Scope.start stack context).stack) (policy : ScopePolicy)
    (unwinding : Bool) :
    ((Scope.start stack context).scope.close policy unwinding (place.abandon policy)).stack =
      stack := by
  rw [abandon_eq stands, Scope.close_start]

end Place

variable {queue : List Task} {session : Session} {place : Place} {stack : ScopeStack}

theorem runSteps_action (action : Action) (rest : List Step) :
    let performed := perform session place action
    let reported := report (.ofAction performed.result) performed.session performed.place.stack
    (runSteps queue session place (.action action :: rest)).val =
      (runSteps queue reported.2 performed.place rest).val.after reported.1 := by
  rw [runSteps]

theorem runSteps_submit (steps : List Step) (wrapped : Bool) (crash : Option String)
    (rest : List Step) :
    let reported := report (.done (submission session.agent.policy wrapped)) session place.stack
    (runSteps queue session place (.submit steps wrapped crash :: rest)).val =
      (runSteps (queue ++ [⟨place.stack.current, steps, crash⟩]) reported.2 place
        rest).val.after reported.1 := by
  rw [runSteps]

theorem runSteps_thread (steps rest : List Step) :
    let nested := (runSteps queue session .fresh steps).val
    let reported := report (.steps nested.reports) nested.session place.stack
    (runSteps queue session place (.thread steps :: rest)).val =
      (runSteps nested.queue reported.2 place rest).val.after reported.1 := by
  rw [runSteps]

theorem runSteps_runTasks (newestFirst onThread : Bool) (rest : List Step) :
    let nested := (runTasks [] session (if onThread then .empty else place.stack)
      (ordered newestFirst queue)).val
    let after := if onThread then place else { place with stack := nested.stack }
    let reported := report (.tasks nested.reports) nested.session after.stack
    (runSteps queue session place (.runTasks newestFirst onThread :: rest)).val =
      (runSteps nested.queue reported.2 after rest).val.after reported.1 := by
  rw [runSteps]

theorem runTasks_cons (task : Task) (rest : List Task) :
    let opening := Scope.start stack task.captured
    let inner := (runSteps queue (session.log opening.events) (.onStack opening.stack)
      task.steps).val
    let closing := opening.scope.close session.agent.policy task.crash.isSome
      (inner.place.abandon session.agent.policy)
    let later := (runTasks inner.queue (inner.session.log closing.events) closing.stack rest).val
    (runTasks queue session stack (task :: rest)).val =
      { later with
        reports := .mk inner.reports (task.crash <|> closing.crash) closing.stack.current ::
          later.reports } := by
  rw [runTasks]

section Chosen

variable {base : ScopeStack} {onThread : Bool}

/-- Tasks run on the stack of the place or on that of a new thread. -/
theorem fits_chosen (stands : place.Stands base) :
    (if onThread then ScopeStack.empty else place.stack).slots.size < ScopeStack.noPosition := by
  cases onThread with
  | true =>
      change ScopeStack.empty.slots.size < ScopeStack.noPosition
      decide
  | false => exact stands.fits

theorem stands_chosen (stands : place.Stands base) {left : ScopeStack}
    (kept : left = if onThread then .empty else place.stack) :
    Place.Stands base (if onThread then place else { place with stack := left }) := by
  cases onThread with
  | true => exact stands
  | false =>
      change Above base left place.scopes.toList
      rw [show left = place.stack from kept]
      exact stands

end Chosen

/-- The steps of a place keep its scopes above the stack that it began with, and tasks keep the
stack itself. -/
theorem runs_stand :
    (∀ (queue : List Task) (session : Session) (place : Place) (steps : List Step)
        (base : ScopeStack),
      place.Stands base → (runSteps queue session place steps).val.place.Stands base) ∧
    ∀ (queue : List Task) (session : Session) (stack : ScopeStack) (tasks : List Task),
      stack.slots.size < ScopeStack.noPosition →
        (runTasks queue session stack tasks).val.stack = stack := by
  -- Four kinds of steps come first, and the tasks last.
  apply runSteps.mutual_induct
    (fun queue session place steps => ∀ base : ScopeStack, place.Stands base →
      (runSteps queue session place steps).val.place.Stands base)
    (fun queue session stack tasks => stack.slots.size < ScopeStack.noPosition →
      (runTasks queue session stack tasks).val.stack = stack)
  case case1 =>
    intro queue session place base stands
    rw [runSteps]
    exact stands
  case case2 =>
    intro queue session place action rest result session' after performed first _ reported
      later _ _ ih base stands
    have changed : Place.Stands base (perform session place action).place :=
      perform_stands stands action
    simp only [runSteps_action, performed, reported] at changed ⊢
    exact ih base changed
  case case3 =>
    intro queue session place inner wrapped crash rest first _ reported later _ _ ih base
      stands
    simp only [runSteps_submit, reported]
    exact ih base stands
  case case4 =>
    intro queue session place inner rest nested _ isNested first _ reported later _ _ _ ih
      base stands
    rw [runSteps_thread, isNested, reported]
    exact ih base stands
  case case5 =>
    intro queue session place newestFirst onThread rest nested _ isNested _ after first _ reported
      later _ _ nestedIh ih base stands
    have stays : after.Stands base := by
      have kept := nestedIh (fits_chosen stands)
      rw [isNested] at kept
      exact stands_chosen stands kept
    rw [dite_eq_ite] at isNested
    rw [runSteps_runTasks, isNested]
    change Place.Stands base
      (runSteps nested.queue (report (.tasks nested.reports) nested.session after.stack).2 after
        rest).val.place
    rw [reported]
    exact ih base stays
  case case6 =>
    intro queue session stack fits
    rw [runTasks]
  case case7 =>
    intro queue session stack task rest entered scope _ started inner _ isInner policy left _ _
      isClosed later _ _ innerIh ih fits
    have isEntered : (Scope.start stack task.captured).stack = entered :=
      congrArg Scope.Opening.stack started
    have restored : left = stack := by
      have stands := innerIh entered (onStack_stands (isEntered ▸ Scope.start_fits fits _))
      rw [isInner, ← isEntered] at stands
      have closed := close_abandoned stands policy task.crash.isSome
      rw [started, isClosed] at closed
      exact closed
    rw [runTasks_cons]
    dsimp only
    rw [started]
    dsimp only
    rw [isInner]
    dsimp only
    rw [isClosed]
    dsimp only
    rw [restored] at ih ⊢
    exact ih fits

theorem runSteps_stands {base : ScopeStack} (stands : place.Stands base) (steps : List Step) :
    (runSteps queue session place steps).val.place.Stands base :=
  runs_stand.1 queue session place steps base stands

/-- Tasks leave the stack on which they run as they found it. -/
theorem runTasks_stack (fits : stack.slots.size < ScopeStack.noPosition) (tasks : List Task) :
    (runTasks queue session stack tasks).val.stack = stack :=
  runs_stand.2 queue session stack tasks fits

def TaskReport.current : TaskReport → Option Context
  | .mk _ _ current => current

theorem runTasks_current (fits : stack.slots.size < ScopeStack.noPosition) (tasks : List Task) :
    ∀ report ∈ (runTasks queue session stack tasks).val.reports,
      report.current = stack.current := by
  induction tasks generalizing queue session with
  | nil =>
      rw [runTasks]
      intro report member
      cases member
  | cons task rest ih =>
      intro report member
      have stands : Place.Stands (Scope.start stack task.captured).stack
          (runSteps queue (session.log (Scope.start stack task.captured).events)
            (.onStack (Scope.start stack task.captured).stack) task.steps).val.place :=
        runSteps_stands (onStack_stands (Scope.start_fits fits task.captured)) task.steps
      rw [runTasks_cons] at member
      dsimp only at member
      rw [close_abandoned stands] at member
      rcases List.mem_cons.mp member with isFirst | later
      · rw [isFirst]
        rfl
      · exact ih report later

end SpanTrail.Scenario
