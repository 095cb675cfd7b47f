import SpanTrail.Scenario.Session

/-! Running the steps of a scenario.  Each poll of a future runs within a scope of the context
that the future carries.  Submitted tasks wait in a queue.  Every step is run at most once, so
the steps still to be run and those of the waiting tasks together grow fewer. -/

namespace SpanTrail.Scenario

structure Polls where
  stack : ScopeStack
  events : List Event
  within : List (Option Context)
  between : List (Option Context)
  crash : Option String

def pollCrash : String := "poll failed"

/-- Polls until nothing is left to wait for, or until a poll crashes.  `left` counts
the polls before the last one. -/
def polls (policy : ScopePolicy) (carried : Option Context) (crashes : Bool) :
    (left : Nat) → ScopeStack → Polls
  | left, stack =>
      let opening := Scope.start stack carried
      let crashing := crashes && left == 0
      let closing := opening.scope.close policy crashing opening.stack
      let events := opening.events ++ closing.events
      let within := opening.stack.current
      let between := closing.stack.current
      let crash := if crashing then some pollCrash else closing.crash
      match left, crash with
      | left + 1, none =>
          let rest := polls policy carried crashes left closing.stack
          ⟨rest.stack, events ++ rest.events, within :: rest.within, between :: rest.between,
            rest.crash⟩
      | _, crash => ⟨closing.stack, events, [within], [between], crash⟩

/-- Polls within a scope of another context, if there is one.  That scope is released
after the last poll, crashed or not; the text of the crash of its release comes with
the polls. -/
def pollsWithin (policy : ScopePolicy) (ambient : Option (Option Context))
    (carried : Option Context) (crashes : Bool) (pending : Nat) (stack : ScopeStack) :
    Polls × Option String :=
  match ambient with
  | none => (polls policy carried crashes pending stack, none)
  | some ambient =>
      let opening := Scope.start stack ambient
      let inner := polls policy carried crashes pending opening.stack
      let closing := opening.scope.close policy false inner.stack
      ({ inner with
          stack := closing.stack
          events := opening.events ++ inner.events ++ closing.events },
        closing.crash)

/-- What an action came to, and the session and the place after it.  A failure keeps
what was done before it. -/
structure Performed where
  result : Except Failure Outcome
  session : Session
  place : Place

namespace Performed

def done (outcome : Outcome) (session : Session) (place : Place) : Performed :=
  ⟨.ok outcome, session, place⟩

def failed (cause : Failure) (session : Session) (place : Place) : Performed :=
  ⟨.error cause, session, place⟩

end Performed

section

open Performed

def proceed {α : Type} (value : Except Failure α) (session : Session) (place : Place)
    (next : α → Performed) : Performed :=
  match value with
  | .ok value => next value
  | .error cause => failed cause session place

def addSpan (session : Session) (place : Place) (span : Span) (agent : Agent)
    (carrier : Option Carrier) : Performed :=
  match session with
  | ⟨_, separate, http, spans⟩ =>
      done (.span spans.size span carrier) ⟨agent, separate, http, spans.push span⟩ place

def addMade (session : Session) (place : Place) (made : Span × Agent) : Performed :=
  addSpan session place made.1 made.2 none

def changed (session : Session) (place : Place) (agent : Agent) : Performed :=
  done .nothing { session with agent := agent } place

def origin (session : Session) : Origin → Except Failure Extraction
  | .context reference => (session.context reference).map .whole
  | .fields fields => .ok (B3.extract (Carrier.emptyMap.setAll fields))
  | .state sampling => .ok (.lone sampling)

def sharedCalls (threads times : Nat) (shared : SharedCall) : List SpanCall :=
  (List.range threads).flatMap fun thread =>
    (List.range times).map fun time =>
      match shared with
      | .call call => call
      | .tag => .update (.tag ("k" ++ toString thread ++ "-" ++ toString time) "v")

def opened (session : Session) (place : Place) (start : ScopeStack → Scope.Opening) :
    Performed :=
  let (session, place) := place.openScope session start
  let index := place.scopes.size - 1
  done (.scope index ((place.scopes.back?.getD none).getD .idle)) session place

/-- Closes a scope of the list.  It counts as closed even if its release crashes. -/
def closeAt (session : Session) (place : Place) (index : Nat) : Performed :=
  match place.scopes[index]?.getD none with
  | none => done (.closed false) session place
  | some scope =>
      let place := { place with scopes := place.scopes.setIfInBounds index none }
      let (crash, session, place) := place.release session scope
      match crash with
      | some text => failed (.crash text) session place
      | none => done (.closed true) session place

/-- Opens scopes of children of a span whose identities follow that of the span, up to
the first identity that denotes no span. -/
def pushMany (parent : Context) (session : Session) (place : Place) (identity : UInt64) :
    (count : Nat) → Performed
  | 0 =>
      let count := place.scopes.size
      done (.scopes count) session place
  | count + 1 =>
      match parent.child ⟨identity⟩ with
      | .error cause => failed (.error cause) session place
      | .ok child =>
          let (session, place) := place.openScope session fun stack =>
            Scope.start stack (some child)
          pushMany parent session place (identity + 1) count

/-- Takes the newest scopes off the list, closing those that are still open, up to the
first one whose release crashes. -/
def closeMany (session : Session) (place : Place) : (count : Nat) → Performed
  | 0 =>
      let count := place.scopes.size
      done (.scopes count) session place
  | count + 1 =>
      match place with
      | ⟨stack, scopes⟩ =>
          let newest := scopes.back?
          let place := ⟨stack, scopes.pop⟩
          match newest with
          | some (some scope) =>
              let (crash, session, place) := place.release session scope
              match crash with
              | some text => failed (.crash text) session place
              | none => closeMany session place count
          | _ => closeMany session place count

def openAll (stack : ScopeStack) (contexts : List (Option Context)) :
    ScopeStack × List Scope × List Event :=
  contexts.foldl
    (fun sofar context =>
      let opening := Scope.start sofar.1 context
      (opening.stack, opening.scope :: sofar.2.1, sofar.2.2 ++ opening.events))
    (stack, [], [])

def unwindAll (policy : ScopePolicy) (stack : ScopeStack) (scopes : List Scope) :
    ScopeStack × List Event :=
  scopes.foldl
    (fun sofar scope =>
      let closing := scope.close policy true sofar.1
      (closing.stack, sofar.2 ++ closing.events))
    (stack, [])

def crashIn (session : Session) (place : Place) (contexts : List (Option Context))
    (oldestFirst : Bool) (text : String) : Performed :=
  let (stack, scopes, opening) := openAll place.stack contexts
  let order := if oldestFirst then scopes.reverse else scopes
  let (stack, closing) := unwindAll session.agent.policy stack order
  failed (.crash text) (session.log (opening ++ closing)) { place with stack := stack }

/-- Polls a future to its end, on a new thread or on the running one.  A crash of a
poll is part of the outcome; a crash of the scope around the polls is a failure. -/
def runFuture (session : Session) (place : Place) (future : Future) : Performed :=
  let carried :=
    match future.carried with
    | some reference => session.context? reference
    | none => .ok place.stack.current
  let ambient :=
    match future.ambient with
    | some reference => (session.context? reference).map some
    | none => .ok none
  proceed carried session place fun carried =>
    proceed ambient session place fun ambient =>
      let stack := if future.onThread then .empty else place.stack
      let (run, crash) :=
        pollsWithin session.agent.policy ambient carried future.crashes future.pending stack
      let session := session.log run.events
      let place := if future.onThread then place else { place with stack := run.stack }
      match crash with
      | some text => failed (.crash text) session place
      | none => done (.polled ⟨carried, run.within, run.between, run.crash⟩) session place

/-! ### Actions -/

def perform (session : Session) (place : Place) : Action → Performed
  | .root => addMade session place session.agent.root
  | .rootWith sampling => addMade session place (session.agent.rootWith sampling)
  | .join reference =>
      proceed (session.context reference) session place fun context =>
        addMade session place (session.agent.join context)
  | .child reference =>
      proceed (session.context reference) session place fun context =>
        addMade session place (session.agent.child context)
  | .handleOf reference =>
      proceed (session.context reference) session place fun context =>
        addMade session place (session.agent.handleOf context)
  | .next source overrides =>
      proceed (origin session source) session place fun extracted =>
        addMade session place (session.agent.next extracted overrides)
  | .nextFromCurrent => addMade session place (session.agent.nextFrom place.stack.current)
  | .currentSpan =>
      match place.stack.current with
      | none => done .nothing session place
      | some context => addMade session place (session.agent.handleOf context)
  | .idleSpan reference =>
      proceed (session.context reference) session place fun context =>
        addMade session place (⟨context, true⟩, session.agent)
  | .clientSend form =>
      proceed (form.read session.http.view) session place fun request =>
        let (span, carrier, agent) :=
          Http.clientSend session.http session.agent place.stack.current
            session.http.emptyCarrier request
        addSpan session place span agent (some carrier)
  | .clientSendWith index form =>
      proceed (form.read session.http.view) session place fun request =>
        proceed (session.span index) session place fun span =>
          addMade session place
            (span, Http.clientSendWith session.http session.agent request span)
  | .serverReceive form =>
      proceed (form.read session.http.view) session place fun request =>
        addMade session place
          (Http.serverReceive session.http session.agent request.carrier request)
  | .calls index calls =>
      proceed (session.span index) session place fun span =>
        changed session place (session.agent.callAll span calls)
  | .complete index status fault =>
      proceed (session.span index) session place fun span =>
        changed session place (Http.complete session.http session.agent status fault span)
  | .concurrent index threads times shared =>
      proceed (session.span index) session place fun span =>
        changed session place (session.agent.callAll span (sharedCalls threads times shared))
  | .record reference call =>
      proceed (session.context reference) session place fun context =>
        done .nothing (session.record context call) place
  | .tracks reference =>
      proceed (session.context reference) session place fun context =>
        done (.truth (session.ledger.tracks context)) session place
  | .setClock time => changed session place (session.agent.setClock time)
  | .advanceClock time => changed session place (session.agent.advanceClock time)
  | .now => done (.time session.agent.clock) session place
  | .inject reference fields =>
      proceed (session.context reference) session place fun context =>
        let carrier := Carrier.emptyMap.setAll fields
        done (.carrier (B3.inject session.agent.encoding context carrier)) session place
  | .extract fields =>
      done (.extraction (B3.extract (Carrier.emptyMap.setAll fields))) session place
  | .scope none => opened session place fun stack => Scope.start stack none
  | .scope (some index) =>
      proceed (session.span index) session place fun span =>
        opened session place fun stack => Scope.start stack (Span.scopeContext (some span))
  | .push reference =>
      proceed (session.context? reference) session place fun context =>
        opened session place fun stack => Scope.start stack context
  | .pushIfNew reference =>
      proceed (session.context? reference) session place fun context =>
        opened session place fun stack => Scope.startIfNew stack context
  | .close index => closeAt session place index
  | .pushMany reference count =>
      proceed (session.context reference) session place fun parent =>
        pushMany parent session place parent.spanId.value count
  | .closeMany count => closeMany session place count
  | .look => done .nothing session place
  | .crashInScopes references oldestFirst text =>
      proceed (references.mapM session.context?) session place fun contexts =>
        crashIn session place contexts oldestFirst text
  | .future future => runFuture session place future
  | .describe =>
      done
        (.description session.agent.describeMaker session.agent.describe
          session.ledger.describe (session.spans.toList.map Span.describe))
        session place
  | .describeHttp =>
      done (.httpDescription session.http session.agent.describeMaker) session place

end

structure Task where
  captured : Option Context
  steps : List Step
  crash : Option String

def Task.weight (task : Task) : Nat :=
  1 + weights task.steps

def backlog (tasks : List Task) : Nat :=
  tasks.foldr (fun task later => task.weight + later) 0

theorem backlog_cons (task : Task) (rest : List Task) :
    backlog (task :: rest) = 1 + weights task.steps + backlog rest := rfl

theorem backlog_append (first second : List Task) :
    backlog (first ++ second) = backlog first + backlog second := by
  induction first with
  | nil => exact (Nat.zero_add _).symm
  | cons task rest ih =>
      rw [List.cons_append, backlog_cons, backlog_cons, ih]
      exact (Nat.add_assoc _ _ _).symm

theorem backlog_reverse (tasks : List Task) : backlog tasks.reverse = backlog tasks := by
  induction tasks with
  | nil => rfl
  | cons task rest ih =>
      rw [List.reverse_cons, backlog_append, ih, backlog_cons, backlog_cons]
      exact Nat.add_comm _ _

structure StepsRun where
  queue : List Task
  session : Session
  place : Place
  reports : List Report

structure TasksRun where
  queue : List Task
  session : Session
  stack : ScopeStack
  reports : List TaskReport

def report (result : Result) (session : Session) (stack : ScopeStack) : Report × Session :=
  let (aftermath, session) := session.takeAftermath stack
  (.mk result aftermath, session)

def Result.ofAction : Except Failure Outcome → Result
  | .ok outcome => .done outcome
  | .error cause => .failed cause

def submission (policy : ScopePolicy) (wrapped : Bool) : Outcome :=
  if wrapped then .nothing
  else .executor (Layout.openRecord "ContextExecutor" [("current", policy.label)])

def StepsRun.after (run : StepsRun) (first : Report) : StepsRun :=
  { run with reports := first :: run.reports }

def ordered (newestFirst : Bool) (queue : List Task) : List Task :=
  if newestFirst then queue.reverse else queue

theorem backlog_ordered (newestFirst : Bool) (queue : List Task) :
    backlog (ordered newestFirst queue) = backlog queue := by
  unfold ordered
  split
  · exact backlog_reverse queue
  · rfl

theorem backlog_submit (queue : List Task) (captured : Option Context) (steps : List Step)
    (crash : Option String) :
    backlog (queue ++ [⟨captured, steps, crash⟩]) = backlog queue + (1 + weights steps) := by
  rw [backlog_append, backlog_cons]
  rfl

mutual

def runSteps (queue : List Task) (session : Session) (place : Place) (steps : List Step) :
    { run : StepsRun // backlog run.queue ≤ backlog queue + weights steps } :=
  match steps with
  | [] => ⟨⟨queue, session, place, []⟩, Nat.le_add_right _ _⟩
  | .action action :: rest =>
      match perform session place action with
      | ⟨result, session, place⟩ =>
          match report (.ofAction result) session place.stack with
          | (first, session) =>
              match runSteps queue session place rest with
              | ⟨later, laterBound⟩ =>
                  ⟨later.after first, by
                    simp only [weights, Step.weight, StepsRun.after]
                    omega⟩
  | .submit inner wrapped crash :: rest =>
      match report (.done (submission session.agent.policy wrapped)) session place.stack with
      | (first, session) =>
          match runSteps (queue ++ [⟨place.stack.current, inner, crash⟩]) session place rest with
          | ⟨later, laterBound⟩ =>
              ⟨later.after first, by
                rw [backlog_submit] at laterBound
                simp only [weights, Step.weight, StepsRun.after]
                omega⟩
  | .thread inner :: rest =>
      match runSteps queue session .fresh inner with
      | ⟨nested, nestedBound⟩ =>
          match report (.steps nested.reports) nested.session place.stack with
          | (first, session) =>
              match runSteps nested.queue session place rest with
              | ⟨later, laterBound⟩ =>
                  ⟨later.after first, by
                    simp only [weights, Step.weight, StepsRun.after]
                    omega⟩
  | .runTasks newestFirst onThread :: rest =>
      match runTasks [] session (if onThread then .empty else place.stack)
          (ordered newestFirst queue) with
      | ⟨nested, nestedBound⟩ =>
          have emptied : backlog nested.queue ≤ backlog queue := by
            rw [backlog_ordered] at nestedBound
            simpa [backlog] using nestedBound
          let place := if onThread then place else { place with stack := nested.stack }
          match report (.tasks nested.reports) nested.session place.stack with
          | (first, session) =>
              match runSteps nested.queue session place rest with
              | ⟨later, laterBound⟩ =>
                  ⟨later.after first, by
                    simp only [weights, Step.weight, StepsRun.after]
                    omega⟩
termination_by weights steps + backlog queue
decreasing_by
  all_goals simp only [weights, Step.weight, backlog_submit, backlog_ordered]
  all_goals simp only [backlog, List.foldr_nil] at *
  all_goals omega

/-- Runs tasks one after the other on a stack.  The steps of a task run within a scope
of the context that it captured; whether the task crashes or not, its scope is
released. -/
def runTasks (queue : List Task) (session : Session) (stack : ScopeStack)
    (tasks : List Task) :
    { run : TasksRun // backlog run.queue ≤ backlog queue + backlog tasks } :=
  match tasks with
  | [] => ⟨⟨queue, session, stack, []⟩, Nat.le_add_right _ _⟩
  | task :: rest =>
      match Scope.start stack task.captured with
      | ⟨stack, scope, opening⟩ =>
          match runSteps queue (session.log opening) (.onStack stack) task.steps with
          | ⟨inner, innerBound⟩ =>
              let policy := session.agent.policy
              match scope.close policy task.crash.isSome (inner.place.abandon policy) with
              | ⟨stack, closing, crash⟩ =>
                  match runTasks inner.queue (inner.session.log closing) stack rest with
                  | ⟨later, laterBound⟩ =>
                      let done := .mk inner.reports (task.crash <|> crash) stack.current
                      ⟨{ later with reports := done :: later.reports }, by
                        rw [backlog_cons]
                        dsimp only
                        omega⟩
termination_by backlog tasks + backlog queue
decreasing_by
  all_goals rw [backlog_cons]
  all_goals omega

end

def run (session : Session) (steps : List Step) : List Report :=
  (runSteps [] session .fresh steps).val.reports

end SpanTrail.Scenario
