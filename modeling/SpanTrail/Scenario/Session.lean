import SpanTrail.ContextForm
import SpanTrail.Http.Exchange
import SpanTrail.Http.Request

/-! The steps of a scenario, which uses one agent from several threads and tasks, what they come
to, and the state that they change.  An action takes place where the running thread is; the other
steps run steps of their own.  The session is shared by all threads; a place is where the running
thread is, with its stack of scopes and the scopes that the running list of steps opened. -/

namespace SpanTrail.Scenario

inductive Reference where
  | form (form : ContextForm)
  | span (index : Nat)
  deriving DecidableEq, Repr

inductive Origin where
  | context (reference : Reference)
  | fields (fields : List (String × String))
  | state (sampling : Sampling)
  deriving DecidableEq, Repr

inductive SharedCall where
  | call (call : SpanCall)
  | tag
  deriving DecidableEq, Repr

/-- A unit of asynchronous work, which is not ready for a number of polls.  It is
wrapped in a given context or in the current one, it may be polled on a new thread
and within another context, and its last poll may crash. -/
structure Future where
  carried : Option (Option Reference)
  pending : Nat
  onThread : Bool
  ambient : Option (Option Reference)
  crashes : Bool
  deriving DecidableEq, Repr

inductive Action where
  | root
  | rootWith (sampling : Sampling)
  | join (reference : Reference)
  | child (reference : Reference)
  | handleOf (reference : Reference)
  | next (origin : Origin) (overrides : Sampling)
  | nextFromCurrent
  | currentSpan
  | idleSpan (reference : Reference)
  | clientSend (request : Http.RequestForm)
  | clientSendWith (span : Nat) (request : Http.RequestForm)
  | serverReceive (request : Http.RequestForm)
  | calls (span : Nat) (calls : List SpanCall)
  | complete (span : Nat) (status : Option Nat) (fault : Option Http.Fault)
  | concurrent (span threads times : Nat) (shared : SharedCall)
  | record (reference : Reference) (call : LedgerCall)
  | tracks (reference : Reference)
  | setClock (time : Timestamp)
  | advanceClock (time : UInt64)
  | now
  | inject (reference : Reference) (fields : List (String × String))
  | extract (fields : List (String × String))
  | scope (span : Option Nat)
  | push (reference : Option Reference)
  | pushIfNew (reference : Option Reference)
  | close (scope : Nat)
  | pushMany (reference : Reference) (count : Nat)
  | closeMany (count : Nat)
  | look
  | crashInScopes (references : List (Option Reference)) (oldestFirst : Bool) (text : String)
  | future (future : Future)
  | describe
  | describeHttp

/-- A step of a scenario.  A submitted task waits until the tasks are run; `wrapped`
says that it was submitted without an executor, and `crash` makes it crash after
its steps. -/
inductive Step where
  | action (action : Action)
  | submit (steps : List Step) (wrapped : Bool) (crash : Option String)
  | thread (steps : List Step)
  | runTasks (newestFirst onThread : Bool)

mutual

def Step.weight : Step → Nat
  | .action _ => 1
  | .submit steps _ _ => 2 + weights steps
  | .thread steps => 1 + weights steps
  | .runTasks _ _ => 1

def weights : List Step → Nat
  | [] => 0
  | first :: rest => first.weight + weights rest

end

structure Polling where
  carried : Option Context
  within : List (Option Context)
  between : List (Option Context)
  crash : Option String

inductive Outcome where
  | nothing
  | span (index : Nat) (span : Span) (carrier : Option Carrier)
  | truth (value : Bool)
  | time (time : Timestamp)
  | carrier (carrier : Carrier)
  | extraction (extraction : Extraction)
  | scope (index : Nat) (scope : Scope)
  | closed (now : Bool)
  | scopes (count : Nat)
  | polled (polling : Polling)
  | executor (text : String)
  | description (tracer agent ledger : String) (spans : List String)
  | httpDescription (settings : Http.Settings) (tracer : String)

structure Aftermath where
  pending : Nat
  current : Option Context
  journal : Journal

mutual

inductive Result where
  | failed (cause : Failure)
  | done (outcome : Outcome)
  | steps (reports : List Report)
  | tasks (reports : List TaskReport)

inductive Report where
  | mk (result : Result) (aftermath : Aftermath)

inductive TaskReport where
  | mk (steps : List Report) (crash : Option String) (current : Option Context)

end

/-- What all threads share: the agent, a ledger beside it if the scenario looks
at one of its own, how requests are traced, and the spans made so far. -/
structure Session where
  agent : Agent
  separate : Option Ledger
  http : Http.Settings
  spans : Array Span

/-- Where the running thread is.  A scope that was closed stays in the list of scopes
as a gap. -/
structure Place where
  stack : ScopeStack
  scopes : Array (Option Scope)

namespace Session

def noSpan : Failure :=
  .crash "no such span"

def span (session : Session) (index : Nat) : Except Failure Span :=
  match session.spans[index]? with
  | some span => .ok span
  | none => .error noSpan

def context (session : Session) : Reference → Except Failure Context
  | .form form => form.read
  | .span index => (session.span index).map Span.context

def context? (session : Session) : Option Reference → Except Failure (Option Context)
  | none => .ok none
  | some reference => (session.context reference).map some

def ledger (session : Session) : Ledger :=
  session.separate.getD session.agent.ledger

def log (session : Session) (events : List Event) : Session :=
  if events.isEmpty then session
  else { session with agent := session.agent.log events }

def record (session : Session) (context : Context) (call : LedgerCall) : Session :=
  let (ledger, effects) := session.ledger.perform context call
  let journal := session.agent.journal.add effects
  match session.separate with
  | some _ =>
      { session with
        separate := some ledger
        agent := { session.agent with journal := journal } }
  | none =>
      { session with agent := { session.agent with ledger := ledger, journal := journal } }

/-- What a step left behind, taken out of the journal.  Records can be looked at only
if the sink keeps them. -/
def takeAftermath (session : Session) (stack : ScopeStack) : Aftermath × Session :=
  let journal := session.agent.journal
  let records := if session.agent.ledger.sink.keeps then journal.records else []
  (⟨session.ledger.size, stack.current, { journal with records := records }⟩,
    { session with agent := { session.agent with journal := .empty } })

end Session

namespace Place

def fresh : Place := ⟨.empty, #[]⟩

def onStack (stack : ScopeStack) : Place := ⟨stack, #[]⟩

def openScope (session : Session) (place : Place)
    (start : ScopeStack → Scope.Opening) : Session × Place :=
  match place with
  | ⟨stack, scopes⟩ =>
      let ⟨stack, scope, events⟩ := start stack
      (session.log events, ⟨stack, scopes.push (some scope)⟩)

def release (session : Session) (place : Place) (scope : Scope) :
    Option String × Session × Place :=
  match place with
  | ⟨stack, scopes⟩ =>
      let ⟨stack, events, crash⟩ := scope.close session.agent.policy false stack
      (crash, session.log events, ⟨stack, scopes⟩)

/-- Closes the scopes that are still open, the newest first, without a word about
it. -/
def abandon (policy : ScopePolicy) (place : Place) : ScopeStack :=
  place.scopes.foldr
    (fun entry stack =>
      match entry with
      | none => stack
      | some scope => (scope.close policy false stack).stack)
    place.stack

end Place

end SpanTrail.Scenario
