import Mathlib.Data.List.Basic
import Mathlib.Logic.Function.Basic
import SpanTrail.Proofs.Agent.Request
import SpanTrail.Proofs.Scope.Thread

/-! The use of an agent by several threads: they ask it for spans, open and close scopes and call
the spans in any order, each as a whole.  What they ask for and what they call is kept as a
history.  The ledger tracks exactly the keys of the recorded spans that requests made and that no
call ended since.  Handles to spans, scopes, idle spans and calls that come too late leave it
alone. -/

namespace SpanTrail

inductive Deed where
  | made (request : SpanRequest) (current : Option Context) (span : Span)
  | called (span : Span) (call : SpanCall)

def Deed.span : Deed → Span
  | .made _ _ span => span
  | .called span _ => span

structure Usage where
  agent : Agent
  threads : Nat → ScopeThread
  history : List Deed

/-- A step of a thread.  A handle is no more than its span, so any copy of one, and any
idle span, may be called and entered. -/
inductive UsageStep where
  | request (thread : Nat) (request : SpanRequest)
  | currentSpan (thread : Nat)
  | enter (thread : Nat) (span : Option Span)
  | scope (thread : Nat) (step : ScopeStep)
  | scopeIfNew (thread : Nat) (context : Option Context)
  | call (span : Span) (call : SpanCall)
  | setClock (time : Timestamp)

def ScopeStep.events (policy : ScopePolicy) (thread : ScopeThread) : ScopeStep → List Event
  | .start context => (Scope.start thread.stack context).events
  | .close number unwinding =>
      match thread.held.find? fun held => held.number == number with
      | none => []
      | some held => (held.scope.close policy unwinding thread.stack).events

namespace Usage

def start (agent : Agent) : Usage :=
  ⟨agent, fun _ => .onStack .empty, []⟩

def current (usage : Usage) (thread : Nat) : Option Context :=
  (usage.threads thread).stack.current

def request (usage : Usage) (thread : Nat) (request : SpanRequest) : Usage :=
  let current := usage.current thread
  let made := request.perform usage.agent current
  { usage with
    agent := made.2
    history := usage.history ++ [.made request current made.1] }

def scope (usage : Usage) (thread : Nat) (step : ScopeStep) : Usage :=
  let policy := usage.agent.policy
  let before := usage.threads thread
  { usage with
    agent := usage.agent.log (step.events policy before)
    threads := Function.update usage.threads thread (before.step policy step) }

/-- Opens a scope unless its context is current already.  The scope is idle then, and
closing it changes nothing. -/
def scopeIfNew (usage : Usage) (thread : Nat) (context : Option Context) : Usage :=
  if usage.current thread = context then usage else usage.scope thread (.start context)

def currentSpan (usage : Usage) (thread : Nat) : Usage :=
  match usage.current thread with
  | none => usage
  | some context => usage.request thread (.handleOf context)

def step (usage : Usage) : UsageStep → Usage
  | .request thread request => usage.request thread request
  | .currentSpan thread => usage.currentSpan thread
  | .enter thread span => usage.scope thread (.start (Span.scopeContext span))
  | .scope thread step => usage.scope thread step
  | .scopeIfNew thread context => usage.scopeIfNew thread context
  | .call span call =>
      { usage with
        agent := usage.agent.call span call
        history := usage.history ++ [.called span call] }
  | .setClock time => { usage with agent := usage.agent.setClock time }

def run (usage : Usage) (steps : List UsageStep) : Usage :=
  steps.foldl step usage

inductive Changed (before after : Usage) : Prop where
  | requested (request : SpanRequest) (current : Option Context)
      (agent : after.agent = (request.perform before.agent current).2)
      (history : after.history =
        before.history ++ [.made request current (request.perform before.agent current).1])
  | called (span : Span) (call : SpanCall) (agent : after.agent = before.agent.call span call)
      (history : after.history = before.history ++ [.called span call])
  | kept (ledger : after.agent.ledger = before.agent.ledger)
      (sampler : after.agent.sampler = before.agent.sampler)
      (records : after.agent.journal.records = before.agent.journal.records)
      (asked : after.agent.journal.asked = before.agent.journal.asked)
      (history : after.history = before.history)

theorem step_changed (usage : Usage) (step : UsageStep) : Changed usage (usage.step step) := by
  cases step with
  | request thread request => exact .requested request (usage.current thread) rfl rfl
  | currentSpan thread =>
      change Changed usage (usage.currentSpan thread)
      unfold Usage.currentSpan
      cases usage.current thread with
      | none => exact .kept rfl rfl rfl rfl rfl
      | some context => exact .requested (.handleOf context) (usage.current thread) rfl rfl
  | enter thread span => exact .kept rfl rfl rfl rfl rfl
  | scope thread step => exact .kept rfl rfl rfl rfl rfl
  | scopeIfNew thread context =>
      change Changed usage (usage.scopeIfNew thread context)
      unfold Usage.scopeIfNew
      split
      · exact .kept rfl rfl rfl rfl rfl
      · exact .kept rfl rfl rfl rfl rfl
  | call span call => exact .called span call rfl rfl
  | setClock time => exact .kept rfl rfl rfl rfl rfl

theorem run_induction {invariant : Usage → Prop}
    (preserved : ∀ before after, Changed before after → invariant before → invariant after)
    {usage : Usage} (holds : invariant usage) (steps : List UsageStep) :
    invariant (usage.run steps) := by
  induction steps generalizing usage with
  | nil => exact holds
  | cons step rest ih => exact ih (preserved usage _ (usage.step_changed step) holds)

end Usage

namespace Deed

def creates (key : SpanKey) : Deed → Bool
  | .made request _ span => request.makes && !span.idle && key = span.context.key
  | .called _ _ => false

def ends (key : SpanKey) : Deed → Bool
  | .made _ _ _ => false
  | .called span call => call.isEnding && !span.idle && key = span.context.key

end Deed

/-- Whether a recorded span of the key was made and not ended since. -/
def InFlight (history : List Deed) (key : SpanKey) : Prop :=
  ∃ earlier deed later, history = earlier ++ deed :: later ∧ deed.creates key = true ∧
    ∀ other ∈ later, other.ends key = false

theorem inFlight_concat (history : List Deed) (last : Deed) (key : SpanKey) :
    InFlight (history ++ [last]) key ↔
      last.creates key = true ∨ InFlight history key ∧ last.ends key = false := by
  constructor
  · rintro ⟨earlier, deed, later, split, creates, kept⟩
    rcases List.eq_nil_or_concat' later with rfl | ⟨later, newest, rfl⟩
    · obtain ⟨_, same⟩ := List.append_inj' split rfl
      left
      rw [List.head_eq_of_cons_eq same]
      exact creates
    · rw [← List.cons_append, ← List.append_assoc] at split
      obtain ⟨before, same⟩ := List.append_inj' split rfl
      right
      constructor
      · refine ⟨earlier, deed, later, before, creates, ?_⟩
        intro other member
        exact kept other (List.mem_append_left _ member)
      · rw [List.head_eq_of_cons_eq same]
        exact kept newest (List.mem_append_right _ List.mem_cons_self)
  · rintro (creates | ⟨⟨earlier, deed, later, split, creates, kept⟩, goesOn⟩)
    · exact ⟨history, last, [], rfl, creates, fun _ => nofun⟩
    · refine ⟨earlier, deed, later ++ [last], ?_, creates, ?_⟩
      · rw [split, List.append_assoc, List.cons_append]
      · intro other member
        rcases List.mem_append.mp member with older | newest
        · exact kept other older
        · rw [List.mem_singleton.mp newest]
          exact goesOn

theorem InFlight.created {history : List Deed} {key : SpanKey} (inFlight : InFlight history key) :
    ∃ deed ∈ history, deed.creates key = true := by
  obtain ⟨earlier, deed, later, split, creates, _⟩ := inFlight
  refine ⟨deed, ?_, creates⟩
  rw [split]
  exact List.mem_append_right _ List.mem_cons_self

namespace Ledger

theorem contains_register (ledger : Ledger) (context : Context) (key : SpanKey) :
    (ledger.register context).pending.contains key =
      (key = context.key || ledger.pending.contains key) := by
  unfold Table.contains
  rw [get?_register]
  by_cases same : key = context.key
  · rw [if_pos same, decide_eq_true same]
    rfl
  · rw [if_neg same, decide_eq_false same]
    rfl

/-- A call on a span ends the tracking of its key or leaves what is tracked. -/
theorem contains_call (ledger : Ledger) (context : Context) (call : SpanCall) (now : Timestamp)
    (key : SpanKey) :
    (ledger.perform context (call.at now)).1.pending.contains key =
      (ledger.pending.contains key && !(call.isEnding && key = context.key)) := by
  unfold Table.contains
  rw [get?_perform]
  by_cases same : key = context.key
  · rw [if_pos same, decide_eq_true same, Bool.and_true]
    cases call with
    | start | annotate value | update change =>
        exact Option.isSome_map.trans (Bool.and_true _).symm
    | finish | conclude ending => exact (Bool.and_false _).symm
  · rw [if_neg same, decide_eq_false same, Bool.and_false]
    exact (Bool.and_true _).symm

end Ledger

theorem Agent.contains_call (agent : Agent) (span : Span) (call : SpanCall) (key : SpanKey) :
    (agent.call span call).ledger.pending.contains key =
      (agent.ledger.pending.contains key && !(Deed.called span call).ends key) := by
  change _ = (_ && !(call.isEnding && !span.idle && decide (key = span.context.key)))
  cases idle : span.idle with
  | true =>
      rw [call_idle agent idle, Bool.not_true, Bool.and_false, Bool.false_and]
      exact (Bool.and_true _).symm
  | false =>
      rw [(call_recorded agent idle call).1, Ledger.contains_call, Bool.not_false, Bool.and_true]

namespace SpanRequest

variable (request : SpanRequest) (agent : Agent) (current : Option Context)

theorem contains_perform (key : SpanKey) :
    (request.perform agent current).2.ledger.pending.contains key =
      ((Deed.made request current (request.perform agent current).1).creates key ||
        agent.ledger.pending.contains key) := by
  rw [perform_agent]
  unfold Deed.creates
  dsimp only
  cases request.makes && !(request.perform agent current).1.idle with
  | false => rfl
  | true =>
      rw [if_pos rfl, Ledger.contains_register, Bool.true_and]

theorem perform_records :
    (request.perform agent current).2.journal.records = agent.journal.records := by
  rw [perform_agent]
  exact (request.resolved_agent agent current).2

theorem handle_ledger (isHandle : request.makes = false) :
    (request.perform agent current).2.ledger = agent.ledger := by
  rw [perform_agent, isHandle]
  rfl

end SpanRequest

/-! ### Runs -/

namespace Usage

def Tracks (usage : Usage) : Prop :=
  ∀ key, usage.agent.ledger.pending.contains key = true ↔ InFlight usage.history key

theorem Tracks.changed {before after : Usage} (changed : Changed before after)
    (tracks : before.Tracks) : after.Tracks := by
  intro key
  cases changed with
  | kept ledger sampler records asked history =>
      rw [ledger, history]
      exact tracks key
  | requested request current isAfter history =>
      rw [isAfter, history, inFlight_concat, SpanRequest.contains_perform, Bool.or_eq_true,
        tracks key]
      exact or_congr Iff.rfl (and_iff_left rfl).symm
  | called span call isAfter history =>
      rw [isAfter, history, inFlight_concat, Agent.contains_call, Bool.and_eq_true, tracks key,
        Bool.not_eq_true']
      exact (or_iff_right Bool.false_ne_true).symm

theorem step_tracks {usage : Usage} (tracks : usage.Tracks) (step : UsageStep) :
    ∃ records, (usage.step step).agent.journal.records = usage.agent.journal.records ++ records ∧
      ∀ record ∈ records, InFlight usage.history record.key := by
  cases usage.step_changed step with
  | kept ledger sampler records asked history =>
      exact ⟨[], records.trans (List.append_nil _).symm, fun _ => nofun⟩
  | requested request current isAfter history =>
      refine ⟨[], ?_, fun _ => nofun⟩
      rw [isAfter, SpanRequest.perform_records, List.append_nil]
  | called span call isAfter history =>
      obtain ⟨records, handed, own⟩ := usage.agent.call_reports span call
      refine ⟨records, ?_, ?_⟩
      · rw [isAfter, handed]
      · intro record reported
        obtain ⟨_, sameKey, tracked⟩ := own record reported
        rw [sameKey]
        exact (tracks span.context.key).mp tracked

/-- The steps that make no span and call none that is recorded and in flight. -/
def IsQuiet (usage : Usage) : UsageStep → Prop
  | .request _ request => request.makes = false
  | .call span _ => span.idle = true ∨ ¬InFlight usage.history span.context.key
  | .currentSpan _ => True
  | .enter _ _ => True
  | .scope _ _ => True
  | .scopeIfNew _ _ => True
  | .setClock _ => True

theorem request_quiet (usage : Usage) (thread : Nat) {request : SpanRequest}
    (isHandle : request.makes = false) :
    (usage.request thread request).agent.ledger = usage.agent.ledger ∧
      (usage.request thread request).agent.journal.records = usage.agent.journal.records := by
  constructor
  · exact request.handle_ledger usage.agent (usage.current thread) isHandle
  · exact request.perform_records usage.agent (usage.current thread)

theorem step_quiet {usage : Usage} (tracks : usage.Tracks) {step : UsageStep}
    (quiet : usage.IsQuiet step) :
    (usage.step step).agent.ledger = usage.agent.ledger ∧
      (usage.step step).agent.journal.records = usage.agent.journal.records := by
  cases step with
  | request thread request => exact usage.request_quiet thread quiet
  | currentSpan thread =>
      change (usage.currentSpan thread).agent.ledger = _ ∧
        (usage.currentSpan thread).agent.journal.records = _
      unfold Usage.currentSpan
      cases usage.current thread with
      | none => exact ⟨rfl, rfl⟩
      | some context => exact usage.request_quiet thread rfl
  | enter thread span => exact ⟨rfl, rfl⟩
  | scope thread step => exact ⟨rfl, rfl⟩
  | scopeIfNew thread context =>
      change (usage.scopeIfNew thread context).agent.ledger = _ ∧
        (usage.scopeIfNew thread context).agent.journal.records = _
      unfold Usage.scopeIfNew
      split
      · exact ⟨rfl, rfl⟩
      · exact ⟨rfl, rfl⟩
  | call span call =>
      apply Agent.call_quiet call
      apply quiet.imp_right
      intro ended
      exact Bool.eq_false_iff.mpr fun tracked => ended ((tracks span.context.key).mp tracked)
  | setClock time => exact ⟨rfl, rfl⟩

theorem start_tracks (settings : AgentSettings) (entropy : Entropy) :
    (start (settings.build entropy)).Tracks := by
  intro key
  constructor
  · intro tracked
    cases tracked
  · intro inFlight
    obtain ⟨deed, member, _⟩ := inFlight.created
    cases member

/-- In every run of an agent, the ledger tracks exactly the keys of the recorded spans that
were made and not ended since.  Asking for a handle, opening and closing scopes, calling an
idle span and calling a recorded one whose key is not in flight leave the ledger and the
records as they are; and whatever a step hands over has the key of a recorded span that was
made before and was in flight until then. -/
theorem tracks_inFlight (settings : AgentSettings) (entropy : Entropy)
    (steps : List UsageStep) :
    let usage := (start (settings.build entropy)).run steps
    (∀ key, usage.agent.ledger.pending.contains key = true ↔ InFlight usage.history key) ∧
      ∀ step,
        let next := usage.step step
        (usage.IsQuiet step →
          next.agent.ledger = usage.agent.ledger ∧
            next.agent.journal.records = usage.agent.journal.records) ∧
          ∃ records, next.agent.journal.records = usage.agent.journal.records ++ records ∧
            ∀ record ∈ records, InFlight usage.history record.key ∧
              ∃ deed ∈ usage.history, deed.creates record.key = true := by
  intro usage
  have tracks : usage.Tracks :=
    run_induction (fun _ _ changed tracks => tracks.changed changed)
      (start_tracks settings entropy) steps
  refine ⟨tracks, ?_⟩
  intro step next
  constructor
  · intro quiet
    exact step_quiet tracks quiet
  · obtain ⟨records, handed, inFlight⟩ := step_tracks tracks step
    refine ⟨records, handed, ?_⟩
    intro record reported
    exact ⟨inFlight record reported, (inFlight record reported).created⟩

end Usage

end SpanTrail
