import SpanTrail.Context
import SpanTrail.Event

/-! Scopes on the stack of one thread.  Each scope makes a context current, or none, and its slot
keeps what was current before.  Scopes are released by position.  A scope that is released while
inner ones are open gives up the slot above its own, so that the next inner release restores what
was current below both.  Two policies differ on scopes that are not released in order: the
lenient one logs a warning, the strict one crashes the releasing code unless that is crashing
already. -/

namespace SpanTrail

/-- A slot of the stack: what to restore, or nothing because an outer scope was
released early. -/
inductive Slot where
  | hole
  | restore (previous : Option Context)
  deriving DecidableEq, Repr

def Slot.isHole : Slot → Bool
  | .hole => true
  | .restore _ => false

structure ScopeStack where
  current : Option Context
  slots : Array Slot
  deriving DecidableEq, Repr

/-- How a position was released: it was the innermost one, or an inner one was still
open, or it was not open at all. -/
inductive Release where
  | inOrder
  | outOfOrder
  | notOpen
  deriving DecidableEq, Repr

namespace ScopeStack

def empty : ScopeStack := ⟨none, #[]⟩

instance : Inhabited ScopeStack := ⟨empty⟩

/-- The position of a scope that found no room.  All other positions are below. -/
def noPosition : Nat := 65535

def hasRoom (stack : ScopeStack) : Bool :=
  stack.slots.size + 1 < noPosition

def push (stack : ScopeStack) (context : Option Context) : ScopeStack × Nat :=
  if stack.hasRoom then
    let position := stack.slots.size + 1
    (⟨context, stack.slots.push (.restore stack.current)⟩, position)
  else (stack, noPosition)

/-- The stack without its innermost scope.  The holes above the first slot that has
something to restore go with it. -/
def pop (stack : ScopeStack) : ScopeStack :=
  let slots := stack.slots.popWhile Slot.isHole
  match slots.back? with
  | some (.restore previous) => ⟨previous, slots.pop⟩
  | _ => ⟨stack.current, slots⟩

def release (stack : ScopeStack) (position : Nat) : ScopeStack × Release :=
  let depth := stack.slots.size
  if position = 0 ∨ position = noPosition ∨ depth < position then (stack, .notOpen)
  else if position = depth then (stack.pop, .inOrder)
  else (⟨stack.current, stack.slots.setIfInBounds position .hole⟩, .outOfOrder)

/-- Releasing a scope right after it was opened restores the stack. -/
theorem release_push {stack : ScopeStack} (context : Option Context)
    (room : stack.hasRoom = true) :
    (stack.push context).1.release (stack.push context).2 = (stack, .inOrder) := by
  obtain ⟨current, ⟨slots⟩⟩ := stack
  simp only [hasRoom, noPosition, decide_eq_true_eq, List.size_toArray] at room
  have positive : slots.length + 1 ≠ 65535 := by omega
  simp [push, hasRoom, release, noPosition, room, positive, pop, Slot.isHole]

end ScopeStack

inductive ScopePolicy where
  | lenient
  | strict
  deriving DecidableEq, Repr

def ScopePolicy.label : ScopePolicy → String
  | .lenient => Layout.sealed "ThreadLocalCurrentTraceContext"
  | .strict => Layout.sealed "StrictCurrentTraceContext"

/-- A scope to be released once: one that changes nothing, or one at a position of
the stack, with the context that was current after it was opened. -/
inductive Scope where
  | idle
  | opened (position : Nat) (expected : Option Context)
  deriving DecidableEq, Repr

namespace Scope

def describe (scope : Scope) : String :=
  Layout.record "Scope"
    [("noop", Layout.bool (match scope with
      | .idle => true
      | .opened _ _ => false))]

structure Opening where
  stack : ScopeStack
  scope : Scope
  events : List Event

/-- Makes a context current.  Without room the context stays as it was, which is
logged. -/
def start (stack : ScopeStack) (context : Option Context) : Opening :=
  let events := if stack.hasRoom then [] else [.scopesExhausted]
  let (stack, position) := stack.push context
  ⟨stack, .opened position stack.current, events⟩

def startIfNew (stack : ScopeStack) (context : Option Context) : Opening :=
  if stack.current = context then ⟨stack, .idle, []⟩ else start stack context

structure Closing where
  stack : ScopeStack
  events : List Event
  crash : Option String

def describeCurrent (current : Option Context) : String :=
  Layout.optional Context.describe current

def warnings (position : Nat) : Release → List Event
  | .inOrder => []
  | .outOfOrder => [.scopeOutOfOrder position]
  | .notOpen => [.scopeNotOpen position]

/-- The crash of the strict policy, which also requires that the context of the
scope is current until the release. -/
def crash? (expected found : Option Context) : Release → Option String
  | .inOrder =>
      if found = expected then none
      else
        some ("scope for " ++ describeCurrent expected ++ " closed while " ++
          describeCurrent found ++ " was current")
  | _ => some ("scope for " ++ describeCurrent expected ++ " closed out of order")

def close (policy : ScopePolicy) (unwinding : Bool) (scope : Scope) (stack : ScopeStack) :
    Closing :=
  match scope with
  | .idle => ⟨stack, [], none⟩
  | .opened position expected =>
      let found := stack.current
      let (stack, outcome) := stack.release position
      match policy with
      | .lenient => ⟨stack, warnings position outcome, none⟩
      | .strict => ⟨stack, [], if unwinding then none else crash? expected found outcome⟩

end Scope

end SpanTrail
