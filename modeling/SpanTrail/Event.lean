import SpanTrail.Context
import SpanTrail.Endpoint
import SpanTrail.Time

/-! The events that the library logs about itself.  Each has a level, the part of
the library that it comes from, a name unless it is a delivered span, and fields. -/

namespace SpanTrail

inductive Level where
  | debug
  | information
  | warning
  deriving DecidableEq, Repr

inductive Ending where
  | finish (time : Timestamp)
  | flush
  | abandon
  deriving DecidableEq, Repr

def Ending.name : Ending → String
  | .finish _ => "finish"
  | .flush => "flush"
  | .abandon => "abandon"

inductive Event where
  | scopesExhausted
  | scopeOutOfOrder (position : Nat)
  | scopeNotOpen (position : Nat)
  | rateRejected (rate : Binary) (cause : TracingError)
  | rateMissing
  | finishBeforeStart (context : Context) (start finish : Timestamp)
  | spanUnknown (context : Context) (ending : Ending)
  | reportRejected (context : Context) (cause : TracingError)
  | agentBuilt (endpoint : Endpoint)
  | spanLogged (json : String)
  deriving DecidableEq, Repr

namespace Event

inductive FieldValue where
  | text (value : String)
  | natural (value : Nat)
  | double (value : Binary)
  deriving DecidableEq, Repr

def level : Event → Level
  | .scopesExhausted => .warning
  | .scopeOutOfOrder _ => .warning
  | .scopeNotOpen _ => .warning
  | .rateRejected _ _ => .warning
  | .rateMissing => .debug
  | .finishBeforeStart _ _ _ => .debug
  | .spanUnknown _ _ => .debug
  | .reportRejected _ _ => .warning
  | .agentBuilt _ => .information
  | .spanLogged _ => .information

def target : Event → String
  | .scopesExhausted => "tracery"
  | .scopeOutOfOrder _ => "tracery"
  | .scopeNotOpen _ => "tracery"
  | .spanLogged _ => "tracery::reporter"
  | _ => "tracery-sdk"

/-- The name of the event.  A delivered span has none. -/
def name? : Event → Option String
  | .scopesExhausted => some "Scope.Overflow"
  | .scopeOutOfOrder _ => some "Scope.OutOfOrderRelease"
  | .scopeNotOpen _ => some "Scope.InvalidRelease"
  | .rateRejected _ _ => some "DeclarativeSampler.InvalidRate"
  | .rateMissing => some "DeclarativeSampler.NoRate"
  | .finishBeforeStart _ _ _ => some "Recorder.FinishBeforeStart"
  | .spanUnknown _ _ => some "Recorder.UnknownSpan"
  | .reportRejected _ _ => some "Recorder.ReportFailed"
  | .agentBuilt _ => some "Tracing.Built"
  | .spanLogged _ => none

def fields : Event → List (String × FieldValue)
  | .scopesExhausted =>
      [("message",
        .text "Too many nested scopes; this scope will not change the current context")]
  | .scopeOutOfOrder position =>
      [("position", .natural position),
        ("message", .text "Scope released while inner scopes are still open")]
  | .scopeNotOpen position =>
      [("position", .natural position),
        ("message", .text "Attempted to release a scope that is not on the stack")]
  | .rateRejected rate cause => [("rate", .double rate), ("error", .text cause.message)]
  | .rateMissing => []
  | .finishBeforeStart context start finish =>
      [("span", .text context.text), ("start", .natural start.toNat),
        ("finish", .natural finish.toNat)]
  | .spanUnknown context ending =>
      [("span", .text context.text), ("operation", .text ending.name)]
  | .reportRejected context cause =>
      [("span", .text context.text), ("error", .text cause.message)]
  | .agentBuilt endpoint => [("local_endpoint", .text endpoint.describe)]
  | .spanLogged json => [("span", .text json)]

end Event

end SpanTrail
