import SpanTrail.Error
import SpanTrail.Identifier
import SpanTrail.Text.Layout

/-! The context of a span: the identities that place it in its trace, the sampling state of the
trace, and whether the identity of the span is shared with the other side of a remote call.  A
trace is undecided, or it was decided to reject or to accept it, or it is under debugging, which
accepts it and forces every process to record it.  Contexts are built from identities that
denote a trace and a span, and every change keeps them so. -/

namespace SpanTrail

inductive Sampling where
  | undecided
  | rejected
  | accepted
  | debug
  deriving DecidableEq, Repr

namespace Sampling

def of (sampled : Option Bool) (debugging : Bool) : Sampling :=
  match debugging, sampled with
  | true, _ => .debug
  | false, none => .undecided
  | false, some false => .rejected
  | false, some true => .accepted

def decided (sampled : Bool) : Sampling :=
  if sampled then .accepted else .rejected

/-- Whether the trace is recorded, if that is decided. -/
def sampled? : Sampling → Option Bool
  | .undecided => none
  | .rejected => some false
  | .accepted => some true
  | .debug => some true

def isDebug : Sampling → Bool
  | .debug => true
  | _ => false

def records (sampling : Sampling) : Bool :=
  sampling.sampled? == some true

def describe (sampling : Sampling) : String :=
  Layout.record "SamplingFlags"
    [("sampled", Layout.optional Layout.bool sampling.sampled?),
      ("debug", Layout.bool sampling.isDebug)]

@[simp] theorem of_sampled?_isDebug (sampling : Sampling) :
    of sampling.sampled? sampling.isDebug = sampling := by
  cases sampling <;> rfl

theorem sampled?_of (sampled : Option Bool) (debugging : Bool) :
    (of sampled debugging).sampled? = if debugging then some true else sampled := by
  rcases sampled with _ | _ | _ <;> cases debugging <;> rfl

theorem isDebug_of (sampled : Option Bool) (debugging : Bool) :
    (of sampled debugging).isDebug = debugging := by
  rcases sampled with _ | _ | _ <;> cases debugging <;> rfl

theorem sampled?_of_isDebug {sampling : Sampling} (debugging : sampling.isDebug = true) :
    sampling.sampled? = some true := by
  cases sampling <;> simp_all [isDebug, sampled?]

end Sampling

structure Context where
  traceId : TraceId
  spanId : SpanId
  parentId : Option SpanId
  sampling : Sampling
  shared : Bool
  deriving DecidableEq, Repr

namespace Context

/-- An undecided context without a parent.  The trace is checked before the span. -/
def root (traceId : TraceId) (spanId : SpanId) : Except TracingError Context :=
  if traceId.isValid = false then .error (.invalidArgument .zeroTraceId)
  else if spanId.isValid = false then .error (.invalidArgument .zeroSpanId)
  else .ok ⟨traceId, spanId, none, .undecided, false⟩

/-- The context with another parent.  An identity that denotes no span is no parent. -/
def withParent (context : Context) (parentId : Option SpanId) : Context :=
  { context with parentId := parentId.filter SpanId.isValid }

/-- The context with another decision.  A trace under debugging stays so. -/
def withSampled (context : Context) (sampled : Option Bool) : Context :=
  { context with sampling := .of sampled context.sampling.isDebug }

/-- The context with debugging turned on or off.  Off keeps the decision. -/
def withDebug (context : Context) (debugging : Bool) : Context :=
  { context with sampling := .of context.sampling.sampled? debugging }

def withShared (context : Context) (shared : Bool) : Context :=
  { context with shared := shared }

def withSampling (context : Context) (sampling : Sampling) : Context :=
  (context.withDebug sampling.isDebug).withSampled sampling.sampled?

/-- A child of the span: in the same trace and sampling state, with this span as
its parent, and not shared. -/
def child (context : Context) (spanId : SpanId) : Except TracingError Context :=
  if spanId.isValid = false then .error (.invalidArgument .zeroSpanId)
  else
    .ok
      { context with
        spanId := spanId
        parentId := some context.spanId
        shared := false }

/-- The sampling state is exactly the given one, whatever it was before. -/
@[simp] theorem withSampling_eq (context : Context) (sampling : Sampling) :
    context.withSampling sampling = { context with sampling := sampling } := by
  obtain ⟨traceId, spanId, parentId, before, shared⟩ := context
  cases before <;> cases sampling <;> rfl

def isRoot (context : Context) : Bool :=
  context.parentId.isNone

def text (context : Context) : String :=
  context.traceId.text ++ "/" ++ context.spanId.text

def describe (context : Context) : String :=
  Layout.record "TraceContext"
    [("trace_id", context.traceId.text),
      ("span_id", context.spanId.text),
      ("parent_id", Layout.optional SpanId.text context.parentId),
      ("sampled", Layout.optional Layout.bool context.sampling.sampled?),
      ("debug", Layout.bool context.sampling.isDebug),
      ("shared", Layout.bool context.shared)]

inductive Change where
  | parent (parentId : Option SpanId)
  | sampled (sampled : Option Bool)
  | debug (debugging : Bool)
  | shared (shared : Bool)
  | sampling (sampling : Sampling)
  | child (spanId : SpanId)
  deriving DecidableEq, Repr

def change (context : Context) : Change → Except TracingError Context
  | .parent parentId => .ok (context.withParent parentId)
  | .sampled sampled => .ok (context.withSampled sampled)
  | .debug debugging => .ok (context.withDebug debugging)
  | .shared shared => .ok (context.withShared shared)
  | .sampling sampling => .ok (context.withSampling sampling)
  | .child spanId => context.child spanId

/-- The contexts after each of a sequence of changes.  A refused change gives an
error in its place and leaves the context as it was. -/
def changes (context : Context) : List Change → List (Except TracingError Context)
  | [] => []
  | first :: rest =>
      let next := context.change first
      next :: changes (next.toOption.getD context) rest

def changeAll (context : Context) (sequence : List Change) : Context :=
  sequence.foldl (fun now next => (now.change next).toOption.getD now) context

end Context

/-- What a carrier says about the span that sent it: its whole context, or only a
sampling state. -/
inductive Extraction where
  | whole (context : Context)
  | lone (sampling : Sampling)
  deriving DecidableEq, Repr

namespace Extraction

def empty : Extraction := .lone .undecided

def context? : Extraction → Option Context
  | .whole context => some context
  | .lone _ => none

def state : Extraction → Sampling
  | .whole context => context.sampling
  | .lone sampling => sampling

/-- A context is never empty, even if it is undecided. -/
def isEmpty (extraction : Extraction) : Bool :=
  extraction == .empty

end Extraction

end SpanTrail
