import SpanTrail.Context

/-! A context written out field by field, its identities as text. -/

namespace SpanTrail

structure ContextForm where
  traceId : String
  spanId : String
  parentId : Option String
  sampled : Option Bool
  debug : Bool
  shared : Bool
  deriving DecidableEq, Repr

namespace ContextForm

def readOptional (text : Option String) : Except Failure (Option SpanId) :=
  match text with
  | none => .ok none
  | some text => ((SpanId.read text).map some).mapError .identity

/-- The context that the form describes.  Its two identities are read and checked
before the parent is. -/
def read (form : ContextForm) : Except Failure Context := do
  let traceId ← (TraceId.read form.traceId).mapError .identity
  let spanId ← (SpanId.read form.spanId).mapError .identity
  let context ← (Context.root traceId spanId).mapError .error
  let parentId ← readOptional form.parentId
  return (((context.withParent parentId).withSampled form.sampled).withDebug
    form.debug).withShared form.shared

end ContextForm

end SpanTrail
