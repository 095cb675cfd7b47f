import SpanTrail.Carrier
import SpanTrail.Context
import SpanTrail.Text.Unicode

/-! Propagation of contexts in the B3 format.  A context is written into one field as a whole,
its parts separated by dashes, or into separate fields, one per part.  Identities are lower-case
hexadecimal text of a fixed width: sixteen digits, or thirty-two for a trace.  Text of another
shape, or of an identity that denotes nothing, is no part, and a separate field without one
counts as missing.  Reading accepts both forms whatever the encoding, and prefers the whole
context; the encoding decides what is written. -/

namespace SpanTrail.B3

inductive Field where
  | whole
  | traceId
  | spanId
  | parentSpanId
  | sampled
  | flags
  deriving DecidableEq, Repr

def Field.name : Field → String
  | .whole => "b3"
  | .traceId => "x-b3-traceid"
  | .spanId => "x-b3-spanid"
  | .parentSpanId => "x-b3-parentspanid"
  | .sampled => "x-b3-sampled"
  | .flags => "x-b3-flags"

def Field.parts : List Field :=
  [.traceId, .spanId, .parentSpanId, .sampled, .flags]

inductive Encoding where
  | multiple
  | single
  | both
  deriving DecidableEq, Repr

namespace Encoding

def writesParts : Encoding → Bool
  | .multiple => true
  | .single => false
  | .both => true

def writesWhole : Encoding → Bool
  | .multiple => false
  | .single => true
  | .both => true

def supports (encoding other : Encoding) : Bool :=
  (encoding.writesParts || !other.writesParts) && (encoding.writesWhole || !other.writesWhole)

/-- The fields that the encoding may write, the one of the whole context first. -/
def fields (encoding : Encoding) : List Field :=
  (if encoding.writesWhole then [.whole] else []) ++
    (if encoding.writesParts then Field.parts else [])

def describe : Encoding → String
  | .multiple => "MultipleHeader"
  | .single => "SingleHeader"
  | .both => "SingleAndMultiHeader"

end Encoding

def traceId? (text : List Char) : Option TraceId :=
  if text.all Hex.isLowerDigit && (text.length == 16 || text.length == 32) then
    ((Hex.read (1 <<< 128) text).toOption.map TraceId.ofNat).filter TraceId.isValid
  else none

def spanId? (text : List Char) : Option SpanId :=
  if text.all Hex.isLowerDigit && text.length == 16 then
    ((Hex.read (1 <<< 64) text).toOption.map SpanId.ofNat).filter SpanId.isValid
  else none

def state? : List Char → Option Sampling
  | ['0'] => some .rejected
  | ['1'] => some .accepted
  | ['d'] => some .debug
  | _ => none

def stateText? : Sampling → Option String
  | .undecided => none
  | .rejected => some "0"
  | .accepted => some "1"
  | .debug => some "d"

def decision? (text : List Char) : Option Bool :=
  if text = ['1'] ∨ text = "true".toList then some true
  else if text = ['0'] ∨ text = "false".toList then some false
  else none

def assemble (traceId : TraceId) (spanId : SpanId) (parentId : Option SpanId)
    (sampling : Sampling) : Option Context :=
  (Context.root traceId spanId).toOption.map fun context =>
    (context.withParent parentId).withSampling sampling

end SpanTrail.B3

namespace SpanTrail.B3.Parts

def read (get : String → Option String) : Extraction :=
  let debugging := (get Field.flags.name).map (fun text => Blank.trimList text.toList) = some ['1']
  let sampled := (get Field.sampled.name).bind fun text => decision? (Blank.trimList text.toList)
  let sampling := Sampling.of sampled debugging
  let context := do
    let traceId ← (get Field.traceId.name).bind fun text => traceId? text.toList
    let spanId ← (get Field.spanId.name).bind fun text => spanId? text.toList
    let parentId := (get Field.parentSpanId.name).bind fun text => spanId? text.toList
    assemble traceId spanId parentId sampling
  match context with
  | some context => .whole context
  | none => .lone sampling

/-- The fields of a context in the order in which they are written.  Debugging
implies the decision, which is then not written. -/
def write (context : Context) : List (Field × String) :=
  [(.traceId, context.traceId.text), (.spanId, context.spanId.text)] ++
    (context.parentId.map fun parentId => (Field.parentSpanId, parentId.text)).toList ++
    match context.sampling with
    | .undecided => []
    | .rejected => [(.sampled, "0")]
    | .accepted => [(.sampled, "1")]
    | .debug => [(.flags, "1")]

end SpanTrail.B3.Parts

namespace SpanTrail.B3.Whole

/-- A context whose state and parent are missing or given as text.  A part that is
given but malformed spoils the whole. -/
def context? (trace span : List Char) (state parent : Option (List Char)) : Option Context := do
  let sampling ←
    match state with
    | none => some Sampling.undecided
    | some state => state? state
  let parentId ←
    match parent with
    | none => some Option.none
    | some parent => (spanId? parent).map some
  assemble (← traceId? trace) (← spanId? span) parentId sampling

/-- Reads a text without blanks around it.  A third part of sixteen characters is a
parent, any other one a sampling state. -/
def readTrimmed (text : List Char) : Option Extraction :=
  match text.splitOn '-' with
  | [state] => (state? state).map .lone
  | [trace, span] => (context? trace span none none).map .whole
  | [trace, span, third] =>
      if third.length = 16 then (context? trace span none (some third)).map .whole
      else (context? trace span (some third) none).map .whole
  | [trace, span, state, parent] =>
      (context? trace span (some state) (some parent)).map .whole
  | _ => none

def read (text : String) : Option Extraction :=
  readTrimmed (Blank.trimList text.toList)

def write (context : Context) : String :=
  let state :=
    match stateText? context.sampling with
    | none => ""
    | some state => "-" ++ state
  let parent :=
    match context.parentId with
    | none => ""
    | some parentId => "-" ++ parentId.text
  context.traceId.text ++ "-" ++ context.spanId.text ++ state ++ parent

end SpanTrail.B3.Whole

namespace SpanTrail.B3

/-- What the fields say.  The whole context comes first, then the separate fields
with a context, then a lone sampling state of the former, then one of the latter. -/
def read (get : String → Option String) : Extraction :=
  let whole := (get Field.whole.name).bind Whole.read
  match whole with
  | some (.whole context) => .whole context
  | _ =>
      match Parts.read get with
      | .whole context => .whole context
      | parts =>
          match whole with
          | some state => if state.isEmpty then parts else state
          | none => parts

def write (encoding : Encoding) (context : Context) : List (Field × String) :=
  (if encoding.writesWhole then [(.whole, Whole.write context)] else []) ++
    (if encoding.writesParts then Parts.write context else [])

def extract (carrier : Carrier) : Extraction :=
  read carrier.get?

def inject (encoding : Encoding) (context : Context) (carrier : Carrier) : Carrier :=
  carrier.setAll ((write encoding context).map fun field => (field.1.name, field.2))

end SpanTrail.B3
