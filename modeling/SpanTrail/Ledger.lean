import SpanTrail.Event
import SpanTrail.SpanRecord
import SpanTrail.Table
import SpanTrail.Text.Layout

/-! The ledger of spans in flight.  A span is tracked under its key from its registration to its
ending; in between updates change its fields.  Updates and endings of a span that is not tracked
change nothing.  A sink takes the records of ended spans; it may refuse one with an error, and
it may log events of its own.  A handle to a span is its context and whether calls on it are
recorded; the fields of the span are kept by the ledger. -/

namespace SpanTrail

/-- A sink.  It is told how many records it was given before, and answers with
the events that it logs or with its error.  `keeps` says whether the accepted
records can be looked at later. -/
structure Sink where
  label : String
  keeps : Bool
  accept : (before : Nat) → SpanRecord → Except TracingError (List Event)

namespace Sink

def discarding : Sink where
  label := Layout.sealed "NoopReporter"
  keeps := false
  accept := fun _ _ => .ok []

def logging : Sink where
  label := Layout.sealed "LoggingReporter"
  keeps := false
  accept := fun _ record => .ok [.spanLogged record.toJson.toText]

/-- Keeps every record until it is taken out. -/
def keeping : Sink where
  label :=
    Layout.record "InMemoryReporter"
      [("spans", Layout.openRecord "Mutex" [("data", "[]"), ("poisoned", "false")])]
  keeps := true
  accept := fun _ _ => .ok []

/-- Loses every record, with a text that names the span.  The loss is either a
failure to report or an error from elsewhere. -/
def losing (failsToReport : Bool) : Sink where
  label := Layout.wrapped "FailingReporter" (Layout.bool failsToReport)
  keeps := false
  accept := fun _ record =>
    let text := "lost " ++ record.spanId.text
    .error (if failsToReport then .reportFailed text else .other text)

end Sink

/-- What tells spans in flight apart.  The two sides of a shared span are two keys. -/
structure SpanKey where
  traceId : TraceId
  spanId : SpanId
  shared : Bool
  deriving DecidableEq, Repr

def Context.key (context : Context) : SpanKey :=
  ⟨context.traceId, context.spanId, context.shared⟩

structure Pending where
  name : Option String
  kind : Option Kind
  start : Option Timestamp
  remoteEndpoint : Option Endpoint
  annotations : List Annotation
  tags : Tags

inductive Update where
  | start (time : Timestamp)
  | name (name : String)
  | kind (kind : Kind)
  | tag (key value : String)
  | annotate (time : Timestamp) (value : String)
  | remoteEndpoint (endpoint : Endpoint)
  deriving DecidableEq, Repr

namespace Pending

def fresh : Pending := ⟨none, none, none, none, [], .empty⟩

/-- The fields after a change.  The first start stays, annotations add up, and of
anything else the last value stays. -/
def update (pending : Pending) : Update → Pending
  | .start time => { pending with start := some (pending.start.getD time) }
  | .name name => { pending with name := some name }
  | .kind kind => { pending with kind := some kind }
  | .tag key value => { pending with tags := pending.tags.insert key value }
  | .annotate time value =>
      { pending with annotations := pending.annotations ++ [⟨time, value⟩] }
  | .remoteEndpoint endpoint => { pending with remoteEndpoint := some endpoint }

/-- The duration of a span that ends so.  Only a started span that is finished has
one. -/
def duration (pending : Pending) : Ending → Option UInt64
  | .finish time => pending.start.map fun start => Timestamp.since time start
  | .flush => none
  | .abandon => none

def record (pending : Pending) (context : Context) (localEndpoint : Endpoint)
    (ending : Ending) : SpanRecord where
  traceId := context.traceId
  spanId := context.spanId
  parentId := context.parentId
  name := pending.name
  kind := pending.kind
  start := pending.start
  duration := pending.duration ending
  localEndpoint := if localEndpoint.isEmpty then none else some localEndpoint
  remoteEndpoint := pending.remoteEndpoint
  annotations := pending.annotations
  tags := pending.tags
  debug := context.sampling.isDebug
  shared := context.shared

def lateStart (pending : Pending) (context : Context) : Ending → List Event
  | .finish time =>
      match pending.start with
      | none => []
      | some start => if time < start then [.finishBeforeStart context start time] else []
  | .flush => []
  | .abandon => []

end Pending

structure Ledger where
  pending : Table SpanKey Pending
  localEndpoint : Endpoint
  sink : Sink
  delivered : Nat

structure Effects where
  events : List Event
  records : List SpanRecord

def Effects.none : Effects := ⟨[], []⟩

inductive LedgerCall where
  | register
  | update (change : Update)
  | conclude (ending : Ending)
  deriving DecidableEq, Repr

namespace Ledger

def create (localEndpoint : Endpoint) (sink : Sink) : Ledger :=
  ⟨.empty, localEndpoint, sink, 0⟩

def tracks (ledger : Ledger) (context : Context) : Bool :=
  ledger.pending.contains context.key

def size (ledger : Ledger) : Nat :=
  ledger.pending.size

/-- Tracks a span.  A span that is tracked already keeps its fields. -/
def register (ledger : Ledger) (context : Context) : Ledger :=
  if ledger.tracks context then ledger
  else { ledger with pending := ledger.pending.insert context.key .fresh }

def update (ledger : Ledger) (context : Context) (change : Update) : Ledger :=
  { ledger with
    pending := ledger.pending.modify context.key fun pending => pending.update change }

/-- Hands a record to the sink.  A refusal is logged and the record is lost. -/
def report (ledger : Ledger) (context : Context) (record : SpanRecord) :
    Ledger × Effects :=
  let events :=
    match ledger.sink.accept ledger.delivered record with
    | .ok events => events
    | .error cause => [.reportRejected context cause]
  ({ ledger with delivered := ledger.delivered + 1 }, ⟨events, [record]⟩)

/-- Ends a span.  Its tracking stops, and unless it is abandoned its record is
delivered.  An ending of a span that is not tracked is logged. -/
def conclude (ledger : Ledger) (context : Context) (ending : Ending) :
    Ledger × Effects :=
  match ledger.pending.get? context.key with
  | none => (ledger, ⟨[.spanUnknown context ending], []⟩)
  | some pending =>
      let remaining := { ledger with pending := ledger.pending.erase context.key }
      match ending with
      | .abandon => (remaining, .none)
      | ending =>
          let late := pending.lateStart context ending
          let (ledger, effects) :=
            remaining.report context (pending.record context ledger.localEndpoint ending)
          (ledger, { effects with events := late ++ effects.events })

def perform (ledger : Ledger) (context : Context) : LedgerCall → Ledger × Effects
  | .register => (ledger.register context, .none)
  | .update change => (ledger.update context change, .none)
  | .conclude ending => ledger.conclude context ending

def describe (ledger : Ledger) : String :=
  Layout.record "Recorder"
    [("pending", toString ledger.size),
      ("local_endpoint", ledger.localEndpoint.describe),
      ("reporter", ledger.sink.label)]

end Ledger

/-- A handle to a span.  Calls on an idle one are ignored. -/
structure Span where
  context : Context
  idle : Bool
  deriving DecidableEq, Repr

namespace Span

def describe (span : Span) : String :=
  Layout.record "Span"
    [("context", span.context.describe), ("noop", Layout.bool span.idle)]

/-- The context that the span makes current.  An idle span makes none current. -/
def scopeContext (span : Option Span) : Option Context :=
  (span.filter fun span => !span.idle).map Span.context

end Span

/-! ### Calls -/

inductive Customization where
  | name (text : String)
  | tag (key value : String)
  | annotate (value : String)
  | annotateAt (time : Timestamp) (value : String)
  deriving DecidableEq, Repr

inductive SpanCall where
  | start
  | annotate (value : String)
  | update (change : Update)
  | finish
  | conclude (ending : Ending)
  deriving DecidableEq, Repr

def Customization.call : Customization → SpanCall
  | .name text => .update (.name text)
  | .tag key value => .update (.tag key value)
  | .annotate value => .annotate value
  | .annotateAt time value => .update (.annotate time value)

def SpanCall.at (now : Timestamp) : SpanCall → LedgerCall
  | .start => .update (.start now)
  | .annotate value => .update (.annotate now value)
  | .update change => .update change
  | .finish => .conclude (.finish now)
  | .conclude ending => .conclude ending

end SpanTrail
