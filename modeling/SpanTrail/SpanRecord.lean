import SpanTrail.Context
import SpanTrail.Endpoint
import SpanTrail.Json
import SpanTrail.Time

/-! The record of a span that has ended, as it is handed to a sink, and its JSON form, which
leaves out whatever is not known.  The tags of a span are kept in the order of their keys, so
that equal maps have equal entries. -/

namespace SpanTrail

structure Tags where
  entries : List (String × String)
  ascending : entries.Pairwise fun left right => left.1 < right.1

namespace Tags

def empty : Tags := ⟨[], .nil⟩

instance : Inhabited Tags := ⟨empty⟩

def isEmpty (tags : Tags) : Bool :=
  tags.entries.isEmpty

def get? (tags : Tags) (key : String) : Option String :=
  tags.entries.lookup key

def insertEntry (key value : String) : List (String × String) → List (String × String)
  | [] => [(key, value)]
  | entry :: rest =>
      if key < entry.1 then (key, value) :: entry :: rest
      else if key = entry.1 then (key, value) :: rest
      else entry :: insertEntry key value rest

theorem mem_insertEntry {key value : String} {entry : String × String}
    {entries : List (String × String)} (found : entry ∈ insertEntry key value entries) :
    entry = (key, value) ∨ entry ∈ entries := by
  induction entries with
  | nil => simpa [insertEntry] using found
  | cons first rest ih =>
      unfold insertEntry at found
      split at found
      · simpa using found
      · split at found
        · rcases List.mem_cons.mp found with here | there
          · exact .inl here
          · exact .inr (List.mem_cons_of_mem _ there)
        · rcases List.mem_cons.mp found with here | there
          · exact .inr (here ▸ List.mem_cons_self)
          · rcases ih there with new | old
            · exact .inl new
            · exact .inr (List.mem_cons_of_mem _ old)

theorem ascending_insertEntry (key value : String) {entries : List (String × String)}
    (ascending : entries.Pairwise fun left right => left.1 < right.1) :
    (insertEntry key value entries).Pairwise fun left right => left.1 < right.1 := by
  induction entries with
  | nil => simp [insertEntry]
  | cons first rest ih =>
      obtain ⟨below, inRest⟩ := List.pairwise_cons.mp ascending
      unfold insertEntry
      split
      · rename_i smaller
        refine ascending.cons fun entry found => ?_
        rcases List.mem_cons.mp found with here | there
        · exact here ▸ smaller
        · exact String.lt_trans smaller (below entry there)
      · rename_i notSmaller
        split
        · rename_i same
          exact inRest.cons fun entry found => same ▸ below entry found
        · rename_i differs
          refine (ih inRest).cons fun entry found => ?_
          rcases mem_insertEntry found with new | old
          · subst new
            refine Decidable.byContradiction fun notBelow => differs ?_
            exact String.le_antisymm (String.not_lt.mp notBelow) (String.not_lt.mp notSmaller)
          · exact below entry old

def insert (tags : Tags) (key value : String) : Tags :=
  ⟨insertEntry key value tags.entries, ascending_insertEntry key value tags.ascending⟩

def ofList (pairs : List (String × String)) : Tags :=
  pairs.foldl (fun sofar pair => sofar.insert pair.1 pair.2) empty

@[simp] theorem get?_empty (key : String) : empty.get? key = none := rfl

theorem lookup_insertEntry (key other value : String) (entries : List (String × String)) :
    (insertEntry key value entries).lookup other =
      if other = key then some value else entries.lookup other := by
  induction entries with
  | nil =>
      by_cases same : other = key
      · simp [insertEntry, same]
      · have differs : (other == key) = false := by simpa using same
        simp [insertEntry, List.lookup_cons, same, differs]
  | cons first rest ih =>
      obtain ⟨name, old⟩ := first
      unfold insertEntry
      by_cases same : other = key
      · subst same
        split
        · simp
        · split
          · simp
          · rename_i differs
            have differs : (other == name) = false := by simpa using differs
            simp [List.lookup_cons, differs, ih]
      · have apart : (other == key) = false := by simpa using same
        split
        · simp [List.lookup_cons, apart]
        · split
          · rename_i equal
            simp only at equal
            subst equal
            simp [List.lookup_cons, apart]
          · simp only [List.lookup_cons, ih, if_neg same]

theorem get?_insert (tags : Tags) (key other value : String) :
    (tags.insert key value).get? other = if other = key then some value else tags.get? other :=
  lookup_insertEntry key other value tags.entries

end Tags

inductive Kind where
  | client
  | server
  deriving DecidableEq, Repr

def Kind.ends : Kind → String × String
  | .client => ("cs", "cr")
  | .server => ("sr", "ss")

structure Annotation where
  time : Timestamp
  value : String
  deriving DecidableEq, Repr

structure SpanRecord where
  traceId : TraceId
  spanId : SpanId
  parentId : Option SpanId
  name : Option String
  kind : Option Kind
  start : Option Timestamp
  duration : Option UInt64
  localEndpoint : Option Endpoint
  remoteEndpoint : Option Endpoint
  annotations : List Annotation
  tags : Tags
  debug : Bool
  shared : Bool

namespace SpanRecord

def sumOverflow : Failure :=
  .crash "attempt to add with overflow"

/-- When the span ended, if both its start and its duration are known.  The sum has
to fit a timestamp. -/
def finish (record : SpanRecord) : Except Failure (Option Timestamp) :=
  match record.start, record.duration with
  | some start, some duration =>
      if start.toNat + duration.toNat < UInt64.size then .ok (some (start + duration))
      else .error sumOverflow
  | _, _ => .ok none

def endAnnotations (record : SpanRecord) : Except Failure (List Annotation) :=
  match record.kind with
  | none => .ok []
  | some kind =>
      record.finish.map fun finish =>
        let first := record.start.map fun time => ⟨time, kind.ends.1⟩
        let last := finish.map fun time => ⟨time, kind.ends.2⟩
        first.toList ++ last.toList

/-! ### The JSON form -/

def field? {α : Type} (name : String) (encode : α → Json.Value) (value : Option α) :
    List (String × Json.Value) :=
  (value.map fun known => (name, encode known)).toList

def kindJson : Kind → Json.Value
  | .client => .text "CLIENT"
  | .server => .text "SERVER"

def wordJson (word : UInt64) : Json.Value :=
  .number word.toNat

def endpointJson (endpoint : Endpoint) : Json.Value :=
  .object
    (field? "serviceName" .text endpoint.serviceName ++
      field? "ipv4" (fun address => .text address.text) endpoint.ipv4 ++
      field? "ipv6" (fun address => .text address.text) endpoint.ipv6 ++
      field? "port" (fun port => .number port.toNat) endpoint.port)

def annotationJson (note : Annotation) : Json.Value :=
  .object [("timestamp", wordJson note.time), ("value", .text note.value)]

def annotationsJson (annotations : List Annotation) : List (String × Json.Value) :=
  if annotations.isEmpty then []
  else [("annotations", .array (annotations.map annotationJson))]

def tagsJson (tags : Tags) : List (String × Json.Value) :=
  if tags.isEmpty then []
  else [("tags", .object (tags.entries.map fun entry => (entry.1, .text entry.2)))]

def toJson (record : SpanRecord) : Json.Value :=
  .object
    ([("traceId", .text record.traceId.text)] ++
      field? "parentId" (fun id => .text id.text) record.parentId ++
      [("id", .text record.spanId.text)] ++
      field? "kind" kindJson record.kind ++
      field? "name" .text record.name ++
      field? "timestamp" wordJson record.start ++
      field? "duration" wordJson record.duration ++
      field? "localEndpoint" endpointJson record.localEndpoint ++
      field? "remoteEndpoint" endpointJson record.remoteEndpoint ++
      annotationsJson record.annotations ++
      tagsJson record.tags ++
      [("debug", .boolean record.debug), ("shared", .boolean record.shared)])

end SpanRecord

end SpanTrail
