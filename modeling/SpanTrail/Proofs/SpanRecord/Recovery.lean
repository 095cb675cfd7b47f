import SpanTrail.Proofs.Address.Text
import SpanTrail.Proofs.B3.Grammar
import SpanTrail.Proofs.Json
import SpanTrail.SpanRecord

/-! Recovery of a record from its JSON text.  Every field is looked up by its name, a missing
one is a value that was not known, and every value reads back as it was written. -/

namespace SpanTrail

namespace Tags

/-- A key above all others goes to the end. -/
theorem insertEntry_above {key value : String} {entries : List (String × String)}
    (above : ∀ entry ∈ entries, entry.1 < key) :
    insertEntry key value entries = entries ++ [(key, value)] := by
  induction entries with
  | nil => rfl
  | cons first rest ih =>
      have below := above first List.mem_cons_self
      have apart : ¬key = first.1 := by
        rintro rfl
        exact String.lt_irrefl _ below
      rw [insertEntry, if_neg (String.lt_asymm below), if_neg apart,
        ih fun entry member => above entry (List.mem_cons_of_mem _ member), List.cons_append]

theorem ofList_entries (tags : Tags) : ofList tags.entries = tags := by
  obtain ⟨entries, ascending⟩ := tags
  have same : (ofList entries).entries = entries := by
    induction entries using List.reverseRecOn with
    | nil => rfl
    | append_singleton entries last ih =>
        obtain ⟨front, _, below⟩ := List.pairwise_append.mp ascending
        have step : (ofList (entries ++ [last])).entries =
            insertEntry last.1 last.2 (ofList entries).entries := by
          unfold ofList
          rw [List.foldl_append]
          rfl
        rw [step, ih front, insertEntry_above fun entry member =>
          below entry member last List.mem_cons_self]
  cases made : ofList entries with
  | mk others ordered =>
      rw [made] at same
      cases same
      rfl

end Tags

inductive Json.Unambiguous : Json.Value → Prop where
  | number (value : Nat) : Unambiguous (.number value)
  | text (value : String) : Unambiguous (.text value)
  | boolean (value : Bool) : Unambiguous (.boolean value)
  | array {items : List Json.Value} (all : ∀ item ∈ items, Unambiguous item) :
      Unambiguous (.array items)
  | object {fields : List (String × Json.Value)} (distinct : (fields.map Prod.fst).Nodup)
      (all : ∀ field ∈ fields, Unambiguous field.2) : Unambiguous (.object fields)

namespace SpanRecord

/-! ### Reading -/

def optional? {Field : Type} (decode : Json.Value → Option Field)
    (fields : List (String × Json.Value)) (name : String) : Option (Option Field) :=
  match fields.lookup name with
  | none => some none
  | some value => (decode value).map some

def required? {Field : Type} (decode : Json.Value → Option Field)
    (fields : List (String × Json.Value)) (name : String) : Option Field :=
  (fields.lookup name).bind decode

def textOf? : Json.Value → Option String
  | .text text => some text
  | _ => none

def wordOf? : Json.Value → Option UInt64
  | .number number => if number < UInt64.size then some (UInt64.ofNat number) else none
  | _ => none

def flagOf? : Json.Value → Option Bool
  | .boolean flag => some flag
  | _ => none

def traceIdOf? (value : Json.Value) : Option TraceId :=
  (textOf? value).bind fun text => (TraceId.read text).toOption

def spanIdOf? (value : Json.Value) : Option SpanId :=
  (textOf? value).bind fun text => (SpanId.read text).toOption

def kindOf? : Json.Value → Option Kind
  | .text "CLIENT" => some .client
  | .text "SERVER" => some .server
  | _ => none

def portOf? : Json.Value → Option UInt16
  | .number number => if number < UInt16.size then some (UInt16.ofNat number) else none
  | _ => none

def ipv4Of? (value : Json.Value) : Option IPv4 :=
  (textOf? value).bind fun text => IPv4.ofList? text.toList

def ipv6Of? (value : Json.Value) : Option IPv6 :=
  (textOf? value).bind fun text => IPv6.ofList? text.toList

def endpointOf? : Json.Value → Option Endpoint
  | .object fields => do
      return {
        serviceName := ← optional? textOf? fields "serviceName"
        ipv4 := ← optional? ipv4Of? fields "ipv4"
        ipv6 := ← optional? ipv6Of? fields "ipv6"
        port := ← optional? portOf? fields "port" }
  | _ => none

def annotationOf? : Json.Value → Option Annotation
  | .object fields => do
      return {
        time := ← required? wordOf? fields "timestamp"
        value := ← required? textOf? fields "value" }
  | _ => none

def annotationsOf? : Json.Value → Option (List Annotation)
  | .array items => items.mapM annotationOf?
  | _ => none

def tagsOf? : Json.Value → Option Tags
  | .object fields =>
      (fields.mapM fun field => (textOf? field.2).map fun text => (field.1, text)).map Tags.ofList
  | _ => none

/-- Reads a record.  Annotations or tags that are left out are none. -/
def ofJson? : Json.Value → Option SpanRecord
  | .object fields => do
      return {
        traceId := ← required? traceIdOf? fields "traceId"
        spanId := ← required? spanIdOf? fields "id"
        parentId := ← optional? spanIdOf? fields "parentId"
        name := ← optional? textOf? fields "name"
        kind := ← optional? kindOf? fields "kind"
        start := ← optional? wordOf? fields "timestamp"
        duration := ← optional? wordOf? fields "duration"
        localEndpoint := ← optional? endpointOf? fields "localEndpoint"
        remoteEndpoint := ← optional? endpointOf? fields "remoteEndpoint"
        annotations := (← optional? annotationsOf? fields "annotations").getD []
        tags := (← optional? tagsOf? fields "tags").getD .empty
        debug := ← required? flagOf? fields "debug"
        shared := ← required? flagOf? fields "shared" }
  | _ => none

def known (parts : List (String × Option Json.Value)) : List (String × Json.Value) :=
  parts.filterMap fun part => part.2.map fun value => (part.1, value)

theorem known_cons (name : String) (value : Option Json.Value)
    (parts : List (String × Option Json.Value)) :
    known ((name, value) :: parts) =
      (value.map fun value => (name, value)).toList ++ known parts := by
  unfold known
  rw [List.filterMap_cons]
  cases value <;> rfl

theorem known_nil : known [] = [] := rfl

theorem known_some (name : String) (value : Json.Value)
    (parts : List (String × Option Json.Value)) :
    known ((name, some value) :: parts) = (name, value) :: known parts := rfl

theorem known_field {Field : Type} (name : String) (encode : Field → Json.Value)
    (value : Option Field) (parts : List (String × Option Json.Value)) :
    known ((name, value.map encode) :: parts) = field? name encode value ++ known parts := by
  rw [known_cons, Option.map_map]
  rfl

theorem names_known (parts : List (String × Option Json.Value)) :
    ((known parts).map Prod.fst).Sublist (parts.map Prod.fst) := by
  induction parts with
  | nil => exact List.Sublist.refl []
  | cons part parts ih =>
      obtain ⟨name, value⟩ := part
      rw [known_cons]
      cases value with
      | none => exact ih.cons name
      | some value => exact ih.cons_cons name

theorem lookup_known {parts : List (String × Option Json.Value)}
    (distinct : (parts.map Prod.fst).Nodup) {name : String} {value : Option Json.Value}
    (part : (name, value) ∈ parts) : (known parts).lookup name = value := by
  cases value with
  | some value =>
      have isKnown : (name, value) ∈ known parts := List.mem_filterMap.mpr ⟨_, part, rfl⟩
      exact Lists.lookup_of_mem (distinct.sublist (names_known parts)) isKnown
  | none =>
      rw [List.lookup_eq_none_iff]
      intro field isKnown
      obtain ⟨other, isPart, written⟩ := List.mem_filterMap.mp isKnown
      rw [bne_iff_ne]
      rintro rfl
      obtain ⟨value, found, rfl⟩ := Option.map_eq_some_iff.mp written
      have same := Lists.lookup_of_mem distinct part
      rw [Lists.lookup_of_mem distinct isPart, found] at same
      cases same

section

variable {parts : List (String × Option Json.Value)} (distinct : (parts.map Prod.fst).Nodup)
  {Field : Type} {decode : Json.Value → Option Field} {name : String} (index : Nat)
include distinct

theorem optional?_known {encode : Field → Json.Value} {value : Option Field}
    (part : parts[index]? = some (name, value.map encode))
    (back : ∀ value, decode (encode value) = some value) :
    optional? decode (known parts) name = some value := by
  unfold optional?
  rw [lookup_known distinct (List.mem_of_getElem? part)]
  cases value with
  | none => rfl
  | some value =>
      change (decode (encode value)).map some = _
      rw [back]
      rfl

theorem required?_known {written : Json.Value} {value : Field}
    (part : parts[index]? = some (name, some written)) (back : decode written = some value) :
    required? decode (known parts) name = some value := by
  unfold required?
  rw [lookup_known distinct (List.mem_of_getElem? part)]
  exact back

end

theorem traceIdOf?_text (id : TraceId) : traceIdOf? (.text id.text) = some id := by
  have isRead : TraceId.read id.text = .ok id := TraceId.numbering.read_text id
  unfold traceIdOf? textOf?
  rw [Option.bind_some, isRead]
  rfl

theorem spanIdOf?_text (id : SpanId) : spanIdOf? (.text id.text) = some id := by
  have isRead : SpanId.read id.text = .ok id := SpanId.numbering.read_text id
  unfold spanIdOf? textOf?
  rw [Option.bind_some, isRead]
  rfl

theorem wordOf?_wordJson (word : UInt64) : wordOf? (wordJson word) = some word := by
  have read : wordOf? (wordJson word) =
      if word.toNat < UInt64.size then some (UInt64.ofNat word.toNat) else none := rfl
  rw [read, if_pos word.toNat_lt, UInt64.ofNat_toNat]

theorem kindOf?_kindJson (kind : Kind) : kindOf? (kindJson kind) = some kind := by
  cases kind <;> rfl

theorem ipv4Of?_text (address : IPv4) : ipv4Of? (.text address.text) = some address := by
  unfold ipv4Of? textOf? IPv4.text
  rw [Option.bind_some, String.toList_ofList, IPv4.ofList?_toList]

theorem ipv6Of?_text (address : IPv6) : ipv6Of? (.text address.text) = some address := by
  unfold ipv6Of? textOf? IPv6.text
  rw [Option.bind_some, String.toList_ofList, IPv6.ofList?_toList]

theorem portOf?_number (port : UInt16) : portOf? (.number port.toNat) = some port := by
  have read : portOf? (.number port.toNat) =
      if port.toNat < UInt16.size then some (UInt16.ofNat port.toNat) else none := rfl
  rw [read, if_pos port.toNat_lt, UInt16.ofNat_toNat]

def endpointParts (endpoint : Endpoint) : List (String × Option Json.Value) :=
  [("serviceName", endpoint.serviceName.map .text),
    ("ipv4", endpoint.ipv4.map fun address => .text address.text),
    ("ipv6", endpoint.ipv6.map fun address => .text address.text),
    ("port", endpoint.port.map fun port => .number port.toNat)]

theorem endpointJson_eq (endpoint : Endpoint) :
    endpointJson endpoint = .object (known (endpointParts endpoint)) := by
  unfold endpointJson endpointParts
  rw [known_field, known_field, known_field, known_field, List.append_assoc, List.append_assoc]
  rw [known_nil, List.append_nil]

theorem endpointParts_distinct (endpoint : Endpoint) :
    ((endpointParts endpoint).map Prod.fst).Nodup := by
  change ["serviceName", "ipv4", "ipv6", "port"].Nodup
  decide

theorem endpointOf?_endpointJson (endpoint : Endpoint) :
    endpointOf? (endpointJson endpoint) = some endpoint := by
  have distinct := endpointParts_distinct endpoint
  have name : optional? textOf? (known (endpointParts endpoint)) "serviceName" =
      some endpoint.serviceName :=
    optional?_known distinct 0 rfl (fun _ => rfl)
  have ipv4 : optional? ipv4Of? (known (endpointParts endpoint)) "ipv4" = some endpoint.ipv4 :=
    optional?_known distinct 1 rfl ipv4Of?_text
  have ipv6 : optional? ipv6Of? (known (endpointParts endpoint)) "ipv6" = some endpoint.ipv6 :=
    optional?_known distinct 2 rfl ipv6Of?_text
  have port : optional? portOf? (known (endpointParts endpoint)) "port" = some endpoint.port :=
    optional?_known distinct 3 rfl portOf?_number
  rw [endpointJson_eq]
  simp only [endpointOf?, name, ipv4, ipv6, port]
  rfl

theorem annotationOf?_annotationJson (note : Annotation) :
    annotationOf? (annotationJson note) = some note := by
  have time : required? wordOf? [("timestamp", wordJson note.time), ("value", .text note.value)]
      "timestamp" = some note.time := wordOf?_wordJson note.time
  unfold annotationOf? annotationJson
  dsimp only
  rw [time]
  rfl

theorem annotationsOf?_array (annotations : List Annotation) :
    annotationsOf? (.array (annotations.map annotationJson)) = some annotations := by
  change (annotations.map annotationJson).mapM annotationOf? = some annotations
  induction annotations with
  | nil => rfl
  | cons note rest ih =>
      rw [List.map_cons, List.mapM_cons, annotationOf?_annotationJson, ih]
      rfl

def tagFields (tags : Tags) : List (String × Json.Value) :=
  tags.entries.map fun entry => (entry.1, .text entry.2)

theorem tagsOf?_object (tags : Tags) : tagsOf? (.object (tagFields tags)) = some tags := by
  have entries (pairs : List (String × String)) :
      (pairs.map fun entry => (entry.1, Json.Value.text entry.2)).mapM
        (fun field => (textOf? field.2).map fun text => (field.1, text)) = some pairs := by
    induction pairs with
    | nil => rfl
    | cons pair rest ih =>
        rw [List.map_cons, List.mapM_cons, ih]
        rfl
  unfold tagsOf? tagFields
  dsimp only
  rw [entries, Option.map_some, Tags.ofList_entries]

def noted (annotations : List Annotation) : Option (List Annotation) :=
  if annotations.isEmpty then none else some annotations

def tagged (tags : Tags) : Option Tags :=
  if tags.isEmpty then none else some tags

theorem noted_getD (annotations : List Annotation) : (noted annotations).getD [] = annotations := by
  cases annotations <;> rfl

theorem tagged_getD (tags : Tags) : (tagged tags).getD .empty = tags := by
  obtain ⟨entries, _⟩ := tags
  cases entries <;> rfl

def parts (record : SpanRecord) : List (String × Option Json.Value) :=
  [("traceId", some (.text record.traceId.text)),
    ("parentId", record.parentId.map fun id => .text id.text),
    ("id", some (.text record.spanId.text)),
    ("kind", record.kind.map kindJson),
    ("name", record.name.map .text),
    ("timestamp", record.start.map wordJson),
    ("duration", record.duration.map wordJson),
    ("localEndpoint", record.localEndpoint.map endpointJson),
    ("remoteEndpoint", record.remoteEndpoint.map endpointJson),
    ("annotations", (noted record.annotations).map fun notes => .array (notes.map annotationJson)),
    ("tags", (tagged record.tags).map fun tags => .object (tagFields tags)),
    ("debug", some (.boolean record.debug)),
    ("shared", some (.boolean record.shared))]

theorem annotationsJson_eq (annotations : List Annotation) :
    annotationsJson annotations =
      field? "annotations" (fun notes => .array (notes.map annotationJson))
        (noted annotations) := by
  unfold annotationsJson noted
  split <;> rfl

theorem tagsJson_eq (tags : Tags) :
    tagsJson tags = field? "tags" (fun tags => .object (tagFields tags)) (tagged tags) := by
  unfold tagsJson tagged
  split <;> rfl

theorem toJson_eq (record : SpanRecord) : record.toJson = .object (known record.parts) := by
  unfold toJson parts
  rw [annotationsJson_eq, tagsJson_eq]
  simp only [known_some, known_field, known_nil, List.append_assoc, List.cons_append,
    List.nil_append]

theorem parts_distinct (record : SpanRecord) : (record.parts.map Prod.fst).Nodup := by
  change ["traceId", "parentId", "id", "kind", "name", "timestamp", "duration", "localEndpoint",
    "remoteEndpoint", "annotations", "tags", "debug", "shared"].Nodup
  decide

theorem ofJson?_toJson (record : SpanRecord) : ofJson? record.toJson = some record := by
  have distinct := record.parts_distinct
  have traceId : required? traceIdOf? (known record.parts) "traceId" = some record.traceId :=
    required?_known distinct 0 rfl (traceIdOf?_text record.traceId)
  have parentId : optional? spanIdOf? (known record.parts) "parentId" = some record.parentId :=
    optional?_known distinct 1 rfl spanIdOf?_text
  have spanId : required? spanIdOf? (known record.parts) "id" = some record.spanId :=
    required?_known distinct 2 rfl (spanIdOf?_text record.spanId)
  have kind : optional? kindOf? (known record.parts) "kind" = some record.kind :=
    optional?_known distinct 3 rfl kindOf?_kindJson
  have name : optional? textOf? (known record.parts) "name" = some record.name :=
    optional?_known distinct 4 rfl (fun _ => rfl)
  have start : optional? wordOf? (known record.parts) "timestamp" = some record.start :=
    optional?_known distinct 5 rfl wordOf?_wordJson
  have duration : optional? wordOf? (known record.parts) "duration" = some record.duration :=
    optional?_known distinct 6 rfl wordOf?_wordJson
  have localEndpoint : optional? endpointOf? (known record.parts) "localEndpoint" =
      some record.localEndpoint :=
    optional?_known distinct 7 rfl endpointOf?_endpointJson
  have remoteEndpoint : optional? endpointOf? (known record.parts) "remoteEndpoint" =
      some record.remoteEndpoint :=
    optional?_known distinct 8 rfl endpointOf?_endpointJson
  have annotations : optional? annotationsOf? (known record.parts) "annotations" =
      some (noted record.annotations) :=
    optional?_known distinct 9 rfl annotationsOf?_array
  have tags : optional? tagsOf? (known record.parts) "tags" = some (tagged record.tags) :=
    optional?_known distinct 10 rfl tagsOf?_object
  have debug : required? flagOf? (known record.parts) "debug" = some record.debug :=
    required?_known distinct 11 rfl rfl
  have shared : required? flagOf? (known record.parts) "shared" = some record.shared :=
    required?_known distinct 12 rfl rfl
  rw [toJson_eq]
  simp only [ofJson?, traceId, parentId, spanId, kind, name, start, duration, localEndpoint,
    remoteEndpoint, annotations, tags, debug, shared, Option.bind_eq_bind, Option.bind_some,
    noted_getD, tagged_getD]
  rfl

theorem unambiguous_known {parts : List (String × Option Json.Value)}
    (distinct : (parts.map Prod.fst).Nodup)
    (all : ∀ part ∈ parts, ∀ value ∈ part.2, Json.Unambiguous value) :
    Json.Unambiguous (.object (known parts)) := by
  refine .object (distinct.sublist (names_known parts)) ?_
  intro field isKnown
  obtain ⟨⟨name, value⟩, isPart, written⟩ := List.mem_filterMap.mp isKnown
  obtain ⟨value, found, rfl⟩ := Option.map_eq_some_iff.mp written
  exact all _ isPart value found

theorem unambiguous_map {Field : Type} {encode : Field → Json.Value}
    (all : ∀ value, Json.Unambiguous (encode value)) (value : Option Field) :
    ∀ written ∈ value.map encode, Json.Unambiguous written := by
  intro written member
  obtain ⟨value, _, rfl⟩ := Option.map_eq_some_iff.mp member
  exact all value

theorem unambiguous_some {value : Json.Value} (unambiguous : Json.Unambiguous value) :
    ∀ written ∈ some value, Json.Unambiguous written := by
  rintro written ⟨⟩
  exact unambiguous

theorem unambiguous_kindJson (kind : Kind) : Json.Unambiguous (kindJson kind) := by
  cases kind <;> exact .text _

theorem unambiguous_wordJson (word : UInt64) : Json.Unambiguous (wordJson word) :=
  .number word.toNat

theorem unambiguous_endpointJson (endpoint : Endpoint) :
    Json.Unambiguous (endpointJson endpoint) := by
  rw [endpointJson_eq]
  apply unambiguous_known (endpointParts_distinct endpoint)
  unfold endpointParts
  simp only [List.forall_mem_cons]
  exact ⟨unambiguous_map .text _, unambiguous_map (fun _ => .text _) _,
    unambiguous_map (fun _ => .text _) _, unambiguous_map (fun _ => .number _) _, nofun⟩

theorem unambiguous_annotations (annotations : List Annotation) :
    Json.Unambiguous (.array (annotations.map annotationJson)) := by
  apply Json.Unambiguous.array
  intro item member
  obtain ⟨note, _, rfl⟩ := List.mem_map.mp member
  apply Json.Unambiguous.object
  · change ["timestamp", "value"].Nodup
    decide
  · simp only [List.forall_mem_cons]
    exact ⟨.number _, .text _, nofun⟩

theorem unambiguous_tags (tags : Tags) : Json.Unambiguous (.object (tagFields tags)) := by
  unfold tagFields
  apply Json.Unambiguous.object
  · rw [List.map_map]
    refine List.Pairwise.map Prod.fst ?_ tags.ascending
    intro left right below same
    rw [same] at below
    exact String.lt_irrefl _ below
  · intro field member
    obtain ⟨entry, _, rfl⟩ := List.mem_map.mp member
    exact .text _

theorem unambiguous_toJson (record : SpanRecord) : Json.Unambiguous record.toJson := by
  rw [toJson_eq]
  apply unambiguous_known record.parts_distinct
  unfold parts
  simp only [List.forall_mem_cons]
  exact ⟨unambiguous_some (.text record.traceId.text),
    unambiguous_map (fun id => .text id.text) record.parentId,
    unambiguous_some (.text record.spanId.text),
    unambiguous_map unambiguous_kindJson record.kind,
    unambiguous_map .text record.name,
    unambiguous_map unambiguous_wordJson record.start,
    unambiguous_map unambiguous_wordJson record.duration,
    unambiguous_map unambiguous_endpointJson record.localEndpoint,
    unambiguous_map unambiguous_endpointJson record.remoteEndpoint,
    unambiguous_map unambiguous_annotations (noted record.annotations),
    unambiguous_map unambiguous_tags (tagged record.tags),
    unambiguous_some (.boolean record.debug), unambiguous_some (.boolean record.shared), nofun⟩

/-! ### Nothing is lost -/

/-- The text of a record is one JSON object, without ambiguous names and on one line, and the
record is recovered from it.  So records of the same text are the same: neither an endpoint
without fields nor an empty name is taken for a missing one. -/
theorem recovered_from_text (record : SpanRecord) :
    (∃ fields, Json.read? record.toJson.toText = some (.object fields) ∧
        Json.Unambiguous (.object fields)) ∧
      (∀ byte ∈ Header.textBytes record.toJson.toText, 0x20 ≤ byte.toNat) ∧
      (Json.read? record.toJson.toText).bind ofJson? = some record ∧
      ∀ other : SpanRecord, other.toJson.toText = record.toJson.toText → other = record := by
  have read := Json.read?_toText record.toJson
  refine ⟨⟨known record.parts, ?_, ?_⟩, ?_, ?_, ?_⟩
  · rw [read, toJson_eq]
  · rw [← toJson_eq]
    exact unambiguous_toJson record
  · intro byte member
    exact Json.printable_toText record.toJson member
  · rw [read, Option.bind_some, ofJson?_toJson]
  · intro other sameText
    have same := congrArg ofJson? (Json.toText_injective sameText)
    rw [ofJson?_toJson, ofJson?_toJson] at same
    exact Option.some.inj same

end SpanRecord

end SpanTrail
