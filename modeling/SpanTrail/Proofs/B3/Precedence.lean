import SpanTrail.Proofs.B3.Grammar
import SpanTrail.Proofs.B3.RoundTrip

/-! What a carrier with any values in it says.  Every field counts by itself, and one that is not
well formed counts as missing.  What is left is settled in a fixed order: a whole context,
separate fields with both identities, a lone state, the separate state.  Reading takes both forms
whatever the encoding, so all six fields matter to it.  An encoding declares what it writes, and
only the one that writes both forms declares them all. -/

namespace SpanTrail.B3

inductive DecisionText : List Char → Bool → Prop where
  | one : DecisionText ['1'] true
  | yes : DecisionText "true".toList true
  | zero : DecisionText ['0'] false
  | no : DecisionText "false".toList false

theorem decision?_eq_some_iff {text : List Char} {decision : Bool} :
    decision? text = some decision ↔ DecisionText text decision := by
  constructor
  · intro isRead
    unfold decision? at isRead
    split at isRead
    · cases isRead
      rename_i accepting
      rcases accepting with rfl | rfl
      · exact .one
      · exact .yes
    · split at isRead
      · cases isRead
        rename_i rejecting
        rcases rejecting with rfl | rfl
        · exact .zero
        · exact .no
      · cases isRead
  · intro spelled
    cases spelled <;> decide

def Field.WellFormed (text : String) : Field → Prop
  | .whole => ∃ extraction, Whole.Spells (Blank.trimList text.toList) extraction
  | .traceId => ∃ id, TraceText text.toList id
  | .spanId => ∃ id, SpanText text.toList id
  | .parentSpanId => ∃ id, SpanText text.toList id
  | .sampled => ∃ decision, DecisionText (Blank.trimList text.toList) decision
  | .flags => Blank.trimList text.toList = ['1']

section

variable (get : String → Option String)

def FoundWhole (extraction : Extraction) : Prop :=
  ∃ text, get Field.whole.name = some text ∧
    Whole.Spells (Blank.trimList text.toList) extraction

def FoundTrace (id : TraceId) : Prop :=
  ∃ text, get Field.traceId.name = some text ∧ TraceText text.toList id

def FoundSpan (field : Field) (id : SpanId) : Prop :=
  ∃ text, get field.name = some text ∧ SpanText text.toList id

def FoundDecision (decision : Bool) : Prop :=
  ∃ text, get Field.sampled.name = some text ∧
    DecisionText (Blank.trimList text.toList) decision

def FoundDebug : Prop :=
  ∃ text, get Field.flags.name = some text ∧ Blank.trimList text.toList = ['1']

inductive FoundParent : Option SpanId → Prop where
  | missing (absent : ∀ id, ¬FoundSpan get .parentSpanId id) : FoundParent none
  | given {id : SpanId} (found : FoundSpan get .parentSpanId id) : FoundParent (some id)

/-- Debugging overrides the decision. -/
inductive FoundState : Sampling → Prop where
  | debug (found : FoundDebug get) : FoundState .debug
  | decided {decision : Bool} (noDebug : ¬FoundDebug get) (found : FoundDecision get decision) :
      FoundState (.decided decision)
  | undecided (noDebug : ¬FoundDebug get) (absent : ∀ decision, ¬FoundDecision get decision) :
      FoundState .undecided

/-- What the fields say, in the order of precedence. -/
inductive Settles : Extraction → Prop where
  | whole {context : Context} (found : FoundWhole get (.whole context)) :
      Settles (.whole context)
  | parts {traceId : TraceId} {spanId : SpanId} {parentId : Option SpanId} {sampling : Sampling}
      (noWhole : ∀ context, ¬FoundWhole get (.whole context)) (trace : FoundTrace get traceId)
      (span : FoundSpan get .spanId spanId) (parent : FoundParent get parentId)
      (state : FoundState get sampling) :
      Settles (.whole ⟨traceId, spanId, parentId, sampling, false⟩)
  | lone {sampling : Sampling}
      (incomplete : ∀ traceId spanId, FoundTrace get traceId → ¬FoundSpan get .spanId spanId)
      (found : FoundWhole get (.lone sampling)) : Settles (.lone sampling)
  | state {sampling : Sampling} (noWhole : ∀ extraction, ¬FoundWhole get extraction)
      (incomplete : ∀ traceId spanId, FoundTrace get traceId → ¬FoundSpan get .spanId spanId)
      (state : FoundState get sampling) : Settles (.lone sampling)

end

section

variable {get : String → Option String}

theorem foundWhole_iff {extraction : Extraction} :
    FoundWhole get extraction ↔
      (get Field.whole.name).bind Whole.read = some extraction := by
  rw [Option.bind_eq_some_iff]
  exact exists_congr fun text => and_congr_right fun _ => Whole.readTrimmed_eq_some_iff.symm

theorem foundTrace_iff {id : TraceId} :
    FoundTrace get id ↔
      (get Field.traceId.name).bind (fun text => traceId? text.toList) = some id := by
  rw [Option.bind_eq_some_iff]
  exact exists_congr fun text => and_congr_right fun _ => traceId?_eq_some_iff.symm

theorem foundSpan_iff {field : Field} {id : SpanId} :
    FoundSpan get field id ↔
      (get field.name).bind (fun text => spanId? text.toList) = some id := by
  rw [Option.bind_eq_some_iff]
  exact exists_congr fun text => and_congr_right fun _ => spanId?_eq_some_iff.symm

theorem foundDecision_iff {decision : Bool} :
    FoundDecision get decision ↔
      (get Field.sampled.name).bind (fun text => decision? (Blank.trimList text.toList)) =
        some decision := by
  rw [Option.bind_eq_some_iff]
  exact exists_congr fun text => and_congr_right fun _ => decision?_eq_some_iff.symm

theorem foundDebug_iff :
    FoundDebug get ↔
      (get Field.flags.name).map (fun text => Blank.trimList text.toList) = some ['1'] := by
  rw [Option.map_eq_some_iff]
  rfl

theorem foundParent_iff {parentId : Option SpanId} :
    FoundParent get parentId ↔
      (get Field.parentSpanId.name).bind (fun text => spanId? text.toList) = parentId := by
  constructor
  · intro found
    cases found with
    | missing absent =>
        rw [Option.eq_none_iff_forall_ne_some]
        exact fun id isRead => absent id (foundSpan_iff.mpr isRead)
    | given found => exact foundSpan_iff.mp found
  · rintro rfl
    cases isRead : (get Field.parentSpanId.name).bind fun text => spanId? text.toList with
    | none =>
        apply FoundParent.missing
        intro id found
        rw [foundSpan_iff, isRead] at found
        cases found
    | some id => exact .given (foundSpan_iff.mpr isRead)

theorem foundState_iff {sampling : Sampling} :
    FoundState get sampling ↔ Parts.state get = sampling := by
  unfold Parts.state
  constructor
  · intro found
    cases found with
    | debug found =>
        rw [decide_eq_true (foundDebug_iff.mp found)]
        rfl
    | @decided decision noDebug found =>
        rw [decide_eq_false fun debug => noDebug (foundDebug_iff.mpr debug),
          foundDecision_iff.mp found]
        cases decision <;> rfl
    | undecided noDebug absent =>
        have isNone : (get Field.sampled.name).bind
            (fun text => decision? (Blank.trimList text.toList)) = none := by
          rw [Option.eq_none_iff_forall_ne_some]
          exact fun decision isRead => absent decision (foundDecision_iff.mpr isRead)
        rw [decide_eq_false fun debug => noDebug (foundDebug_iff.mpr debug), isNone]
        rfl
  · rintro rfl
    by_cases debug : FoundDebug get
    · rw [decide_eq_true (foundDebug_iff.mp debug)]
      exact .debug debug
    · rw [decide_eq_false fun isRead => debug (foundDebug_iff.mpr isRead)]
      cases isRead : (get Field.sampled.name).bind
          fun text => decision? (Blank.trimList text.toList) with
      | none =>
          apply FoundState.undecided debug
          intro decision found
          rw [foundDecision_iff, isRead] at found
          cases found
      | some decision =>
          have decided := FoundState.decided debug (foundDecision_iff.mpr isRead)
          cases decision <;> exact decided

theorem FoundTrace.isValid {id : TraceId} (found : FoundTrace get id) : id.isValid = true := by
  obtain ⟨text, _, spelled⟩ := found
  exact spelled.isValid

theorem FoundSpan.isValid {field : Field} {id : SpanId} (found : FoundSpan get field id) :
    id.isValid = true := by
  obtain ⟨text, _, spelled⟩ := found
  exact spelled.isValid

theorem FoundParent.isValid {parentId : Option SpanId} (found : FoundParent get parentId) :
    ∀ id, parentId = some id → id.isValid = true := by
  intro id isParent
  cases found with
  | missing absent => cases isParent
  | given found =>
      cases isParent
      exact found.isValid

theorem partsContext?_iff {context : Context} :
    Parts.context? get = some context ↔
      FoundTrace get context.traceId ∧ FoundSpan get .spanId context.spanId ∧
        FoundParent get context.parentId ∧ FoundState get context.sampling ∧
        context.shared = false := by
  unfold Parts.context?
  constructor
  · intro isRead
    obtain ⟨traceId, traceRead, rest⟩ := Option.bind_eq_some_iff.mp isRead
    obtain ⟨spanId, spanRead, assembled⟩ := Option.bind_eq_some_iff.mp rest
    have trace := foundTrace_iff.mpr traceRead
    have span := foundSpan_iff.mpr spanRead
    have parent := (@foundParent_iff get _).mpr rfl
    have state := (@foundState_iff get _).mpr rfl
    have made := @assemble_eq ⟨traceId, spanId, _, Parts.state get, false⟩
      ⟨trace.isValid, span.isValid, parent.isValid⟩
    cases made.symm.trans assembled
    exact ⟨trace, span, parent, state, rfl⟩
  · obtain ⟨traceId, spanId, parentId, sampling, shared⟩ := context
    rintro ⟨trace, span, parent, state, rfl⟩
    have made := @assemble_eq ⟨traceId, spanId, parentId, sampling, false⟩
      ⟨trace.isValid, span.isValid, parent.isValid⟩
    rw [foundTrace_iff.mp trace, foundSpan_iff.mp span, foundParent_iff.mp parent,
      foundState_iff.mp state]
    exact made

theorem partsContext?_eq_none :
    Parts.context? get = none ↔
      ∀ traceId spanId, FoundTrace get traceId → ¬FoundSpan get .spanId spanId := by
  rw [Option.eq_none_iff_forall_ne_some]
  constructor
  · intro none traceId spanId trace span
    have parent := (@foundParent_iff get _).mpr rfl
    have state := (@foundState_iff get _).mpr rfl
    exact none ⟨traceId, spanId, _, _, false⟩
      (partsContext?_iff.mpr ⟨trace, span, parent, state, rfl⟩)
  · intro incomplete context isContext
    obtain ⟨trace, span, _⟩ := partsContext?_iff.mp isContext
    exact incomplete _ _ trace span

/-! ### The order of precedence -/

theorem read_parts_context {context : Context}
    (noWhole : ∀ whole, ¬FoundWhole get (.whole whole))
    (parts : Parts.context? get = some context) : read get = .whole context := by
  unfold read
  rw [Parts.read_eq, parts]
  cases isRead : (get Field.whole.name).bind Whole.read with
  | none => rfl
  | some extraction =>
      cases extraction with
      | whole whole => exact absurd (foundWhole_iff.mpr isRead) (noWhole whole)
      | lone sampling => rfl

theorem read_lone {sampling : Sampling} (found : FoundWhole get (.lone sampling))
    (parts : Parts.context? get = none) : read get = .lone sampling := by
  obtain ⟨text, _, spelled⟩ := id found
  have given := spelled.not_isEmpty
  unfold read
  rw [Parts.read_eq, parts, foundWhole_iff.mp found]
  simp only [given, Bool.false_eq_true, if_false]

theorem read_state (noWhole : ∀ extraction, ¬FoundWhole get extraction)
    (parts : Parts.context? get = none) : read get = .lone (Parts.state get) := by
  have absent : (get Field.whole.name).bind Whole.read = none := by
    rw [Option.eq_none_iff_forall_ne_some]
    exact fun extraction isRead => noWhole extraction (foundWhole_iff.mpr isRead)
  unfold read
  rw [Parts.read_eq, parts, absent]

theorem read_eq_iff {extraction : Extraction} :
    read get = extraction ↔ Settles get extraction := by
  constructor
  · -- The ranks are tried from the highest; what is missing there is a premise of the next.
    rintro rfl
    by_cases whole : ∃ context, FoundWhole get (.whole context)
    · obtain ⟨context, found⟩ := whole
      rw [read_whole (foundWhole_iff.mp found)]
      exact .whole found
    · have noWhole := not_exists.mp whole
      cases parts : Parts.context? get with
      | some context =>
          rw [read_parts_context noWhole parts]
          obtain ⟨traceId, spanId, parentId, sampling, shared⟩ := context
          obtain ⟨trace, span, parent, state, unshared⟩ := partsContext?_iff.mp parts
          cases unshared
          exact .parts noWhole trace span parent state
      | none =>
          have incomplete := partsContext?_eq_none.mp parts
          by_cases lone : ∃ sampling, FoundWhole get (.lone sampling)
          · obtain ⟨sampling, found⟩ := lone
            rw [read_lone found parts]
            exact .lone incomplete found
          · have nothing : ∀ extraction, ¬FoundWhole get extraction := by
              intro extraction found
              cases extraction with
              | whole context => exact noWhole context found
              | lone sampling => exact lone ⟨sampling, found⟩
            rw [read_state nothing parts]
            exact .state nothing incomplete (foundState_iff.mpr rfl)
  · intro settled
    cases settled with
    | whole found => exact read_whole (foundWhole_iff.mp found)
    | parts noWhole trace span parent state =>
        exact read_parts_context noWhole (partsContext?_iff.mpr ⟨trace, span, parent, state, rfl⟩)
    | lone incomplete found => exact read_lone found (partsContext?_eq_none.mpr incomplete)
    | state noWhole incomplete state =>
        rw [read_state noWhole (partsContext?_eq_none.mpr incomplete), foundState_iff.mp state]

def Field.reads (text : String) : Field → Bool
  | .whole => (Whole.read text).isSome
  | .traceId => (traceId? text.toList).isSome
  | .spanId => (spanId? text.toList).isSome
  | .parentSpanId => (spanId? text.toList).isSome
  | .sampled => (decision? (Blank.trimList text.toList)).isSome
  | .flags => Blank.trimList text.toList = ['1']

theorem Field.reads_iff (field : Field) (text : String) :
    field.reads text = true ↔ field.WellFormed text := by
  cases field with
  | whole =>
      exact Option.isSome_iff_exists.trans
        (exists_congr fun _ => Whole.readTrimmed_eq_some_iff)
  | traceId => exact Option.isSome_iff_exists.trans (exists_congr fun _ => traceId?_eq_some_iff)
  | spanId | parentSpanId =>
      exact Option.isSome_iff_exists.trans (exists_congr fun _ => spanId?_eq_some_iff)
  | sampled =>
      exact Option.isSome_iff_exists.trans (exists_congr fun _ => decision?_eq_some_iff)
  | flags => exact decide_eq_true_iff

instance (field : Field) (text : String) : Decidable (field.WellFormed text) :=
  decidable_of_iff (field.reads text = true) (field.reads_iff text)

section

variable {left right : String → Option String}
  (agree : ∀ (field : Field) (text : String), field.WellFormed text →
    (left field.name = some text ↔ right field.name = some text))
include agree

theorem bind_congr {Value : Type} {reader : String → Option Value} (field : Field)
    (sound : ∀ text, (reader text).isSome = true → field.reads text = true) :
    (left field.name).bind reader = (right field.name).bind reader := by
  ext value
  rw [Option.bind_eq_some_iff, Option.bind_eq_some_iff]
  refine exists_congr fun text => and_congr_left fun isRead => agree field text ?_
  apply (field.reads_iff text).mp (sound text _)
  rw [isRead]
  rfl

theorem read_congr : read left = read right := by
  have whole := bind_congr agree .whole fun text isRead => isRead
  have trace := bind_congr agree .traceId fun text isRead => isRead
  have span := bind_congr agree .spanId fun text isRead => isRead
  have parent := bind_congr agree .parentSpanId fun text isRead => isRead
  have sampled := bind_congr agree .sampled fun text isRead => isRead
  have flags : (left Field.flags.name).map (fun text => Blank.trimList text.toList) = some ['1'] ↔
      (right Field.flags.name).map (fun text => Blank.trimList text.toList) = some ['1'] := by
    rw [Option.map_eq_some_iff, Option.map_eq_some_iff]
    exact exists_congr fun text => and_congr_left fun isFlag => agree .flags text isFlag
  have state : Parts.state left = Parts.state right := by
    unfold Parts.state
    rw [sampled, decide_eq_decide.mpr flags]
  have context : Parts.context? left = Parts.context? right := by
    unfold Parts.context?
    rw [trace, span, parent, state]
  unfold read
  rw [Parts.read_eq, Parts.read_eq, context, state, whole]

end

def malformed (carrier : Carrier) : List Field :=
  (Field.whole :: Field.parts).filter fun field =>
    (carrier.get? field.name).any fun text => ¬field.WellFormed text

theorem name_mem_malformed (carrier : Carrier) (field : Field) :
    field.name ∈ (malformed carrier).map Field.name ↔
      (carrier.get? field.name).any (fun text => ¬field.WellFormed text) = true := by
  have isField : field ∈ Field.whole :: Field.parts := by cases field <;> decide
  rw [List.mem_map]
  constructor
  · rintro ⟨other, member, sameName⟩
    rw [← Field.name_injective sameName]
    exact (List.mem_filter.mp member).2
  · intro isMalformed
    exact ⟨field, List.mem_filter.mpr ⟨isField, isMalformed⟩, rfl⟩

/-- The carrier without its malformed B3 fields. -/
def wellFormedRest (carrier : Carrier) : Carrier :=
  carrier.without ((malformed carrier).map Field.name)

theorem get?_wellFormedRest (carrier : Carrier) (field : Field) (text : String) :
    (wellFormedRest carrier).get? field.name = some text ↔
      carrier.get? field.name = some text ∧ field.WellFormed text := by
  unfold wellFormedRest
  rw [Carrier.get?_without field.keptName]
  simp only [name_mem_malformed]
  cases carrier.get? field.name with
  | none => simp
  | some value =>
      by_cases wellFormed : field.WellFormed value
      · rw [if_neg (by simpa using wellFormed)]
        constructor
        · intro same
          cases same
          exact ⟨rfl, wellFormed⟩
        · exact And.left
      · rw [if_pos (by simpa using wellFormed)]
        constructor
        · nofun
        · rintro ⟨same, isWellFormed⟩
          cases same
          exact absurd isWellFormed wellFormed

/-- Malformed B3 fields can be left out, and so can all entries that are no B3 fields.  The
well-formed rest is settled in the order of precedence. -/
theorem extract_degrades (carrier : Carrier) :
    (∀ (field : Field) (text : String), (wellFormedRest carrier).get? field.name = some text ↔
        carrier.get? field.name = some text ∧ field.WellFormed text) ∧
      extract (wellFormedRest carrier) = extract carrier ∧
      (∀ extraction, extract (wellFormedRest carrier) = extraction ↔
        Settles (wellFormedRest carrier).get? extraction) ∧
      (∀ keys, (∀ field : Field, field.name ∉ keys) →
        extract (carrier.without keys) = extract carrier) ∧
      ∀ other : Carrier, (∀ field : Field, other.get? field.name = carrier.get? field.name) →
        extract other = extract carrier := by
  have rest := get?_wellFormedRest carrier
  have same (other : Carrier)
      (agree : ∀ field : Field, other.get? field.name = carrier.get? field.name) :
      extract other = extract carrier := by
    apply read_congr
    intro field text _
    rw [agree field]
  refine ⟨rest, ?_, fun _ => read_eq_iff, ?_, same⟩
  · apply read_congr
    intro field text wellFormed
    rw [rest field text]
    exact and_iff_left wellFormed
  · intro keys apart
    apply same
    intro field
    rw [Carrier.get?_without field.keptName, if_neg (apart field)]

end

end SpanTrail.B3
