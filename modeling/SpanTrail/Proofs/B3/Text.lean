import SpanTrail.B3
import SpanTrail.Proofs.Carrier.Fields
import SpanTrail.Proofs.Context.Built
import SpanTrail.Proofs.Lists
import SpanTrail.Proofs.Text

/-! Contexts as B3 text, and the fields that are written into a carrier.  Every part that is
written consists of lower-case digits, so dashes separate the parts of a whole context and no
blanks are removed around it, and each part reads back as what it was written from.  The fields
are fields of the encoding, each at most once, and every one of them can be read back from a
carrier of either kind. -/

namespace SpanTrail.B3

theorem traceId?_fixed {id : TraceId} {width : Nat} (allowed : width = 16 ∨ width = 32)
    (narrow : id.toNat < 16 ^ width) (valid : id.isValid = true) :
    traceId? (Hex.fixed width id.toNat) = some id := by
  have nonempty : 0 < width := by omega
  unfold traceId?
  rw [if_pos, Hex.read_fixed nonempty narrow id.toNat_lt]
  · simp only [Except.toOption, Option.map_some, TraceId.ofNat_toNat]
    exact Option.filter_some_pos valid
  · rw [Hex.fixed_length, Hex.fixed_lower, Bool.true_and, Bool.or_eq_true, beq_iff_eq, beq_iff_eq]
    exact allowed

theorem traceId?_text {id : TraceId} (valid : id.isValid = true) :
    traceId? id.text.toList = some id := by
  unfold TraceId.text
  rw [String.toList_ofList]
  cases wide : id.isWide with
  | true => exact traceId?_fixed (.inr rfl) id.toNat_lt valid
  | false =>
      have noHigh : id.high = 0 := by
        unfold TraceId.isWide at wide
        exact bne_eq_false_iff_eq.mp wide
      have narrow : id.toNat < 16 ^ 16 := by
        have low := id.low.toNat_lt
        unfold TraceId.toNat
        rw [noHigh, UInt64.toNat_zero]
        omega
      exact traceId?_fixed (.inl rfl) narrow valid

theorem spanId?_text {id : SpanId} (valid : id.isValid = true) :
    spanId? id.text.toList = some id := by
  have narrow : id.toNat < 1 <<< 64 := id.value.toNat_lt
  unfold SpanId.text spanId?
  rw [String.toList_ofList, if_pos, Hex.read_fixed (by decide) narrow narrow]
  · simp only [Except.toOption, Option.map_some, SpanId.ofNat_toNat]
    exact Option.filter_some_pos valid
  · rw [Hex.fixed_length, Hex.fixed_lower]
    rfl

theorem assemble_eq {context : Context} (wellFormed : context.WellFormed) :
    assemble context.traceId context.spanId context.parentId context.sampling =
      some (context.withShared false) := by
  unfold assemble
  rw [Context.root_eq_ok wellFormed.traceId wellFormed.spanId]
  simp only [Except.toOption, Option.map_some, Context.withSampling_eq]
  rw [Context.withParent_valid _ wellFormed.parentId]
  rfl

theorem traceText_lower (id : TraceId) : id.text.toList.all Hex.isLowerDigit = true := by
  unfold TraceId.text
  rw [String.toList_ofList, Hex.fixed_lower]

theorem spanText_lower (id : SpanId) : id.text.toList.all Hex.isLowerDigit = true := by
  unfold SpanId.text
  rw [String.toList_ofList, Hex.fixed_lower]

theorem length_spanText (id : SpanId) : id.text.toList.length = 16 := by
  unfold SpanId.text
  rw [String.toList_ofList, Hex.fixed_length]

theorem state?_stateText {sampling : Sampling} {text : String}
    (written : stateText? sampling = some text) :
    state? text.toList = some sampling ∧ text.toList.length = 1 ∧
      text.toList.all Hex.isLowerDigit = true := by
  cases sampling with
  | undecided => cases written
  | rejected => cases written; exact ⟨rfl, rfl, rfl⟩
  | accepted => cases written; exact ⟨rfl, rfl, rfl⟩
  | debug => cases written; exact ⟨rfl, rfl, rfl⟩

theorem undecided_of_stateText {sampling : Sampling} (unwritten : stateText? sampling = none) :
    sampling = .undecided := by
  cases sampling with
  | undecided => rfl
  | rejected => cases unwritten
  | accepted => cases unwritten
  | debug => cases unwritten

theorem not_isBlank {character : Char} (visible : 33 ≤ character.toNat)
    (ascii : character.toNat < 128) : Blank.isBlank character = false := by
  have apart : ∀ range ∈ Blank.ranges, range.2 < 33 ∨ 128 ≤ range.1 := by decide
  unfold Blank.isBlank
  rw [List.any_eq_false]
  intro range member
  rw [Bool.and_eq_true, decide_eq_true_eq, decide_eq_true_eq]
  rcases apart range member with before | after
  · omega
  · omega

theorem trimList_eq {text : List Char}
    (visible : ∀ character ∈ text, Blank.isBlank character = false) :
    Blank.trimList text = text := by
  have unchanged (list : List Char) (all : ∀ character ∈ list, Blank.isBlank character = false) :
      list.dropWhile Blank.isBlank = list := by
    cases list with
    | nil => rfl
    | cons first rest => rw [List.dropWhile_cons, all first List.mem_cons_self]; rfl
  unfold Blank.trimList Blank.trimEnd
  rw [unchanged text visible, unchanged, List.reverse_reverse]
  intro character member
  exact visible character (List.mem_reverse.mp member)

/-! ### Whole contexts -/

namespace Whole

def segments (context : Context) : List (List Char) :=
  [context.traceId.text.toList, context.spanId.text.toList] ++
    ((stateText? context.sampling).map String.toList).toList ++
    (context.parentId.map fun parentId => parentId.text.toList).toList

theorem toList_write (context : Context) :
    (write context).toList = ['-'].intercalate (segments context) := by
  unfold write segments
  cases stateText? context.sampling <;> cases context.parentId <;>
    simp [List.intercalate, String.toList_append]

theorem segments_lower {context : Context} {segment : List Char}
    (isSegment : segment ∈ segments context) : segment.all Hex.isLowerDigit = true := by
  unfold segments at isSegment
  rcases List.mem_append.mp isSegment with inFront | isParent
  · rcases List.mem_append.mp inFront with isIdentity | isState
    · rcases List.mem_cons.mp isIdentity with isTrace | isSpan
      · rw [isTrace, traceText_lower]
      · rw [List.mem_singleton.mp isSpan, spanText_lower]
    · obtain ⟨state, written, same⟩ := Option.map_eq_some_iff.mp (Option.mem_toList.mp isState)
      rw [← same, (state?_stateText written).2.2]
  · obtain ⟨parentId, _, same⟩ := Option.map_eq_some_iff.mp (Option.mem_toList.mp isParent)
    rw [← same, spanText_lower]

theorem splitOn_write (context : Context) :
    (write context).toList.splitOn '-' = segments context := by
  rw [toList_write]
  apply List.splitOn_intercalate
  · intro segment isSegment dash
    have lower := List.all_eq_true.mp (segments_lower isSegment) '-' dash
    cases lower
  · nofun

theorem mem_write {context : Context} {character : Char}
    (member : character ∈ (write context).toList) :
    Hex.isLowerDigit character = true ∨ character = '-' := by
  rw [toList_write] at member
  rcases Lists.mem_intercalate member with isDash | ⟨segment, isSegment, inSegment⟩
  · exact .inr isDash
  · exact .inl (List.all_eq_true.mp (segments_lower isSegment) character inSegment)

def readState? : Option (List Char) → Option Sampling
  | none => some .undecided
  | some state => state? state

def readParent? : Option (List Char) → Option (Option SpanId)
  | none => some none
  | some parent => (spanId? parent).map some

theorem context?_eq (trace span : List Char) (state parent : Option (List Char)) :
    context? trace span state parent =
      (readState? state).bind fun sampling =>
        (readParent? parent).bind fun parentId =>
          (traceId? trace).bind fun traceId =>
            (spanId? span).bind fun spanId => assemble traceId spanId parentId sampling := by
  cases state <;> cases parent <;> rfl

theorem context?_text {context : Context} (wellFormed : context.WellFormed)
    {state parent : Option (List Char)} (stateRead : readState? state = some context.sampling)
    (parentRead : readParent? parent = some context.parentId) :
    context? context.traceId.text.toList context.spanId.text.toList state parent =
      some (context.withShared false) := by
  rw [context?_eq, stateRead, parentRead, traceId?_text wellFormed.traceId,
    spanId?_text wellFormed.spanId]
  exact assemble_eq wellFormed

section

variable {text trace span third state parent : List Char}

theorem readTrimmed_two (split : text.splitOn '-' = [trace, span]) :
    readTrimmed text = (context? trace span none none).map .whole := by
  simp only [readTrimmed, split]

theorem readTrimmed_parent (split : text.splitOn '-' = [trace, span, third])
    (wide : third.length = 16) :
    readTrimmed text = (context? trace span none (some third)).map .whole := by
  simp only [readTrimmed, split, if_pos wide]

theorem readTrimmed_state (split : text.splitOn '-' = [trace, span, third])
    (narrow : third.length ≠ 16) :
    readTrimmed text = (context? trace span (some third) none).map .whole := by
  simp only [readTrimmed, split, if_neg narrow]

theorem readTrimmed_four (split : text.splitOn '-' = [trace, span, state, parent]) :
    readTrimmed text = (context? trace span (some state) (some parent)).map .whole := by
  simp only [readTrimmed, split]

end

theorem readParent?_none {context : Context} (isRoot : context.parentId = none) :
    readParent? none = some context.parentId := by
  rw [isRoot]
  rfl

theorem readParent?_text {context : Context} (wellFormed : context.WellFormed)
    {parentId : SpanId} (isParent : context.parentId = some parentId) :
    readParent? (some parentId.text.toList) = some context.parentId := by
  change (spanId? parentId.text.toList).map some = _
  rw [spanId?_text (wellFormed.parentId parentId isParent), isParent]
  rfl

/-- Reading a whole context splits it into its parts again.  Of three parts the last one is
a parent or a state, which its length tells. -/
theorem readTrimmed_write {context : Context} (wellFormed : context.WellFormed) :
    readTrimmed (write context).toList = some (.whole (context.withShared false)) := by
  have split := splitOn_write context
  unfold segments at split
  -- Two to four segments, by whether there are a state and a parent.
  cases written : stateText? context.sampling with
  | none =>
      rw [written] at split
      have stateRead : readState? none = some context.sampling := by
        rw [undecided_of_stateText written]
        rfl
      cases isParent : context.parentId with
      | none =>
          rw [isParent] at split
          have parentRead := readParent?_none isParent
          rw [readTrimmed_two split, context?_text wellFormed stateRead parentRead]
          rfl
      | some parentId =>
          rw [isParent] at split
          have parentRead := readParent?_text wellFormed isParent
          rw [readTrimmed_parent split (length_spanText parentId),
            context?_text wellFormed stateRead parentRead]
          rfl
  | some state =>
      rw [written] at split
      obtain ⟨isState, single, _⟩ := state?_stateText written
      have stateRead : readState? (some state.toList) = some context.sampling := isState
      cases isParent : context.parentId with
      | none =>
          rw [isParent] at split
          have parentRead := readParent?_none isParent
          have narrow : state.toList.length ≠ 16 := by
            rw [single]
            decide
          rw [readTrimmed_state split narrow, context?_text wellFormed stateRead parentRead]
          rfl
      | some parentId =>
          rw [isParent] at split
          have parentRead := readParent?_text wellFormed isParent
          rw [readTrimmed_four split, context?_text wellFormed stateRead parentRead]
          rfl

theorem read_write {context : Context} (wellFormed : context.WellFormed) :
    read (write context) = some (.whole (context.withShared false)) := by
  unfold read
  rw [trimList_eq]
  · exact readTrimmed_write wellFormed
  · intro character member
    rcases mem_write member with lower | dash
    · have range := (Hex.isLowerDigit_iff character).mp lower
      apply not_isBlank
      · omega
      · omega
    · rw [dash]
      decide

end Whole

theorem Field.keptName (field : Field) : Carrier.KeptName field.name := by
  cases field <;> exact ⟨by decide, by decide⟩

theorem Field.name_injective {field other : Field} (same : field.name = other.name) :
    field = other := by
  cases field <;> cases other <;> first | rfl | exact absurd same (by decide)

theorem lookup_name (pairs : List (Field × String)) (field : Field) :
    (pairs.map fun pair => (pair.1.name, pair.2)).lookup field.name = pairs.lookup field := by
  induction pairs with
  | nil => rfl
  | cons pair rest ih =>
      obtain ⟨first, text⟩ := pair
      rw [List.map_cons, List.lookup_cons, List.lookup_cons, ih]
      by_cases same : field = first
      · rw [same, beq_self_eq_true, beq_self_eq_true]
      · have names : (field.name == first.name) = false :=
          beq_eq_false_iff_ne.mpr fun equal => same (Field.name_injective equal)
        have fields : (field == first) = false := beq_eq_false_iff_ne.mpr same
        rw [names, fields]

namespace Parts

def stateFields : Sampling → List (Field × String)
  | .undecided => []
  | .rejected => [(.sampled, "0")]
  | .accepted => [(.sampled, "1")]
  | .debug => [(.flags, "1")]

theorem write_eq (context : Context) :
    write context =
      [(.traceId, context.traceId.text), (.spanId, context.spanId.text)] ++
        (context.parentId.map fun parentId => (Field.parentSpanId, parentId.text)).toList ++
        stateFields context.sampling := by
  unfold write stateFields
  cases context.sampling <;> rfl

theorem write_fields (context : Context) :
    ((write context).map Prod.fst).Sublist Field.parts := by
  have parent : ((context.parentId.map fun parentId =>
      (Field.parentSpanId, parentId.text)).toList.map Prod.fst).Sublist [.parentSpanId] := by
    cases context.parentId with
    | none => exact List.nil_sublist _
    | some parentId => exact List.Sublist.refl _
  have state : ((stateFields context.sampling).map Prod.fst).Sublist [.sampled, .flags] := by
    cases context.sampling <;> decide
  rw [write_eq, List.map_append, List.map_append]
  exact ((List.Sublist.refl [Field.traceId, .spanId]).append parent).append state

theorem write_lower {context : Context} {pair : Field × String}
    (isWritten : pair ∈ write context) : pair.2.toList.all Hex.isLowerDigit = true := by
  rw [write_eq] at isWritten
  rcases List.mem_append.mp isWritten with inFront | isState
  · rcases List.mem_append.mp inFront with isIdentity | isParent
    · rcases List.mem_cons.mp isIdentity with isTrace | isSpan
      · rw [isTrace, traceText_lower]
      · rw [List.mem_singleton.mp isSpan, spanText_lower]
    · obtain ⟨parentId, _, same⟩ := Option.map_eq_some_iff.mp (Option.mem_toList.mp isParent)
      rw [← same, spanText_lower]
  · have all : ∀ pair ∈ stateFields context.sampling,
        pair.2.toList.all Hex.isLowerDigit = true := by
      cases context.sampling <;> decide
    exact all pair isState

end Parts

/-- The fields that are written are fields of the encoding, in their order. -/
theorem write_fields (encoding : Encoding) (context : Context) :
    ((write encoding context).map Prod.fst).Sublist encoding.fields := by
  have parts := Parts.write_fields context
  cases encoding with
  | multiple => exact parts
  | single => exact List.Sublist.refl [Field.whole]
  | both => exact parts.cons_cons Field.whole

theorem write_distinct (encoding : Encoding) (context : Context) :
    ((write encoding context).map Prod.fst).Nodup := by
  apply List.Nodup.sublist (write_fields encoding context)
  cases encoding <;> decide

theorem mem_fields {encoding : Encoding} {context : Context} {pair : Field × String}
    (isWritten : pair ∈ write encoding context) : pair.1 ∈ encoding.fields :=
  (write_fields encoding context).subset (List.mem_map_of_mem isWritten)

/-- Whatever is written can be read back from header fields. -/
theorem isTextCharacter_write {encoding : Encoding} {context : Context} {pair : Field × String}
    (isWritten : pair ∈ write encoding context) {character : Char}
    (member : character ∈ pair.2.toList) : Header.isTextCharacter character = true := by
  have digitOrDash : Hex.isLowerDigit character = true ∨ character = '-' := by
    rcases List.mem_append.mp isWritten with isWhole | isPart
    · cases whole : encoding.writesWhole with
      | false =>
          rw [whole] at isWhole
          cases isWhole
      | true =>
          rw [whole] at isWhole
          rw [List.mem_singleton.mp isWhole] at member
          exact Whole.mem_write member
    · cases parts : encoding.writesParts with
      | false =>
          rw [parts] at isPart
          cases isPart
      | true =>
          rw [parts] at isPart
          exact .inl (List.all_eq_true.mp (Parts.write_lower isPart) character member)
  rcases digitOrDash with lower | dash
  · have range := (Hex.isLowerDigit_iff character).mp lower
    rw [Header.isTextCharacter_iff]
    omega
  · rw [dash]
    decide

/-! ### Carriers -/

/-- After an injection the written fields hold what was written, and the others what they
held before. -/
theorem get?_inject (encoding : Encoding) (context : Context) (carrier : Carrier)
    (field : Field) :
    (inject encoding context carrier).get? field.name =
      ((write encoding context).lookup field).or (carrier.get? field.name) := by
  have kept : ∀ pair ∈ (write encoding context).map fun pair => (pair.1.name, pair.2),
      Carrier.KeptName pair.1 := by
    intro pair member
    obtain ⟨written, _, rfl⟩ := List.mem_map.mp member
    exact written.1.keptName
  have allowed : ∀ pair ∈ (write encoding context).map fun pair => (pair.1.name, pair.2),
      ∀ character ∈ pair.2.toList, Header.isTextCharacter character = true := by
    intro pair member character inText
    obtain ⟨written, isWritten, rfl⟩ := List.mem_map.mp member
    exact isTextCharacter_write isWritten inText
  unfold inject
  rw [Carrier.get?_setAll kept field.keptName allowed, ← List.map_reverse, lookup_name,
    Lists.lookup_reverse (write_distinct encoding context)]

theorem inject_without (encoding : Encoding) (context : Context) (carrier : Carrier) :
    (inject encoding context carrier).without (encoding.fields.map Field.name) =
      carrier.without (encoding.fields.map Field.name) := by
  unfold inject
  apply Carrier.setAll_without
  · intro pair member
    obtain ⟨written, _, rfl⟩ := List.mem_map.mp member
    exact written.1.keptName
  · intro pair member
    obtain ⟨written, isWritten, rfl⟩ := List.mem_map.mp member
    exact List.mem_map_of_mem (mem_fields isWritten)

end SpanTrail.B3
