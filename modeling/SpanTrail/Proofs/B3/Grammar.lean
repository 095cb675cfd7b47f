import SpanTrail.Proofs.B3.Text
import SpanTrail.Proofs.Identifier.Faithful

/-! The grammar of the text that stands for a whole context.  Reading accepts exactly the
texts of the grammar, and writing what was read gives the text again, but for the zeros in
front of a trace that fits half the width. -/

namespace SpanTrail.B3

/-- Sixteen or thirty-two lower-case digits that denote a trace.  The last sixteen are not
all zero. -/
structure TraceText (text : List Char) (id : TraceId) : Prop where
  digits : ∀ digit ∈ text, digit ∈ Hex.lowerDigits
  width : text.length = 16 ∨ text.length = 32
  low : ∃ digit ∈ text.drop (text.length - 16), digit ≠ '0'
  number : id.toNat = Hex.number text

/-- Sixteen lower-case digits, not all zero, that denote a span. -/
structure SpanText (text : List Char) (id : SpanId) : Prop where
  digits : ∀ digit ∈ text, digit ∈ Hex.lowerDigits
  width : text.length = 16
  nonzero : ∃ digit ∈ text, digit ≠ '0'
  number : id.toNat = Hex.number text

theorem exists_nonzero {text : List Char} (digits : ∀ digit ∈ text, digit ∈ Hex.lowerDigits) :
    (∃ digit ∈ text, digit ≠ '0') ↔ Hex.number text ≠ 0 := by
  rw [ne_eq, Hex.number_eq_zero digits]
  push Not
  rfl

theorem number_halves {text : List Char} (wide : 16 ≤ text.length) :
    Hex.number text =
      Hex.number (text.take (text.length - 16)) * 16 ^ 16 +
        Hex.number (text.drop (text.length - 16)) := by
  have length : (text.drop (text.length - 16)).length = 16 := by
    rw [List.length_drop]
    omega
  have split := Hex.number_append (text.take (text.length - 16)) (text.drop (text.length - 16))
  rw [List.take_append_drop, length] at split
  exact split

section

variable {text : List Char} (digits : ∀ digit ∈ text, digit ∈ Hex.lowerDigits)
  (wide : 16 ≤ text.length)
include digits wide

theorem number_low_lt : Hex.number (text.drop (text.length - 16)) < 16 ^ 16 := by
  have small := Hex.number_lt fun digit member => digits digit
    (List.mem_of_mem_drop (i := text.length - 16) member)
  have length : (text.drop (text.length - 16)).length = 16 := by
    rw [List.length_drop]
    omega
  rw [length] at small
  exact small

theorem low_nonzero :
    (∃ digit ∈ text.drop (text.length - 16), digit ≠ '0') ↔ Hex.number text % 16 ^ 16 ≠ 0 := by
  have small := number_low_lt digits wide
  have halves := number_halves wide
  have low : Hex.number text % 16 ^ 16 = Hex.number (text.drop (text.length - 16)) := by
    omega
  rw [low]
  exact exists_nonzero fun digit member => digits digit (List.mem_of_mem_drop member)

end

theorem spanId_isValid (id : SpanId) : id.isValid = true ↔ id.toNat ≠ 0 := by
  unfold SpanId.isValid SpanId.toNat
  rw [bne_iff_ne, ne_eq, ne_eq, ← UInt64.toNat_inj]
  rfl

theorem traceId_isValid (id : TraceId) : id.isValid = true ↔ id.toNat % 16 ^ 16 ≠ 0 := by
  have low := id.low.toNat_lt
  have rest : id.toNat % 16 ^ 16 = id.low.toNat := by
    unfold TraceId.toNat
    omega
  unfold TraceId.isValid
  rw [rest, bne_iff_ne, ne_eq, ne_eq, ← UInt64.toNat_inj]
  rfl

theorem identity_eq_some_iff {Id : Type} {ofNat : Nat → Id} {toNat : Id → Nat}
    {isValid : Id → Bool} {bound : Nat} (ofNat_toNat : ∀ id, ofNat (toNat id) = id)
    (toNat_ofNat : ∀ number < bound, toNat (ofNat number) = number) {text : List Char}
    (digits : ∀ digit ∈ text, digit ∈ Hex.lowerDigits) (nonempty : 0 < text.length)
    (fits : 16 ^ text.length ≤ bound) {id : Id} :
    ((Hex.read bound text).toOption.map ofNat).filter isValid = some id ↔
      toNat id = Hex.number text ∧ isValid id = true := by
  have small := Nat.lt_of_lt_of_le (Hex.number_lt digits) fits
  have denoted : ofNat (Hex.number text) = id ↔ toNat id = Hex.number text := by
    constructor
    · rintro rfl
      exact toNat_ofNat _ small
    · intro number
      rw [← number, ofNat_toNat]
  rw [Hex.read_number digits nonempty fits]
  simp only [Except.toOption, Option.map_some, Option.filter_eq_some_iff, Option.some.injEq,
    denoted]

theorem spanId?_eq_some_iff {text : List Char} {id : SpanId} :
    spanId? text = some id ↔ SpanText text id := by
  unfold spanId?
  by_cases shape : (text.all Hex.isLowerDigit && text.length == 16) = true
  · rw [if_pos shape]
    rw [Bool.and_eq_true, Hex.all_isLowerDigit, beq_iff_eq] at shape
    obtain ⟨digits, width⟩ := shape
    have fits : 16 ^ text.length ≤ 1 <<< 64 := by
      rw [width]
      omega
    rw [identity_eq_some_iff SpanId.ofNat_toNat (fun _ => SpanId.toNat_ofNat) digits (by omega)
      fits, spanId_isValid]
    constructor
    · rintro ⟨number, nonzero⟩
      rw [number] at nonzero
      exact ⟨digits, width, (exists_nonzero digits).mpr nonzero, number⟩
    · intro spelled
      refine ⟨spelled.number, ?_⟩
      rw [spelled.number]
      exact (exists_nonzero digits).mp spelled.nonzero
  · rw [if_neg shape]
    constructor
    · nofun
    · intro spelled
      apply absurd _ shape
      rw [Bool.and_eq_true, Hex.all_isLowerDigit, beq_iff_eq]
      exact ⟨spelled.digits, spelled.width⟩

theorem traceId?_eq_some_iff {text : List Char} {id : TraceId} :
    traceId? text = some id ↔ TraceText text id := by
  unfold traceId?
  by_cases shape :
      (text.all Hex.isLowerDigit && (text.length == 16 || text.length == 32)) = true
  · rw [if_pos shape]
    rw [Bool.and_eq_true, Hex.all_isLowerDigit, Bool.or_eq_true, beq_iff_eq, beq_iff_eq] at shape
    obtain ⟨digits, width⟩ := shape
    have wide : 16 ≤ text.length := by omega
    have fits : 16 ^ text.length ≤ 1 <<< 128 := by
      rcases width with half | full
      · rw [half]
        omega
      · rw [full]
        omega
    rw [identity_eq_some_iff TraceId.ofNat_toNat (fun _ => TraceId.toNat_ofNat) digits (by omega)
      fits, traceId_isValid]
    constructor
    · rintro ⟨number, nonzero⟩
      rw [number] at nonzero
      exact ⟨digits, width, (low_nonzero digits wide).mpr nonzero, number⟩
    · intro spelled
      refine ⟨spelled.number, ?_⟩
      rw [spelled.number]
      exact (low_nonzero digits wide).mp spelled.low
  · rw [if_neg shape]
    constructor
    · nofun
    · intro spelled
      apply absurd _ shape
      rw [Bool.and_eq_true, Hex.all_isLowerDigit, Bool.or_eq_true, beq_iff_eq, beq_iff_eq]
      exact ⟨spelled.digits, spelled.width⟩

theorem TraceText.isValid {text : List Char} {id : TraceId} (spelled : TraceText text id) :
    id.isValid = true := by
  have wide : 16 ≤ text.length := by
    have width := spelled.width
    omega
  rw [traceId_isValid, spelled.number]
  exact (low_nonzero spelled.digits wide).mp spelled.low

theorem SpanText.isValid {text : List Char} {id : SpanId} (spelled : SpanText text id) :
    id.isValid = true := by
  rw [spanId_isValid, spelled.number]
  exact (exists_nonzero spelled.digits).mp spelled.nonzero

theorem SpanText.written {text : List Char} {id : SpanId} (spelled : SpanText text id) :
    id.text.toList = text := by
  unfold SpanId.text
  rw [String.toList_ofList, spelled.number, ← spelled.width, Hex.fixed_number spelled.digits]

section

variable {text : List Char} {id : TraceId} (spelled : TraceText text id)
  (full : text.length = 32)
include spelled full

theorem TraceText.halves :
    id.toNat = Hex.number (text.take 16) * 16 ^ 16 + Hex.number (text.drop 16) ∧
      Hex.number (text.drop 16) < 16 ^ 16 := by
  have halves := @number_halves text (by omega)
  have small := number_low_lt spelled.digits (by omega)
  have half : text.length - 16 = 16 := by omega
  rw [half] at halves small
  exact ⟨spelled.number.trans halves, small⟩

theorem TraceText.isWide : id.isWide = true ↔ text.take 16 ≠ List.replicate 16 '0' := by
  obtain ⟨number, small⟩ := spelled.halves full
  have length : (text.take 16).length = 16 := by
    rw [List.length_take]
    omega
  have zeros : text.take 16 = List.replicate 16 '0' ↔ Hex.number (text.take 16) = 0 := by
    rw [Hex.number_eq_zero fun digit member => spelled.digits digit (List.mem_of_mem_take member),
      List.eq_replicate_iff]
    exact and_iff_right length
  rw [TraceId.isWide_iff, ne_eq, zeros]
  omega

theorem TraceText.low_written (narrow : ¬id.isWide = true) :
    Hex.fixed 16 id.toNat = text.drop 16 := by
  obtain ⟨number, small⟩ := spelled.halves full
  have low : id.toNat = Hex.number (text.drop 16) := by
    rw [TraceId.isWide_iff] at narrow
    omega
  have length : (text.drop 16).length = 16 := by
    rw [List.length_drop]
    omega
  have written := Hex.fixed_number fun digit member =>
    spelled.digits digit (List.mem_of_mem_drop (i := 16) member)
  rw [length] at written
  rw [low, written]

end

theorem TraceText.written {text : List Char} {id : TraceId} (spelled : TraceText text id) :
    id.text.toList =
      if text.length = 32 ∧ text.take 16 = List.replicate 16 '0' then text.drop 16 else text := by
  have isText : Hex.fixed text.length id.toNat = text := by
    rw [spelled.number]
    exact Hex.fixed_number spelled.digits
  unfold TraceId.text
  rw [String.toList_ofList]
  rcases spelled.width with half | full
  · have small := Hex.number_lt spelled.digits
    rw [← spelled.number, half] at small
    have narrow : ¬id.isWide = true := by
      rw [TraceId.isWide_iff]
      omega
    rw [if_neg narrow, ← half, isText, half]
    rfl
  · by_cases front : text.take 16 = List.replicate 16 '0'
    · have narrow : ¬id.isWide = true := fun wide => (spelled.isWide full).mp wide front
      rw [if_neg narrow, if_pos ⟨full, front⟩, spelled.low_written full narrow]
    · rw [if_pos ((spelled.isWide full).mpr front), if_neg fun both => front both.2, ← full,
        isText]

/-! ### Whole contexts -/

inductive StateText : List Char → Sampling → Prop where
  | rejected : StateText ['0'] .rejected
  | accepted : StateText ['1'] .accepted
  | debug : StateText ['d'] .debug

theorem StateText.width {text : List Char} {sampling : Sampling}
    (spelled : StateText text sampling) : text.length ≠ 16 := by
  cases spelled <;> decide

theorem state?_eq_some_iff {text : List Char} {sampling : Sampling} :
    state? text = some sampling ↔ StateText text sampling := by
  constructor
  · intro isRead
    unfold state? at isRead
    split at isRead
    · cases isRead
      exact .rejected
    · cases isRead
      exact .accepted
    · cases isRead
      exact .debug
    · cases isRead
  · intro spelled
    cases spelled <;> rfl

namespace Whole

inductive StateSegment : Option (List Char) → Sampling → Prop where
  | missing : StateSegment none .undecided
  | given {text : List Char} {sampling : Sampling} (spelled : StateText text sampling) :
      StateSegment (some text) sampling

inductive ParentSegment : Option (List Char) → Option SpanId → Prop where
  | missing : ParentSegment none none
  | given {text : List Char} {id : SpanId} (spelled : SpanText text id) :
      ParentSegment (some text) (some id)

/-- The texts of whole contexts and of lone sampling states.  A whole context is a trace
and a span, then a state or none, then a parent or none, separated by dashes. -/
inductive Spells : List Char → Extraction → Prop where
  | lone {text : List Char} {sampling : Sampling} (state : StateText text sampling) :
      Spells text (.lone sampling)
  | whole {traceText spanText : List Char} {stateText parentText : Option (List Char)}
      {traceId : TraceId} {spanId : SpanId} {parentId : Option SpanId} {sampling : Sampling}
      (trace : TraceText traceText traceId) (span : SpanText spanText spanId)
      (state : StateSegment stateText sampling) (parent : ParentSegment parentText parentId) :
      Spells (['-'].intercalate ([traceText, spanText] ++ stateText.toList ++ parentText.toList))
        (.whole ⟨traceId, spanId, parentId, sampling, false⟩)

/-- A lone state is always a decision. -/
theorem Spells.not_isEmpty {text : List Char} {extraction : Extraction}
    (spelled : Spells text extraction) : extraction.isEmpty = false := by
  cases spelled with
  | lone state => cases state <;> rfl
  | whole trace span state parent => rfl

theorem readState?_eq_some_iff {text : Option (List Char)} {sampling : Sampling} :
    readState? text = some sampling ↔ StateSegment text sampling := by
  cases text with
  | none =>
      constructor
      · intro isRead
        cases isRead
        exact .missing
      · intro spelled
        cases spelled
        rfl
  | some text =>
      constructor
      · intro isRead
        exact .given (state?_eq_some_iff.mp isRead)
      · intro spelled
        cases spelled with
        | given spelled => exact state?_eq_some_iff.mpr spelled

theorem readParent?_eq_some_iff {text : Option (List Char)} {parentId : Option SpanId} :
    readParent? text = some parentId ↔ ParentSegment text parentId := by
  cases text with
  | none =>
      constructor
      · intro isRead
        cases isRead
        exact .missing
      · intro spelled
        cases spelled
        rfl
  | some text =>
      constructor
      · intro isRead
        obtain ⟨id, isId, rfl⟩ := Option.map_eq_some_iff.mp isRead
        exact .given (spanId?_eq_some_iff.mp isId)
      · intro spelled
        cases spelled with
        | given spelled =>
            change (spanId? text).map some = _
            rw [spanId?_eq_some_iff.mpr spelled]
            rfl

theorem assemble_spelled {traceText spanText : List Char} {parentText : Option (List Char)}
    {traceId : TraceId} {spanId : SpanId} {parentId : Option SpanId} (sampling : Sampling)
    (trace : TraceText traceText traceId) (span : SpanText spanText spanId)
    (parent : ParentSegment parentText parentId) :
    assemble traceId spanId parentId sampling =
      some ⟨traceId, spanId, parentId, sampling, false⟩ := by
  apply @assemble_eq ⟨traceId, spanId, parentId, sampling, false⟩
  refine ⟨trace.isValid, span.isValid, ?_⟩
  intro id isParent
  cases parent with
  | missing => cases isParent
  | given spelled =>
      cases isParent
      exact spelled.isValid

theorem context?_eq_some_iff {traceText spanText : List Char}
    {stateText parentText : Option (List Char)} {context : Context} :
    context? traceText spanText stateText parentText = some context ↔
      TraceText traceText context.traceId ∧ SpanText spanText context.spanId ∧
        StateSegment stateText context.sampling ∧ ParentSegment parentText context.parentId ∧
        context.shared = false := by
  simp only [context?_eq, Option.bind_eq_some_iff, readState?_eq_some_iff,
    readParent?_eq_some_iff, traceId?_eq_some_iff, spanId?_eq_some_iff]
  constructor
  · rintro ⟨sampling, state, parentId, parent, traceId, trace, spanId, span, assembled⟩
    rw [assemble_spelled sampling trace span parent] at assembled
    cases assembled
    exact ⟨trace, span, state, parent, rfl⟩
  · obtain ⟨traceId, spanId, parentId, sampling, shared⟩ := context
    rintro ⟨trace, span, state, parent, rfl⟩
    exact ⟨sampling, state, parentId, parent, traceId, trace, spanId, span,
      assemble_spelled sampling trace span parent⟩

theorem spells_of_context? {traceText spanText : List Char}
    {stateText parentText : Option (List Char)} {context : Context}
    (isRead : context? traceText spanText stateText parentText = some context) :
    Spells (['-'].intercalate ([traceText, spanText] ++ stateText.toList ++ parentText.toList))
      (.whole context) := by
  obtain ⟨traceId, spanId, parentId, sampling, shared⟩ := context
  obtain ⟨trace, span, state, parent, unshared⟩ := context?_eq_some_iff.mp isRead
  cases unshared
  exact .whole trace span state parent

theorem dash_not_lower : '-' ∉ Hex.lowerDigits := by decide

section

variable {traceText spanText : List Char} {stateText parentText : Option (List Char)}
  {traceId : TraceId} {spanId : SpanId} {parentId : Option SpanId} {sampling : Sampling}
  (trace : TraceText traceText traceId) (span : SpanText spanText spanId)
  (state : StateSegment stateText sampling) (parent : ParentSegment parentText parentId)
include trace span state parent

theorem segments_dashless : ∀ segment ∈ [traceText, spanText] ++ stateText.toList ++
    parentText.toList, '-' ∉ segment := by
  intro segment isSegment dash
  rcases List.mem_append.mp isSegment with inFront | isParent
  · rcases List.mem_append.mp inFront with isIdentity | isState
    · rcases List.mem_cons.mp isIdentity with rfl | isSpan
      · exact dash_not_lower (trace.digits '-' dash)
      · rw [List.mem_singleton.mp isSpan] at dash
        exact dash_not_lower (span.digits '-' dash)
    · cases state with
      | missing => cases isState
      | given spelled =>
          rw [List.mem_singleton.mp isState] at dash
          cases spelled <;> exact absurd dash (by decide)
  · cases parent with
    | missing => cases isParent
    | given spelled =>
        rw [List.mem_singleton.mp isParent] at dash
        exact dash_not_lower (spelled.digits '-' dash)

theorem readTrimmed_segments :
    readTrimmed (['-'].intercalate
        ([traceText, spanText] ++ stateText.toList ++ parentText.toList)) =
      some (.whole ⟨traceId, spanId, parentId, sampling, false⟩) := by
  have split := List.splitOn_intercalate '-' (segments_dashless trace span state parent) nofun
  have isRead : context? traceText spanText stateText parentText =
      some ⟨traceId, spanId, parentId, sampling, false⟩ :=
    context?_eq_some_iff.mpr ⟨trace, span, state, parent, rfl⟩
  -- Of three segments the last one is a parent or a state, which its length tells.
  cases state with
  | missing =>
      cases parent with
      | missing => rw [readTrimmed_two split, isRead]; rfl
      | given parent => rw [readTrimmed_parent split parent.width, isRead]; rfl
  | given state =>
      cases parent with
      | missing => rw [readTrimmed_state split state.width, isRead]; rfl
      | given _ => rw [readTrimmed_four split, isRead]; rfl

end

theorem readTrimmed_eq_some_iff {text : List Char} {extraction : Extraction} :
    readTrimmed text = some extraction ↔ Spells text extraction := by
  constructor
  · intro isRead
    have joined : ['-'].intercalate (text.splitOn '-') = text := List.intercalate_splitOn '-'
    unfold readTrimmed at isRead
    split at isRead
    · rename_i state split
      obtain ⟨sampling, isState, rfl⟩ := Option.map_eq_some_iff.mp isRead
      rw [split, List.intercalate_singleton] at joined
      rw [← joined]
      exact .lone (state?_eq_some_iff.mp isState)
    · rename_i trace span split
      obtain ⟨context, isContext, rfl⟩ := Option.map_eq_some_iff.mp isRead
      rw [← joined, split]
      exact spells_of_context? isContext
    · rename_i trace span third split
      rw [← joined, split]
      by_cases wide : third.length = 16
      · rw [if_pos wide] at isRead
        obtain ⟨context, isContext, rfl⟩ := Option.map_eq_some_iff.mp isRead
        exact spells_of_context? isContext
      · rw [if_neg wide] at isRead
        obtain ⟨context, isContext, rfl⟩ := Option.map_eq_some_iff.mp isRead
        exact spells_of_context? isContext
    · rename_i trace span state parent split
      obtain ⟨context, isContext, rfl⟩ := Option.map_eq_some_iff.mp isRead
      rw [← joined, split]
      exact spells_of_context? isContext
    · cases isRead
  · intro spelled
    cases spelled with
    | lone state => cases state <;> decide
    | whole trace span state parent => exact readTrimmed_segments trace span state parent

/-! ### Writing back -/

/-- A text without the first sixteen of the thirty-two digits of its trace, if these are
all zero. -/
def shortened (text : List Char) : List Char :=
  if (text.takeWhile (· ≠ '-')).length = 32 ∧ text.take 16 = List.replicate 16 '0' then
    text.drop 16
  else text

theorem shortened_append {traceText : List Char} {traceId : TraceId}
    (trace : TraceText traceText traceId) (rest : List Char) :
    shortened (traceText ++ ['-'] ++ rest) = traceId.text.toList ++ ['-'] ++ rest := by
  have wide : 16 ≤ traceText.length := by
    have width := trace.width
    omega
  have first : (traceText ++ ['-'] ++ rest).takeWhile (· ≠ '-') = traceText := by
    have digits : ∀ digit ∈ traceText, decide (digit ≠ '-') = true := by
      intro digit member
      rw [decide_eq_true_eq]
      rintro rfl
      exact dash_not_lower (trace.digits '-' member)
    rw [List.append_assoc, List.takeWhile_append_of_pos digits]
    exact List.append_nil traceText
  unfold shortened
  rw [first, trace.written, List.append_assoc, List.take_append_of_le_length wide]
  by_cases zeros : traceText.length = 32 ∧ traceText.take 16 = List.replicate 16 '0'
  · rw [if_pos zeros, if_pos zeros, List.drop_append_of_le_length wide, List.append_assoc]
  · rw [if_neg zeros, if_neg zeros, List.append_assoc]

theorem StateSegment.written {text : Option (List Char)} {sampling : Sampling}
    (spelled : StateSegment text sampling) : (stateText? sampling).map String.toList = text := by
  cases spelled with
  | missing => rfl
  | given spelled => cases spelled <;> rfl

theorem ParentSegment.written {text : Option (List Char)} {parentId : Option SpanId}
    (spelled : ParentSegment text parentId) :
    (parentId.map fun id => id.text.toList) = text := by
  cases spelled with
  | missing => rfl
  | given spelled => exact congrArg some spelled.written

theorem write_eq_shortened {text : List Char} {context : Context}
    (spelled : Spells text (.whole context)) : (write context).toList = shortened text := by
  cases spelled with
  | whole trace span state parent =>
      rw [toList_write, segments, span.written, state.written, parent.written]
      simp only [List.cons_append, List.nil_append, List.intercalate_cons_cons]
      exact (shortened_append trace _).symm

end Whole

/-- A text is read as a whole context or a lone state exactly if it spells that, apart from
the blanks around it.  Alone in a carrier it is what is extracted.  A context that was read
is injected as the text that it was read from, in its shortened form. -/
theorem read_iff_spells (text : String) :
    (∀ extraction, Whole.read text = some extraction ↔
      Whole.Spells (Blank.trimList text.toList) extraction) ∧
    (∀ carrier : Carrier,
      (∀ field : Field,
        carrier.get? field.name = if field = .whole then some text else none) →
      extract carrier = (Whole.read text).getD .empty) ∧
    ∀ context, Whole.read text = some (.whole context) → ∀ carrier : Carrier,
      (inject .single context carrier).get? Field.whole.name =
        some (String.ofList (Whole.shortened (Blank.trimList text.toList))) := by
  have spells (extraction : Extraction) : Whole.read text = some extraction ↔
      Whole.Spells (Blank.trimList text.toList) extraction :=
    Whole.readTrimmed_eq_some_iff
  refine ⟨spells, ?_, ?_⟩
  · intro carrier alone
    have parts : Parts.read carrier.get? = .empty := by
      unfold Parts.read
      rw [alone .traceId, alone .spanId, alone .parentSpanId, alone .sampled, alone .flags]
      rfl
    unfold extract read
    rw [parts, alone .whole, if_pos rfl, Option.bind_some]
    cases isRead : Whole.read text with
    | none => rfl
    | some extraction =>
        cases extraction with
        | whole context => rfl
        | lone sampling =>
            have given := ((spells _).mp isRead).not_isEmpty
            simp only [Extraction.empty, given, Option.getD_some, Bool.false_eq_true, if_false]
  · intro context isRead carrier
    rw [get?_inject]
    change some (Whole.write context) = _
    rw [← Whole.write_eq_shortened ((spells _).mp isRead), String.ofList_toList]

/-- A child under debugging, whose trace fits half the width, with blanks around it. -/
theorem read_iff_spells_debug_child :
    let text := " 0000000000000000463ac35c9f6413ad-00f067aa0ba902b7-d-00000000000000cd\t"
    let context : Context :=
      ⟨⟨0, 0x463ac35c9f6413ad⟩, ⟨0x00f067aa0ba902b7⟩, some ⟨0xcd⟩, .debug, false⟩
    let carrier := Carrier.emptyMap.set "b3" text
    Whole.Spells (Blank.trimList text.toList) (.whole context) ∧
      extract carrier = .whole context ∧
      (inject .single context carrier).get? "b3" =
        some "463ac35c9f6413ad-00f067aa0ba902b7-d-00000000000000cd" := by
  intro text context carrier
  have facts := read_iff_spells text
  have isRead : Whole.read text = some (.whole context) := by decide +kernel
  have alone : ∀ field : Field,
      carrier.get? field.name = if field = .whole then some text else none := by
    intro field
    cases field <;> decide +kernel
  refine ⟨(facts.1 _).mp isRead, ?_, ?_⟩
  · rw [facts.2.1 carrier alone, isRead]
    rfl
  · have written := facts.2.2 context isRead carrier
    have short : String.ofList (Whole.shortened (Blank.trimList text.toList)) =
        "463ac35c9f6413ad-00f067aa0ba902b7-d-00000000000000cd" := by
      decide +kernel
    rw [short] at written
    exact written

end SpanTrail.B3
