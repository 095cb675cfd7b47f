import SpanTrail.Proofs.B3.Text

/-! Injecting a context and extracting it again.  The context comes back from a carrier of either
kind, except that it is never shared.  Separate fields may be injected into a carrier that holds
some already.  An injection writes only the fields that the context has, and all others keep what
they held.  So an earlier whole context takes precedence over the injected one, and an earlier
parent or sampling state shows through where the injected one has none. -/

namespace SpanTrail.B3

namespace Parts

def state (get : String → Option String) : Sampling :=
  .of ((get Field.sampled.name).bind fun text => decision? (Blank.trimList text.toList))
    ((get Field.flags.name).map (fun text => Blank.trimList text.toList) = some ['1'])

def context? (get : String → Option String) : Option Context :=
  ((get Field.traceId.name).bind fun text => traceId? text.toList).bind fun traceId =>
    ((get Field.spanId.name).bind fun text => spanId? text.toList).bind fun spanId =>
      assemble traceId spanId
        ((get Field.parentSpanId.name).bind fun text => spanId? text.toList) (state get)

theorem read_eq (get : String → Option String) :
    read get =
      match context? get with
      | some context => .whole context
      | none => .lone (state get) :=
  rfl

theorem lookup_parentSpanId (context : Context) :
    (write context).lookup .parentSpanId = context.parentId.map SpanId.text := by
  rw [write_eq]
  cases context.parentId <;> cases context.sampling <;> rfl

theorem lookup_state (context : Context) {field : Field}
    (isState : field = .sampled ∨ field = .flags) :
    (write context).lookup field = (stateFields context.sampling).lookup field := by
  rw [write_eq]
  cases context.parentId <;> rcases isState with rfl | rfl <;> rfl

section

variable {context : Context} {get : String → Option String}

theorem state_write
    (written : ∀ field ∈ Field.parts, get field.name = (write context).lookup field) :
    state get = context.sampling := by
  have sampled := (written .sampled (by decide)).trans (lookup_state context (.inl rfl))
  have flags := (written .flags (by decide)).trans (lookup_state context (.inr rfl))
  unfold state
  rw [sampled, flags]
  cases context.sampling <;> decide

theorem read_write (wellFormed : context.WellFormed)
    (written : ∀ field ∈ Field.parts, get field.name = (write context).lookup field) :
    read get = .whole (context.withShared false) := by
  have trace : get Field.traceId.name = some context.traceId.text := written .traceId (by decide)
  have span : get Field.spanId.name = some context.spanId.text := written .spanId (by decide)
  have parent : (get Field.parentSpanId.name).bind (fun text => spanId? text.toList) =
      context.parentId := by
    rw [written .parentSpanId (by decide), lookup_parentSpanId]
    cases isParent : context.parentId with
    | none => rfl
    | some parentId =>
        rw [Option.map_some, Option.bind_some]
        exact spanId?_text (wellFormed.parentId parentId isParent)
  have found : context? get = some (context.withShared false) := by
    unfold context?
    rw [trace, span, parent, state_write written, Option.bind_some, Option.bind_some,
      traceId?_text wellFormed.traceId, spanId?_text wellFormed.spanId]
    exact assemble_eq wellFormed
  rw [read_eq, found]

end

end Parts

theorem read_whole {get : String → Option String} {context : Context}
    (whole : (get Field.whole.name).bind Whole.read = some (.whole context)) :
    read get = .whole context := by
  unfold read
  rw [whole]

theorem read_parts {get : String → Option String} {context : Context}
    (absent : get Field.whole.name = none) (parts : Parts.read get = .whole context) :
    read get = .whole context := by
  unfold read
  rw [absent, parts]
  rfl

theorem extract_inject_unshared {encoding : Encoding} {context : Context} {carrier : Carrier}
    (wellFormed : context.WellFormed)
    (unused : encoding = .multiple → ∀ field : Field, carrier.get? field.name = none) :
    extract (inject encoding context carrier) = .whole (context.withShared false) := by
  unfold extract
  cases writes : encoding.writesWhole with
  | true =>
      have written : (write encoding context).lookup .whole = some (Whole.write context) := by
        unfold write
        rw [writes]
        rfl
      apply read_whole
      rw [get?_inject, written, Option.some_or, Option.bind_some]
      exact Whole.read_write wellFormed
  | false =>
      have isMultiple : encoding = .multiple := by
        cases encoding with
        | multiple => rfl
        | single => cases writes
        | both => cases writes
      have empty := unused isMultiple
      subst isMultiple
      have get?_eq (field : Field) : (inject .multiple context carrier).get? field.name =
          (Parts.write context).lookup field := by
        rw [get?_inject, empty field, Option.or_none]
        rfl
      apply read_parts
      · rw [get?_eq, Parts.write_eq]
        cases context.parentId <;> cases context.sampling <;> rfl
      · apply Parts.read_write wellFormed
        intro field _
        exact get?_eq field

/-- A built context that is injected into a carrier of either kind is extracted again, with
all its parts; a shared one comes back unshared.  The encoding of separate fields alone
needs a carrier that holds no B3 field, the others overrule what the carrier held.  Only
fields of the encoding are written, all other entries stay, and every value that is written
can be read back. -/
theorem extract_inject (encoding : Encoding) (context : Context) (built : context.Built)
    (carrier : Carrier)
    (unused : encoding = .multiple → ∀ field : Field, carrier.get? field.name = none) :
    (context.shared = false →
        extract (inject encoding context carrier) = .whole context) ∧
      extract (inject encoding context carrier) = .whole { context with shared := false } ∧
      (inject encoding context carrier).without (encoding.fields.map Field.name) =
        carrier.without (encoding.fields.map Field.name) ∧
      ∀ pair ∈ write encoding context, pair.1 ∈ encoding.fields ∧
        (inject encoding context carrier).get? pair.1.name = some pair.2 := by
  have extracted := extract_inject_unshared built.wellFormed unused
  refine ⟨?_, extracted, inject_without encoding context carrier, ?_⟩
  · intro notShared
    rw [extracted, ← notShared]
    rfl
  · intro pair isWritten
    constructor
    · exact mem_fields isWritten
    · rw [get?_inject, Lists.lookup_of_mem (write_distinct encoding context) isWritten]
      rfl

/-- A shared context under debugging, whose trace has 128 bits, in separate header fields
beside another one. -/
theorem extract_inject_beside_accept :
    let context : Context :=
      ⟨⟨0x463ac35c9f6413ad, 0x48485a3953bb6124⟩, ⟨0x72485a3953bb6124⟩,
        some ⟨0x00000000000000a1⟩, .debug, true⟩
    let carrier : Carrier := .headers (Table.ofList [("accept", [[42, 47, 42]])])
    context.Built ∧ (∀ field : Field, carrier.get? field.name = none) ∧
      extract (inject .multiple context carrier) = .whole { context with shared := false } ∧
      (inject .multiple context carrier).without (Field.parts.map Field.name) =
        carrier.without (Field.parts.map Field.name) := by
  intro context carrier
  have built : context.Built := by
    apply Context.WellFormed.built
    refine ⟨by decide, by decide, ?_⟩
    intro parentId isParent
    cases isParent
    decide
  have unused : ∀ field : Field, carrier.get? field.name = none := by
    intro field
    cases field <;> decide
  have facts := extract_inject .multiple context built carrier fun _ => unused
  exact ⟨built, unused, facts.2.1, facts.2.2.1⟩

def wholeContext? (get : String → Option String) : Option Context :=
  ((get Field.whole.name).bind Whole.read).bind Extraction.context?

namespace Parts

def parentId? (get : String → Option String) : Option SpanId :=
  (get Field.parentSpanId.name).bind fun text => spanId? text.toList

def sampled? (get : String → Option String) : Option Bool :=
  (get Field.sampled.name).bind fun text => decision? (Blank.trimList text.toList)

def isDebug (get : String → Option String) : Bool :=
  (get Field.flags.name).map (fun text => Blank.trimList text.toList) = some ['1']

/-- An unshared context with what shows through of the fields that it is written over. -/
def writtenOver (get : String → Option String) (context : Context) : Context :=
  { context with
    parentId := context.parentId.or (parentId? get)
    sampling :=
      .of (context.sampling.sampled?.or (sampled? get)) (context.sampling.isDebug || isDebug get)
    shared := false }

/-! ### Writing over fields -/

theorem spanId?_valid {text : List Char} {id : SpanId} (isRead : spanId? text = some id) :
    id.isValid = true := by
  unfold spanId? at isRead
  split at isRead
  · exact (Option.filter_eq_some_iff.mp isRead).2
  · cases isRead

theorem writtenOver_wellFormed {context : Context} (wellFormed : context.WellFormed)
    (get : String → Option String) : (writtenOver get context).WellFormed := by
  refine ⟨wellFormed.traceId, wellFormed.spanId, ?_⟩
  intro parentId isParent
  rcases Option.or_eq_some_iff.mp isParent with own | ⟨_, earlier⟩
  · exact wellFormed.parentId parentId own
  · obtain ⟨text, _, isRead⟩ := Option.bind_eq_some_iff.mp earlier
    exact spanId?_valid isRead

section

variable {context : Context} {before after : String → Option String}

theorem parentId?_over (wellFormed : context.WellFormed)
    (written : ∀ field ∈ Field.parts,
      after field.name = ((write context).lookup field).or (before field.name)) :
    parentId? after = context.parentId.or (parentId? before) := by
  unfold parentId?
  rw [written .parentSpanId (by decide), lookup_parentSpanId]
  cases isParent : context.parentId with
  | none => rfl
  | some parentId =>
      rw [Option.map_some, Option.some_or, Option.some_or, Option.bind_some]
      exact spanId?_text (wellFormed.parentId parentId isParent)

theorem state_over
    (written : ∀ field ∈ Field.parts,
      after field.name = ((write context).lookup field).or (before field.name)) :
    state after = (writtenOver before context).sampling := by
  have sampled := written .sampled (by decide)
  have flags := written .flags (by decide)
  rw [lookup_state context (.inl rfl)] at sampled
  rw [lookup_state context (.inr rfl)] at flags
  have isState : state after = .of (sampled? after) (isDebug after) := rfl
  rw [isState]
  unfold sampled? isDebug writtenOver
  rw [sampled, flags]
  -- The field of the written state is found, and the other one holds what it held.
  cases context.sampling with
  | undecided => rfl
  | rejected => rfl
  | accepted => rfl
  | debug => rfl

theorem read_over (wellFormed : context.WellFormed)
    (written : ∀ field ∈ Field.parts,
      after field.name = ((write context).lookup field).or (before field.name)) :
    read after = .whole (writtenOver before context) := by
  have trace : after Field.traceId.name = some context.traceId.text := written .traceId (by decide)
  have span : after Field.spanId.name = some context.spanId.text := written .spanId (by decide)
  have parent := parentId?_over wellFormed written
  unfold parentId? at parent
  have found : context? after = some (writtenOver before context) := by
    unfold context?
    rw [trace, span, parent, state_over written, Option.bind_some, Option.bind_some,
      traceId?_text wellFormed.traceId, spanId?_text wellFormed.spanId]
    exact assemble_eq (writtenOver_wellFormed wellFormed before)
  rw [read_eq, found]

/-- Nothing shows through exactly if every part that the context lacks was missing before. -/
theorem writtenOver_eq_self (unshared : context.shared = false) (get : String → Option String) :
    writtenOver get context = context ↔
      (context.parentId = none → parentId? get = none) ∧
        (context.sampling.isDebug = false → isDebug get = false) ∧
        (context.sampling = .undecided → sampled? get = none) := by
  obtain ⟨traceId, spanId, parentId, sampling, shared⟩ := context
  simp only at unshared
  subst unshared
  simp only [writtenOver, Context.mk.injEq, true_and, and_true]
  have parent : parentId.or (parentId? get) = parentId ↔
      (parentId = none → parentId? get = none) := by
    cases parentId <;> simp
  have state : Sampling.of (sampling.sampled?.or (sampled? get))
        (sampling.isDebug || isDebug get) = sampling ↔
      (sampling.isDebug = false → isDebug get = false) ∧
        (sampling = .undecided → sampled? get = none) := by
    cases sampling <;> cases isDebug get <;> cases sampled? get <;>
      simp [Sampling.of, Sampling.sampled?, Sampling.isDebug]
    rename_i decision
    cases decision <;> simp
  rw [parent, state]

end

end Parts

theorem extract_inject_multiple {context : Context} (wellFormed : context.WellFormed)
    (carrier : Carrier) :
    extract (inject .multiple context carrier) =
      .whole ((wholeContext? carrier.get?).getD (Parts.writtenOver carrier.get? context)) := by
  have get?_eq (field : Field) : (inject .multiple context carrier).get? field.name =
      ((Parts.write context).lookup field).or (carrier.get? field.name) :=
    get?_inject .multiple context carrier field
  have parts := Parts.read_over wellFormed fun field _ => get?_eq field
  have absent : (Parts.write context).lookup .whole = none := by
    rw [Parts.write_eq]
    cases context.parentId <;> cases context.sampling <;> rfl
  have whole := get?_eq .whole
  rw [absent, Option.none_or] at whole
  unfold extract read wholeContext?
  rw [whole, parts]
  cases (carrier.get? Field.whole.name).bind Whole.read with
  | none => rfl
  | some extraction =>
      cases extraction with
      | whole earlier => rfl
      | lone state => rfl

/-- A built context that is injected in separate fields, whatever the carrier held, is
extracted with what shows through of the earlier fields, unless an earlier whole context
takes precedence.  It comes back as it was exactly if no earlier field that the injection
leaves alone says anything else. -/
theorem extract_inject_leftover (context : Context) (built : context.Built)
    (unshared : context.shared = false) (carrier : Carrier) :
    extract (inject .multiple context carrier) =
        .whole ((wholeContext? carrier.get?).getD (Parts.writtenOver carrier.get? context)) ∧
      (extract (inject .multiple context carrier) = .whole context ↔
        (∀ earlier, wholeContext? carrier.get? = some earlier → earlier = context) ∧
          (wholeContext? carrier.get? = none →
            (context.parentId = none → Parts.parentId? carrier.get? = none) ∧
              (context.sampling.isDebug = false → Parts.isDebug carrier.get? = false) ∧
              (context.sampling = .undecided → Parts.sampled? carrier.get? = none))) := by
  have extracted := extract_inject_multiple built.wellFormed carrier
  refine ⟨extracted, ?_⟩
  rw [extracted, Extraction.whole.injEq]
  cases wholeContext? carrier.get? with
  | none =>
      rw [Option.getD_none, Parts.writtenOver_eq_self unshared]
      simp
  | some earlier => simp

/-- The retry of a request whose span has a parent and a decision of its own. -/
theorem extract_inject_leftover_retry :
    let earlier : Context := ⟨⟨0, 0x0a⟩, ⟨0x0b⟩, some ⟨0x0a⟩, .rejected, false⟩
    let context : Context := ⟨⟨0, 0x1a⟩, ⟨0x1b⟩, some ⟨0x1a⟩, .accepted, false⟩
    let carrier := inject .multiple earlier .emptyHeaders
    context.Built ∧ context.shared = false ∧
      wholeContext? carrier.get? = none ∧ Parts.isDebug carrier.get? = false ∧
      extract (inject .multiple context carrier) = .whole context := by
  intro earlier context carrier
  have built : context.Built := by
    apply Context.WellFormed.built
    refine ⟨by decide, by decide, ?_⟩
    intro parentId isParent
    cases isParent
    decide
  have noWhole : wholeContext? carrier.get? = none := by decide +kernel
  have noDebug : Parts.isDebug carrier.get? = false := by decide +kernel
  refine ⟨built, rfl, noWhole, noDebug, ?_⟩
  apply (extract_inject_leftover context built rfl carrier).2.mpr
  constructor
  · intro other isWhole
    rw [noWhole] at isWhole
    cases isWhole
  · intro _
    exact ⟨nofun, fun _ => noDebug, nofun⟩

/-- The parent and the decision of an earlier context show through a root without a
decision. -/
theorem inject_undecided_root_keeps_parent :
    let earlier : Context := ⟨⟨0, 0x0a⟩, ⟨0x0b⟩, some ⟨0x0a⟩, .accepted, false⟩
    let context : Context := ⟨⟨0, 0x1a⟩, ⟨0x1a⟩, none, .undecided, false⟩
    let carrier := inject .multiple earlier .emptyHeaders
    context.Built ∧ context.shared = false ∧
      extract (inject .multiple context carrier) =
        .whole { context with parentId := some ⟨0x0a⟩, sampling := .accepted } ∧
      extract (inject .multiple context carrier) ≠ .whole context := by
  intro earlier context carrier
  have built : context.Built := .root (Context.root_eq_ok (by decide) (by decide))
  have extracted : extract (inject .multiple context carrier) =
      .whole { context with parentId := some ⟨0x0a⟩, sampling := .accepted } := by
    decide +kernel
  refine ⟨built, rfl, extracted, ?_⟩
  rw [extracted]
  decide

end SpanTrail.B3
