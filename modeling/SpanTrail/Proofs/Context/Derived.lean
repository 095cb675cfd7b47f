import SpanTrail.Proofs.B3.Precedence
import SpanTrail.Proofs.Context.Built

/-! The contexts that are obtained in any way: built from identities, read out of a carrier,
or changed from one of these.  A context shows its decision and its debugging flag as if
they were apart; what is read out is built, and no change leaves debugging without the
decision that it implies. -/

namespace SpanTrail

namespace B3

theorem Whole.ParentSegment.isValid {text : Option (List Char)} {parentId : Option SpanId}
    (spelled : ParentSegment text parentId) :
    ∀ id, parentId = some id → id.isValid = true := by
  intro id isParent
  cases spelled with
  | missing => cases isParent
  | given spelled =>
      cases isParent
      exact spelled.isValid

theorem Whole.Spells.wellFormed {text : List Char} {context : Context}
    (spelled : Spells text (.whole context)) : context.WellFormed := by
  cases spelled with
  | whole trace span _ parent => exact ⟨trace.isValid, span.isValid, parent.isValid⟩

/-- Whatever the fields hold, a context that is read out of them is well formed. -/
theorem wellFormed_of_read {get : String → Option String} {context : Context}
    (isRead : read get = .whole context) : context.WellFormed := by
  cases read_eq_iff.mp isRead with
  | whole found =>
      obtain ⟨text, _, spelled⟩ := found
      exact spelled.wellFormed
  | parts _ trace span parent => exact ⟨trace.isValid, span.isValid, parent.isValid⟩

end B3

namespace Context

structure Fields where
  traceId : TraceId
  spanId : SpanId
  parentId : Option SpanId
  sampled : Option Bool
  debugging : Bool
  shared : Bool
  deriving DecidableEq, Repr

def fields (context : Context) : Fields where
  traceId := context.traceId
  spanId := context.spanId
  parentId := context.parentId
  sampled := context.sampling.sampled?
  debugging := context.sampling.isDebug
  shared := context.shared

namespace Fields

/-- The identities denote something, and debugging comes with a decision to record. -/
structure Sound (fields : Fields) : Prop where
  traceId : fields.traceId.low ≠ 0
  spanId : fields.spanId ≠ .none
  parentId : fields.parentId ≠ some .none
  sampled : fields.debugging = true → fields.sampled = some true

def change (fields : Fields) : Change → Except TracingError Fields
  | .parent parentId =>
      .ok { fields with parentId := if parentId = some .none then none else parentId }
  | .sampled sampled =>
      .ok { fields with sampled := if fields.debugging then some true else sampled }
  | .debug debugging =>
      .ok
        { fields with
          sampled := if debugging then some true else fields.sampled
          debugging := debugging }
  | .shared shared => .ok { fields with shared := shared }
  | .sampling sampling =>
      .ok { fields with sampled := sampling.sampled?, debugging := sampling.isDebug }
  | .child spanId =>
      if spanId = .none then .error (.invalidArgument .zeroSpanId)
      else .ok { fields with spanId := spanId, parentId := some fields.spanId, shared := false }

theorem Sound.change {fields after : Fields} {change : Change} (sound : fields.Sound)
    (accepted : fields.change change = .ok after) : after.Sound := by
  cases change with
  | parent parentId =>
      cases accepted
      refine ⟨sound.traceId, sound.spanId, ?_, sound.sampled⟩
      dsimp only
      split
      · nofun
      · assumption
  | sampled sampled =>
      cases accepted
      refine ⟨sound.traceId, sound.spanId, sound.parentId, ?_⟩
      intro debugging
      exact if_pos debugging
  | debug debugging =>
      cases accepted
      refine ⟨sound.traceId, sound.spanId, sound.parentId, ?_⟩
      intro isOn
      exact if_pos isOn
  | shared shared =>
      cases accepted
      exact ⟨sound.traceId, sound.spanId, sound.parentId, sound.sampled⟩
  | sampling sampling =>
      cases accepted
      exact ⟨sound.traceId, sound.spanId, sound.parentId, Sampling.sampled?_of_isDebug⟩
  | child spanId =>
      unfold Fields.change at accepted
      dsimp only at accepted
      split at accepted
      · cases accepted
      · rename_i nonzero
        cases accepted
        refine ⟨sound.traceId, nonzero, ?_, sound.sampled⟩
        intro isNone
        exact sound.spanId (Option.some.inj isNone)

end Fields

theorem fields_injective : Function.Injective fields := by
  intro left right same
  obtain ⟨traceId, spanId, parentId, sampling, shared⟩ := left
  simp only [fields, Fields.mk.injEq] at same
  obtain ⟨rfl, rfl, rfl, sampled, debugging, rfl⟩ := same
  have sameSampling : sampling = right.sampling := by
    rw [← sampling.of_sampled?_isDebug, sampled, debugging, Sampling.of_sampled?_isDebug]
  rw [sameSampling]

theorem sound_iff_wellFormed {context : Context} :
    context.fields.Sound ↔ context.WellFormed := by
  constructor
  · intro sound
    refine ⟨bne_iff_ne.mpr sound.traceId, SpanId.isValid_iff_ne.mpr sound.spanId, ?_⟩
    intro parentId isParent
    refine SpanId.isValid_iff_ne.mpr ?_
    rintro rfl
    exact sound.parentId isParent
  · intro wellFormed
    refine ⟨bne_iff_ne.mp wellFormed.traceId, SpanId.isValid_iff_ne.mp wellFormed.spanId, ?_,
      Sampling.sampled?_of_isDebug⟩
    intro isParent
    exact SpanId.isValid_iff_ne.mp (wellFormed.parentId .none isParent) rfl

theorem filter_isValid (parentId : Option SpanId) :
    parentId.filter SpanId.isValid = if parentId = some .none then none else parentId := by
  cases parentId with
  | none => rfl
  | some id =>
      by_cases isNone : id = .none
      · subst isNone
        rfl
      · rw [Option.filter_some_pos (SpanId.isValid_iff_ne.mpr isNone),
          if_neg fun same => isNone (Option.some.inj same)]

theorem fields_change (context : Context) (change : Change) :
    (context.change change).map fields = context.fields.change change := by
  cases change with
  | parent parentId =>
      simp only [Context.change, Except.map, fields, withParent, Fields.change, filter_isValid]
  | sampled sampled =>
      simp only [Context.change, Except.map, fields, withSampled, Fields.change,
        Sampling.sampled?_of, Sampling.isDebug_of]
      rfl
  | debug debugging =>
      simp only [Context.change, Except.map, fields, withDebug, Fields.change,
        Sampling.sampled?_of, Sampling.isDebug_of]
  | shared shared => rfl
  | sampling sampling =>
      simp only [Context.change, Except.map, fields, withSampling_eq, Fields.change]
  | child spanId =>
      unfold Context.change Context.child Fields.change
      by_cases isNone : spanId = .none
      · subst isNone
        rfl
      · have valid := SpanId.isValid_iff_ne.mpr isNone
        simp only [valid, isNone, if_false, Bool.true_eq_false]
        rfl

/-! ### Derived contexts -/

/-- A context that was built from identities or read out of some fields, or comes from such
a one through changes that were not refused. -/
inductive Derived : Context → Prop where
  | root {traceId : TraceId} {spanId : SpanId} {context : Context}
      (accepted : Context.root traceId spanId = .ok context) : Derived context
  | read {get : String → Option String} {context : Context}
      (isRead : B3.read get = .whole context) : Derived context
  | change {before after : Context} {change : Change} (derived : Derived before)
      (accepted : before.change change = .ok after) : Derived after

theorem Derived.sound {context : Context} (derived : context.Derived) :
    context.fields.Sound := by
  induction derived with
  | root accepted => exact sound_iff_wellFormed.mpr (wellFormed_of_root accepted)
  | read isRead => exact sound_iff_wellFormed.mpr (B3.wellFormed_of_read isRead)
  | @change before after change derived accepted ih =>
      have visible := before.fields_change change
      rw [accepted] at visible
      exact ih.change visible.symm

theorem Built.derived {context : Context} (built : context.Built) : context.Derived := by
  induction built with
  | root accepted => exact .root accepted
  | change _ accepted ih => exact .change ih accepted

/-- Nothing more than soundness can be said of all contexts. -/
theorem Fields.Sound.derived {visible : Fields} (sound : visible.Sound) :
    ∃ context : Context, context.Derived ∧ context.fields = visible := by
  obtain ⟨traceId, spanId, parentId, sampled, debugging, shared⟩ := visible
  let context : Context := ⟨traceId, spanId, parentId, .of sampled debugging, shared⟩
  have isVisible : context.fields = ⟨traceId, spanId, parentId, sampled, debugging, shared⟩ := by
    simp only [context, fields, Sampling.sampled?_of, Sampling.isDebug_of, Fields.mk.injEq,
      true_and, and_true]
    split
    · rename_i isOn
      exact (sound.sampled isOn).symm
    · rfl
  refine ⟨context, ?_, isVisible⟩
  rw [← isVisible] at sound
  exact (sound_iff_wellFormed.mp sound).built.derived

/-- A state is set with the debugging flag first.  The other order gives the same, unless
the state would take back the decision of a trace under debugging. -/
theorem withDebug_withSampled_iff (context : Context) (sampling : Sampling) :
    (context.withSampled sampling.sampled?).withDebug sampling.isDebug =
        context.withSampling sampling ↔
      (context.sampling.isDebug = true → sampling.sampled? = some true) := by
  obtain ⟨traceId, spanId, parentId, before, shared⟩ := context
  rw [withSampling_eq]
  simp only [withSampled, withDebug, mk.injEq, true_and, and_true]
  cases before <;> cases sampling <;> decide

/-- Taken back in the other order, debugging leaves the trace accepted. -/
example :
    let context : Context := ⟨⟨0, 1⟩, ⟨1⟩, none, .debug, false⟩
    ((context.withSampled none).withDebug false).sampling = .accepted ∧
      (context.withSampling .undecided).sampling = .undecided := by
  decide

theorem child_eq_error_iff {context : Context} {spanId : SpanId} {error : TracingError} :
    context.child spanId = .error error ↔
      spanId = .none ∧ error = .invalidArgument .zeroSpanId := by
  unfold Context.child
  by_cases isNone : spanId = .none
  · subst isNone
    constructor
    · intro refused
      cases refused
      exact ⟨rfl, rfl⟩
    · rintro ⟨-, rfl⟩
      rfl
  · have valid := SpanId.isValid_iff_ne.mpr isNone
    constructor
    · intro refused
      rw [if_neg (by rw [valid]; exact Bool.noConfusion)] at refused
      cases refused
    · rintro ⟨same, -⟩
      exact absurd same isNone

theorem change_eq_error_iff {context : Context} {change : Change} {error : TracingError} :
    context.change change = .error error ↔
      change = .child .none ∧ error = .invalidArgument .zeroSpanId := by
  cases change with
  | child spanId =>
      rw [Change.child.injEq]
      exact child_eq_error_iff
  | parent parentId | sampled sampled | debug debugging | shared shared | sampling sampling =>
      constructor
      · nofun
      · rintro ⟨isChild, -⟩
        cases isChild

/-- A context is what it shows, and the contexts that are obtained in any way are those that
show sound fields.  A change sets the fields that it names, a sampling state is set exactly
as it is given, and only a child without an identity is refused. -/
theorem derived_shows_sound :
    Function.Injective fields ∧
    (∀ visible : Fields,
      (∃ context : Context, context.Derived ∧ context.fields = visible) ↔ visible.Sound) ∧
    (∀ (context : Context) (change : Change),
      (context.change change).map fields = context.fields.change change) ∧
    (∀ (context : Context) (sampled : Option Bool) (debugging : Bool),
      (context.withSampling (.of sampled debugging)).sampling = .of sampled debugging) ∧
    ∀ (context : Context) (change : Change) (error : TracingError),
      context.change change = .error error ↔
        change = .child .none ∧ error = .invalidArgument .zeroSpanId := by
  refine ⟨fields_injective, ?_, fields_change, ?_, fun _ _ _ => change_eq_error_iff⟩
  · intro visible
    constructor
    · rintro ⟨context, derived, rfl⟩
      exact derived.sound
    · intro sound
      exact sound.derived
  · intro context sampled debugging
    rw [withSampling_eq]

end Context

end SpanTrail
