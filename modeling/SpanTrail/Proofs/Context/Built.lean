import SpanTrail.Context

/-! The contexts that can be built: a root and any changes of it.  They are exactly those
whose identities denote a trace and spans. -/

namespace SpanTrail.Context

/-- A context that was built from identities, through any changes that were not refused. -/
inductive Built : Context → Prop where
  | root {traceId : TraceId} {spanId : SpanId} {context : Context}
      (accepted : Context.root traceId spanId = .ok context) : Built context
  | change {before after : Context} {change : Change} (built : Built before)
      (accepted : before.change change = .ok after) : Built after

structure WellFormed (context : Context) : Prop where
  traceId : context.traceId.isValid = true
  spanId : context.spanId.isValid = true
  parentId : ∀ parentId, context.parentId = some parentId → parentId.isValid = true

theorem root_eq_ok {traceId : TraceId} {spanId : SpanId} (trace : traceId.isValid = true)
    (span : spanId.isValid = true) :
    root traceId spanId = .ok ⟨traceId, spanId, none, .undecided, false⟩ := by
  unfold root
  rw [if_neg, if_neg]
  · rw [span]
    decide
  · rw [trace]
    decide

theorem wellFormed_of_root {traceId : TraceId} {spanId : SpanId} {context : Context}
    (accepted : root traceId spanId = .ok context) : context.WellFormed := by
  unfold root at accepted
  cases trace : traceId.isValid with
  | false =>
      rw [if_pos trace] at accepted
      cases accepted
  | true =>
      rw [if_neg (by rw [trace]; decide)] at accepted
      cases span : spanId.isValid with
      | false =>
          rw [if_pos span] at accepted
          cases accepted
      | true =>
          rw [if_neg (by rw [span]; decide)] at accepted
          cases accepted
          exact ⟨trace, span, nofun⟩

theorem WellFormed.withParent {context : Context} (wellFormed : context.WellFormed)
    (parentId : Option SpanId) : (context.withParent parentId).WellFormed := by
  refine ⟨wellFormed.traceId, wellFormed.spanId, ?_⟩
  intro kept isKept
  exact (Option.filter_eq_some_iff.mp isKept).2

theorem WellFormed.child {context after : Context} {spanId : SpanId}
    (wellFormed : context.WellFormed) (accepted : context.child spanId = .ok after) :
    after.WellFormed := by
  unfold Context.child at accepted
  cases span : spanId.isValid with
  | false =>
      rw [if_pos span] at accepted
      cases accepted
  | true =>
      rw [if_neg (by rw [span]; decide)] at accepted
      cases accepted
      refine ⟨wellFormed.traceId, span, ?_⟩
      intro parentId isParent
      cases isParent
      exact wellFormed.spanId

/-- Every change keeps a context well formed. -/
theorem WellFormed.change {before after : Context} {change : Change}
    (wellFormed : before.WellFormed) (accepted : before.change change = .ok after) :
    after.WellFormed := by
  cases change with
  | parent parentId =>
      cases accepted
      exact wellFormed.withParent parentId
  | sampled sampled =>
      cases accepted
      exact ⟨wellFormed.traceId, wellFormed.spanId, wellFormed.parentId⟩
  | debug debugging =>
      cases accepted
      exact ⟨wellFormed.traceId, wellFormed.spanId, wellFormed.parentId⟩
  | shared shared =>
      cases accepted
      exact ⟨wellFormed.traceId, wellFormed.spanId, wellFormed.parentId⟩
  | sampling sampling =>
      cases accepted
      rw [withSampling_eq]
      exact ⟨wellFormed.traceId, wellFormed.spanId, wellFormed.parentId⟩
  | child spanId => exact wellFormed.child accepted

theorem Built.wellFormed {context : Context} (built : context.Built) : context.WellFormed := by
  induction built with
  | root accepted => exact wellFormed_of_root accepted
  | change _ accepted ih => exact ih.change accepted

theorem withParent_valid (context : Context) {parentId : Option SpanId}
    (valid : ∀ parent, parentId = some parent → parent.isValid = true) :
    context.withParent parentId = { context with parentId := parentId } := by
  unfold Context.withParent
  cases parentId with
  | none => rfl
  | some parent => rw [Option.filter_some_pos (valid parent rfl)]

/-- Any identities that denote something can be built into a context, with any parent, any
sampling state, shared or not. -/
theorem WellFormed.built {context : Context} (wellFormed : context.WellFormed) :
    context.Built := by
  obtain ⟨traceId, spanId, parentId, sampling, shared⟩ := context
  have rooted : Built ⟨traceId, spanId, none, .undecided, false⟩ :=
    .root (root_eq_ok wellFormed.traceId wellFormed.spanId)
  have parented : Built ⟨traceId, spanId, parentId, .undecided, false⟩ := by
    have accepted := congrArg (Except.ok (ε := TracingError)) (withParent_valid
      ⟨traceId, spanId, none, .undecided, false⟩ wellFormed.parentId)
    exact @Built.change _ _ (.parent parentId) rooted accepted
  have sampled : Built ⟨traceId, spanId, parentId, sampling, false⟩ := by
    have accepted := congrArg (Except.ok (ε := TracingError)) (withSampling_eq
      ⟨traceId, spanId, parentId, .undecided, false⟩ sampling)
    exact @Built.change _ _ (.sampling sampling) parented accepted
  exact @Built.change _ _ (.shared shared) sampled rfl

theorem built_iff_wellFormed (context : Context) : context.Built ↔ context.WellFormed := by
  constructor
  · intro built
    exact built.wellFormed
  · intro wellFormed
    exact wellFormed.built

end SpanTrail.Context
