import SpanTrail.Agent

/-! Audits of the identities that an agent makes: whether they denote
something, how wide they are, and whether children are linked to their parents. -/

namespace SpanTrail.Agent

structure Family where
  root : Context
  child : Context

def families (agent : Agent) : (count : Nat) → List Family
  | 0 => []
  | count + 1 =>
      let (root, agent) := agent.root
      let (child, agent) := agent.child root.context
      ⟨root.context, child.context⟩ :: agent.families count

def drawPairs (source : IdSource) : (count : Nat) → List (TraceId × SpanId) × IdSource
  | 0 => ([], source)
  | count + 1 =>
      let (traceId, source) := source.nextTrace
      let (spanId, source) := source.nextSpan
      let (rest, source) := drawPairs source count
      ((traceId, spanId) :: rest, source)

def Family.linked (family : Family) : Bool :=
  family.child.traceId == family.root.traceId &&
    family.child.parentId == some family.root.spanId &&
    family.child.spanId != family.root.spanId

structure Audit where
  sourceValid : Bool
  sourceWide : Bool
  rootsValid : Bool
  rootsWide : Bool
  rootSpansAreLow : Bool
  rootsAreRoots : Bool
  childrenLinked : Bool
  childrenValid : Bool
  traces : Nat

/-- Audits a number of pairs from a source, the identity that follows them, and as
many families made by an agent. -/
def audit (agent : Agent) (source : IdSource) (count : Nat) : Audit :=
  let (pairs, source) := drawPairs source count
  let families := agent.families count
  { sourceValid := pairs.all fun pair => pair.1.isValid && pair.2.isValid
    sourceWide := source.nextTrace.1.isWide
    rootsValid := families.all fun family =>
      family.root.traceId.isValid && family.root.spanId.isValid
    rootsWide := families.all fun family => family.root.traceId.isWide
    rootSpansAreLow := families.all fun family =>
      family.root.spanId.value == family.root.traceId.low
    rootsAreRoots := families.all fun family => family.root.isRoot
    childrenLinked := families.all Family.linked
    childrenValid := families.all fun family => family.child.spanId.isValid
    traces := (families.map fun family => family.root.traceId).eraseDups.length }

end SpanTrail.Agent
