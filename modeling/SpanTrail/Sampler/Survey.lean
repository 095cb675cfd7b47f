import SpanTrail.Sampler

/-! Surveys of a sampler: how many of a run of decisions are positive, and whether
its decisions repeat from window to window. -/

namespace SpanTrail.Sampler

def positives (decisions : List Bool) : Nat :=
  decisions.count true

/-- What a survey asks for: a number of decisions that are ignored, then a number of
decisions, then a number of windows.  The identities are used in turn. -/
structure SurveyPlan where
  traceIds : List TraceId
  ignored : Nat
  counted : Nat
  windows : Nat

structure Survey where
  counted : List Bool
  windows : List (List Bool)

def SurveyPlan.turn (plan : SurveyPlan) (before count : Nat) : List TraceId :=
  (List.range count).map fun index =>
    plan.traceIds[(before + index) % plan.traceIds.length]?.getD (.ofLow 1)

def surveyWindows (plan : SurveyPlan) (sampler : Sampler) (before : Nat) :
    (windows : Nat) → List (List Bool)
  | 0 => []
  | windows + 1 =>
      let (decisions, sampler) := sampler.askAll (plan.turn before windowSize)
      decisions :: surveyWindows plan sampler (before + windowSize) windows

def survey (sampler : Sampler) (plan : SurveyPlan) : Survey :=
  let (_, sampler) := sampler.askAll (plan.turn 0 plan.ignored)
  let (counted, sampler) := sampler.askAll (plan.turn plan.ignored plan.counted)
  ⟨counted, surveyWindows plan sampler (plan.ignored + plan.counted) plan.windows⟩

def Survey.isCyclic (survey : Survey) : Bool :=
  survey.windows.all fun window => survey.windows.head? == some window

end SpanTrail.Sampler
