import SpanTrail.Identifier
import SpanTrail.Sampler.Keyed

/-! Scripts of uses of a keyed sampler whose rates are kept in a table that may
change between the uses. -/

namespace SpanTrail.KeyedSampler

structure Tally where
  accepted : Nat
  rejected : Nat
  undecided : Nat
  failed : Nat
  deriving DecidableEq, Repr

def Tally.add (tally : Tally) : Except TracingError Sampling → Tally
  | .error _ => { tally with failed := tally.failed + 1 }
  | .ok .undecided => { tally with undecided := tally.undecided + 1 }
  | .ok .rejected => { tally with rejected := tally.rejected + 1 }
  | .ok _ => { tally with accepted := tally.accepted + 1 }

inductive ScriptStep where
  | sample (key : Option String)
  | count (key : Option String) (times : Nat)
  | setRate (key : String) (rate : Option Binary)

structure Session where
  sampler : KeyedSampler String
  rates : Table String (Option Binary)
  lookUps : Nat

inductive ScriptResult where
  | decision (result : Except TracingError Sampling)
  | tally (tally : Tally)
  | nothing

namespace Session

def use (session : Session) (entropy : Entropy) (key : Option String) :
    Use String × Session :=
  let rates key := (session.rates.get? key).getD none
  let draws := entropy.branch session.lookUps
  let use := session.sampler.sample rates (fun index => (draws index).toNat) key
  (use,
    { session with
      sampler := use.sampler
      lookUps := session.lookUps + if use.lookedUp then 1 else 0 })

def useMany (session : Session) (entropy : Entropy) (key : Option String) (tally : Tally) :
    (times : Nat) → Tally × Session
  | 0 => (tally, session)
  | times + 1 =>
      let (use, session) := session.use entropy key
      session.useMany entropy key (tally.add use.result) times

/-- Performs a step.  What is logged is kept for single uses only. -/
def perform (session : Session) (entropy : Entropy) :
    ScriptStep → ScriptResult × List Event × Session
  | .sample key =>
      let (use, session) := session.use entropy key
      (.decision use.result, use.events, session)
  | .count key times =>
      let (tally, session) := session.useMany entropy key ⟨0, 0, 0, 0⟩ times
      (.tally tally, [], session)
  | .setRate key rate =>
      (.nothing, [], { session with rates := session.rates.insert key rate })

def performAll (session : Session) (entropy : Entropy) :
    List ScriptStep → List (ScriptResult × List Event × Session)
  | [] => []
  | step :: rest =>
      let done := session.perform entropy step
      done :: done.2.2.performAll entropy rest

end Session

end SpanTrail.KeyedSampler
