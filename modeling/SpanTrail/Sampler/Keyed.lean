import SpanTrail.Event
import SpanTrail.Sampler
import SpanTrail.Table

/-! Sampling by declared rates.  Each key has a rate or none, which is looked up when
the key is first used and kept from then on.  A rate that no sampler can have is
an error, and is looked up again by the next use. -/

namespace SpanTrail

structure KeyedSampler (Key : Type) where
  known : Table Key (Option Sampler)

namespace KeyedSampler

variable {Key : Type} [DecidableEq Key]

def empty : KeyedSampler Key := ⟨.empty⟩

def size (sampler : KeyedSampler Key) : Nat :=
  sampler.known.size

/-- The sampler for a declared rate. -/
def candidate (rate : Option Binary) (draw : Nat → Nat) : Except TracingError (Option Sampler) :=
  match rate with
  | none => .ok none
  | some rate => (Sampler.ofRate rate draw).map some

/-- Keeps a candidate for a key, unless the key is known already. -/
def store (sampler : KeyedSampler Key) (key : Key) (candidate : Option Sampler) :
    KeyedSampler Key :=
  if sampler.known.contains key then sampler
  else ⟨sampler.known.insert key candidate⟩

/-- Decides by what is kept of a key.  The samplers that are kept do not look at the
trace. -/
def decide (sampler : KeyedSampler Key) (key : Key) :
    Sampling × KeyedSampler Key :=
  match sampler.known.get? key with
  | some (some kept) =>
      let (decision, kept) := kept.ask .none
      (.decided decision, ⟨sampler.known.insert key (some kept)⟩)
  | _ => (.undecided, sampler)

structure Use (Key : Type) where
  result : Except TracingError Sampling
  sampler : KeyedSampler Key
  events : List Event
  lookedUp : Bool

def storing : Option Sampler → List Event
  | none => [.rateMissing]
  | some _ => []

def rejecting (rate : Option Binary) (cause : TracingError) : List Event :=
  (rate.map fun rate => Event.rateRejected rate cause).toList

/-- Decides on one use of a key.  Without a key nothing is decided or looked up. -/
def sample (sampler : KeyedSampler Key) (rates : Key → Option Binary)
    (draw : Nat → Nat) (key : Option Key) : Use Key :=
  match key with
  | none => ⟨.ok .undecided, sampler, [], false⟩
  | some key =>
      if sampler.known.contains key then
        let (decision, sampler) := sampler.decide key
        ⟨.ok decision, sampler, [], false⟩
      else
        match candidate (rates key) draw with
        | .error cause => ⟨.error cause, sampler, rejecting (rates key) cause, true⟩
        | .ok candidate =>
            let (decision, sampler) := (sampler.store key candidate).decide key
            ⟨.ok decision, sampler, storing candidate, true⟩

def describe (sampler : KeyedSampler Key) : String :=
  Layout.openRecord "DeclarativeSampler" [("keys", toString sampler.size)]

end KeyedSampler

end SpanTrail
