import SpanTrail.Identifier
import SpanTrail.Number
import SpanTrail.Sampler
import SpanTrail.Text.Unicode

/-! Configurations of an agent: the standard one, and the standard one
changed by the settings of an environment.  A setting that is present but
malformed is an error; the first one in the order service name, width of
identities, sampler decides. -/

namespace SpanTrail

abbrev Environment := Setting → Option String

structure Configuration where
  serviceName : String
  sampler : Sampler
  ids : IdSource
  wide : Bool
  joins : Bool

namespace Configuration

/-- The standard configuration: an unknown service, every trace recorded, random
identities of 64 bits, and joined spans. -/
def standard (entropy : Entropy) : Configuration where
  serviceName := "unknown"
  sampler := .always
  ids := .random entropy
  wide := false
  joins := true

def boolean? (text : String) : Option Bool :=
  let lower := String.ofList (text.toList.map Char.toLower)
  if lower = "true" then some true else if lower = "false" then some false else none

def serviceName? (environment : Environment) : Option String :=
  (environment .serviceName).filter fun name => !name.isEmpty

def wideOf (environment : Environment) (standard : Bool) : Except TracingError Bool :=
  match environment .wideTraceIds with
  | none => .ok standard
  | some text =>
      match boolean? text with
      | some wide => .ok wide
      | none => .error (.invalidArgument (.notBoolean text))

def samplerArgument (environment : Environment) : Except TracingError Binary :=
  match environment .samplerArgument with
  | none => .error (.invalidArgument .samplerArgumentMissing)
  | some text =>
      match Numeral.readSingle? (Blank.trim text) with
      | some number => .ok number
      | none => .error (.invalidArgument (.samplerArgumentNotNumeric text))

def ratioSampler (ratio : Binary) : Except TracingError Sampler :=
  if Binary.zero.le ratio && ratio.le .one then .ok (.ratio (BinaryFormat.double.adopt ratio))
  else .error (.invalidArgument (.ratioOutOfRange ratio))

/-- The sampler.  Its argument counts only where the sampler takes one. -/
def samplerOf (environment : Environment) (standard : Sampler) (draw : Nat → Nat) :
    Except TracingError Sampler :=
  match environment .sampler with
  | none => .ok standard
  | some "always_on" => .ok .always
  | some "always_off" => .ok .never
  | some "counting" => do Sampler.ofRate (← samplerArgument environment) draw
  | some "traceidratio" => do ratioSampler (← samplerArgument environment)
  | some other => .error (.invalidArgument (.unknownSampler other))

def ofEnvironment (environment : Environment) (entropy : Entropy) (draw : Nat → Nat) :
    Except TracingError Configuration := do
  let base := standard entropy
  let wide ← wideOf environment base.wide
  let sampler ← samplerOf environment base.sampler draw
  return {
    base with
    serviceName := (serviceName? environment).getD base.serviceName
    wide := wide
    sampler := sampler }

end Configuration

end SpanTrail
