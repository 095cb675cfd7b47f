import SpanTrail.Number
import SpanTrail.Text.Layout

/-! The errors of the library and their wording.  An argument is refused for one of
the listed causes; a sink may fail with a text of its own; and a program that
uses the library may bring errors from elsewhere. -/

namespace SpanTrail

inductive Setting where
  | serviceName
  | sampler
  | samplerArgument
  | wideTraceIds
  deriving DecidableEq, Repr

def Setting.variable : Setting → String
  | .serviceName => "TRACERY_SERVICE_NAME"
  | .sampler => "TRACERY_SAMPLER"
  | .samplerArgument => "TRACERY_SAMPLER_ARG"
  | .wideTraceIds => "TRACERY_TRACEID_128BIT"

inductive BadArgument where
  | zeroTraceId
  | zeroSpanId
  | rateOutOfRange (rate : Binary)
  | notBoolean (value : String)
  | unknownSampler (value : String)
  | samplerArgumentMissing
  | samplerArgumentNotNumeric (value : String)
  | ratioOutOfRange (ratio : Binary)
  | stated (text : String)
  deriving DecidableEq, Repr

namespace BadArgument

def message : BadArgument → String
  | .zeroTraceId => "trace id == 0"
  | .zeroSpanId => "span id == 0"
  | .rateOutOfRange rate =>
      "rate should be between 0.01 and 1: was " ++ Shortest.singleText rate
  | .notBoolean value =>
      Setting.wideTraceIds.variable ++ "=" ++ Quoted.quote value ++ " is not a boolean"
  | .unknownSampler value =>
      "unrecognized " ++ Setting.sampler.variable ++ " " ++ Quoted.quote value ++
        ", expected always_on, always_off, counting or traceidratio"
  | .samplerArgumentMissing => Setting.samplerArgument.variable ++ " is not set"
  | .samplerArgumentNotNumeric value =>
      Setting.samplerArgument.variable ++ "=" ++ Quoted.quote value ++ " is not a number"
  | .ratioOutOfRange ratio =>
      Setting.samplerArgument.variable ++ "=" ++ Shortest.singleText ratio ++
        " is not a ratio between 0 and 1"
  | .stated text => text

end BadArgument

inductive TracingError where
  | invalidArgument (cause : BadArgument)
  | reportFailed (cause : String)
  | other (text : String)
  deriving DecidableEq, Repr

namespace TracingError

def poisonedLock : TracingError :=
  .other "poisoned lock: another task failed inside"

def message : TracingError → String
  | .invalidArgument cause => "invalid argument: " ++ cause.message
  | .reportFailed cause => "reporter failed: " ++ cause
  | .other text => text

end TracingError

inductive BadRequest where
  | headerName
  | headerValue
  deriving DecidableEq, Repr

def BadRequest.message : BadRequest → String
  | .headerName => "invalid HTTP header name"
  | .headerValue => "failed to parse header value"

/-- What can go wrong in one use of the library: an error, an identity that cannot
be read, a request that cannot be built, or a crash of the running code. -/
inductive Failure where
  | error (cause : TracingError)
  | identity (cause : Hex.ReadError)
  | request (cause : BadRequest)
  | crash (text : String)
  deriving DecidableEq, Repr

def Failure.message : Failure → String
  | .error cause => cause.message
  | .identity cause => cause.message
  | .request cause => cause.message
  | .crash text => text

end SpanTrail
