import SpanTrail.Text.Layout

/-! The identities of traces and spans, and the sources of new ones.  A trace has 128 bits, of
which the low 64 must not all be zero; a span has 64 bits, not all zero.  Both are written as
lower-case hexadecimal text of a fixed width and as bytes in big-endian order.  Random ones come
from infinite sequences of words; a seed is spread over such a sequence by multiplying and
shifting, so that close seeds give unlike words. -/

namespace SpanTrail

def bigEndian {width : Nat} (bytes : Vector UInt8 width) : Nat :=
  bytes.toList.foldl (fun value byte => value * 256 + byte.toNat) 0

def toBigEndian (width number : Nat) : Vector UInt8 width :=
  Vector.ofFn fun index => UInt8.ofNat (number >>> (8 * (width - 1 - index.val)))

structure TraceId where
  high : UInt64
  low : UInt64
  deriving DecidableEq, Repr

namespace TraceId

def none : TraceId := ⟨0, 0⟩

def ofLow (low : UInt64) : TraceId := ⟨0, low⟩

def ofNat (number : Nat) : TraceId :=
  ⟨UInt64.ofNat (number >>> 64), UInt64.ofNat number⟩

def toNat (id : TraceId) : Nat :=
  id.high.toNat <<< 64 + id.low.toNat

/-- An identity denotes a trace if its low half is not zero. -/
def isValid (id : TraceId) : Bool :=
  id.low != 0

def isWide (id : TraceId) : Bool :=
  id.high != 0

def text (id : TraceId) : String :=
  String.ofList (Hex.fixed (if id.isWide then 32 else 16) id.toNat)

def shortText (id : TraceId) : String :=
  String.ofList (Hex.digits id.toNat)

def read (text : String) : Except Hex.ReadError TraceId :=
  (Hex.read (1 <<< 128) text.toList).map ofNat

def ofBytes (bytes : Vector UInt8 16) : TraceId :=
  ofNat (bigEndian bytes)

def toBytes (id : TraceId) : Vector UInt8 16 :=
  toBigEndian 16 id.toNat

theorem toNat_lt (id : TraceId) : id.toNat < 1 <<< 128 := by
  have high := id.high.toNat_lt
  have low := id.low.toNat_lt
  unfold toNat
  omega

@[simp] theorem ofNat_toNat (id : TraceId) : ofNat id.toNat = id := by
  have low := id.low.toNat_lt
  have quotient : id.toNat >>> 64 = id.high.toNat := by
    unfold toNat
    omega
  cases id with
  | mk high low =>
      simp only [ofNat, quotient, mk.injEq, UInt64.ofNat_toNat, true_and]
      rw [← UInt64.toNat_inj, UInt64.toNat_ofNat']
      simp only at low
      simp only [toNat]
      omega

theorem toNat_ofNat {number : Nat} (small : number < 1 <<< 128) :
    (ofNat number).toNat = number := by
  simp only [ofNat, toNat, UInt64.toNat_ofNat']
  omega

end TraceId

structure SpanId where
  value : UInt64
  deriving DecidableEq, Repr

namespace SpanId

def none : SpanId := ⟨0⟩

def ofNat (number : Nat) : SpanId :=
  ⟨UInt64.ofNat number⟩

def toNat (id : SpanId) : Nat :=
  id.value.toNat

def isValid (id : SpanId) : Bool :=
  id.value != 0

def text (id : SpanId) : String :=
  String.ofList (Hex.fixed 16 id.toNat)

def shortText (id : SpanId) : String :=
  String.ofList (Hex.digits id.toNat)

def read (text : String) : Except Hex.ReadError SpanId :=
  (Hex.read (1 <<< 64) text.toList).map ofNat

def ofBytes (bytes : Vector UInt8 8) : SpanId :=
  ofNat (bigEndian bytes)

def toBytes (id : SpanId) : Vector UInt8 8 :=
  toBigEndian 8 id.toNat

theorem isValid_iff_ne {id : SpanId} : id.isValid = true ↔ id ≠ .none := by
  cases id with
  | mk value => simp [isValid, none]

@[simp] theorem ofNat_toNat (id : SpanId) : ofNat id.toNat = id := by
  simp [ofNat, toNat]

theorem toNat_ofNat {number : Nat} (small : number < 1 <<< 64) :
    (ofNat number).toNat = number := by
  simp only [ofNat, toNat, UInt64.toNat_ofNat']
  omega

end SpanId

abbrev Entropy := Nat → UInt64

namespace Entropy

def mix (word : UInt64) : UInt64 :=
  let word := (word ^^^ (word >>> 30)) * 0xBF58476D1CE4E5B9
  let word := (word ^^^ (word >>> 27)) * 0x94D049BB133111EB
  word ^^^ (word >>> 31)

def ofSeed (seed : UInt64) : Entropy := fun index =>
  mix (seed + UInt64.ofNat (index + 1) * 0x9E3779B97F4A7C15)

def branch (entropy : Entropy) (index : Nat) : Entropy :=
  ofSeed (entropy index)

def nonZero (entropy : Entropy) (index : Nat) : UInt64 :=
  if entropy index = 0 then 1 else entropy index

theorem nonZero_ne_zero (entropy : Entropy) (index : Nat) : entropy.nonZero index ≠ 0 := by
  unfold nonZero
  split
  · decide
  · assumption

end Entropy

/-- A source of identities.  Each one depends on how many of either sort were drawn
before. -/
structure IdSource where
  trace : (traces spans : Nat) → TraceId
  span : (traces spans : Nat) → SpanId
  traces : Nat
  spans : Nat

namespace IdSource

def nextTrace (source : IdSource) : TraceId × IdSource :=
  (source.trace source.traces source.spans, { source with traces := source.traces + 1 })

def nextSpan (source : IdSource) : SpanId × IdSource :=
  (source.span source.traces source.spans, { source with spans := source.spans + 1 })

def random (entropy : Entropy) : IdSource where
  trace := fun traces _ => ⟨entropy (3 * traces), entropy.nonZero (3 * traces + 1)⟩
  span := fun _ spans => ⟨entropy.nonZero (3 * spans + 2)⟩
  traces := 0
  spans := 0

def randomLabel : String :=
  Layout.sealed "RandomIdGenerator"

def increasing : IdSource where
  trace := fun traces spans => .ofLow (UInt64.ofNat (traces + spans + 1))
  span := fun traces spans => .ofNat (traces + spans + 1)
  traces := 0
  spans := 0

/-- The first number that a scripted source gives after its lists are used up. -/
def scriptEnd : Nat := 0x1000

/-- The identities of two lists in order.  Whatever the lists do not hold is taken
from numbers that count on for traces and spans alike. -/
def scripted (traceIds : List TraceId) (spanIds : List SpanId) : IdSource where
  trace := fun traces spans =>
    traceIds[traces]?.getD
      (.ofLow (UInt64.ofNat (scriptEnd + (traces - traceIds.length) + (spans - spanIds.length))))
  span := fun traces spans =>
    spanIds[spans]?.getD
      (.ofNat (scriptEnd + (traces - traceIds.length) + (spans - spanIds.length)))
  traces := 0
  spans := 0

def constant (traceId : TraceId) (spanId : SpanId) : IdSource where
  trace := fun _ _ => traceId
  span := fun _ _ => spanId
  traces := 0
  spans := 0

theorem random_trace_isValid (entropy : Entropy) (traces spans : Nat) :
    ((random entropy).trace traces spans).isValid = true := by
  simpa [random, TraceId.isValid] using entropy.nonZero_ne_zero (3 * traces + 1)

theorem random_span_isValid (entropy : Entropy) (traces spans : Nat) :
    ((random entropy).span traces spans).isValid = true := by
  simpa [random, SpanId.isValid] using entropy.nonZero_ne_zero (3 * spans + 2)

end IdSource

end SpanTrail
