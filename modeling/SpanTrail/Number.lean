/-! Binary floating point numbers as exact values: a sign, a natural significand and a power of
two.  A format fixes how many bits the fraction and the exponent take; it gives the reading and
writing of bit patterns and the rounding of a quotient to the nearest number of the format.
The decimal text of a number has the fewest digits that read back to it and, of those, the ones
nearest to it.  A numeral that is read has an optional sign, then the name of a special value in
any case, or decimal digits with an optional point and an optional exponent. -/

namespace SpanTrail

/-- A floating point number.  The finite ones stand for the significand times two
to the exponent, negated if `negative`; one value stands for every not-a-number. -/
inductive Binary where
  | nan
  | infinite (negative : Bool)
  | finite (negative : Bool) (significand : Nat) (exponent : Int)
  deriving DecidableEq, Repr

namespace Binary

def zero : Binary :=
  .finite false 0 0

def one : Binary :=
  .finite false 1 0

/-- The significand with the sign of the number, over the exponent `base`, which
is not above `exponent`. -/
def scaled (negative : Bool) (significand : Nat) (exponent base : Int) : Int :=
  let magnitude : Nat := significand <<< (exponent - base).toNat
  if negative then -magnitude else magnitude

/-- Whether one number is not above another.  Not-a-number is in no relation. -/
def le : Binary → Binary → Bool
  | .nan, _ => false
  | _, .nan => false
  | .infinite true, _ => true
  | _, .infinite false => true
  | .infinite false, _ => false
  | _, .infinite true => false
  | .finite negative significand exponent, .finite negative' significand' exponent' =>
      let base := min exponent exponent'
      decide (scaled negative significand exponent base ≤
        scaled negative' significand' exponent' base)

def same (left right : Binary) : Bool :=
  left.le right && right.le left

def lt (left right : Binary) : Bool :=
  left.le right && !right.le left

end Binary

structure BinaryFormat where
  fractionBits : Nat
  exponentBits : Nat

namespace BinaryFormat

def single : BinaryFormat := ⟨23, 8⟩

def double : BinaryFormat := ⟨52, 11⟩

variable (format : BinaryFormat)

/-- The distance of the exponent field from the exponent of the leading bit. -/
def bias : Nat := 1 <<< (format.exponentBits - 1) - 1

def topField : Nat := 1 <<< format.exponentBits - 1

def leastExponent : Int := 1 - (format.bias : Int) - format.fractionBits

def greatestExponent : Int := (format.bias : Int) - format.fractionBits

def ofBits (bits : Nat) : Binary :=
  let fraction := bits % 1 <<< format.fractionBits
  let field := bits >>> format.fractionBits % 1 <<< format.exponentBits
  let negative := bits >>> (format.fractionBits + format.exponentBits) % 2 == 1
  if field = format.topField then
    if fraction = 0 then .infinite negative else .nan
  else if field = 0 then .finite negative fraction format.leastExponent
  else .finite negative (fraction + 1 <<< format.fractionBits) (format.leastExponent + field - 1)

def fields (significand : Nat) (exponent : Int) : Nat × Nat :=
  let leading := Nat.log2 significand
  let field := exponent + leading - (format.leastExponent + format.fractionBits) + 1
  if field ≤ 0 then (0, significand <<< (exponent - format.leastExponent).toNat)
  else
    (field.toNat,
      significand <<< format.fractionBits >>> leading % 1 <<< format.fractionBits)

/-- The bit pattern of a number of the format.  What is not a number has a clear
sign and the quiet bit alone in its fraction. -/
def toBits (number : Binary) : Nat :=
  let pack (negative : Bool) (field fraction : Nat) :=
    (if negative then 1 <<< (format.fractionBits + format.exponentBits) else 0) +
      field <<< format.fractionBits + fraction
  match number with
  | .nan => pack false format.topField (1 <<< (format.fractionBits - 1))
  | .infinite negative => pack negative format.topField 0
  | .finite negative 0 _ => pack negative 0 0
  | .finite negative significand exponent =>
      let (field, fraction) := format.fields significand exponent
      pack negative field fraction

/-- A number of a narrower format in the form that this format gives it. -/
def adopt (number : Binary) : Binary :=
  format.ofBits (format.toBits number)

def roundHalfEven (numerator denominator : Nat) : Nat :=
  let quotient := numerator / denominator
  let twice := 2 * (numerator % denominator)
  if denominator < twice ∨ (twice = denominator ∧ quotient % 2 = 1) then quotient + 1
  else quotient

def overPower (numerator denominator : Nat) (exponent : Int) : Nat × Nat :=
  if 0 ≤ exponent then (numerator, denominator <<< exponent.toNat)
  else (numerator <<< (-exponent).toNat, denominator)

/-- The largest exponent `e` for which two to `e` is not above the positive quotient. -/
def quotientLog (numerator denominator : Nat) : Int :=
  let estimate : Int := (Nat.log2 numerator : Int) - Nat.log2 denominator
  let (scaledNumerator, scaledDenominator) := overPower numerator denominator estimate
  if scaledDenominator ≤ scaledNumerator then estimate else estimate - 1

/-- The number of the format nearest to a quotient of naturals with a sign.  An
exact half goes to the even significand, and what rounds beyond the largest
finite number becomes infinite. -/
def round (negative : Bool) (numerator denominator : Nat) : Binary :=
  if numerator = 0 then .finite negative 0 format.leastExponent
  else
    let exponent :=
      max (quotientLog numerator denominator - format.fractionBits) format.leastExponent
    let (scaledNumerator, scaledDenominator) := overPower numerator denominator exponent
    let significand := roundHalfEven scaledNumerator scaledDenominator
    let (significand, exponent) :=
      if significand = 1 <<< (format.fractionBits + 1) then
        (1 <<< format.fractionBits, exponent + 1)
      else (significand, exponent)
    if format.greatestExponent < exponent then .infinite negative
    else .finite negative significand exponent

def multiply (factor : Nat) : Binary → Binary
  | .finite negative significand exponent =>
      let (numerator, denominator) := overPower (significand * factor) 1 (-exponent)
      format.round negative numerator denominator
  | other => other

/-- A hundredth in 32 bits lies just below the hundredth. -/
example : single.round false 1 100 = single.ofBits 0x3C23D70A := by decide +kernel

example : double.toBits (single.ofBits 0x3FA00000) = 0x3FF4000000000000 := by decide +kernel

end BinaryFormat

end SpanTrail

namespace SpanTrail.Shortest

/-- The reals between `low` and `high`, in units of two to the exponent less two,
round to the number whose significand is `4 * value` of these units; the two ends
do so only if `closed`. -/
structure Interval where
  low : Nat
  value : Nat
  high : Nat
  closed : Bool

/-- The rounding interval of a positive number of the format.  Below a power of
two the numbers lie twice as dense as above it. -/
def Interval.of (format : BinaryFormat) (significand : Nat) (exponent : Int) : Interval :=
  let value := 4 * significand
  let isPower := significand = 1 <<< format.fractionBits ∧ format.leastExponent < exponent
  { low := if isPower then value - 1 else value - 2
    value := value
    high := value + 2
    closed := significand % 2 == 0 }

def Interval.contains (interval : Interval) (numerator denominator : Nat) : Bool :=
  if interval.closed then
    decide (interval.low * denominator ≤ numerator ∧ numerator ≤ interval.high * denominator)
  else
    decide (interval.low * denominator < numerator ∧ numerator < interval.high * denominator)

structure Decimal where
  digits : Nat
  exponent : Int
  deriving DecidableEq, Repr

def Decimal.over (decimal : Decimal) (exponent : Int) : Nat × Nat :=
  BinaryFormat.overPower (decimal.digits * Nat.pow 10 decimal.exponent.toNat)
    (Nat.pow 10 (-decimal.exponent).toNat) exponent

def floorAt (numerator denominator : Nat) (exponent : Int) : Nat :=
  numerator * Nat.pow 10 (-exponent).toNat / (denominator * Nat.pow 10 exponent.toNat)

/-- How many decimal digits stand before the point of a positive number; the count
is negative if zeros follow the point.  `least` bounds the exponent from below. -/
def wholeDigits (least : Int) (significand : Nat) (exponent : Int) : Int :=
  let shift := least.natAbs
  let (numerator, denominator) := BinaryFormat.overPower significand 1 (-exponent)
  ((Nat.toDigits 10 (numerator * Nat.pow 10 shift / denominator)).length : Int) - shift

/-- The nearer to the number of its two neighbours on the grid of multiples of ten
to the exponent, among those inside the rounding interval.  An exact tie goes up. -/
def onGrid (interval : Interval) (exponent grid : Int) : Option Decimal :=
  let (numerator, denominator) := BinaryFormat.overPower interval.value 1 (2 - exponent)
  let below : Decimal := ⟨floorAt numerator denominator grid, grid⟩
  let above : Decimal := ⟨below.digits + 1, grid⟩
  let inside (decimal : Decimal) : Bool :=
    let (top, bottom) := decimal.over (exponent - 2)
    interval.contains top bottom
  let (belowTop, belowBottom) := below.over (exponent - 2)
  let (aboveTop, aboveBottom) := above.over (exponent - 2)
  let aboveIsNearer :=
    aboveTop * belowBottom + belowTop * aboveBottom ≤
      2 * interval.value * (aboveBottom * belowBottom)
  if inside below then
    if inside above ∧ aboveIsNearer then some above else some below
  else if inside above then some above
  else none

/-- The fewest digits that read back to the positive number.  The count of digits
goes up to `limit`, which is enough for the format. -/
def digits (format : BinaryFormat) (limit significand : Nat) (exponent : Int) : Decimal :=
  let interval := Interval.of format significand exponent
  let whole := wholeDigits format.leastExponent significand exponent
  let attempt (count : Nat) := onGrid interval exponent (whole - (count + 1))
  ((List.range limit).findSome? attempt).getD ⟨0, 0⟩

/-- A decimal number in positional notation: zeros fill the places up to the point,
and zeros at the end of a fraction are left out. -/
def positional (decimal : Decimal) : List Char :=
  let text := Nat.toDigits 10 decimal.digits
  if 0 ≤ decimal.exponent then text ++ List.replicate decimal.exponent.toNat '0'
  else
    let places := (-decimal.exponent).toNat
    let padded := List.replicate (places + 1 - text.length) '0' ++ text
    let whole := padded.take (padded.length - places)
    let fraction := (padded.drop (padded.length - places)).reverse.dropWhile (· == '0')
    if fraction.isEmpty then whole else whole ++ '.' :: fraction.reverse

def scientific (decimal : Decimal) : List Char :=
  let text := Nat.toDigits 10 decimal.digits
  let exponent := decimal.exponent + (text.length - 1 : Nat)
  let fraction := ((text.drop 1).reverse.dropWhile (· == '0')).reverse
  let mantissa := if fraction.isEmpty then text.take 1 else text.take 1 ++ '.' :: fraction
  mantissa ++ 'e' :: (toString exponent).toList

/-- The text of a number of 32 bits.  Nine digits tell all of them apart. -/
def singleText : Binary → String
  | .nan => "NaN"
  | .infinite negative => if negative then "-inf" else "inf"
  | .finite negative significand exponent =>
      let magnitude :=
        if significand = 0 then ['0']
        else positional (digits .single 9 significand exponent)
      String.ofList (if negative then '-' :: magnitude else magnitude)

/-- The least count of whole digits for which a number of 64 bits is written without
an exponent.  It is negative because it counts zeros after the point. -/
def leastPlace : Int := -3

def greatestPlace : Int := 16

/-- The diagnostic text of a number of 64 bits.  Seventeen digits tell all of them
apart.  A number without an exponent shows at least one digit after the point. -/
def doubleText : Binary → String
  | .nan => "NaN"
  | .infinite negative => if negative then "-inf" else "inf"
  | .finite negative significand exponent =>
      let magnitude :=
        if significand = 0 then "0.0".toList
        else
          let decimal := digits .double 17 significand exponent
          let place := decimal.exponent + (Nat.toDigits 10 decimal.digits).length
          if leastPlace ≤ place ∧ place ≤ greatestPlace then
            let text := positional decimal
            if text.contains '.' then text else text ++ ".0".toList
          else scientific decimal
      String.ofList (if negative then '-' :: magnitude else magnitude)

example : doubleText (BinaryFormat.double.ofBits 0x3FB99999A0000000) = "0.10000000149011612" := by
  decide +kernel

example : doubleText (BinaryFormat.double.ofBits 0x3EE4F8B588E368F1) = "1e-5" := by
  decide +kernel

example : doubleText (BinaryFormat.double.ofBits 0x4341C37937E08000) = "1e16" := by
  decide +kernel

example : singleText (BinaryFormat.single.ofBits 0x3727C5AC) = "0.00001" := by decide +kernel

example : singleText (BinaryFormat.single.ofBits 0x3F800001) = "1.0000001" := by decide +kernel

example : singleText (BinaryFormat.single.ofBits 0x501502F9) = "10000000000" := by decide +kernel

end SpanTrail.Shortest

namespace SpanTrail.Numeral

def natural (sofar : Nat) (digits : List Char) : Nat :=
  digits.foldl (fun value digit => value * 10 + (digit.toNat - '0'.toNat)) sofar

def splitSign : List Char → Bool × List Char
  | '-' :: rest => (true, rest)
  | '+' :: rest => (false, rest)
  | text => (false, text)

structure Parts where
  whole : List Char
  fraction : List Char
  exponent : Int

def exponent? : List Char → Option Int
  | [] => some 0
  | marker :: rest =>
      if marker = 'e' ∨ marker = 'E' then
        let (negative, digits) := splitSign rest
        if digits.isEmpty || !digits.all Char.isDigit then none
        else
          let magnitude : Int := natural 0 digits
          some (if negative then -magnitude else magnitude)
      else none

def parts? (text : List Char) : Option Parts :=
  let (whole, rest) := text.span Char.isDigit
  let (fraction, rest) :=
    match rest with
    | '.' :: rest => rest.span Char.isDigit
    | rest => ([], rest)
  if whole.isEmpty && fraction.isEmpty then none
  else (exponent? rest).map fun exponent => ⟨whole, fraction, exponent⟩

/-- The largest count of digits before the point that a finite number of 32 bits
has. -/
def wholeLimit : Int := 39

def zeroLimit : Int := 46

/-- The number of 32 bits nearest to a decimal numeral.  Where the place of the
first digit alone shows that the value overflows or vanishes, the power of ten is
not computed. -/
def single (negative : Bool) (parts : Parts) : Binary :=
  let digits := natural 0 (parts.whole ++ parts.fraction)
  let shift := parts.exponent - parts.fraction.length
  let place := (Nat.toDigits 10 digits).length + shift
  if digits = 0 then .finite negative 0 BinaryFormat.single.leastExponent
  else if wholeLimit < place then .infinite negative
  else if place < -zeroLimit then .finite negative 0 BinaryFormat.single.leastExponent
  else
    BinaryFormat.single.round negative (digits * Nat.pow 10 shift.toNat)
      (Nat.pow 10 (-shift).toNat)

def readSingle? (text : String) : Option Binary :=
  let (negative, body) := splitSign text.toList
  let word := String.ofList (body.map Char.toLower)
  if word = "nan" then some .nan
  else if word = "inf" ∨ word = "infinity" then some (.infinite negative)
  else (parts? body).map (single negative)

example : readSingle? "+.5e1" = some (BinaryFormat.single.ofBits 0x40A00000) := by
  decide +kernel

example : readSingle? "." = none ∧ readSingle? "e5" = none ∧ readSingle? "1e" = none := by
  decide +kernel

example : readSingle? "1e-400" = some (.finite false 0 (-149)) := by decide +kernel

end SpanTrail.Numeral
