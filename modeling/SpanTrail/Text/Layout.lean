import SpanTrail.Text.Unicode

/-! Hexadecimal text, and the texts of diagnostic output.  Numbers are written with lower-case
digits, either exactly as many as they need or a fixed count; reading accepts both cases and
stops at the first fault from the left.  Diagnostic texts stand between double quotes; the
quote, the backslash and four control characters have a letter of their own, and every other
unprintable character is shown by its number.  A value is described as a name with its fields
in braces. -/

namespace SpanTrail.Hex

def digitValue? (digit : Char) : Option Nat :=
  if '0' ≤ digit ∧ digit ≤ '9' then some (digit.toNat - '0'.toNat)
  else if 'a' ≤ digit ∧ digit ≤ 'f' then some (digit.toNat - 'a'.toNat + 10)
  else if 'A' ≤ digit ∧ digit ≤ 'F' then some (digit.toNat - 'A'.toNat + 10)
  else none

def isLowerDigit (digit : Char) : Bool :=
  ('0' ≤ digit && digit ≤ '9') || ('a' ≤ digit && digit ≤ 'f')

def fixed : (width : Nat) → Nat → List Char
  | 0, _ => []
  | width + 1, number => fixed width (number / 16) ++ [Nat.digitChar (number % 16)]

theorem fixed_length (width number : Nat) : (fixed width number).length = width := by
  induction width generalizing number with
  | zero => rfl
  | succ width ih => simp [fixed, ih]

def digits (number : Nat) : List Char :=
  Nat.toDigits 16 number

inductive ReadError where
  | empty
  | invalidDigit
  | tooLarge
  deriving DecidableEq, Repr

namespace ReadError

def message : ReadError → String
  | .empty => "cannot parse integer from empty string"
  | .invalidDigit => "invalid digit found in string"
  | .tooLarge => "number too large to fit in target type"

end ReadError

/-- Digits appended to an already read number.  At each digit its validity is
checked before the bound, and the first fault from the left decides. -/
def readDigits (bound : Nat) : (sofar : Nat) → List Char → Except ReadError Nat
  | sofar, [] => .ok sofar
  | sofar, digit :: rest =>
      match digitValue? digit with
      | none => .error .invalidDigit
      | some value =>
          if sofar * 16 + value < bound then readDigits bound (sofar * 16 + value) rest
          else .error .tooLarge

/-- Reads a number below `bound`.  One leading plus sign is allowed, but a sign
alone is an invalid digit. -/
def read (bound : Nat) : List Char → Except ReadError Nat
  | [] => .error .empty
  | ['+'] => .error .invalidDigit
  | '+' :: rest => readDigits bound 0 rest
  | text => readDigits bound 0 text

end SpanTrail.Hex

namespace SpanTrail.Quoted

def escape (character : Char) : List Char :=
  match character with
  | '\x00' => ['\\', '0']
  | '\t' => ['\\', 't']
  | '\r' => ['\\', 'r']
  | '\n' => ['\\', 'n']
  | '"' => ['\\', '"']
  | '\\' => ['\\', '\\']
  | other =>
      if Unprintable.isUnprintable other then
        ['\\', 'u', '\x7b'] ++ Hex.digits other.toNat ++ ['\x7d']
      else [other]

def quote (text : String) : String :=
  String.ofList ('"' :: text.toList.flatMap escape ++ ['"'])

example : quote "it's \"a\"\\\n" = "\"it's \\\"a\\\"\\\\\\n\"" := by decide

example : quote "x\x07\u00A0" = "\"x\\u\x7b7\x7d\\u\x7ba0\x7d\"" := by decide

/-- A filler is shown by number although it is a letter, a half-width voicing mark as
itself although it extends the letter before it. -/
example : quote "\u3164\uFF9E" = "\"\\u\x7b3164\x7d\uFF9E\"" := by decide +kernel

end SpanTrail.Quoted

namespace SpanTrail.Layout

def bool : Bool → String
  | true => "true"
  | false => "false"

def wrapped (name value : String) : String :=
  name ++ "(" ++ value ++ ")"

def optional {α : Type} (describe : α → String) : Option α → String
  | none => "None"
  | some value => wrapped "Some" (describe value)

abbrev Field := String × String

def fieldList (fields : List Field) : String :=
  String.intercalate ", " (fields.map fun field => field.1 ++ ": " ++ field.2)

def record (name : String) (fields : List Field) : String :=
  name ++ " \x7b " ++ fieldList fields ++ " \x7d"

def openRecord (name : String) (fields : List Field) : String :=
  name ++ " \x7b " ++ fieldList fields ++ ", .. \x7d"

def sealed (name : String) : String :=
  record name [("_private", "()")]

end SpanTrail.Layout
