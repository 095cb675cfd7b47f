import SpanTrail.Error
import SpanTrail.Table
import SpanTrail.Text.Unicode

/-! Carriers of propagated fields: a map of texts, whose keys are kept in lower case, or the
header fields of a request.  Both are written field by field and read by key; reading ignores
the case of the key.  The name of a header field is a token; its value is a sequence of bytes
without control characters, and it can be read as text only if all its bytes are visible ASCII
characters, spaces or tabs. -/

namespace SpanTrail.Header

def isTokenCharacter (character : Char) : Bool :=
  character.isAlphanum || "!#$%&'*+-.^_\x60|~".toList.contains character

/-- The longest name has one character less than this. -/
def nameLimit : Nat := 65536

/-- The name that a text denotes: a token, which is not empty, in lower case. -/
def name? (text : String) : Option String :=
  let characters := text.toList
  if characters.isEmpty || nameLimit ≤ characters.length || !characters.all isTokenCharacter then
    none
  else some (String.ofList (characters.map Char.toLower))

abbrev Value := List UInt8

def isValueByte (byte : UInt8) : Bool :=
  byte == 9 || (32 ≤ byte && byte != 127)

def isTextByte (byte : UInt8) : Bool :=
  byte == 9 || (32 ≤ byte && byte < 127)

def value? (bytes : List UInt8) : Option Value :=
  if bytes.all isValueByte then some bytes else none

def textBytes (text : String) : List UInt8 :=
  text.toUTF8.toList

def readable? (value : Value) : Option String :=
  if value.all isTextByte then
    some (String.ofList (value.map fun byte => Char.ofNat byte.toNat))
  else none

/-- The values of each name in the order in which they were added. -/
abbrev Map := Table String (List Value)

/-- Replaces the values of a name by one text.  A name or value that is not allowed
changes nothing. -/
def set (headers : Map) (name text : String) : Map :=
  match name? name, value? (textBytes text) with
  | some name, some value => headers.insert name [value]
  | _, _ => headers

/-- Adds a value to a name.  The name is checked before the value. -/
def append (headers : Map) (name : String) (bytes : List UInt8) : Except BadRequest Map :=
  match name? name with
  | none => .error .headerName
  | some name =>
      match value? bytes with
      | none => .error .headerValue
      | some value => .ok (headers.insert name ((headers.get? name).getD [] ++ [value]))

def appendAll (headers : Map) (fields : List (String × List UInt8)) : Except BadRequest Map :=
  fields.foldlM (fun sofar field => append sofar field.1 field.2) headers

def get? (headers : Map) (name : String) : Option String := do
  let values ← headers.get? (← name? name)
  readable? (← values.head?)

end SpanTrail.Header

namespace SpanTrail

inductive Carrier where
  | map (entries : Table String String)
  | headers (fields : Header.Map)

namespace Carrier

def emptyMap : Carrier := .map .empty

def emptyHeaders : Carrier := .headers .empty

/-- Writes a value.  A map takes every key and value, header fields take only those
that are allowed. -/
def set (carrier : Carrier) (key value : String) : Carrier :=
  match carrier with
  | .map entries => .map (entries.insert (LowerCase.text key) value)
  | .headers fields => .headers (Header.set fields key value)

def setAll (carrier : Carrier) (pairs : List (String × String)) : Carrier :=
  pairs.foldl (fun sofar pair => sofar.set pair.1 pair.2) carrier

def get? (carrier : Carrier) (key : String) : Option String :=
  match carrier with
  | .map entries => entries.get? (LowerCase.text key)
  | .headers fields => Header.get? fields key

def keys : Carrier → List String
  | .map entries => entries.keys
  | .headers fields => fields.keys

def listing (carrier : Carrier) : List (String × Option String) :=
  (carrier.keys.mergeSort fun left right => decide (left ≤ right)).map fun key =>
    (key, carrier.get? key)

/-- How a carrier is filled with given fields: a map through its writing or with its
keys as they are, header fields through their writing or value after value. -/
inductive Filling where
  | map
  | rawMap
  | headers
  | rawHeaders
  deriving DecidableEq, Repr

def fill (filling : Filling) (fields : List (String × List UInt8)) : Except Failure Carrier :=
  let texts := fields.filterMap fun field =>
    (String.fromUTF8? field.2.toByteArray).map fun text => (field.1, text)
  match filling with
  | .map => .ok (emptyMap.setAll texts)
  | .rawMap => .ok (.map (.ofList texts))
  | .headers => .ok (emptyHeaders.setAll texts)
  | .rawHeaders => ((Header.appendAll .empty fields).map .headers).mapError .request

end Carrier

end SpanTrail
