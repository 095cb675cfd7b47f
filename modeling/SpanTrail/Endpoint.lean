import SpanTrail.Text.Layout
import SpanTrail.Text.Unicode

/-! One side of a remote call: the name of a service, its internet addresses and its port, as far
as they are known.  Addresses of 128 bits are written in their recommended text form: groups in
lower case without leading zeros, the first of the longest runs of two or more zero groups left
out between two colons, and an address that maps one of 32 bits ending in that one. -/

namespace SpanTrail

structure IPv4 where
  first : UInt8
  second : UInt8
  third : UInt8
  fourth : UInt8
  deriving DecidableEq, Repr

namespace IPv4

def octetText (octet : UInt8) : List Char :=
  Nat.toDigits 10 octet.toNat

def toList (address : IPv4) : List Char :=
  octetText address.first ++ '.' :: octetText address.second ++
    '.' :: octetText address.third ++ '.' :: octetText address.fourth

def text (address : IPv4) : String :=
  String.ofList address.toList

/-- Reads an octet: one to three decimal digits, without a leading zero unless the
octet is zero, of a value that fits. -/
def octet? (digits : List Char) : Option UInt8 :=
  let value := digits.foldl (fun value digit => value * 10 + (digit.toNat - '0'.toNat)) 0
  if digits.isEmpty || 3 < digits.length || !digits.all Char.isDigit then none
  else if 1 < digits.length && digits.head? == some '0' then none
  else if 255 < value then none
  else some (UInt8.ofNat value)

def ofList? (text : List Char) : Option IPv4 :=
  match text.splitOn '.' with
  | [first, second, third, fourth] => do
      return ⟨← octet? first, ← octet? second, ← octet? third, ← octet? fourth⟩
  | _ => none

end IPv4

structure IPv6 where
  groups : Vector UInt16 8
  deriving DecidableEq, Repr

namespace IPv6

def ofGroups? (groups : List UInt16) : Option IPv6 :=
  if eight : groups.toArray.size = 8 then some ⟨⟨groups.toArray, eight⟩⟩ else none

def toGroups (address : IPv6) : List UInt16 :=
  address.groups.toList

def mapped? (address : IPv6) : Option IPv4 :=
  match address.toGroups with
  | [0, 0, 0, 0, 0, 0xFFFF, upper, lower] =>
      some ⟨(upper >>> 8).toUInt8, upper.toUInt8, (lower >>> 8).toUInt8, lower.toUInt8⟩
  | _ => none

/-- The first of the longest runs of zero groups, as its start and length. -/
def longestZeros (groups : List UInt16) : Nat × Nat :=
  (List.range groups.length).foldl
    (fun longest start =>
      let length := ((groups.drop start).takeWhile (· == 0)).length
      if longest.2 < length then (start, length) else longest)
    (0, 0)

def joined (groups : List UInt16) : List Char :=
  [':'].intercalate (groups.map fun group => Hex.digits group.toNat)

def toList (address : IPv6) : List Char :=
  match address.mapped? with
  | some inner => "::ffff:".toList ++ inner.toList
  | none =>
      let groups := address.toGroups
      let (start, length) := longestZeros groups
      if 1 < length then
        joined (groups.take start) ++ "::".toList ++ joined (groups.drop (start + length))
      else joined groups

def text (address : IPv6) : String :=
  String.ofList address.toList

def group? (digits : List Char) : Option UInt16 :=
  if digits.isEmpty || 4 < digits.length then none
  else (digits.mapM Hex.digitValue?).map fun values =>
    UInt16.ofNat (values.foldl (fun value digit => value * 16 + digit) 0)

def ofIPv4 (address : IPv4) : List UInt16 :=
  [address.first.toUInt16 * 256 + address.second.toUInt16,
    address.third.toUInt16 * 256 + address.fourth.toUInt16]

/-- Reads groups, the last of which may be an address of 32 bits. -/
def withTail? : List (List Char) → Option (List UInt16)
  | [] => some []
  | [last] => ((group? last).map ([·])) <|> ((IPv4.ofList? last).map ofIPv4)
  | group :: rest => do return (← group? group) :: (← withTail? rest)

def colonParts (text : List Char) : List (List Char) :=
  if text.isEmpty then [] else text.splitOn ':'

def splitGap? : List Char → Option (List Char × List Char)
  | ':' :: ':' :: rest => some ([], rest)
  | character :: rest =>
      (splitGap? rest).map fun sides => (character :: sides.1, sides.2)
  | [] => none

/-- Reads an address: eight groups, or at most seven around a pair of colons, which
stands for the missing zero groups. -/
def ofList? (text : List Char) : Option IPv6 :=
  match splitGap? text with
  | none => do ofGroups? (← withTail? (colonParts text))
  | some (before, behind) => do
      let front ← (colonParts before).mapM group?
      let back ← withTail? (colonParts behind)
      if front.length + back.length ≤ 7 then
        ofGroups? (front ++ List.replicate (8 - (front.length + back.length)) 0 ++ back)
      else none

end IPv6

inductive Address where
  | v4 (address : IPv4)
  | v6 (address : IPv6)
  deriving DecidableEq, Repr

namespace Address

def text : Address → String
  | .v4 address => address.text
  | .v6 address => address.text

def ofList? (text : List Char) : Option Address :=
  ((IPv4.ofList? text).map .v4) <|> ((IPv6.ofList? text).map .v6)

def read? (text : String) : Option Address :=
  ofList? (Blank.trimList text.toList)

end Address

structure Endpoint where
  serviceName : Option String
  ipv4 : Option IPv4
  ipv6 : Option IPv6
  port : Option UInt16
  deriving DecidableEq, Repr

namespace Endpoint

def unknown : Endpoint := ⟨none, none, none, none⟩

def named (name : String) : Endpoint :=
  { unknown with serviceName := some name }

def isEmpty (endpoint : Endpoint) : Bool :=
  endpoint == unknown

def withName (endpoint : Endpoint) (name : String) : Endpoint :=
  { endpoint with serviceName := some name }

def withPort (endpoint : Endpoint) (port : UInt16) : Endpoint :=
  { endpoint with port := if port = 0 then none else some port }

/-- The endpoint with another address of the given size.  An address that maps one
of 32 bits counts as that one. -/
def withAddress (endpoint : Endpoint) : Address → Endpoint
  | .v4 address => { endpoint with ipv4 := some address }
  | .v6 address =>
      match address.mapped? with
      | some inner => { endpoint with ipv4 := some inner }
      | none => { endpoint with ipv6 := some address }

def parseAddress (endpoint : Endpoint) (text : String) : Option Endpoint :=
  (Address.read? text).map endpoint.withAddress

def describe (endpoint : Endpoint) : String :=
  Layout.record "Endpoint"
    [("service_name", Layout.optional Quoted.quote endpoint.serviceName),
      ("ipv4", Layout.optional IPv4.text endpoint.ipv4),
      ("ipv6", Layout.optional IPv6.text endpoint.ipv6),
      ("port", Layout.optional (fun port => toString port.toNat) endpoint.port)]

inductive Change where
  | literal (text : String)
  | address (address : Address)
  | port (port : UInt16)
  | name (name : String)
  deriving DecidableEq, Repr

def change (endpoint : Endpoint) : Change → Endpoint × Option Bool
  | .literal text =>
      match endpoint.parseAddress text with
      | some changed => (changed, some true)
      | none => (endpoint, some false)
  | .address address => (endpoint.withAddress address, none)
  | .port port => (endpoint.withPort port, none)
  | .name name => (endpoint.withName name, none)

def changes (endpoint : Endpoint) : List Change → List (Endpoint × Option Bool)
  | [] => []
  | first :: rest =>
      let next := endpoint.change first
      next :: changes next.1 rest

end Endpoint

end SpanTrail
