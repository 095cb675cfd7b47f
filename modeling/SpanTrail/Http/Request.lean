import SpanTrail.Carrier
import SpanTrail.Endpoint

/-! Requests as far as tracing looks at them.  A standard request has a method, a target and
header fields; a plain one answers each question with what it was given for it, or not at all.
A target is a path with an optional query, an absolute address, or an authority alone; a
fragment does not belong to it. -/

namespace SpanTrail.Http

inductive Target where
  | origin (path : String) (query : Option String)
  | absolute (scheme authority path : String) (query : Option String)
  | host (name : String)
  deriving DecidableEq, Repr

namespace Target

def splitAt (mark : Char) (text : List Char) : String × Option String :=
  let before := text.takeWhile (· != mark)
  match text.dropWhile (· != mark) with
  | [] => (String.ofList before, none)
  | _ :: behind => (String.ofList before, some (String.ofList behind))

def splitScheme? : List Char → Option (List Char × List Char)
  | ':' :: '/' :: '/' :: rest => some ([], rest)
  | character :: rest =>
      (splitScheme? rest).map fun sides => (character :: sides.1, sides.2)
  | [] => none

/-- A scheme as it is kept: the two usual ones in lower case, others as they are. -/
def keptScheme (scheme : List Char) : String :=
  let lower := String.ofList (scheme.map Char.toLower)
  if lower = "http" ∨ lower = "https" then lower else String.ofList scheme

def absolutePath (path : String) : String :=
  if path.isEmpty then "/" else path

def read (text : String) : Target :=
  let text := text.toList.takeWhile (· != '#')
  if text.head? = some '/' ∨ text = ['*'] then
    let (path, query) := splitAt '?' text
    .origin path query
  else
    match splitScheme? text with
    | none => .host (String.ofList text)
    | some (scheme, rest) =>
        let inAuthority := fun character => character != '/' && character != '?'
        let (path, query) := splitAt '?' (rest.dropWhile inAuthority)
        .absolute (keptScheme scheme) (String.ofList (rest.takeWhile inAuthority))
          (absolutePath path) query

def path? : Target → Option String
  | .origin path _ => some path
  | .absolute _ _ path _ => some path
  | .host _ => none

def queryText : Option String → String
  | none => ""
  | some query => "?" ++ query

def text : Target → String
  | .origin path query => path ++ queryText query
  | .absolute scheme authority path query =>
      scheme ++ "://" ++ authority ++ path ++ queryText query
  | .host name => name

end Target

inductive View where
  | standard
  | plain
  deriving DecidableEq, Repr

def View.label : View → String
  | .standard => "HttpTypesAdapter"
  | .plain => "RawAdapter"

inductive Request where
  | standard (method : String) (target : Target) (headers : Header.Map)
  | plain (method path url : Option String) (headers : List (String × String))

namespace Request

def method? : Request → Option String
  | .standard method _ _ => some method
  | .plain method _ _ _ => method

def path? : Request → Option String
  | .standard _ target _ => target.path?
  | .plain _ path _ _ => path

def url? : Request → Option String
  | .standard _ target _ => some target.text
  | .plain _ _ url _ => url

def foldCase (text : String) : String :=
  String.ofList (text.toList.map Char.toLower)

def header? (request : Request) (name : String) : Option String :=
  match request with
  | .standard _ _ headers => Header.get? headers name
  | .plain _ _ _ headers =>
      (headers.find? fun field => foldCase field.1 == foldCase name).map Prod.snd

/-- The address of the client: the first part of the list of those that forwarded the
request, if it is an address. -/
def clientAddress? (request : Request) : Option Address := do
  let forwarded ← request.header? "x-forwarded-for"
  Address.ofList? (Blank.trimList (forwarded.toList.takeWhile (· != ',')))

def carrier : Request → Carrier
  | .standard _ _ headers => .headers headers
  | .plain _ _ _ headers => Carrier.emptyMap.setAll headers

end Request

structure RequestForm where
  method : Option String
  target : Option String
  path : Option String
  url : Option String
  headers : List (String × List UInt8)
  deriving DecidableEq, Repr

namespace RequestForm

def texts (form : RequestForm) : List (String × String) :=
  form.headers.filterMap fun field =>
    (String.fromUTF8? field.2.toByteArray).map fun text => (field.1, text)

/-- The request that the form describes, as a view looks at it.  A standard one
asks for the root unless the form says otherwise, and its header fields have to be
allowed. -/
def read (form : RequestForm) (view : View) : Except Failure Request :=
  match view with
  | .standard =>
      ((Header.appendAll .empty form.headers).mapError .request).map fun headers =>
        .standard (form.method.getD "GET") (.read (form.target.getD "/")) headers
  | .plain => .ok (.plain form.method form.path form.url form.texts)

end RequestForm

end SpanTrail.Http
