import SpanTrail.Agent
import SpanTrail.B3
import SpanTrail.Http.Request
import SpanTrail.Ledger

/-! The spans of requests on their way: the client makes a span and sends its context along, the
server takes it up, and each side ends its span with the response.  A labeling says how a span
is named and tagged after a request and its outcome. -/

namespace SpanTrail.Http

structure Fault where
  message : String
  details : String
  deriving DecidableEq, Repr

/-- A labeling: the standard one, one that names spans after the route, and one that
tags nothing but the status. -/
inductive Labeling where
  | standard
  | route
  | quiet
  deriving DecidableEq, Repr

namespace Labeling

def label : Labeling → String
  | .standard => "DefaultHttpParser"
  | .route => "RouteParser"
  | .quiet => "QuietParser"

def spanName? (labeling : Labeling) (request : Request) : Option String :=
  match labeling with
  | .route => request.method?.map fun method => method ++ " " ++ request.path?.getD "/"
  | _ => request.method?

def request (labeling : Labeling) (request : Request) : List Customization :=
  match labeling with
  | .quiet =>
      match request.method?, request.path? with
      | some method, some path => [.name (method ++ " " ++ path)]
      | _, _ => []
  | labeling =>
      ((labeling.spanName? request).map Customization.name).toList ++
        (request.path?.map (Customization.tag "http.path")).toList

def isSuccess (status : Nat) : Bool :=
  200 ≤ status && status ≤ 299

def isError (status : Nat) : Bool :=
  status < 200 || 399 < status

def faultText (fault : Fault) : String :=
  if fault.message.isEmpty then fault.details else fault.message

def error (labeling : Labeling) (status : Option Nat) (fault : Option Fault) :
    List Customization :=
  match labeling with
  | .quiet => []
  | _ =>
      match fault, status with
      | some fault, _ => [.tag "error" (faultText fault)]
      | none, some status => if isError status then [.tag "error" (toString status)] else []
      | none, none => []

def response (labeling : Labeling) (status : Option Nat) (fault : Option Fault) :
    List Customization :=
  let unusual := status.filter fun status => !isSuccess status
  (unusual.map fun status => .tag "http.status_code" (toString status)).toList ++
    labeling.error status fault

end Labeling

structure Settings where
  labeling : Labeling
  view : View
  serverName : Option String
  deriving DecidableEq, Repr

namespace Settings

/-- Settings with a server name, which counts only if it is not empty. -/
def create (labeling : Labeling) (view : View) (serverName : Option String) : Settings :=
  ⟨labeling, view, serverName.filter fun name => !name.isEmpty⟩

def describeClient (settings : Settings) : String :=
  Layout.record "HttpClientHandler"
    [("parser", settings.labeling.label), ("adapter", settings.view.label),
      ("server_name", Layout.optional Quoted.quote settings.serverName)]

def describeServer (settings : Settings) : String :=
  Layout.record "HttpServerHandler"
    [("parser", settings.labeling.label), ("adapter", settings.view.label)]

def emptyCarrier (settings : Settings) : Carrier :=
  match settings.view with
  | .standard => .emptyHeaders
  | .plain => .emptyMap

end Settings

def clientCalls (settings : Settings) (request : Request) : List SpanCall :=
  [.update (.kind .client)] ++ (settings.labeling.request request).map Customization.call ++
    (settings.serverName.map fun name => SpanCall.update (.remoteEndpoint (.named name))).toList ++
    [.start]

def serverCalls (settings : Settings) (request : Request) : List SpanCall :=
  [.update (.kind .server)] ++ (settings.labeling.request request).map Customization.call ++
    (request.clientAddress?.map fun address =>
      SpanCall.update (.remoteEndpoint (Endpoint.unknown.withAddress address))).toList ++
    [.start]

def clientSendWith (settings : Settings) (agent : Agent) (request : Request)
    (span : Span) : Agent :=
  agent.callAll span (clientCalls settings request)

/-- A client sends a request.  Its span follows the current one, and its context is
written into the carrier even if it is not recorded. -/
def clientSend (settings : Settings) (agent : Agent) (current : Option Context)
    (carrier : Carrier) (request : Request) : Span × Carrier × Agent :=
  let (span, agent) := agent.nextFrom current
  (span, B3.inject agent.encoding span.context carrier,
    clientSendWith settings agent request span)

def serverReceive (settings : Settings) (agent : Agent) (carrier : Carrier)
    (request : Request) : Span × Agent :=
  let (span, agent) :=
    match B3.extract carrier with
    | .whole context => agent.join context
    | lone => agent.next lone .undecided
  (span, agent.callAll span (serverCalls settings request))

/-- What the outcome of a request does to its span, which ends with it.  The status is
that of the response, if there is one and it is known. -/
def outcomeCalls (settings : Settings) (status : Option Nat) (fault : Option Fault) :
    List SpanCall :=
  (settings.labeling.response status fault).map Customization.call ++ [.finish]

def complete (settings : Settings) (agent : Agent) (status : Option Nat)
    (fault : Option Fault) (span : Span) : Agent :=
  agent.callAll span (outcomeCalls settings status fault)

end SpanTrail.Http
