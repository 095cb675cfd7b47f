import SpanTrail.Http.Exchange
import SpanTrail.Proofs.Agent.Creation

/-! Exchanges of a server that overlap.  An exchange draws its identities, resolves its
sampling state, registers its span and labels it, and after the response labels it again
and finishes it.  Each of these steps, down to a single call on the span, takes effect as a
whole, and the steps of different exchanges come in any order. -/

namespace SpanTrail

def SpanCall.update? (call : SpanCall) (now : Timestamp) : Option Update :=
  match call.at now with
  | .update change => some change
  | _ => none

namespace Http

/-- How far an exchange is, and which calls are left until the next stage. -/
inductive Stage where
  | drawn
  | resolved
  | labeling (left : List SpanCall)
  | closing (status : Option Nat) (fault : Option Fault) (left : List SpanCall)
  | ended (status : Option Nat) (fault : Option Fault) (time : Timestamp)
  deriving DecidableEq

/-- An exchange.  `made` lists the changes that its calls asked for, and `fresh` says
whether its registration found the key of its span absent. -/
structure Exchange where
  settings : Settings
  request : Request
  context : Context
  stage : Stage
  made : List Update
  fresh : Bool

/-- The context of the span that takes up what arrived, before its sampling state is
resolved. -/
def arrivedContext (agent : Agent) (carrier : Carrier) : Context × Agent :=
  match B3.extract carrier with
  | .whole context =>
      if agent.joins then ({ context with shared := true }, agent)
      else agent.childContext context
  | .lone sampling =>
      let (root, agent) := agent.rootContext
      ({ root with sampling := sampling }, agent)

def takenUp (agent : Agent) (carrier : Carrier) : Span × Agent :=
  match B3.extract carrier with
  | .whole context => agent.join context
  | lone => agent.next lone .undecided

namespace Exchange

def arrive (settings : Settings) (agent : Agent) (carrier : Carrier) (request : Request) :
    Exchange × Agent :=
  let (context, agent) := arrivedContext agent carrier
  (⟨settings, request, context, .drawn, [], false⟩, agent)

def span (exchange : Exchange) : Span :=
  Agent.handle exchange.context

def recorded (exchange : Exchange) : Bool :=
  exchange.context.sampling.records

def note (exchange : Exchange) (now : Timestamp) (call : SpanCall) (stage : Stage) : Exchange :=
  { exchange with
    stage := stage
    made := exchange.made ++ (call.update? now).toList }

/-- The next step of an exchange, until it waits for its response or has ended. -/
def advance (exchange : Exchange) (agent : Agent) : Exchange × Agent :=
  match exchange.stage with
  | .drawn =>
      let (sampling, agent) :=
        agent.resolve exchange.context.traceId .undecided exchange.context.sampling
      ({ exchange with
          context := exchange.context.withSampling sampling
          stage := .resolved },
        agent)
  | .resolved =>
      ({ exchange with
          stage := .labeling (serverCalls exchange.settings exchange.request)
          fresh := exchange.recorded && !agent.ledger.tracks exchange.context },
        (agent.enter exchange.context).2)
  | .labeling (call :: left) =>
      (exchange.note agent.clock call (.labeling left), agent.call exchange.span call)
  | .closing status fault (call :: left) =>
      (exchange.note agent.clock call (.closing status fault left),
        agent.call exchange.span call)
  | .closing status fault [] =>
      ({ exchange with stage := .ended status fault agent.clock },
        agent.call exchange.span .finish)
  | .labeling [] => (exchange, agent)
  | .ended _ _ _ => (exchange, agent)

def respond (exchange : Exchange) (status : Option Nat) (fault : Option Fault) : Exchange :=
  match exchange.stage with
  | .labeling [] =>
      { exchange with
        stage := .closing status fault
          ((exchange.settings.labeling.response status fault).map Customization.call) }
  | _ => exchange

end Exchange

structure Traffic where
  agent : Agent
  exchanges : List Exchange

inductive TrafficStep where
  | receive (settings : Settings) (carrier : Carrier) (request : Request)
  | advance (number : Nat)
  | respond (number : Nat) (status : Option Nat) (fault : Option Fault)
  | clock (time : Timestamp)

namespace Traffic

def onAgent (agent : Agent) : Traffic :=
  ⟨agent, []⟩

def onExchange (traffic : Traffic) (number : Nat)
    (act : Exchange → Agent → Exchange × Agent) : Traffic :=
  match traffic.exchanges[number]? with
  | none => traffic
  | some exchange =>
      let (next, agent) := act exchange traffic.agent
      ⟨agent, traffic.exchanges.set number next⟩

def step (traffic : Traffic) : TrafficStep → Traffic
  | .receive settings carrier request =>
      let (exchange, agent) := Exchange.arrive settings traffic.agent carrier request
      ⟨agent, traffic.exchanges ++ [exchange]⟩
  | .advance number => traffic.onExchange number Exchange.advance
  | .respond number status fault =>
      traffic.onExchange number fun exchange agent => (exchange.respond status fault, agent)
  | .clock time => { traffic with agent := traffic.agent.setClock time }

def run (traffic : Traffic) (steps : List TrafficStep) : Traffic :=
  steps.foldl step traffic

end Traffic

/-! ### Exchanges that are not interrupted -/

namespace Exchange

def advanceBy (exchange : Exchange) (agent : Agent) : (count : Nat) → Exchange × Agent
  | 0 => (exchange, agent)
  | count + 1 =>
      let next := exchange.advance agent
      next.1.advanceBy next.2 count

theorem advanceBy_add (exchange : Exchange) (agent : Agent) (first second : Nat) :
    exchange.advanceBy agent (first + second) =
      (exchange.advanceBy agent first).1.advanceBy (exchange.advanceBy agent first).2 second := by
  induction first generalizing exchange agent with
  | zero => rw [Nat.zero_add, advanceBy]
  | succ first ih => rw [Nat.succ_add, advanceBy, advanceBy, ih]

theorem advanceBy_labeling {exchange : Exchange} {left : List SpanCall} (agent : Agent)
    (stage : exchange.stage = .labeling left) :
    ∃ made, exchange.advanceBy agent left.length =
      ({ exchange with stage := .labeling [], made := made },
        agent.callAll exchange.span left) := by
  induction left generalizing exchange agent with
  | nil =>
      refine ⟨exchange.made, ?_⟩
      rw [← stage]
      rfl
  | cons call left ih =>
      let next := exchange.note agent.clock call (.labeling left)
      obtain ⟨made, done⟩ := ih (agent.call exchange.span call) (rfl : next.stage = .labeling left)
      have first : exchange.advance agent = (next, agent.call exchange.span call) := by
        unfold advance
        rw [stage]
      refine ⟨made, ?_⟩
      rw [List.length_cons, advanceBy, first]
      exact done

theorem advanceBy_closing {exchange : Exchange} {status : Option Nat} {fault : Option Fault}
    {left : List SpanCall} (agent : Agent) (stage : exchange.stage = .closing status fault left) :
    ∃ made time, exchange.advanceBy agent (left.length + 1) =
      ({ exchange with stage := .ended status fault time, made := made },
        agent.callAll exchange.span (left ++ [.finish])) := by
  induction left generalizing exchange agent with
  | nil =>
      refine ⟨exchange.made, agent.clock, ?_⟩
      rw [List.length_nil, advanceBy, advanceBy]
      unfold advance
      rw [stage]
      rfl
  | cons call left ih =>
      let next := exchange.note agent.clock call (.closing status fault left)
      obtain ⟨made, time, done⟩ :=
        ih (agent.call exchange.span call) (rfl : next.stage = .closing status fault left)
      have first : exchange.advance agent = (next, agent.call exchange.span call) := by
        unfold advance
        rw [stage]
      refine ⟨made, time, ?_⟩
      rw [List.length_cons, advanceBy, first]
      exact done

theorem advanceBy_drawn {exchange : Exchange} (agent : Agent) (stage : exchange.stage = .drawn) :
    let taken := exchange.advanceBy agent 2
    taken.1.stage = .labeling (serverCalls exchange.settings exchange.request) ∧
      (taken.1.span, taken.2) =
        agent.enterResolved exchange.context .undecided exchange.context.sampling := by
  intro taken
  let resolved := agent.resolve exchange.context.traceId .undecided exchange.context.sampling
  let next : Exchange :=
    { exchange with
      context := exchange.context.withSampling resolved.1
      stage := .resolved }
  have isNext : exchange.advance agent = (next, resolved.2) := by
    unfold advance
    rw [stage]
  have isTaken : taken = next.advance resolved.2 := by
    change (exchange.advance agent).1.advance (exchange.advance agent).2 = _
    rw [isNext]
  rw [isTaken]
  refine ⟨rfl, ?_⟩
  exact Prod.ext (resolved.2.enter_span next.context).symm rfl

theorem takenUp_eq (agent : Agent) (carrier : Carrier) :
    takenUp agent carrier =
      (arrivedContext agent carrier).2.enterResolved (arrivedContext agent carrier).1 .undecided
        (arrivedContext agent carrier).1.sampling := by
  unfold takenUp arrivedContext
  cases B3.extract carrier with
  | lone sampling =>
      change agent.rootContext.2.enterResolved agent.rootContext.1 .undecided sampling =
        agent.rootContext.2.enterResolved { agent.rootContext.1 with sampling := sampling }
          .undecided sampling
      unfold Agent.enterResolved
      simp only [Context.withSampling_eq]
  | whole context =>
      unfold Agent.join
      cases agent.joins with
      | false => rfl
      | true =>
          change (agent.resolve context.traceId .undecided context.sampling).2.enter
            ((context.withSampling _).withShared true) = _
          rw [Context.withSampling_eq]
          change _ = (agent.resolve context.traceId .undecided context.sampling).2.enter
            (Context.withSampling { context with shared := true } _)
          rw [Context.withSampling_eq]
          rfl

theorem serverReceive_eq (settings : Settings) (agent : Agent) (carrier : Carrier)
    (request : Request) :
    serverReceive settings agent carrier request =
      ((takenUp agent carrier).1,
        (takenUp agent carrier).2.callAll (takenUp agent carrier).1
          (serverCalls settings request)) :=
  rfl

/-- An exchange that is received without a break does what the server does. -/
theorem arrive_serverReceive (settings : Settings) (agent : Agent) (carrier : Carrier)
    (request : Request) :
    let arrived := arrive settings agent carrier request
    let received := arrived.1.advanceBy arrived.2 (2 + (serverCalls settings request).length)
    received.1.stage = .labeling [] ∧
      (received.1.span, received.2) = serverReceive settings agent carrier request := by
  intro arrived received
  obtain ⟨stage, taken⟩ := advanceBy_drawn arrived.2 (rfl : arrived.1.stage = .drawn)
  obtain ⟨made, labeled⟩ := advanceBy_labeling (arrived.1.advanceBy arrived.2 2).2 stage
  have isReceived : received = _ := (advanceBy_add arrived.1 arrived.2 2 _).trans labeled
  rw [isReceived, serverReceive_eq, takenUp_eq]
  refine ⟨rfl, ?_⟩
  exact congrArg
    (fun entered : Span × Agent =>
      (entered.1, entered.2.callAll entered.1 (serverCalls settings request))) taken

theorem respond_complete {exchange : Exchange} (stage : exchange.stage = .labeling [])
    (agent : Agent) (status : Option Nat) (fault : Option Fault) :
    let count := (outcomeCalls exchange.settings status fault).length
    ((exchange.respond status fault).advanceBy agent count).2 =
      complete exchange.settings agent status fault exchange.span := by
  intro count
  have answered : exchange.respond status fault =
      { exchange with
        stage := .closing status fault
          ((exchange.settings.labeling.response status fault).map Customization.call) } := by
    unfold respond
    rw [stage]
  obtain ⟨made, time, done⟩ :=
    advanceBy_closing agent (congrArg Exchange.stage answered)
  have counted : count =
      ((exchange.settings.labeling.response status fault).map Customization.call).length + 1 :=
    List.length_append
  rw [counted, done, answered]
  rfl

end Exchange

end Http

end SpanTrail
