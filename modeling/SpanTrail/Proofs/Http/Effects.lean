import SpanTrail.Proofs.Http.Relay
import SpanTrail.Proofs.Http.Traffic
import SpanTrail.Proofs.Ledger.Settlement
import SpanTrail.Proofs.Ledger.Report

/-! What the steps of exchanges do.  A step of one exchange makes at most one call on the
ledger, for the span of that exchange, and nothing else does. -/

namespace SpanTrail

def Customization.tag? : Customization → Option (String × String)
  | .tag key value => some (key, value)
  | _ => none

def SpanCall.tag? : SpanCall → Option (String × String)
  | .update change => change.tag?
  | _ => none

theorem SpanCall.update?_goesOn {call : SpanCall} (goesOn : call.isEnding = false)
    (now : Timestamp) :
    ∃ change, call.at now = .update change ∧ call.update? now = some change ∧
      change.tag? = call.tag? := by
  cases call with
  | start => exact ⟨_, rfl, rfl, rfl⟩
  | annotate value => exact ⟨_, rfl, rfl, rfl⟩
  | update change => exact ⟨_, rfl, rfl, rfl⟩
  | finish => cases goesOn
  | conclude ending => cases goesOn

theorem filterMap_tag?_calls (customizations : List Customization) :
    (customizations.map Customization.call).filterMap SpanCall.tag? =
      customizations.filterMap Customization.tag? := by
  rw [List.filterMap_map]
  congr
  funext customization
  cases customization <;> rfl

namespace Http

def requestTags (settings : Settings) (request : Request) : List (String × String) :=
  (settings.labeling.request request).filterMap Customization.tag?

def responseTags (settings : Settings) (status : Option Nat) (fault : Option Fault) :
    List (String × String) :=
  (settings.labeling.response status fault).filterMap Customization.tag?

theorem filterMap_tag?_serverCalls (settings : Settings) (request : Request) :
    (serverCalls settings request).filterMap SpanCall.tag? = requestTags settings request := by
  have untagged : (request.clientAddress?.map fun address => SpanCall.update
      (.remoteEndpoint (Endpoint.unknown.withAddress address))).toList.filterMap
        SpanCall.tag? = [] := by
    cases request.clientAddress? <;> rfl
  unfold serverCalls
  rw [List.filterMap_append, List.filterMap_append, List.filterMap_append, untagged,
    filterMap_tag?_calls, List.append_nil]
  exact List.append_nil _

namespace Exchange

def key (exchange : Exchange) : SpanKey :=
  exchange.context.key

def isEnded (exchange : Exchange) : Bool :=
  match exchange.stage with
  | .ended _ _ _ => true
  | _ => false

/-- The changes to the span while it is in flight: from its registration to its end, unless
it is idle. -/
def inFlight? (exchange : Exchange) : Option (List Update) :=
  match exchange.stage with
  | .labeling _ => if exchange.recorded then some exchange.made else none
  | .closing _ _ _ => if exchange.recorded then some exchange.made else none
  | _ => none

/-- The record that is due to the exchange, of nothing but its own calls. -/
def record? (endpoint : Endpoint) (exchange : Exchange) : Option SpanRecord :=
  match exchange.stage with
  | .ended _ _ time =>
      if exchange.recorded then
        some (.ofLifetime endpoint exchange.made exchange.context (.finish time))
      else none
  | _ => none

def ownTags (exchange : Exchange) : List (String × String) :=
  requestTags exchange.settings exchange.request ++
    match exchange.stage with
    | .closing status fault _ => responseTags exchange.settings status fault
    | .ended status fault _ => responseTags exchange.settings status fault
    | _ => []

/-- The calls that are left until the next stage go on with the span, and their tags are
those that it does not have yet. -/
structure Labels (exchange : Exchange) (left : List SpanCall) : Prop where
  goesOn : ∀ call ∈ left, call.isEnding = false
  tags : exchange.made.filterMap Update.tag? ++ left.filterMap SpanCall.tag? = exchange.ownTags

def Planned (exchange : Exchange) : Prop :=
  match exchange.stage with
  | .drawn => exchange.made = [] ∧ exchange.fresh = false
  | .resolved => exchange.made = [] ∧ exchange.fresh = false
  | .labeling left => exchange.Labels left
  | .closing _ _ left => exchange.Labels left
  | .ended _ _ _ => exchange.Labels []

theorem arrive_planned (settings : Settings) (agent : Agent) (carrier : Carrier)
    (request : Request) : (arrive settings agent carrier request).1.Planned :=
  ⟨rfl, rfl⟩

theorem Labels.note {exchange : Exchange} {call : SpanCall} {left : List SpanCall}
    (labels : exchange.Labels (call :: left)) (now : Timestamp) {stage : Stage}
    (same : (exchange.note now call stage).ownTags = exchange.ownTags) :
    (exchange.note now call stage).Labels left := by
  obtain ⟨change, _, made, tag⟩ :=
    SpanCall.update?_goesOn (labels.goesOn call List.mem_cons_self) now
  refine ⟨fun later member => labels.goesOn later (List.mem_cons_of_mem _ member), ?_⟩
  rw [same, ← labels.tags]
  unfold Exchange.note
  rw [made]
  simp only [Option.toList_some, List.filterMap_append, List.filterMap_cons, tag,
    List.filterMap_nil]
  cases call.tag? <;> simp

theorem advance_planned {exchange : Exchange} (planned : exchange.Planned) (agent : Agent) :
    (exchange.advance agent).1.Planned := by
  obtain ⟨settings, request, context, stage, made, fresh⟩ := exchange
  cases stage with
  | drawn => exact planned
  | resolved =>
      refine ⟨serverCalls_goOn settings request, ?_⟩
      change made.filterMap Update.tag? ++ (serverCalls settings request).filterMap SpanCall.tag? =
        requestTags settings request ++ []
      have unmade : made = [] := planned.1
      rw [unmade, filterMap_tag?_serverCalls, List.append_nil]
      rfl
  | labeling left =>
      cases left with
      | nil => exact planned
      | cons call left => exact Labels.note planned agent.clock rfl
  | closing status fault left =>
      cases left with
      | nil => exact ⟨fun _ => nofun, planned.tags⟩
      | cons call left => exact Labels.note planned agent.clock rfl
  | ended status fault time => exact planned

theorem respond_planned {exchange : Exchange} (planned : exchange.Planned)
    (status : Option Nat) (fault : Option Fault) : (exchange.respond status fault).Planned := by
  obtain ⟨settings, request, context, stage, made, fresh⟩ := exchange
  cases stage with
  | labeling left =>
      cases left with
      | nil =>
          refine ⟨?_, ?_⟩
          · intro call member
            obtain ⟨customization, _, rfl⟩ := List.mem_map.mp member
            exact customization_goesOn customization
          · have tags : made.filterMap Update.tag? ++ [] = requestTags settings request ++ [] :=
              planned.tags
            rw [List.append_nil, List.append_nil] at tags
            rw [filterMap_tag?_calls]
            change made.filterMap Update.tag? ++ _ = _
            rw [tags]
            rfl
      | cons call left => exact planned
  | drawn | resolved | closing _ _ _ | ended _ _ _ => exact planned

end Exchange

/-! ### What a step does to the ledger -/

structure Called (before after : Agent) (context : Context) (call : LedgerCall) : Prop where
  ledger : after.ledger = (before.ledger.perform context call).1
  records : after.journal.records =
    before.journal.records ++ (before.ledger.perform context call).2.records

inductive Advanced (before after : Agent) (exchange next : Exchange) : Prop where
  | quiet (ledger : after.ledger = before.ledger)
      (records : after.journal.records = before.journal.records)
      (inFlight : next.inFlight? = exchange.inFlight?) (fresh : next.fresh = exchange.fresh)
      (record : ∀ endpoint, next.record? endpoint = exchange.record? endpoint)
  | registers (called : Called before after exchange.context .register)
      (absent : exchange.inFlight? = none) (inFlight : next.inFlight? = some [])
      (unregistered : exchange.fresh = false)
      (fresh : next.fresh = !before.ledger.tracks exchange.context)
      (record : ∀ endpoint, next.record? endpoint = exchange.record? endpoint)
  | notes (change : Update) (changes : List Update)
      (called : Called before after exchange.context (.update change))
      (present : exchange.inFlight? = some changes)
      (inFlight : next.inFlight? = some (changes ++ [change]))
      (fresh : next.fresh = exchange.fresh)
      (record : ∀ endpoint, next.record? endpoint = exchange.record? endpoint)
  | finishes (time : Timestamp) (changes : List Update)
      (called : Called before after exchange.context (.conclude (.finish time)))
      (present : exchange.inFlight? = some changes) (inFlight : next.inFlight? = none)
      (fresh : next.fresh = exchange.fresh)
      (due : ∀ endpoint, exchange.record? endpoint = none)
      (record : ∀ endpoint, next.record? endpoint =
        some (.ofLifetime endpoint changes exchange.context (.finish time)))

namespace Exchange

theorem call_called (agent : Agent) {exchange : Exchange} (recorded : exchange.recorded = true)
    (call : SpanCall) :
    Called agent (agent.call exchange.span call) exchange.context (call.at agent.clock) := by
  have awake : exchange.span.idle = false := by
    unfold Exchange.span
    rw [Agent.handle_recorded recorded]
  obtain ⟨ledger, records⟩ := agent.call_recorded awake call
  exact ⟨ledger, records⟩

theorem call_unrecorded (agent : Agent) {exchange : Exchange}
    (unrecorded : exchange.recorded = false) (call : SpanCall) :
    agent.call exchange.span call = agent := by
  apply agent.call_idle
  unfold Exchange.span Agent.handle
  change (!exchange.recorded) = true
  rw [unrecorded]
  rfl

theorem enter_advanced {exchange : Exchange} (agent : Agent) (stage : exchange.stage = .resolved)
    (unmade : exchange.made = []) (unregistered : exchange.fresh = false) :
    Advanced agent (agent.enter exchange.context).2 exchange
      { exchange with
        stage := .labeling (serverCalls exchange.settings exchange.request)
        fresh := exchange.recorded && !agent.ledger.tracks exchange.context } := by
  have before : exchange.inFlight? = none := by
    unfold inFlight?
    rw [stage]
  have record (endpoint : Endpoint) : exchange.record? endpoint = none := by
    unfold record?
    rw [stage]
  cases recorded : exchange.recorded with
  | false =>
      have idle : (agent.enter exchange.context).2 = agent := by rw [agent.enter_idle recorded]
      rw [idle]
      refine .quiet rfl rfl ?_ unregistered.symm fun endpoint => (record endpoint).symm
      rw [before]
      exact if_neg (ne_true_of_eq_false recorded)
  | true =>
      have entered := agent.enter_recorded recorded
      refine .registers ⟨?_, ?_⟩ before ?_ unregistered (Bool.true_and _)
        fun endpoint => (record endpoint).symm
      · exact congrArg (fun pair => pair.2.ledger) entered
      · change (agent.enter exchange.context).2.journal.records = agent.journal.records ++ []
        rw [agent.enter_journal, List.append_nil]
      · rw [← unmade]
        exact if_pos recorded

theorem note_advanced {exchange : Exchange} {call : SpanCall} (goesOn : call.isEnding = false)
    (agent : Agent) {stage : Stage}
    (before : exchange.inFlight? = if exchange.recorded then some exchange.made else none)
    (after : (exchange.note agent.clock call stage).inFlight? =
      if exchange.recorded then some (exchange.note agent.clock call stage).made else none)
    (record : ∀ endpoint,
      (exchange.note agent.clock call stage).record? endpoint = exchange.record? endpoint) :
    Advanced agent (agent.call exchange.span call) exchange
      (exchange.note agent.clock call stage) := by
  cases recorded : exchange.recorded with
  | false =>
      rw [call_unrecorded agent recorded]
      rw [recorded] at before after
      exact .quiet rfl rfl (after.trans before.symm) rfl record
  | true =>
      obtain ⟨change, isUpdate, made, _⟩ := SpanCall.update?_goesOn goesOn agent.clock
      have called := call_called agent recorded call
      rw [isUpdate] at called
      rw [recorded] at before after
      refine .notes change exchange.made called before ?_ rfl record
      rw [after]
      unfold Exchange.note
      rw [made]
      rfl

theorem finish_advanced {exchange : Exchange} (agent : Agent) {status : Option Nat}
    {fault : Option Fault} (stage : exchange.stage = .closing status fault []) :
    Advanced agent (agent.call exchange.span .finish) exchange
      { exchange with stage := .ended status fault agent.clock } := by
  have before : exchange.inFlight? = if exchange.recorded then some exchange.made else none := by
    unfold inFlight?
    rw [stage]
  have due (endpoint : Endpoint) : exchange.record? endpoint = none := by
    unfold record?
    rw [stage]
  cases recorded : exchange.recorded with
  | false =>
      rw [call_unrecorded agent recorded]
      rw [recorded] at before
      refine .quiet rfl rfl before.symm rfl ?_
      intro endpoint
      rw [due]
      exact if_neg (ne_true_of_eq_false recorded)
  | true =>
      rw [recorded] at before
      refine .finishes agent.clock exchange.made (call_called agent recorded .finish) before rfl rfl
        due ?_
      intro endpoint
      exact if_pos recorded

theorem advance_advanced {exchange : Exchange} (planned : exchange.Planned) (agent : Agent) :
    Advanced agent (exchange.advance agent).2 exchange (exchange.advance agent).1 := by
  obtain ⟨settings, request, context, stage, made, fresh⟩ := exchange
  cases stage with
  | drawn =>
      obtain ⟨ledger, records⟩ :=
        agent.resolve_ledger context.traceId .undecided context.sampling
      exact .quiet ledger records rfl rfl fun _ => rfl
  | resolved =>
      obtain ⟨unmade, unregistered⟩ : made = [] ∧ fresh = false := planned
      exact enter_advanced agent rfl unmade unregistered
  | labeling left =>
      cases left with
      | nil => exact .quiet rfl rfl rfl rfl fun _ => rfl
      | cons call left =>
          exact note_advanced (planned.goesOn call List.mem_cons_self) agent rfl rfl fun _ => rfl
  | closing status fault left =>
      cases left with
      | cons call left =>
          exact note_advanced (planned.goesOn call List.mem_cons_self) agent rfl rfl fun _ => rfl
      | nil => exact finish_advanced agent rfl
  | ended status fault time => exact .quiet rfl rfl rfl rfl fun _ => rfl

theorem respond_advanced (exchange : Exchange) (agent : Agent) (status : Option Nat)
    (fault : Option Fault) : Advanced agent agent exchange (exchange.respond status fault) := by
  obtain ⟨settings, request, context, stage, made, fresh⟩ := exchange
  cases stage with
  | labeling left =>
      cases left with
      | nil => exact .quiet rfl rfl rfl rfl fun _ => rfl
      | cons call left => exact .quiet rfl rfl rfl rfl fun _ => rfl
  | drawn | resolved | closing _ _ _ | ended _ _ _ => exact .quiet rfl rfl rfl rfl fun _ => rfl

theorem advance_key (exchange : Exchange) (agent : Agent) :
    (exchange.advance agent).1.key = exchange.key := by
  obtain ⟨settings, request, context, stage, made, fresh⟩ := exchange
  cases stage with
  | drawn =>
      change (context.withSampling _).key = context.key
      rw [Context.withSampling_eq]
      rfl
  | resolved | ended _ _ _ => rfl
  | labeling left | closing _ _ left => cases left <;> rfl

theorem respond_key (exchange : Exchange) (status : Option Nat) (fault : Option Fault) :
    (exchange.respond status fault).key = exchange.key := by
  obtain ⟨settings, request, context, stage, made, fresh⟩ := exchange
  cases stage with
  | labeling left => cases left <;> rfl
  | drawn | resolved | closing _ _ _ | ended _ _ _ => rfl

end Exchange

inductive Changed (before after : Traffic) : Prop where
  | advanced (older newer : List Exchange) (exchange next : Exchange)
      (split : before.exchanges = older ++ exchange :: newer)
      (spliced : after.exchanges = older ++ next :: newer) (key : next.key = exchange.key)
      (planned : next.Planned)
      (effect : Advanced before.agent after.agent exchange next)
  | arrived (exchange : Exchange) (added : after.exchanges = before.exchanges ++ [exchange])
      (stage : exchange.stage = .drawn) (planned : exchange.Planned)
      (ledger : after.agent.ledger = before.agent.ledger)
      (records : after.agent.journal.records = before.agent.journal.records)
  | kept (exchanges : after.exchanges = before.exchanges)
      (ledger : after.agent.ledger = before.agent.ledger)
      (records : after.agent.journal.records = before.agent.journal.records)

theorem arrivedContext_ledger (agent : Agent) (carrier : Carrier) :
    (arrivedContext agent carrier).2.ledger = agent.ledger ∧
      (arrivedContext agent carrier).2.journal = agent.journal := by
  unfold arrivedContext
  cases B3.extract carrier with
  | lone sampling => exact ⟨agent.freshTraceId_ledger.1, agent.freshTraceId_ledger.2.2⟩
  | whole context =>
      cases agent.joins with
      | true => exact ⟨rfl, rfl⟩
      | false => exact ⟨agent.freshSpanId_ledger.1, agent.freshSpanId_ledger.2.2⟩

theorem Traffic.onExchange_changed (traffic : Traffic) (number : Nat)
    {act : Exchange → Agent → Exchange × Agent}
    (acts : ∀ exchange ∈ traffic.exchanges,
      (act exchange traffic.agent).1.key = exchange.key ∧
        (act exchange traffic.agent).1.Planned ∧
        Advanced traffic.agent (act exchange traffic.agent).2 exchange
          (act exchange traffic.agent).1) :
    Changed traffic (traffic.onExchange number act) := by
  unfold onExchange
  cases found : traffic.exchanges[number]? with
  | none => exact .kept rfl rfl rfl
  | some exchange =>
      obtain ⟨inRange, isExchange⟩ := List.getElem?_eq_some_iff.mp found
      obtain ⟨older, newer, split, _, spliced⟩ :=
        @List.exists_of_set _ number (act exchange traffic.agent).1 _ inRange
      rw [isExchange] at split
      obtain ⟨key, planned, effect⟩ := acts exchange (List.mem_of_getElem? found)
      exact .advanced older newer exchange _ split spliced key planned effect

theorem Traffic.step_changed {traffic : Traffic}
    (planned : ∀ exchange ∈ traffic.exchanges, exchange.Planned) (step : TrafficStep) :
    Changed traffic (traffic.step step) := by
  cases step with
  | receive settings carrier request =>
      obtain ⟨ledger, journal⟩ := arrivedContext_ledger traffic.agent carrier
      exact .arrived _ rfl rfl (Exchange.arrive_planned settings traffic.agent carrier request)
        ledger (congrArg Journal.records journal)
  | advance number =>
      change Changed traffic (traffic.onExchange number Exchange.advance)
      apply traffic.onExchange_changed
      intro exchange member
      have its := planned exchange member
      exact ⟨exchange.advance_key traffic.agent, Exchange.advance_planned its traffic.agent,
        Exchange.advance_advanced its traffic.agent⟩
  | respond number status fault =>
      change Changed traffic (traffic.onExchange number fun exchange agent =>
        (exchange.respond status fault, agent))
      apply traffic.onExchange_changed
      intro exchange member
      exact ⟨exchange.respond_key status fault,
        Exchange.respond_planned (planned exchange member) status fault,
        exchange.respond_advanced traffic.agent status fault⟩
  | clock time => exact .kept rfl rfl rfl

end Http

end SpanTrail
