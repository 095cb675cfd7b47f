import Mathlib.Data.List.TakeWhile
import SpanTrail.Proofs.Address.Text
import SpanTrail.Proofs.Agent.Course
import SpanTrail.Proofs.B3.Text
import SpanTrail.Proofs.Http.Traffic

/-! What is reported of an exchange.  On either side a span is made and labeled with the
request, and labeled with the outcome and finished later.  If nobody else uses the key of the
span, one record is reported, which shows the request, the outcome and the two times and
nothing else, and none is reported of a span that is not recorded. -/

namespace SpanTrail

namespace Http

namespace Request

/-- The address of a client is read off the field that names it, if this has neither blanks nor
another part. -/
theorem clientAddress?_forwarded {text : List Char}
    (visible : ∀ character ∈ text, Blank.isBlank character = false ∧ character ≠ ',')
    (method path : Option String) :
    (plain method path none [("x-forwarded-for", String.ofList text)]).clientAddress? =
      Address.ofList? text := by
  have found : (plain method path none [("x-forwarded-for", String.ofList text)]).header?
      "x-forwarded-for" = some (String.ofList text) := by
    simp only [header?, List.find?_cons, beq_self_eq_true, Option.map_some]
  have whole : text.takeWhile (· != ',') = text := by
    rw [List.takeWhile_eq_self_iff]
    intro character member
    exact bne_iff_ne.mpr (visible character member).2
  unfold clientAddress?
  rw [found]
  change Address.ofList? (Blank.trimList ((String.ofList text).toList.takeWhile (· != ','))) = _
  rw [String.toList_ofList, whole]
  rw [B3.trimList_eq fun character member => (visible character member).1]

theorem visible_of_address {character : Char}
    (inAddress : character = '.' ∨ character = ':' ∨ Hex.isLowerDigit character = true) :
    Blank.isBlank character = false ∧ character ≠ ',' := by
  rcases inAddress with rfl | rfl | isDigit
  · decide
  · decide
  · rw [Hex.isLowerDigit_iff] at isDigit
    constructor
    · apply B3.not_isBlank
      · omega
      · omega
    · rintro rfl
      revert isDigit
      decide

theorem exists_visible (address : Address) :
    ∃ text : List Char, (∀ character ∈ text, Blank.isBlank character = false ∧ character ≠ ',') ∧
      Address.ofList? text = some address := by
  cases address with
  | v4 address =>
      refine ⟨address.toList, ?_, ?_⟩
      · intro character member
        apply visible_of_address
        rcases IPv4.mem_toList member with isPoint | isDigit
        · exact .inl isPoint
        · have range := Char.isDigit_iff_toNat.mp isDigit
          exact .inr (.inr ((Hex.isLowerDigit_iff character).mpr (.inl range)))
      · unfold Address.ofList?
        rw [IPv4.ofList?_toList]
        rfl
  | v6 address =>
      -- All groups are written out, so that no part looks like an address of 32 bits.
      have characters : ∀ character ∈ IPv6.joined address.toGroups,
          character = ':' ∨ Hex.isLowerDigit character = true := by
        intro character member
        rcases Lists.mem_intercalate member with isColon | ⟨group, isGroup, inGroup⟩
        · exact .inl isColon
        · obtain ⟨number, _, rfl⟩ := List.mem_map.mp isGroup
          exact .inr (Hex.isLowerDigit_of_mem_digits inGroup)
      refine ⟨IPv6.joined address.toGroups, ?_, ?_⟩
      · intro character member
        exact visible_of_address (.inr (characters character member))
      · generalize isText : IPv6.joined address.toGroups = text at characters
        have split : text.splitOn '.' = [text] := by
          have whole : ['.'].intercalate [text] = text := List.intercalate_singleton
          conv_lhs => rw [← whole]
          apply List.splitOn_intercalate
          · intro part isText isPoint
            rw [List.mem_singleton.mp isText] at isPoint
            rcases characters _ isPoint with isColon | isDigit
            · cases isColon
            · cases isDigit
          · nofun
        unfold Address.ofList? IPv4.ofList?
        rw [split, ← isText, IPv6.ofList?_joined, IPv6.ofGroups?_toGroups]
        rfl

/-- Any method, path and address of a client are those of some request. -/
theorem exists_of_answers (method path : Option String) (address : Option Address) :
    ∃ request : Request, request.method? = method ∧ request.path? = path ∧
      request.clientAddress? = address := by
  cases address with
  | none => exact ⟨plain method path none [], rfl, rfl, rfl⟩
  | some address =>
      obtain ⟨text, visible, isText⟩ := exists_visible address
      exact ⟨plain method path none [("x-forwarded-for", String.ofList text)], rfl, rfl,
        (clientAddress?_forwarded visible method path).trans isText⟩

end Request

/-! ### The two sides -/

/-- A side of an exchange: a client, with what is current and the carrier of its request, or a
server with the carrier that it received. -/
inductive Side where
  | client (current : Option Context) (carrier : Carrier)
  | server (carrier : Carrier)

namespace Side

def kind : Side → Kind
  | .client _ _ => .client
  | .server _ => .server

def remote? (side : Side) (settings : Settings) (request : Request) : Option Endpoint :=
  match side with
  | .client _ _ => settings.serverName.map Endpoint.named
  | .server _ => request.clientAddress?.map Endpoint.unknown.withAddress

def make (side : Side) (agent : Agent) : Span × Agent :=
  match side with
  | .client current _ => agent.nextFrom current
  | .server carrier => takenUp agent carrier

def calls (side : Side) (settings : Settings) (request : Request) : List SpanCall :=
  match side with
  | .client _ _ => clientCalls settings request
  | .server _ => serverCalls settings request

def begin (side : Side) (settings : Settings) (agent : Agent) (request : Request) :
    Span × Agent :=
  match side with
  | .client current carrier =>
      let sent := clientSend settings agent current carrier request
      (sent.1, sent.2.2)
  | .server carrier => serverReceive settings agent carrier request

theorem begin_eq (side : Side) (settings : Settings) (agent : Agent) (request : Request) :
    side.begin settings agent request =
      ((side.make agent).1,
        (side.make agent).2.callAll (side.make agent).1 (side.calls settings request)) := by
  cases side with
  | client current carrier => rfl
  | server carrier => exact Exchange.serverReceive_eq settings agent carrier request

theorem make_eq_perform (side : Side) (agent : Agent) :
    ∃ (asked : SpanRequest) (current : Option Context), asked.makes = true ∧
      side.make agent = asked.perform agent current := by
  cases side with
  | client current carrier => exact ⟨.nextFromCurrent, current, rfl, rfl⟩
  | server carrier =>
      change ∃ (asked : SpanRequest) (current : Option Context), asked.makes = true ∧
        takenUp agent carrier = asked.perform agent current
      unfold takenUp
      cases B3.extract carrier with
      | whole context => exact ⟨.join context, none, rfl, rfl⟩
      | lone sampling => exact ⟨.next (.lone sampling), none, rfl, rfl⟩

end Side

def statusText? (status : Option Nat) : Option String :=
  (status.filter fun status => status < 200 ∨ 299 < status).map toString

def errorText? (status : Option Nat) : Option Fault → Option String
  | some fault => some (if fault.message = "" then fault.details else fault.message)
  | none => (status.filter fun status => status < 200 ∨ 399 < status).map toString

def dueTag? (request : Request) (status : Option Nat) (fault : Option Fault) (name : String) :
    Option String :=
  if name = "http.path" then request.path?
  else if name = "http.status_code" then statusText? status
  else if name = "error" then errorText? status fault
  else none

/-- What the record of an exchange shows. -/
structure Reported (settings : Settings) (side : Side) (request : Request)
    (status : Option Nat) (fault : Option Fault) (context : Context) (began ended : Timestamp)
    (record : SpanRecord) : Prop where
  key : record.key = context.key
  parentId : record.parentId = context.parentId
  debug : record.debug = context.sampling.isDebug
  kind : record.kind = some side.kind
  name : record.name = request.method?
  tags : ∀ name, record.tags.get? name = dueTag? request status fault name
  remoteEndpoint : record.remoteEndpoint = side.remote? settings request
  start : record.start = some began
  duration : record.duration = some (ended.since began)
  annotations : record.annotations = []

def requestChanges (settings : Settings) (side : Side) (request : Request) : List Update :=
  [.kind side.kind] ++ (request.method?.map Update.name).toList ++
    (request.path?.map (Update.tag "http.path")).toList ++
    ((side.remote? settings request).map Update.remoteEndpoint).toList

def outcomeChanges (status : Option Nat) (fault : Option Fault) : List Update :=
  ((statusText? status).map (Update.tag "http.status_code")).toList ++
    ((errorText? status fault).map (Update.tag "error")).toList

theorem calls_eq {settings : Settings} (standard : settings.labeling = .standard) (side : Side)
    (request : Request) :
    side.calls settings request =
      (requestChanges settings side request).map SpanCall.update ++ [.start] := by
  have labels : (settings.labeling.request request).map Customization.call =
      ((request.method?.map Update.name).toList ++
        (request.path?.map (Update.tag "http.path")).toList).map SpanCall.update := by
    rw [standard]
    change (((request.method?.map Customization.name).toList ++
      (request.path?.map (Customization.tag "http.path")).toList).map Customization.call) = _
    cases request.method? <;> cases request.path? <;> rfl
  cases side with
  | client current carrier =>
      change clientCalls settings request = _
      unfold clientCalls requestChanges Side.remote? Side.kind
      rw [labels]
      cases settings.serverName <;> simp
  | server carrier =>
      change serverCalls settings request = _
      unfold serverCalls requestChanges Side.remote? Side.kind
      rw [labels]
      cases request.clientAddress? <;> simp

theorem statusText?_eq (status : Option Nat) :
    (status.filter fun status => !Labeling.isSuccess status).map toString = statusText? status := by
  unfold statusText? Labeling.isSuccess
  congr 2
  funext number
  rw [Bool.eq_iff_iff]
  simp only [Bool.not_eq_true', Bool.and_eq_false_iff, decide_eq_false_iff_not, decide_eq_true_eq]
  omega

theorem error_eq (status : Option Nat) (fault : Option Fault) :
    Labeling.standard.error status fault =
      ((errorText? status fault).map (Customization.tag "error")).toList := by
  cases fault with
  | some fault =>
      change [Customization.tag "error" (Labeling.faultText fault)] = _
      unfold errorText? Labeling.faultText
      simp only [String.isEmpty_iff, Option.map_some, Option.toList_some]
  | none =>
      cases status with
      | none => rfl
      | some number =>
          change (if Labeling.isError number then [Customization.tag "error" (toString number)]
            else []) = _
          unfold errorText? Labeling.isError
          rw [Option.filter_some]
          simp only [Bool.or_eq_true, decide_eq_true_eq]
          split
          · rfl
          · rfl

theorem outcomeCalls_eq {settings : Settings} (standard : settings.labeling = .standard)
    (status : Option Nat) (fault : Option Fault) :
    outcomeCalls settings status fault =
      (outcomeChanges status fault).map SpanCall.update ++ [.finish] := by
  unfold outcomeCalls outcomeChanges Labeling.response
  rw [standard, error_eq, ← statusText?_eq]
  dsimp only
  cases status.filter fun status => !Labeling.isSuccess status with
  | none => cases errorText? status fault <;> rfl
  | some number => cases errorText? status fault <;> rfl

section Changes

variable (settings : Settings) (side : Side) (request : Request) (status : Option Nat)
  (fault : Option Fault) (began : Timestamp)

def allChanges : List Update :=
  requestChanges settings side request ++ [.start began] ++ outcomeChanges status fault

theorem filterMap_allChanges {Value : Type} (read : Update → Option Value) :
    (allChanges settings side request status fault began).filterMap read =
      (read (.kind side.kind)).toList ++
        (request.method?.bind fun name => read (.name name)).toList ++
        (request.path?.bind fun path => read (.tag "http.path" path)).toList ++
        ((side.remote? settings request).bind fun remote => read (.remoteEndpoint remote)).toList ++
        (read (.start began)).toList ++
        ((statusText? status).bind fun text => read (.tag "http.status_code" text)).toList ++
        ((errorText? status fault).bind fun text => read (.tag "error" text)).toList := by
  have single (change : Update) : [change].filterMap read = (read change).toList := by
    rw [List.filterMap_cons, List.filterMap_nil]
    cases read change <;> rfl
  unfold allChanges requestChanges outcomeChanges
  simp only [List.filterMap_append, Lists.filterMap_optional, single, List.append_assoc]

theorem reported_ofLifetime (endpoint : Endpoint) (context : Context) (ended : Timestamp) :
    Reported settings side request status fault context began ended
      (.ofLifetime endpoint (allChanges settings side request status fault began) context
        (.finish ended)) := by
  have read {Value : Type} (read : Update → Option Value) :=
    filterMap_allChanges settings side request status fault began read
  have kinds := read Update.kind?
  have names := read Update.name?
  have remotes := read Update.remoteEndpoint?
  have starts := read Update.start?
  have annotations := read Update.annotation?
  have tags := read Update.tag?
  simp only [Update.kind?, Update.name?, Update.remoteEndpoint?, Update.start?,
    Update.annotation?, Update.tag?, Option.bind_fun_none, Option.bind_fun_some,
    Option.toList_none, List.append_nil, List.nil_append]
    at kinds names remotes starts annotations tags
  refine ⟨rfl, rfl, rfl, ?_, ?_, ?_, ?_, ?_, ?_, annotations⟩
  · exact congrArg List.getLast? kinds
  · exact (congrArg List.getLast? names).trans (Lists.getLast?_toList _)
  · intro name
    refine (Tags.get?_ofList name _).trans ?_
    rw [tags, lastValue?_append, lastValue?_append, lastValue?_optional, lastValue?_optional,
      lastValue?_optional]
    unfold dueTag?
    by_cases isPath : name = "http.path"
    · subst isPath
      exact Option.none_or
    · by_cases isStatus : name = "http.status_code"
      · subst isStatus
        exact Option.or_none
      · rw [if_neg isPath, if_neg isStatus, if_neg isPath, if_neg isStatus]
        exact Option.or_none
  · exact (congrArg List.getLast? remotes).trans (Lists.getLast?_toList _)
  · exact congrArg List.head? starts
  · rw [SpanRecord.duration_ofLifetime, starts]
    rfl

end Changes

/-! ### Exchanges -/

theorem Side.make_clock (side : Side) (agent : Agent) :
    (side.make agent).2.clock = agent.clock := by
  obtain ⟨asked, current, _, isMade⟩ := side.make_eq_perform agent
  rw [isMade, SpanRequest.perform_clock]

theorem Side.make_holds (side : Side) {before : Agent}
    (absent : before.ledger.pending.get? (side.make before).1.context.key = none) :
    (side.make before).2.Holds (side.make before).1.context.key
      (if (side.make before).1.idle then none else some (.ofChanges []))
      (before.recordsOf (side.make before).1.context.key) := by
  obtain ⟨asked, current, makes, isMade⟩ := side.make_eq_perform before
  rw [isMade] at absent ⊢
  have creates : (Deed.made asked current (asked.perform before current).1).creates
      (asked.perform before current).1.context.key = !(asked.perform before current).1.idle := by
    simp only [Deed.creates, makes, Bool.true_and, decide_true, Bool.and_true]
  constructor
  · rw [SpanRequest.get?_perform, absent, creates]
    cases (asked.perform before current).1.idle with
    | true => rfl
    | false => rfl
  · unfold Agent.recordsOf
    rw [SpanRequest.perform_records]

section Exchange

variable {settings : Settings} {side : Side} {request : Request} {before after : Agent}
  {status : Option Nat} {fault : Option Fault}

/-- The calls of an exchange on a span in flight, among other work, end it with one record. -/
theorem recorded_reported (standard : settings.labeling = .standard)
    {span : Span} (recorded : span.idle = false) {made ready answered : Agent}
    {records : List SpanRecord} {labels tags later : List SpanCall}
    (holds : made.Holds span.context.key (some (.ofChanges [])) records)
    (labeling : side.calls settings request = labels ++ [.start])
    (closing : outcomeCalls settings status fault = tags ++ [.finish])
    (isReady : Course span made labels ready)
    (isAnswered : Course span (ready.call span .start) tags answered)
    (isAfter : Course span (answered.call span .finish) later after) :
    ∃ record, after.Holds span.context.key none (records ++ [record]) ∧
      Reported settings side request status fault span.context ready.clock answered.clock
        record := by
  rw [calls_eq standard] at labeling
  rw [outcomeCalls_eq standard] at closing
  have labeled := isReady.holds_updates recorded (List.append_cancel_right labeling).symm holds
  have begun := labeled.start recorded
  have tagged := isAnswered.holds_updates recorded (List.append_cancel_right closing).symm begun
  exact ⟨_, isAfter.holds_late (tagged.finish recorded),
    reported_ofLifetime settings side request status fault ready.clock _ _ answered.clock⟩

/-- The same with nothing in between the calls of the beginning and of the end. -/
theorem whole_reported (standard : settings.labeling = .standard) {span : Span}
    (recorded : span.idle = false) {made answered : Agent} {records : List SpanRecord}
    {later : List SpanCall}
    (holds : made.Holds span.context.key (some (.ofChanges [])) records)
    (isAnswered : Course span (made.callAll span (side.calls settings request)) [] answered)
    (isAfter : Course span (complete settings answered status fault span) later after) :
    ∃ record, after.Holds span.context.key none (records ++ [record]) ∧
      Reported settings side request status fault span.context made.clock answered.clock
        record := by
  have labeling := calls_eq standard side request
  have closing := outcomeCalls_eq standard status fault
  generalize (requestChanges settings side request).map SpanCall.update = labels at labeling
  generalize (outcomeChanges status fault).map SpanCall.update = tags at closing
  unfold complete at isAfter
  rw [labeling, Agent.callAll_append] at isAnswered
  rw [closing, Agent.callAll_append] at isAfter
  have reported := recorded_reported standard recorded holds labeling closing
    (.callAll span made labels) (isAnswered.append (.callAll span answered tags)) isAfter
  rw [Agent.callAll_clock, Agent.callAll_clock] at reported
  exact reported

end Exchange

/-- An exchange on either side, with the standard labeling and the key of its span absent when
it begins.  In between its calls, and between its beginning and its end, the agent may do
anything that makes no recorded span of that key and calls none.  A span that is not recorded
leaves nothing.  For any other one record is reported, and more calls on the span after the
end, such as that of another outcome, change nothing.  The record has the kind of the side, the
method as its name, the other side as far as it is known, the times of the clock at the
beginning and at the end, the path, the status and the error as its tags if they are due, and
nothing else.  The answers of a request may be any. -/
theorem exchange_reported {settings : Settings} (standard : settings.labeling = .standard)
    (side : Side) (request : Request) (before : Agent)
    (absent : before.ledger.pending.get? (side.make before).1.context.key = none) :
    let span := (side.make before).1
    let key := span.context.key
    (span.idle = true → ∀ calls after, Course span (side.make before).2 calls after →
      after.Holds key none (before.recordsOf key)) ∧
    (span.idle = false → ∀ status fault labels tags later ready answered after,
      side.calls settings request = labels ++ [.start] →
      outcomeCalls settings status fault = tags ++ [.finish] →
      Course span (side.make before).2 labels ready →
      Course span (ready.call span .start) tags answered →
      Course span (answered.call span .finish) later after →
      ∃ record, after.Holds key none (before.recordsOf key ++ [record]) ∧
        Reported settings side request status fault span.context ready.clock answered.clock
          record) ∧
    (∀ status fault later answered after,
      Course span (side.begin settings before request).2 [] answered →
      Course span (complete settings answered status fault span) later after →
      (side.begin settings before request).1 = span ∧
        if span.idle then after.Holds key none (before.recordsOf key)
        else ∃ record, after.Holds key none (before.recordsOf key ++ [record]) ∧
          Reported settings side request status fault span.context before.clock answered.clock
            record) ∧
    ∀ method path address, ∃ other : Request,
      other.method? = method ∧ other.path? = path ∧ other.clientAddress? = address := by
  intro span key
  have holds := side.make_holds absent
  refine ⟨?_, ?_, ?_, Request.exists_of_answers⟩
  · intro idle calls after isAfter
    rw [if_pos idle] at holds
    exact isAfter.holds_late holds
  · intro recorded status fault labels tags later ready answered after labeling closing isReady
      isAnswered isAfter
    rw [if_neg (ne_true_of_eq_false recorded)] at holds
    exact recorded_reported standard recorded holds labeling closing isReady isAnswered isAfter
  · intro status fault later answered after isAnswered isAfter
    rw [side.begin_eq] at isAnswered ⊢
    refine ⟨rfl, ?_⟩
    cases idle : span.idle with
    | true =>
        rw [if_pos idle] at holds
        have begun := Course.callAll span (side.make before).2 (side.calls settings request)
        have ended := Course.callAll span answered (outcomeCalls settings status fault)
        exact ((begun.append isAnswered).append (ended.append isAfter)).holds_late holds
    | false =>
        rw [if_neg (ne_true_of_eq_false idle)] at holds
        have clock : (side.make before).2.clock = before.clock := side.make_clock before
        rw [← clock]
        exact whole_reported standard idle holds isAnswered isAfter

/-- A server answers with an error that has no message, by a clock that went backwards in
between, and answers once more. -/
theorem exchange_reported_once :
    let settings := Settings.create .standard .plain none
    let request := Request.plain (some "GET") (some "/orders") none
      [("X-Forwarded-For", "10.0.0.1, 10.0.0.2")]
    let side := Side.server .emptyMap
    let before := { AgentSettings.unset 900 with sampler := some .always }.build (.ofSeed 1)
    let span := (side.make before).1
    let answered := (side.begin settings before request).2.setClock 700
    let closed := complete settings answered (some 503) (some ⟨"", "Timeout"⟩) span
    let after := complete settings closed (some 200) none span
    settings.labeling = .standard ∧ span.idle = false ∧
      before.ledger.pending.get? span.context.key = none ∧
      ∃ record, after.recordsOf span.context.key = before.recordsOf span.context.key ++ [record] ∧
        record.tags.get? "error" = some "Timeout" ∧
        record.tags.get? "http.status_code" = some "503" ∧ record.duration = some 0 := by
  intro settings request side before span answered closed after
  have recorded : span.idle = false := by decide +kernel
  have absent : before.ledger.pending.get? span.context.key = none := by decide +kernel
  let begun := (side.begin settings before request).2
  have clockSet : Agent.Elsewhere span.context.key begun answered := .kept rfl rfl
  have isAnswered : Course span begun [] answered := .other clockSet (.done answered)
  have isAfter : Course span closed (outcomeCalls settings (some 200) none) after :=
    .callAll span closed _
  obtain ⟨_, reported⟩ := (exchange_reported rfl side request before absent).2.2.1 (some 503)
    (some ⟨"", "Timeout"⟩) _ answered after isAnswered isAfter
  rw [if_neg (ne_true_of_eq_false recorded)] at reported
  obtain ⟨record, holds, shows⟩ := reported
  exact ⟨rfl, recorded, absent, record, holds.records, shows.tags "error",
    shows.tags "http.status_code", shows.duration⟩

end Http

end SpanTrail
