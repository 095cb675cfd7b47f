import SpanTrail.Proofs.Http.Effects
import SpanTrail.Proofs.Lists

/-! What exchanges that overlap report.  The ledger tells spans apart by their keys only, so
there is one record for each registration that found its key absent.  As long as no two
exchanges of a key are in flight at once, each has a record of its own. -/

namespace SpanTrail.Http

namespace Called

variable {before after : Agent} {context : Context} {call : LedgerCall}

theorem entry (called : Called before after context call) (key : SpanKey) :
    after.ledger.pending.get? key =
      if key = context.key then call.advance (before.ledger.pending.get? key)
      else before.ledger.pending.get? key := by
  rw [called.ledger]
  exact Ledger.get?_perform before.ledger context call key

theorem entry_own (called : Called before after context call) :
    after.ledger.pending.get? context.key =
      call.advance (before.ledger.pending.get? context.key) := by
  rw [called.entry, if_pos rfl]

theorem entry_other (called : Called before after context call) {key : SpanKey}
    (other : key ≠ context.key) :
    after.ledger.pending.get? key = before.ledger.pending.get? key := by
  rw [called.entry, if_neg other]

theorem localEndpoint (called : Called before after context call) :
    after.ledger.localEndpoint = before.ledger.localEndpoint := by
  rw [called.ledger]
  exact (Ledger.perform_frame before.ledger context call).1

theorem records_kept (called : Called before after context call)
    (goesOn : ∀ ending, call ≠ .conclude ending) :
    after.journal.records = before.journal.records := by
  have nothing : Turn.records ⟨before.ledger, context, call⟩ = [] := Turn.records_eq_nil goesOn
  rw [called.records]
  exact (congrArg (before.journal.records ++ ·) nothing).trans (List.append_nil _)

theorem records_finish {time : Timestamp} {changes : List Update}
    (called : Called before after context (.conclude (.finish time)))
    (entry : before.ledger.pending.get? context.key = some (.ofChanges changes)) :
    after.journal.records = before.journal.records ++
      [.ofLifetime before.ledger.localEndpoint changes context (.finish time)] := by
  rw [called.records, Ledger.records_perform, ← Pending.record_ofChanges]
  unfold Ledger.takenOut?
  rw [entry]
  rfl

theorem key_of_mem_records (called : Called before after context call) :
    ∃ records, after.journal.records = before.journal.records ++ records ∧
      ∀ record ∈ records, record.key = context.key := by
  refine ⟨_, called.records, ?_⟩
  intro record reported
  exact (Ledger.of_mem_records reported).1

theorem turn_balance (called : Called before after context call)
    (kept : call ≠ .conclude .abandon) (key : SpanKey) :
    after.journal.records.countP (fun record => record.key = key) +
        after.ledger.pendingCount key =
      before.journal.records.countP (fun record => record.key = key) +
        before.ledger.pendingCount key +
        (Turn.registers key ⟨before.ledger, context, call⟩).toNat := by
  have balanced := Turn.balance ⟨before.ledger, context, call⟩ key
  have notAbandoned : Turn.abandons key ⟨before.ledger, context, call⟩ = false := by
    unfold Turn.abandons
    exact decide_eq_false fun abandons => kept abandons.1
  rw [notAbandoned, Bool.toNat_false, Nat.add_zero] at balanced
  change _ + _ = _ + before.ledger.pendingCount key at balanced
  rw [called.records, called.ledger, List.countP_append]
  change _ + List.countP _ (Turn.records ⟨before.ledger, context, call⟩) +
    (Turn.after ⟨before.ledger, context, call⟩).pendingCount key = _
  omega

theorem balance (called : Called before after context call) (kept : call ≠ .conclude .abandon)
    (unregistered : call ≠ .register) (key : SpanKey) :
    after.journal.records.countP (fun record => record.key = key) +
        after.ledger.pendingCount key =
      before.journal.records.countP (fun record => record.key = key) +
        before.ledger.pendingCount key := by
  have counted := called.turn_balance kept key
  have registersNot : Turn.registers key ⟨before.ledger, context, call⟩ = false :=
    decide_eq_false fun registers => unregistered registers.1
  rw [registersNot] at counted
  exact counted

theorem balance_register (called : Called before after context .register) (key : SpanKey) :
    after.journal.records.countP (fun record => record.key = key) +
        after.ledger.pendingCount key =
      before.journal.records.countP (fun record => record.key = key) +
        before.ledger.pendingCount key +
        (!before.ledger.tracks context && context.key = key).toNat := by
  have counted := called.turn_balance nofun key
  have registers : Turn.registers key ⟨before.ledger, context, .register⟩ =
      (!before.ledger.tracks context && context.key = key) := by
    unfold Turn.registers Turn.key Turn.entry Ledger.tracks Table.contains
    by_cases same : context.key = key
    · subst same
      cases before.ledger.pending.get? context.key <;> simp
    · simp [same]
  rw [registers] at counted
  exact counted

end Called

/-! ### Every interleaving -/

/-- Every record and every pending entry goes back to a registration that found its key
absent, and whatever is pending is in flight. -/
structure Balanced (traffic : Traffic) : Prop where
  planned : ∀ exchange ∈ traffic.exchanges, exchange.Planned
  balance : ∀ key, traffic.agent.journal.records.countP (fun record => record.key = key) +
      traffic.agent.ledger.pendingCount key =
    traffic.exchanges.countP fun exchange => exchange.fresh && exchange.key = key
  covered : ∀ key, (traffic.agent.ledger.pending.get? key).isSome = true →
    ∃ exchange ∈ traffic.exchanges, exchange.inFlight?.isSome = true ∧ exchange.key = key

theorem Balanced.step_balance {traffic after : Traffic} (balanced : Balanced traffic)
    (changed : Changed traffic after) (key : SpanKey) :
    after.agent.journal.records.countP (fun record => record.key = key) +
        after.agent.ledger.pendingCount key =
      after.exchanges.countP fun exchange => exchange.fresh && exchange.key = key := by
  have before := balanced.balance key
  cases changed with
  | kept exchanges ledger records => rw [exchanges, ledger, records, before]
  | arrived exchange added stage planned ledger records =>
      have unregistered : exchange.fresh = false := by
        unfold Exchange.Planned at planned
        rw [stage] at planned
        exact planned.2
      rw [added, ledger, records, before, List.countP_append]
      simp [unregistered]
  | advanced older newer exchange next split spliced sameKey planned effect =>
      rw [split, List.countP_append, List.countP_cons] at before
      rw [spliced, List.countP_append, List.countP_cons, sameKey]
      cases effect with
      | quiet ledger records inFlight fresh record =>
          rw [ledger, records, fresh]
          exact before
      | registers called absent inFlight unregistered fresh record =>
          have counted := called.balance_register key
          change _ = _ + (_ && decide (exchange.key = key)).toNat at counted
          rw [counted, before, unregistered, fresh]
          cases !traffic.agent.ledger.tracks exchange.context && decide (exchange.key = key) with
          | false => simp
          | true => simp; omega
      | notes change changes called present inFlight fresh record =>
          rw [called.balance nofun nofun key, fresh]
          exact before
      | finishes time changes called present inFlight fresh due record =>
          rw [called.balance nofun nofun key, fresh]
          exact before

/-- Unless the exchange that a step is about lands, what is in flight stays in flight. -/
theorem covered_splice {older newer : List Exchange} {exchange next : Exchange}
    (sameKey : next.key = exchange.key) {key : SpanKey}
    (covered : ∃ other ∈ older ++ exchange :: newer,
      other.inFlight?.isSome = true ∧ other.key = key)
    (stays : exchange.key = key → exchange.inFlight?.isSome = true →
      next.inFlight?.isSome = true) :
    ∃ other ∈ older ++ next :: newer, other.inFlight?.isSome = true ∧ other.key = key := by
  obtain ⟨other, member, flies, itsKey⟩ := covered
  rcases Lists.mem_around.mp member with isExchange | another
  · subst isExchange
    exact ⟨next, List.mem_append_cons_self, stays itsKey flies, sameKey.trans itsKey⟩
  · exact ⟨other, Lists.mem_around.mpr (.inr another), flies, itsKey⟩

theorem Balanced.step_covered {traffic after : Traffic} (balanced : Balanced traffic)
    (changed : Changed traffic after) (key : SpanKey)
    (pending : (after.agent.ledger.pending.get? key).isSome = true) :
    ∃ exchange ∈ after.exchanges, exchange.inFlight?.isSome = true ∧ exchange.key = key := by
  have before := balanced.covered key
  cases changed with
  | kept exchanges ledger records =>
      rw [exchanges]
      rw [ledger] at pending
      exact before pending
  | arrived exchange added stage planned ledger records =>
      rw [ledger] at pending
      obtain ⟨other, member, flies, itsKey⟩ := before pending
      rw [added]
      exact ⟨other, List.mem_append_left _ member, flies, itsKey⟩
  | advanced older newer exchange next split spliced sameKey planned effect =>
      rw [split] at before
      rw [spliced]
      cases effect with
      | quiet ledger records inFlight fresh record =>
          rw [ledger] at pending
          apply covered_splice sameKey (before pending)
          intro _ flies
          rw [inFlight]
          exact flies
      | registers called absent inFlight unregistered fresh record =>
          have flies : next.inFlight?.isSome = true := by rw [inFlight]; rfl
          by_cases same : key = exchange.key
          · exact ⟨next, List.mem_append_cons_self, flies,
              sameKey.trans same.symm⟩
          · rw [called.entry_other same] at pending
            exact covered_splice sameKey (before pending) fun _ _ => flies
      | notes change changes called present inFlight fresh record =>
          have flies : next.inFlight?.isSome = true := by rw [inFlight]; rfl
          have earlier : (traffic.agent.ledger.pending.get? key).isSome = true := by
            rw [called.entry] at pending
            split at pending
            · exact (Option.isSome_map).symm.trans pending
            · exact pending
          exact covered_splice sameKey (before earlier) fun _ _ => flies
      | finishes time changes called present inFlight fresh due record =>
          -- What is still pending is of another key, and so of another exchange.
          rw [called.entry] at pending
          split at pending
          · cases pending
          · rename_i other
            exact covered_splice sameKey (before pending) fun same _ => absurd same.symm other

theorem Balanced.step {traffic after : Traffic} (balanced : Balanced traffic)
    (changed : Changed traffic after) : Balanced after := by
  refine ⟨?_, balanced.step_balance changed, balanced.step_covered changed⟩
  intro other member
  cases changed with
  | kept exchanges ledger records =>
      rw [exchanges] at member
      exact balanced.planned other member
  | arrived exchange added stage planned ledger records =>
      rw [added] at member
      rcases List.mem_append.mp member with earlier | isNew
      · exact balanced.planned other earlier
      · rw [List.mem_singleton.mp isNew]
        exact planned
  | advanced older newer exchange next split spliced sameKey planned effect =>
      rw [spliced] at member
      rcases Lists.mem_around.mp member with isNext | another
      · rw [isNext]
        exact planned
      · apply balanced.planned
        rw [split]
        exact Lists.mem_around.mpr (.inr another)

theorem onAgent_balanced {agent : Agent} (pending : agent.ledger.pending = .empty)
    (records : agent.journal.records = []) : Balanced (Traffic.onAgent agent) := by
  refine ⟨fun _ => nofun, ?_, ?_⟩
  · intro key
    change agent.journal.records.countP _ + agent.ledger.pendingCount key = 0
    rw [records, Ledger.pendingCount, pending]
    rfl
  · intro key present
    change (agent.ledger.pending.get? key).isSome = true at present
    rw [pending] at present
    cases present

theorem Balanced.run {traffic : Traffic} (balanced : Balanced traffic)
    (steps : List TrafficStep) : Balanced (traffic.run steps) := by
  induction steps generalizing traffic with
  | nil => exact balanced
  | cons step rest ih =>
      apply ih
      exact balanced.step (Traffic.step_changed balanced.planned step)

/-! ### Exchanges of a key that do not overlap -/

/-- No two exchanges with one of the keys are in flight. -/
def Apart (keys : SpanKey → Bool) (traffic : Traffic) : Prop :=
  traffic.exchanges.Pairwise fun first second =>
    keys first.key = true → first.inFlight?.isSome = true → second.inFlight?.isSome = true →
      first.key ≠ second.key

instance (keys : SpanKey → Bool) (traffic : Traffic) : Decidable (Apart keys traffic) :=
  inferInstanceAs (Decidable (List.Pairwise _ _))

theorem apart_of_bounded {keys : SpanKey → Bool} {traffic : Traffic} {steps : List TrafficStep}
    (bounded : ∀ count : Fin (steps.length + 1), Apart keys (traffic.run (steps.take count))) :
    ∀ count, Apart keys (traffic.run (steps.take count)) := by
  intro count
  rcases Nat.lt_or_ge count (steps.length + 1) with below | beyond
  · exact bounded ⟨count, below⟩
  · have whole : steps.take count = steps.take steps.length := by
      rw [List.take_length, List.take_of_length_le (by omega)]
    rw [whole]
    exact bounded ⟨steps.length, by omega⟩

theorem Apart.other {keys : SpanKey → Bool} {traffic : Traffic} (apart : Apart keys traffic)
    {older newer : List Exchange} {exchange other : Exchange}
    (split : traffic.exchanges = older ++ exchange :: newer)
    (flies : exchange.inFlight?.isSome = true) (member : other ∈ older ++ newer)
    (watched : keys other.key = true) (otherFlies : other.inFlight?.isSome = true) :
    other.key ≠ exchange.key := by
  unfold Apart at apart
  rw [split] at apart
  obtain ⟨_, after, before⟩ := List.pairwise_append.mp apart
  rcases List.mem_append.mp member with isOlder | isNewer
  · exact before other isOlder exchange List.mem_cons_self watched otherFlies flies
  · intro same
    rw [same] at watched
    exact (List.pairwise_cons.mp after).1 other isNewer watched flies otherFlies same.symm

/-- Every exchange with one of the keys owns the entry that is pending while it is in flight,
and its record once it has ended. -/
structure Own (endpoint : Endpoint) (keys : SpanKey → Bool) (traffic : Traffic) : Prop where
  localEndpoint : traffic.agent.ledger.localEndpoint = endpoint
  entries : ∀ exchange ∈ traffic.exchanges, keys exchange.key = true →
    ∀ changes, exchange.inFlight? = some changes →
      traffic.agent.ledger.pending.get? exchange.key = some (.ofChanges changes)
  reported : (traffic.agent.journal.records.filter fun record => keys record.key).Perm
    ((traffic.exchanges.filterMap (Exchange.record? endpoint)).filter fun record =>
      keys record.key)

section

variable {endpoint : Endpoint} {keys : SpanKey → Bool} {traffic after : Traffic}
  {older newer : List Exchange} {exchange next : Exchange}

theorem other_entries (apart : Apart keys traffic) (apartAfter : Apart keys after)
    (split : traffic.exchanges = older ++ exchange :: newer)
    (spliced : after.exchanges = older ++ next :: newer) (sameKey : next.key = exchange.key)
    (effect : Advanced traffic.agent after.agent exchange next) :
    ∀ other ∈ older ++ newer, keys other.key = true → other.inFlight?.isSome = true →
      after.agent.ledger.pending.get? other.key = traffic.agent.ledger.pending.get? other.key := by
  intro other member watched flies
  cases effect with
  | quiet ledger records inFlight fresh record => rw [ledger]
  | registers called absent inFlight unregistered fresh record =>
      have nextFlies : next.inFlight?.isSome = true := by rw [inFlight]; rfl
      have apartNext := apartAfter.other spliced nextFlies member watched flies
      rw [sameKey] at apartNext
      exact called.entry_other apartNext
  | notes change changes called present inFlight fresh record =>
      have exchangeFlies : exchange.inFlight?.isSome = true := by rw [present]; rfl
      exact called.entry_other (apart.other split exchangeFlies member watched flies)
  | finishes time changes called present inFlight fresh due record =>
      have exchangeFlies : exchange.inFlight?.isSome = true := by rw [present]; rfl
      exact called.entry_other (apart.other split exchangeFlies member watched flies)

/-- A registration that keeps the exchanges apart finds its key absent. -/
theorem absent_of_apart (balanced : Balanced traffic) (apartAfter : Apart keys after)
    (split : traffic.exchanges = older ++ exchange :: newer)
    (spliced : after.exchanges = older ++ next :: newer) (sameKey : next.key = exchange.key)
    (watched : keys exchange.key = true) (absent : exchange.inFlight? = none)
    (flies : next.inFlight?.isSome = true) :
    traffic.agent.ledger.pending.get? exchange.key = none := by
  rw [← Option.not_isSome_iff_eq_none]
  intro pending
  obtain ⟨other, member, otherFlies, itsKey⟩ := balanced.covered exchange.key pending
  rw [split] at member
  rcases Lists.mem_around.mp member with isExchange | another
  · rw [isExchange, absent] at otherFlies
    cases otherFlies
  · rw [← itsKey] at watched
    apply apartAfter.other spliced flies another watched otherFlies
    exact itsKey.trans sameKey.symm

theorem Own.step_entry (own : Own endpoint keys traffic) (balanced : Balanced traffic)
    (apartAfter : Apart keys after) (split : traffic.exchanges = older ++ exchange :: newer)
    (spliced : after.exchanges = older ++ next :: newer) (sameKey : next.key = exchange.key)
    (effect : Advanced traffic.agent after.agent exchange next)
    (watched : keys exchange.key = true) {changes : List Update}
    (flies : next.inFlight? = some changes) :
    after.agent.ledger.pending.get? exchange.key = some (.ofChanges changes) := by
  have member : exchange ∈ traffic.exchanges := by
    rw [split]
    exact List.mem_append_cons_self
  cases effect with
  | quiet ledger records inFlight fresh record =>
      rw [ledger]
      apply own.entries exchange member watched
      rw [← inFlight]
      exact flies
  | registers called absent inFlight unregistered fresh record =>
      have none := absent_of_apart balanced apartAfter split spliced sameKey watched absent
        (by rw [inFlight]; rfl)
      have moved := called.entry_own
      change _ = LedgerCall.advance .register
        (traffic.agent.ledger.pending.get? exchange.key) at moved
      rw [none] at moved
      refine moved.trans ?_
      rw [← Option.some.inj (inFlight.symm.trans flies)]
      rfl
  | notes change earlier called present inFlight fresh record =>
      have entry := own.entries exchange member watched earlier present
      have moved := called.entry_own
      change _ = LedgerCall.advance (.update change)
        (traffic.agent.ledger.pending.get? exchange.key) at moved
      rw [entry] at moved
      refine moved.trans ?_
      rw [← Option.some.inj (inFlight.symm.trans flies), Pending.ofChanges_append]
      rfl
  | finishes time earlier called present inFlight fresh due record =>
      rw [inFlight] at flies
      cases flies

theorem filterMap_record? (split : traffic.exchanges = older ++ exchange :: newer)
    (spliced : after.exchanges = older ++ next :: newer)
    (record : next.record? endpoint = exchange.record? endpoint) :
    after.exchanges.filterMap (Exchange.record? endpoint) =
      traffic.exchanges.filterMap (Exchange.record? endpoint) := by
  rw [split, spliced]
  simp only [List.filterMap_append, List.filterMap_cons, record]

/-- An exchange that ends adds its own record, which counts if its key is one of these. -/
theorem Own.finish_reported (own : Own endpoint keys traffic)
    (split : traffic.exchanges = older ++ exchange :: newer)
    (spliced : after.exchanges = older ++ next :: newer) {time : Timestamp}
    {changes : List Update}
    (called : Called traffic.agent after.agent exchange.context (.conclude (.finish time)))
    (present : exchange.inFlight? = some changes) (due : exchange.record? endpoint = none)
    (record : next.record? endpoint =
      some (.ofLifetime endpoint changes exchange.context (.finish time))) :
    (after.agent.journal.records.filter fun record => keys record.key).Perm
      ((after.exchanges.filterMap (Exchange.record? endpoint)).filter fun record =>
        keys record.key) := by
  let mine : SpanRecord := .ofLifetime endpoint changes exchange.context (.finish time)
  have added : (traffic.exchanges.filterMap (Exchange.record? endpoint) ++ [mine]).Perm
      (after.exchanges.filterMap (Exchange.record? endpoint)) := by
    rw [split, spliced]
    simp only [List.filterMap_append, List.filterMap_cons, record, due]
    exact (List.perm_append_singleton _ _).trans List.perm_middle.symm
  have watchedOnly := added.filter fun record => keys record.key
  rw [List.filter_append] at watchedOnly
  cases watched : keys exchange.key with
  | true =>
      have member : exchange ∈ traffic.exchanges := by
        rw [split]
        exact List.mem_append_cons_self
      have entry := own.entries exchange member watched changes present
      rw [called.records_finish entry, own.localEndpoint, List.filter_append]
      exact (own.reported.append_right _).trans watchedOnly
  | false =>
      -- The record may tell of another exchange with the key, but nobody watches the key.
      obtain ⟨new, isNew, newKeys⟩ := called.key_of_mem_records
      have unwatched : new.filter (fun record => keys record.key) = [] := by
        rw [List.filter_eq_nil_iff]
        intro record reported
        rw [newKeys record reported]
        exact ne_true_of_eq_false watched
      have mineUnwatched : [mine].filter (fun record => keys record.key) = [] :=
        List.filter_cons_of_neg (ne_true_of_eq_false watched)
      rw [mineUnwatched, List.append_nil] at watchedOnly
      rw [isNew, List.filter_append, unwatched, List.append_nil]
      exact own.reported.trans watchedOnly

theorem Own.step_reported (own : Own endpoint keys traffic)
    (split : traffic.exchanges = older ++ exchange :: newer)
    (spliced : after.exchanges = older ++ next :: newer)
    (effect : Advanced traffic.agent after.agent exchange next) :
    (after.agent.journal.records.filter fun record => keys record.key).Perm
      ((after.exchanges.filterMap (Exchange.record? endpoint)).filter fun record =>
        keys record.key) := by
  have before := own.reported
  cases effect with
  | quiet ledger records inFlight fresh record =>
      rw [records, filterMap_record? split spliced (record endpoint)]
      exact before
  | registers called absent inFlight unregistered fresh record =>
      rw [called.records_kept nofun, filterMap_record? split spliced (record endpoint)]
      exact before
  | notes change changes called present inFlight fresh record =>
      rw [called.records_kept nofun, filterMap_record? split spliced (record endpoint)]
      exact before
  | finishes time changes called present inFlight fresh due record =>
      exact own.finish_reported split spliced called present (due endpoint) (record endpoint)

theorem Own.step (own : Own endpoint keys traffic) (balanced : Balanced traffic)
    (apart : Apart keys traffic) (apartAfter : Apart keys after)
    (changed : Changed traffic after) : Own endpoint keys after := by
  cases changed with
  | kept exchanges ledger records =>
      refine ⟨?_, ?_, ?_⟩
      · rw [ledger]
        exact own.localEndpoint
      · rw [exchanges, ledger]
        exact own.entries
      · rw [exchanges, records]
        exact own.reported
  | arrived exchange added stage planned ledger records =>
      refine ⟨?_, ?_, ?_⟩
      · rw [ledger]
        exact own.localEndpoint
      · intro other member watched changes flies
        rw [added] at member
        rw [ledger]
        rcases List.mem_append.mp member with earlier | isNew
        · exact own.entries other earlier watched changes flies
        · rw [List.mem_singleton.mp isNew, Exchange.inFlight?, stage] at flies
          cases flies
      · have nothing : [exchange].filterMap (Exchange.record? endpoint) = [] := by
          simp [Exchange.record?, stage]
        rw [added, records, List.filterMap_append, nothing, List.append_nil]
        exact own.reported
  | advanced older newer exchange next split spliced sameKey planned effect =>
      refine ⟨?_, ?_, own.step_reported split spliced effect⟩
      · cases effect with
        | quiet ledger records inFlight fresh record =>
            rw [ledger]
            exact own.localEndpoint
        | registers called | notes _ _ called | finishes _ _ called =>
            exact called.localEndpoint.trans own.localEndpoint
      · intro other member watched changes flies
        rw [spliced] at member
        rcases Lists.mem_around.mp member with isNext | another
        · subst isNext
          rw [sameKey] at watched ⊢
          exact own.step_entry balanced apartAfter split spliced sameKey effect watched flies
        · have earlier : other ∈ traffic.exchanges := by
            rw [split]
            exact Lists.mem_around.mpr (.inr another)
          rw [other_entries apart apartAfter split spliced sameKey effect other another watched
            (by rw [flies]; rfl)]
          exact own.entries other earlier watched changes flies

theorem Own.run (own : Own endpoint keys traffic) (balanced : Balanced traffic)
    {steps : List TrafficStep}
    (apart : ∀ count, Apart keys (traffic.run (steps.take count))) :
    Own endpoint keys (traffic.run steps) := by
  induction steps generalizing traffic with
  | nil => exact own
  | cons step rest ih =>
      have changed := Traffic.step_changed balanced.planned step
      apply ih
      · exact own.step balanced (apart 0) (apart 1) changed
      · exact balanced.step changed
      · intro count
        exact apart (count + 1)

end

namespace Exchange

theorem inFlight?_ended {exchange : Exchange} (ended : exchange.isEnded = true) :
    exchange.inFlight? = none := by
  obtain ⟨settings, request, context, stage, made, fresh⟩ := exchange
  cases stage with
  | ended status fault time => rfl
  | drawn | resolved | labeling _ | closing _ _ _ => cases ended

theorem record?_eq {exchange : Exchange} {status : Option Nat} {fault : Option Fault}
    {time : Timestamp} (stage : exchange.stage = .ended status fault time) (endpoint : Endpoint) :
    exchange.record? endpoint =
      if exchange.recorded then
        some (.ofLifetime endpoint exchange.made exchange.context (.finish time))
      else none := by
  unfold record?
  rw [stage]

theorem record?_ended {exchange : Exchange} (ended : exchange.isEnded = true)
    (endpoint : Endpoint) (keys : SpanKey → Bool) :
    ((exchange.record? endpoint).map fun record => keys record.key).getD false =
      (exchange.recorded && keys exchange.key) := by
  unfold isEnded at ended
  split at ended
  · rename_i status fault time stage
    rw [record?_eq stage]
    cases exchange.recorded with
    | true => rfl
    | false => rfl
  · cases ended

theorem record?_tags {exchange : Exchange} (planned : exchange.Planned) {endpoint : Endpoint}
    {record : SpanRecord} (due : exchange.record? endpoint = some record) :
    record.key = exchange.key ∧ record.tags = .ofList exchange.ownTags := by
  obtain ⟨settings, request, context, stage, made, fresh⟩ := exchange
  cases stage with
  | drawn | resolved | labeling _ | closing _ _ _ => cases due
  | ended status fault time =>
      obtain ⟨_, isRecord⟩ := Option.ite_none_right_eq_some.mp due
      have tags := planned.tags
      rw [List.filterMap_nil, List.append_nil] at tags
      rw [← Option.some.inj isRecord, ← tags]
      exact ⟨rfl, rfl⟩

end Exchange

theorem Balanced.settled {traffic : Traffic} (balanced : Balanced traffic)
    (ended : ∀ exchange ∈ traffic.exchanges, exchange.isEnded = true) (key : SpanKey) :
    traffic.agent.ledger.pendingCount key = 0 := by
  apply if_neg
  intro pending
  obtain ⟨exchange, member, flies, _⟩ := balanced.covered key pending
  rw [Exchange.inFlight?_ended (ended exchange member)] at flies
  cases flies

/-- Exchanges of a server in any interleaving.  Once all have ended, there are as many
records of a key as registrations that found it absent.  If no two exchanges with one of
some keys are ever in flight at once, the records of these keys are the own records of the
exchanges with these keys, one for each that is not idle; and such a record has the tags of
its own request and response, and no others. -/
theorem exchanges_report (settings : AgentSettings) (entropy : Entropy)
    (steps : List TrafficStep) :
    let begun := Traffic.onAgent (settings.build entropy)
    let traffic := begun.run steps
    let records := traffic.agent.journal.records
    let endpoint := begun.agent.ledger.localEndpoint
    ((∀ exchange ∈ traffic.exchanges, exchange.isEnded = true) →
      ∀ key, records.countP (fun record => record.key = key) =
        traffic.exchanges.countP fun exchange => exchange.fresh && exchange.key = key) ∧
      (∀ keys : SpanKey → Bool,
        (∀ count, Apart keys (begun.run (steps.take count))) →
          (records.filter fun record => keys record.key).Perm
              ((traffic.exchanges.filterMap (Exchange.record? endpoint)).filter fun record =>
                keys record.key) ∧
            ((∀ exchange ∈ traffic.exchanges, exchange.isEnded = true) →
              records.countP (fun record => keys record.key) =
                traffic.exchanges.countP fun exchange =>
                  exchange.recorded && keys exchange.key)) ∧
      ∀ exchange ∈ traffic.exchanges, ∀ record, exchange.record? endpoint = some record →
        record.key = exchange.key ∧ record.tags = .ofList exchange.ownTags := by
  intro begun traffic records endpoint
  have start : Balanced begun := onAgent_balanced rfl rfl
  have balanced : Balanced traffic := start.run steps
  refine ⟨?_, ?_, ?_⟩
  · intro ended key
    have counted := balanced.balance key
    rw [balanced.settled ended key] at counted
    exact counted
  · intro keys apart
    have own : Own endpoint keys begun := ⟨rfl, fun _ => nofun, .rfl⟩
    have reported := (own.run start apart).reported
    refine ⟨reported, ?_⟩
    intro ended
    have lengths := reported.length_eq
    rw [← List.countP_eq_length_filter, ← List.countP_eq_length_filter,
      List.countP_filterMap] at lengths
    refine lengths.trans ?_
    apply List.countP_congr
    intro exchange member
    rw [Exchange.record?_ended (ended exchange member)]
  · intro exchange member record due
    exact Exchange.record?_tags (balanced.planned exchange member) due

/-- A request that is retried with the same identities after its exchange has ended. -/
theorem exchanges_report_retry :
    let agentSettings := { AgentSettings.unset 0 with sampler := some .never }
    let settings := Settings.create .standard .standard none
    let carrier := Carrier.emptyHeaders.setAll
      [("x-b3-traceid", "000000000000000a"), ("x-b3-spanid", "000000000000000b"),
        ("x-b3-sampled", "1")]
    let request := Request.plain (some "GET") (some "/orders") none []
    let exchange (number status : Nat) : List TrafficStep :=
      [.receive settings carrier request] ++ List.replicate 6 (.advance number) ++
        [.respond number (some status) none] ++ List.replicate 3 (.advance number)
    let begun := Traffic.onAgent (agentSettings.build (Entropy.ofSeed 1))
    let steps := exchange 0 500 ++ exchange 1 200
    let traffic := begun.run steps
    (∀ exchange ∈ traffic.exchanges, exchange.isEnded = true) ∧
      (∀ count, Apart (fun _ => true) (begun.run (steps.take count))) ∧
      traffic.agent.journal.records.countP (fun _ => true) =
        traffic.exchanges.countP fun exchange => exchange.recorded && true := by
  intro agentSettings settings carrier request exchange begun steps traffic
  have ended : ∀ exchange ∈ traffic.exchanges, exchange.isEnded = true := by decide +kernel
  have apart : ∀ count, Apart (fun _ => true) (begun.run (steps.take count)) := by
    apply apart_of_bounded
    decide +kernel
  have facts := exchanges_report agentSettings (Entropy.ofSeed 1) steps
  have counted := (facts.2.1 (fun _ => true) apart).2 ended
  -- Both sides are numbers, which would be computed if the run were not kept as it is.
  have isRun : (Traffic.onAgent (agentSettings.build (Entropy.ofSeed 1))).run steps = traffic := rfl
  rw [isRun] at counted
  clear_value traffic
  exact ⟨ended, apart, counted⟩

/-- Two exchanges with the same identities that overlap.  Neither span is idle, but there is
one record, with the path of the second request and the outcome of the first response. -/
theorem overlapping_exchanges_share_record :
    let agent := { AgentSettings.unset 0 with sampler := some .never }.build (Entropy.ofSeed 1)
    let settings := Settings.create .standard .standard none
    let carrier := Carrier.emptyHeaders.setAll
      [("x-b3-traceid", "000000000000000a"), ("x-b3-spanid", "000000000000000b"),
        ("x-b3-sampled", "1")]
    let first := serverReceive settings agent carrier
      (.plain (some "GET") (some "/first") none [])
    let second := serverReceive settings first.2 carrier
      (.plain (some "GET") (some "/second") none [])
    let answered := complete settings second.2 (some 500) none first.1
    let last := complete settings answered (some 200) none second.1
    first.1.idle = false ∧ second.1.idle = false ∧
      last.journal.records.map (fun record => record.tags.entries) =
        [[("error", "500"), ("http.path", "/second"), ("http.status_code", "500")]] := by
  decide +kernel

end SpanTrail.Http
