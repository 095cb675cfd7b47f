import Mathlib.Data.List.Count
import Mathlib.Data.List.Dedup
import SpanTrail.Proofs.Sampler.KeyedOrder
import SpanTrail.Proofs.Sampler.Share

/-! The share of each key.  However uses race, one candidate is kept of a key, and every
decision on the key is the next one of that candidate; so the decisions on a key come in the
cycle of one counting sampler. -/

namespace SpanTrail

namespace KeyedSampler

theorem ruling_none (index : Nat) : ruling none index = .undecided := by
  have unchanged : keptAfter none index = none := by
    induction index with
    | zero => rfl
    | succ index ih =>
        unfold keptAfter
        rw [ih]
        rfl
  unfold ruling
  rw [unchanged]
  rfl

theorem keptAfter_counting (window : WindowSampler) (count : Nat) :
    keptAfter (some (.counting window)) count = some (.counting (window.after count)) := by
  induction count with
  | zero => rfl
  | succ count ih =>
      unfold keptAfter
      rw [ih]
      rfl

theorem ruling_counting (window : WindowSampler) (index : Nat) :
    ruling (some (.counting window)) index = .decided (window.decision index) := by
  unfold ruling
  rw [keptAfter_counting]
  rfl

theorem ruling_constant {sampler : Sampler} {decision : Bool}
    (constant : sampler.ask .none = (decision, sampler)) (index : Nat) :
    ruling (some sampler) index = .decided decision := by
  have unchanged : keptAfter (some sampler) index = some sampler := by
    induction index with
    | zero => rfl
    | succ index ih =>
        unfold keptAfter
        rw [ih]
        change some (sampler.ask .none).2 = _
        rw [constant]
  unfold ruling
  rw [unchanged]
  change Sampling.decided (sampler.ask .none).1 = _
  rw [constant]

theorem decided_injective : Function.Injective Sampling.decided := by
  intro left right same
  cases left <;> cases right <;> first | rfl | cases same

/-- Any hundred rulings in a row accept as often as slots were chosen. -/
theorem count_rulings (window : WindowSampler) {start total : Nat} (inside : start + 100 ≤ total) :
    ((((List.range total).map (ruling (some (.counting window)))).drop start).take 100).count
      .accepted = window.perWindow := by
  have mapped : (List.range total).map (ruling (some (.counting window))) =
      ((List.range total).map window.decision).map Sampling.decided := by
    rw [List.map_map]
    exact List.map_congr_left fun index _ => ruling_counting window index
  rw [mapped, ← List.map_drop, ← List.map_take]
  change List.count (Sampling.decided true) _ = _
  rw [List.count_map_of_injective _ _ decided_injective]
  exact WindowSampler.count_stretch window.countP_decision inside

end KeyedSampler

namespace SharedKeyed

variable {Key : Type} [DecidableEq Key]

/-- The decisions on a key, in the order in which they are taken. -/
def samplings (shared : SharedKeyed Key) (key : Key) : List Sampling :=
  (shared.rulings.filter (·.key == key)).map Ruling.sampling

theorem Changed.known_stays {before after : SharedKeyed Key} (changed : Changed before after)
    {key : Key} {winner : Nat} (isWinner : before.known.get? key = some winner) :
    after.known.get? key = some winner := by
  cases changed with
  | stored index other found unknown moved =>
      have differs : key ≠ other := by
        rintro rfl
        rw [unknown] at isWinner
        cases isWinner
      rw [moved]
      change (before.known.insert other index).get? key = _
      rw [Table.get?_insert, if_neg differs]
      exact isWinner
  | idle same => rw [same]; exact isWinner
  | started key grown => rw [grown]; exact isWinner
  | missed index key found unknown moved => rw [moved]; exact isWinner
  | rejected index key rate draw cause found invalid moved => rw [moved]; exact isWinner
  | built index key rate draw kept found valid moved => rw [moved]; exact isWinner
  | held index key stage winner found early isKept moved => rw [moved]; exact isWinner
  | ruled index key winner found moved => rw [moved]; exact isWinner

theorem run_known_stays {before : SharedKeyed Key} {key : Key} {winner : Nat}
    (isWinner : before.known.get? key = some winner) (steps : List (KeyedStep Key)) :
    (before.run steps).known.get? key = some winner :=
  run_induction (fun shared => shared.known.get? key = some winner) isWinner
    (fun _ _ changed => changed.known_stays) steps

/-- The uses of a key from some number on have looked up no rate. -/
def Late (key : Key) (count : Nat) (lookUps : List (Nat × Option Binary))
    (uses : List (KeyedUse Key)) : Prop :=
  ∀ (index : Nat) (stage : KeyedStage), count ≤ index → uses[index]? = some ⟨key, stage⟩ →
    (stage = .started ∨ stage.winner?.isSome = true) ∧ ∀ rate, (index, rate) ∉ lookUps

section Late

variable {key : Key} {count : Nat} {lookUps : List (Nat × Option Binary)}
  {uses : List (KeyedUse Key)} {index : Nat} {other : Key} {old new : KeyedStage}

omit [DecidableEq Key] in
theorem Late.enter (late : Late key count lookUps uses)
    (found : uses[index]? = some ⟨other, old⟩)
    (onward : other = key → new = .started ∨ new.winner?.isSome = true) :
    Late key count lookUps (uses.set index ⟨other, new⟩) := by
  intro place stage isLate isUse
  rw [Lists.getElem?_set_of_some found] at isUse
  split at isUse
  · next same =>
      subst same
      cases isUse
      exact ⟨onward rfl, (late _ _ isLate found).2⟩
  · exact late _ _ isLate isUse

omit [DecidableEq Key] in
theorem Late.lookUp (late : Late key count lookUps uses)
    (found : uses[index]? = some ⟨other, .missed⟩) (rate : Option Binary) :
    Late key count (lookUps ++ [(index, rate)]) (uses.set index ⟨other, new⟩) := by
  intro place stage isLate isUse
  rw [Lists.getElem?_set_of_some found] at isUse
  split at isUse
  · next same =>
      subst same
      cases isUse
      -- A late use never misses its key, so it is not the one that looks up a rate.
      rcases (late _ _ isLate found).1 with isStarted | isSettled
      · cases isStarted
      · cases isSettled
  · next differs =>
      obtain ⟨onward, unasked⟩ := late _ _ isLate isUse
      refine ⟨onward, fun otherRate member => ?_⟩
      rcases List.mem_append.mp member with earlier | isNew
      · exact unasked otherRate earlier
      · cases List.mem_singleton.mp isNew
        exact differs rfl

end Late

theorem Late.changed {before after : SharedKeyed Key} (changed : Changed before after)
    (orderly : Orderly before) {key : Key} {count : Nat}
    (known : before.known.get? key ≠ none) (late : Late key count before.lookUps before.uses) :
    Late key count after.lookUps after.uses := by
  cases changed with
  | idle same =>
      rw [same]
      exact late
  | started other grown =>
      rw [grown]
      intro index stage isLate isUse
      change (before.uses ++ [_])[index]? = _ at isUse
      rw [Lists.getElem?_concat] at isUse
      split at isUse
      · next isNew =>
          cases isUse
          refine ⟨.inl rfl, fun rate member => ?_⟩
          -- Only uses that have started look up rates, and this number is new.
          obtain ⟨_, _, isOld, _⟩ := orderly.answered.outcome member
          rw [isNew, List.getElem?_eq_none_iff.mpr (Nat.le_refl _)] at isOld
          cases isOld
      · exact late _ _ isLate isUse
  | missed index other found unknown moved =>
      rw [moved]
      apply late.enter found
      rintro rfl
      exact absurd unknown known
  | rejected index other rate draw cause found invalid moved =>
      rw [moved]
      exact late.lookUp found rate
  | built index other rate draw kept found valid moved =>
      rw [moved]
      exact late.lookUp found rate
  | held index other stage winner found early isKept moved =>
      rw [moved]
      exact late.enter found fun _ => .inr rfl
  | stored index other found unknown moved =>
      rw [moved]
      exact late.enter found fun _ => .inr rfl
  | ruled index other winner found moved =>
      rw [moved]
      exact late.enter found fun _ => .inr rfl

theorem run_late {before : SharedKeyed Key} (orderly : Orderly before) {key : Key}
    (known : before.known.get? key ≠ none) (steps : List (KeyedStep Key)) :
    Late key before.uses.length (before.run steps).lookUps (before.run steps).uses := by
  have start : Late key before.uses.length before.lookUps before.uses := by
    intro index stage isLate isUse
    rw [List.getElem?_eq_none_iff.mpr isLate] at isUse
    cases isUse
  -- The three are carried together: a miss of the key is excluded only while it is known.
  refine (run_induction (fun shared => Orderly shared ∧ shared.known.get? key ≠ none ∧
    Late key before.uses.length shared.lookUps shared.uses) ⟨orderly, known, start⟩ ?_ steps).2.2
  rintro earlier later changed ⟨isOrderly, isKnown, late⟩
  obtain ⟨winner, isWinner⟩ := Option.ne_none_iff_exists'.mp isKnown
  refine ⟨isOrderly.changed changed, ?_, Late.changed changed isOrderly isKnown late⟩
  rw [changed.known_stays isWinner]
  exact nofun

/-! ### The decisions on a key -/

theorem Orderly.samplings_eq {shared : SharedKeyed Key} (orderly : Orderly shared) {key : Key}
    {winner : Nat} (isWinner : shared.known.get? key = some winner) :
    ∃ count, shared.samplings key =
      (List.range count).map (KeyedSampler.ruling (shared.candidates winner).first) := by
  obtain ⟨count, sofar, _⟩ := orderly.asked winner
  -- The rulings on the key are those by its winner, which wins no other key.
  refine ⟨count, Eq.trans ?_ sofar⟩
  unfold samplings
  congr 1
  apply List.filter_congr
  intro ruling member
  have isKnown := orderly.known_winner member
  rw [Bool.eq_iff_iff, beq_iff_eq, beq_iff_eq]
  constructor
  · rintro rfl
    rw [isWinner] at isKnown
    exact (Option.some.inj isKnown).symm
  · rintro rfl
    exact orderly.kept.key_unique isKnown isWinner

theorem mem_keys_iff {Value : Type} {table : Table Key Value} {key : Key} :
    key ∈ table.keys ↔ ∃ value, table.get? key = some value := by
  unfold Table.keys Table.get?
  rw [List.mem_map, ← Option.isSome_iff_exists, List.lookup_isSome_iff]
  constructor
  · rintro ⟨entry, member, rfl⟩
    exact ⟨entry, member, beq_self_eq_true _⟩
  · rintro ⟨entry, member, same⟩
    exact ⟨entry, member, (beq_iff_eq.mp same).symm⟩

/-- The stored keys are those of the uses that decide or are about to. -/
theorem Orderly.size_eq {shared : SharedKeyed Key} (orderly : Orderly shared) :
    shared.size =
      ((shared.uses.filter (·.stage.winner?.isSome)).map KeyedUse.key).dedup.length := by
  have same : shared.known.keys.Perm
      ((shared.uses.filter (·.stage.winner?.isSome)).map KeyedUse.key).dedup := by
    apply (List.perm_ext_iff_of_nodup shared.known.distinct (List.nodup_dedup _)).mpr
    intro key
    change key ∈ shared.known.keys ↔ _
    rw [List.mem_dedup, List.mem_map, mem_keys_iff]
    constructor
    · rintro ⟨winner, isKnown⟩
      obtain ⟨stage, found, isWinner⟩ := orderly.kept.winners isKnown
      refine ⟨⟨key, stage⟩, List.mem_filter.mpr ⟨List.mem_of_getElem? found, ?_⟩, rfl⟩
      exact Option.isSome_iff_exists.mpr ⟨winner, isWinner⟩
    · rintro ⟨⟨_, stage⟩, member, rfl⟩
      obtain ⟨isUse, settled⟩ := List.mem_filter.mp member
      obtain ⟨index, found⟩ := List.mem_iff_getElem?.mp isUse
      obtain ⟨winner, isWinner⟩ := Option.isSome_iff_exists.mp settled
      exact ⟨winner, orderly.kept.holders found isWinner⟩
  have lengths := same.length_eq
  unfold Table.keys at lengths
  rw [List.length_map] at lengths
  exact lengths

def Represents (shared : SharedKeyed Key) (sampler : KeyedSampler Key) : Prop :=
  sampler.known.keys = shared.known.keys ∧
    ∀ key, sampler.known.get? key =
      (shared.known.get? key).map fun winner => (shared.candidates winner).now

section Represents

variable {shared : SharedKeyed Key} {sampler : KeyedSampler Key}

theorem Represents.size_eq (represents : Represents shared sampler) :
    sampler.size = shared.size := by
  have lengths := congrArg List.length represents.1
  unfold Table.keys at lengths
  rw [List.length_map, List.length_map] at lengths
  exact lengths

theorem Represents.build (represents : Represents shared sampler) {index : Nat}
    (unknown : ∀ key, shared.known.get? key ≠ some index) (kept : Option Sampler) :
    Represents (shared.build index kept) sampler := by
  refine ⟨represents.1, fun key => ?_⟩
  rw [represents.2]
  change _ = (shared.known.get? key).map _
  cases isKnown : shared.known.get? key with
  | none => rfl
  | some winner =>
      have differs : winner ≠ index := by
        rintro rfl
        exact unknown key isKnown
      change some _ = some (Function.update shared.candidates index _ winner).now
      rw [Function.update_of_ne differs]

theorem Represents.store (represents : Represents shared sampler) {key : Key}
    (unknown : shared.known.get? key = none) (index : Nat) :
    Represents { shared with known := shared.known.insert key index }
      (sampler.store key (shared.candidates index).now) := by
  have absent : sampler.known.contains key = false := by
    unfold Table.contains
    rw [represents.2, unknown]
    rfl
  unfold KeyedSampler.store
  rw [if_neg (by rw [absent]; exact Bool.false_ne_true)]
  constructor
  · change (Table.insertEntry _ _ _).map Prod.fst = (Table.insertEntry _ _ _).map Prod.fst
    rw [Table.keys_insertEntry, Table.keys_insertEntry]
    have keys := represents.1
    unfold Table.keys at keys
    rw [keys]
  · intro other
    change (sampler.known.insert _ _).get? other = ((shared.known.insert _ _).get? other).map _
    rw [Table.get?_insert, Table.get?_insert]
    split
    · rfl
    · exact represents.2 other

def Apart (known : Table Key Nat) : Prop :=
  ∀ key other winner, known.get? key = some winner → known.get? other = some winner → key = other

theorem Apart.insert {known : Table Key Nat} (apart : Apart known) {index : Nat}
    (unused : ∀ key, known.get? key ≠ some index) (key : Key) :
    Apart (known.insert key index) := by
  intro left right winner isLeft isRight
  rw [Table.get?_insert] at isLeft isRight
  split at isLeft
  · next leftIsKey =>
      cases isLeft
      split at isRight
      · next rightIsKey => rw [leftIsKey, rightIsKey]
      · exact absurd isRight (unused right)
  · split at isRight
    · cases isRight
      exact absurd isLeft (unused left)
    · exact apart left right winner isLeft isRight

theorem rule_now (apart : Apart shared.known) {key : Key} {winner : Nat}
    (isWinner : shared.known.get? key = some winner) (index : Nat) (other : Key) :
    (shared.known.get? other).map
        (fun which => ((shared.rule index key winner).candidates which).now) =
      if other = key then some (KeyedSampler.rule (shared.candidates winner).now).2
      else (shared.known.get? other).map fun which => (shared.candidates which).now := by
  split
  · next same =>
      rw [same, isWinner]
      change some (Function.update shared.candidates winner _ winner).now = _
      rw [Function.update_self]
      rfl
  · next differs =>
      cases isOther : shared.known.get? other with
      | none => rfl
      | some which =>
          have otherWinner : which ≠ winner := by
            rintro rfl
            exact differs (apart _ _ _ isOther isWinner)
          change some (Function.update shared.candidates winner _ which).now = _
          rw [Function.update_of_ne otherWinner]
          rfl

theorem decide_kept {key : Key} {kept : Option Sampler}
    (isKept : sampler.known.get? key = some kept) :
    (sampler.decide key).1 = (KeyedSampler.rule kept).1 ∧
      (sampler.decide key).2.known.keys = sampler.known.keys ∧
      ∀ other, (sampler.decide key).2.known.get? other =
        if other = key then some (KeyedSampler.rule kept).2 else sampler.known.get? other := by
  unfold KeyedSampler.decide
  rw [isKept]
  cases kept with
  | none =>
      refine ⟨rfl, rfl, fun other => ?_⟩
      by_cases same : other = key
      · rw [if_pos same, same]
        exact isKept
      · rw [if_neg same]
  | some inner =>
      refine ⟨rfl, ?_, fun other => Table.get?_insert ..⟩
      have isKey : key ∈ sampler.known.keys := mem_keys_iff.mpr ⟨_, isKept⟩
      exact (Table.keys_insertEntry ..).trans (if_pos isKey)

theorem Represents.decide (represents : Represents shared sampler)
    (apart : Apart shared.known) {key : Key} {winner : Nat}
    (isWinner : shared.known.get? key = some winner) (index : Nat) :
    (sampler.decide key).1 = (KeyedSampler.rule (shared.candidates winner).now).1 ∧
      Represents (shared.rule index key winner) (sampler.decide key).2 := by
  have isKept : sampler.known.get? key = some (shared.candidates winner).now := by
    rw [represents.2, isWinner]
    rfl
  obtain ⟨decision, keys, look⟩ := decide_kept isKept
  refine ⟨decision, keys.trans represents.1, fun other => ?_⟩
  rw [look, represents.2]
  exact (rule_now apart isWinner index other).symm

omit [DecidableEq Key] in
theorem rule_result {index : Nat} {key : Key} {stage : KeyedStage}
    (found : shared.uses[index]? = some ⟨key, stage⟩) (winner : Nat) :
    ((shared.rule index key winner).uses[index]?.bind fun use => use.stage.result?) =
      some (.ok (KeyedSampler.rule (shared.candidates winner).now).1) := by
  change ((shared.uses.set index _)[index]?.bind _) = _
  rw [Lists.getElem?_set_of_some found, if_pos rfl]
  rfl

/-- A use that no other disturbs is a use of the keyed sampler. -/
theorem run_wholeUse (orderly : Orderly shared) (represents : Represents shared sampler)
    (rates : Key → Option Binary) (draw : Nat → Nat) (key : Key) :
    let index := shared.uses.length
    let use := sampler.sample rates draw (some key)
    let after := shared.run (wholeUse key index (rates key) draw)
    Represents after use.sampler ∧
      (after.uses[index]?.bind fun other => other.stage.result?) = some use.result ∧
      after.lookUps = shared.lookUps ++ if use.lookedUp then [(index, rates key)] else [] := by
  intro index use after
  have isStarted := shared.start_found key
  have apart : Apart shared.known := fun _ _ _ => orderly.kept.key_unique
  have unused : ∀ other, shared.known.get? other ≠ some index := by
    intro other isKnown
    obtain ⟨_, found, _⟩ := orderly.kept.winners isKnown
    rw [List.getElem?_eq_none_iff.mpr (Nat.le_refl _)] at found
    cases found
  have contains : sampler.known.contains key = (shared.known.get? key).isSome := by
    unfold Table.contains
    rw [represents.2, Option.isSome_map]
  have isUse : use = sampler.sample rates draw (some key) := rfl
  unfold KeyedSampler.sample at isUse
  dsimp only at isUse
  rw [contains] at isUse
  -- A use goes one of three ways: its key is known, its rate is refused, or it wins.
  cases isKnown : shared.known.get? key with
  | some winner =>
      rw [isKnown] at isUse
      have isAfter : after = _ := run_known isKnown (rates key) draw
      have holding : Represents ((shared.start key).enter index key (.holding winner)) sampler :=
        represents
      obtain ⟨decision, still⟩ := holding.decide apart isKnown index
      rw [isUse, isAfter]
      refine ⟨still, ?_, (List.append_nil _).symm⟩
      rw [rule_result (enter_found _ isStarted (.holding winner))]
      exact congrArg (fun sampling => some (Except.ok sampling)) decision.symm
  | none =>
      rw [isKnown] at isUse
      cases built : KeyedSampler.candidate (rates key) draw with
      | error cause =>
          rw [built] at isUse
          have isAfter : after = _ := run_refused isKnown built
          rw [isUse, isAfter]
          refine ⟨represents, ?_, rfl⟩
          have isMissed := enter_found _ isStarted .missed
          rw [enter_found (((shared.start key).enter index key .missed).ask index _) isMissed]
          rfl
      | ok kept =>
          rw [built] at isUse
          have isAfter : after = _ := run_stored isKnown built
          have isMissed := enter_found _ isStarted .missed
          let waiting : SharedKeyed Key :=
            ((((shared.start key).enter index key .missed).ask index (rates key)).build index
              kept).enter index key .built
          have isBuilt : waiting.uses[index]? = some ⟨key, .built⟩ :=
            enter_found ((((shared.start key).enter index key .missed).ask index _).build index
              kept) isMissed .built
          let stored : SharedKeyed Key :=
            { waiting with known := shared.known.insert key index }.enter index key (.holding index)
          have isHolding : stored.uses[index]? = some ⟨key, .holding index⟩ :=
            enter_found { waiting with known := shared.known.insert key index } isBuilt _
          have isKept : (waiting.candidates index).now = kept := by
            change (Function.update shared.candidates index _ index).now = kept
            rw [Function.update_self]
          have building : Represents waiting sampler := represents.build unused kept
          have storing : Represents stored (sampler.store key kept) := by
            have kept := building.store isKnown index
            rw [isKept] at kept
            exact kept
          have isWinner : stored.known.get? key = some index := by
            change (shared.known.insert key index).get? key = _
            rw [Table.get?_insert, if_pos rfl]
          obtain ⟨decision, still⟩ := storing.decide (apart.insert unused key) isWinner index
          rw [isUse, isAfter]
          refine ⟨still, ?_, rfl⟩
          rw [rule_result isHolding]
          exact congrArg (fun sampling => some (Except.ok sampling)) decision.symm

end Represents

section Sources

variable {shared : SharedKeyed Key} (orderly : Orderly shared)
include orderly

theorem Orderly.origin {key : Key} {winner : Nat}
    (isWinner : shared.known.get? key = some winner) :
    ∃ rate draw, (winner, rate) ∈ shared.lookUps ∧
      KeyedSampler.candidate rate draw = .ok (shared.candidates winner).first := by
  obtain ⟨stage, found, settled⟩ := orderly.kept.winners isWinner
  obtain ⟨rate, member⟩ := orderly.answered.source found (lookedUp_of_winner settled)
  obtain ⟨_, _, same, outcome⟩ := orderly.answered.outcome member
  rw [found] at same
  cases same
  cases outcome with
  | refused cause isRefused => cases settled
  | accepted _ draw valid onward => exact ⟨rate, draw, member, valid⟩

theorem Orderly.failed_of_refused {index : Nat} {rate : Option Binary} {cause : TracingError}
    (member : (index, rate) ∈ shared.lookUps) (refused : KeyedSampler.Refused rate cause) :
    ∃ key, shared.uses[index]? = some ⟨key, .failed cause⟩ := by
  obtain ⟨key, stage, found, outcome⟩ := orderly.answered.outcome member
  refine ⟨key, ?_⟩
  cases outcome with
  | refused other isRefused =>
      obtain ⟨number, isRate, _, isCause⟩ := refused
      obtain ⟨_, same, _, isOther⟩ := isRefused
      rw [isRate] at same
      cases same
      rw [found, isCause, isOther]
  | accepted _ draw valid onward =>
      rw [KeyedSampler.candidate_error_iff.mpr refused] at valid
      cases valid

theorem Orderly.not_stored {index : Nat} {key : Key} {cause : TracingError}
    (failed : shared.uses[index]? = some ⟨key, .failed cause⟩) (other : Key) :
    shared.known.get? other ≠ some index := by
  intro isWinner
  obtain ⟨_, found, settled⟩ := orderly.kept.winners isWinner
  rw [failed] at found
  cases found
  cases settled

theorem Orderly.refused_of_failed {index : Nat} {key : Key} {cause : TracingError}
    (failed : shared.uses[index]? = some ⟨key, .failed cause⟩) :
    ∃ rate, (index, some rate) ∈ shared.lookUps ∧ ¬rate.IsShare := by
  obtain ⟨rate, member⟩ := orderly.answered.source failed trivial
  obtain ⟨_, _, same, outcome⟩ := orderly.answered.outcome member
  rw [failed] at same
  cases same
  cases outcome with
  | refused _ isRefused =>
      obtain ⟨number, isRate, refused, _⟩ := isRefused
      rw [isRate] at member
      exact ⟨number, member, refused⟩
  | accepted _ draw valid onward =>
      rcases onward with same | settled
      · cases same
      · cases settled

end Sources

/-! ### Any run -/

/-- Of each key one candidate is stored and never replaced, and every decision on the key is
the next one of that candidate: for a counting sampler they come in a cycle of a hundred, and
any hundred in a row accept as often as slots were chosen.  A use fails exactly for a rate
that is no share, and then nothing of it is stored; a use that starts when its key is known
looks up no rate. -/
theorem one_candidate_by_key (front back : List (KeyedStep Key)) :
    let before := (empty : SharedKeyed Key).run front
    let after := (empty : SharedKeyed Key).run (front ++ back)
    (∀ key winner, before.known.get? key = some winner →
      after.known.get? key = some winner) ∧
    (∀ (index : Nat) key winner sampling,
      after.uses[index]? = some ⟨key, .decided winner sampling⟩ →
        after.known.get? key = some winner ∧
          after.rulings.filter (·.use == index) = [⟨index, key, winner, sampling⟩]) ∧
    (∀ key winner, after.known.get? key = some winner →
      let kept := (after.candidates winner).first
      (∃ rate draw, (winner, rate) ∈ after.lookUps ∧
        KeyedSampler.candidate rate draw = .ok kept) ∧
      (∃ total, after.samplings key = (List.range total).map (KeyedSampler.ruling kept)) ∧
      (∀ sampling ∈ after.samplings key,
        (kept = none → sampling = .undecided) ∧ (kept = some .always → sampling = .accepted) ∧
          (kept = some .never → sampling = .rejected)) ∧
      ∀ window, kept = some (.counting window) →
        (∀ index, KeyedSampler.ruling kept (index + 100) = KeyedSampler.ruling kept index) ∧
        ∀ start, start + 100 ≤ (after.samplings key).length →
          (((after.samplings key).drop start).take 100).count .accepted = window.perWindow) ∧
    (∀ (index : Nat) rate, (index, some rate) ∈ after.lookUps → ¬rate.IsShare →
      (∃ key, after.uses[index]? =
        some ⟨key, .failed (.invalidArgument (.rateOutOfRange rate))⟩) ∧
      ∀ key, after.known.get? key ≠ some index) ∧
    (∀ (index : Nat) key cause, after.uses[index]? = some ⟨key, .failed cause⟩ →
      ∃ rate, (index, some rate) ∈ after.lookUps ∧ ¬rate.IsShare) ∧
    (∀ (index : Nat) key stage, (before.known.get? key).isSome = true →
      before.uses.length ≤ index → after.uses[index]? = some ⟨key, stage⟩ →
        ∀ rate, (index, rate) ∉ after.lookUps) ∧
    after.size = ((after.uses.filter (·.stage.winner?.isSome)).map KeyedUse.key).dedup.length := by
  intro before after
  have orderly : Orderly after := run_orderly (front ++ back)
  have isAfter : after = before.run back := run_append empty front back
  refine ⟨?_, ?_, ?_, ?_, ?_, ?_, orderly.size_eq⟩
  · intro key winner isWinner
    rw [isAfter]
    exact run_known_stays isWinner back
  · intro index key winner sampling found
    refine ⟨orderly.kept.holders found rfl, ?_⟩
    rw [orderly.logged, found]
    rfl
  · intro key winner isWinner kept
    obtain ⟨total, sofar⟩ := orderly.samplings_eq isWinner
    refine ⟨orderly.origin isWinner, ⟨total, sofar⟩, ?_, ?_⟩
    · intro sampling member
      rw [sofar] at member
      obtain ⟨index, _, rfl⟩ := List.mem_map.mp member
      refine ⟨fun isNone => ?_, fun isConstant => ?_, fun isConstant => ?_⟩
      · exact (congrArg (KeyedSampler.ruling · index) isNone).trans (KeyedSampler.ruling_none index)
      · have always : Sampler.always.ask .none = (true, .always) := rfl
        exact (congrArg (KeyedSampler.ruling · index) isConstant).trans
          (KeyedSampler.ruling_constant always index)
      · have never : Sampler.never.ask .none = (false, .never) := rfl
        exact (congrArg (KeyedSampler.ruling · index) isConstant).trans
          (KeyedSampler.ruling_constant never index)
    · intro window isCounting
      rw [sofar, show (after.candidates winner).first = _ from isCounting, isCounting]
      refine ⟨fun index => ?_, fun start inside => ?_⟩
      · rw [KeyedSampler.ruling_counting, KeyedSampler.ruling_counting]
        exact congrArg Sampling.decided (window.decision_periodic index)
      · rw [List.length_map, List.length_range] at inside
        exact KeyedSampler.count_rulings window inside
  · intro index rate member invalid
    obtain ⟨key, failed⟩ := orderly.failed_of_refused member ⟨rate, rfl, invalid, rfl⟩
    exact ⟨⟨key, failed⟩, orderly.not_stored failed⟩
  · intro index key cause failed
    exact orderly.refused_of_failed failed
  · intro index key stage known isLate found
    rw [isAfter] at found ⊢
    have stored := Option.isSome_iff_ne_none.mp known
    exact (run_late (run_orderly front) stored back _ _ isLate found).2

end SharedKeyed

end SpanTrail
