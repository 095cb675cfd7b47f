import Mathlib.Data.List.Basic
import SpanTrail.Proofs.Lists
import SpanTrail.Proofs.Sampler.KeyedUses
import SpanTrail.Proofs.Sampler.Rate

/-! What holds of the uses of a keyed sampler, however they race: which candidates are kept,
what comes of the rates that are looked up, and how the rulings by each candidate and of each
use follow one another. -/

namespace SpanTrail

namespace KeyedSampler

def keptAfter (kept : Option Sampler) : Nat → Option Sampler
  | 0 => kept
  | count + 1 => (rule (keptAfter kept count)).2

def ruling (kept : Option Sampler) (index : Nat) : Sampling :=
  (rule (keptAfter kept index)).1

end KeyedSampler

namespace SharedKeyed

variable {Key : Type}

/-- How far a use can be that has looked up a rate and built a candidate, if it could. -/
inductive Outcome (rate : Option Binary) (kept : Option Sampler) : KeyedStage → Prop where
  | refused (cause : TracingError) (isRefused : KeyedSampler.Refused rate cause) :
      Outcome rate kept (.failed cause)
  | accepted (stage : KeyedStage) (draw : Nat → Nat)
      (valid : KeyedSampler.candidate rate draw = .ok kept)
      (onward : stage = .built ∨ stage.winner?.isSome = true) : Outcome rate kept stage

/-- Whether a use that is so far has looked up a rate, or need not have. -/
def LookedUp (index : Nat) : KeyedStage → Prop
  | .built | .failed _ => True
  | .holding winner | .decided winner _ => winner = index
  | _ => False

theorem lookedUp_of_winner {index : Nat} {stage : KeyedStage}
    (isWinner : stage.winner? = some index) : LookedUp index stage := by
  cases stage with
  | holding winner => exact Option.some.inj isWinner
  | decided winner sampling => exact Option.some.inj isWinner
  | _ => cases isWinner

structure Answered (lookUps : List (Nat × Option Binary)) (first : Nat → Option Sampler)
    (uses : List (KeyedUse Key)) : Prop where
  outcome : ∀ {index : Nat} {rate : Option Binary}, (index, rate) ∈ lookUps →
    ∃ key stage, uses[index]? = some ⟨key, stage⟩ ∧ Outcome rate (first index) stage
  source : ∀ {index : Nat} {key : Key} {stage : KeyedStage}, uses[index]? = some ⟨key, stage⟩ →
    LookedUp index stage → ∃ rate, (index, rate) ∈ lookUps

section Answered

variable {lookUps : List (Nat × Option Binary)} {first : Nat → Option Sampler}
  {uses : List (KeyedUse Key)} {index : Nat} {key : Key} {old new : KeyedStage}

theorem Answered.start (answered : Answered lookUps first uses) (key : Key) :
    Answered lookUps first (uses ++ [⟨key, .started⟩]) where
  outcome := by
    intro index rate member
    obtain ⟨other, stage, found, outcome⟩ := answered.outcome member
    obtain ⟨inside, _⟩ := List.getElem?_eq_some_iff.mp found
    rw [Lists.getElem?_concat, if_neg (Nat.ne_of_lt inside)]
    exact ⟨other, stage, found, outcome⟩
  source := by
    intro index other stage found lookedUp
    rw [Lists.getElem?_concat] at found
    split at found
    · cases found
      cases lookedUp
    · exact answered.source found lookedUp

theorem Answered.enter (answered : Answered lookUps first uses)
    (found : uses[index]? = some ⟨key, old⟩)
    (onward : ∀ rate, Outcome rate (first index) old → Outcome rate (first index) new)
    (back : LookedUp index new → LookedUp index old) :
    Answered lookUps first (uses.set index ⟨key, new⟩) where
  outcome := by
    intro other rate member
    obtain ⟨otherKey, stage, isUse, outcome⟩ := answered.outcome member
    rw [Lists.getElem?_set_of_some found]
    split
    · next same =>
        subst same
        rw [found] at isUse
        cases isUse
        exact ⟨_, new, rfl, onward rate outcome⟩
    · exact ⟨otherKey, stage, isUse, outcome⟩
  source := by
    intro other otherKey stage isUse lookedUp
    rw [Lists.getElem?_set_of_some found] at isUse
    split at isUse
    · next same =>
        subst same
        cases isUse
        exact answered.source found (back lookedUp)
    · exact answered.source isUse lookedUp

theorem Outcome.not_early {rate : Option Binary} {kept : Option Sampler} {stage : KeyedStage}
    (outcome : Outcome rate kept stage) : stage ≠ .started ∧ stage ≠ .missed := by
  cases outcome with
  | refused cause isRefused => exact ⟨nofun, nofun⟩
  | accepted stage draw valid onward =>
      constructor
      · rintro rfl
        rcases onward with same | isWinner
        · cases same
        · cases isWinner
      · rintro rfl
        rcases onward with same | isWinner
        · cases same
        · cases isWinner

theorem Outcome.settle {rate : Option Binary} {kept : Option Sampler} {old new : KeyedStage}
    (outcome : Outcome rate kept old) (alive : ∀ cause, old ≠ .failed cause)
    (settled : new.winner?.isSome = true) : Outcome rate kept new := by
  cases outcome with
  | refused cause isRefused => exact absurd rfl (alive cause)
  | accepted stage draw valid onward => exact .accepted new draw valid (.inr settled)

theorem Answered.lookUp (answered : Answered lookUps first uses)
    (found : uses[index]? = some ⟨key, .missed⟩) {rate : Option Binary} {kept : Option Sampler}
    (outcome : Outcome rate kept new) :
    Answered (lookUps ++ [(index, rate)]) (Function.update first index kept)
      (uses.set index ⟨key, new⟩) where
  outcome := by
    intro other otherRate member
    rw [Lists.getElem?_set_of_some found]
    rcases List.mem_append.mp member with earlier | isNew
    · -- An earlier look-up was by another use, since this one is still before its own.
      obtain ⟨otherKey, stage, isUse, otherOutcome⟩ := answered.outcome earlier
      have differs : other ≠ index := by
        rintro rfl
        rw [found] at isUse
        cases isUse
        exact otherOutcome.not_early.2 rfl
      rw [if_neg differs, Function.update_of_ne differs]
      exact ⟨otherKey, stage, isUse, otherOutcome⟩
    · cases List.mem_singleton.mp isNew
      rw [if_pos rfl, Function.update_self]
      exact ⟨key, new, rfl, outcome⟩
  source := by
    intro other otherKey stage isUse lookedUp
    rw [Lists.getElem?_set_of_some found] at isUse
    split at isUse
    · next same =>
        subst same
        exact ⟨rate, List.mem_append_right _ (List.mem_singleton_self _)⟩
    · obtain ⟨otherRate, member⟩ := answered.source isUse lookedUp
      exact ⟨otherRate, List.mem_append_left _ member⟩

end Answered

/-! ### The rulings by each candidate -/

def Asked (rulings : List (Ruling Key)) (candidates : Nat → Candidate) : Prop :=
  ∀ winner, ∃ count,
    (rulings.filter (·.winner == winner)).map Ruling.sampling =
      (List.range count).map (KeyedSampler.ruling (candidates winner).first) ∧
    (candidates winner).now = KeyedSampler.keptAfter (candidates winner).first count

theorem Asked.build {rulings : List (Ruling Key)} {candidates : Nat → Candidate}
    (asked : Asked rulings candidates) {index : Nat}
    (unused : ∀ ruling ∈ rulings, ruling.winner ≠ index) (kept : Option Sampler) :
    Asked rulings (Function.update candidates index ⟨kept, kept⟩) := by
  intro winner
  by_cases same : winner = index
  · have none : rulings.filter (·.winner == winner) = [] := by
      apply List.filter_eq_nil_iff.mpr
      intro ruling member isOwn
      exact unused ruling member ((beq_iff_eq.mp isOwn).trans same)
    rw [none, same, Function.update_self]
    exact ⟨0, rfl, rfl⟩
  · rw [Function.update_of_ne same]
    exact asked winner

theorem Asked.rule {rulings : List (Ruling Key)} {candidates : Nat → Candidate}
    (asked : Asked rulings candidates) (use : Nat) (key : Key) (winner : Nat) :
    let ruled := KeyedSampler.rule (candidates winner).now
    Asked (rulings ++ [⟨use, key, winner, ruled.1⟩])
      (Function.update candidates winner ⟨(candidates winner).first, ruled.2⟩) := by
  intro ruled other
  obtain ⟨count, sofar, now⟩ := asked other
  rw [List.filter_append, List.map_append, sofar]
  by_cases same : other = winner
  · subst same
    rw [Function.update_self, List.filter_singleton, beq_self_eq_true]
    refine ⟨count + 1, ?_, ?_⟩
    · rw [List.range_succ, List.map_append]
      change _ ++ [(KeyedSampler.rule (candidates other).now).1] = _
      rw [now]
      rfl
    · change (KeyedSampler.rule (candidates other).now).2 = _
      rw [now]
      rfl
  · rw [Function.update_of_ne same, List.filter_singleton, beq_false_of_ne (Ne.symm same)]
    exact ⟨count, List.append_nil _, now⟩

def rulingOf? (index : Nat) (use : KeyedUse Key) : Option (Ruling Key) :=
  match use.stage with
  | .decided winner sampling => some ⟨index, use.key, winner, sampling⟩
  | _ => none

def Logged (rulings : List (Ruling Key)) (uses : List (KeyedUse Key)) : Prop :=
  ∀ index, rulings.filter (·.use == index) = (uses[index]?.bind (rulingOf? index)).toList

section Logged

variable {rulings : List (Ruling Key)} {uses : List (KeyedUse Key)} {index : Nat} {key : Key}
  {old new : KeyedStage}

theorem Logged.found (logged : Logged rulings uses) {ruling : Ruling Key}
    (member : ruling ∈ rulings) :
    uses[ruling.use]? = some ⟨ruling.key, .decided ruling.winner ruling.sampling⟩ := by
  -- The log of the use has one entry at most, so it is this one.
  have own : ruling ∈ rulings.filter (·.use == ruling.use) :=
    List.mem_filter.mpr ⟨member, beq_self_eq_true _⟩
  rw [logged, Option.mem_toList] at own
  obtain ⟨⟨key, stage⟩, isUse, isRuling⟩ := Option.bind_eq_some_iff.mp own
  rw [isUse]
  unfold rulingOf? at isRuling
  split at isRuling
  · next winner sampling isDecided =>
      rw [← Option.some.inj isRuling]
      exact congrArg (fun stage => some (KeyedUse.mk key stage)) isDecided
  · cases isRuling

theorem Logged.start (logged : Logged rulings uses) (key : Key) :
    Logged rulings (uses ++ [⟨key, .started⟩]) := by
  intro index
  rw [logged, Lists.getElem?_concat]
  split
  · next isNew =>
      rw [isNew, List.getElem?_eq_none_iff.mpr (Nat.le_refl _)]
      rfl
  · rfl

theorem Logged.enter (logged : Logged rulings uses) (found : uses[index]? = some ⟨key, old⟩)
    (early : rulingOf? index ⟨key, old⟩ = none) (pending : rulingOf? index ⟨key, new⟩ = none) :
    Logged rulings (uses.set index ⟨key, new⟩) := by
  intro other
  rw [logged, Lists.getElem?_set_of_some found]
  split
  · next same =>
      rw [same, found]
      exact congrArg Option.toList (early.trans pending.symm)
  · rfl

theorem Logged.rule (logged : Logged rulings uses) (found : uses[index]? = some ⟨key, old⟩)
    (early : rulingOf? index ⟨key, old⟩ = none) (winner : Nat) (sampling : Sampling) :
    Logged (rulings ++ [⟨index, key, winner, sampling⟩])
      (uses.set index ⟨key, .decided winner sampling⟩) := by
  intro other
  rw [List.filter_append, logged, Lists.getElem?_set_of_some found, List.filter_singleton]
  by_cases same : other = index
  · rw [if_pos same, same, found, beq_self_eq_true]
    change Option.toList (rulingOf? index ⟨key, old⟩) ++ _ = _
    rw [early]
    rfl
  · rw [if_neg same, beq_false_of_ne (Ne.symm same)]
    exact List.append_nil _

end Logged

variable [DecidableEq Key]

/-! ### What is kept of the keys -/

/-- Every use that decides or is about to decides by what is kept of its key, which is the
candidate of a use of the key. -/
structure Kept (known : Table Key Nat) (uses : List (KeyedUse Key)) : Prop where
  holders : ∀ {index : Nat} {key : Key} {stage : KeyedStage} {winner : Nat},
    uses[index]? = some ⟨key, stage⟩ → stage.winner? = some winner →
      known.get? key = some winner
  winners : ∀ {key : Key} {winner : Nat}, known.get? key = some winner →
    ∃ stage, uses[winner]? = some ⟨key, stage⟩ ∧ stage.winner? = some winner

section Kept

variable {known : Table Key Nat} {uses : List (KeyedUse Key)} {index : Nat} {key : Key}
  {old new : KeyedStage}

theorem Kept.start (kept : Kept known uses) (key : Key) :
    Kept known (uses ++ [⟨key, .started⟩]) where
  holders := by
    intro index other stage winner found isWinner
    rw [Lists.getElem?_concat] at found
    split at found
    · cases found
      cases isWinner
    · exact kept.holders found isWinner
  winners := by
    intro other winner isKnown
    obtain ⟨stage, found, isWinner⟩ := kept.winners isKnown
    obtain ⟨inside, _⟩ := List.getElem?_eq_some_iff.mp found
    rw [Lists.getElem?_concat, if_neg (Nat.ne_of_lt inside)]
    exact ⟨stage, found, isWinner⟩

theorem Kept.enter (kept : Kept known uses) (found : uses[index]? = some ⟨key, old⟩)
    (stays : ∀ winner, old.winner? = some winner → new.winner? = some winner)
    (isKept : ∀ winner, new.winner? = some winner → known.get? key = some winner) :
    Kept known (uses.set index ⟨key, new⟩) where
  holders := by
    intro other otherKey stage winner isOther isWinner
    rw [Lists.getElem?_set_of_some found] at isOther
    split at isOther
    · cases isOther
      exact isKept winner isWinner
    · exact kept.holders isOther isWinner
  winners := by
    intro other winner isKnown
    obtain ⟨stage, isUse, isWinner⟩ := kept.winners isKnown
    rw [Lists.getElem?_set_of_some found]
    split
    · next same =>
        rw [same, found] at isUse
        cases isUse
        exact ⟨new, rfl, stays winner isWinner⟩
    · exact ⟨stage, isUse, isWinner⟩

theorem Kept.store (kept : Kept known uses) (found : uses[index]? = some ⟨key, .built⟩)
    (unknown : known.get? key = none) :
    Kept (known.insert key index) (uses.set index ⟨key, .holding index⟩) where
  holders := by
    intro other otherKey stage winner isOther isWinner
    rw [Lists.getElem?_set_of_some found] at isOther
    rw [Table.get?_insert]
    split at isOther
    · cases isOther
      rw [if_pos rfl]
      exact isWinner
    · -- A use that holds a candidate is of a key that was known already.
      have isKnown := kept.holders isOther isWinner
      have differs : otherKey ≠ key := by
        rintro rfl
        rw [unknown] at isKnown
        cases isKnown
      rw [if_neg differs]
      exact isKnown
  winners := by
    intro other winner isKnown
    rw [Table.get?_insert] at isKnown
    rw [Lists.getElem?_set_of_some found]
    split at isKnown
    · next same =>
        cases isKnown
        rw [if_pos rfl, same]
        exact ⟨_, rfl, rfl⟩
    · obtain ⟨stage, isUse, isWinner⟩ := kept.winners isKnown
      have differs : winner ≠ index := by
        rintro rfl
        rw [found] at isUse
        cases isUse
        cases isWinner
      rw [if_neg differs]
      exact ⟨stage, isUse, isWinner⟩

theorem Kept.key_unique (kept : Kept known uses) {other : Key} {winner : Nat}
    (isKnown : known.get? key = some winner) (isOther : known.get? other = some winner) :
    key = other := by
  obtain ⟨_, isUse, _⟩ := kept.winners isKnown
  obtain ⟨_, same, _⟩ := kept.winners isOther
  rw [isUse] at same
  cases same
  rfl

end Kept

structure Orderly (shared : SharedKeyed Key) : Prop where
  kept : Kept shared.known shared.uses
  answered : Answered shared.lookUps (Candidate.first ∘ shared.candidates) shared.uses
  asked : Asked shared.rulings shared.candidates
  logged : Logged shared.rulings shared.uses

theorem empty_orderly : Orderly (empty : SharedKeyed Key) where
  kept := ⟨nofun, nofun⟩
  answered := ⟨nofun, nofun⟩
  asked := fun _ => ⟨0, rfl, rfl⟩
  logged := fun _ => rfl

theorem Orderly.known_winner {shared : SharedKeyed Key} (orderly : Orderly shared)
    {ruling : Ruling Key} (member : ruling ∈ shared.rulings) :
    shared.known.get? ruling.key = some ruling.winner :=
  orderly.kept.holders (orderly.logged.found member) rfl

theorem Orderly.unused {shared : SharedKeyed Key} (orderly : Orderly shared) {index : Nat}
    {key : Key} {stage : KeyedStage} (found : shared.uses[index]? = some ⟨key, stage⟩)
    (early : stage.winner? = none) : ∀ ruling ∈ shared.rulings, ruling.winner ≠ index := by
  intro ruling member same
  obtain ⟨winnerStage, isUse, isWinner⟩ := orderly.kept.winners (orderly.known_winner member)
  rw [same, found] at isUse
  cases isUse
  rw [early] at isWinner
  cases isWinner

theorem Orderly.changed {before after : SharedKeyed Key} (changed : Changed before after)
    (orderly : Orderly before) : Orderly after := by
  cases changed with
  | idle same =>
      rw [same]
      exact orderly
  | started key grown =>
      rw [grown]
      exact ⟨orderly.kept.start key, orderly.answered.start key, orderly.asked,
        orderly.logged.start key⟩
  | missed index key found unknown moved =>
      rw [moved]
      refine ⟨orderly.kept.enter found nofun nofun, orderly.answered.enter found ?_ nofun,
        orderly.asked, orderly.logged.enter found rfl rfl⟩
      intro rate outcome
      exact absurd rfl outcome.not_early.1
  | rejected index key rate draw cause found invalid moved =>
      rw [moved]
      have refused := KeyedSampler.candidate_error_iff.mp invalid
      have outcome : Outcome rate ((Candidate.first ∘ before.candidates) index) (.failed cause) :=
        .refused cause refused
      have answered := orderly.answered.lookUp found outcome
      rw [Function.update_eq_self] at answered
      exact ⟨orderly.kept.enter found nofun nofun, answered, orderly.asked,
        orderly.logged.enter found rfl rfl⟩
  | built index key rate draw kept found valid moved =>
      rw [moved]
      refine ⟨orderly.kept.enter found nofun nofun, ?_,
        orderly.asked.build (orderly.unused found rfl) kept, orderly.logged.enter found rfl rfl⟩
      change Answered _ (Candidate.first ∘ Function.update _ _ _) _
      rw [Function.comp_update]
      exact orderly.answered.lookUp found (.accepted .built draw valid (.inl rfl))
  | held index key stage winner found early isWinner moved =>
      rw [moved]
      have isKept : ∀ other, (KeyedStage.holding winner).winner? = some other →
          before.known.get? key = some other := by
        intro other same
        exact isWinner.trans same
      rcases early with rfl | rfl
      · refine ⟨orderly.kept.enter found nofun isKept, orderly.answered.enter found ?_ ?_,
          orderly.asked, orderly.logged.enter found rfl rfl⟩
        · intro rate outcome
          exact absurd rfl outcome.not_early.1
        · rintro rfl
          -- Of a key that is known, the winner has started earlier.
          obtain ⟨_, isUse, isSettled⟩ := orderly.kept.winners isWinner
          rw [found] at isUse
          cases isUse
          cases isSettled
      · exact ⟨orderly.kept.enter found nofun isKept,
          orderly.answered.enter found (fun _ outcome => outcome.settle nofun rfl)
            fun _ => trivial,
          orderly.asked, orderly.logged.enter found rfl rfl⟩
  | stored index key found unknown moved =>
      rw [moved]
      exact ⟨orderly.kept.store found unknown,
        orderly.answered.enter found (fun _ outcome => outcome.settle nofun rfl) fun _ => trivial,
        orderly.asked, orderly.logged.enter found rfl rfl⟩
  | ruled index key winner found moved =>
      rw [moved]
      have first : Candidate.first ∘ (before.rule index key winner).candidates =
          Candidate.first ∘ before.candidates := by
        change Candidate.first ∘ Function.update _ _ _ = _
        rw [Function.comp_update]
        exact Function.update_eq_self winner _
      refine ⟨orderly.kept.enter found (fun _ same => same) ?_, ?_,
        orderly.asked.rule index key winner, orderly.logged.rule found rfl winner _⟩
      · intro other same
        exact orderly.kept.holders found same
      · rw [first]
        exact orderly.answered.enter found (fun _ outcome => outcome.settle nofun rfl)
          fun same => same

theorem run_orderly (steps : List (KeyedStep Key)) :
    Orderly ((empty : SharedKeyed Key).run steps) :=
  run_induction Orderly empty_orderly (fun _ _ changed orderly => orderly.changed changed) steps

end SharedKeyed

end SpanTrail
