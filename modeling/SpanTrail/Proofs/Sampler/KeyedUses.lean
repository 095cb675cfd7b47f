import Mathlib.Logic.Function.Basic
import SpanTrail.Proofs.Lists
import SpanTrail.Sampler.Keyed

/-! Uses of a keyed sampler that overlap.  A use looks its key up; if nothing is kept of the
key it looks up a rate and builds a candidate, and keeps it unless another use was faster;
then it decides by what is kept.  The samplers are shared, so what is kept of a key is the
use that built it.  The uses of any number of threads are numbered as they start. -/

namespace SpanTrail

inductive KeyedStage where
  | started
  | missed
  | built
  | holding (winner : Nat)
  | decided (winner : Nat) (sampling : Sampling)
  | failed (cause : TracingError)

namespace KeyedStage

def winner? : KeyedStage → Option Nat
  | .holding winner | .decided winner _ => some winner
  | _ => none

def result? : KeyedStage → Option (Except TracingError Sampling)
  | .decided _ sampling => some (.ok sampling)
  | .failed cause => some (.error cause)
  | _ => none

end KeyedStage

structure KeyedUse (Key : Type) where
  key : Key
  stage : KeyedStage

/-- What a use built: the sampler for a rate, or none if there is no rate.  A sampler that
is asked changes. -/
structure Candidate where
  first : Option Sampler
  now : Option Sampler

/-- A decision, with the use that took it and the one whose candidate decided. -/
structure Ruling (Key : Type) where
  use : Nat
  key : Key
  winner : Nat
  sampling : Sampling

/-- The rates that were looked up and the decisions are kept in order. -/
structure SharedKeyed (Key : Type) where
  known : Table Key Nat
  candidates : Nat → Candidate
  uses : List (KeyedUse Key)
  lookUps : List (Nat × Option Binary)
  rulings : List (Ruling Key)

/-- The rate that is looked up and the draws may be others each time. -/
inductive KeyedStep (Key : Type) where
  | start (key : Option Key)
  | find (use : Nat)
  | lookUp (use : Nat) (rate : Option Binary) (draw : Nat → Nat)
  | store (use : Nat)
  | decide (use : Nat)

namespace KeyedSampler

def rule : Option Sampler → Sampling × Option Sampler
  | none => (.undecided, none)
  | some sampler => (.decided (sampler.ask .none).1, some (sampler.ask .none).2)

end KeyedSampler

namespace SharedKeyed

variable {Key : Type}

def empty : SharedKeyed Key := ⟨.empty, fun _ => ⟨none, none⟩, [], [], []⟩

def size (shared : SharedKeyed Key) : Nat :=
  shared.known.size

def enter (shared : SharedKeyed Key) (index : Nat) (key : Key) (stage : KeyedStage) :
    SharedKeyed Key :=
  { shared with uses := shared.uses.set index ⟨key, stage⟩ }

def ask (shared : SharedKeyed Key) (index : Nat) (rate : Option Binary) : SharedKeyed Key :=
  { shared with lookUps := shared.lookUps ++ [(index, rate)] }

def build (shared : SharedKeyed Key) (index : Nat) (kept : Option Sampler) : SharedKeyed Key :=
  { shared with candidates := Function.update shared.candidates index ⟨kept, kept⟩ }

def rule (shared : SharedKeyed Key) (index : Nat) (key : Key) (winner : Nat) :
    SharedKeyed Key :=
  let candidate := shared.candidates winner
  let (sampling, now) := KeyedSampler.rule candidate.now
  { shared.enter index key (.decided winner sampling) with
    candidates := Function.update shared.candidates winner { candidate with now }
    rulings := shared.rulings ++ [⟨index, key, winner, sampling⟩] }

theorem enter_found (shared : SharedKeyed Key) {index : Nat} {key : Key} {stage : KeyedStage}
    (found : shared.uses[index]? = some ⟨key, stage⟩) (new : KeyedStage) :
    (shared.enter index key new).uses[index]? = some ⟨key, new⟩ := by
  unfold enter
  rw [Lists.getElem?_set_of_some found, if_pos rfl]

def start (shared : SharedKeyed Key) (key : Key) : SharedKeyed Key :=
  { shared with uses := shared.uses ++ [⟨key, .started⟩] }

def lookUp (shared : SharedKeyed Key) (index : Nat) (rate : Option Binary)
    (draw : Nat → Nat) : SharedKeyed Key :=
  match shared.uses[index]? with
  | some ⟨key, .missed⟩ =>
      match KeyedSampler.candidate rate draw with
      | .error cause => (shared.ask index rate).enter index key (.failed cause)
      | .ok kept => ((shared.ask index rate).build index kept).enter index key .built
  | _ => shared

def decide (shared : SharedKeyed Key) (index : Nat) : SharedKeyed Key :=
  match shared.uses[index]? with
  | some ⟨key, .holding winner⟩ => shared.rule index key winner
  | _ => shared

variable [DecidableEq Key]

def find (shared : SharedKeyed Key) (index : Nat) : SharedKeyed Key :=
  match shared.uses[index]? with
  | some ⟨key, .started⟩ =>
      match shared.known.get? key with
      | some winner => shared.enter index key (.holding winner)
      | none => shared.enter index key .missed
  | _ => shared

def store (shared : SharedKeyed Key) (index : Nat) : SharedKeyed Key :=
  match shared.uses[index]? with
  | some ⟨key, .built⟩ =>
      match shared.known.get? key with
      | some winner => shared.enter index key (.holding winner)
      | none =>
          { shared with known := shared.known.insert key index }.enter index key (.holding index)
  | _ => shared

def step (shared : SharedKeyed Key) : KeyedStep Key → SharedKeyed Key
  | .start none => shared
  | .start (some key) => shared.start key
  | .find index => shared.find index
  | .lookUp index rate draw => shared.lookUp index rate draw
  | .store index => shared.store index
  | .decide index => shared.decide index

def run (shared : SharedKeyed Key) (steps : List (KeyedStep Key)) : SharedKeyed Key :=
  steps.foldl step shared

theorem run_append (shared : SharedKeyed Key) (front back : List (KeyedStep Key)) :
    shared.run (front ++ back) = (shared.run front).run back :=
  List.foldl_append

inductive Changed (before after : SharedKeyed Key) : Prop where
  | idle (same : after = before)
  | started (key : Key) (grown : after = before.start key)
  | missed (index : Nat) (key : Key) (found : before.uses[index]? = some ⟨key, .started⟩)
      (unknown : before.known.get? key = none) (moved : after = before.enter index key .missed)
  | rejected (index : Nat) (key : Key) (rate : Option Binary) (draw : Nat → Nat)
      (cause : TracingError) (found : before.uses[index]? = some ⟨key, .missed⟩)
      (invalid : KeyedSampler.candidate rate draw = .error cause)
      (moved : after = (before.ask index rate).enter index key (.failed cause))
  | built (index : Nat) (key : Key) (rate : Option Binary) (draw : Nat → Nat)
      (kept : Option Sampler) (found : before.uses[index]? = some ⟨key, .missed⟩)
      (valid : KeyedSampler.candidate rate draw = .ok kept)
      (moved : after = ((before.ask index rate).build index kept).enter index key .built)
  | held (index : Nat) (key : Key) (stage : KeyedStage) (winner : Nat)
      (found : before.uses[index]? = some ⟨key, stage⟩) (early : stage = .started ∨ stage = .built)
      (isWinner : before.known.get? key = some winner)
      (moved : after = before.enter index key (.holding winner))
  | stored (index : Nat) (key : Key) (found : before.uses[index]? = some ⟨key, .built⟩)
      (unknown : before.known.get? key = none)
      (moved : after =
        { before with known := before.known.insert key index }.enter index key (.holding index))
  | ruled (index : Nat) (key : Key) (winner : Nat)
      (found : before.uses[index]? = some ⟨key, .holding winner⟩)
      (moved : after = before.rule index key winner)

theorem step_changed (shared : SharedKeyed Key) (step : KeyedStep Key) :
    Changed shared (shared.step step) := by
  cases step with
  | start key =>
      cases key with
      | none => exact .idle rfl
      | some key => exact .started key rfl
  | find index =>
      change Changed shared (shared.find _)
      unfold SharedKeyed.find
      split
      · next key found =>
          split
          · next winner isWinner => exact .held index key _ winner found (.inl rfl) isWinner rfl
          · next unknown => exact .missed index key found unknown rfl
      · exact .idle rfl
  | lookUp index rate draw =>
      change Changed shared (shared.lookUp _ _ _)
      unfold SharedKeyed.lookUp
      split
      · next key found =>
          split
          · next cause invalid => exact .rejected index key rate draw cause found invalid rfl
          · next kept valid => exact .built index key rate draw kept found valid rfl
      · exact .idle rfl
  | store index =>
      change Changed shared (shared.store _)
      unfold SharedKeyed.store
      split
      · next key found =>
          split
          · next winner isWinner => exact .held index key _ winner found (.inr rfl) isWinner rfl
          · next unknown => exact .stored index key found unknown rfl
      · exact .idle rfl
  | decide index =>
      change Changed shared (shared.decide _)
      unfold SharedKeyed.decide
      split
      · next key winner found => exact .ruled index key winner found rfl
      · exact .idle rfl

theorem run_induction (invariant : SharedKeyed Key → Prop) {shared : SharedKeyed Key}
    (holds : invariant shared)
    (kept : ∀ before after, Changed before after → invariant before → invariant after)
    (steps : List (KeyedStep Key)) : invariant (shared.run steps) := by
  induction steps generalizing shared with
  | nil => exact holds
  | cons step rest ih => exact ih (kept _ _ (shared.step_changed step) holds)

/-! ### A use that no other disturbs -/

/-- A use from its start to its end, with the rate and the draws that it gets. -/
def wholeUse (key : Key) (index : Nat) (rate : Option Binary) (draw : Nat → Nat) :
    List (KeyedStep Key) :=
  [.start (some key), .find index, .lookUp index rate draw, .store index, .decide index]

section Alone

variable {shared : SharedKeyed Key} {index : Nat} {key : Key} {stage : KeyedStage}

omit [DecidableEq Key] in
theorem start_found (shared : SharedKeyed Key) (key : Key) :
    (shared.start key).uses[shared.uses.length]? = some ⟨key, .started⟩ := by
  unfold start
  rw [Lists.getElem?_concat, if_pos rfl]

omit [DecidableEq Key] in
theorem lookUp_idle (found : shared.uses[index]? = some ⟨key, stage⟩) (other : stage ≠ .missed)
    (rate : Option Binary) (draw : Nat → Nat) : shared.lookUp index rate draw = shared := by
  unfold lookUp
  rw [found]
  cases stage with
  | missed => exact absurd rfl other
  | _ => rfl

theorem store_idle (found : shared.uses[index]? = some ⟨key, stage⟩) (other : stage ≠ .built) :
    shared.store index = shared := by
  unfold store
  rw [found]
  cases stage with
  | built => exact absurd rfl other
  | _ => rfl

theorem start_find (shared : SharedKeyed Key) (key : Key) :
    (shared.start key).find shared.uses.length =
      match shared.known.get? key with
      | some winner => (shared.start key).enter shared.uses.length key (.holding winner)
      | none => (shared.start key).enter shared.uses.length key .missed := by
  unfold find
  rw [shared.start_found key]
  rfl

theorem run_known {winner : Nat} (isKnown : shared.known.get? key = some winner)
    (rate : Option Binary) (draw : Nat → Nat) :
    shared.run (wholeUse key shared.uses.length rate draw) =
      ((shared.start key).enter shared.uses.length key (.holding winner)).rule
        shared.uses.length key winner := by
  have find := shared.start_find key
  rw [isKnown] at find
  have holding := enter_found _ (shared.start_found key) (.holding winner)
  change ((((shared.start key).find _).lookUp _ rate draw).store _).decide _ = _
  rw [find, lookUp_idle holding nofun, store_idle holding nofun]
  unfold decide
  rw [holding]

theorem run_refused (unknown : shared.known.get? key = none) {rate : Option Binary}
    {draw : Nat → Nat} {cause : TracingError}
    (invalid : KeyedSampler.candidate rate draw = .error cause) :
    shared.run (wholeUse key shared.uses.length rate draw) =
      (((shared.start key).enter shared.uses.length key .missed).ask shared.uses.length rate).enter
        shared.uses.length key (.failed cause) := by
  have find := shared.start_find key
  rw [unknown] at find
  let missed := (shared.start key).enter shared.uses.length key .missed
  have isMissed : missed.uses[shared.uses.length]? = some ⟨key, .missed⟩ :=
    enter_found _ (shared.start_found key) .missed
  have isFailed := enter_found (missed.ask shared.uses.length rate) isMissed
    (.failed cause)
  have lookUp : missed.lookUp shared.uses.length rate draw =
      (missed.ask shared.uses.length rate).enter shared.uses.length key (.failed cause) := by
    unfold SharedKeyed.lookUp
    rw [isMissed]
    dsimp only
    rw [invalid]
  change ((((shared.start key).find _).lookUp _ rate draw).store _).decide _ = _
  rw [find]
  change ((missed.lookUp _ rate draw).store _).decide _ = _
  rw [lookUp, store_idle isFailed nofun]
  unfold decide
  rw [isFailed]

theorem run_stored (unknown : shared.known.get? key = none) {rate : Option Binary}
    {draw : Nat → Nat} {kept : Option Sampler}
    (valid : KeyedSampler.candidate rate draw = .ok kept) :
    let index := shared.uses.length
    let missed := (shared.start key).enter index key .missed
    let built := ((missed.ask index rate).build index kept).enter index key .built
    shared.run (wholeUse key index rate draw) =
      ({ built with known := shared.known.insert key index }.enter index key
        (.holding index)).rule index key index := by
  intro index missed built
  have find := shared.start_find key
  rw [unknown] at find
  have isMissed : missed.uses[index]? = some ⟨key, .missed⟩ :=
    enter_found _ (shared.start_found key) .missed
  have isBuilt : built.uses[index]? = some ⟨key, .built⟩ :=
    enter_found ((missed.ask index rate).build index kept) isMissed .built
  have lookUp : missed.lookUp index rate draw = built := by
    unfold SharedKeyed.lookUp
    rw [isMissed]
    dsimp only
    rw [valid]
  have store : built.store index =
      { built with known := shared.known.insert key index }.enter index key (.holding index) := by
    unfold SharedKeyed.store
    rw [isBuilt]
    dsimp only
    rw [show built.known.get? key = none from unknown]
    rfl
  have isHolding := enter_found { built with known := shared.known.insert key index } isBuilt
    (.holding index)
  change ((((shared.start key).find index).lookUp index rate draw).store index).decide index = _
  rw [find]
  change ((missed.lookUp index rate draw).store index).decide index = _
  rw [lookUp, store]
  unfold decide
  rw [isHolding]

end Alone

end SharedKeyed

end SpanTrail
