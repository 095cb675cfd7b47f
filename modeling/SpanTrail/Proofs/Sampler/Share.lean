import Mathlib.Data.List.Nodup
import SpanTrail.Proofs.Lists
import SpanTrail.Sampler

/-! The share of a counting sampler.  Its decisions repeat with the size of the window, so any
hundred of them in a row accept exactly as often as the window has chosen slots.  The chosen
slots may also be drawn into the bits of a word.  A reservoir is filled with the first slots, and
each further one may take the place of a chosen slot, whose bit is cleared.  The set bits are the
chosen slots all along. -/

namespace SpanTrail.WindowSampler

def after (sampler : WindowSampler) : Nat → WindowSampler
  | 0 => sampler
  | count + 1 => (sampler.after count).ask.2

def decision (sampler : WindowSampler) (index : Nat) : Bool :=
  (sampler.after index).ask.1

theorem after_eq (sampler : WindowSampler) (count : Nat) :
    (sampler.after count).chosen = sampler.chosen ∧
      (sampler.after count).next.val = (sampler.next.val + count) % windowSize := by
  induction count with
  | zero =>
      constructor
      · rfl
      · exact (Nat.mod_eq_of_lt sampler.next.isLt).symm
  | succ count ih =>
      obtain ⟨chosen, next⟩ := ih
      constructor
      · exact chosen
      · change ((sampler.after count).next.val + 1) % windowSize = _
        rw [next, Nat.mod_add_mod]
        rfl

theorem decision_eq (sampler : WindowSampler) (index : Nat) :
    sampler.decision index =
      sampler.chosen.contains ((sampler.next.val + index) % windowSize) := by
  obtain ⟨chosen, next⟩ := sampler.after_eq index
  change (sampler.after index).chosen.contains (sampler.after index).next.val = _
  rw [chosen, next]

theorem decision_periodic (sampler : WindowSampler) (index : Nat) :
    sampler.decision (index + windowSize) = sampler.decision index := by
  rw [decision_eq, decision_eq, ← Nat.add_assoc, Nat.add_mod_right]

theorem slotCount_bounds (rate : Binary) :
    1 ≤ slotCount rate ∧ slotCount rate < windowSize := by
  unfold slotCount windowSize
  omega

theorem ofRate_inv {rate : Binary} {draw : Nat → Nat} {sampler : WindowSampler}
    (accepted : ofRate rate draw = .ok sampler) :
    isRate rate = true ∧ sampler = ofCount (slotCount rate) draw := by
  unfold ofRate at accepted
  split at accepted
  · next inRange =>
      cases accepted
      exact ⟨inRange, rfl⟩
  · cases accepted

/-- A window that slides by one loses and gains the same value. -/
theorem countP_slide {size : Nat} {mark : Nat → Bool}
    (periodic : ∀ index, mark (index + size) = mark index) (start : Nat) :
    (List.range' (start + 1) size).countP mark = (List.range' start size).countP mark := by
  have first : List.range' start (size + 1) = start :: List.range' (start + 1) size :=
    List.range'_succ
  have last : List.range' start (size + 1) = List.range' start size ++ [start + size] := by
    rw [List.range'_concat, Nat.one_mul]
  have counts := congrArg (List.countP mark) (first.symm.trans last)
  rw [List.countP_cons, List.countP_append, List.countP_singleton, periodic] at counts
  omega

theorem countP_anywhere {size : Nat} {mark : Nat → Bool}
    (periodic : ∀ index, mark (index + size) = mark index) (start : Nat) :
    (List.range' start size).countP mark = (List.range' 0 size).countP mark := by
  induction start with
  | zero => rfl
  | succ start ih => rw [countP_slide periodic, ih]

theorem countP_windows {size share : Nat} {mark : Nat → Bool}
    (windows : ∀ start, (List.range' start size).countP mark = share) (count : Nat) :
    (List.range' 0 (count * size)).countP mark = count * share := by
  induction count with
  | zero => simp only [Nat.zero_mul, List.range'_zero, List.countP_nil]
  | succ count ih =>
      rw [Nat.succ_mul, ← List.range'_append_1, List.countP_append, ih, windows, Nat.succ_mul]

/-- Any number of values lies between the whole windows that fit in and those that cover it. -/
theorem countP_between {size share : Nat} {mark : Nat → Bool}
    (windows : ∀ start, (List.range' start size).countP mark = share) (positive : 0 < size)
    (total : Nat) :
    total / size * share ≤ (List.range' 0 total).countP mark ∧
      (List.range' 0 total).countP mark ≤ (total + (size - 1)) / size * share := by
  have longer : ∀ {less more : Nat}, less ≤ more →
      (List.range' 0 less).countP mark ≤ (List.range' 0 more).countP mark :=
    fun fits => (List.range'_sublist_right.mpr fits).countP_le
  constructor
  · rw [← countP_windows windows]
    exact longer (Nat.div_mul_le_self total size)
  · rw [← countP_windows windows]
    apply longer
    have covered := Nat.lt_div_mul_add (a := total + (size - 1)) positive
    omega

theorem count_stretch {size share : Nat} {mark : Nat → Bool}
    (windows : ∀ start, (List.range' start size).countP mark = share) {start total : Nat}
    (fits : start + size ≤ total) :
    ((((List.range total).map mark).drop start).take size).count true = share := by
  have split : List.range total =
      List.range' 0 start ++ (List.range' start size ++
        List.range' (start + size) (total - (start + size))) := by
    rw [List.range'_append_1, List.range_eq_range']
    have rejoined := List.range'_append_1 (s := 0) (m := start) (n := total - start)
    rw [Nat.zero_add, Nat.add_sub_cancel' (by omega)] at rejoined
    rw [← rejoined]
    congr 2
    omega
  rw [split, List.map_append, List.drop_left' (by rw [List.length_map, List.length_range']),
    List.map_append, List.take_left' (by rw [List.length_map, List.length_range']),
    ← windows start, List.count, List.countP_map]
  congr 1
  funext index
  exact beq_true (mark index)

theorem countP_chosen (sampler : WindowSampler) :
    (List.range' 0 windowSize).countP (fun slot => sampler.chosen.contains (slot % windowSize)) =
      sampler.perWindow := by
  have slots : ∀ slot ∈ List.range' 0 windowSize,
      sampler.chosen.contains (slot % windowSize) = decide (slot ∈ sampler.chosen) := by
    intro slot member
    have small := (List.mem_range'_1.mp member).2
    rw [Nat.mod_eq_of_lt (by omega), List.contains_eq_mem]
  have same : ((List.range' 0 windowSize).filter (· ∈ sampler.chosen)).Perm sampler.chosen := by
    apply (List.perm_ext_iff_of_nodup (List.Nodup.filter _ List.nodup_range') sampler.distinct).mpr
    intro slot
    rw [List.mem_filter, List.mem_range'_1, decide_eq_true_eq]
    constructor
    · exact And.right
    · intro isChosen
      have small := sampler.inWindow slot isChosen
      exact ⟨⟨Nat.zero_le _, by omega⟩, isChosen⟩
  rw [List.countP_congr fun slot member => by rw [slots slot member], List.countP_eq_length_filter,
    same.length_eq]
  rfl

/-- Of any hundred decisions in a row exactly as many accept as slots were chosen. -/
theorem countP_decision (sampler : WindowSampler) (start : Nat) :
    (List.range' start windowSize).countP sampler.decision = sampler.perWindow := by
  let mark : Nat → Bool := fun slot => sampler.chosen.contains (slot % windowSize)
  have periodic : ∀ index, mark (index + windowSize) = mark index := by
    intro index
    simp only [mark, Nat.add_mod_right]
  have shifted : sampler.decision = mark ∘ (sampler.next.val + ·) :=
    funext sampler.decision_eq
  have moved : (List.range' start windowSize).map (sampler.next.val + ·) =
      List.range' (sampler.next.val + start) windowSize :=
    List.map_add_range' ..
  rw [shifted, ← List.countP_map, moved, countP_anywhere periodic]
  exact sampler.countP_chosen

end SpanTrail.WindowSampler

namespace SpanTrail

structure Reservoir where
  word : BitVec 128
  chosen : List Nat

namespace Reservoir

def first : (count : Nat) → Reservoir
  | 0 => ⟨0, []⟩
  | count + 1 =>
      ⟨(first count).word ||| .twoPow 128 count, (first count).chosen ++ [count]⟩

/-- Gives a place of the reservoir to another slot, if there is such a place. -/
def replace (reservoir : Reservoir) (place slot : Nat) : Reservoir :=
  match reservoir.chosen[place]? with
  | none => reservoir
  | some old =>
      ⟨reservoir.word &&& ~~~.twoPow 128 old ||| .twoPow 128 slot,
        reservoir.chosen.set place slot⟩

def after (draw : Nat → Nat) (count : Nat) : (further : Nat) → Reservoir
  | 0 => first count
  | further + 1 =>
      let slot := count + further
      (after draw count further).replace (draw slot % (slot + 1)) slot

/-! ### The chosen slots -/

theorem chosen_first (draw : Nat → Nat) {count size : Nat} (small : size ≤ count) :
    (first size).chosen = chooseSlots draw count size := by
  induction size with
  | zero => rfl
  | succ size ih =>
      have isFirst : size < count := small
      unfold first chooseSlots
      dsimp only
      rw [if_pos isFirst, ih (Nat.le_of_succ_le small)]

theorem chosen_replace (reservoir : Reservoir) (place slot : Nat) :
    (reservoir.replace place slot).chosen = reservoir.chosen.set place slot := by
  unfold replace
  split
  · next beyond => exact (List.set_eq_of_length_le (List.getElem?_eq_none_iff.mp beyond)).symm
  · rfl

theorem chosen_after (draw : Nat → Nat) (count further : Nat) :
    (after draw count further).chosen = chooseSlots draw count (count + further) := by
  induction further with
  | zero => exact chosen_first draw (Nat.le_refl count)
  | succ further ih =>
      have beyond : ¬count + further < count := by omega
      change _ = chooseSlots draw count (count + further + 1)
      unfold after chooseSlots
      dsimp only
      rw [chosen_replace, ih, if_neg beyond]

def Marked (reservoir : Reservoir) : Prop :=
  ∀ slot, reservoir.word.getLsbD slot = decide (slot ∈ reservoir.chosen)

theorem Marked.lt {reservoir : Reservoir} (marked : reservoir.Marked) {slot : Nat}
    (isChosen : slot ∈ reservoir.chosen) : slot < 128 := by
  have isSet := marked slot
  rw [decide_eq_true isChosen] at isSet
  exact BitVec.lt_of_getLsbD isSet

theorem marked_first {count : Nat} (small : count ≤ 128) : (first count).Marked := by
  induction count with
  | zero =>
      intro slot
      exact BitVec.getLsbD_zero
  | succ count ih =>
      intro slot
      have inWord : count < 128 := small
      unfold first
      rw [BitVec.getLsbD_or, BitVec.getLsbD_twoPow, ih (by omega) slot, decide_eq_true inWord]
      simp only [List.mem_append, List.mem_singleton, Bool.decide_or, Bool.true_and, eq_comm]

/-- The slot that gives way is chosen once, so clearing its bit forgets no other. -/
theorem Marked.replace {reservoir : Reservoir} (marked : reservoir.Marked)
    (distinct : reservoir.chosen.Nodup) {slot : Nat} (small : slot < 128) (place : Nat) :
    (reservoir.replace place slot).Marked := by
  unfold Reservoir.replace
  cases found : reservoir.chosen[place]? with
  | none => exact marked
  | some old =>
      obtain ⟨inside, isOld⟩ := List.getElem?_eq_some_iff.mp found
      obtain ⟨front, back, parts, _, replaced⟩ := @List.exists_of_set _ place slot _ inside
      rw [isOld] at parts
      have oldSmall : old < 128 := by
        apply marked.lt
        rw [parts]
        exact Lists.mem_around.mpr (.inl rfl)
      have fresh : old ∉ front ++ back := by
        rw [parts] at distinct
        exact (List.nodup_cons.mp (List.perm_middle.nodup_iff.mp distinct)).1
      intro bit
      have before := marked bit
      rw [parts] at before
      simp only [BitVec.getLsbD_or, BitVec.getLsbD_and, BitVec.getLsbD_not,
        BitVec.getLsbD_twoPow, before, replaced, Lists.mem_around, small, oldSmall]
      -- The bit that is cleared, the other bits, and what lies beyond the word.
      by_cases isOldBit : bit = old
      · subst isOldBit
        by_cases same : slot = bit
        · simp [same]
        · simp [same, fresh, Ne.symm same]
      · by_cases high : bit < 128
        · simp [isOldBit, high, Ne.symm isOldBit, eq_comm, Bool.or_comm]
        · have absent : bit ∉ front ++ back := by
            intro member
            apply high
            apply marked.lt
            rw [parts]
            exact Lists.mem_around.mpr (.inr member)
          simp [isOldBit, high, absent, eq_comm]

theorem marked_after (draw : Nat → Nat) {count further : Nat} (small : count + further ≤ 128) :
    (after draw count further).Marked := by
  induction further with
  | zero => exact marked_first small
  | succ further ih =>
      have distinct : (after draw count further).chosen.Nodup := by
        rw [chosen_after]
        exact nodup_chooseSlots draw count (count + further)
      exact (ih (by omega)).replace distinct (by omega) _

end Reservoir

namespace WindowSampler

def mask (count : Nat) (draw : Nat → Nat) : BitVec 128 :=
  (Reservoir.after draw count (windowSize - count)).word

theorem getLsbD_mask {count : Nat} (small : count ≤ windowSize) (draw : Nat → Nat) (slot : Nat) :
    (mask count draw).getLsbD slot = (ofCount count draw).chosen.contains slot := by
  have size : count + (windowSize - count) = windowSize := by omega
  have within : count + (windowSize - count) ≤ 128 := by
    rw [size]
    decide
  unfold mask
  rw [Reservoir.marked_after draw within slot, Reservoir.chosen_after, size,
    List.contains_eq_mem]
  rfl

end WindowSampler

end SpanTrail
