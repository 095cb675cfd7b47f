import SpanTrail.Context
import SpanTrail.Error
import SpanTrail.Identifier
import SpanTrail.Number
import SpanTrail.Text.Layout

/-! Samplers, which decide whether a trace is recorded.  Asking a sampler may change it, so a
decision comes with the sampler for the next one.  A ratio compares the low half of the identity
of the trace, without its last bit, with a share of all such halves, so that the same trace gets
the same decision everywhere.  A counting sampler accepts a fixed share of the decisions: a
window of a hundred slots holds that many chosen ones, chosen at random by keeping a reservoir;
each decision takes the next slot and the window starts again after the last. -/

namespace SpanTrail.Ratio

/-- The share of the halves that a ratio accepts: the ratio times two to the 63,
rounded down.  Ratios below zero, and what is no number, accept none. -/
def share : Binary → Nat
  | .finite false significand exponent =>
      let shifted := exponent + 63
      if 0 ≤ shifted then significand <<< shifted.toNat
      else significand >>> (-shifted).toNat
  | _ => 0

def accepts (ratio : Binary) (traceId : TraceId) : Bool :=
  if Binary.one.le ratio then true else decide (traceId.low.toNat / 2 < share ratio)

theorem accepts_congr (ratio : Binary) {left right : TraceId} (same : left.low = right.low) :
    accepts ratio left = accepts ratio right := by
  simp [accepts, same]

end SpanTrail.Ratio

namespace SpanTrail

def windowSize : Nat := 100

/-- Chooses `count` of the numbers below `size`, or all if there are no more.  Each
further number takes the place that is drawn for it, or none if the draw lies
beyond the reservoir. -/
def chooseSlots (draw : Nat → Nat) (count : Nat) : (size : Nat) → List Nat
  | 0 => []
  | size + 1 =>
      let chosen := chooseSlots draw count size
      if size < count then chosen ++ [size] else chosen.set (draw size % (size + 1)) size

theorem length_chooseSlots (draw : Nat → Nat) (count size : Nat) :
    (chooseSlots draw count size).length = min count size := by
  induction size with
  | zero => simp [chooseSlots]
  | succ size ih =>
      unfold chooseSlots
      split
      · simp only [List.length_append, ih, List.length_singleton]
        omega
      · simp only [List.length_set, ih]
        omega

theorem lt_of_mem_chooseSlots {draw : Nat → Nat} {count size slot : Nat}
    (found : slot ∈ chooseSlots draw count size) : slot < size := by
  induction size with
  | zero => simp [chooseSlots] at found
  | succ size ih =>
      unfold chooseSlots at found
      split at found
      · rcases List.mem_append.mp found with old | new
        · exact Nat.lt_succ_of_lt (ih old)
        · simp_all
      · rcases List.mem_or_eq_of_mem_set found with old | new
        · exact Nat.lt_succ_of_lt (ih old)
        · omega

theorem nodup_set_of_not_mem {slots : List Nat} (distinct : slots.Nodup) {new : Nat}
    (fresh : new ∉ slots) (index : Nat) : (slots.set index new).Nodup := by
  induction slots generalizing index with
  | nil => simp
  | cons first rest ih =>
      obtain ⟨firstFresh, restDistinct⟩ := List.nodup_cons.mp distinct
      obtain ⟨differs, restFresh⟩ := not_or.mp (fresh <| List.mem_cons.mpr ·)
      cases index with
      | zero => exact List.nodup_cons.mpr ⟨restFresh, restDistinct⟩
      | succ index =>
          refine List.nodup_cons.mpr ⟨fun found => ?_, ih restDistinct restFresh index⟩
          rcases List.mem_or_eq_of_mem_set found with old | same
          · exact firstFresh old
          · exact differs same.symm

theorem nodup_chooseSlots (draw : Nat → Nat) (count size : Nat) :
    (chooseSlots draw count size).Nodup := by
  induction size with
  | zero => simp [chooseSlots]
  | succ size ih =>
      have fresh : size ∉ chooseSlots draw count size :=
        fun found => Nat.lt_irrefl size (lt_of_mem_chooseSlots found)
      unfold chooseSlots
      split
      · refine List.nodup_append.mpr ⟨ih, by simp, ?_⟩
        intro old isOld new isNew same
        rw [same, List.mem_singleton.mp isNew] at isOld
        exact fresh isOld
      · exact nodup_set_of_not_mem ih fresh _

structure WindowSampler where
  chosen : List Nat
  distinct : chosen.Nodup
  inWindow : ∀ slot ∈ chosen, slot < windowSize
  next : Fin windowSize

namespace WindowSampler

def perWindow (sampler : WindowSampler) : Nat :=
  sampler.chosen.length

/-- A sampler with `count` slots, chosen by the given draws. -/
def ofCount (count : Nat) (draw : Nat → Nat) : WindowSampler where
  chosen := chooseSlots draw count windowSize
  distinct := nodup_chooseSlots draw count windowSize
  inWindow := fun _ found => lt_of_mem_chooseSlots found
  next := ⟨0, by decide⟩

theorem perWindow_ofCount {count : Nat} (small : count ≤ windowSize) (draw : Nat → Nat) :
    (ofCount count draw).perWindow = count := by
  unfold perWindow ofCount
  rw [length_chooseSlots]
  omega

/-- The least rate of a counting sampler: a hundredth, rounded to 32 bits. -/
def leastRate : Binary :=
  BinaryFormat.single.round false 1 windowSize

def isRate (rate : Binary) : Bool :=
  leastRate.le rate && rate.lt .one

/-- The whole number nearest to a number that is not negative.  A half goes up. -/
def nearestNat : Binary → Nat
  | .finite false significand exponent =>
      if 0 ≤ exponent then significand <<< exponent.toNat
      else
        let denominator := 1 <<< (-exponent).toNat
        (2 * significand + denominator) / (2 * denominator)
  | _ => 0

/-- How many slots a rate asks for: at least one, and not all. -/
def slotCount (rate : Binary) : Nat :=
  max 1 (min (windowSize - 1) (nearestNat (BinaryFormat.single.multiply windowSize rate)))

def ofRate (rate : Binary) (draw : Nat → Nat) : Except TracingError WindowSampler :=
  if isRate rate then .ok (ofCount (slotCount rate) draw)
  else .error (.invalidArgument (.rateOutOfRange rate))

def following (slot : Fin windowSize) : Fin windowSize :=
  ⟨(slot.val + 1) % windowSize, Nat.mod_lt _ (by decide)⟩

def ask (sampler : WindowSampler) : Bool × WindowSampler :=
  (sampler.chosen.contains sampler.next.val, { sampler with next := following sampler.next })

def describe (sampler : WindowSampler) : String :=
  Layout.record "CountingSampler" [("sampled_per_window", toString sampler.perWindow)]

end WindowSampler

structure CustomSampler where
  label : String
  decide : (before : Nat) → TraceId → Bool
  asked : Nat

namespace CustomSampler

def evenOnly : CustomSampler where
  label := "EvenOnly"
  decide := fun _ traceId => traceId.low % 2 == 0
  asked := 0

def ask (sampler : CustomSampler) (traceId : TraceId) : Bool × CustomSampler :=
  (sampler.decide sampler.asked traceId, { sampler with asked := sampler.asked + 1 })

end CustomSampler

inductive Sampler where
  | always
  | never
  | counting (sampler : WindowSampler)
  | ratio (bound : Binary)
  | custom (sampler : CustomSampler)

namespace Sampler

/-- The sampler that accepts a fixed share of the decisions.  None and all of them
need no counting. -/
def ofRate (rate : Binary) (draw : Nat → Nat) : Except TracingError Sampler :=
  if rate.same .zero then .ok .never
  else if rate.same .one then .ok .always
  else (WindowSampler.ofRate rate draw).map .counting

def ask (sampler : Sampler) (traceId : TraceId) : Bool × Sampler :=
  match sampler with
  | .always => (true, .always)
  | .never => (false, .never)
  | .counting inner =>
      let (decision, inner) := inner.ask
      (decision, .counting inner)
  | .ratio bound => (Ratio.accepts bound traceId, .ratio bound)
  | .custom inner =>
      let (decision, inner) := inner.ask traceId
      (decision, .custom inner)

def askAll (sampler : Sampler) : List TraceId → List Bool × Sampler
  | [] => ([], sampler)
  | traceId :: rest =>
      let (decision, sampler) := sampler.ask traceId
      let (decisions, sampler) := sampler.askAll rest
      (decision :: decisions, sampler)

def perWindow? : Sampler → Option Nat
  | .counting inner => some inner.perWindow
  | _ => none

def describe : Sampler → String
  | .always => "AlwaysSample"
  | .never => "NeverSample"
  | .counting inner => Layout.wrapped "Counting" inner.describe
  | .ratio bound => Layout.wrapped "TraceIdRatioBased" (Shortest.doubleText bound)
  | .custom inner => Layout.wrapped "Custom" inner.label

end Sampler

end SpanTrail
