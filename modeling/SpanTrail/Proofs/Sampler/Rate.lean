import Mathlib.Algebra.Order.Floor.Semifield
import Mathlib.Data.Rat.Floor
import Mathlib.Data.Set.Card
import SpanTrail.Proofs.Number
import SpanTrail.Sampler
import SpanTrail.Sampler.Keyed

/-! The rates that samplers can have, by their values.  The bound for counting samplers is the
hundredth as it is rounded to 32 bits, a little below the hundredth itself.  Sampling by a ratio
is exact: although ratios are numbers of 64 bits, no rounding comes in on the way to the share of
the halves, so the decision is that of the rational that the ratio stands for.  Greater ratios
accept more, and every ratio accepts its share of all halves. -/

namespace SpanTrail

namespace Binary

def leastShare : ℚ := 10737418 / 2 ^ 30

def IsShare (rate : Binary) : Prop :=
  ∃ value : ℚ, rate.value? = some (.of value) ∧
    (value = 0 ∨ value = 1 ∨ leastShare ≤ value ∧ value < 1)

theorem same_rational_iff {left right : Binary} {value : ℚ}
    (isRight : right.value? = some (.of value)) :
    left.same right = true ↔ left.value? = some (.of value) := by
  rw [same_iff, isRight]
  constructor
  · rintro ⟨other, isLeft, same⟩
    rw [isLeft, same]
  · intro isLeft
    exact ⟨_, isLeft, rfl⟩

end Binary

namespace WindowSampler

open Binary

theorem value?_leastRate : leastRate.value? = some (.of leastShare) := by
  have least : leastRate = .finite false 10737418 (-30) := by decide
  rw [least]
  unfold value? rational leastShare
  norm_num

theorem isRate_iff {rate : Binary} :
    isRate rate = true ↔
      ∃ value : ℚ, rate.value? = some (.of value) ∧ leastShare ≤ value ∧ value < 1 := by
  unfold isRate
  rw [Bool.and_eq_true, le_iff, lt_iff, value?_leastRate, value?_one]
  constructor
  · rintro ⟨⟨_, isLeast, value, isValue, above⟩, value', isValue', _, isOne, below⟩
    cases isLeast
    cases isOne
    rw [isValue, Option.some.injEq] at isValue'
    subst isValue'
    obtain ⟨rational, rfl⟩ := Extended.exists_of_between above below
    exact ⟨rational, isValue, Extended.of_le_of.mp above, Extended.of_lt_of.mp below⟩
  · rintro ⟨value, isValue, above, below⟩
    exact ⟨⟨_, rfl, _, isValue, Extended.of_le_of.mpr above⟩,
      ⟨_, isValue, _, rfl, Extended.of_lt_of.mpr below⟩⟩

end WindowSampler

theorem Binary.isShare_iff {rate : Binary} :
    rate.IsShare ↔
      rate.same .zero = true ∨ rate.same .one = true ∨ WindowSampler.isRate rate = true := by
  rw [same_rational_iff value?_zero, same_rational_iff value?_one, WindowSampler.isRate_iff]
  constructor
  · rintro ⟨value, isValue, rfl | rfl | inside⟩
    · exact .inl isValue
    · exact .inr (.inl isValue)
    · exact .inr (.inr ⟨value, isValue, inside⟩)
  · rintro (isZero | isOne | ⟨value, isValue, inside⟩)
    · exact ⟨0, isZero, .inl rfl⟩
    · exact ⟨1, isOne, .inr (.inl rfl)⟩
    · exact ⟨value, isValue, .inr (.inr inside)⟩

namespace Sampler

theorem ofRate_error_iff {rate : Binary} {draw : Nat → Nat} {cause : TracingError} :
    ofRate rate draw = .error cause ↔
      ¬rate.IsShare ∧ cause = .invalidArgument (.rateOutOfRange rate) := by
  rw [Binary.isShare_iff]
  unfold ofRate
  split
  · next isZero => exact ⟨nofun, fun refused => absurd (.inl isZero) refused.1⟩
  · next notZero =>
      split
      · next isOne => exact ⟨nofun, fun refused => absurd (.inr (.inl isOne)) refused.1⟩
      · next notOne =>
          unfold WindowSampler.ofRate
          split
          · next inRange => exact ⟨nofun, fun refused => absurd (.inr (.inr inRange)) refused.1⟩
          · next outside =>
              constructor
              · intro refused
                cases refused
                exact ⟨not_or.mpr ⟨notZero, not_or.mpr ⟨notOne, outside⟩⟩, rfl⟩
              · rintro ⟨_, rfl⟩
                rfl

end Sampler

namespace KeyedSampler

/-- Whether a rate that was looked up is refused, and with which error. -/
def Refused (rate : Option Binary) (cause : TracingError) : Prop :=
  ∃ number, rate = some number ∧ ¬number.IsShare ∧
    cause = .invalidArgument (.rateOutOfRange number)

theorem candidate_error_iff {rate : Option Binary} {draw : Nat → Nat} {cause : TracingError} :
    candidate rate draw = .error cause ↔ Refused rate cause := by
  unfold candidate Refused
  cases rate with
  | none => exact ⟨nofun, nofun⟩
  | some number =>
      dsimp only
      cases built : Sampler.ofRate number draw with
      | ok sampler =>
          refine ⟨nofun, ?_⟩
          rintro ⟨_, same, refused⟩
          cases same
          rw [Sampler.ofRate_error_iff.mpr refused] at built
          cases built
      | error other =>
          have refused := Sampler.ofRate_error_iff.mp built
          constructor
          · intro same
            cases same
            exact ⟨number, rfl, refused⟩
          · rintro ⟨_, same, _, rfl⟩
            cases same
            rw [refused.2]
            rfl

end KeyedSampler

end SpanTrail

namespace SpanTrail.Ratio

open Binary

theorem share_eq {ratio : Binary} {rational : ℚ} (value : ratio.value? = some (.of rational)) :
    share ratio = ⌊rational * 2 ^ 63⌋₊ := by
  cases ratio with
  | nan => cases value
  | infinite negative => cases negative <;> cases value
  | finite negative significand exponent =>
      cases value
      cases negative with
      | true =>
          have below : Binary.rational true significand exponent * 2 ^ 63 ≤ 0 := by
            unfold Binary.rational
            have positive : (0 : ℚ) ≤ significand * 2 ^ exponent * 2 ^ 63 := by positivity
            simp only [if_true]
            linarith
          exact (Nat.floor_of_nonpos below).symm
      | false =>
          have scaled : Binary.rational false significand exponent * 2 ^ 63 =
              significand * 2 ^ (exponent + 63) := by
            unfold Binary.rational
            rw [zpow_add₀ two_ne_zero]
            simp only [Bool.false_eq_true, if_false, one_mul, mul_assoc]
            rfl
          rw [scaled]
          unfold share
          dsimp only
          split
          · next up =>
              obtain ⟨shift, isShift⟩ := Int.eq_ofNat_of_zero_le up
              rw [isShift, zpow_natCast, Int.toNat_natCast, Nat.shiftLeft_eq]
              exact_mod_cast (Nat.floor_natCast _).symm
          · next down =>
              obtain ⟨shift, isShift⟩ : ∃ shift : Nat, exponent + 63 = -(shift : Int) :=
                ⟨(-(exponent + 63)).toNat, by omega⟩
              have quotient : (significand : ℚ) * 2 ^ (-(shift : Int)) =
                  significand / (2 ^ shift : ℕ) := by
                rw [zpow_neg, ← div_eq_mul_inv, zpow_natCast]
                push_cast
                rfl
              rw [isShift, neg_neg, Int.toNat_natCast, Nat.shiftRight_eq_div_pow, quotient,
                Nat.floor_div_eq_div]

/-! ### The decision -/

theorem one_le_iff {ratio : Binary} :
    one.le ratio = true ↔ ∃ value, ratio.value? = some value ∧ .of 1 ≤ value := by
  rw [le_iff, value?_one]
  constructor
  · rintro ⟨_, isOne, value, isValue, above⟩
    cases isOne
    exact ⟨value, isValue, above⟩
  · rintro ⟨value, isValue, above⟩
    exact ⟨_, rfl, value, isValue, above⟩

def Reaches (value : Extended) (low : UInt64) : Prop :=
  .of 1 ≤ value ∨ ∃ rational : ℚ, value = .of rational ∧ low.toNat / 2 < ⌊rational * 2 ^ 63⌋₊

theorem reaches_rational {rational : ℚ} (below : rational < 1) (low : UInt64) :
    Reaches (.of rational) low ↔ low.toNat / 2 < ⌊rational * 2 ^ 63⌋₊ := by
  unfold Reaches
  rw [Extended.of_le_of]
  constructor
  · rintro (atLeast | ⟨other, same, reached⟩)
    · exact absurd below atLeast.not_gt
    · rw [Extended.of_inj.mp same]
      exact reached
  · intro reached
    exact .inr ⟨rational, rfl, reached⟩

theorem Reaches.mono {less more : Extended} {low : UInt64} (reached : Reaches less low)
    (above : less ≤ more) : Reaches more low := by
  by_cases whole : .of 1 ≤ more
  · exact .inl whole
  · obtain atLeast | ⟨rational, rfl, below⟩ := reached
    · exact absurd (atLeast.trans above) whole
    · obtain ⟨other, rfl⟩ := Extended.exists_of_between above (lt_of_not_ge whole)
      refine .inr ⟨other, rfl, below.trans_le (Nat.floor_mono ?_)⟩
      have greater := Extended.of_le_of.mp above
      linarith

theorem accepts_iff {ratio : Binary} {traceId : TraceId} :
    accepts ratio traceId = true ↔
      ∃ value, ratio.value? = some value ∧ Reaches value traceId.low := by
  unfold accepts
  by_cases above : one.le ratio = true
  · obtain ⟨value, isValue, atLeast⟩ := one_le_iff.mp above
    rw [if_pos above]
    exact iff_of_true rfl ⟨value, isValue, .inl atLeast⟩
  · rw [if_neg above, decide_eq_true_eq]
    constructor
    · intro below
      cases ratio with
      | nan => exact absurd below (Nat.not_lt_zero _)
      | infinite negative => cases negative <;> exact absurd below (Nat.not_lt_zero _)
      | finite negative significand exponent =>
          rw [share_eq rfl] at below
          exact ⟨_, rfl, .inr ⟨_, rfl, below⟩⟩
    · rintro ⟨value, isValue, atLeast | ⟨rational, rfl, below⟩⟩
      · exact absurd (one_le_iff.mpr ⟨value, isValue, atLeast⟩) above
      · rw [share_eq isValue]
        exact below

theorem accepts_value {ratio : Binary} {value : Extended} (isValue : ratio.value? = some value)
    (traceId : TraceId) : accepts ratio traceId = true ↔ Reaches value traceId.low := by
  rw [accepts_iff]
  constructor
  · rintro ⟨_, same, reached⟩
    rw [isValue, Option.some.injEq] at same
    exact same ▸ reached
  · intro reached
    exact ⟨value, isValue, reached⟩

/-- Halves whose number without the last bit lies below a bound are twice as many. -/
theorem ncard_halves {bound : Nat} (small : bound ≤ 2 ^ 63) :
    {low : UInt64 | low.toNat / 2 < bound}.ncard = 2 * bound := by
  have numbers : UInt64.toNat '' {low : UInt64 | low.toNat / 2 < bound} =
      (Finset.range (2 * bound) : Set Nat) := by
    ext number
    rw [Finset.mem_coe, Finset.mem_range]
    constructor
    · rintro ⟨low, below, rfl⟩
      change low.toNat / 2 < bound at below
      omega
    · intro below
      have fits : number < UInt64.size := by
        unfold UInt64.size
        omega
      refine ⟨UInt64.ofNat number, ?_, UInt64.toNat_ofNat_of_lt' fits⟩
      change (UInt64.ofNat number).toNat / 2 < bound
      rw [UInt64.toNat_ofNat_of_lt' fits]
      omega
  have injective : Function.Injective UInt64.toNat := fun _ _ => UInt64.toNat_inj.mp
  rw [← Set.ncard_image_of_injective _ injective, numbers, Set.ncard_coe_finset,
    Finset.card_range]

/-- In numbers of 64 bits the product of a share with two to the 63 is exact. -/
theorem product_exact {bits : Nat} {rational : ℚ}
    (value : (BinaryFormat.double.ofBits bits).value? = some (.of rational))
    (nonnegative : 0 ≤ rational) (below : rational < 1) :
    (BinaryFormat.double.multiply (2 ^ 63) (BinaryFormat.double.ofBits bits)).value? =
      some (.of (rational * 2 ^ 63)) := by
  cases isNumber : BinaryFormat.double.ofBits bits with
  | nan =>
      rw [isNumber] at value
      cases value
  | infinite negative =>
      rw [isNumber] at value
      cases negative <;> cases value
  | finite negative significand exponent =>
      have holds := BinaryFormat.holds_ofBits (by decide) isNumber
      rw [isNumber] at value
      cases value
      by_cases isZero : significand = 0
      · rw [isZero, BinaryFormat.multiply_zero]
        simp [value?, Binary.rational]
      have small : exponent < 0 := by
        rw [← zpow_lt_one_iff_right₀ (one_lt_two (α := ℚ))]
        have one : (1 : ℚ) ≤ significand := by exact_mod_cast Nat.pos_of_ne_zero isZero
        have positive : (0 : ℚ) < 2 ^ exponent := zpow_pos two_pos _
        unfold Binary.rational at nonnegative below
        cases negative with
        | false =>
            simp only [Bool.false_eq_true, if_false, one_mul] at below
            nlinarith
        | true =>
            simp only [if_true] at nonnegative
            nlinarith
      have greatest : BinaryFormat.double.greatestExponent = 971 := by decide
      refine BinaryFormat.Holds.multiply ⟨holds.significand_lt, ?_, ?_⟩ negative
      · have := holds.least_le
        omega
      · omega

/-- Ratios decide by exact arithmetic, and the sampler stays as it is.  A ratio of one or more
accepts every trace; one of zero or less, and what is no number, accepts none; any other
accepts a trace exactly if half of its low half, rounded down, lies below the ratio times two
to the 63, rounded down.  For a ratio of 64 bits that product is a number of 64 bits itself.
So traces accepted for a ratio are accepted for every greater one, traces with the same low
half get the same decision, and a ratio accepts just its share of all low halves. -/
theorem decides_exactly :
    (∀ (ratio : Binary) (traceId : TraceId),
      (Sampler.ratio ratio).ask traceId = (accepts ratio traceId, .ratio ratio) ∧
        (ratio.value? = none → accepts ratio traceId = false) ∧
        ∀ value, ratio.value? = some value →
          (.of 1 ≤ value → accepts ratio traceId = true) ∧
            (value ≤ .of 0 → accepts ratio traceId = false) ∧
            ∀ rational : ℚ, value = .of rational → 0 < rational → rational < 1 →
              (accepts ratio traceId = true ↔
                traceId.low.toNat / 2 < ⌊rational * 2 ^ 63⌋₊)) ∧
      (∀ (bits : Nat) (rational : ℚ), 0 ≤ rational → rational < 1 →
        (BinaryFormat.double.ofBits bits).value? = some (.of rational) →
        (BinaryFormat.double.multiply (2 ^ 63) (BinaryFormat.double.ofBits bits)).value? =
          some (.of (rational * 2 ^ 63))) ∧
      (∀ (less more : Binary), less.le more = true → ∀ traceId : TraceId,
        accepts less traceId = true → accepts more traceId = true) ∧
      (∀ (ratio : Binary) (left right : TraceId), left.low = right.low →
        accepts ratio left = accepts ratio right) ∧
      ∀ (ratio : Binary) (rational : ℚ), ratio.value? = some (.of rational) →
        0 ≤ rational → rational < 1 → ∀ high : UInt64,
        {low : UInt64 | accepts ratio ⟨high, low⟩ = true}.ncard = 2 * ⌊rational * 2 ^ 63⌋₊ := by
  refine ⟨?_, ?_, ?_, ?_, ?_⟩
  · intro ratio traceId
    refine ⟨rfl, ?_, ?_⟩
    · intro none
      rw [Bool.eq_false_iff, ne_eq, accepts_iff, none]
      rintro ⟨_, isValue, _⟩
      cases isValue
    · intro value isValue
      have decision := accepts_value isValue traceId
      refine ⟨?_, ?_, ?_⟩
      · intro whole
        exact decision.mpr (.inl whole)
      · intro notPositive
        rw [Bool.eq_false_iff, ne_eq, decision]
        intro reached
        have zero := reached.mono notPositive
        rw [reaches_rational one_pos, zero_mul, Nat.floor_zero] at zero
        exact Nat.not_lt_zero _ zero
      · rintro rational rfl positive below
        rw [decision, reaches_rational below]
  · intro bits rational nonnegative below value
    exact product_exact value nonnegative below
  · intro less more above traceId accepted
    obtain ⟨value, isLess, value', isMore, atMost⟩ := le_iff.mp above
    rw [accepts_value isLess] at accepted
    exact (accepts_value isMore traceId).mpr (accepted.mono atMost)
  · intro ratio left right same
    exact accepts_congr ratio same
  · intro ratio rational value nonnegative below high
    have halves : {low : UInt64 | accepts ratio ⟨high, low⟩ = true} =
        {low : UInt64 | low.toNat / 2 < ⌊rational * 2 ^ 63⌋₊} := by
      ext low
      exact (accepts_value value ⟨high, low⟩).trans (reaches_rational below low)
    rw [halves]
    apply ncard_halves
    apply Nat.floor_le_of_le
    push_cast
    linarith

/-- The greatest ratio below one leaves out only the last of the halves. -/
example :
    let ratio := BinaryFormat.double.ofBits 0x3FEFFFFFFFFFFFFF
    share ratio = 2 ^ 63 - 2 ^ 10 ∧ accepts ratio ⟨0, 0xFFFFFFFFFFFFF7FF⟩ = true ∧
      accepts ratio ⟨0, 0xFFFFFFFFFFFFF800⟩ = false := by
  decide

end SpanTrail.Ratio
