import Mathlib.Algebra.Order.Field.Power
import Mathlib.Algebra.Order.Field.Rat
import Mathlib.Data.Rat.Cast.Order
import Mathlib.Order.WithBot
import Mathlib.Tactic.NormNum
import Mathlib.Tactic.Positivity
import Mathlib.Tactic.Ring
import SpanTrail.Number

/-! The rational that a floating point number stands for, between the two infinities, and the
numbers of a binary format.  The comparisons of numbers are those of their values.  Rounding
gives numbers of the format and keeps them, so a product with a power of two is exact, and so is
the way into a format that has room for the number.  What is read from a numeral is a number of
32 bits, so it keeps its value in 64 bits. -/

namespace SpanTrail

abbrev Extended := WithBot (WithTop ℚ)

namespace Extended

def of (rational : ℚ) : Extended := ((rational : WithTop ℚ) : WithBot (WithTop ℚ))

def infinity : Extended := ((⊤ : WithTop ℚ) : WithBot (WithTop ℚ))

@[simp] theorem of_le_of {less more : ℚ} : of less ≤ of more ↔ less ≤ more := by
  unfold of
  rw [WithBot.coe_le_coe, WithTop.coe_le_coe]

@[simp] theorem of_lt_of {less more : ℚ} : of less < of more ↔ less < more := by
  unfold of
  rw [WithBot.coe_lt_coe, WithTop.coe_lt_coe]

@[simp] theorem of_inj {left right : ℚ} : of left = of right ↔ left = right := by
  unfold of
  rw [WithBot.coe_inj, WithTop.coe_inj]

@[simp] theorem le_infinity (value : Extended) : value ≤ infinity :=
  le_top

@[simp] theorem not_infinity_le_of (rational : ℚ) : ¬infinity ≤ of rational := by
  unfold infinity of
  rw [WithBot.coe_le_coe]
  exact WithTop.not_top_le_coe rational

theorem not_of_le_bot (rational : ℚ) : ¬of rational ≤ ⊥ :=
  WithBot.not_coe_le_bot _

@[simp] theorem of_ne_bot (rational : ℚ) : of rational ≠ ⊥ :=
  WithBot.coe_ne_bot

@[simp] theorem infinity_ne_bot : infinity ≠ ⊥ :=
  WithBot.coe_ne_bot

theorem exists_of_between {value : Extended} {less more : ℚ} (above : of less ≤ value)
    (below : value < of more) : ∃ rational, value = of rational := by
  match value with
  | none => exact absurd above (not_of_le_bot less)
  | some none => exact absurd below.le (not_infinity_le_of more)
  | some (some rational) => exact ⟨rational, rfl⟩

end Extended

namespace Binary

def rational (negative : Bool) (significand : Nat) (exponent : Int) : ℚ :=
  (if negative then -1 else 1) * significand * 2 ^ exponent

def value? : Binary → Option Extended
  | .nan => none
  | .infinite true => some ⊥
  | .infinite false => some .infinity
  | .finite negative significand exponent => some (.of (rational negative significand exponent))

theorem scaled_mul_eq (negative : Bool) (significand : Nat) {exponent base : Int}
    (below : base ≤ exponent) :
    (scaled negative significand exponent base : ℚ) * 2 ^ base =
      rational negative significand exponent := by
  have shifted : (2 : ℚ) ^ exponent = 2 ^ (exponent - base).toNat * 2 ^ base := by
    rw [← zpow_natCast, ← zpow_add₀ two_ne_zero]
    congr 1
    omega
  unfold scaled rational
  rw [shifted]
  cases negative with
  | false =>
      simp only [Nat.shiftLeft_eq, Bool.false_eq_true, if_false]
      push_cast
      ring
  | true =>
      simp only [Nat.shiftLeft_eq, if_true]
      push_cast
      ring

theorem finite_le_iff {negative negative' : Bool} {significand significand' : Nat}
    {exponent exponent' : Int} :
    (finite negative significand exponent).le (finite negative' significand' exponent') = true ↔
      rational negative significand exponent ≤ rational negative' significand' exponent' := by
  have positive : (0 : ℚ) < 2 ^ min exponent exponent' := zpow_pos two_pos _
  rw [← scaled_mul_eq negative significand (min_le_left exponent exponent'),
    ← scaled_mul_eq negative' significand' (min_le_right exponent exponent'),
    mul_le_mul_iff_left₀ positive, Int.cast_le]
  exact decide_eq_true_iff

theorem le_iff {left right : Binary} :
    left.le right = true ↔
      ∃ less, left.value? = some less ∧ ∃ more, right.value? = some more ∧ less ≤ more := by
  cases left with
  | nan => exact ⟨nofun, nofun⟩
  | infinite negative =>
      cases right with
      | nan => cases negative <;> exact ⟨nofun, nofun⟩
      | infinite negative' => cases negative <;> cases negative' <;> simp [le, value?]
      | finite negative' significand' exponent' => cases negative <;> simp [le, value?]
  | finite negative significand exponent =>
      cases right with
      | nan => exact ⟨nofun, nofun⟩
      | infinite negative' => cases negative' <;> simp [le, value?]
      | finite negative' significand' exponent' =>
          rw [finite_le_iff]
          simp [value?]

theorem lt_iff {left right : Binary} :
    left.lt right = true ↔
      ∃ less, left.value? = some less ∧ ∃ more, right.value? = some more ∧ less < more := by
  unfold lt
  rw [Bool.and_eq_true, Bool.not_eq_true', ← Bool.not_eq_true, le_iff, le_iff]
  constructor
  · rintro ⟨⟨less, isLess, more, isMore, _⟩, notAbove⟩
    refine ⟨less, isLess, more, isMore, lt_of_not_ge ?_⟩
    intro above
    exact notAbove ⟨more, isMore, less, isLess, above⟩
  · rintro ⟨less, isLess, more, isMore, below⟩
    refine ⟨⟨less, isLess, more, isMore, below.le⟩, ?_⟩
    rintro ⟨more', isMore', less', isLess', above⟩
    rw [isMore, Option.some.injEq] at isMore'
    rw [isLess, Option.some.injEq] at isLess'
    subst isMore' isLess'
    exact below.not_ge above

theorem same_iff {left right : Binary} :
    left.same right = true ↔ ∃ value, left.value? = some value ∧ right.value? = some value := by
  unfold same
  rw [Bool.and_eq_true, le_iff, le_iff]
  constructor
  · rintro ⟨⟨less, isLess, more, isMore, below⟩, more', isMore', less', isLess', above⟩
    rw [isMore, Option.some.injEq] at isMore'
    rw [isLess, Option.some.injEq] at isLess'
    subst isMore' isLess'
    exact ⟨less, isLess, isMore.trans (congrArg some (le_antisymm above below))⟩
  · rintro ⟨value, isLeft, isRight⟩
    have reflexive : value ≤ value := le_rfl
    exact ⟨⟨value, isLeft, value, isRight, reflexive⟩, value, isRight, value, isLeft, reflexive⟩

theorem value?_zero : zero.value? = some (.of 0) := by
  unfold zero value? rational
  norm_num

theorem value?_one : one.value? = some (.of 1) := by
  unfold one value? rational
  norm_num

end Binary

theorem Binary.value?_of_eq {significand significand' : Nat} {exponent exponent' : Int}
    (negative : Bool) (same : (significand : ℚ) * 2 ^ exponent = significand' * 2 ^ exponent') :
    (finite negative significand exponent).value? =
      some (.of (rational negative significand' exponent')) := by
  change some (Extended.of (rational negative significand exponent)) = _
  unfold rational
  rw [mul_assoc, mul_assoc, same]

namespace BinaryFormat

theorem overPower_denominator {denominator : Nat} (positive : 0 < denominator) (numerator : Nat)
    (exponent : Int) : 0 < (overPower numerator denominator exponent).2 := by
  unfold overPower
  split
  · rw [Nat.shiftLeft_eq]
    positivity
  · exact positive

theorem overPower_value (numerator denominator : Nat) (exponent : Int) :
    ((overPower numerator denominator exponent).1 : ℚ) /
        (overPower numerator denominator exponent).2 =
      (numerator : ℚ) / denominator / 2 ^ exponent := by
  unfold overPower
  split
  · next up =>
      obtain ⟨power, rfl⟩ := Int.eq_ofNat_of_zero_le up
      simp only [Int.toNat_natCast, Nat.shiftLeft_eq, zpow_natCast]
      push_cast
      rw [div_div]
  · next down =>
      obtain ⟨power, rfl⟩ : ∃ power : Nat, exponent = -(power : Int) :=
        ⟨(-exponent).toNat, by omega⟩
      simp only [neg_neg, Int.toNat_natCast, Nat.shiftLeft_eq, zpow_neg, zpow_natCast]
      push_cast
      rw [div_inv_eq_mul]
      ring

theorem log2_bounds {number : Nat} (positive : 0 < number) :
    (2 : ℚ) ^ (number.log2 : Int) ≤ number ∧ (number : ℚ) < 2 ^ ((number.log2 : Int) + 1) := by
  rw [← Nat.cast_succ, zpow_natCast, zpow_natCast]
  constructor
  · exact_mod_cast Nat.log2_self_le positive.ne'
  · exact_mod_cast Nat.lt_log2_self

theorem quotientLog_bounds {numerator denominator : Nat} (numeratorPositive : 0 < numerator)
    (denominatorPositive : 0 < denominator) :
    (2 : ℚ) ^ quotientLog numerator denominator ≤ (numerator : ℚ) / denominator ∧
      (numerator : ℚ) / denominator < 2 ^ (quotientLog numerator denominator + 1) := by
  obtain ⟨above, below⟩ := log2_bounds numeratorPositive
  obtain ⟨above', below'⟩ := log2_bounds denominatorPositive
  have positive : (0 : ℚ) < denominator := Nat.cast_pos.mpr denominatorPositive
  let estimate : Int := (numerator.log2 : Int) - denominator.log2
  have upper : (numerator : ℚ) / denominator < 2 ^ (estimate + 1) := by
    rw [div_lt_iff₀ positive]
    calc
      (numerator : ℚ) < 2 ^ ((numerator.log2 : Int) + 1) := below
      _ = 2 ^ (estimate + 1) * 2 ^ (denominator.log2 : Int) := by
        rw [← zpow_add₀ two_ne_zero]
        congr 1
        omega
      _ ≤ 2 ^ (estimate + 1) * denominator :=
        mul_le_mul_of_nonneg_left above' (zpow_pos two_pos _).le
  have lower : (2 : ℚ) ^ (estimate - 1) ≤ (numerator : ℚ) / denominator := by
    rw [le_div_iff₀ positive]
    calc
      (2 : ℚ) ^ (estimate - 1) * denominator ≤
          2 ^ (estimate - 1) * 2 ^ ((denominator.log2 : Int) + 1) :=
        mul_le_mul_of_nonneg_left below'.le (zpow_pos two_pos _).le
      _ = 2 ^ (numerator.log2 : Int) := by
        rw [← zpow_add₀ two_ne_zero]
        congr 1
        omega
      _ ≤ numerator := above
  have scaledPositive : (0 : ℚ) < (overPower numerator denominator estimate).2 :=
    Nat.cast_pos.mpr (overPower_denominator denominatorPositive numerator estimate)
  have reached :
      (overPower numerator denominator estimate).2 ≤ (overPower numerator denominator estimate).1 ↔
        (2 : ℚ) ^ estimate ≤ (numerator : ℚ) / denominator := by
    rw [← Nat.cast_le (α := ℚ), ← one_le_div scaledPositive, overPower_value,
      one_le_div (zpow_pos two_pos _)]
  have log : quotientLog numerator denominator =
      if (overPower numerator denominator estimate).2 ≤ (overPower numerator denominator estimate).1
        then estimate else estimate - 1 := rfl
  rw [log]
  split
  · next isReached => exact ⟨reached.mp isReached, upper⟩
  · next isNot =>
      refine ⟨lower, ?_⟩
      rw [sub_add_cancel]
      exact lt_of_not_ge fun atLeast => isNot (reached.mpr atLeast)

theorem roundHalfEven_exact (quotient : Nat) {denominator : Nat} (positive : 0 < denominator) :
    roundHalfEven (quotient * denominator) denominator = quotient := by
  unfold roundHalfEven
  simp only [Nat.mul_mod_left, Nat.mul_div_cancel _ positive, Nat.mul_zero]
  rw [if_neg]
  omega

theorem roundHalfEven_le {numerator denominator bound : Nat} (positive : 0 < denominator)
    (below : (numerator : ℚ) / denominator < bound) :
    roundHalfEven numerator denominator ≤ bound := by
  rw [div_lt_iff₀ (Nat.cast_pos.mpr positive)] at below
  have short : numerator / denominator < bound :=
    (Nat.div_lt_iff_lt_mul positive).mpr (by exact_mod_cast below)
  unfold roundHalfEven
  dsimp only
  split
  · exact short
  · exact short.le

/-! ### Rounding to a format -/

variable (format : BinaryFormat)

def lastExponent (numerator denominator : Nat) : Int :=
  max (quotientLog numerator denominator - format.fractionBits) format.leastExponent

def scaled (numerator denominator : Nat) : Nat × Nat :=
  overPower numerator denominator (format.lastExponent numerator denominator)

/-- A significand that was rounded up to one bit more than there is room for is halved, and
an exponent beyond the greatest makes an infinity. -/
def carry (negative : Bool) (significand : Nat) (exponent : Int) : Binary :=
  let carried := if significand = 1 <<< (format.fractionBits + 1) then
    (1 <<< format.fractionBits, exponent + 1) else (significand, exponent)
  if format.greatestExponent < carried.2 then .infinite negative
  else .finite negative carried.1 carried.2

theorem round_eq (negative : Bool) {numerator : Nat} (nonzero : numerator ≠ 0)
    (denominator : Nat) :
    format.round negative numerator denominator =
      format.carry negative
        (roundHalfEven (format.scaled numerator denominator).1
          (format.scaled numerator denominator).2)
        (format.lastExponent numerator denominator) := by
  unfold round
  rw [if_neg nonzero]
  rfl

theorem scaled_positive (numerator : Nat) {denominator : Nat} (positive : 0 < denominator) :
    0 < (format.scaled numerator denominator).2 :=
  overPower_denominator positive _ _

/-- The kept bits fit into the significand. -/
theorem scaled_lt {numerator denominator : Nat} (numeratorPositive : 0 < numerator)
    (denominatorPositive : 0 < denominator) :
    ((format.scaled numerator denominator).1 : ℚ) / (format.scaled numerator denominator).2 <
      (2 ^ (format.fractionBits + 1) : ℕ) := by
  unfold scaled
  rw [overPower_value, div_lt_iff₀ (zpow_pos two_pos _)]
  refine (quotientLog_bounds numeratorPositive denominatorPositive).2.trans_le ?_
  push_cast
  rw [← zpow_natCast, ← zpow_add₀ two_ne_zero]
  apply zpow_le_zpow_right₀ one_le_two
  have kept : quotientLog numerator denominator - format.fractionBits ≤
    format.lastExponent numerator denominator := le_max_left ..
  push_cast
  omega

/-- The format has room for the significand and for the exponent. -/
structure Holds (significand : Nat) (exponent : Int) : Prop where
  significand_lt : significand < 2 ^ (format.fractionBits + 1)
  least_le : format.leastExponent ≤ exponent
  le_greatest : exponent ≤ format.greatestExponent

variable {format}

theorem Holds.carry {significand : Nat} {exponent : Int} (holds : format.Holds significand exponent)
    (negative : Bool) : format.carry negative significand exponent =
      .finite negative significand exponent := by
  have narrow : significand ≠ 1 <<< (format.fractionBits + 1) := by
    rw [Nat.shiftLeft_eq, one_mul]
    exact holds.significand_lt.ne
  unfold BinaryFormat.carry
  rw [if_neg narrow]
  exact if_neg holds.le_greatest.not_gt

theorem holds_carry {negative sign : Bool} {significand significand' : Nat}
    {exponent exponent' : Int} (small : significand ≤ 2 ^ (format.fractionBits + 1))
    (least : format.leastExponent ≤ exponent)
    (finite : format.carry negative significand exponent = .finite sign significand' exponent') :
    format.Holds significand' exponent' := by
  unfold BinaryFormat.carry at finite
  rw [Nat.shiftLeft_eq, Nat.shiftLeft_eq, one_mul, one_mul] at finite
  by_cases full : significand = 2 ^ (format.fractionBits + 1)
  · rw [if_pos full] at finite
    dsimp only at finite
    split at finite
    · cases finite
    · next inside =>
        cases finite
        exact ⟨Nat.pow_lt_pow_right (by decide) (Nat.lt_succ_self _), by omega, by omega⟩
  · rw [if_neg full] at finite
    dsimp only at finite
    split at finite
    · cases finite
    · next inside =>
        cases finite
        exact ⟨lt_of_le_of_ne small full, least, by omega⟩

theorem holds_round (ordered : format.leastExponent ≤ format.greatestExponent)
    {negative sign : Bool} {numerator denominator significand : Nat} {exponent : Int}
    (positive : 0 < denominator)
    (finite : format.round negative numerator denominator = .finite sign significand exponent) :
    format.Holds significand exponent := by
  by_cases isZero : numerator = 0
  · unfold round at finite
    rw [if_pos isZero] at finite
    cases finite
    exact ⟨by positivity, le_rfl, ordered⟩
  · rw [format.round_eq negative isZero] at finite
    refine holds_carry ?_ (le_max_right ..) finite
    exact roundHalfEven_le (format.scaled_positive _ positive)
      (format.scaled_lt (Nat.pos_of_ne_zero isZero) positive)

theorem Holds.round {significand numerator denominator : Nat} {exponent : Int}
    (holds : format.Holds significand exponent) (positive : 0 < denominator)
    (value : (numerator : ℚ) / denominator = significand * 2 ^ exponent) (negative : Bool) :
    (format.round negative numerator denominator).value? =
      some (.of (Binary.rational negative significand exponent)) := by
  by_cases isZero : numerator = 0
  · have zero : significand = 0 := by
      rw [isZero, Nat.cast_zero, zero_div, eq_comm, mul_eq_zero] at value
      exact Nat.cast_eq_zero.mp (value.resolve_right (zpow_pos two_pos _).ne')
    unfold BinaryFormat.round
    rw [if_pos isZero, zero]
    simp [Binary.value?, Binary.rational]
  have numeratorPositive := Nat.pos_of_ne_zero isZero
  -- The quotient has no bits below the last exponent.
  have logLt : quotientLog numerator denominator < format.fractionBits + 1 + exponent := by
    rw [← zpow_lt_zpow_iff_right₀ (one_lt_two (α := ℚ)), zpow_add₀ two_ne_zero]
    refine (quotientLog_bounds numeratorPositive positive).1.trans_lt ?_
    rw [value]
    refine mul_lt_mul_of_pos_right ?_ (zpow_pos two_pos _)
    exact_mod_cast holds.significand_lt
  have lastLe : format.lastExponent numerator denominator ≤ exponent :=
    max_le (by omega) holds.least_le
  obtain ⟨shift, isShift⟩ :
      ∃ shift : Nat, exponent = format.lastExponent numerator denominator + shift :=
    ⟨(exponent - format.lastExponent numerator denominator).toNat, by omega⟩
  have scaledPositive := format.scaled_positive numerator positive
  have quotient : ((format.scaled numerator denominator).1 : ℚ) /
      (format.scaled numerator denominator).2 = (significand * 2 ^ shift : ℕ) := by
    unfold scaled
    rw [overPower_value, value, isShift, zpow_add₀ two_ne_zero, mul_left_comm,
      mul_div_cancel_left₀ _ (zpow_pos two_pos _).ne', zpow_natCast]
    push_cast
    rfl
  have whole : (format.scaled numerator denominator).1 =
      significand * 2 ^ shift * (format.scaled numerator denominator).2 := by
    rw [div_eq_iff (Nat.cast_pos.mpr scaledPositive).ne'] at quotient
    exact_mod_cast quotient
  have kept :
      format.Holds (significand * 2 ^ shift) (format.lastExponent numerator denominator) := by
    refine ⟨?_, le_max_right .., lastLe.trans holds.le_greatest⟩
    have small := format.scaled_lt numeratorPositive positive
    rw [quotient] at small
    exact_mod_cast small
  rw [format.round_eq negative isZero, whole, roundHalfEven_exact _ scaledPositive, kept.carry]
  apply Binary.value?_of_eq
  rw [isShift, zpow_add₀ two_ne_zero, zpow_natCast]
  push_cast
  ring

/-- A multiple by a power of two that the format has room for is exact. -/
theorem Holds.multiply {significand power : Nat} {exponent : Int}
    (holds : format.Holds significand (exponent + power)) (negative : Bool) :
    (format.multiply (2 ^ power) (.finite negative significand exponent)).value? =
      some (.of (Binary.rational negative significand exponent * 2 ^ power)) := by
  have positive := overPower_denominator Nat.one_pos (significand * 2 ^ power) (-exponent)
  have value := overPower_value (significand * 2 ^ power) 1 (-exponent)
  have exact' : ((overPower (significand * 2 ^ power) 1 (-exponent)).1 : ℚ) /
      (overPower (significand * 2 ^ power) 1 (-exponent)).2 =
        significand * 2 ^ (exponent + power) := by
    rw [value, zpow_neg, div_inv_eq_mul, zpow_add₀ two_ne_zero, zpow_natCast]
    push_cast
    ring
  refine (holds.round positive exact' negative).trans ?_
  unfold Binary.rational
  rw [zpow_add₀ two_ne_zero, zpow_natCast]
  congr 2
  ring

theorem multiply_zero (factor : Nat) (negative : Bool) (exponent : Int) :
    format.multiply factor (.finite negative 0 exponent) =
      .finite negative 0 format.leastExponent := by
  have numerator : (overPower (0 * factor) 1 (-exponent)).1 = 0 := by
    rw [Nat.zero_mul]
    unfold overPower
    split
    · rfl
    · exact Nat.zero_shiftLeft _
  unfold multiply
  dsimp only
  unfold round
  exact if_pos numerator

/-! ### Bit patterns -/

/-- The exponents of the format are as many as its exponent fields, but for those of the
smallest numbers, of the infinities, and the one that is no number. -/
theorem greatestExponent_eq (ordered : format.leastExponent ≤ format.greatestExponent) :
    format.greatestExponent = format.leastExponent + (2 ^ format.exponentBits : ℕ) - 3 := by
  have positive : format.exponentBits ≠ 0 := by
    intro none
    unfold leastExponent greatestExponent bias at ordered
    rw [none] at ordered
    simp only [Nat.zero_sub, Nat.shiftLeft_zero, Nat.sub_self] at ordered
    omega
  obtain ⟨bits, isSucc⟩ := Nat.exists_eq_succ_of_ne_zero positive
  have one : 1 ≤ 2 ^ bits := Nat.one_le_two_pow
  unfold greatestExponent leastExponent bias
  rw [isSucc, Nat.succ_sub_one, Nat.shiftLeft_eq, one_mul, pow_succ]
  omega

theorem holds_ofBits (ordered : format.leastExponent ≤ format.greatestExponent)
    {bits significand : Nat} {sign : Bool} {exponent : Int}
    (finite : format.ofBits bits = .finite sign significand exponent) :
    format.Holds significand exponent := by
  have greatest := greatestExponent_eq ordered
  have fraction : bits % 2 ^ format.fractionBits < 2 ^ format.fractionBits :=
    Nat.mod_lt _ (by positivity)
  have field : bits >>> format.fractionBits % 2 ^ format.exponentBits < 2 ^ format.exponentBits :=
    Nat.mod_lt _ (by positivity)
  have double : 2 ^ (format.fractionBits + 1) = 2 ^ format.fractionBits * 2 := pow_succ ..
  unfold ofBits topField at finite
  simp only [Nat.shiftLeft_eq, one_mul] at finite
  split at finite
  · split at finite
    · cases finite
    · cases finite
  · next notTop =>
      split at finite
      · cases finite
        exact ⟨by omega, le_rfl, ordered⟩
      · next notZero =>
          cases finite
          exact ⟨by omega, by omega, by omega⟩

theorem ofBits_fields {field fraction : Nat} (narrow : fraction < 2 ^ format.fractionBits)
    (inside : field < 2 ^ format.exponentBits - 1) (negative : Bool) :
    format.ofBits ((if negative then 1 <<< (format.fractionBits + format.exponentBits) else 0) +
        field <<< format.fractionBits + fraction) =
      if field = 0 then .finite negative fraction format.leastExponent
      else .finite negative (fraction + 2 ^ format.fractionBits)
        (format.leastExponent + field - 1) := by
  have packed : (if negative then 1 <<< (format.fractionBits + format.exponentBits) else 0) +
      field <<< format.fractionBits + fraction =
        fraction + 2 ^ format.fractionBits *
          (field + 2 ^ format.exponentBits * negative.toNat) := by
    rw [Nat.shiftLeft_eq, Nat.shiftLeft_eq, pow_add]
    cases negative with
    | false => simp only [Bool.false_eq_true, if_false, Bool.toNat_false]; ring
    | true => simp only [if_true, Bool.toNat_true]; ring
  have above : (fraction + 2 ^ format.fractionBits *
      (field + 2 ^ format.exponentBits * negative.toNat)) / 2 ^ format.fractionBits =
        field + 2 ^ format.exponentBits * negative.toNat := by
    rw [Nat.add_mul_div_left _ _ (by positivity), Nat.div_eq_of_lt narrow, Nat.zero_add]
  have fieldLt : field < 2 ^ format.exponentBits := by omega
  have sign : (negative.toNat % 2 == 1) = negative := by cases negative <;> rfl
  unfold ofBits topField
  rw [packed]
  simp only [Nat.shiftLeft_eq, one_mul, Nat.shiftRight_eq_div_pow, pow_add,
    ← Nat.div_div_eq_div_mul, above, Nat.add_mul_mod_self_left, Nat.mod_eq_of_lt narrow,
    Nat.mod_eq_of_lt fieldLt]
  rw [if_neg inside.ne, Nat.add_mul_div_left _ _ (by positivity), Nat.div_eq_of_lt fieldLt,
    Nat.zero_add, sign]

theorem toBits_zero (negative : Bool) (exponent : Int) :
    format.toBits (.finite negative 0 exponent) =
      (if negative then 1 <<< (format.fractionBits + format.exponentBits) else 0) +
        0 <<< format.fractionBits + 0 :=
  rfl

theorem toBits_nonzero (negative : Bool) {significand : Nat} (nonzero : significand ≠ 0)
    (exponent : Int) :
    format.toBits (.finite negative significand exponent) =
      (if negative then 1 <<< (format.fractionBits + format.exponentBits) else 0) +
        (format.fields significand exponent).1 <<< format.fractionBits +
          (format.fields significand exponent).2 := by
  obtain ⟨before, rfl⟩ := Nat.exists_eq_succ_of_ne_zero nonzero
  rfl

theorem fields_small {significand : Nat} {exponent : Int} (least : format.leastExponent ≤ exponent)
    (small : exponent + significand.log2 < format.leastExponent + format.fractionBits) :
    (format.fields significand exponent).1 = 0 ∧
      (format.fields significand exponent).2 < 2 ^ format.fractionBits ∧
        ((format.fields significand exponent).2 : ℚ) * 2 ^ format.leastExponent =
          significand * 2 ^ exponent := by
  obtain ⟨shift, rfl⟩ : ∃ shift : Nat, exponent = format.leastExponent + shift :=
    ⟨(exponent - format.leastExponent).toNat, by omega⟩
  have made : format.fields significand (format.leastExponent + shift) =
      (0, significand * 2 ^ shift) := by
    unfold fields
    rw [if_pos (by omega), add_sub_cancel_left, Int.toNat_natCast, Nat.shiftLeft_eq]
  rw [made]
  refine ⟨rfl, ?_, ?_⟩
  · calc
      significand * 2 ^ shift < 2 ^ (significand.log2 + 1) * 2 ^ shift :=
        Nat.mul_lt_mul_of_pos_right Nat.lt_log2_self (by positivity)
      _ = 2 ^ (significand.log2 + 1 + shift) := (pow_add ..).symm
      _ ≤ 2 ^ format.fractionBits := Nat.pow_le_pow_right (by decide) (by omega)
  · rw [zpow_add₀ two_ne_zero, zpow_natCast]
    push_cast
    ring

theorem fields_normal {significand : Nat} {exponent : Int} (nonzero : significand ≠ 0)
    (holds : format.Holds significand exponent)
    (normal : format.leastExponent + format.fractionBits ≤ exponent + significand.log2) :
    let field := (format.fields significand exponent).1
    (field : Int) = exponent + significand.log2 - (format.leastExponent + format.fractionBits) + 1 ∧
      (format.fields significand exponent).2 < 2 ^ format.fractionBits ∧
        ((format.fields significand exponent).2 + 2 ^ format.fractionBits : ℚ) *
            2 ^ (format.leastExponent + field - 1) =
          significand * 2 ^ exponent := by
  intro field
  have narrow : significand.log2 ≤ format.fractionBits := by
    have := (Nat.log2_lt nonzero).mpr holds.significand_lt
    omega
  obtain ⟨shift, isShift⟩ := Nat.exists_eq_add_of_le narrow
  have shifted : significand <<< format.fractionBits >>> significand.log2 =
      significand * 2 ^ shift := by
    rw [Nat.shiftLeft_eq, Nat.shiftRight_eq_div_pow, isShift, pow_add, Nat.mul_left_comm,
      Nat.mul_div_cancel_left _ (by positivity)]
  have lower : 2 ^ format.fractionBits ≤ significand * 2 ^ shift := by
    rw [isShift, pow_add]
    exact Nat.mul_le_mul_right _ (Nat.log2_self_le nonzero)
  have upper : significand * 2 ^ shift < 2 ^ format.fractionBits + 2 ^ format.fractionBits := by
    rw [← two_mul, ← pow_succ', isShift, Nat.add_right_comm, pow_add]
    exact Nat.mul_lt_mul_of_pos_right Nat.lt_log2_self (by positivity)
  have made : format.fields significand exponent =
      ((exponent + significand.log2 - (format.leastExponent + format.fractionBits) + 1).toNat,
        significand * 2 ^ shift - 2 ^ format.fractionBits) := by
    unfold fields
    rw [if_neg (by omega), shifted, Nat.shiftLeft_eq, one_mul, Nat.mod_eq_sub_mod lower,
      Nat.mod_eq_of_lt (by omega)]
  have isField : (field : Int) =
      exponent + significand.log2 - (format.leastExponent + format.fractionBits) + 1 := by
    unfold field
    rw [made, Int.toNat_of_nonneg (by omega)]
  refine ⟨isField, ?_, ?_⟩
  · rw [made]
    dsimp only
    omega
  · have last : exponent = format.leastExponent + field - 1 + shift := by omega
    rw [made, last, zpow_add₀ two_ne_zero _ (shift : Int), zpow_natCast]
    push_cast [lower]
    ring

/-- A number of the format has the same value in the form that the format gives it. -/
theorem Holds.adopt {significand : Nat} {exponent : Int}
    (ordered : format.leastExponent ≤ format.greatestExponent)
    (holds : format.Holds significand exponent) (negative : Bool) :
    (format.adopt (.finite negative significand exponent)).value? =
      some (.of (Binary.rational negative significand exponent)) := by
  have greatest := greatestExponent_eq ordered
  have notAbove := holds.le_greatest
  unfold BinaryFormat.adopt
  by_cases isZero : significand = 0
  · rw [isZero, toBits_zero, ofBits_fields (by positivity) (by omega), if_pos rfl]
    simp [Binary.value?, Binary.rational]
  rw [toBits_nonzero negative isZero]
  by_cases small : exponent + significand.log2 < format.leastExponent + format.fractionBits
  · obtain ⟨field, narrow, value⟩ := fields_small holds.least_le small
    rw [ofBits_fields narrow (by omega), if_pos field]
    exact Binary.value?_of_eq negative value
  · have leading := (Nat.log2_lt isZero).mpr holds.significand_lt
    obtain ⟨field, narrow, value⟩ := fields_normal isZero holds (not_lt.mp small)
    rw [ofBits_fields narrow (by omega), if_neg (by omega)]
    apply Binary.value?_of_eq
    rw [← value]
    push_cast
    rfl

end BinaryFormat

theorem BinaryFormat.Holds.double_of_single {significand : Nat} {exponent : Int}
    (holds : single.Holds significand exponent) : double.Holds significand exponent := by
  have narrow : single.leastExponent = -149 ∧ single.greatestExponent = 104 := by decide
  have wide : double.leastExponent = -1074 ∧ double.greatestExponent = 971 := by decide
  obtain ⟨small, least, greatest⟩ := holds
  refine ⟨small.trans ?_, by omega, by omega⟩
  exact Nat.pow_lt_pow_right (by decide) (by decide)

namespace Numeral

theorem holds_single {negative sign : Bool} {parts : Parts} {significand : Nat} {exponent : Int}
    (finite : single negative parts = .finite sign significand exponent) :
    BinaryFormat.single.Holds significand exponent := by
  have zero : BinaryFormat.single.Holds 0 BinaryFormat.single.leastExponent := by
    refine ⟨by decide, by decide, by decide⟩
  unfold single at finite
  dsimp only at finite
  split at finite
  · cases finite
    exact zero
  · split at finite
    · cases finite
    · split at finite
      · cases finite
        exact zero
      · refine BinaryFormat.holds_round (by decide) ?_ finite
        exact Nat.pow_pos (by decide)

theorem holds_readSingle? {text : String} {negative : Bool} {significand : Nat} {exponent : Int}
    (isRead : readSingle? text = some (.finite negative significand exponent)) :
    BinaryFormat.single.Holds significand exponent := by
  unfold readSingle? at isRead
  dsimp only at isRead
  split at isRead
  · cases isRead
  · split at isRead
    · cases isRead
    · obtain ⟨parts, _, made⟩ := Option.map_eq_some_iff.mp isRead
      exact holds_single made

/-- In 64 bits, what was read from a numeral keeps its value. -/
theorem adopt_value {text : String} {number : Binary} (isRead : readSingle? text = some number) :
    (BinaryFormat.double.adopt number).value? = number.value? := by
  cases number with
  | nan => decide
  | infinite negative => cases negative <;> decide
  | finite negative significand exponent =>
      exact (holds_readSingle? isRead).double_of_single.adopt (by decide) negative

end Numeral

end SpanTrail
