import Mathlib.Data.List.Basic
import Mathlib.Data.List.Forall2
import Mathlib.Data.List.Induction
import Mathlib.Tactic.IntervalCases
import SpanTrail.Text.Layout

/-! Letters of the ASCII alphabet and their case, and hexadecimal text.  A text of fixed width
consists of lower-case digits and reads back as the number that it was written from, and any text
of lower-case digits is the text of its number in its own width.  A numeral has digits of either
case, any number of zeros in front of them and at most one plus sign in front of these.  Reading
takes exactly the numerals of the numbers below the bound, and writing in a fixed width
normalises them. -/

namespace SpanTrail.Text

theorem toNat_toLower (character : Char) :
    character.toLower.toNat =
      if 65 ≤ character.toNat ∧ character.toNat ≤ 90 then character.toNat + 32
      else character.toNat := by
  unfold Char.toLower
  by_cases capital : character.val ≥ 'A'.val ∧ character.val ≤ 'Z'.val
  · have bounds : 65 ≤ character.toNat ∧ character.toNat ≤ 90 := capital
    rw [dif_pos capital, if_pos bounds]
    change (character.val + ('a'.val - 'A'.val)).toNat = _
    rw [UInt32.toNat_add]
    change (character.toNat + 32) % 2 ^ 32 = _
    omega
  · have bounds : ¬(65 ≤ character.toNat ∧ character.toNat ≤ 90) := capital
    rw [dif_neg capital, if_neg bounds]

theorem toNat_toUpper (character : Char) :
    character.toUpper.toNat =
      if 97 ≤ character.toNat ∧ character.toNat ≤ 122 then character.toNat - 32
      else character.toNat := by
  unfold Char.toUpper
  by_cases small : 'a'.val ≤ character.val ∧ character.val ≤ 'z'.val
  · have bounds : 97 ≤ character.toNat ∧ character.toNat ≤ 122 := small
    rw [dif_pos small, if_pos bounds]
    change (character.val + ('A'.val - 'a'.val)).toNat = _
    rw [UInt32.toNat_add]
    change (character.toNat + 4294967264) % 2 ^ 32 = _
    omega
  · have bounds : ¬(97 ≤ character.toNat ∧ character.toNat ≤ 122) := small
    rw [dif_neg small, if_neg bounds]

/-- A small letter is the lower case of itself and of its capital alone. -/
theorem toLower_eq_iff {letter : Char} (small : 97 ≤ letter.toNat ∧ letter.toNat ≤ 122)
    (character : Char) :
    character.toLower = letter ↔ character = letter ∨ character = letter.toUpper := by
  rw [← Char.toNat_inj, ← Char.toNat_inj, ← Char.toNat_inj, toNat_toLower, toNat_toUpper,
    if_pos small]
  split
  · omega
  · omega

def InAnyCase (word text : List Char) : Prop :=
  List.Forall₂ (fun letter character => character = letter ∨ character = letter.toUpper) word text

theorem map_toLower_eq_iff {word : List Char}
    (small : ∀ letter ∈ word, 97 ≤ letter.toNat ∧ letter.toNat ≤ 122) (text : List Char) :
    text.map Char.toLower = word ↔ InAnyCase word text := by
  unfold InAnyCase
  induction word generalizing text with
  | nil => rw [List.map_eq_nil_iff, List.forall₂_nil_left_iff]
  | cons letter rest ih =>
      cases text with
      | nil => exact ⟨nofun, nofun⟩
      | cons character others =>
          rw [List.map_cons, List.cons.injEq, List.forall₂_cons,
            toLower_eq_iff (small letter List.mem_cons_self),
            ih (fun later member => small later (List.mem_cons_of_mem _ member))]

end SpanTrail.Text

namespace SpanTrail.Hex

theorem isLowerDigit_iff (digit : Char) :
    isLowerDigit digit = true ↔
      (48 ≤ digit.toNat ∧ digit.toNat ≤ 57) ∨ (97 ≤ digit.toNat ∧ digit.toNat ≤ 102) := by
  unfold isLowerDigit
  rw [Bool.or_eq_true, Bool.and_eq_true, Bool.and_eq_true, decide_eq_true_eq, decide_eq_true_eq,
    decide_eq_true_eq, decide_eq_true_eq]
  rfl

theorem isLowerDigit_digitChar {digit : Nat} (small : digit < 16) :
    isLowerDigit (Nat.digitChar digit) = true := by
  interval_cases digit <;> rfl

/-- Each of the sixteen digits reads as its own value. -/
theorem digitValue?_digitChar {digit : Nat} (small : digit < 16) :
    digitValue? (Nat.digitChar digit) = some digit := by
  interval_cases digit <;> rfl

theorem isLowerDigit_of_mem_fixed {width number : Nat} {digit : Char}
    (member : digit ∈ fixed width number) : isLowerDigit digit = true := by
  induction width generalizing number with
  | zero => cases member
  | succ width ih =>
      rcases List.mem_append.mp member with front | last
      · exact ih front
      · rw [List.mem_singleton.mp last]
        exact isLowerDigit_digitChar (Nat.mod_lt number (by decide))

theorem fixed_lower (width number : Nat) : (fixed width number).all isLowerDigit = true := by
  rw [List.all_eq_true]
  intro digit member
  exact isLowerDigit_of_mem_fixed member

theorem readDigits_append {bound sofar middle : Nat} {front : List Char}
    (succeeded : readDigits bound sofar front = .ok middle) (back : List Char) :
    readDigits bound sofar (front ++ back) = readDigits bound middle back := by
  induction front generalizing sofar with
  | nil =>
      cases succeeded
      rfl
  | cons digit rest ih =>
      rw [List.cons_append]
      cases found : digitValue? digit with
      | none =>
          simp only [readDigits, found] at succeeded
          cases succeeded
      | some value =>
          simp only [readDigits, found] at succeeded
          by_cases fits : sofar * 16 + value < bound
          · rw [if_pos fits] at succeeded
            simp only [readDigits, found, if_pos fits]
            exact ih succeeded
          · rw [if_neg fits] at succeeded
            cases succeeded

theorem readDigits_fixed {bound sofar width number : Nat} (narrow : number < 16 ^ width)
    (fits : sofar * 16 ^ width + number < bound) :
    readDigits bound sofar (fixed width number) = .ok (sofar * 16 ^ width + number) := by
  induction width generalizing number with
  | zero =>
      have zero : number = 0 := by
        rw [Nat.pow_zero] at narrow
        omega
      rw [zero, Nat.pow_zero, Nat.mul_one]
      rfl
  | succ width ih =>
      rw [Nat.pow_succ] at narrow fits ⊢
      have shifted : sofar * (16 ^ width * 16) = sofar * 16 ^ width * 16 :=
        (Nat.mul_assoc _ _ _).symm
      rw [shifted] at fits ⊢
      have front : readDigits bound sofar (fixed width (number / 16)) =
          .ok (sofar * 16 ^ width + number / 16) := by
        apply ih
        · omega
        · omega
      have whole : (sofar * 16 ^ width + number / 16) * 16 + number % 16 =
          sofar * 16 ^ width * 16 + number := by
        omega
      have small : number % 16 < 16 := Nat.mod_lt number (by decide)
      rw [fixed, readDigits_append front]
      simp only [readDigits, digitValue?_digitChar small, whole, if_pos fits]

theorem read_cons {bound : Nat} {first : Char} (noSign : first ≠ '+') (rest : List Char) :
    read bound (first :: rest) = readDigits bound 0 (first :: rest) := by
  unfold read
  split
  · rename_i impossible
    cases impossible
  · rename_i onlySign
    exact absurd (List.cons.inj onlySign).1 noSign
  · rename_i signed
    exact absurd (List.cons.inj signed).1 noSign
  · rfl

theorem read_lower {bound : Nat} {first : Char} {rest : List Char}
    (lower : isLowerDigit first = true) :
    read bound (first :: rest) = readDigits bound 0 (first :: rest) := by
  apply read_cons
  intro sign
  rw [sign] at lower
  cases lower

/-- Text of a fixed width reads back as the number that it was written from. -/
theorem read_fixed {bound width number : Nat} (nonempty : 0 < width) (narrow : number < 16 ^ width)
    (fits : number < bound) : read bound (fixed width number) = .ok number := by
  have digits : readDigits bound 0 (fixed width number) = .ok number := by
    have general := @readDigits_fixed bound 0 width number narrow
    rw [Nat.zero_mul, Nat.zero_add] at general
    exact general fits
  cases text : fixed width number with
  | nil =>
      have lengths := fixed_length width number
      rw [text, List.length_nil] at lengths
      omega
  | cons first rest =>
      have lower : isLowerDigit first = true := by
        apply @isLowerDigit_of_mem_fixed width number
        rw [text]
        exact List.mem_cons_self
      rw [read_lower lower, ← text]
      exact digits

theorem isLowerDigit_of_mem_digits {number : Nat} {digit : Char} (member : digit ∈ digits number) :
    isLowerDigit digit = true := by
  induction number using Nat.strongRecOn with
  | ind number ih =>
      unfold digits at member
      rcases Nat.lt_or_ge number 16 with single | several
      · rw [Nat.toDigits_of_lt_base single] at member
        rw [List.mem_singleton.mp member]
        exact isLowerDigit_digitChar single
      · rw [Nat.toDigits_of_base_le (by decide) several] at member
        rcases List.mem_append.mp member with front | last
        · exact ih (number / 16) (by omega) front
        · rw [List.mem_singleton.mp last]
          exact isLowerDigit_digitChar (Nat.mod_lt number (by decide))

/-- The values of the digits make the number again. -/
theorem exists_values (number : Nat) :
    ∃ values, (digits number).mapM digitValue? = some values ∧
      values.foldl (fun value digit => value * 16 + digit) 0 = number := by
  induction number using Nat.strongRecOn with
  | ind number ih =>
      unfold digits
      rcases Nat.lt_or_ge number 16 with single | several
      · refine ⟨[number], ?_, ?_⟩
        · rw [Nat.toDigits_of_lt_base single, List.mapM_cons, digitValue?_digitChar single]
          rfl
        · rw [List.foldl_cons, List.foldl_nil, Nat.zero_mul, Nat.zero_add]
      · have small : number % 16 < 16 := Nat.mod_lt number (by decide)
        obtain ⟨values, read, value⟩ := ih (number / 16) (by omega)
        refine ⟨values ++ [number % 16], ?_, ?_⟩
        · unfold digits at read
          rw [Nat.toDigits_of_base_le (by decide) several, List.mapM_append, read, List.mapM_cons,
            digitValue?_digitChar small]
          rfl
        · rw [List.foldl_append, value, List.foldl_cons, List.foldl_nil]
          omega

/-! ### Numbers of lower-case text -/

def lowerDigits : List Char :=
  "0123456789abcdef".toList

def number (text : List Char) : Nat :=
  text.foldl (fun sofar digit => sofar * 16 + lowerDigits.idxOf digit) 0

theorem isLowerDigit_iff_mem (digit : Char) :
    isLowerDigit digit = true ↔ digit ∈ lowerDigits := by
  constructor
  · intro lower
    have range := (isLowerDigit_iff digit).mp lower
    have all : ∀ code < 103, (48 ≤ code ∧ code ≤ 57) ∨ (97 ≤ code ∧ code ≤ 102) →
        Char.ofNat code ∈ lowerDigits := by
      decide
    rw [← Char.ofNat_toNat digit]
    exact all digit.toNat (by omega) range
  · intro member
    have all : lowerDigits.all isLowerDigit = true := rfl
    exact List.all_eq_true.mp all digit member

theorem all_isLowerDigit (text : List Char) :
    text.all isLowerDigit = true ↔ ∀ digit ∈ text, digit ∈ lowerDigits := by
  rw [List.all_eq_true]
  exact forall₂_congr fun digit _ => isLowerDigit_iff_mem digit

theorem number_concat (front : List Char) (digit : Char) :
    number (front ++ [digit]) = number front * 16 + lowerDigits.idxOf digit := by
  unfold number
  rw [List.foldl_append]
  rfl

theorem number_append (front back : List Char) :
    number (front ++ back) = number front * 16 ^ back.length + number back := by
  induction back using List.reverseRecOn with
  | nil => rw [List.append_nil, List.length_nil, Nat.pow_zero, Nat.mul_one]; rfl
  | append_singleton back digit ih =>
      have shifted : number front * (16 ^ back.length * 16) =
          number front * 16 ^ back.length * 16 := (Nat.mul_assoc _ _ _).symm
      rw [← List.append_assoc, number_concat, number_concat, ih, List.length_append,
        List.length_singleton, Nat.pow_succ, shifted]
      omega

theorem idxOf_lt {digit : Char} (lower : digit ∈ lowerDigits) : lowerDigits.idxOf digit < 16 :=
  List.idxOf_lt_length_of_mem lower

theorem digitChar_idxOf {digit : Char} (lower : digit ∈ lowerDigits) :
    Nat.digitChar (lowerDigits.idxOf digit) = digit := by
  have isDigit : ((List.range 16).map Nat.digitChar)[lowerDigits.idxOf digit]? = some digit :=
    List.getElem?_idxOf lower
  rw [List.getElem?_map, List.getElem?_range (idxOf_lt lower)] at isDigit
  exact Option.some.inj isDigit

section

variable {text : List Char} (lower : ∀ digit ∈ text, digit ∈ lowerDigits)
include lower

theorem number_lt : number text < 16 ^ text.length := by
  induction text using List.reverseRecOn with
  | nil => decide
  | append_singleton front digit ih =>
      have before := ih fun other member => lower other (List.mem_append_left _ member)
      have last := idxOf_lt (lower digit List.mem_concat_self)
      rw [number_concat, List.length_append, List.length_singleton, Nat.pow_succ]
      omega

theorem fixed_number : fixed text.length (number text) = text := by
  induction text using List.reverseRecOn with
  | nil => rfl
  | append_singleton front digit ih =>
      have isLower := lower digit List.mem_concat_self
      have small := idxOf_lt isLower
      have quotient : (number front * 16 + lowerDigits.idxOf digit) / 16 = number front := by
        omega
      have remainder : (number front * 16 + lowerDigits.idxOf digit) % 16 =
          lowerDigits.idxOf digit := by
        omega
      rw [number_concat, List.length_append, List.length_singleton, fixed, quotient, remainder,
        digitChar_idxOf isLower, ih fun other member => lower other (List.mem_append_left _ member)]

theorem number_eq_zero : number text = 0 ↔ ∀ digit ∈ text, digit = '0' := by
  constructor
  · intro zero digit member
    have zeros : ∀ width, ∀ digit ∈ fixed width 0, digit = '0' := by
      intro width
      induction width with
      | zero => exact fun _ => nofun
      | succ width ih =>
          intro digit member
          rcases List.mem_append.mp member with front | last
          · exact ih digit front
          · exact List.mem_singleton.mp last
    rw [← fixed_number lower, zero] at member
    exact zeros text.length digit member
  · intro zeros
    induction text using List.reverseRecOn with
    | nil => rfl
    | append_singleton front digit ih =>
        have before := ih (fun other member => lower other (List.mem_append_left _ member))
          fun other member => zeros other (List.mem_append_left _ member)
        rw [number_concat, before, zeros digit List.mem_concat_self]
        rfl

theorem read_number {bound : Nat} (nonempty : 0 < text.length)
    (fits : 16 ^ text.length ≤ bound) : read bound text = .ok (number text) := by
  have small := number_lt lower
  have written := read_fixed nonempty small (Nat.lt_of_lt_of_le small fits)
  rw [fixed_number lower] at written
  exact written

end

/-! ### Digits of either case -/

def IsDigit (digit : Char) : Prop :=
  digit.toLower ∈ lowerDigits

def value (text : List Char) : Nat :=
  number (text.map Char.toLower)

theorem digitValue?_eq (digit : Char) :
    digitValue? digit =
      if digit.toLower ∈ lowerDigits then some (lowerDigits.idxOf digit.toLower) else none := by
  by_cases ascii : digit.toNat < 128
  · have all : ∀ code < 128, digitValue? (Char.ofNat code) =
        if (Char.ofNat code).toLower ∈ lowerDigits then
          some (lowerDigits.idxOf (Char.ofNat code).toLower)
        else none := by
      decide +kernel
    have same := all digit.toNat ascii
    rw [Char.ofNat_toNat] at same
    exact same
  · have noDigit : digit.toLower ∉ lowerDigits := by
      rw [← isLowerDigit_iff_mem, isLowerDigit_iff, Text.toNat_toLower]
      split
      · omega
      · omega
    have beyond (last : Char) (isAscii : last.toNat < 128) : ¬digit ≤ last := by
      rw [Char.le_def, UInt32.le_iff_toNat_le]
      change ¬digit.toNat ≤ last.toNat
      omega
    rw [if_neg noDigit]
    unfold digitValue?
    rw [if_neg fun within => beyond '9' (by decide) within.2,
      if_neg fun within => beyond 'f' (by decide) within.2,
      if_neg fun within => beyond 'F' (by decide) within.2]

theorem number_singleton (digit : Char) : number [digit] = lowerDigits.idxOf digit := by
  unfold number
  rw [List.foldl_cons, List.foldl_nil, Nat.zero_mul, Nat.zero_add]

theorem value_cons (digit : Char) (rest : List Char) :
    value (digit :: rest) =
      lowerDigits.idxOf digit.toLower * 16 ^ rest.length + value rest := by
  have split := number_append [digit.toLower] (rest.map Char.toLower)
  rw [List.length_map, number_singleton] at split
  exact split

/-- The values of digits of either case, and nothing if there is another character. -/
theorem mapM_digitValue?_eq_some_iff {text : List Char} {values : List Nat} :
    text.mapM digitValue? = some values ↔
      (∀ digit ∈ text, IsDigit digit) ∧
        values = text.map fun digit => lowerDigits.idxOf digit.toLower := by
  induction text generalizing values with
  | nil =>
      rw [List.mapM_nil]
      constructor
      · intro same
        exact ⟨List.forall_mem_nil _, (Option.some.inj same).symm⟩
      · rintro ⟨-, rfl⟩
        rfl
  | cons digit rest ih =>
      rw [List.mapM_cons, digitValue?_eq, List.forall_mem_cons]
      by_cases isDigit : digit.toLower ∈ lowerDigits
      · simp only [if_pos isDigit, Option.bind_eq_bind, Option.bind_some, Option.bind_eq_some_iff,
          Option.pure_def, Option.some.injEq, ih, List.map_cons]
        constructor
        · rintro ⟨_, ⟨digits, rfl⟩, rfl⟩
          exact ⟨⟨isDigit, digits⟩, rfl⟩
        · rintro ⟨⟨-, digits⟩, rfl⟩
          exact ⟨_, ⟨digits, rfl⟩, rfl⟩
      · rw [if_neg isDigit]
        constructor
        · intro isRead
          cases isRead
        · rintro ⟨⟨digits, -⟩, -⟩
          exact absurd digits isDigit

theorem foldl_values (text : List Char) :
    (text.map fun digit => lowerDigits.idxOf digit.toLower).foldl
      (fun sofar digit => sofar * 16 + digit) 0 = value text := by
  unfold value number
  rw [List.foldl_map, List.foldl_map]

/-- Digits are read to the end exactly if the whole number fits.  A number that grows digit by
digit reaches the bound at once or not at all. -/
theorem readDigits_eq_ok_iff {bound sofar read : Nat} (small : sofar < bound) {text : List Char} :
    readDigits bound sofar text = .ok read ↔
      (∀ digit ∈ text, IsDigit digit) ∧
        sofar * 16 ^ text.length + value text < bound ∧
        read = sofar * 16 ^ text.length + value text := by
  induction text generalizing sofar with
  | nil =>
      have same : sofar * 16 ^ ([] : List Char).length + value [] = sofar := by
        rw [List.length_nil, Nat.pow_zero, Nat.mul_one]
        rfl
      rw [readDigits, same, Except.ok.injEq]
      constructor
      · rintro rfl
        exact ⟨List.forall_mem_nil _, small, rfl⟩
      · rintro ⟨-, -, rfl⟩
        rfl
  | cons digit rest ih =>
      rw [readDigits, digitValue?_eq, List.forall_mem_cons]
      by_cases isDigit : digit.toLower ∈ lowerDigits
      · have total : sofar * 16 ^ (digit :: rest).length + value (digit :: rest) =
            (sofar * 16 + lowerDigits.idxOf digit.toLower) * 16 ^ rest.length + value rest := by
          rw [value_cons, List.length_cons, Nat.pow_succ, Nat.add_mul, Nat.mul_assoc sofar,
            Nat.mul_comm 16, Nat.add_assoc]
        rw [if_pos isDigit, total]
        dsimp only
        by_cases fits : sofar * 16 + lowerDigits.idxOf digit.toLower < bound
        · rw [if_pos fits, ih fits, and_iff_right (show IsDigit digit from isDigit)]
        · rw [if_neg fits]
          constructor
          · intro isRead
            cases isRead
          · rintro ⟨-, below, -⟩
            have grows := Nat.le_mul_of_pos_right
              (sofar * 16 + lowerDigits.idxOf digit.toLower) (Nat.pow_pos (n := rest.length)
                (by decide : 0 < 16))
            omega
      · rw [if_neg isDigit]
        constructor
        · intro isRead
          cases isRead
        · rintro ⟨⟨digits, -⟩, -⟩
          exact absurd digits isDigit

def unsigned : List Char → List Char
  | '+' :: rest => rest
  | text => text

structure Numeral (bound : Nat) (text : List Char) : Prop where
  nonempty : text ≠ []
  digits : ∀ digit ∈ text, IsDigit digit
  fits : value text < bound

theorem unsigned_cons {first : Char} (noSign : first ≠ '+') (rest : List Char) :
    unsigned (first :: rest) = first :: rest := by
  unfold unsigned
  split
  · rename_i signed
    exact absurd (List.cons.inj signed).1 noSign
  · rfl

theorem readDigits_unsigned {bound read : Nat} (positive : 0 < bound) {text : List Char}
    (nonempty : text ≠ []) :
    readDigits bound 0 text = .ok read ↔ Numeral bound text ∧ read = value text := by
  rw [readDigits_eq_ok_iff positive, Nat.zero_mul, Nat.zero_add]
  constructor
  · rintro ⟨digits, fits, same⟩
    exact ⟨⟨nonempty, digits, fits⟩, same⟩
  · rintro ⟨numeral, same⟩
    exact ⟨numeral.digits, numeral.fits, same⟩

/-- What is read is a numeral behind its sign, and every numeral is read as its value. -/
theorem read_eq_ok_iff {bound number : Nat} (positive : 0 < bound) {text : List Char} :
    read bound text = .ok number ↔
      Numeral bound (unsigned text) ∧ number = value (unsigned text) := by
  cases text with
  | nil => exact ⟨nofun, fun numeral => absurd rfl numeral.1.nonempty⟩
  | cons first rest =>
      by_cases sign : first = '+'
      · subst sign
        cases rest with
        | nil => exact ⟨nofun, fun numeral => absurd rfl numeral.1.nonempty⟩
        | cons second rest => exact readDigits_unsigned positive (List.cons_ne_nil second rest)
      · rw [read_cons sign, unsigned_cons sign]
        exact readDigits_unsigned positive (List.cons_ne_nil first rest)

/-- The digits without the zeros in front of them, and then with as many zeros as the width
needs. -/
def inWidth (width : Nat) (text : List Char) : List Char :=
  (text.dropWhile (· == '0')).leftpad width '0'

theorem number_zeros_append {zeros : List Char} (areZeros : ∀ digit ∈ zeros, digit = '0')
    (text : List Char) : number (zeros ++ text) = number text := by
  have lower : ∀ digit ∈ zeros, digit ∈ lowerDigits := by
    intro digit member
    rw [areZeros digit member]
    decide
  rw [number_append, (number_eq_zero lower).mpr areZeros, Nat.zero_mul, Nat.zero_add]

theorem number_dropWhile (text : List Char) :
    number (text.dropWhile (· == '0')) = number text := by
  have zeros : ∀ digit ∈ text.takeWhile (· == '0'), digit = '0' := by
    intro digit member
    exact eq_of_beq (List.all_eq_true.mp List.all_takeWhile digit member)
  rw [← number_zeros_append zeros, List.takeWhile_append_dropWhile]

theorem one_le_idxOf {digit : Char} (lower : digit ∈ lowerDigits) (nonzero : digit ≠ '0') :
    1 ≤ lowerDigits.idxOf digit := by
  rw [Nat.one_le_iff_ne_zero]
  intro zero
  apply nonzero
  rw [← digitChar_idxOf lower, zero]
  rfl

section

variable {text : List Char} (lower : ∀ digit ∈ text, digit ∈ lowerDigits)
include lower

theorem length_dropWhile_le {width : Nat} (narrow : number text < 16 ^ width) :
    (text.dropWhile (· == '0')).length ≤ width := by
  cases stripped : text.dropWhile (· == '0') with
  | nil => exact Nat.zero_le width
  | cons first rest =>
      have isLower : first ∈ lowerDigits := by
        apply lower
        apply (List.dropWhile_suffix (· == '0')).mem
        rw [stripped]
        exact List.mem_cons_self
      have nonzero : first ≠ '0' := by
        have noZero := List.head_dropWhile_not (· == '0') (l := text) (by rw [stripped]; nofun)
        simp only [stripped, List.head_cons] at noZero
        exact beq_eq_false_iff_ne.mp noZero
      have leading := Nat.mul_le_mul_right (16 ^ rest.length) (one_le_idxOf isLower nonzero)
      have parts := number_append [first] rest
      rw [number_singleton, List.singleton_append, ← stripped, number_dropWhile] at parts
      have shorter : 16 ^ rest.length < 16 ^ width := by omega
      exact (Nat.pow_lt_pow_iff_right (by decide)).mp shorter

/-- Written in a width that suffices, a number has the digits of any of its texts. -/
theorem fixed_eq_inWidth {width : Nat} (narrow : number text < 16 ^ width) :
    fixed width (number text) = inWidth width text := by
  have zeros (count : Nat) : ∀ digit ∈ List.replicate count '0', digit = '0' :=
    fun digit member => List.eq_of_mem_replicate member
  have length : (inWidth width text).length = width := by
    have short := length_dropWhile_le lower narrow
    unfold inWidth
    rw [List.length_leftpad, Nat.max_eq_left short]
  have same : number (inWidth width text) = number text := by
    unfold inWidth List.leftpad
    rw [number_zeros_append (zeros _), number_dropWhile]
  have allLower : ∀ digit ∈ inWidth width text, digit ∈ lowerDigits := by
    intro digit member
    rcases List.mem_append.mp member with isZero | inText
    · rw [zeros _ digit isZero]
      decide
    · exact lower digit ((List.dropWhile_suffix (· == '0')).mem inText)
  have written := fixed_number allLower
  rw [length, same] at written
  exact written

end

end SpanTrail.Hex
