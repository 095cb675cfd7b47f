import SpanTrail.Proofs.Address.Text
import SpanTrail.Proofs.Text
import Mathlib.Data.List.Forall2

/-! The grammar of addresses.  An address of 32 bits has one text alone.  One of 128 bits has
many: its groups are of either case and may have zeros in front, any run of zero groups may be
left out between two colons, and the last two groups may be written as an address of 32 bits.
Reading accepts exactly the texts of the grammar. -/

namespace SpanTrail

namespace IPv4

def decimal (digits : List Char) : Nat :=
  digits.foldl (fun value digit => value * 10 + (digit.toNat - '0'.toNat)) 0

theorem decimal_concat (front : List Char) (last : Char) :
    decimal (front ++ [last]) = decimal front * 10 + (last.toNat - '0'.toNat) := by
  unfold decimal
  rw [List.foldl_append]
  rfl

theorem digitChar_value {digit : Char} (isDigit : digit.isDigit = true) :
    digit.toNat - '0'.toNat < 10 ∧ Nat.digitChar (digit.toNat - '0'.toNat) = digit := by
  have range : 48 ≤ digit.toNat ∧ digit.toNat ≤ 57 := by
    simp only [Char.isDigit, Bool.and_eq_true, decide_eq_true_eq] at isDigit
    exact isDigit
  have zero : '0'.toNat = 48 := rfl
  have all : ∀ value < 10, Nat.digitChar value = Char.ofNat (48 + value) := by decide
  rw [zero]
  refine ⟨by omega, ?_⟩
  rw [all (digit.toNat - 48) (by omega), Nat.add_sub_cancel' range.1, Char.ofNat_toNat]

/-- Digits without a needless zero in front are those of their number. -/
theorem toDigits_decimal {digits : List Char} (nonempty : digits ≠ [])
    (areDigits : ∀ digit ∈ digits, digit.isDigit = true)
    (leading : 1 < digits.length → digits.head? ≠ some '0') :
    Nat.toDigits 10 (decimal digits) = digits := by
  induction digits using List.reverseRecOn with
  | nil => exact absurd rfl nonempty
  | append_singleton front last ih =>
      obtain ⟨small, isLast⟩ := digitChar_value (areDigits last (by simp))
      rw [decimal_concat]
      by_cases single : front = []
      · subst single
        have value : decimal [] * 10 + (last.toNat - '0'.toNat) = last.toNat - '0'.toNat :=
          Nat.zero_add _
        rw [value, Nat.toDigits_of_lt_base small, isLast, List.nil_append]
      · have several : 1 < (front ++ [last]).length := by
          have length := List.length_pos_iff.mpr single
          rw [List.length_append, List.length_singleton]
          omega
        have head : front.head? ≠ some '0' := by
          have whole := leading several
          rw [List.head?_append_of_ne_nil _ single] at whole
          exact whole
        have isFront := ih single
          (fun digit member => areDigits digit (List.mem_append_left _ member)) fun _ => head
        have positive : 1 ≤ decimal front := by
          rw [Nat.one_le_iff_ne_zero]
          intro zero
          apply head
          rw [← isFront, zero]
          rfl
        have quotient : (decimal front * 10 + (last.toNat - '0'.toNat)) / 10 = decimal front := by
          omega
        have remainder : (decimal front * 10 + (last.toNat - '0'.toNat)) % 10 =
            last.toNat - '0'.toNat := by
          omega
        rw [Nat.toDigits_of_base_le (by decide) (by omega), quotient, remainder, isLast, isFront]

theorem octet?_eq_some_iff {digits : List Char} {octet : UInt8} :
    octet? digits = some octet ↔ digits = octetText octet := by
  constructor
  · intro isRead
    unfold octet? at isRead
    dsimp only at isRead
    split at isRead
    · cases isRead
    · rename_i shape
      split at isRead
      · cases isRead
      · rename_i leading
        split at isRead
        · cases isRead
        · rename_i fits
          cases isRead
          have small : decimal digits < 256 := Nat.lt_succ_of_le (Nat.le_of_not_lt fits)
          have noZero : 1 < digits.length → digits.head? ≠ some '0' := by
            intro several isZero
            apply leading
            rw [decide_eq_true several, isZero]
            rfl
          rw [Bool.or_eq_true, Bool.or_eq_true, not_or, not_or, Bool.not_eq_true,
            Bool.not_eq_true', Bool.not_eq_false, List.isEmpty_eq_false_iff] at shape
          have written :=
            toDigits_decimal shape.1.1 (List.all_eq_true.mp shape.2) noZero
          change digits = Nat.toDigits 10 (UInt8.ofNat (decimal digits)).toNat
          rw [UInt8.toNat_ofNat', Nat.mod_eq_of_lt small, written]
  · rintro rfl
    exact octet?_octetText octet

theorem ofList?_eq_some_iff {text : List Char} {address : IPv4} :
    ofList? text = some address ↔ text = address.toList := by
  constructor
  · intro isRead
    have joined : ['.'].intercalate (text.splitOn '.') = text := List.intercalate_splitOn '.'
    unfold ofList? at isRead
    split at isRead
    · rename_i first second third fourth split
      simp only [Option.bind_eq_bind, Option.bind_eq_some_iff, octet?_eq_some_iff,
        Option.pure_def, Option.some.injEq] at isRead
      obtain ⟨_, rfl, _, rfl, _, rfl, _, rfl, rfl⟩ := isRead
      rw [← joined, split, toList_eq]
      rfl
    · cases isRead
  · rintro rfl
    exact ofList?_toList address

end IPv4

namespace IPv6

/-- Up to four digits of either case that denote a group. -/
structure SpellsGroup (group : UInt16) (text : List Char) : Prop where
  nonempty : text ≠ []
  short : text.length ≤ 4
  digits : ∀ digit ∈ text, Hex.IsDigit digit
  value : Hex.value text = group.toNat

theorem group?_eq_some_iff {text : List Char} {group : UInt16} :
    group? text = some group ↔ SpellsGroup group text := by
  have small (digits : ∀ digit ∈ text, Hex.IsDigit digit) (short : text.length ≤ 4) :
      Hex.value text < 65536 := by
    have lower : ∀ digit ∈ text.map Char.toLower, digit ∈ Hex.lowerDigits :=
      List.forall_mem_map.mpr digits
    have narrow := Hex.number_lt lower
    rw [List.length_map] at narrow
    exact Nat.lt_of_lt_of_le narrow (Nat.pow_le_pow_right (by decide) short)
  unfold group?
  constructor
  · intro isRead
    split at isRead
    · cases isRead
    · rename_i shape
      rw [Bool.or_eq_true, not_or, decide_eq_true_eq, Nat.not_lt, List.isEmpty_iff] at shape
      obtain ⟨values, read, rfl⟩ := Option.map_eq_some_iff.mp isRead
      obtain ⟨digits, rfl⟩ := Hex.mapM_digitValue?_eq_some_iff.mp read
      refine ⟨shape.1, shape.2, digits, ?_⟩
      rw [Hex.foldl_values, UInt16.toNat_ofNat', Nat.mod_eq_of_lt (small digits shape.2)]
  · intro spelled
    have nonempty : text.isEmpty = false := List.isEmpty_eq_false_iff.mpr spelled.nonempty
    have short : ¬4 < text.length := Nat.not_lt.mpr spelled.short
    rw [nonempty, decide_eq_false short, Bool.or_false, if_neg Bool.false_ne_true,
      Hex.mapM_digitValue?_eq_some_iff.mpr ⟨spelled.digits, rfl⟩, Option.map_some,
      Hex.foldl_values, spelled.value, UInt16.ofNat_toNat]

theorem SpellsGroup.solid {text : List Char} {group : UInt16}
    (spelled : SpellsGroup group text) : Solid text := by
  refine ⟨spelled.nonempty, ?_⟩
  intro isColon
  have noDigit : ':'.toLower ∉ Hex.lowerDigits := by decide
  exact noDigit (spelled.digits ':' isColon)

theorem mapM_group?_eq_some_iff {parts : List (List Char)} {groups : List UInt16} :
    parts.mapM group? = some groups ↔ List.Forall₂ SpellsGroup groups parts := by
  induction parts generalizing groups with
  | nil =>
      rw [List.mapM_nil, List.forall₂_nil_right_iff]
      exact ⟨fun same => (Option.some.inj same).symm, fun same => congrArg some same.symm⟩
  | cons part rest ih =>
      simp only [List.mapM_cons, Option.bind_eq_bind, Option.bind_eq_some_iff, Option.pure_def,
        Option.some.injEq, ih, group?_eq_some_iff, List.forall₂_cons_right_iff]
      constructor
      · rintro ⟨group, first, others, later, rfl⟩
        exact ⟨group, others, first, later, rfl⟩
      · rintro ⟨group, others, first, later, rfl⟩
        exact ⟨group, first, others, later, rfl⟩

/-- Parts that denote groups, the last one of which may be an address of 32 bits that stands for
two groups. -/
inductive SpellsTail : List UInt16 → List (List Char) → Prop where
  | groups {groups : List UInt16} {parts : List (List Char)}
      (spelled : List.Forall₂ SpellsGroup groups parts) : SpellsTail groups parts
  | dotted {groups : List UInt16} {parts : List (List Char)} (inner : IPv4)
      (spelled : List.Forall₂ SpellsGroup groups parts) :
      SpellsTail (groups ++ ofIPv4 inner) (parts ++ [inner.toList])

theorem SpellsTail.cons {group : UInt16} {part : List Char} {groups : List UInt16}
    {parts : List (List Char)} (first : SpellsGroup group part)
    (spelled : SpellsTail groups parts) : SpellsTail (group :: groups) (part :: parts) := by
  cases spelled with
  | groups spelled => exact .groups (.cons first spelled)
  | dotted inner spelled => exact .dotted inner (.cons first spelled)

theorem withTail?_groups {parts : List (List Char)} {groups : List UInt16}
    (spelled : List.Forall₂ SpellsGroup groups parts) : withTail? parts = some groups := by
  induction spelled with
  | nil => rfl
  | @cons group part groups parts first later ih =>
      have isFirst := group?_eq_some_iff.mpr first
      cases later with
      | nil =>
          rw [withTail?, isFirst]
          rfl
      | cons second later =>
          rw [withTail?, isFirst, ih]
          · rfl
          · exact List.cons_ne_nil _ _

theorem withTail?_dotted {parts : List (List Char)} {groups : List UInt16} (inner : IPv4)
    (spelled : List.Forall₂ SpellsGroup groups parts) :
    withTail? (parts ++ [inner.toList]) = some (groups ++ ofIPv4 inner) := by
  induction spelled with
  | nil =>
      rw [List.nil_append, withTail?, group?_toList, IPv4.ofList?_toList]
      rfl
  | @cons group part groups parts first later ih =>
      have isFirst := group?_eq_some_iff.mpr first
      rw [List.cons_append, withTail?, isFirst, ih]
      · rfl
      · intro nothing
        exact absurd nothing (List.append_ne_nil_of_right_ne_nil parts (List.cons_ne_nil _ _))

theorem withTail?_eq_some_iff {parts : List (List Char)} {groups : List UInt16} :
    withTail? parts = some groups ↔ SpellsTail groups parts := by
  constructor
  · intro isRead
    induction parts generalizing groups with
    | nil =>
        cases isRead
        exact .groups .nil
    | cons part rest ih =>
        cases rest with
        | nil =>
            cases found : group? part with
            | some group =>
                rw [withTail?, found] at isRead
                cases isRead
                exact .groups (.cons (group?_eq_some_iff.mp found) .nil)
            | none =>
                rw [withTail?, found] at isRead
                obtain ⟨inner, isInner, rfl⟩ := Option.map_eq_some_iff.mp isRead
                rw [IPv4.ofList?_eq_some_iff.mp isInner]
                exact .dotted inner .nil
        | cons next rest =>
            rw [withTail?] at isRead
            · simp only [Option.bind_eq_bind, Option.bind_eq_some_iff, Option.pure_def,
                Option.some.injEq] at isRead
              obtain ⟨group, first, others, later, rfl⟩ := isRead
              exact (ih later).cons (group?_eq_some_iff.mp first)
            · exact List.cons_ne_nil _ _
  · intro spelled
    cases spelled with
    | groups spelled => exact withTail?_groups spelled
    | dotted inner spelled => exact withTail?_dotted inner spelled

theorem solid_of_forall₂ {parts : List (List Char)} {groups : List UInt16}
    (spelled : List.Forall₂ SpellsGroup groups parts) : ∀ part ∈ parts, Solid part := by
  induction spelled with
  | nil => nofun
  | cons first _ ih => exact List.forall_mem_cons.mpr ⟨first.solid, ih⟩

theorem SpellsTail.solid {parts : List (List Char)} {groups : List UInt16}
    (spelled : SpellsTail groups parts) : ∀ part ∈ parts, Solid part := by
  cases spelled with
  | groups spelled => exact solid_of_forall₂ spelled
  | dotted inner spelled =>
      intro part isPart
      rcases List.mem_append.mp isPart with inFront | isLast
      · exact solid_of_forall₂ spelled part inFront
      · rw [List.mem_singleton.mp isLast]
        exact solid_toList inner

/-! ### Addresses of 128 bits -/

/-- The texts of an address: all groups joined by colons, or the groups around a run of zero
groups that a pair of colons stands for. -/
inductive Spells (address : IPv6) : List Char → Prop where
  | full {parts : List (List Char)} (spelled : SpellsTail address.toGroups parts) :
      Spells address ([':'].intercalate parts)
  | gap {front back : List (List Char)} {before after : List UInt16} {missing : Nat}
      (some : 0 < missing)
      (groups : address.toGroups = before ++ List.replicate missing 0 ++ after)
      (isFront : List.Forall₂ SpellsGroup before front) (isBack : SpellsTail after back) :
      Spells address ([':'].intercalate front ++ "::".toList ++ [':'].intercalate back)

theorem ofGroups?_eq_some_iff {groups : List UInt16} {address : IPv6} :
    ofGroups? groups = some address ↔ address.toGroups = groups := by
  constructor
  · intro isAddress
    unfold ofGroups? at isAddress
    split at isAddress
    · cases isAddress
      rfl
    · cases isAddress
  · rintro rfl
    exact ofGroups?_toGroups address

theorem splitGap?_eq_some {text front back : List Char}
    (split : splitGap? text = some (front, back)) : text = front ++ "::".toList ++ back := by
  fun_induction splitGap? text generalizing front with
  | case1 rest =>
      cases split
      rfl
  | case2 character rest _ ih =>
      obtain ⟨⟨others, behind⟩, inRest, same⟩ := Option.map_eq_some_iff.mp split
      cases same
      rw [ih inRest]
      rfl
  | case3 => cases split

theorem intercalate_colonParts (text : List Char) : [':'].intercalate (colonParts text) = text := by
  unfold colonParts
  split
  · rename_i empty
    rw [List.isEmpty_iff.mp empty]
    rfl
  · exact List.intercalate_splitOn ':'

theorem ofList?_eq_some_iff {text : List Char} {address : IPv6} :
    ofList? text = some address ↔ Spells address text := by
  constructor
  · intro isRead
    unfold ofList? at isRead
    split at isRead
    · simp only [Option.bind_eq_bind, Option.bind_eq_some_iff, withTail?_eq_some_iff,
        ofGroups?_eq_some_iff] at isRead
      obtain ⟨groups, spelled, rfl⟩ := isRead
      rw [← intercalate_colonParts text]
      exact .full spelled
    · rename_i before behind split
      simp only [Option.bind_eq_bind, Option.bind_eq_some_iff, withTail?_eq_some_iff,
        mapM_group?_eq_some_iff] at isRead
      obtain ⟨front, isFront, back, isBack, isAddress⟩ := isRead
      split at isAddress
      · rename_i short
        rw [splitGap?_eq_some split, ← intercalate_colonParts before,
          ← intercalate_colonParts behind]
        have some : 0 < 8 - (front.length + back.length) := Nat.sub_pos_of_lt (by omega)
        exact .gap some (ofGroups?_eq_some_iff.mp isAddress) isFront isBack
      · cases isAddress
  · intro spelled
    cases spelled with
    | @full parts spelled =>
        have noGap : splitGap? ([':'].intercalate parts) = none := by
          have split := splitGap?_intercalate spelled.solid []
          rw [List.append_nil] at split
          exact split
        unfold ofList?
        simp only [noGap, colonParts_intercalate spelled.solid,
          withTail?_eq_some_iff.mpr spelled, Option.bind_eq_bind, Option.bind_some]
        exact ofGroups?_toGroups address
    | @gap front back before after missing some groups isFront isBack =>
        have total := congrArg List.length groups
        rw [length_toGroups, List.length_append, List.length_append, List.length_replicate] at total
        have split : splitGap? ([':'].intercalate front ++ "::".toList ++ [':'].intercalate back) =
            .some ([':'].intercalate front, [':'].intercalate back) := by
          rw [List.append_assoc, splitGap?_intercalate (solid_of_forall₂ isFront)]
          exact congrArg (fun sides => Option.some (sides, _)) (List.append_nil _)
        have isBefore : (colonParts ([':'].intercalate front)).mapM group? = .some before := by
          rw [colonParts_intercalate (solid_of_forall₂ isFront), mapM_group?_eq_some_iff]
          exact isFront
        have isAfter : withTail? (colonParts ([':'].intercalate back)) = .some after := by
          rw [colonParts_intercalate isBack.solid, withTail?_eq_some_iff]
          exact isBack
        have run : 8 - (before.length + after.length) = missing := by omega
        rw [ofList?_gap split isBefore isAfter (by omega), run, ofGroups?_eq_some_iff]
        exact groups

theorem SpellsTail.length_le {parts : List (List Char)} {groups : List UInt16}
    (spelled : SpellsTail groups parts) : groups.length ≤ parts.length + 1 := by
  cases spelled with
  | groups spelled =>
      have same := spelled.length_eq
      omega
  | dotted inner spelled =>
      have same := spelled.length_eq
      rw [List.length_append, List.length_append, List.length_singleton, same]
      exact Nat.le_refl _

/-- An address of 128 bits has a colon in each of its texts. -/
theorem Spells.colon_mem {text : List Char} {address : IPv6} (spelled : Spells address text) :
    ':' ∈ text := by
  cases spelled with
  | @full parts spelled =>
      have several := spelled.length_le
      rw [length_toGroups] at several
      match parts, several with
      | first :: second :: rest, _ =>
          rw [List.intercalate_cons_cons]
          exact List.mem_append_left _ (List.mem_append_right _ List.mem_cons_self)
  | gap => exact List.mem_append_left _ (List.mem_append_right _ List.mem_cons_self)

end IPv6

namespace Address

inductive Spells : Address → List Char → Prop where
  | v4 (address : IPv4) : Spells (.v4 address) address.toList
  | v6 {address : IPv6} {text : List Char} (spelled : IPv6.Spells address text) :
      Spells (.v6 address) text

theorem ofList?_eq_some_iff {text : List Char} {address : Address} :
    ofList? text = some address ↔ Spells address text := by
  unfold ofList?
  constructor
  · intro isRead
    cases found : IPv4.ofList? text with
    | some short =>
        rw [found] at isRead
        cases isRead
        rw [IPv4.ofList?_eq_some_iff.mp found]
        exact .v4 short
    | none =>
        rw [found] at isRead
        obtain ⟨long, isLong, rfl⟩ := Option.map_eq_some_iff.mp isRead
        exact .v6 (IPv6.ofList?_eq_some_iff.mp isLong)
  · intro spelled
    cases spelled with
    | v4 short =>
        rw [IPv4.ofList?_toList]
        rfl
    | @v6 long _ spelled =>
        have notShort : IPv4.ofList? text = none := by
          rw [Option.eq_none_iff_forall_ne_some]
          intro short isShort
          have isColon := spelled.colon_mem
          rw [IPv4.ofList?_eq_some_iff.mp isShort] at isColon
          exact (IPv6.solid_toList short).2 isColon
        rw [notShort, IPv6.ofList?_eq_some_iff.mpr spelled]
        rfl

theorem read?_eq_some_iff {text : String} {address : Address} :
    read? text = some address ↔ Spells address (Blank.trim text).toList := by
  rw [Blank.toList_trim]
  exact ofList?_eq_some_iff

end Address

end SpanTrail
