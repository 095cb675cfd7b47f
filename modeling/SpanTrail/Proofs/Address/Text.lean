import SpanTrail.Endpoint
import SpanTrail.Proofs.Lists
import SpanTrail.Proofs.Text

/-! The text of an address reads back as the address.  The parts of the text are numbers, so
separators split it where they joined it, and the pair of colons stands for as many zero
groups as were left out. -/

namespace SpanTrail

namespace IPv4

theorem octet?_octetText (octet : UInt8) : octet? (octetText octet) = some octet := by
  have all : ∀ number < 256, octet? (Nat.toDigits 10 number) = some (UInt8.ofNat number) := by
    decide +kernel
  have read := all octet.toNat octet.toNat_lt
  rw [UInt8.ofNat_toNat] at read
  exact read

def octets (address : IPv4) : List (List Char) :=
  [octetText address.first, octetText address.second, octetText address.third,
    octetText address.fourth]

theorem toList_eq (address : IPv4) : address.toList = ['.'].intercalate address.octets := by
  unfold toList octets
  simp only [List.intercalate_cons_cons, List.intercalate_singleton, List.append_assoc,
    List.cons_append, List.nil_append]

theorem isDigit_of_mem_octets {address : IPv4} {octet : List Char}
    (isOctet : octet ∈ address.octets) {character : Char} (member : character ∈ octet) :
    character.isDigit = true := by
  have digits (octet : UInt8) (inText : character ∈ octetText octet) : character.isDigit = true :=
    Nat.isDigit_of_mem_toDigits (by decide) (by decide) inText
  simp only [octets, List.mem_cons, List.not_mem_nil, or_false] at isOctet
  rcases isOctet with rfl | rfl | rfl | rfl <;> exact digits _ member

theorem ofList?_toList (address : IPv4) : ofList? address.toList = some address := by
  have split : address.toList.splitOn '.' = address.octets := by
    rw [toList_eq]
    apply List.splitOn_intercalate
    · intro octet isOctet isPoint
      exact absurd (isDigit_of_mem_octets isOctet isPoint) (by decide)
    · nofun
  unfold ofList?
  rw [split]
  simp only [octets, octet?_octetText]
  rfl

theorem seven_le_length (address : IPv4) : 7 ≤ address.toList.length := by
  have nonempty (octet : UInt8) : 0 < (octetText octet).length := Nat.length_toDigits_pos
  have first := nonempty address.first
  have second := nonempty address.second
  have third := nonempty address.third
  have fourth := nonempty address.fourth
  simp only [toList, List.length_append, List.length_cons]
  omega

theorem mem_toList {address : IPv4} {character : Char} (member : character ∈ address.toList) :
    character = '.' ∨ character.isDigit = true := by
  rw [toList_eq] at member
  rcases Lists.mem_intercalate member with isPoint | ⟨octet, isOctet, inOctet⟩
  · exact .inl isPoint
  · exact .inr (isDigit_of_mem_octets isOctet inOctet)

end IPv4

namespace IPv6

theorem group?_digits (group : UInt16) : group? (Hex.digits group.toNat) = some group := by
  have nonempty : (Hex.digits group.toNat).isEmpty = false :=
    List.isEmpty_eq_false_iff.mpr Nat.toDigits_ne_nil
  have short : ¬4 < (Hex.digits group.toNat).length :=
    Nat.not_lt.mpr ((Nat.length_toDigits_le_iff (by decide) (by decide)).mpr group.toNat_lt)
  obtain ⟨values, read, value⟩ := Hex.exists_values group.toNat
  unfold group?
  rw [nonempty, decide_eq_false short, read]
  simp only [Bool.or_self, Bool.false_eq_true, if_false, Option.map_some, value, UInt16.ofNat_toNat]

theorem colon_not_mem_digits (number : Nat) : ':' ∉ Hex.digits number :=
  fun isColon => nomatch Hex.isLowerDigit_of_mem_digits isColon

theorem mapM_group? (groups : List UInt16) :
    (groups.map fun group => Hex.digits group.toNat).mapM group? = some groups := by
  induction groups with
  | nil => rfl
  | cons group rest ih =>
      rw [List.map_cons, List.mapM_cons, group?_digits, ih]
      rfl

theorem withTail?_digits (groups : List UInt16) :
    withTail? (groups.map fun group => Hex.digits group.toNat) = some groups := by
  induction groups with
  | nil => rfl
  | cons group rest ih =>
      cases rest with
      | nil =>
          rw [List.map_singleton, withTail?, group?_digits]
          rfl
      | cons next rest =>
          rw [List.map_cons, withTail?, group?_digits, ih]
          · rfl
          · nofun

/-- A part that colons join to others: it is not empty and has no colon of its own. -/
def Solid (part : List Char) : Prop :=
  part ≠ [] ∧ ':' ∉ part

theorem solid_digits {groups : List UInt16} {part : List Char}
    (isPart : part ∈ groups.map fun group => Hex.digits group.toNat) : Solid part := by
  obtain ⟨group, _, rfl⟩ := List.mem_map.mp isPart
  exact ⟨Nat.toDigits_ne_nil, colon_not_mem_digits group.toNat⟩

theorem colonParts_intercalate {parts : List (List Char)} (solid : ∀ part ∈ parts, Solid part) :
    colonParts ([':'].intercalate parts) = parts := by
  cases parts with
  | nil => rfl
  | cons first rest =>
      have nonempty : ([':'].intercalate (first :: rest)).isEmpty = false := by
        obtain ⟨character, others, isFirst⟩ :=
          List.exists_cons_of_ne_nil (solid first List.mem_cons_self).1
        rw [isFirst, List.intercalate_cons_cons_left]
        rfl
      unfold colonParts
      rw [nonempty]
      exact List.splitOn_intercalate ':' (fun part isPart => (solid part isPart).2) nofun

theorem colonParts_joined (groups : List UInt16) :
    colonParts (joined groups) = groups.map fun group => Hex.digits group.toNat :=
  colonParts_intercalate fun _ => solid_digits

/-! ### The pair of colons -/

theorem splitGap?_cons {first : Char} (noColon : first ≠ ':') (rest : List Char) :
    splitGap? (first :: rest) =
      (splitGap? rest).map fun sides => (first :: sides.1, sides.2) := by
  rw [splitGap?]
  intro behind isColon
  exact absurd isColon noColon

theorem splitGap?_colon {next : Char} (noColon : next ≠ ':') (rest : List Char) :
    splitGap? (':' :: next :: rest) =
      (splitGap? (next :: rest)).map fun sides => (':' :: sides.1, sides.2) := by
  rw [splitGap?]
  intro behind _ isPair
  exact noColon (List.cons.inj isPair).1

theorem splitGap?_append {front : List Char} (noColon : ':' ∉ front) (rest : List Char) :
    splitGap? (front ++ rest) =
      (splitGap? rest).map fun sides => (front ++ sides.1, sides.2) := by
  induction front with
  | nil => exact (congrFun Option.map_id (splitGap? rest)).symm
  | cons first front ih =>
      have apart : first ≠ ':' := fun isColon => noColon (isColon ▸ List.mem_cons_self)
      rw [List.cons_append, splitGap?_cons apart,
        ih fun member => noColon (List.mem_cons_of_mem _ member), Option.map_map]
      rfl

/-- Joined parts hold no pair of colons and end in none. -/
theorem splitGap?_intercalate {parts : List (List Char)} (solid : ∀ part ∈ parts, Solid part)
    (rest : List Char) :
    splitGap? ([':'].intercalate parts ++ rest) =
      (splitGap? rest).map fun sides => ([':'].intercalate parts ++ sides.1, sides.2) := by
  induction parts with
  | nil => exact (congrFun Option.map_id (splitGap? rest)).symm
  | cons first parts ih =>
      have noColon := (solid first List.mem_cons_self).2
      cases parts with
      | nil =>
          rw [List.intercalate_singleton]
          exact splitGap?_append noColon rest
      | cons second parts =>
          obtain ⟨character, others, isSecond⟩ :=
            List.exists_cons_of_ne_nil (solid second (by simp)).1
          have apart : character ≠ ':' := by
            rintro rfl
            apply (solid second (by simp)).2
            rw [isSecond]
            exact List.mem_cons_self
          have later := ih fun part isPart => solid part (List.mem_cons_of_mem _ isPart)
          rw [isSecond, List.intercalate_cons_cons_left, List.cons_append] at later
          rw [List.intercalate_cons_cons, isSecond, List.intercalate_cons_cons_left,
            List.append_assoc, List.append_assoc, List.singleton_append, List.cons_append,
            splitGap?_append noColon, splitGap?_colon apart, later, Option.map_map,
            Option.map_map]
          congr 1
          funext sides
          simp only [Function.comp_apply, List.append_assoc, List.cons_append, List.nil_append]

theorem splitGap?_joined (groups : List UInt16) (rest : List Char) :
    splitGap? (joined groups ++ rest) =
      (splitGap? rest).map fun sides => (joined groups ++ sides.1, sides.2) :=
  splitGap?_intercalate (fun _ => solid_digits) rest

def IsRun (groups : List UInt16) (run : Nat × Nat) : Prop :=
  (groups.drop run.1).take run.2 = List.replicate run.2 0

theorem isRun_takeWhile (groups : List UInt16) (start : Nat) :
    IsRun groups (start, ((groups.drop start).takeWhile (· == 0)).length) := by
  have front := List.prefix_iff_eq_take.mp (List.takeWhile_prefix (l := groups.drop start) (· == 0))
  unfold IsRun
  rw [← front, List.eq_replicate_iff]
  refine ⟨rfl, ?_⟩
  intro group member
  exact eq_of_beq (List.all_eq_true.mp List.all_takeWhile group member)

theorem isRun_longestZeros (groups : List UInt16) : IsRun groups (longestZeros groups) := by
  have kept (starts : List Nat) (longest : Nat × Nat) (isRun : IsRun groups longest) :
      IsRun groups (starts.foldl
        (fun longest start =>
          let length := ((groups.drop start).takeWhile (· == 0)).length
          if longest.2 < length then (start, length) else longest)
        longest) := by
    induction starts generalizing longest with
    | nil => exact isRun
    | cons start starts ih =>
        apply ih
        dsimp only
        split
        · exact isRun_takeWhile groups start
        · exact isRun
  exact kept (List.range groups.length) (0, 0) rfl

/-- Around a run of zeros the groups are those in front of it and those behind it. -/
theorem IsRun.eq_around {groups : List UInt16} {run : Nat × Nat} (isRun : IsRun groups run) :
    groups = groups.take run.1 ++ List.replicate run.2 0 ++ groups.drop (run.1 + run.2) := by
  have behind := List.take_append_drop run.2 (groups.drop run.1)
  unfold IsRun at isRun
  rw [isRun, List.drop_drop] at behind
  rw [List.append_assoc, behind, List.take_append_drop]

/-! ### Addresses of 128 bits -/

theorem length_toGroups (address : IPv6) : address.toGroups.length = 8 :=
  Vector.length_toList

theorem ofGroups?_toGroups (address : IPv6) : ofGroups? address.toGroups = some address := by
  obtain ⟨⟨groups, eight⟩⟩ := address
  exact dif_pos eight

theorem ofIPv4_halves (upper lower : UInt16) :
    ofIPv4 ⟨(upper >>> 8).toUInt8, upper.toUInt8, (lower >>> 8).toUInt8, lower.toUInt8⟩ =
      [upper, lower] := by
  have half (group : UInt16) :
      (group >>> 8).toUInt8.toUInt16 * 256 + group.toUInt8.toUInt16 = group := by
    have small := group.toNat_lt
    rw [← UInt16.toNat_inj]
    simp only [UInt16.toNat_add, UInt16.toNat_mul, UInt8.toNat_toUInt16, UInt16.toNat_toUInt8,
      UInt16.toNat_shiftRight]
    change (group.toNat >>> 8 % 256 * 256 % 65536 + group.toNat % 256) % 65536 = group.toNat
    omega
  simp only [ofIPv4, half]

theorem mapped?_eq_some {address : IPv6} {inner : IPv4} (isMapped : address.mapped? = some inner) :
    address.toGroups = [0, 0, 0, 0, 0, 0xFFFF] ++ ofIPv4 inner := by
  unfold mapped? at isMapped
  split at isMapped
  · rename_i upper lower groups
    cases isMapped
    rw [ofIPv4_halves, groups]
    rfl
  · cases isMapped

/-- Both kinds of groups around a gap. -/
theorem ofList?_gap {text front behind : List Char} {before after : List UInt16}
    (split : splitGap? text = some (front, behind))
    (frontRead : (colonParts front).mapM group? = some before)
    (behindRead : withTail? (colonParts behind) = some after)
    (short : before.length + after.length ≤ 7) :
    ofList? text = ofGroups?
      (before ++ List.replicate (8 - (before.length + after.length)) 0 ++ after) := by
  unfold ofList?
  simp only [split, frontRead, behindRead, Option.bind_eq_bind, Option.bind_some, if_pos short]

theorem group?_toList (inner : IPv4) : group? inner.toList = none := by
  have long : 4 < inner.toList.length := Nat.lt_of_lt_of_le (by decide) inner.seven_le_length
  unfold group?
  rw [decide_eq_true long, Bool.or_true]
  rfl

theorem solid_toList (inner : IPv4) : Solid inner.toList := by
  constructor
  · intro nothing
    have long := inner.seven_le_length
    rw [nothing] at long
    cases long
  · intro isColon
    rcases IPv4.mem_toList isColon with isPoint | isDigit
    · cases isPoint
    · cases isDigit

theorem ofList?_mapped (inner : IPv4) :
    ofList? ("::ffff:".toList ++ inner.toList) =
      ofGroups? ([0, 0, 0, 0, 0, 0xFFFF] ++ ofIPv4 inner) := by
  have solid : ∀ part ∈ ["ffff".toList, inner.toList], Solid part := by
    rw [List.forall_mem_cons, List.forall_mem_singleton]
    exact ⟨⟨by decide, by decide⟩, solid_toList inner⟩
  have parts : colonParts ("ffff:".toList ++ inner.toList) = ["ffff".toList, inner.toList] := by
    have joined := colonParts_intercalate solid
    rw [List.intercalate_cons_cons, List.intercalate_singleton] at joined
    exact joined
  have tail : withTail? (colonParts ("ffff:".toList ++ inner.toList)) =
      some (0xFFFF :: ofIPv4 inner) := by
    have first : group? "ffff".toList = some 0xFFFF := by decide
    rw [parts, withTail?, withTail?, first, group?_toList, IPv4.ofList?_toList]
    · rfl
    · nofun
  have short : 0 + (0xFFFF :: ofIPv4 inner).length ≤ 7 := (by decide : 0 + 3 ≤ 7)
  have split : splitGap? ("::ffff:".toList ++ inner.toList) =
      some ([], "ffff:".toList ++ inner.toList) := rfl
  have front : (colonParts []).mapM group? = some [] := rfl
  exact ofList?_gap split front tail short

theorem ofList?_joined {groups : List UInt16} : ofList? (joined groups) = ofGroups? groups := by
  have noGap : splitGap? (joined groups) = none := by
    have split := splitGap?_joined groups []
    rw [List.append_nil] at split
    exact split
  unfold ofList?
  simp only [noGap, colonParts_joined, withTail?_digits, Option.bind_eq_bind, Option.bind_some]

theorem ofList?_around {groups : List UInt16} {run : Nat × Nat} (isRun : IsRun groups run)
    (eight : groups.length = 8) (several : 1 < run.2) :
    ofList? (joined (groups.take run.1) ++ "::".toList ++ joined (groups.drop (run.1 + run.2))) =
      ofGroups? groups := by
  have around := isRun.eq_around
  have total := congrArg List.length around
  rw [List.length_append, List.length_append, List.length_replicate, eight] at total
  have split : splitGap? (joined (groups.take run.1) ++ "::".toList ++
      joined (groups.drop (run.1 + run.2))) =
        some (joined (groups.take run.1), joined (groups.drop (run.1 + run.2))) := by
    rw [List.append_assoc, splitGap?_joined]
    exact congrArg (fun front => some (front, _)) (List.append_nil _)
  have front :
      (colonParts (joined (groups.take run.1))).mapM group? = some (groups.take run.1) := by
    rw [colonParts_joined, mapM_group?]
  have behind : withTail? (colonParts (joined (groups.drop (run.1 + run.2)))) =
      some (groups.drop (run.1 + run.2)) := by
    rw [colonParts_joined, withTail?_digits]
  have missing :
      8 - ((groups.take run.1).length + (groups.drop (run.1 + run.2)).length) = run.2 := by
    omega
  rw [ofList?_gap split front behind (by omega), missing, ← around]

theorem ofList?_toList (address : IPv6) : ofList? address.toList = some address := by
  have same := ofGroups?_toGroups address
  unfold toList
  cases isMapped : address.mapped? with
  | some inner => rw [← same, mapped?_eq_some isMapped, ← ofList?_mapped]
  | none =>
      have isRun := isRun_longestZeros address.toGroups
      dsimp only
      by_cases several : 1 < (longestZeros address.toGroups).2
      · rw [if_pos several, ofList?_around isRun address.length_toGroups several, same]
      · rw [if_neg several, ofList?_joined, same]

end IPv6

end SpanTrail
