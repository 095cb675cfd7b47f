import SpanTrail.Carrier
import SpanTrail.Proofs.Carrier.Fields
import SpanTrail.Proofs.Text

/-! Writes into a carrier.  A carrier of either kind keeps for each key, whatever the case of its
letters, the last value that was written and taken.  A map takes and shows everything; header
fields take values that they cannot show, those with bytes beyond ASCII. -/

namespace SpanTrail

namespace Header

def isToken (text : String) : Bool :=
  !text.toList.isEmpty && text.toList.all isTokenCharacter

theorem isTokenCharacter_ascii {character : Char} (allowed : isTokenCharacter character = true) :
    character.toNat < 128 := by
  unfold isTokenCharacter at allowed
  rcases Bool.or_eq_true_iff.mp allowed with alphanumeric | mark
  · unfold Char.isAlphanum Char.isAlpha Char.isUpper Char.isLower Char.isDigit at alphanumeric
    simp only [Bool.or_eq_true, Bool.and_eq_true, decide_eq_true_eq, UInt32.le_iff_toNat_le,
      ge_iff_le] at alphanumeric
    change character.val.toNat < 128
    have digit : '9'.val.toNat = 57 := rfl
    have capital : 'Z'.val.toNat = 90 := rfl
    have small : 'z'.val.toNat = 122 := rfl
    omega
  · have all : "!#$%&'*+-.^_\x60|~".toList.all fun mark => mark.toNat < 128 := by decide
    exact of_decide_eq_true (List.all_eq_true.mp all character (List.contains_iff_mem.mp mark))

theorem toList_lowerCase {text : String} (token : isToken text = true) :
    (LowerCase.text text).toList = text.toList.map Char.toLower := by
  unfold isToken at token
  rw [Bool.and_eq_true] at token
  have ascii : ∀ character ∈ text.toList, character.toNat < 0x80 :=
    fun character member => isTokenCharacter_ascii (List.all_eq_true.mp token.2 character member)
  unfold LowerCase.text
  rw [String.toList_ofList, LowerCase.after_ascii [] _ ascii]

theorem name?_eq (text : String) :
    name? text =
      if isToken text && text.length < nameLimit then some (LowerCase.text text) else none := by
  have refused : (text.toList.isEmpty || decide (nameLimit ≤ text.toList.length) ||
      !text.toList.all isTokenCharacter) = !(isToken text && text.length < nameLimit) := by
    have long : decide (nameLimit ≤ text.toList.length) = !decide (text.length < nameLimit) := by
      rw [← decide_not, String.length_toList, decide_eq_decide, Nat.not_lt]
    unfold isToken
    rw [long, Bool.not_and, Bool.not_and, Bool.not_not, Bool.or_right_comm]
  unfold name?
  dsimp only
  rw [refused]
  by_cases allowed : (isToken text && text.length < nameLimit) = true
  · have token := (Bool.and_eq_true_iff.mp allowed).1
    rw [allowed, if_neg (by decide), if_pos rfl, ← toList_lowerCase token, String.ofList_toList]
  · rw [Bool.not_eq_true] at allowed
    rw [allowed]
    rfl

/-! ### Values -/

/-- Whether a value shows what was written: it has visible characters, spaces and tabs of ASCII. -/
def isReadable (value : String) : Bool :=
  (textBytes value).all isTextByte

/-- A character beyond ASCII has a byte beyond ASCII. -/
theorem exists_high_byte {character : Char} (beyond : 128 ≤ character.toNat) :
    ∃ byte ∈ String.utf8EncodeChar character, isTextByte byte = false := by
  have high (lead : Nat) (isLead : 192 ≤ lead ∧ lead < 256) :
      isTextByte (UInt8.ofNat lead) = false := by
    have all : ∀ lead < 256, 192 ≤ lead → isTextByte (UInt8.ofNat lead) = false := by
      decide +kernel
    exact all lead isLead.2 isLead.1
  have notAscii : ¬character.val.toNat ≤ 127 := by
    change ¬character.toNat ≤ 127
    omega
  unfold String.utf8EncodeChar
  dsimp only
  rw [if_neg notAscii]
  split
  · exact ⟨_, List.mem_cons_self, high _ (by omega)⟩
  · split
    · exact ⟨_, List.mem_cons_self, high _ (by omega)⟩
    · exact ⟨_, List.mem_cons_self, high _ (by omega)⟩

theorem isReadable_iff (value : String) :
    isReadable value = true ↔
      ∀ character ∈ value.toList, isTextCharacter character = true := by
  unfold isReadable
  constructor
  · intro readable character member
    rw [textBytes_eq, List.all_flatMap, List.all_eq_true] at readable
    have bytes := List.all_eq_true.mp (readable character member)
    by_cases ascii : character.toNat < 128
    · have single : character.utf8Size = 1 :=
        Char.utf8Size_eq_one_iff.mpr (Nat.le_of_lt_succ ascii)
      have isByte := bytes (UInt8.ofNat character.toNat) (by
        rw [String.utf8EncodeChar_eq_singleton single]
        exact List.mem_singleton_self _)
      have same : ∀ code < 128,
          isTextByte (UInt8.ofNat code) = isTextCharacter (Char.ofNat code) := by
        decide +kernel
      rw [same character.toNat ascii, Char.ofNat_toNat] at isByte
      exact isByte
    · obtain ⟨byte, isByte, notText⟩ := exists_high_byte (Nat.le_of_not_lt ascii)
      rw [bytes byte isByte] at notText
      cases notText
  · exact all_isTextByte

theorem readable?_eq (value : String) :
    readable? (textBytes value) = if isReadable value then some value else none := by
  by_cases readable : isReadable value = true
  · rw [if_pos readable]
    exact readable?_textBytes ((isReadable_iff value).mp readable)
  · rw [if_neg readable]
    unfold readable?
    exact if_neg readable

/-- The fields that header fields take: a token that is not too long, with a value without
control characters, but for tabs. -/
def takes (field : String × String) : Bool :=
  isToken field.1 && field.1.length < nameLimit && (textBytes field.2).all isValueByte

theorem set_eq (headers : Map) (field : String × String) :
    set headers field.1 field.2 =
      if takes field then
        Table.insert headers (LowerCase.text field.1) [textBytes field.2]
      else headers := by
  unfold set takes value?
  rw [name?_eq]
  cases named : isToken field.1 && field.1.length < nameLimit with
  | false => rfl
  | true =>
      cases allowed : (textBytes field.2).all isValueByte with
      | false => rfl
      | true => rfl

theorem get?_eq {name : String} (token : isToken name = true) (headers : Map) :
    get? headers name =
      if name.length < nameLimit then
        (Table.get? headers (LowerCase.text name)).bind fun values => values.head?.bind readable?
      else none := by
  unfold get?
  rw [name?_eq, token, Bool.true_and]
  by_cases short : name.length < nameLimit
  · rw [decide_eq_true short, if_pos rfl, if_pos short]
    rfl
  · rw [decide_eq_false short, if_neg short]
    rfl

end Header

namespace Carrier

def takes : Carrier → String × String → Bool
  | .map _, _ => true
  | .headers _, field => Header.takes field

def shown? : Carrier → String → Option String
  | .map _, value => some value
  | .headers _, value => if Header.isReadable value then some value else none

theorem set_refused {carrier : Carrier} {field : String × String}
    (refused : carrier.takes field = false) : carrier.set field.1 field.2 = carrier := by
  cases carrier with
  | map entries => cases refused
  | headers fields =>
      have notTaken : Header.takes field = false := refused
      rw [set, Header.set_eq, notTaken]
      rfl

theorem takes_set (carrier : Carrier) (field : String × String) :
    (carrier.set field.1 field.2).takes = carrier.takes := by
  cases carrier <;> rfl

theorem shown?_set (carrier : Carrier) (field : String × String) :
    (carrier.set field.1 field.2).shown? = carrier.shown? := by
  cases carrier <;> rfl

theorem length_eq_of_lowerCase {name key : String} (token : Header.isToken name = true)
    (keyToken : Header.isToken key = true) (same : LowerCase.text key = LowerCase.text name) :
    key.length = name.length := by
  have lengths := congrArg (fun text => text.toList.length) same
  simp only [Header.toList_lowerCase token, Header.toList_lowerCase keyToken, List.length_map,
    String.length_toList] at lengths
  exact lengths

/-- A field that is taken is what a token of its letters shows from then on, and all other
tokens show what they showed. -/
theorem get?_write {name : String} (token : Header.isToken name = true) (carrier : Carrier)
    (field : String × String) :
    (carrier.set field.1 field.2).get? name =
      if carrier.takes field && LowerCase.text field.1 == LowerCase.text name then
        carrier.shown? field.2
      else carrier.get? name := by
  cases carrier with
  | map entries =>
      rw [set, get?, get?, Table.get?_insert, takes, Bool.true_and, shown?]
      by_cases same : LowerCase.text field.1 = LowerCase.text name
      · rw [if_pos same.symm, if_pos (beq_iff_eq.mpr same)]
      · rw [if_neg fun equal => same equal.symm, if_neg fun equal => same (beq_iff_eq.mp equal)]
  | headers fields =>
      rw [set, get?, get?, Header.set_eq, takes, shown?]
      cases taken : Header.takes field with
      | false => rfl
      | true =>
          rw [if_pos rfl, Bool.true_and, Header.get?_eq token, Header.get?_eq token,
            Table.get?_insert]
          by_cases same : LowerCase.text field.1 = LowerCase.text name
          · unfold Header.takes at taken
            rw [Bool.and_eq_true, Bool.and_eq_true, decide_eq_true_eq] at taken
            have short := taken.1.2
            rw [length_eq_of_lowerCase token taken.1.1 same] at short
            rw [if_pos short, if_pos same.symm, if_pos (beq_iff_eq.mpr same),
              ← Header.readable?_eq]
            rfl
          · have differ : LowerCase.text name ≠ LowerCase.text field.1 :=
              fun equal => same equal.symm
            rw [if_neg differ, if_neg fun equal => same (beq_iff_eq.mp equal)]

/-! ### Histories -/

/-- The last value that was written for a key, whatever the case of its letters, among the
fields that were taken. -/
def lastTaken? (takes : String × String → Bool) (fields : List (String × String))
    (name : String) : Option String :=
  (fields.reverse.find? fun field =>
    takes field && LowerCase.text field.1 == LowerCase.text name).map Prod.snd

theorem lastTaken?_cons (takes : String × String → Bool) (field : String × String)
    (rest : List (String × String)) (name : String) :
    lastTaken? takes (field :: rest) name =
      (lastTaken? takes rest name).or
        (if takes field && LowerCase.text field.1 == LowerCase.text name then some field.2
          else none) := by
  unfold lastTaken?
  rw [List.reverse_cons, List.find?_append, Option.map_or]
  congr 1
  rw [List.find?_singleton]
  split <;> rfl

theorem get?_writes {name : String} (token : Header.isToken name = true) (carrier : Carrier)
    (fields : List (String × String)) :
    (carrier.setAll fields).get? name =
      ((lastTaken? carrier.takes fields name).map carrier.shown?).getD (carrier.get? name) := by
  induction fields generalizing carrier with
  | nil => rfl
  | cons field rest ih =>
      have later := ih (carrier.set field.1 field.2)
      rw [takes_set, shown?_set, get?_write token] at later
      have step : carrier.setAll (field :: rest) =
          (carrier.set field.1 field.2).setAll rest := rfl
      rw [step, later, lastTaken?_cons]
      cases lastTaken? carrier.takes rest name with
      | some value => rfl
      | none =>
          rw [Option.none_or]
          split <;> rfl

/-- Among fields that are all taken, the last of a key counts whoever takes them. -/
theorem lastTaken?_congr {takes other : String × String → Bool}
    {fields : List (String × String)} (agree : ∀ field ∈ fields, takes field = other field)
    (name : String) :
    lastTaken? takes fields name = lastTaken? other fields name := by
  induction fields with
  | nil => rfl
  | cons field rest ih =>
      rw [lastTaken?_cons, lastTaken?_cons, agree field List.mem_cons_self,
        ih fun later member => agree later (List.mem_cons_of_mem _ member)]

theorem exists_lastTaken {takes : String × String → Bool} {fields : List (String × String)}
    {field : String × String} (member : field ∈ fields) (taken : takes field = true) :
    ∃ value, lastTaken? takes fields field.1 = some value := by
  have found : (fields.reverse.find? fun other =>
      takes other && LowerCase.text other.1 == LowerCase.text field.1).isSome = true := by
    rw [List.find?_isSome]
    exact ⟨field, List.mem_reverse.mpr member, by rw [taken, beq_self_eq_true]; rfl⟩
  obtain ⟨last, isLast⟩ := Option.isSome_iff_exists.mp found
  unfold lastTaken?
  exact ⟨last.2, by rw [isLast]; rfl⟩

section

variable {name : String} (token : Header.isToken name = true) (fields : List (String × String))
include token

theorem get?_writes_map :
    (emptyMap.setAll fields).get? name = lastTaken? (fun _ => true) fields name := by
  rw [get?_writes token]
  change ((lastTaken? (fun _ => true) fields name).map some).getD none = _
  cases lastTaken? (fun _ => true) fields name <;> rfl

theorem get?_writes_headers :
    (emptyHeaders.setAll fields).get? name =
      (lastTaken? Header.takes fields name).filter Header.isReadable := by
  have nothing : emptyHeaders.get? name = none := by
    rw [emptyHeaders, get?, Header.get?_eq token]
    split <;> rfl
  rw [get?_writes token, nothing]
  change ((lastTaken? Header.takes fields name).map emptyHeaders.shown?).getD none = _
  cases lastTaken? Header.takes fields name with
  | none => rfl
  | some value => rfl

end

theorem set_emptyHeaders_iff (field : String × String) :
    emptyHeaders.set field.1 field.2 ≠ emptyHeaders ↔ Header.takes field = true := by
  constructor
  · intro changed
    by_contra refused
    exact changed (set_refused (Bool.not_eq_true _ ▸ refused))
  · intro taken same
    rw [emptyHeaders, set, Header.set_eq, if_pos taken] at same
    cases same

/-- Carriers of both kinds show for a token, whatever the case of its letters, the last value
that was taken.  A map takes every field.  Header fields take the tokens with a value without
control characters, no other field changes anything, and they show a value if it is of ASCII.
So what header fields take is shown alike by both, but for values beyond ASCII, and just
these cannot be read where they were written. -/
theorem writes_read_back (fields : List (String × String)) :
    (∀ name, Header.isToken name = true →
      (emptyMap.setAll fields).get? name = lastTaken? (fun _ => true) fields name ∧
      (emptyHeaders.setAll fields).get? name =
        (lastTaken? Header.takes fields name).filter Header.isReadable) ∧
    (∀ (headers : Header.Map) (field : String × String), Header.takes field = false →
      (Carrier.headers headers).set field.1 field.2 = .headers headers) ∧
    (∀ field : String × String,
      emptyHeaders.set field.1 field.2 ≠ emptyHeaders ↔ Header.takes field = true) ∧
    ((∀ field ∈ fields, Header.takes field = true) → ∀ name, Header.isToken name = true →
      (emptyHeaders.setAll fields).get? name =
        ((emptyMap.setAll fields).get? name).filter Header.isReadable) ∧
    ∀ field ∈ fields, Header.takes field = true →
      ∃ value, lastTaken? Header.takes fields field.1 = some value ∧
        ((emptyHeaders.setAll fields).get? field.1 = none ↔ Header.isReadable value = false) := by
  refine ⟨?_, ?_, set_emptyHeaders_iff, ?_, ?_⟩
  · intro name token
    exact ⟨get?_writes_map token fields, get?_writes_headers token fields⟩
  · intro headers field refused
    exact set_refused refused
  · intro taken name token
    have same : lastTaken? Header.takes fields name = lastTaken? (fun _ => true) fields name :=
      lastTaken?_congr taken name
    rw [get?_writes_headers token, get?_writes_map token, same]
  · intro field member taken
    have token : Header.isToken field.1 = true := by
      unfold Header.takes at taken
      rw [Bool.and_eq_true, Bool.and_eq_true] at taken
      exact taken.1.1
    obtain ⟨value, isLast⟩ := exists_lastTaken member taken
    refine ⟨value, isLast, ?_⟩
    rw [get?_writes_headers token, isLast, Option.filter_some]
    cases Header.isReadable value with
    | true => exact ⟨nofun, nofun⟩
    | false => exact ⟨fun _ => rfl, fun _ => rfl⟩

/-- A value beyond ASCII takes the place of one that was shown, and nothing is shown of it. -/
theorem taken_value_unread :
    let fields := [("a", "x"), ("a", "\u00e9")]
    Header.isReadable "\u00e9" = false ∧
      (emptyHeaders.set "a" "\u00e9").keys = ["a"] ∧
      (emptyHeaders.set "a" "\u00e9").get? "a" = none ∧
      lastTaken? (fun field => Header.takes field && Header.isReadable field.2) fields "a" =
        some "x" ∧
      (emptyHeaders.setAll fields).get? "a" = none := by
  decide +kernel

end Carrier

end SpanTrail
