import SpanTrail.Carrier

/-! Fields in a carrier, of either kind.  A name that both kinds keep as it is can be written and
read back, and writing it leaves the entries of other names alone.  A text of visible characters,
spaces and tabs is accepted as the value of a header field and reads back unchanged. -/

namespace SpanTrail.Header

theorem toList_loop (bytes : ByteArray) (position : Nat) (sofar : List UInt8) :
    ByteArray.toList.loop bytes position sofar =
      sofar.reverse ++ bytes.data.toList.drop position := by
  fun_induction ByteArray.toList.loop bytes position sofar with
  | case1 position sofar within ih =>
      have inList : position < bytes.data.toList.length := within
      have byte : bytes.get! position = bytes.data.toList[position] :=
        getElem!_pos bytes.data position within
      rw [ih, List.drop_eq_getElem_cons inList, byte, List.reverse_cons, List.append_assoc]
      rfl
  | case2 position sofar beyond =>
      have nothing : bytes.data.toList.drop position = [] :=
        List.drop_eq_nil_of_le (Nat.le_of_not_lt beyond)
      rw [nothing, List.append_nil]

theorem toList_eq_data (bytes : ByteArray) : bytes.toList = bytes.data.toList := by
  unfold ByteArray.toList
  rw [toList_loop]
  rfl

theorem textBytes_eq (text : String) :
    textBytes text = text.toList.flatMap String.utf8EncodeChar := by
  unfold textBytes
  rw [toList_eq_data]
  change text.toByteArray.data.toList = _
  rw [← String.utf8Encode_toList, List.utf8Encode, List.toList_data_toByteArray]

theorem textBytes_ascii {text : String}
    (ascii : ∀ character ∈ text.toList, character.toNat < 128) :
    textBytes text = text.toList.map fun character => UInt8.ofNat character.toNat := by
  rw [textBytes_eq]
  generalize text.toList = characters at ascii
  induction characters with
  | nil => rfl
  | cons character rest ih =>
      have single : character.utf8Size = 1 := by
        rw [Char.utf8Size_eq_one_iff]
        have low := ascii character List.mem_cons_self
        exact Nat.le_of_lt_succ low
      rw [List.flatMap_cons, List.map_cons, String.utf8EncodeChar_eq_singleton single,
        ih fun other member => ascii other (List.mem_cons_of_mem _ member)]
      rfl

def isTextCharacter (character : Char) : Bool :=
  character.toNat == 9 || (32 ≤ character.toNat && character.toNat < 127)

theorem isTextCharacter_iff (character : Char) :
    isTextCharacter character = true ↔
      character.toNat = 9 ∨ (32 ≤ character.toNat ∧ character.toNat < 127) := by
  unfold isTextCharacter
  rw [Bool.or_eq_true, Bool.and_eq_true, beq_iff_eq, decide_eq_true_eq, decide_eq_true_eq]

theorem toNat_byte {character : Char} (allowed : isTextCharacter character = true) :
    (UInt8.ofNat character.toNat).toNat = character.toNat := by
  have bounds := (isTextCharacter_iff character).mp allowed
  rw [UInt8.toNat_ofNat']
  omega

theorem isTextByte_ofNat {character : Char} (allowed : isTextCharacter character = true) :
    isTextByte (UInt8.ofNat character.toNat) = true := by
  have bounds := (isTextCharacter_iff character).mp allowed
  unfold isTextByte
  rw [Bool.or_eq_true, Bool.and_eq_true, beq_iff_eq, decide_eq_true_eq, decide_eq_true_eq,
    ← UInt8.toNat_inj, UInt8.le_iff_toNat_le, UInt8.lt_iff_toNat_lt,
    toNat_byte allowed]
  exact bounds

theorem isValueByte_of_isTextByte {byte : UInt8} (readable : isTextByte byte = true) :
    isValueByte byte = true := by
  unfold isTextByte at readable
  unfold isValueByte
  rw [Bool.or_eq_true, Bool.and_eq_true, decide_eq_true_eq, decide_eq_true_eq] at readable
  rw [Bool.or_eq_true, Bool.and_eq_true, decide_eq_true_eq, bne_iff_ne]
  rcases readable with tab | ⟨lower, upper⟩
  · exact .inl tab
  · refine .inr ⟨lower, ?_⟩
    intro deletion
    rw [deletion] at upper
    exact absurd upper (by decide)

variable {text : String}

theorem textBytes_readable
    (allowed : ∀ character ∈ text.toList, isTextCharacter character = true) :
    textBytes text = text.toList.map fun character => UInt8.ofNat character.toNat := by
  apply textBytes_ascii
  intro character member
  have bounds := (isTextCharacter_iff character).mp (allowed character member)
  omega

theorem all_isTextByte
    (allowed : ∀ character ∈ text.toList, isTextCharacter character = true) :
    (textBytes text).all isTextByte = true := by
  rw [textBytes_readable allowed, List.all_eq_true]
  intro byte member
  obtain ⟨character, isOne, rfl⟩ := List.mem_map.mp member
  exact isTextByte_ofNat (allowed character isOne)

theorem value?_textBytes
    (allowed : ∀ character ∈ text.toList, isTextCharacter character = true) :
    value? (textBytes text) = some (textBytes text) := by
  unfold value?
  rw [if_pos]
  rw [List.all_eq_true]
  intro byte member
  exact isValueByte_of_isTextByte (List.all_eq_true.mp (all_isTextByte allowed) byte member)

theorem readable?_textBytes
    (allowed : ∀ character ∈ text.toList, isTextCharacter character = true) :
    readable? (textBytes text) = some text := by
  have restored : (textBytes text).map (fun byte => Char.ofNat byte.toNat) = text.toList := by
    have same : ∀ character ∈ text.toList,
        Char.ofNat (UInt8.ofNat character.toNat).toNat = id character := by
      intro character member
      rw [toNat_byte (allowed character member), Char.ofNat_toNat, id_eq]
    rw [textBytes_readable allowed, List.map_map]
    exact (List.map_congr_left same).trans (List.map_id text.toList)
  unfold readable?
  rw [if_pos (all_isTextByte allowed), restored, String.ofList_toList]

end SpanTrail.Header

namespace SpanTrail

/-! ### Entries of other keys -/

namespace Table

variable {Key Value : Type} [DecidableEq Key]

/-- The entries of all other keys. -/
def without (table : Table Key Value) (keys : List Key) : Table Key Value :=
  ⟨table.entries.filter fun entry => entry.1 ∉ keys,
    List.Nodup.sublist (List.filter_sublist.map Prod.fst) table.distinct⟩

theorem filter_insertEntry {keys : List Key} {key : Key} (member : key ∈ keys) (value : Value)
    (entries : List (Key × Value)) :
    (insertEntry key value entries).filter (fun entry => entry.1 ∉ keys) =
      entries.filter fun entry => entry.1 ∉ keys := by
  have left : decide (key ∉ keys) = false := decide_eq_false fun absent => absent member
  induction entries with
  | nil =>
      unfold insertEntry
      rw [List.filter_cons, left]
      rfl
  | cons entry rest ih =>
      unfold insertEntry
      by_cases same : entry.1 = key
      · rw [if_pos same, List.filter_cons, List.filter_cons, same, left]
        rfl
      · rw [if_neg same, List.filter_cons, List.filter_cons, ih]

theorem insert_without {keys : List Key} {key : Key} (member : key ∈ keys)
    (table : Table Key Value) (value : Value) :
    (table.insert key value).without keys = table.without keys := by
  unfold without insert
  rw [mk.injEq]
  exact filter_insertEntry member value table.entries

theorem lookup_filter (keys : List Key) (key : Key) (entries : List (Key × Value)) :
    (entries.filter fun entry => entry.1 ∉ keys).lookup key =
      if key ∈ keys then none else entries.lookup key := by
  induction entries with
  | nil =>
      split
      · rfl
      · rfl
  | cons entry rest ih =>
      rw [List.filter_cons, List.lookup_cons]
      cases same : key == entry.1 with
      | false =>
          by_cases isOut : entry.1 ∈ keys
          · rw [if_neg (by simpa using isOut), ih]
          · rw [if_pos (decide_eq_true isOut), List.lookup_cons, same, ih]
      | true =>
          rw [← eq_of_beq same]
          by_cases isOut : key ∈ keys
          · rw [if_neg (by simpa using isOut), ih, if_pos isOut, if_pos isOut]
          · rw [if_pos (decide_eq_true isOut), List.lookup_cons, same, if_neg isOut]

theorem get?_without (table : Table Key Value) (keys : List Key) (key : Key) :
    (table.without keys).get? key = if key ∈ keys then none else table.get? key :=
  lookup_filter keys key table.entries

end Table

namespace Carrier

def without (carrier : Carrier) (keys : List String) : Carrier :=
  match carrier with
  | .map entries => .map (entries.without keys)
  | .headers fields => .headers (Table.without fields keys)

/-- A name that is kept as it is, as a key of a map and as the name of a header field. -/
structure KeptName (name : String) : Prop where
  lowerCase : LowerCase.text name = name
  header : Header.name? name = some name

variable {name other text : String}

theorem get?_headers (kept : KeptName name) (headers : Header.Map) :
    Header.get? headers name =
      (Table.get? headers name).bind fun values => values.head?.bind Header.readable? := by
  simp only [Header.get?, kept.header]
  rfl

/-- A field that can be read back is written, whatever stood there before. -/
theorem get?_set (kept : KeptName name) (otherKept : KeptName other)
    (allowed : ∀ character ∈ text.toList, Header.isTextCharacter character = true)
    (carrier : Carrier) :
    (carrier.set name text).get? other =
      if other = name then some text else carrier.get? other := by
  cases carrier with
  | map entries =>
      simp only [set, get?, kept.lowerCase, otherKept.lowerCase]
      exact Table.get?_insert entries name other text
  | headers fields =>
      have written : Header.set fields name text =
          Table.insert fields name [Header.textBytes text] := by
        simp only [Header.set, kept.header, Header.value?_textBytes allowed]
      simp only [set, get?, written, get?_headers otherKept, Table.get?_insert]
      by_cases same : other = name
      · rw [if_pos same, if_pos same]
        exact Header.readable?_textBytes allowed
      · rw [if_neg same, if_neg same]

theorem set_without {names : List String} (kept : KeptName name) (member : name ∈ names)
    (carrier : Carrier) (text : String) :
    (carrier.set name text).without names = carrier.without names := by
  cases carrier with
  | map entries =>
      simp only [set, without, kept.lowerCase]
      rw [Table.insert_without member]
  | headers fields =>
      simp only [set, without, Header.set, kept.header]
      cases Header.value? (Header.textBytes text) with
      | none => rfl
      | some value => rw [Table.insert_without member]

theorem get?_without (kept : KeptName name) (carrier : Carrier) (keys : List String) :
    (carrier.without keys).get? name = if name ∈ keys then none else carrier.get? name := by
  cases carrier with
  | map entries =>
      simp only [without, get?, kept.lowerCase]
      exact Table.get?_without entries keys name
  | headers fields =>
      simp only [without, get?, get?_headers kept, Table.get?_without]
      split
      · rfl
      · rfl

theorem get?_setAll {pairs : List (String × String)} (kept : ∀ pair ∈ pairs, KeptName pair.1)
    (otherKept : KeptName other)
    (allowed : ∀ pair ∈ pairs, ∀ character ∈ pair.2.toList,
      Header.isTextCharacter character = true)
    (carrier : Carrier) :
    (carrier.setAll pairs).get? other = (pairs.reverse.lookup other).or (carrier.get? other) := by
  induction pairs generalizing carrier with
  | nil => rfl
  | cons pair rest ih =>
      have later := ih (fun pair member => kept pair (List.mem_cons_of_mem _ member))
        (fun pair member => allowed pair (List.mem_cons_of_mem _ member))
        (carrier.set pair.1 pair.2)
      have first := get?_set (kept pair List.mem_cons_self) otherKept
        (allowed pair List.mem_cons_self) carrier
      have step : carrier.setAll (pair :: rest) = (carrier.set pair.1 pair.2).setAll rest := rfl
      rw [step, later, first, List.reverse_cons, List.lookup_append, Option.or_assoc]
      congr 1
      obtain ⟨key, value⟩ := pair
      rw [List.lookup_cons, List.lookup_nil]
      by_cases same : other = key
      · rw [if_pos same, same, beq_self_eq_true]
        rfl
      · rw [if_neg same, beq_eq_false_iff_ne.mpr same]
        rfl

theorem setAll_without {names : List String} {pairs : List (String × String)}
    (kept : ∀ pair ∈ pairs, KeptName pair.1) (members : ∀ pair ∈ pairs, pair.1 ∈ names)
    (carrier : Carrier) : (carrier.setAll pairs).without names = carrier.without names := by
  induction pairs generalizing carrier with
  | nil => rfl
  | cons pair rest ih =>
      have later := ih (fun pair member => kept pair (List.mem_cons_of_mem _ member))
        (fun pair member => members pair (List.mem_cons_of_mem _ member))
        (carrier.set pair.1 pair.2)
      have first := set_without (kept pair List.mem_cons_self) (members pair List.mem_cons_self)
        carrier pair.2
      exact later.trans first

end Carrier

end SpanTrail
