import Mathlib.Data.Nat.Init
import SpanTrail.Json
import SpanTrail.Proofs.Carrier.Fields
import SpanTrail.Proofs.Text

/-! Reading of JSON text.  The reader goes through the text character by character, with the
arrays and objects that are open around it, and takes blanks between tokens and every escape of a
single character.  Of the numbers it takes the naturals, as a document has no others.  What is
written reads back, so different documents have different texts.  The text of a document is one
line: nothing that is written lies below the space, neither as a character nor as a byte. -/

namespace SpanTrail.Json

/-- An array with its items so far, or an object with its fields so far and the name of the
next.  The last of them come first. -/
inductive Level where
  | array (items : List Value)
  | object (fields : List (String × Value)) (name : String)

inductive Role where
  | value
  | name (fields : List (String × Value))

/-- An escape within a text, of which the sign or some digits of its code have been read. -/
inductive Escape where
  | none
  | sign
  | code (digits value : Nat)

/-- What is read next.  An array or an object that was just opened may end at once. -/
inductive Place where
  | value (mayEnd : Bool)
  | name (fields : List (String × Value)) (mayEnd : Bool)
  | colon (fields : List (String × Value)) (name : String)
  | text (role : Role) (sofar : List Char) (escape : Escape)
  | number (sofar : Nat)
  | word (rest : List Char) (value : Value)
  | after (value : Value)

structure Reader where
  levels : List Level
  place : Place

def isBlank (character : Char) : Bool :=
  character == ' ' || character == '\t' || character == '\n' || character == '\r'

def unescape? : Char → Option Char
  | '"' => some '"'
  | '\\' => some '\\'
  | '/' => some '/'
  | 'b' => some '\x08'
  | 'f' => some '\x0c'
  | 'n' => some '\n'
  | 'r' => some '\r'
  | 't' => some '\t'
  | _ => none

namespace Reader

def start (levels : List Level) (character : Char) : Option Reader :=
  match character with
  | '"' => some ⟨levels, .text .value [] .none⟩
  | '[' => some ⟨.array [] :: levels, .value true⟩
  | '\x7b' => some ⟨levels, .name [] true⟩
  | 't' => some ⟨levels, .word "rue".toList (.boolean true)⟩
  | 'f' => some ⟨levels, .word "alse".toList (.boolean false)⟩
  | other =>
      if other.isDigit then some ⟨levels, .number (other.toNat - '0'.toNat)⟩ else none

def proceed (levels : List Level) (value : Value) (character : Char) : Option Reader :=
  if isBlank character then some ⟨levels, .after value⟩
  else
    match levels with
    | .array items :: outer =>
        if character = ',' then some ⟨.array (value :: items) :: outer, .value false⟩
        else if character = ']' then some ⟨outer, .after (.array (value :: items).reverse)⟩
        else none
    | .object fields name :: outer =>
        if character = ',' then some ⟨outer, .name ((name, value) :: fields) false⟩
        else if character = '\x7d' then
          some ⟨outer, .after (.object ((name, value) :: fields).reverse)⟩
        else none
    | [] => none

def closeText (levels : List Level) (text : List Char) : Role → Reader
  | .value => ⟨levels, .after (.text (String.ofList text))⟩
  | .name fields => ⟨levels, .colon fields (String.ofList text)⟩

/-- A character within a text.  Control characters must be escaped, and a code must be that of
a character by itself. -/
def readText (levels : List Level) (role : Role) (sofar : List Char) (character : Char) :
    Escape → Option Reader
  | .none =>
      if character = '"' then some (closeText levels sofar.reverse role)
      else if character = '\\' then some ⟨levels, .text role sofar .sign⟩
      else if character.toNat < 0x20 then none
      else some ⟨levels, .text role (character :: sofar) .none⟩
  | .sign =>
      if character = 'u' then some ⟨levels, .text role sofar (.code 0 0)⟩
      else (unescape? character).map fun plain => ⟨levels, .text role (plain :: sofar) .none⟩
  | .code digits value =>
      (Hex.digitValue? character).bind fun digit =>
        if digits < 3 then some ⟨levels, .text role sofar (.code (digits + 1) (value * 16 + digit))⟩
        else if (value * 16 + digit).isValidChar then
          some ⟨levels, .text role (Char.ofNat (value * 16 + digit) :: sofar) .none⟩
        else none

def step (reader : Reader) (character : Char) : Option Reader :=
  let levels := reader.levels
  match reader.place with
  | .value mayEnd =>
      if isBlank character then some reader
      else if mayEnd && character == ']' then
        some ⟨levels.tail, .after (.array [])⟩
      else start levels character
  | .name fields mayEnd =>
      if isBlank character then some reader
      else if character = '"' then some ⟨levels, .text (.name fields) [] .none⟩
      else if mayEnd && character == '\x7d' then some ⟨levels, .after (.object [])⟩
      else none
  | .colon fields name =>
      if isBlank character then some reader
      else if character = ':' then some ⟨.object fields name :: levels, .value false⟩
      else none
  | .text role sofar escape => readText levels role sofar character escape
  | .number sofar =>
      if character.isDigit then
        -- A zero in front is the whole number.
        if sofar = 0 then none
        else some ⟨levels, .number (sofar * 10 + (character.toNat - '0'.toNat))⟩
      else proceed levels (.number sofar) character
  | .word rest value =>
      match rest with
      | [] => proceed levels value character
      | next :: rest => if character = next then some ⟨levels, .word rest value⟩ else none
  | .after value => proceed levels value character

def finish (reader : Reader) : Option Value :=
  match reader.levels, reader.place with
  | [], .after value => some value
  | [], .number sofar => some (.number sofar)
  | [], .word [] value => some value
  | _, _ => none

def read (reader : Reader) : List Char → Option Value
  | [] => reader.finish
  | character :: rest =>
      match reader.step character with
      | none => none
      | some next => next.read rest

end Reader

def read? (text : String) : Option Value :=
  Reader.read ⟨[], .value false⟩ text.toList

example : read? "[ \"\\u0041\\/\" , 10 ]" = some (.array [.text "A/", .number 10]) := by rfl

example : read? "[01]" = none := by rfl

namespace Reader

variable {levels : List Level} {role : Role} {sofar rest : List Char}

theorem read_code {number : Nat} (small : number < 0x20) :
    read ⟨levels, .text role sofar (.code 0 0)⟩ (Hex.fixed 4 number ++ rest) =
      read ⟨levels, .text role (Char.ofNat number :: sofar) .none⟩ rest := by
  have value : (((0 * 16 + number / 16 / 16 / 16 % 16) * 16 + number / 16 / 16 % 16) * 16 +
      number / 16 % 16) * 16 + number % 16 = number := by
    omega
  have digit (part : Nat) : Hex.digitValue? (Nat.digitChar (part % 16)) = some (part % 16) :=
    Hex.digitValue?_digitChar (Nat.mod_lt part (by decide))
  have valid : number.isValidChar := .inl (by omega)
  simp only [Hex.fixed, List.nil_append, List.cons_append, read, step, readText, digit,
    Option.bind_some, value, Nat.lt_irrefl, if_false, if_pos valid, Nat.reduceLT, if_true,
    Nat.reduceAdd, Nat.zero_add]

theorem read_escape (character : Char) :
    read ⟨levels, .text role sofar .none⟩ (escape character ++ rest) =
      read ⟨levels, .text role (character :: sofar) .none⟩ rest := by
  unfold escape
  split
  case h_8 notQuote notBackslash _ _ _ _ _ =>
    split
    · rename_i control
      rw [List.append_assoc]
      have code := @read_code levels role sofar rest character.toNat control
      rw [Char.ofNat_toNat] at code
      exact code
    · rename_i plain
      have kept : readText levels role sofar character .none =
          some ⟨levels, .text role (character :: sofar) .none⟩ := by
        unfold readText
        rw [if_neg notQuote, if_neg notBackslash, if_neg plain]
      simp only [List.singleton_append, read, step, kept]
  all_goals rfl

theorem read_text (text : List Char) :
    read ⟨levels, .text role sofar .none⟩ (text.flatMap escape ++ '"' :: rest) =
      read (closeText levels (sofar.reverse ++ text) role) rest := by
  induction text generalizing sofar with
  | nil =>
      rw [List.append_nil]
      rfl
  | cons character text ih =>
      rw [List.flatMap_cons, List.append_assoc, read_escape, ih, List.reverse_cons,
        List.append_assoc, List.singleton_append]

theorem read_name (fields : List (String × Value)) (mayEnd : Bool) (name : String) :
    read ⟨levels, .name fields mayEnd⟩ (quote name.toList ++ ':' :: rest) =
      read ⟨.object fields name :: levels, .value false⟩ rest := by
  have opened : read ⟨levels, .name fields mayEnd⟩ (quote name.toList ++ ':' :: rest) =
      read ⟨levels, .text (.name fields) [] .none⟩
        (name.toList.flatMap escape ++ '"' :: ':' :: rest) := by
    rw [quote, List.append_assoc]
    rfl
  rw [opened, read_text, List.reverse_nil, List.nil_append]
  simp only [closeText, String.ofList_toList]
  rfl

def NoDigit (rest : List Char) : Prop :=
  ∀ character, rest.head? = some character → character.isDigit = false

theorem noDigit_nil : NoDigit [] := nofun

theorem noDigit_cons {character : Char} (noDigit : character.isDigit = false) :
    NoDigit (character :: rest) := by
  intro first isFirst
  cases isFirst
  exact noDigit

theorem isDigit_digitChar {digit : Nat} (small : digit < 10) :
    (Nat.digitChar digit).isDigit = true ∧ (Nat.digitChar digit).toNat - '0'.toNat = digit := by
  interval_cases digit <;> exact ⟨rfl, rfl⟩

theorem step_first {digit : Nat} (small : digit < 10) (mayEnd : Bool) :
    step ⟨levels, .value mayEnd⟩ (Nat.digitChar digit) = some ⟨levels, .number digit⟩ := by
  cases mayEnd <;> interval_cases digit <;> rfl

theorem step_digit {digit before : Nat} (small : digit < 10) (positive : 0 < before) :
    step ⟨levels, .number before⟩ (Nat.digitChar digit) =
      some ⟨levels, .number (before * 10 + digit)⟩ := by
  obtain ⟨isDigit, value⟩ := isDigit_digitChar small
  simp only [step, if_pos isDigit, if_neg (Nat.ne_of_gt positive), value]

theorem read_digits (mayEnd : Bool) (number : Nat) :
    read ⟨levels, .value mayEnd⟩ (Nat.toDigits 10 number ++ rest) =
      read ⟨levels, .number number⟩ rest := by
  induction number using Nat.strongRecOn generalizing rest with
  | ind number ih =>
      rcases Nat.lt_or_ge number 10 with single | several
      · rw [Nat.toDigits_of_lt_base single, List.singleton_append]
        simp only [read, step_first single]
      · have last := @step_digit levels (number % 10) (number / 10)
          (Nat.mod_lt number (by decide)) (by omega)
        have whole : number / 10 * 10 + number % 10 = number := by omega
        rw [whole] at last
        rw [Nat.toDigits_of_base_le (by decide) several, List.append_assoc,
          ih (number / 10) (by omega), List.singleton_append]
        simp only [read, last]

theorem read_number {number : Nat} (noDigit : NoDigit rest) :
    read ⟨levels, .number number⟩ rest = read ⟨levels, .after (.number number)⟩ rest := by
  cases rest with
  | nil => cases levels <;> rfl
  | cons character rest =>
      have isNone := noDigit character rfl
      have next : step ⟨levels, .number number⟩ character =
          step ⟨levels, .after (.number number)⟩ character := by
        simp only [step, isNone, Bool.false_eq_true, if_false]
      simp only [read, next]

theorem read_word (value : Value) :
    read ⟨levels, .word [] value⟩ rest = read ⟨levels, .after value⟩ rest := by
  cases rest with
  | nil => cases levels <;> rfl
  | cons character rest => rfl

/-! ### Documents -/

mutual

theorem read_value (mayEnd : Bool) (levels : List Level) (value : Value) {rest : List Char}
    (noDigit : NoDigit rest) :
    read ⟨levels, .value mayEnd⟩ (value.write ++ rest) = read ⟨levels, .after value⟩ rest := by
  -- Along the document.  What is open around it and what follows it stay arbitrary, so that
  -- every part is read where it stands.
  match value with
  | .number number =>
      rw [Value.write, read_digits, read_number noDigit]
  | .text text =>
      have opened : read ⟨levels, .value mayEnd⟩ ((Value.text text).write ++ rest) =
          read ⟨levels, .text .value [] .none⟩ (text.toList.flatMap escape ++ '"' :: rest) := by
        rw [Value.write, quote, List.append_assoc]
        cases mayEnd <;> rfl
      rw [opened, read_text, List.reverse_nil, List.nil_append]
      simp only [closeText, String.ofList_toList]
  | .boolean true =>
      rw [← read_word]
      cases mayEnd <;> rfl
  | .boolean false =>
      rw [← read_word]
      cases mayEnd <;> rfl
  | .array [] =>
      cases mayEnd <;> rfl
  | .array (first :: others) =>
      have opened :
          read ⟨levels, .value mayEnd⟩ ((Value.array (first :: others)).write ++ rest) =
            read ⟨.array [] :: levels, .value true⟩
              (writeItems (first :: others) ++ ']' :: rest) := by
        rw [Value.write, List.append_assoc]
        cases mayEnd <;> rfl
      rw [opened, read_items true levels (first :: others) nofun [] rest]
      rfl
  | .object [] =>
      cases mayEnd <;> rfl
  | .object (first :: others) =>
      have opened : read ⟨levels, .value mayEnd⟩ ((Value.object (first :: others)).write ++ rest) =
          read ⟨levels, .name [] true⟩ (writeFields (first :: others) ++ '\x7d' :: rest) := by
        rw [Value.write, List.append_assoc]
        cases mayEnd <;> rfl
      rw [opened, read_fields true levels (first :: others) nofun [] rest]
      rfl

theorem read_items (mayEnd : Bool) (levels : List Level) (items : List Value)
    (nonempty : items ≠ []) (sofar : List Value) (rest : List Char) :
    read ⟨.array sofar :: levels, .value mayEnd⟩ (writeItems items ++ ']' :: rest) =
      read ⟨levels, .after (.array (sofar.reverse ++ items))⟩ rest := by
  match items with
  | [] => exact absurd rfl nonempty
  | [last] =>
      rw [writeItems, read_value mayEnd _ last (noDigit_cons rfl), ← List.reverse_cons]
      rfl
  | first :: second :: others =>
      have next := read_items false levels (second :: others) nofun (first :: sofar) rest
      rw [List.reverse_cons, List.append_assoc] at next
      rw [writeItems, List.append_assoc, List.cons_append,
        read_value mayEnd _ first (noDigit_cons rfl)]
      exact next

theorem read_fields (mayEnd : Bool) (levels : List Level) (fields : List (String × Value))
    (nonempty : fields ≠ []) (sofar : List (String × Value)) (rest : List Char) :
    read ⟨levels, .name sofar mayEnd⟩ (writeFields fields ++ '\x7d' :: rest) =
      read ⟨levels, .after (.object (sofar.reverse ++ fields))⟩ rest := by
  match fields with
  | [] => exact absurd rfl nonempty
  | [(name, value)] =>
      rw [writeFields, List.append_assoc, List.cons_append, read_name,
        read_value false _ value (noDigit_cons rfl), ← List.reverse_cons]
      rfl
  | (name, value) :: second :: others =>
      have next := read_fields false levels (second :: others) nofun ((name, value) :: sofar) rest
      rw [List.reverse_cons, List.append_assoc] at next
      rw [writeFields, List.append_assoc, List.append_assoc, List.cons_append, List.cons_append,
        read_name, read_value false _ value (noDigit_cons rfl)]
      exact next

end

end Reader

/-- What is written reads back as the same document. -/
theorem read?_toText (value : Value) : read? value.toText = some value := by
  have whole := @Reader.read_value false [] value [] Reader.noDigit_nil
  rw [List.append_nil] at whole
  unfold read? Value.toText
  rw [String.toList_ofList, whole]
  rfl

theorem toText_injective {left right : Value} (same : left.toText = right.toText) :
    left = right := by
  have read := read?_toText left
  rw [same, read?_toText] at read
  exact (Option.some.inj read).symm

def Printable (text : List Char) : Prop :=
  ∀ character ∈ text, 0x20 ≤ character.toNat

theorem printable_of_all {text : List Char}
    (all : text.all (fun character => 0x20 ≤ character.toNat) = true) : Printable text := by
  intro character member
  exact of_decide_eq_true (List.all_eq_true.mp all character member)

theorem printable_append {front back : List Char} (inFront : Printable front)
    (inBack : Printable back) : Printable (front ++ back) := by
  intro character member
  rcases List.mem_append.mp member with isFront | isBack
  · exact inFront character isFront
  · exact inBack character isBack

theorem printable_cons {first : Char} {rest : List Char} (visible : 0x20 ≤ first.toNat)
    (inRest : Printable rest) : Printable (first :: rest) := by
  intro character member
  rcases List.mem_cons.mp member with isFirst | isRest
  · rw [isFirst]
    exact visible
  · exact inRest character isRest

theorem printable_between {first last : Char} {text : List Char} (opens : 0x20 ≤ first.toNat)
    (closes : 0x20 ≤ last.toNat) (inText : Printable text) :
    Printable (first :: text ++ [last]) :=
  printable_cons opens (printable_append inText (printable_cons closes fun _ => nofun))

theorem printable_quote (text : List Char) : Printable (quote text) := by
  apply printable_between (Nat.le_of_ble_eq_true rfl) (Nat.le_of_ble_eq_true rfl)
  intro character member
  obtain ⟨original, _, isEscaped⟩ := List.mem_flatMap.mp member
  exact escape_printable isEscaped

theorem printable_digits (number : Nat) : Printable (Nat.toDigits 10 number) := by
  intro digit member
  have isDigit := Nat.isDigit_of_mem_toDigits (by decide) (by decide) member
  have range : 48 ≤ digit.toNat := (Char.isDigit_iff_toNat.mp isDigit).1
  omega

theorem printable_field (name : String) {value : List Char} (inValue : Printable value) :
    Printable (quote name.toList ++ ':' :: value) :=
  printable_append (printable_quote name.toList)
    (printable_cons (Nat.le_of_ble_eq_true rfl) inValue)

theorem printable_listed {first rest : List Char} (inFirst : Printable first)
    (inRest : Printable rest) : Printable (first ++ ',' :: rest) :=
  printable_append inFirst (printable_cons (Nat.le_of_ble_eq_true rfl) inRest)

mutual

theorem printable_write (value : Value) : Printable value.write := by
  rw [Value.write.eq_def]
  match value with
  | .number number => exact printable_digits number
  | .text text => exact printable_quote text.toList
  | .boolean true => exact printable_of_all rfl
  | .boolean false => exact printable_of_all rfl
  | .array items =>
      exact printable_between (Nat.le_of_ble_eq_true rfl) (Nat.le_of_ble_eq_true rfl)
        (printable_writeItems items)
  | .object fields =>
      exact printable_between (Nat.le_of_ble_eq_true rfl) (Nat.le_of_ble_eq_true rfl)
        (printable_writeFields fields)

theorem printable_writeItems (items : List Value) : Printable (writeItems items) := by
  rw [writeItems.eq_def]
  match items with
  | [] => exact fun _ => nofun
  | [last] => exact printable_write last
  | first :: second :: others =>
      exact printable_listed (printable_write first) (printable_writeItems (second :: others))

theorem printable_writeFields (fields : List (String × Value)) :
    Printable (writeFields fields) := by
  rw [writeFields.eq_def]
  match fields with
  | [] => exact fun _ => nofun
  | [(name, value)] => exact printable_field name (printable_write value)
  | (name, value) :: second :: others =>
      exact printable_listed (printable_field name (printable_write value))
        (printable_writeFields (second :: others))

end

/-- Every byte of a longer character has its highest bit set. -/
theorem encoded_printable {character : Char} (visible : 0x20 ≤ character.toNat) {byte : UInt8}
    (member : byte ∈ String.utf8EncodeChar character) : 0x20 ≤ byte.toNat := by
  have bits (part width mark : Nat) (positive : 0 < width) (high : 0x20 ≤ mark)
      (narrow : width + mark ≤ 256) : 0x20 ≤ (UInt8.ofNat (part % width + mark)).toNat := by
    have small := Nat.mod_lt part positive
    rw [UInt8.toNat_ofNat', Nat.mod_eq_of_lt (by omega)]
    omega
  have last (part : Nat) := bits part 64 128 (by decide) (by decide) (by decide)
  have range : 0x20 ≤ character.val.toNat := visible
  unfold String.utf8EncodeChar at member
  dsimp only at member
  simp only [apply_ite (byte ∈ ·), List.mem_cons, List.not_mem_nil, or_false] at member
  split at member
  · rename_i single
    rw [member, UInt8.toNat_ofNat', Nat.mod_eq_of_lt (by omega)]
    exact range
  · split at member
    · rcases member with rfl | rfl
      · exact bits _ 32 192 (by decide) (by decide) (by decide)
      · exact last _
    · split at member
      · rcases member with rfl | rfl | rfl
        · exact bits _ 16 224 (by decide) (by decide) (by decide)
        · exact last _
        · exact last _
      · rcases member with rfl | rfl | rfl | rfl
        · exact bits _ 8 240 (by decide) (by decide) (by decide)
        · exact last _
        · exact last _
        · exact last _

/-- The text of a document has no byte below the space, so it stays on one line. -/
theorem printable_toText (value : Value) {byte : UInt8}
    (member : byte ∈ Header.textBytes value.toText) : 0x20 ≤ byte.toNat := by
  rw [Header.textBytes_eq] at member
  obtain ⟨character, written, encoded⟩ := List.mem_flatMap.mp member
  unfold Value.toText at written
  rw [String.toList_ofList] at written
  exact encoded_printable (printable_write value character written) encoded

end SpanTrail.Json
