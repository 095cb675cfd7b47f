import SpanTrail.Text.Layout

/-! JSON documents and their compact text.  The fields of an object are written in
the order given.  Inside a text only the quote, the backslash and the characters
below the space are escaped. -/

namespace SpanTrail.Json

inductive Value where
  | number (value : Nat)
  | text (value : String)
  | boolean (value : Bool)
  | array (items : List Value)
  | object (fields : List (String × Value))

def escape (character : Char) : List Char :=
  match character with
  | '"' => ['\\', '"']
  | '\\' => ['\\', '\\']
  | '\x08' => ['\\', 'b']
  | '\x0c' => ['\\', 'f']
  | '\n' => ['\\', 'n']
  | '\r' => ['\\', 'r']
  | '\t' => ['\\', 't']
  | other =>
      if other.toNat < 0x20 then ['\\', 'u'] ++ Hex.fixed 4 other.toNat else [other]

def quote (text : List Char) : List Char :=
  '"' :: text.flatMap escape ++ ['"']

mutual

def Value.write : Value → List Char
  | .number value => Nat.toDigits 10 value
  | .text value => quote value.toList
  | .boolean value => if value then "true".toList else "false".toList
  | .array items => '[' :: writeItems items ++ [']']
  | .object fields => '\x7b' :: writeFields fields ++ ['\x7d']

def writeItems : List Value → List Char
  | [] => []
  | [last] => last.write
  | first :: second :: rest => first.write ++ ',' :: writeItems (second :: rest)

def writeFields : List (String × Value) → List Char
  | [] => []
  | [(name, value)] => quote name.toList ++ ':' :: value.write
  | (name, value) :: second :: rest =>
      quote name.toList ++ ':' :: value.write ++ ',' :: writeFields (second :: rest)

end

def Value.toText (value : Value) : String :=
  String.ofList value.write

theorem escape_printable {character other : Char} (found : other ∈ escape character) :
    0x20 ≤ other.toNat := by
  unfold escape at found
  split at found
  case h_8 =>
    split at found
    · rename_i small
      have digit : ∀ number : Nat, number < 16 → 0x20 ≤ (Nat.digitChar number).toNat := by decide
      simp only [Hex.fixed, List.nil_append, List.cons_append, List.mem_cons,
        List.not_mem_nil, or_false] at found
      rcases found with rfl | rfl | rfl | rfl | rfl | rfl
      · decide
      · decide
      all_goals exact digit _ (Nat.mod_lt _ (by decide))
    · simp_all
  all_goals
    simp only [List.mem_cons, List.not_mem_nil, or_false] at found
    rcases found with rfl | rfl <;> decide

end SpanTrail.Json
