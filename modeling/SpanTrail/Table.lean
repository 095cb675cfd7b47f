/-! Finite maps as lists of entries with distinct keys, in the order in which the
keys first came in.  Each operation has one law that says what it does to look-up. -/

namespace SpanTrail

structure Table (Key Value : Type) where
  entries : List (Key × Value)
  distinct : (entries.map Prod.fst).Nodup

namespace Table

variable {Key Value : Type}

def keys (table : Table Key Value) : List Key :=
  table.entries.map Prod.fst

def size (table : Table Key Value) : Nat :=
  table.entries.length

def empty : Table Key Value := ⟨[], by simp⟩

instance : Inhabited (Table Key Value) := ⟨empty⟩

variable [DecidableEq Key]

def insertEntry (key : Key) (value : Value) : List (Key × Value) → List (Key × Value)
  | [] => [(key, value)]
  | entry :: rest =>
      if entry.1 = key then (key, value) :: rest else entry :: insertEntry key value rest

def eraseEntry (key : Key) : List (Key × Value) → List (Key × Value)
  | [] => []
  | entry :: rest => if entry.1 = key then eraseEntry key rest else entry :: eraseEntry key rest

theorem keys_insertEntry (key : Key) (value : Value) (entries : List (Key × Value)) :
    (insertEntry key value entries).map Prod.fst =
      if key ∈ entries.map Prod.fst then entries.map Prod.fst
      else entries.map Prod.fst ++ [key] := by
  induction entries with
  | nil => simp [insertEntry]
  | cons entry rest ih =>
      by_cases same : entry.1 = key
      · simp [insertEntry, same]
      · have other : key ≠ entry.1 := fun equal => same equal.symm
        simp only [insertEntry, same, if_false, List.map_cons, ih, List.mem_cons, other, false_or]
        split <;> simp

theorem nodup_insertEntry (key : Key) (value : Value) {entries : List (Key × Value)}
    (distinct : (entries.map Prod.fst).Nodup) :
    ((insertEntry key value entries).map Prod.fst).Nodup := by
  rw [keys_insertEntry]
  split
  · exact distinct
  · rename_i fresh
    rw [List.nodup_append]
    refine ⟨distinct, by simp, ?_⟩
    intro old isOld new isNew equal
    simp only [List.mem_singleton] at isNew
    exact fresh (isNew ▸ equal ▸ isOld)

theorem eraseEntry_sublist (key : Key) (entries : List (Key × Value)) :
    (eraseEntry key entries).Sublist entries := by
  induction entries with
  | nil => exact .slnil
  | cons entry rest ih =>
      unfold eraseEntry
      split
      · exact ih.cons entry
      · exact ih.cons_cons entry

theorem nodup_eraseEntry (key : Key) {entries : List (Key × Value)}
    (distinct : (entries.map Prod.fst).Nodup) :
    ((eraseEntry key entries).map Prod.fst).Nodup :=
  List.Nodup.sublist ((eraseEntry_sublist key entries).map _) distinct

def get? (table : Table Key Value) (key : Key) : Option Value :=
  table.entries.lookup key

def contains (table : Table Key Value) (key : Key) : Bool :=
  (table.get? key).isSome

/-- The map with a value at a key.  A key that is there keeps its place. -/
def insert (table : Table Key Value) (key : Key) (value : Value) : Table Key Value :=
  ⟨insertEntry key value table.entries, nodup_insertEntry key value table.distinct⟩

def erase (table : Table Key Value) (key : Key) : Table Key Value :=
  ⟨eraseEntry key table.entries, nodup_eraseEntry key table.distinct⟩

def modify (table : Table Key Value) (key : Key) (change : Value → Value) : Table Key Value :=
  match table.get? key with
  | none => table
  | some value => table.insert key (change value)

def insertAll (table : Table Key Value) (pairs : List (Key × Value)) : Table Key Value :=
  pairs.foldl (fun sofar pair => sofar.insert pair.1 pair.2) table

/-- The map of a list of pairs, of which the last one with a key wins. -/
def ofList (pairs : List (Key × Value)) : Table Key Value :=
  empty.insertAll pairs

/-! ### Laws of look-up -/

@[simp] theorem get?_empty (key : Key) : (empty : Table Key Value).get? key = none := rfl

theorem lookup_insertEntry (key other : Key) (value : Value) (entries : List (Key × Value)) :
    (insertEntry key value entries).lookup other =
      if other = key then some value else entries.lookup other := by
  induction entries with
  | nil =>
      by_cases same : other = key
      · simp [insertEntry, same]
      · have differs : (other == key) = false := by simpa using same
        simp [insertEntry, List.lookup_cons, same, differs]
  | cons entry rest ih =>
      obtain ⟨first, old⟩ := entry
      by_cases atKey : first = key
      · subst atKey
        by_cases same : other = first
        · simp [insertEntry, same]
        · have differs : (other == first) = false := by simpa using same
          simp [insertEntry, List.lookup_cons, same, differs]
      · by_cases same : other = first
        · subst same
          simp [insertEntry, atKey]
        · have differs : (other == first) = false := by simpa using same
          simp only [insertEntry, atKey, if_false, List.lookup_cons, differs, ih]

theorem lookup_eraseEntry (key other : Key) (entries : List (Key × Value)) :
    (eraseEntry key entries).lookup other =
      if other = key then none else entries.lookup other := by
  induction entries with
  | nil => simp [eraseEntry]
  | cons entry rest ih =>
      obtain ⟨first, old⟩ := entry
      by_cases atKey : first = key
      · subst atKey
        by_cases same : other = first
        · subst same
          simpa [eraseEntry] using ih
        · have differs : (other == first) = false := by simpa using same
          simp [eraseEntry, List.lookup_cons, ih, same, differs]
      · by_cases same : other = first
        · subst same
          simp [eraseEntry, atKey]
        · have differs : (other == first) = false := by simpa using same
          simp only [eraseEntry, atKey, if_false, List.lookup_cons, differs, ih]

theorem get?_insert (table : Table Key Value) (key other : Key) (value : Value) :
    (table.insert key value).get? other = if other = key then some value else table.get? other :=
  lookup_insertEntry key other value table.entries

theorem get?_erase (table : Table Key Value) (key other : Key) :
    (table.erase key).get? other = if other = key then none else table.get? other :=
  lookup_eraseEntry key other table.entries

theorem get?_modify (table : Table Key Value) (key other : Key) (change : Value → Value) :
    (table.modify key change).get? other =
      if other = key then (table.get? key).map change else table.get? other := by
  unfold modify
  cases found : table.get? key with
  | none =>
      by_cases same : other = key
      · simp [same, found]
      · simp [same]
  | some value => simp [get?_insert]

end Table

end SpanTrail
