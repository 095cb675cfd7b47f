
/-! Lists that stand for something else: held things that are taken out by a mark, pairs
that are looked up by their first parts, and parts that are joined by a separator. -/

namespace SpanTrail.Lists

variable {Key Value : Type}

/-- What is found first is taken out, and everything around it stays. -/
theorem exists_of_find? {list : List Value} {mark : Value → Bool} {found : Value}
    (isFound : list.find? mark = some found) :
    ∃ front back, list = front ++ found :: back ∧ list.eraseP mark = front ++ back := by
  obtain ⟨marked, front, back, parts, unmarked⟩ := List.find?_eq_some_iff_append.mp isFound
  refine ⟨front, back, parts, ?_⟩
  have notInFront : ∀ other ∈ front, ¬mark other = true := by
    intro other member
    simpa using unmarked other member
  rw [parts, List.eraseP_append_right _ notInFront]
  simp only [List.eraseP_cons, marked, cond_true]

theorem mem_around {member middle : Value} {front back : List Value} :
    member ∈ front ++ middle :: back ↔ member = middle ∨ member ∈ front ++ back :=
  List.perm_middle.mem_iff.trans List.mem_cons

theorem mem_intercalate {separator character : Char} {parts : List (List Char)}
    (member : character ∈ [separator].intercalate parts) :
    character = separator ∨ ∃ part ∈ parts, character ∈ part := by
  induction parts with
  | nil => cases member
  | cons first rest ih =>
      cases rest with
      | nil =>
          rw [List.intercalate_singleton] at member
          exact .inr ⟨first, List.mem_cons_self, member⟩
      | cons second rest =>
          rw [List.intercalate_cons_cons, List.mem_append, List.mem_append] at member
          rcases member with (inFirst | isSeparator) | later
          · exact .inr ⟨first, List.mem_cons_self, inFirst⟩
          · exact .inl (List.mem_singleton.mp isSeparator)
          · rcases ih later with isSeparator | ⟨part, isPart, inPart⟩
            · exact .inl isSeparator
            · exact .inr ⟨part, List.mem_cons_of_mem _ isPart, inPart⟩

/-- What a list is mapped to, read off place by place. -/
theorem filterMap_eq_range {Result : Type} (list : List Value) (map : Value → Option Result) :
    list.filterMap map = (List.range list.length).filterMap fun index => list[index]?.bind map := by
  induction list with
  | nil => rfl
  | cons first rest ih =>
      rw [List.length_cons, List.range_succ_eq_map, List.filterMap_cons, List.filterMap_cons,
        List.filterMap_map, ih]
      rfl

theorem getElem?_concat (list : List Value) (last : Value) (index : Nat) :
    (list ++ [last])[index]? = if index = list.length then some last else list[index]? := by
  rw [List.getElem?_append]
  rcases Nat.lt_trichotomy index list.length with inside | isLast | beyond
  · rw [if_pos inside, if_neg (Nat.ne_of_lt inside)]
  · rw [if_neg (by omega), if_pos isLast, isLast, Nat.sub_self]
    rfl
  · rw [if_neg (by omega), if_neg (by omega), List.getElem?_eq_none_iff.mpr (Nat.le_of_lt beyond)]
    exact List.getElem?_eq_none_iff.mpr (by rw [List.length_singleton]; omega)

theorem getElem?_set_of_some {list : List Value} {index : Nat} {old : Value}
    (found : list[index]? = some old) (new : Value) (other : Nat) :
    (list.set index new)[other]? = if other = index then some new else list[other]? := by
  obtain ⟨inside, _⟩ := List.getElem?_eq_some_iff.mp found
  rw [List.getElem?_set, if_pos inside]
  simp only [eq_comm]

theorem filterMap_optional {Made Result : Type} (value : Option Value) (make : Value → Made)
    (read : Made → Option Result) :
    (value.map make).toList.filterMap read =
      (value.bind fun known => read (make known)).toList := by
  cases value with
  | none => rfl
  | some known =>
      simp only [Option.map_some, Option.toList_some, Option.bind_some, List.filterMap_cons,
        List.filterMap_nil]
      cases read (make known) <;> rfl

theorem getLast?_toList (value : Option Value) : value.toList.getLast? = value := by
  cases value <;> rfl

variable [DecidableEq Key] {pairs : List (Key × Value)}

theorem lookup_of_mem {pair : Key × Value} (distinct : (pairs.map Prod.fst).Nodup)
    (member : pair ∈ pairs) : pairs.lookup pair.1 = some pair.2 := by
  induction pairs with
  | nil => cases member
  | cons first rest ih =>
      rw [List.map_cons, List.nodup_cons] at distinct
      rcases List.mem_cons.mp member with isFirst | inRest
      · rw [isFirst, List.lookup_cons_self]
      · have differs : (pair.1 == first.1) = false := by
          rw [beq_eq_false_iff_ne]
          intro same
          exact distinct.1 (List.mem_map.mpr ⟨pair, inRest, same⟩)
        rw [List.lookup_cons, differs]
        exact ih distinct.2 inRest

theorem lookup_reverse (distinct : (pairs.map Prod.fst).Nodup) (key : Key) :
    pairs.reverse.lookup key = pairs.lookup key := by
  induction pairs with
  | nil => rfl
  | cons pair rest ih =>
      obtain ⟨first, value⟩ := pair
      rw [List.map_cons, List.nodup_cons] at distinct
      rw [List.reverse_cons, List.lookup_append, ih distinct.2, List.lookup_cons, List.lookup_cons]
      by_cases same : key = first
      · have absent : rest.lookup key = none := by
          rw [List.lookup_eq_none_iff]
          intro pair member
          rw [bne_iff_ne, same]
          intro equal
          exact distinct.1 (List.mem_map.mpr ⟨pair, member, equal.symm⟩)
        rw [absent, same, beq_self_eq_true]
        rfl
      · rw [beq_eq_false_iff_ne.mpr same]
        exact Option.or_none

end SpanTrail.Lists
