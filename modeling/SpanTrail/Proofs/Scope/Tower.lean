import SpanTrail.Scope

/-! Stacks of scopes as towers.  A tower stands on a stack, which may have holes of
its own, and has one layer for each slot above it.  A layer is open until its scope
is released; the newest layer is always open, because released layers on top are
taken away.  Opening a scope raises the tower, and releasing one lowers it. -/

namespace SpanTrail

/-- A scope whose slot is still on the stack. -/
structure Layer where
  context : Option Context
  isOpen : Bool
  deriving DecidableEq, Repr

/-- The slot of the layer above, which keeps what this layer made current. -/
def Layer.slot (layer : Layer) : Slot :=
  if layer.isOpen then .restore layer.context else .hole

structure Tower where
  layers : List Layer
  newestOpen : ∀ layer ∈ layers.head?, layer.isOpen = true

namespace Tower

/-- The newest layer.  The stack below counts as an open one. -/
def newest (base : ScopeStack) : List Layer → Layer
  | [] => ⟨base.current, true⟩
  | layer :: _ => layer

def slots (base : ScopeStack) : List Layer → List Slot
  | [] => base.slots.toList
  | _ :: rest => slots base rest ++ [(newest base rest).slot]

def openings : List Layer → List (Nat × Option Context)
  | [] => []
  | layer :: rest =>
      if layer.isOpen then (rest.length + 1, layer.context) :: openings rest else openings rest

def closeAt (height : Nat) : List Layer → List Layer
  | [] => []
  | layer :: rest =>
      if rest.length + 1 = height then { layer with isOpen := false } :: rest
      else layer :: closeAt height rest

/-- The layers without the closed ones on top. -/
def uncover (layers : List Layer) : List Layer :=
  layers.dropWhile fun layer => !layer.isOpen

theorem slots_length (base : ScopeStack) (layers : List Layer) :
    (slots base layers).length = base.slots.size + layers.length := by
  induction layers with
  | nil => simp [slots]
  | cons layer rest ih =>
      simp only [slots, List.length_append, ih, List.length_cons, List.length_nil]
      omega

theorem closeAt_length (height : Nat) (layers : List Layer) :
    (closeAt height layers).length = layers.length := by
  induction layers with
  | nil => rfl
  | cons layer rest ih =>
      unfold closeAt
      split
      · rfl
      · simp only [List.length_cons, ih]

theorem uncover_cons_closed {layer : Layer} (closed : layer.isOpen = false) (rest : List Layer) :
    uncover (layer :: rest) = uncover rest := by
  simp [uncover, closed]

theorem uncover_cons_open {layer : Layer} (isOpen : layer.isOpen = true) (rest : List Layer) :
    uncover (layer :: rest) = layer :: rest := by
  simp [uncover, isOpen]

theorem openings_bounds {layers : List Layer} {height : Nat} {context : Option Context}
    (found : (height, context) ∈ openings layers) : 0 < height ∧ height ≤ layers.length := by
  induction layers with
  | nil => cases found
  | cons layer rest ih =>
      unfold openings at found
      rw [List.length_cons]
      split at found
      · rcases List.mem_cons.mp found with here | below
        · cases here
          omega
        · have bounds := ih below
          omega
      · have bounds := ih found
        omega

theorem openings_uncover (layers : List Layer) : openings (uncover layers) = openings layers := by
  induction layers with
  | nil => rfl
  | cons layer rest ih =>
      cases isOpen : layer.isOpen with
      | false =>
          rw [uncover_cons_closed isOpen, ih]
          simp [openings, isOpen]
      | true => rw [uncover_cons_open isOpen]

theorem openings_closeAt (height : Nat) (layers : List Layer) :
    openings (closeAt height layers) =
      (openings layers).filter fun opening => opening.1 ≠ height := by
  induction layers with
  | nil => rfl
  | cons layer rest ih =>
      unfold closeAt
      by_cases atTop : rest.length + 1 = height
      · have untouched : (openings rest).filter (fun opening => opening.1 ≠ height) =
            openings rest := by
          apply List.filter_eq_self.mpr
          intro opening found
          have bounds := openings_bounds found
          simp only [ne_eq, decide_eq_true_eq]
          omega
        rw [if_pos atTop]
        cases isOpen : layer.isOpen with
        | false => simp only [openings, isOpen, Bool.false_eq_true, if_false, untouched]
        | true =>
            simp only [openings, isOpen, Bool.false_eq_true, if_false, if_true]
            rw [List.filter_cons_of_neg (by simp [atTop]), untouched]
      · rw [if_neg atTop]
        cases isOpen : layer.isOpen with
        | false => simp only [openings, isOpen, Bool.false_eq_true, if_false, ih]
        | true =>
            simp only [openings, isOpen, if_true, closeAt_length, ih]
            rw [List.filter_cons_of_pos (by simp [atTop])]

theorem openings_heights (layers : List Layer) :
    (openings layers).Pairwise fun newer older => older.1 < newer.1 := by
  induction layers with
  | nil => exact .nil
  | cons layer rest ih =>
      unfold openings
      split
      · refine ih.cons ?_
        intro opening found
        have bounds := openings_bounds found
        change opening.1 < rest.length + 1
        omega
      · exact ih

def ground : Tower :=
  ⟨[], by simp⟩

def raise (tower : Tower) (context : Option Context) : Tower :=
  ⟨⟨context, true⟩ :: tower.layers, by simp⟩

/-- The tower with the layer at a height closed.  The closed layers on top go. -/
def lower (tower : Tower) (height : Nat) : Tower where
  layers := uncover (closeAt height tower.layers)
  newestOpen := by
    intro layer newest
    have kept := List.head?_dropWhile_not (fun layer : Layer => !layer.isOpen)
      (closeAt height tower.layers)
    unfold uncover at newest
    rw [Option.mem_def.mp newest] at kept
    simpa using kept

theorem openings_lower (tower : Tower) (height : Nat) :
    openings (tower.lower height).layers =
      (openings tower.layers).filter fun opening => opening.1 ≠ height := by
  rw [← openings_closeAt]
  exact openings_uncover _

theorem lower_length_le (tower : Tower) (height : Nat) :
    (tower.lower height).layers.length ≤ tower.layers.length := by
  rw [← closeAt_length height tower.layers]
  exact (List.dropWhile_suffix _).length_le

def stack (base : ScopeStack) (tower : Tower) : ScopeStack :=
  ⟨(newest base tower.layers).context, (slots base tower.layers).toArray⟩

theorem stack_size (base : ScopeStack) (tower : Tower) :
    (stack base tower).slots.size = base.slots.size + tower.layers.length := by
  simp only [stack, List.size_toArray, slots_length]

/-- The layer on top is open, so what it made current is kept by the next one. -/
theorem newest_slot (base : ScopeStack) (tower : Tower) :
    (newest base tower.layers).slot = .restore (stack base tower).current := by
  obtain ⟨layers, newestOpen⟩ := tower
  cases layers with
  | nil => rfl
  | cons layer rest =>
      have isOpen := newestOpen layer rfl
      simp [stack, newest, Layer.slot, isOpen]

theorem layers_eq_nil {tower : Tower} (none : openings tower.layers = []) : tower.layers = [] := by
  obtain ⟨layers, newestOpen⟩ := tower
  cases layers with
  | nil => rfl
  | cons layer rest =>
      have isOpen := newestOpen layer rfl
      simp [openings, isOpen] at none

theorem stack_current (base : ScopeStack) (tower : Tower) :
    (stack base tower).current =
      ((openings tower.layers).head?.map Prod.snd).getD base.current := by
  obtain ⟨layers, newestOpen⟩ := tower
  cases layers with
  | nil => rfl
  | cons layer rest =>
      have isOpen := newestOpen layer rfl
      simp [stack, newest, openings, isOpen]

/-- A layer is on top exactly if it is the newest open one. -/
theorem height_eq_length_iff {tower : Tower} {height : Nat} {context : Option Context}
    (found : (height, context) ∈ openings tower.layers) :
    height = tower.layers.length ↔ (openings tower.layers).head? = some (height, context) := by
  obtain ⟨layers, newestOpen⟩ := tower
  cases layers with
  | nil => cases found
  | cons layer rest =>
      have isOpen := newestOpen layer rfl
      simp only [openings, isOpen, if_true, List.length_cons, List.head?_cons] at found ⊢
      constructor
      · intro atTop
        rcases List.mem_cons.mp found with here | below
        · rw [here]
        · have bounds := openings_bounds below
          omega
      · intro same
        cases same
        rfl

/-! ### Opening and releasing -/

theorem hasRoom_iff (stack : ScopeStack) :
    stack.hasRoom = true ↔ stack.slots.size + 1 < ScopeStack.noPosition := by
  simp only [ScopeStack.hasRoom, decide_eq_true_eq]

theorem push_stack (base : ScopeStack) (tower : Tower) (context : Option Context)
    (room : (stack base tower).hasRoom = true) :
    (stack base tower).push context =
      (stack base (tower.raise context), base.slots.size + tower.layers.length + 1) := by
  unfold ScopeStack.push
  rw [if_pos room, stack_size, ← newest_slot]
  simp [stack, raise, newest, slots]

theorem pop_hole (current : Option Context) (slots : List Slot) :
    ScopeStack.pop ⟨current, (slots ++ [Slot.hole]).toArray⟩ =
      ScopeStack.pop ⟨current, slots.toArray⟩ := by
  simp [ScopeStack.pop, List.dropWhile_cons, Slot.isHole]

theorem pop_restore (current previous : Option Context) (slots : List Slot) :
    ScopeStack.pop ⟨current, (slots ++ [Slot.restore previous]).toArray⟩ =
      ⟨previous, slots.toArray⟩ := by
  simp [ScopeStack.pop, Slot.isHole]

theorem pop_slots (base : ScopeStack) (current : Option Context) (layers : List Layer) :
    ScopeStack.pop ⟨current, (slots base layers ++ [(newest base layers).slot]).toArray⟩ =
      ⟨(newest base (uncover layers)).context, (slots base (uncover layers)).toArray⟩ := by
  induction layers with
  | nil => exact pop_restore current base.current base.slots.toList
  | cons layer rest ih =>
      cases isOpen : layer.isOpen with
      | false =>
          have gap : layer.slot = .hole := by simp [Layer.slot, isOpen]
          rw [uncover_cons_closed isOpen]
          change ScopeStack.pop ⟨current, (slots base (layer :: rest) ++ [layer.slot]).toArray⟩ = _
          rw [gap, pop_hole]
          exact ih
      | true =>
          have kept : layer.slot = .restore layer.context := by simp [Layer.slot, isOpen]
          rw [uncover_cons_open isOpen]
          change ScopeStack.pop ⟨current, (slots base (layer :: rest) ++ [layer.slot]).toArray⟩ = _
          rw [kept]
          exact pop_restore current layer.context (slots base (layer :: rest))

/-- Closing a layer that is not on top leaves the one on top as it is. -/
theorem newest_closeAt {base : ScopeStack} {layers : List Layer} {height : Nat}
    (inner : height < layers.length) :
    newest base (closeAt height layers) = newest base layers := by
  cases layers with
  | nil => rfl
  | cons layer rest =>
      have below : rest.length + 1 ≠ height := by
        rw [List.length_cons] at inner
        omega
      simp only [closeAt, if_neg below, newest]

/-- Closing a layer that is not on top makes a hole of the slot above it. -/
theorem slots_closeAt {base : ScopeStack} {layers : List Layer} {height : Nat}
    (positive : 0 < height) (inner : height < layers.length) :
    slots base (closeAt height layers) =
      (slots base layers).set (base.slots.size + height) .hole := by
  induction layers with
  | nil => cases inner
  | cons layer rest ih =>
      rw [List.length_cons] at inner
      have below : rest.length + 1 ≠ height := by omega
      simp only [closeAt, if_neg below, slots]
      by_cases under : height = rest.length
      · cases rest with
        | nil =>
            rw [List.length_nil] at under
            omega
        | cons next others =>
            have sameSlots : slots base (closeAt height (next :: others)) =
                slots base (next :: others) := by
              simp only [closeAt, slots, under, List.length_cons, if_true]
            have gap : (newest base (closeAt height (next :: others))).slot = .hole := by
              simp [closeAt, newest, under, Layer.slot]
            have last : base.slots.size + height =
                (slots base (next :: others)).length := by
              rw [slots_length, under]
            rw [sameSlots, gap, last, List.set_append_right _ _ (Nat.le_refl _)]
            simp
      · have deeper : height < rest.length := by omega
        have within : base.slots.size + height < (slots base rest).length := by
          rw [slots_length]
          omega
        rw [ih deeper, newest_closeAt deeper, List.set_append_left _ _ within]

theorem release_top {base : ScopeStack} {tower : Tower} {height : Nat}
    (positive : 0 < height) (atTop : height = tower.layers.length) :
    (stack base tower).pop = stack base (tower.lower height) := by
  obtain ⟨layers, newestOpen⟩ := tower
  cases layers with
  | nil =>
      rw [List.length_nil] at atTop
      omega
  | cons layer rest =>
      have lowered : uncover (closeAt height (layer :: rest)) = uncover rest := by
        simp only [closeAt, atTop, List.length_cons, if_true]
        exact uncover_cons_closed rfl rest
      simp only [stack, lower, lowered, slots]
      exact pop_slots base layer.context rest

theorem release_inner {base : ScopeStack} {tower : Tower} {height : Nat}
    (positive : 0 < height) (inner : height < tower.layers.length) :
    (⟨(stack base tower).current,
        (stack base tower).slots.setIfInBounds (base.slots.size + height) .hole⟩ : ScopeStack) =
      stack base (tower.lower height) := by
  obtain ⟨layers, newestOpen⟩ := tower
  cases layers with
  | nil => cases inner
  | cons layer rest =>
      have isOpen : layer.isOpen = true := newestOpen layer rfl
      have below : rest.length + 1 ≠ height := by
        rw [List.length_cons] at inner
        omega
      have kept : uncover (closeAt height (layer :: rest)) = closeAt height (layer :: rest) := by
        simp only [closeAt, if_neg below]
        exact uncover_cons_open isOpen _
      simp only [stack, lower, kept, newest_closeAt inner, slots_closeAt positive inner,
        List.setIfInBounds_toArray]

/-- Releasing an open layer lowers the tower.  It is in order exactly if the layer is
on top; otherwise the slot that becomes a hole is there. -/
theorem release_stack {base : ScopeStack} {tower : Tower} {height : Nat}
    {context : Option Context} (found : (height, context) ∈ openings tower.layers)
    (fits : base.slots.size + tower.layers.length < ScopeStack.noPosition) :
    (stack base tower).release (base.slots.size + height) =
      (stack base (tower.lower height),
        if height = tower.layers.length then .inOrder else .outOfOrder) := by
  obtain ⟨positive, bounded⟩ := openings_bounds found
  have valid : ¬(base.slots.size + height = 0 ∨
      base.slots.size + height = ScopeStack.noPosition ∨
      base.slots.size + tower.layers.length < base.slots.size + height) := by
    omega
  unfold ScopeStack.release
  simp only [stack_size, if_neg valid, Nat.add_left_cancel_iff]
  by_cases atTop : height = tower.layers.length
  · rw [if_pos atTop, if_pos atTop, release_top positive atTop]
  · have inner : height < tower.layers.length := by omega
    rw [if_neg atTop, if_neg atTop, release_inner positive inner]

end Tower

end SpanTrail
