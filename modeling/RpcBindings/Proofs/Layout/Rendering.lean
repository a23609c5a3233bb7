/-
Module: RpcBindings.Proofs.Layout.Rendering
Purpose: The text of a layout, put together from the texts of its parts.
Main exports: Layout.renderAt_cons, Layout.renderAt_append, Layout.intercalate_cons,
  Layout.exists_of_mem_withCommas, Layout.Balanced, Layout.renderAt_append_of_balanced,
  Layout.renderAt_flatten, Layout.renderAt_flatMap, Layout.renderAt_splices, Layout.renderAt_block
-/
import RpcBindings.Layout

namespace RpcBindings.Layout

variable (unit : String)

@[simp] theorem renderAt_nil (level : Nat) : renderAt unit level [] = "" := rfl

theorem renderAt_cons (level : Nat) (step : Step) (rest : List Step) :
    renderAt unit level (step :: rest) =
      step.text unit level ++ renderAt unit (step.levelAfter level) rest := by
  simp [renderAt, String.join_cons]

/-- The text of the second part begins where the first part ends, and at the level reached there. -/
theorem renderAt_append (level : Nat) (first second : List Step) :
    renderAt unit level (first ++ second) =
      renderAt unit level first ++ renderAt unit (levelAfter level first) second := by
  simp [renderAt, pieces_append, String.join_append]

/-- Code that was laid out elsewhere is taken over as it is. -/
@[simp] theorem renderAt_splice (level : Nat) (text : String) :
    renderAt unit level [.splice text] = text := by
  simp [renderAt_cons, Step.text]

/-- Texts with a separator between them: the first one, then each other behind a separator. -/
theorem intercalate_cons (separator first : String) (rest : List String) :
    separator.intercalate (first :: rest) = first ++ String.join (rest.map (separator ++ ·)) := by
  induction rest generalizing first with
  | nil => simp
  | cons next rest inductionHypothesis =>
      rw [String.intercalate_cons_cons, inductionHypothesis, List.map_cons, String.join_cons,
        String.append_assoc, String.append_assoc]

/-- A line with some text is written out behind its indentation. -/
theorem lineAt_eq {level : Nat} {text : String} (some : text ≠ "") :
    lineAt unit level text = indentation unit level ++ text ++ "\n" :=
  if_neg some

@[simp] theorem indentation_zero : indentation unit 0 = "" := rfl

/-! ### Commas -/

/-- There is a comma behind each item but the last. -/
theorem withCommas_eq (items : List String) :
    withCommas items = items.dropLast.map (· ++ ",") ++ items.getLast?.toList := by
  fun_induction withCommas items with
  | case1 => rfl
  | case2 => rfl
  | case3 item next rest inductionHypothesis =>
      rw [inductionHypothesis, List.dropLast_cons_cons, List.map_cons, List.getLast?_cons_cons]
      rfl

theorem exists_of_mem_withCommas {items : List String} {text : String}
    (member : text ∈ withCommas items) : ∃ item ∈ items, text = item ∨ text = item ++ "," := by
  rw [withCommas_eq, List.mem_append] at member
  rcases member with ended | last
  · obtain ⟨item, itemMember, rfl⟩ := List.mem_map.mp ended
    exact ⟨item, (List.dropLast_sublist items).subset itemMember, Or.inr rfl⟩
  · exact ⟨text, List.mem_of_getLast? (Option.mem_toList.mp last), Or.inl rfl⟩

/-! ### Levels -/

/-- Steps that end at the level where they begin, whichever it is. -/
def Balanced (steps : List Step) : Prop :=
  ∀ level, levelAfter level steps = level

theorem balanced_nil : Balanced [] := fun _ => rfl

theorem balanced_singleton {step : Step} (keeps : ∀ level, step.levelAfter level = level) :
    Balanced [step] := keeps

theorem Balanced.append {first second : List Step} (one : Balanced first)
    (two : Balanced second) : Balanced (first ++ second) := by
  intro level
  rw [levelAfter_append, one, two]

theorem Balanced.flatMap {α : Type} {items : List α} {stepsOf : α → List Step}
    (each : ∀ item ∈ items, Balanced (stepsOf item)) : Balanced (items.flatMap stepsOf) := by
  induction items with
  | nil => exact balanced_nil
  | cons item items inductionHypothesis =>
      obtain ⟨first, others⟩ := List.forall_mem_cons.mp each
      rw [List.flatMap_cons]
      exact first.append (inductionHypothesis others)

theorem Balanced.map {α : Type} {items : List α} {stepOf : α → Step}
    (each : ∀ item ∈ items, Balanced [stepOf item]) : Balanced (items.map stepOf) := by
  rw [List.map_eq_flatMap]
  exact Balanced.flatMap each

/-- A block ends where it begins if its body does. -/
theorem Balanced.block {body : List Step} (inner : Balanced body) (header after : String) :
    Balanced (Layout.block header body after) := by
  intro level
  simp only [Layout.block, levelAfter_append, levelAfter_cons, levelAfter_nil, inner _,
    Step.levelAfter, Nat.add_sub_cancel]

/-- Behind steps that keep the level the text goes on at that level. -/
theorem renderAt_append_of_balanced {first : List Step} (balanced : Balanced first)
    (level : Nat) (second : List Step) :
    renderAt unit level (first ++ second) =
      renderAt unit level first ++ renderAt unit level second := by
  rw [renderAt_append, balanced]

/-- Parts that keep the level are written one behind the other. -/
theorem renderAt_flatten {parts : List (List Step)} (balanced : ∀ steps ∈ parts, Balanced steps)
    (level : Nat) :
    renderAt unit level parts.flatten = String.join (parts.map (renderAt unit level)) := by
  induction parts with
  | nil => rfl
  | cons steps parts inductionHypothesis =>
      obtain ⟨first, others⟩ := List.forall_mem_cons.mp balanced
      rw [List.flatten_cons, renderAt_append_of_balanced unit first, inductionHypothesis others,
        List.map_cons, String.join_cons]

theorem renderAt_flatMap {α : Type} {items : List α} {stepsOf : α → List Step}
    (balanced : ∀ item ∈ items, Balanced (stepsOf item)) (level : Nat) :
    renderAt unit level (items.flatMap stepsOf) =
      String.join (items.map fun item => renderAt unit level (stepsOf item)) := by
  have each : ∀ steps ∈ items.map stepsOf, Balanced steps := List.forall_mem_map.mpr balanced
  rw [List.flatMap_def, renderAt_flatten unit each, List.map_map]
  rfl

/-- Pieces of code that were laid out elsewhere stand one behind the other. -/
theorem renderAt_splices (level : Nat) (texts : List String) :
    renderAt unit level (texts.map .splice) = String.join texts := by
  rw [List.map_eq_flatMap, renderAt_flatMap unit fun _ _ => balanced_singleton fun _ => rfl]
  simp

/-- A block is its opening line, its body one level deeper, and its closing line. -/
theorem renderAt_block {body : List Step} (inner : Balanced body) (level : Nat)
    (header after : String) :
    renderAt unit level (block header body after) =
      lineAt unit level (header ++ "\x7b") ++ renderAt unit (level + 1) body ++
        lineAt unit level ("\x7d" ++ after) := by
  rw [block, renderAt_append, renderAt_append]
  simp [renderAt_cons, Step.text, Step.levelAfter, inner _]

end RpcBindings.Layout
