/-
Module: RpcBindings.Proofs.Traversal
Purpose: Traversals that may fail: they end with the first error that they meet.
Main exports: bind_eq_ok_iff, bind_eq_error_iff, mapError_eq_ok_iff, mapError_eq_error_iff,
  foldlM_eq_error_iff, mapM_eq_ok_iff, mapM_eq_error_iff, exists_mapM_eq_ok_iff, mapM_congr,
  mapM_map_eq_map_mapError, mapM_map_eq_mapError, map_eq_map_of_forall₂, exists_of_mem_results
-/
import Mathlib.Data.List.Forall2

namespace RpcBindings.Traversal

variable {ε α β : Type}

/-- Two steps succeed when the first does and the second does with its result. -/
theorem bind_eq_ok_iff {first : Except ε α} {second : α → Except ε β} {result : β} :
    (first >>= second) = .ok result ↔ ∃ value, first = .ok value ∧ second value = .ok result := by
  cases first with
  | error error => simp [bind, Except.bind]
  | ok value => simp [bind, Except.bind]

/-- Two steps fail when the first does, or when the second does with the first one's result. -/
theorem bind_eq_error_iff {first : Except ε α} {second : α → Except ε β} {error : ε} :
    (first >>= second) = .error error ↔
      first = .error error ∨ ∃ value, first = .ok value ∧ second value = .error error := by
  cases first with
  | error other => simp [bind, Except.bind]
  | ok value => simp [bind, Except.bind]

theorem mapError_eq_ok_iff {ε' : Type} {outcome : Except ε α} {reword : ε → ε'} {value : α} :
    outcome.mapError reword = .ok value ↔ outcome = .ok value := by
  cases outcome with
  | error error => simp [Except.mapError]
  | ok found => simp [Except.mapError]

theorem mapError_eq_error_iff {ε' : Type} {outcome : Except ε α} {reword : ε → ε'} {error : ε'} :
    outcome.mapError reword = .error error ↔
      ∃ cause, outcome = .error cause ∧ error = reword cause := by
  cases outcome with
  | error cause => simp [Except.mapError, eq_comm]
  | ok found => simp [Except.mapError]

/-- A fold fails at the first item whose step fails from what was reached before it. -/
theorem foldlM_eq_error_iff {step : β → α → Except ε β} {items : List α} {start : β} {error : ε} :
    items.foldlM step start = .error error ↔
      ∃ before item after reached, items = before ++ item :: after ∧
        before.foldlM step start = .ok reached ∧ step reached item = .error error := by
  induction items generalizing start with
  | nil => simp [pure, Except.pure]
  | cons first rest inductionHypothesis =>
      rw [List.foldlM_cons, bind_eq_error_iff]
      constructor
      · intro failure
        rcases failure with fails | ⟨next, steps, fails⟩
        · exact ⟨[], first, rest, start, rfl, rfl, fails⟩
        · obtain ⟨before, item, after, reached, rfl, folds, itemFails⟩ :=
            inductionHypothesis.mp fails
          refine ⟨first :: before, item, after, reached, rfl, ?_, itemFails⟩
          rw [List.foldlM_cons]
          exact bind_eq_ok_iff.mpr ⟨next, steps, folds⟩
      · intro split
        rcases split with ⟨before, item, after, reached, split, folds, fails⟩
        cases before with
        | nil =>
            obtain ⟨rfl, rfl⟩ := List.cons.inj split
            have same : start = reached := by simpa [pure, Except.pure] using folds
            subst same
            exact Or.inl fails
        | cons head before =>
            obtain ⟨rfl, rfl⟩ := List.cons.inj split
            rw [List.foldlM_cons] at folds
            obtain ⟨next, steps, folds⟩ := bind_eq_ok_iff.mp folds
            exact Or.inr ⟨next, steps,
              inductionHypothesis.mpr ⟨before, item, after, reached, rfl, folds, fails⟩⟩

/-- A traversal succeeds when each item does; its results are those of the items, in order. -/
theorem mapM_eq_ok_iff {f : α → Except ε β} {items : List α} {results : List β} :
    items.mapM f = .ok results ↔
      List.Forall₂ (fun item result => f item = .ok result) items results := by
  induction items generalizing results with
  | nil => simp [pure, Except.pure, eq_comm]
  | cons first rest inductionHypothesis =>
      rw [List.mapM_cons, bind_eq_ok_iff, List.forall₂_cons_left_iff]
      constructor
      · intro success
        rcases success with ⟨result, maps, mapsRest⟩
        obtain ⟨others, restMaps, same⟩ := bind_eq_ok_iff.mp mapsRest
        cases same
        exact ⟨result, others, maps, inductionHypothesis.mp restMaps, rfl⟩
      · intro pointwise
        rcases pointwise with ⟨result, others, maps, restMaps, rfl⟩
        exact ⟨result, maps, bind_eq_ok_iff.mpr ⟨others, inductionHypothesis.mpr restMaps, rfl⟩⟩

/-- A traversal fails at the first item that fails. -/
theorem mapM_eq_error_iff {f : α → Except ε β} {items : List α} {error : ε} :
    items.mapM f = .error error ↔
      ∃ before item after, items = before ++ item :: after ∧
        (∀ earlier ∈ before, ∃ result, f earlier = .ok result) ∧ f item = .error error := by
  induction items with
  | nil => simp [pure, Except.pure]
  | cons first rest inductionHypothesis =>
      rw [List.mapM_cons, bind_eq_error_iff]
      constructor
      · intro failure
        rcases failure with fails | ⟨result, maps, fails⟩
        · exact ⟨[], first, rest, rfl, by simp, fails⟩
        · rcases bind_eq_error_iff.mp fails with restFails | ⟨_, _, impossible⟩
          · obtain ⟨before, item, after, rfl, succeed, itemFails⟩ :=
              inductionHypothesis.mp restFails
            refine ⟨first :: before, item, after, rfl, ?_, itemFails⟩
            intro earlier member
            rcases List.mem_cons.mp member with rfl | later
            · exact ⟨result, maps⟩
            · exact succeed earlier later
          · cases impossible
      · intro split
        rcases split with ⟨before, item, after, split, succeed, fails⟩
        cases before with
        | nil =>
            obtain ⟨rfl, rfl⟩ := List.cons.inj split
            exact Or.inl fails
        | cons head before =>
            obtain ⟨rfl, rfl⟩ := List.cons.inj split
            obtain ⟨result, maps⟩ := succeed first (List.mem_cons_self ..)
            have restFails := inductionHypothesis.mpr ⟨before, item, after, rfl,
              fun earlier member => succeed earlier (List.mem_cons_of_mem _ member), fails⟩
            exact Or.inr ⟨result, maps, bind_eq_error_iff.mpr (Or.inl restFails)⟩

/-- A traversal succeeds for some results when every item succeeds. -/
theorem exists_mapM_eq_ok_iff {f : α → Except ε β} {items : List α} :
    (∃ results, items.mapM f = .ok results) ↔ ∀ item ∈ items, ∃ result, f item = .ok result := by
  constructor
  · intro success
    rcases success with ⟨results, maps⟩
    have pointwise := mapM_eq_ok_iff.mp maps
    clear maps
    induction pointwise with
    | nil => simp
    | cons first _ inductionHypothesis =>
        exact List.forall_mem_cons.mpr ⟨⟨_, first⟩, inductionHypothesis⟩
  · intro succeed
    cases outcome : items.mapM f with
    | ok results => exact ⟨results, rfl⟩
    | error error =>
        obtain ⟨before, item, after, rfl, -, fails⟩ := mapM_eq_error_iff.mp outcome
        obtain ⟨result, maps⟩ := succeed item (by simp)
        rw [fails] at maps
        cases maps

/-- Traversals that take the same steps have the same outcome. -/
theorem mapM_congr {f g : α → Except ε β} {items : List α}
    (same : ∀ item ∈ items, f item = g item) :
    items.mapM f = items.mapM g := by
  induction items with
  | nil => rfl
  | cons first rest inductionHypothesis =>
      obtain ⟨sameFirst, sameRest⟩ := List.forall_mem_cons.mp same
      rw [List.mapM_cons, List.mapM_cons, sameFirst, inductionHypothesis sameRest]

/-- A traversal of other items that takes the same steps, up to a view of their results and a
rewording of their errors, has the same outcome up to these. -/
theorem mapM_map_eq_map_mapError {γ δ ε' : Type} {f : α → Except ε β} {g : γ → Except ε' δ}
    {view : α → γ} {resultView : β → δ} {reword : ε → ε'} {items : List α}
    (same : ∀ item ∈ items, g (view item) = ((f item).map resultView).mapError reword) :
    (items.map view).mapM g = ((items.mapM f).map (List.map resultView)).mapError reword := by
  induction items with
  | nil => rfl
  | cons first rest inductionHypothesis =>
      obtain ⟨sameFirst, sameRest⟩ := List.forall_mem_cons.mp same
      rw [List.map_cons, List.mapM_cons, List.mapM_cons, sameFirst, inductionHypothesis sameRest]
      cases f first with
      | error error => rfl
      | ok result =>
          cases rest.mapM f with
          | error error => rfl
          | ok results => rfl

/-- A traversal of other items that takes the same steps up to a rewording of their errors has the
same outcome up to that rewording. -/
theorem mapM_map_eq_mapError {γ ε' : Type} {f : α → Except ε β} {g : γ → Except ε' β}
    {view : α → γ} {reword : ε → ε'} {items : List α}
    (same : ∀ item ∈ items, g (view item) = (f item).mapError reword) :
    (items.map view).mapM g = (items.mapM f).mapError reword := by
  have mapped : (items.map view).mapM g =
      ((items.mapM f).map (List.map id)).mapError reword :=
    mapM_map_eq_map_mapError fun item member => by rw [same item member, Except.map_id, id]
  rw [mapped, List.map_id_fun, Except.map_id, id]

theorem mapError_id (outcome : Except ε α) : outcome.mapError id = outcome := by
  cases outcome with
  | error error => rfl
  | ok value => rfl

/-- Lists whose items agree place by place under two views are one list under these views. -/
theorem map_eq_map_of_forall₂ {γ : Type} {view : α → γ} {otherView : β → γ} {items : List α}
    {others : List β}
    (agree : List.Forall₂ (fun item other => view item = otherView other) items others) :
    items.map view = others.map otherView := by
  induction agree with
  | nil => rfl
  | cons first _ inductionHypothesis =>
      rw [List.map_cons, List.map_cons, first, inductionHypothesis]

/-- Every result of a traversal is the result of some item. -/
theorem exists_of_mem_results {related : α → β → Prop} {items : List α} {results : List β}
    (all : List.Forall₂ related items results) {result : β} (member : result ∈ results) :
    ∃ item ∈ items, related item result := by
  induction all with
  | nil => cases member
  | @cons first firstResult items results firstRelated _ inductionHypothesis =>
      rcases List.mem_cons.mp member with rfl | later
      · exact ⟨first, List.mem_cons_self, firstRelated⟩
      · obtain ⟨item, itemMember, itemRelated⟩ := inductionHypothesis later
        exact ⟨item, List.mem_cons_of_mem _ itemMember, itemRelated⟩

end RpcBindings.Traversal
