/-
Module: RpcBindings.Proofs.Table
Purpose: Lists that are searched by a key.
Main exports: find?_of_mem, lookup_of_mem, mem_of_lookup, lookup_cons, lookup_reverse_flatMap,
  filter_of_lookup
-/
import Mathlib.Data.List.Nodup

namespace RpcBindings.Table

variable {α : Type}

/-- Where no key occurs twice, the search for a key finds its item. -/
theorem find?_of_mem {key : α → String} {items : List α} {item : α}
    (keys : (items.map key).Nodup) (member : item ∈ items) :
    items.find? (fun other => key other == key item) = some item := by
  obtain ⟨before, after, rfl⟩ := List.append_of_mem member
  refine List.find?_eq_some_iff_append.mpr ⟨by simp, before, after, rfl, ?_⟩
  intro other earlier
  rw [List.map_append, List.map_cons, List.nodup_append] at keys
  have different : key other ≠ key item :=
    keys.2.2 _ (List.mem_map_of_mem earlier) (key item) (List.mem_cons_self ..)
  simpa using different

/-- Where no key occurs twice, each entry is found under its key. -/
theorem lookup_of_mem {entries : List (String × α)} {key : String} {value : α}
    (keys : (entries.map Prod.fst).Nodup) (member : (key, value) ∈ entries) :
    entries.lookup key = some value := by
  obtain ⟨before, after, rfl⟩ := List.append_of_mem member
  refine List.lookup_eq_some_iff.mpr ⟨before, after, rfl, ?_⟩
  intro entry earlier
  rw [List.map_append, List.map_cons, List.nodup_append] at keys
  rw [bne_iff_ne]
  exact (keys.2.2 _ (List.mem_map_of_mem earlier) key (List.mem_cons_self ..)).symm

/-- What is found under a key is an entry of the table. -/
theorem mem_of_lookup {κ : Type} [BEq κ] [LawfulBEq κ] {entries : List (κ × α)} {key : κ}
    {value : α} (found : entries.lookup key = some value) : (key, value) ∈ entries := by
  obtain ⟨before, after, rfl, -⟩ := List.lookup_eq_some_iff.mp found
  simp

/-- The first entry is found under its key and hides what is filed there later. -/
theorem lookup_cons (key other : String) (value : α) (entries : List (String × α)) :
    ((key, value) :: entries).lookup other =
      if other = key then some value else entries.lookup other := by
  rw [List.lookup_cons]
  by_cases same : other = key
  · rw [beq_iff_eq.mpr same, if_pos same]
  · rw [beq_eq_false_iff_ne.mpr same, if_neg same]

/-- Where no key occurs twice, there is one entry under each key that is found. -/
theorem filter_of_lookup {entries : List (String × α)} {key : String} {value : α}
    (keys : (entries.map Prod.fst).Nodup) (found : entries.lookup key = some value) :
    (entries.filter fun entry => entry.1 == key) = [(key, value)] := by
  obtain ⟨before, after, rfl, -⟩ := List.lookup_eq_some_iff.mp found
  rw [List.map_append, List.map_cons, List.nodup_append, List.nodup_cons] at keys
  obtain ⟨-, ⟨later, -⟩, earlier⟩ := keys
  have noneBefore : (before.filter fun entry => entry.1 == key) = [] := by
    refine List.filter_eq_nil_iff.mpr fun entry member => ?_
    simpa using earlier _ (List.mem_map_of_mem member) key (List.mem_cons_self ..)
  have noneAfter : (after.filter fun entry => entry.1 == key) = [] := by
    refine List.filter_eq_nil_iff.mpr fun entry member same => ?_
    exact later (List.mem_map.mpr ⟨entry, member, beq_iff_eq.mp same⟩)
  rw [List.filter_append, List.filter_cons_of_pos (by simp), noneBefore, noneAfter,
    List.nil_append]

/-- A table of all entries of some items has those of one item under a key that no other item
uses. -/
theorem lookup_reverse_flatMap {β : Type} {items : List β}
    {entriesOf : β → List (String × α)} {key : String} {item : β} (member : item ∈ items)
    (alone : ∀ other ∈ items, other ≠ item → ∀ entry ∈ entriesOf other, entry.1 ≠ key) :
    (items.flatMap entriesOf).reverse.lookup key = (entriesOf item).reverse.lookup key := by
  have absent (others : List β)
      (free : ∀ other ∈ others, ∀ entry ∈ entriesOf other, entry.1 ≠ key) :
      (others.flatMap entriesOf).reverse.lookup key = none := by
    rw [List.lookup_eq_none_iff]
    intro entry listed
    obtain ⟨other, otherMember, inside⟩ := List.mem_flatMap.mp (List.mem_reverse.mp listed)
    simpa using (free other otherMember entry inside).symm
  induction items with
  | nil => cases member
  | cons first rest inductionHypothesis =>
      obtain ⟨firstAlone, restAlone⟩ := List.forall_mem_cons.mp alone
      rw [List.flatMap_cons, List.reverse_append, List.lookup_append]
      by_cases later : item ∈ rest
      · rw [inductionHypothesis later restAlone]
        by_cases same : first = item
        · rw [same, Option.or_self]
        · have free := absent [first] (List.forall_mem_singleton.mpr (firstAlone same))
          rw [List.flatMap_singleton] at free
          rw [free, Option.or_none]
      · obtain rfl : item = first := (List.mem_cons.mp member).resolve_right later
        have free := absent rest fun other otherMember =>
          restAlone other otherMember (ne_of_mem_of_not_mem otherMember later)
        rw [free, Option.none_or]

end RpcBindings.Table
