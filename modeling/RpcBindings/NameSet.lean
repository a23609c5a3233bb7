/-
Module: RpcBindings.NameSet
Purpose: Sets of names that remember the order in which names were first given.
Main exports: NameSet, NameSet.insert, NameSet.insertNew, NameSet.insertAll, NameSet.ofList,
  distinct
-/

namespace RpcBindings

/-- Names without repetition, in the order of their first occurrence. -/
structure NameSet where
  toList : List String := []
deriving Repr, Inhabited, DecidableEq

namespace NameSet

def empty : NameSet := {}

def contains (set : NameSet) (name : String) : Bool :=
  set.toList.contains name

/-- Add a name at the end, unless the set has it. -/
def insert (set : NameSet) (name : String) : NameSet :=
  if set.contains name then set else ⟨set.toList ++ [name]⟩

/-- Add a name, and tell whether the set did not have it before. -/
def insertNew (set : NameSet) (name : String) : Bool × NameSet :=
  (!set.contains name, set.insert name)

/-- Add several names, from left to right. -/
def insertAll (set : NameSet) (names : List String) : NameSet :=
  names.foldl insert set

def ofList (names : List String) : NameSet :=
  empty.insertAll names

def size (set : NameSet) : Nat :=
  set.toList.length

def isEmpty (set : NameSet) : Bool :=
  set.toList.isEmpty

def joined (set : NameSet) (separator : String) : String :=
  separator.intercalate set.toList

@[simp] theorem toList_empty : empty.toList = [] := rfl

@[simp] theorem insertAll_nil (set : NameSet) : set.insertAll [] = set := rfl

@[simp] theorem insertAll_cons (set : NameSet) (name : String) (names : List String) :
    set.insertAll (name :: names) = (set.insert name).insertAll names := rfl

theorem insertAll_append (set : NameSet) (first second : List String) :
    set.insertAll (first ++ second) = (set.insertAll first).insertAll second := by
  simp [insertAll]

/-- Inserting a name adds it and removes none. -/
theorem mem_toList_insert {set : NameSet} {name other : String} :
    other ∈ (set.insert name).toList ↔ other ∈ set.toList ∨ other = name := by
  unfold insert
  split
  · next known =>
    have member : name ∈ set.toList := by simpa [contains] using known
    constructor
    · exact Or.inl
    · intro found
      rcases found with old | rfl
      · exact old
      · exact member
  · simp

theorem mem_toList_insertAll {set : NameSet} {names : List String} {other : String} :
    other ∈ (set.insertAll names).toList ↔ other ∈ set.toList ∨ other ∈ names := by
  induction names generalizing set with
  | nil => simp
  | cons name names inductionHypothesis =>
      rw [insertAll_cons, inductionHypothesis, mem_toList_insert, List.mem_cons, or_assoc]

/-- A set has the names from which it is made. -/
theorem mem_toList_ofList {names : List String} {other : String} :
    other ∈ (ofList names).toList ↔ other ∈ names := by
  rw [ofList, mem_toList_insertAll, toList_empty]
  simp

/-- No operation makes a name occur twice. -/
theorem nodup_toList_insert {set : NameSet} (distinct : set.toList.Nodup) (name : String) :
    (set.insert name).toList.Nodup := by
  unfold insert
  split
  · exact distinct
  · next unknown =>
    have absent : name ∉ set.toList := by simpa [contains] using unknown
    refine List.nodup_append.mpr ⟨distinct, by simp, ?_⟩
    intro old oldMember new newMember equality
    rw [List.mem_singleton] at newMember
    subst newMember
    subst equality
    exact absent oldMember

theorem nodup_toList_insertAll {set : NameSet} (distinct : set.toList.Nodup)
    (names : List String) : (set.insertAll names).toList.Nodup := by
  induction names generalizing set with
  | nil => exact distinct
  | cons name names inductionHypothesis =>
      exact inductionHypothesis (nodup_toList_insert distinct name)

theorem nodup_toList_ofList (names : List String) : (ofList names).toList.Nodup :=
  nodup_toList_insertAll List.nodup_nil names

end NameSet

/-- The names of a list without repetition, each where it first occurs. -/
def distinct (names : List String) : List String :=
  names.eraseDups

end RpcBindings
