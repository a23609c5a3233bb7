/-
Module: RpcBindings.Proofs.TypeImports.Collection
Purpose: What the imports for some types bind: roots of packages, and names of single types.
Main exports: Location.root, TypeImports.locations, TypeImports.BindsRoots, TypeImports.TakesNames,
  TypeImports.ofRefs_eq, TypeImports.collects_ofLocations
-/
import Mathlib.Data.List.Induction
import Mathlib.Data.List.Nodup
import RpcBindings.Proofs.Table
import RpcBindings.Target.TypeImports

namespace RpcBindings

/-!
Imports are collected one type after the other.  A type either binds the root of its package, unless
a type before it has done so, or puts a name into the group of its module.  Two invariants say what
is bound after any list of types; one more type keeps each of them.
-/

/-- The first segment of the package in which a type is declared. -/
def Location.root (location : Location) : String :=
  TypeImports.firstSegment location.file.package

/-- A type with a package, by whose root it is reached. -/
def Location.isRooted (location : Location) : Bool :=
  location.root != ""

namespace TypeImports

/-- The located types among some references that are wanted, in order. -/
def locations (registry : Registry) (wanted : File → Bool) (refs : List String) :
    List Location :=
  refs.filterMap fun ref =>
    match registry.locate ref with
    | .ok location => if wanted location.file then some location else none
    | .error _ => none

/-- The roots that some types bind: each once, to the module of the first type that has it. -/
structure BindsRoots (moduleOf : File → String) (locations : List Location)
    (namespaces : List (String × String)) : Prop where
  keys : (namespaces.map Prod.fst).Nodup
  lookup : ∀ root, namespaces.lookup root =
    (locations.find? fun location => location.isRooted && location.root == root).map
      fun location => moduleOf location.file

/-- The names that are taken from each module: the first segments of the types that it declares
without a package, each once. -/
structure TakesNames (moduleOf : File → String) (locations : List Location)
    (named : List (String × NameSet)) : Prop where
  keys : (named.map Prod.fst).Nodup
  distinct : ∀ module names, named.lookup module = some names →
    names.toList ≠ [] ∧ names.toList.Nodup
  taken : ∀ module name,
    (∃ names, named.lookup module = some names ∧ name ∈ names.toList) ↔
      ∃ location ∈ locations, location.isRooted = false ∧ moduleOf location.file = module ∧
        firstSegment location.localName = name

theorem exists_mem_append_singleton {holds : Location → Prop} {locations : List Location}
    {location : Location} :
    (∃ other ∈ locations ++ [location], holds other) ↔
      (∃ other ∈ locations, holds other) ∨ holds location := by
  simp [or_and_right, exists_or]

/-! ### Roots -/

section Roots

variable {moduleOf : File → String} {locations : List Location}
  {namespaces : List (String × String)}

/-- No root is bound by no type. -/
theorem bindsRoots_nil : BindsRoots moduleOf [] [] :=
  ⟨List.nodup_nil, fun _ => rfl⟩

/-- The first module that is given for a root stays with it. -/
theorem lookup_bindRoot (root module other : String) :
    (bindRoot namespaces root module).lookup other =
      (namespaces.lookup other).or (if other = root then some module else none) := by
  unfold bindRoot
  by_cases same : other = root
  · subst same
    by_cases bound : (namespaces.lookup other).isSome
    · obtain ⟨before, found⟩ := Option.isSome_iff_exists.mp bound
      simp [found]
    · rw [if_neg bound, List.lookup_append]
      simp
  · have fresh : List.lookup other [(root, module)] = none := by
      simpa [List.lookup_eq_none_iff] using same
    rw [if_neg same, Option.or_none]
    split
    · rfl
    · rw [List.lookup_append, fresh, Option.or_none]

theorem nodup_keys_bindRoot (distinct : (namespaces.map Prod.fst).Nodup) (root module : String) :
    ((bindRoot namespaces root module).map Prod.fst).Nodup := by
  unfold bindRoot
  split
  · exact distinct
  · next unbound =>
    rw [List.map_append, List.map_singleton]
    refine List.nodup_append.mpr ⟨distinct, List.nodup_singleton _, ?_⟩
    intro bound member other single same
    rw [List.mem_singleton] at single
    obtain ⟨entry, entryMember, rfl⟩ := List.mem_map.mp member
    refine unbound (List.lookup_isSome_iff.mpr ⟨entry, entryMember, ?_⟩)
    rw [same, single, beq_self_eq_true]

/-- A type with a package binds its root, or finds it bound. -/
theorem BindsRoots.bindRoot (binds : BindsRoots moduleOf locations namespaces)
    {location : Location} (rooted : location.isRooted = true) :
    BindsRoots moduleOf (locations ++ [location])
      (bindRoot namespaces location.root (moduleOf location.file)) where
  keys := nodup_keys_bindRoot binds.keys _ _
  lookup root := by
    rw [lookup_bindRoot, binds.lookup, List.find?_append, Option.map_or]
    by_cases same : root = location.root
    · subst same
      simp [rooted]
    · simp [rooted, same, Ne.symm same]

/-- A type without a package binds no root. -/
theorem BindsRoots.skip (binds : BindsRoots moduleOf locations namespaces) {location : Location}
    (unrooted : location.isRooted = false) :
    BindsRoots moduleOf (locations ++ [location]) namespaces where
  keys := binds.keys
  lookup root := by
    rw [binds.lookup, List.find?_append]
    simp [unrooted]

end Roots

/-! ### Names -/

section Names

variable {moduleOf : File → String} {locations : List Location}
  {named : List (String × NameSet)}

/-- No name is taken for no type. -/
theorem takesNames_nil : TakesNames moduleOf [] [] where
  keys := List.nodup_nil
  distinct := by simp
  taken := by simp

/-- A name goes to the group of its module, which begins with it if there is none. -/
theorem lookup_takeName (module name other : String) :
    (takeName named module name).lookup other =
      if other = module then some (((named.lookup module).getD .empty).insert name)
      else named.lookup other := by
  fun_induction takeName named module name with
  | case1 =>
      rw [Table.lookup_cons]
      rfl
  | case2 names rest =>
      simp only [Table.lookup_cons, if_true, Option.getD_some]
      split
      · rfl
      · rfl
  | case3 first names rest different inductionHypothesis =>
      simp only [Table.lookup_cons, if_neg (Ne.symm different), inductionHypothesis]
      by_cases same : other = first
      · rw [if_pos same, if_neg (fun found => different (same ▸ found)), if_pos same]
      · rw [if_neg same, if_neg same]

theorem mem_keys_takeName {module name other : String} :
    other ∈ (takeName named module name).map Prod.fst ↔
      other ∈ named.map Prod.fst ∨ other = module := by
  fun_induction takeName named module name with
  | case1 => simp
  | case2 names rest => simp [or_comm]
  | case3 first names rest different inductionHypothesis =>
      rw [List.map_cons, List.map_cons, List.mem_cons, List.mem_cons, inductionHypothesis, or_assoc]

theorem nodup_keys_takeName {module name : String} (distinct : (named.map Prod.fst).Nodup) :
    ((takeName named module name).map Prod.fst).Nodup := by
  fun_induction takeName named module name with
  | case1 => exact List.nodup_singleton _
  | case2 names rest => exact distinct
  | case3 first names rest different inductionHypothesis =>
      rw [List.map_cons, List.nodup_cons] at distinct ⊢
      refine ⟨?_, inductionHypothesis distinct.2⟩
      intro member
      rcases mem_keys_takeName.mp member with old | new
      · exact distinct.1 old
      · exact different new

/-- A type without a package has its name taken from its module. -/
theorem TakesNames.takeName (takes : TakesNames moduleOf locations named) {location : Location}
    (unrooted : location.isRooted = false) :
    TakesNames moduleOf (locations ++ [location])
      (takeName named (moduleOf location.file) (firstSegment location.localName)) where
  keys := nodup_keys_takeName takes.keys
  distinct module names found := by
    rw [lookup_takeName] at found
    split at found
    · obtain rfl := Option.some.inj found
      constructor
      · exact List.ne_nil_of_mem (NameSet.mem_toList_insert.mpr (Or.inr rfl))
      · apply NameSet.nodup_toList_insert
        cases before : named.lookup (moduleOf location.file) with
        | none => exact List.nodup_nil
        | some names => exact (takes.distinct _ names before).2
    · exact takes.distinct module names found
  taken module name := by
    rw [exists_mem_append_singleton, ← takes.taken, lookup_takeName]
    by_cases same : module = moduleOf location.file
    · subst same
      cases before : named.lookup (moduleOf location.file) with
      | none => simp [NameSet.mem_toList_insert, unrooted, eq_comm]
      | some names => simp [NameSet.mem_toList_insert, unrooted, eq_comm]
    · simp [same, Ne.symm same]

/-- Of a type with a package no name is taken. -/
theorem TakesNames.skip (takes : TakesNames moduleOf locations named) {location : Location}
    (rooted : location.isRooted = true) :
    TakesNames moduleOf (locations ++ [location]) named where
  keys := takes.keys
  distinct := takes.distinct
  taken module name := by
    rw [exists_mem_append_singleton, ← takes.taken]
    simp [rooted]

end Names

/-! ### Collections -/

section Collections

variable (moduleOf : File → String)

/-- The imports of some types, one after the other. -/
def ofLocations (locations : List Location) : TypeImports :=
  locations.foldl (fun imports location => imports.add location (moduleOf location.file)) {}

theorem ofRefs_eq (registry : Registry) (wanted : File → Bool) (refs : List String) :
    ofRefs registry wanted moduleOf refs =
      ofLocations moduleOf (locations registry wanted refs) := by
  unfold ofRefs ofLocations locations
  rw [List.foldl_filterMap]
  congr 1
  funext imports ref
  cases registry.locate ref with
  | error error => rfl
  | ok location =>
      by_cases isWanted : wanted location.file
      · simp [isWanted]
      · simp [isWanted]

theorem mem_locations_iff {registry : Registry} {wanted : File → Bool} {refs : List String}
    {location : Location} :
    location ∈ locations registry wanted refs ↔
      ∃ ref ∈ refs, registry.locate ref = .ok location ∧ wanted location.file = true := by
  rw [locations, List.mem_filterMap]
  refine exists_congr fun ref => and_congr_right fun _ => ?_
  cases registry.locate ref with
  | error error => simp
  | ok found =>
      by_cases isWanted : wanted found.file
      · constructor
        · intro same
          obtain rfl : found = location := by simpa [isWanted] using same
          exact ⟨rfl, isWanted⟩
        · intro same
          obtain rfl : found = location := Except.ok.inj same.1
          simp [isWanted]
      · constructor
        · intro same
          simp [isWanted] at same
        · intro same
          obtain rfl : found = location := Except.ok.inj same.1
          exact absurd same.2 isWanted

theorem add_eq_of_isRooted {location : Location} (rooted : location.isRooted = true)
    (imports : TypeImports) (module : String) :
    imports.add location module =
      { imports with namespaces := bindRoot imports.namespaces location.root module } := by
  have named : ¬ firstSegment location.file.package = "" := by
    simpa [Location.isRooted, Location.root] using rooted
  simp [add, named, Location.root]

theorem add_eq_of_not_isRooted {location : Location} (unrooted : location.isRooted = false)
    (imports : TypeImports) (module : String) :
    imports.add location module =
      { imports with
        named := TypeImports.takeName imports.named module (firstSegment location.localName) } := by
  have unnamed : firstSegment location.file.package = "" := by
    simpa [Location.isRooted, Location.root] using unrooted
  simp [add, unnamed]

/-- Both invariants hold after any list of types. -/
theorem collects_ofLocations (locations : List Location) :
    BindsRoots moduleOf locations (ofLocations moduleOf locations).namespaces ∧
      TakesNames moduleOf locations (ofLocations moduleOf locations).named := by
  induction locations using List.reverseRecOn with
  | nil => exact ⟨bindsRoots_nil, takesNames_nil⟩
  | append_singleton locations location inductionHypothesis =>
      have step : ofLocations moduleOf (locations ++ [location]) =
          (ofLocations moduleOf locations).add location (moduleOf location.file) := by
        simp [ofLocations]
      obtain ⟨binds, takes⟩ := inductionHypothesis
      rw [step]
      cases rooted : location.isRooted with
      | true =>
          rw [add_eq_of_isRooted rooted]
          exact ⟨binds.bindRoot rooted, takes.skip rooted⟩
      | false =>
          rw [add_eq_of_not_isRooted rooted]
          exact ⟨binds.skip rooted, takes.takeName rooted⟩

end Collections

end TypeImports

end RpcBindings
