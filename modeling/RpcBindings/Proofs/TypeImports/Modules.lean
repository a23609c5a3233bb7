/-
Module: RpcBindings.Proofs.TypeImports.Modules
Purpose: The modules from which types are imported are those of the files that declare the types.
Main exports: TypeImports.modules, TypeImports.exists_of_mem_roots, TypeImports.exists_of_mem_taken,
  TypeImports.exists_of_mem_modules
-/
import RpcBindings.Proofs.TypeImports.Collection

namespace RpcBindings.TypeImports

variable {moduleOf : File → String} {locations : List Location}

/-- The modules from which something is imported, in the order of the imports. -/
def modules (imports : TypeImports) : List String :=
  imports.namespaces.map Prod.snd ++ imports.named.map Prod.fst

/-- A root is bound for the sake of a type, to the module of the type's file. -/
theorem exists_of_mem_roots {entry : String × String}
    (member : entry ∈ (ofLocations moduleOf locations).namespaces) :
    ∃ location ∈ locations, entry = (location.root, moduleOf location.file) := by
  obtain ⟨binds, -⟩ := collects_ofLocations moduleOf locations
  have found := Table.lookup_of_mem binds.keys member
  rw [binds.lookup, Option.map_eq_some_iff] at found
  obtain ⟨location, earliest, module⟩ := found
  have root : location.isRooted = true ∧ location.root = entry.1 := by
    simpa using List.find?_some earliest
  exact ⟨location, List.mem_of_find?_eq_some earliest, Prod.ext root.2.symm module.symm⟩

/-- A name is taken for the sake of a type, from the module of the type's file. -/
theorem exists_of_mem_taken {entry : String × NameSet}
    (member : entry ∈ (ofLocations moduleOf locations).named) {name : String}
    (taken : name ∈ entry.2.toList) :
    ∃ location ∈ locations, moduleOf location.file = entry.1 ∧
      firstSegment location.localName = name := by
  obtain ⟨-, takes⟩ := collects_ofLocations moduleOf locations
  obtain ⟨location, locationMember, -, module, first⟩ :=
    (takes.taken entry.1 name).mp ⟨entry.2, Table.lookup_of_mem takes.keys member, taken⟩
  exact ⟨location, locationMember, module, first⟩

theorem exists_of_mem_named_modules {entry : String × NameSet}
    (member : entry ∈ (ofLocations moduleOf locations).named) :
    ∃ location ∈ locations, moduleOf location.file = entry.1 := by
  obtain ⟨-, takes⟩ := collects_ofLocations moduleOf locations
  have some := (takes.distinct entry.1 entry.2 (Table.lookup_of_mem takes.keys member)).1
  obtain ⟨name, taken⟩ := List.exists_mem_of_ne_nil _ some
  obtain ⟨location, locationMember, module, -⟩ := exists_of_mem_taken member taken
  exact ⟨location, locationMember, module⟩

/-- No module is imported but that of a file that declares an imported type. -/
theorem exists_of_mem_modules {module : String}
    (member : module ∈ (ofLocations moduleOf locations).modules) :
    ∃ location ∈ locations, moduleOf location.file = module := by
  rw [modules, List.mem_append, List.mem_map, List.mem_map] at member
  rcases member with ⟨entry, found, rfl⟩ | ⟨entry, found, rfl⟩
  · obtain ⟨location, locationMember, same⟩ := exists_of_mem_roots found
    exact ⟨location, locationMember, (congrArg Prod.snd same).symm⟩
  · exact exists_of_mem_named_modules found

end RpcBindings.TypeImports
