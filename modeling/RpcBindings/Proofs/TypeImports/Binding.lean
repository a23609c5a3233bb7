/-
Module: RpcBindings.Proofs.TypeImports.Binding
Purpose: Each imported type is bound under the first segment of its spelling, and nothing else is.
Main exports: Name.Undotted, TypeImports.Binds, TypeImports.binds_iff, TypeImports.BindsExactly,
  TypeImports.bindsExactly_ofRefs, TypeImports.text, TypeImports.render_steps
-/
import RpcBindings.Proofs.Registry.Location
import RpcBindings.Proofs.Script.Frames
import RpcBindings.Proofs.TypeImports.Collection

namespace RpcBindings

open Layout

/-! ### First segments -/

/-- A package that does not begin with a dot, so that it has a root unless it is empty. -/
def Name.Undotted (package : String) : Prop :=
  package.toList.head? ≠ some '.'

namespace TypeImports

/-- What follows the first dot does not matter for the first segment. -/
theorem firstSegment_append_dot (path rest : String) :
    firstSegment (path ++ "." ++ rest) = firstSegment path := by
  have stops (before after : List Char) :
      (before ++ '.' :: after).takeWhile (fun c => c != '.') =
        before.takeWhile fun c => c != '.' := by
    induction before with
    | nil => simp
    | cons c before inductionHypothesis =>
        rw [List.cons_append, List.takeWhile_cons, List.takeWhile_cons, inductionHypothesis]
  simp [firstSegment, stops]

/-- Of the packages that do not begin with a dot only the unnamed one has no root. -/
theorem firstSegment_eq_empty_iff {package : String} (undotted : Name.Undotted package) :
    firstSegment package = "" ↔ package = "" := by
  unfold Name.Undotted at undotted
  simp only [firstSegment, ← String.toList_inj, String.toList_ofList, String.toList_empty]
  cases chars : package.toList with
  | nil => simp
  | cons c rest =>
      have noDot : c ≠ '.' := by simpa [chars] using undotted
      simp [noDot]

end TypeImports

namespace Location

variable {location : Location}

theorem isRooted_iff (undotted : Name.Undotted location.file.package) :
    location.isRooted = true ↔ location.file.package ≠ "" := by
  rw [isRooted, bne_iff_ne, root, Ne, TypeImports.firstSegment_eq_empty_iff undotted]

theorem isRooted_eq_false_iff (undotted : Name.Undotted location.file.package) :
    location.isRooted = false ↔ location.file.package = "" := by
  rw [← Bool.not_eq_true, isRooted_iff undotted, not_not]

/-- A type with a package is spelled from its root. -/
theorem firstSegment_fullName_of_package (named : location.file.package ≠ "") :
    TypeImports.firstSegment location.fullName = location.root := by
  rw [fullName, if_neg named, TypeImports.firstSegment_append_dot, root]

theorem fullName_of_no_package (unnamed : location.file.package = "") :
    location.fullName = location.localName := by
  rw [fullName, if_pos unnamed]

end Location

namespace TypeImports

/-! ### Bound types -/

/-- How a spelling reaches a type.  The root of a type with a package is imported once, from the
module of the first of all types with this root; the outermost name of any other type stands once in
the one group of names that are taken from the module of its file. -/
inductive Binds (moduleOf : File → String) (locations : List Location) (imports : TypeImports)
    (location : Location) (spelling : String) : Prop where
  | root {first : Location}
      (packaged : location.file.package ≠ "")
      (earliest : locations.find? (fun other => other.root == firstSegment spelling) = some first)
      (bound : (imports.namespaces.filter fun entry => entry.1 == firstSegment spelling) =
        [(firstSegment spelling, moduleOf first.file)])
  | name {names : NameSet}
      (unnamed : location.file.package = "")
      (group : (imports.named.filter fun entry => entry.1 == moduleOf location.file) =
        [(moduleOf location.file, names)])
      (once : names.toList.count (firstSegment spelling) = 1)

section Bound

variable {moduleOf : File → String} {locations : List Location} {location : Location}

/-- Among types, the root of a package can only be met in types that have a package. -/
theorem find?_isRooted_and_root {root : String} (some : root ≠ "") :
    (locations.find? fun other => other.isRooted && other.root == root) =
      locations.find? fun other => other.root == root := by
  congr 1
  funext other
  by_cases same : other.root = root
  · simp [Location.isRooted, same, some]
  · simp [same]

/-- One import serves two types: that of their common root, or that of their common outermost name
from one module. -/
def SharesImport (moduleOf : File → String) (first second : Location) : Prop :=
  (first.file.package ≠ "" ∧ second.file.package ≠ "" ∧ first.root = second.root) ∨
    (first.file.package = "" ∧ second.file.package = "" ∧
      moduleOf first.file = moduleOf second.file ∧
      firstSegment first.localName = firstSegment second.localName)

theorem SharesImport.refl (moduleOf : File → String) (location : Location) :
    SharesImport moduleOf location location := by
  by_cases unnamed : location.file.package = ""
  · exact Or.inr ⟨unnamed, unnamed, rfl, rfl⟩
  · exact Or.inl ⟨unnamed, unnamed, rfl⟩

/-- A type is bound under its full name exactly when the import of some imported type serves it. -/
theorem binds_iff (undotted : ∀ other ∈ locations, Name.Undotted other.file.package)
    (own : Name.Undotted location.file.package) :
    Binds moduleOf locations (ofLocations moduleOf locations) location location.fullName ↔
      ∃ other ∈ locations, SharesImport moduleOf other location := by
  obtain ⟨binds, takes⟩ := collects_ofLocations moduleOf locations
  constructor
  · intro bound
    cases bound with
    | @root first packaged earliest _ =>
        rw [Location.firstSegment_fullName_of_package packaged] at earliest
        have firstMember := List.mem_of_find?_eq_some earliest
        have root : first.root = location.root := by simpa using List.find?_some earliest
        have rooted : first.isRooted = true := by
          have ownRooted := (Location.isRooted_iff own).mpr packaged
          rwa [Location.isRooted, root]
        exact ⟨first, firstMember, Or.inl
          ⟨(Location.isRooted_iff (undotted first firstMember)).mp rooted, packaged, root⟩⟩
    | @name names unnamed group once =>
        rw [Location.fullName_of_no_package unnamed] at once
        have entry : (moduleOf location.file, names) ∈ (ofLocations moduleOf locations).named :=
          List.mem_of_mem_filter (group ▸ List.mem_singleton_self _)
        have taken : firstSegment location.localName ∈ names.toList :=
          List.count_pos_iff.mp (once ▸ Nat.one_pos)
        obtain ⟨other, member, unrooted, module, first⟩ :=
          (takes.taken _ _).mp ⟨names, Table.lookup_of_mem takes.keys entry, taken⟩
        exact ⟨other, member, Or.inr
          ⟨(Location.isRooted_eq_false_iff (undotted other member)).mp unrooted, unnamed, module,
            first⟩⟩
  · intro served
    obtain ⟨other, member, ⟨otherPackaged, packaged, root⟩ |
      ⟨otherUnnamed, unnamed, module, first⟩⟩ := served
    -- The first type with the root need not be the one that serves: any of them binds it.
    · have some : location.root ≠ "" :=
        root ▸ bne_iff_ne.mp ((Location.isRooted_iff (undotted other member)).mpr otherPackaged)
      have found : (locations.find? fun other => other.root == location.root).isSome :=
        List.find?_isSome.mpr ⟨other, member, beq_iff_eq.mpr root⟩
      obtain ⟨first, earliest⟩ := Option.isSome_iff_exists.mp found
      have bound := binds.lookup location.root
      rw [find?_isRooted_and_root some, earliest, Option.map_some] at bound
      rw [← Location.firstSegment_fullName_of_package packaged] at earliest bound
      exact .root packaged earliest (Table.filter_of_lookup binds.keys bound)
    · have unrooted := (Location.isRooted_eq_false_iff (undotted other member)).mpr otherUnnamed
      obtain ⟨names, found, taken⟩ :=
        (takes.taken _ _).mpr ⟨other, member, unrooted, module, first⟩
      refine .name unnamed (Table.filter_of_lookup takes.keys found) ?_
      rw [Location.fullName_of_no_package unnamed]
      exact List.count_eq_one_of_mem (takes.distinct _ _ found).2 taken

/-- Every type that is imported is bound under its full name. -/
theorem binds_of_mem (undotted : ∀ other ∈ locations, Name.Undotted other.file.package)
    (member : location ∈ locations) :
    Binds moduleOf locations (ofLocations moduleOf locations) location location.fullName :=
  (binds_iff undotted (undotted location member)).mpr
    ⟨location, member, SharesImport.refl moduleOf location⟩

/-- Every root that is imported is the root of an imported type with a package. -/
theorem exists_of_mem_namespaces (undotted : ∀ other ∈ locations, Name.Undotted other.file.package)
    {entry : String × String} (member : entry ∈ (ofLocations moduleOf locations).namespaces) :
    ∃ location ∈ locations, location.file.package ≠ "" ∧
      firstSegment location.fullName = entry.1 := by
  obtain ⟨binds, -⟩ := collects_ofLocations moduleOf locations
  have found := binds.lookup entry.1
  rw [Table.lookup_of_mem binds.keys member, eq_comm, Option.map_eq_some_iff] at found
  obtain ⟨first, earliest, -⟩ := found
  have firstMember := List.mem_of_find?_eq_some earliest
  obtain ⟨rooted, root⟩ : first.isRooted = true ∧ first.root = entry.1 := by
    simpa using List.find?_some earliest
  have packaged := (Location.isRooted_iff (undotted first firstMember)).mp rooted
  refine ⟨first, firstMember, packaged, ?_⟩
  rw [Location.firstSegment_fullName_of_package packaged, root]

/-- Every name that is imported is the outermost name of an imported type without a package, and is
taken from the module of its file. -/
theorem exists_of_mem_named (undotted : ∀ other ∈ locations, Name.Undotted other.file.package)
    {entry : String × NameSet} (member : entry ∈ (ofLocations moduleOf locations).named)
    {name : String} (taken : name ∈ entry.2.toList) :
    ∃ location ∈ locations, location.file.package = "" ∧ moduleOf location.file = entry.1 ∧
      firstSegment location.fullName = name := by
  obtain ⟨-, takes⟩ := collects_ofLocations moduleOf locations
  obtain ⟨location, locationMember, unrooted, module, first⟩ :=
    (takes.taken entry.1 name).mp ⟨entry.2, Table.lookup_of_mem takes.keys member, taken⟩
  have unnamed := (Location.isRooted_eq_false_iff (undotted location locationMember)).mp unrooted
  refine ⟨location, locationMember, unnamed, module, ?_⟩
  rw [Location.fullName_of_no_package unnamed, first]

end Bound

/-! ### References -/

/-- Some imports bind the types that references are spelled as, and nothing else.  `locations` are
the places of the types, in the order of the references. -/
structure BindsExactly (files : List File) (moduleOf : File → String) (refs : List String)
    (imports : TypeImports) (locations : List Location) : Prop where
  located : List.Forall₂ (DeclaredAt files) refs locations
  bound : ∀ ref ∈ refs, ∀ location, DeclaredAt files ref location →
    Binds moduleOf locations imports location (Name.withoutLeadingDot ref)
  roots : ∀ entry ∈ imports.namespaces, ∃ ref ∈ refs, ∃ location, DeclaredAt files ref location ∧
    location.file.package ≠ "" ∧ firstSegment (Name.withoutLeadingDot ref) = entry.1
  names : ∀ entry ∈ imports.named, ∀ name ∈ entry.2.toList, ∃ ref ∈ refs, ∃ location,
    DeclaredAt files ref location ∧ location.file.package = "" ∧
      moduleOf location.file = entry.1 ∧ firstSegment (Name.withoutLeadingDot ref) = name

section References

variable {files : List File} {refs : List String}

/-- Where all references mean something, each has its place among the locations. -/
theorem forall₂_locations (compatible : Compatible files)
    (located : ∀ ref ∈ refs, ∃ location, (Registry.assembled files).locate ref = .ok location) :
    List.Forall₂ (DeclaredAt files) refs
      (locations (Registry.assembled files) (fun _ => true) refs) := by
  induction refs with
  | nil => exact .nil
  | cons ref refs inductionHypothesis =>
      obtain ⟨first, others⟩ := List.forall_mem_cons.mp located
      obtain ⟨location, found⟩ := first
      have split : locations (Registry.assembled files) (fun _ => true) (ref :: refs) =
          location :: locations (Registry.assembled files) (fun _ => true) refs := by
        simp [locations, found]
      rw [split]
      exact .cons ((Registry.locate_assembled_eq_ok_iff compatible).mp found)
        (inductionHypothesis others)

/-- The imports for references that all mean something bind what these are spelled as, and nothing
else. -/
theorem bindsExactly_ofRefs (compatible : Compatible files)
    (undotted : ∀ file ∈ files, Name.Undotted file.package)
    (located : ∀ ref ∈ refs, ∃ location, (Registry.assembled files).locate ref = .ok location)
    (moduleOf : File → String) :
    BindsExactly files moduleOf refs
      (ofRefs (Registry.assembled files) (fun _ => true) moduleOf refs)
      (locations (Registry.assembled files) (fun _ => true) refs) := by
  have declared : ∀ {location},
      location ∈ locations (Registry.assembled files) (fun _ => true) refs ↔
        ∃ ref ∈ refs, DeclaredAt files ref location := by
    intro location
    simp only [mem_locations_iff, Registry.locate_assembled_eq_ok_iff compatible, and_true]
  have allUndotted : ∀ location ∈ locations (Registry.assembled files) (fun _ => true) refs,
      Name.Undotted location.file.package := by
    intro location member
    obtain ⟨ref, -, found⟩ := declared.mp member
    exact undotted location.file found.member
  rw [ofRefs_eq]
  constructor
  · exact forall₂_locations compatible located
  · intro ref member location found
    rw [found.withoutLeadingDot_eq]
    exact binds_of_mem allUndotted (declared.mpr ⟨ref, member, found⟩)
  · intro entry member
    obtain ⟨location, locationMember, packaged, root⟩ :=
      exists_of_mem_namespaces allUndotted member
    obtain ⟨ref, refMember, found⟩ := declared.mp locationMember
    exact ⟨ref, refMember, location, found, packaged, found.withoutLeadingDot_eq ▸ root⟩
  · intro entry member name taken
    obtain ⟨location, locationMember, unnamed, module, first⟩ :=
      exists_of_mem_named allUndotted member taken
    obtain ⟨ref, refMember, found⟩ := declared.mp locationMember
    exact ⟨ref, refMember, location, found, unnamed, module, found.withoutLeadingDot_eq ▸ first⟩

end References

/-! ### The text of imports -/

/-- The line that imports a root. -/
def rootLine (entry : String × String) : String :=
  "import * as " ++ entry.1 ++ " from '" ++ entry.2 ++ "'\n"

/-- All imports: a line for each root, and a block for each module from which names are taken. -/
def text (imports : TypeImports) : String :=
  String.join (imports.namespaces.map rootLine) ++
    (if imports.hasNamespaces then "\n" else "") ++
    String.join (imports.named.map fun entry =>
      Script.importBlock "import" entry.2.toList entry.1)

theorem balanced_namespaces (namespaces : List (String × String)) :
    Balanced (namespaces.map namespaceStep) :=
  Balanced.map fun _ _ => balanced_singleton fun _ => rfl

theorem balanced_gap (imports : TypeImports) :
    Balanced (if imports.hasNamespaces then [.blank] else []) := by
  split
  · exact balanced_singleton fun _ => rfl
  · exact balanced_nil

theorem balanced_steps (imports : TypeImports) : Balanced imports.steps :=
  ((balanced_namespaces _).append (balanced_gap imports)).append
    (Balanced.flatMap fun _ _ => Script.balanced_nameListSteps _ _ _)

theorem renderAt_namespaces (namespaces : List (String × String)) :
    renderAt Script.indentUnit 0 (namespaces.map namespaceStep) =
      String.join (namespaces.map rootLine) := by
  rw [List.map_eq_flatMap, renderAt_flatMap _ fun _ _ => balanced_singleton fun _ => rfl]
  refine congrArg String.join (List.map_congr_left fun entry _ => ?_)
  simp [namespaceStep, renderAt_cons, Step.text, lineAt, rootLine, indentation,
    ← String.toList_inj]

/-- The steps of some imports write their text. -/
theorem render_steps (imports : TypeImports) :
    render Script.indentUnit imports.steps = imports.text := by
  have gap : renderAt Script.indentUnit 0 (if imports.hasNamespaces then [.blank] else []) =
      if imports.hasNamespaces then "\n" else "" := by
    split
    · rfl
    · rfl
  have balanced : ∀ entry ∈ imports.named,
      Balanced (Script.importSteps "import" entry.2.toList entry.1) :=
    fun _ _ => Script.balanced_nameListSteps _ _ _
  have named : renderAt Script.indentUnit 0
      (imports.named.flatMap fun entry =>
        Script.importSteps "import" entry.2.toList entry.1) =
      String.join (imports.named.map fun entry =>
        Script.importBlock "import" entry.2.toList entry.1) := by
    rw [renderAt_flatMap _ balanced]
    exact congrArg String.join
      (List.map_congr_left fun _ _ => Script.render_nameListSteps _ _ _)
  rw [render, steps, renderAt_append_of_balanced _ ((balanced_namespaces _).append
    (balanced_gap imports)), renderAt_append_of_balanced _ (balanced_namespaces _),
    renderAt_namespaces, gap, text]
  exact congrArg (_ ++ ·) named

end TypeImports

end RpcBindings
