/-
Module: RpcBindings.Proofs.TypeImports.Roots
Purpose: To which module the root of a package is bound, where several files share the root.
Main exports: TypeImports.RootImporting, TypeImports.FirstBound, TypeImports.generate_binds_roots
-/
import RpcBindings.Proofs.Declarations.Imports
import RpcBindings.Proofs.Promises.Imports
import RpcBindings.Proofs.TypeImports.Modules

namespace RpcBindings

open Layout

/-- Without a module of the caller's choice, types are imported from the modules that are declared
for their files. -/
theorem FileContext.moduleOf_eq {context : FileContext}
    (companion : context.options.typesImport = none) (file : File) :
    context.moduleOf file = Path.declarationModule file.name := by
  unfold FileContext.moduleOf FileContext.typesModule
  split
  · next own => rw [companion, Option.getD_none, own]
  · rfl

/-- Modules tell files apart by their stems. -/
theorem Path.declarationModule_inj {first second : String} :
    Path.declarationModule first = Path.declarationModule second ↔
      Path.stem first = Path.stem second := by
  simp [Path.declarationModule, ← String.toList_inj]

/-- A type has no root if it has no package, or one that begins with a dot. -/
theorem Location.root_eq_empty_iff (location : Location) :
    location.root = "" ↔ location.file.package = "" ∨ ¬ Name.Undotted location.file.package := by
  by_cases undotted : Name.Undotted location.file.package
  · rw [Location.root, TypeImports.firstSegment_eq_empty_iff undotted]
    exact (or_iff_left (not_not.mpr undotted)).symm
  · obtain ⟨rest, chars⟩ := List.head?_eq_some_iff.mp (not_not.mp undotted)
    have root : location.root = "" := by
      simp [Location.root, TypeImports.firstSegment, chars]
    exact iff_of_true root (Or.inr undotted)

namespace TypeImports

open Script (Frame)

/-!
Every type of a package is spelled from the package's root, and a root is bound once.  Files may
share a root, in one package or in several; of their modules the one that is met first is bound.
-/

/-- The dialects that spell types with their packages, and the types that each of them imports, in
the order of the references: a class of promises the types of all methods, and a declaration file
the types of fields and methods that other files declare. -/
inductive RootImporting : Dialect → Frame → (FileContext → List Location) → Prop where
  | promises :
      RootImporting Promises.dialect Promises.frame fun context =>
        locations context.registry (fun _ => true) context.file.methodRefs
  | declarations :
      RootImporting Declarations.dialect Declarations.frame Declarations.foreignTypes

section Importing

variable {dialect : Dialect} {frame : Frame} {imported : FileContext → List Location}

/-- In the output the imports stand inside the frame. -/
theorem RootImporting.renderFile_eq (importing : RootImporting dialect frame imported)
    (context : FileContext) :
    dialect.renderFile context =
      frame.around context (ofLocations context.moduleOf (imported context)).text := by
  cases importing with
  | promises =>
      have imports : Promises.typeImports context = ofLocations context.moduleOf
          (locations context.registry (fun _ => true) context.file.methodRefs) :=
        ofRefs_eq _ _ _ _
      rw [Promises.renderFile_eq, imports]
  | declarations =>
      have imports : Declarations.typeImports context = ofLocations context.moduleOf
          (Declarations.foreignTypes context) := ofRefs_eq _ _ _ _
      rw [Declarations.renderFile_eq, imports]

/-- A type that is imported is declared by its file, under some reference. -/
theorem RootImporting.exists_declaredAt (importing : RootImporting dialect frame imported)
    {files : List File} (compatible : Compatible files) {context : FileContext}
    (registry : context.registry = Registry.assembled files) {location : Location}
    (member : location ∈ imported context) : ∃ ref, DeclaredAt files ref location := by
  cases importing with
  | promises =>
      obtain ⟨ref, -, located, -⟩ := mem_locations_iff.mp member
      rw [registry] at located
      exact ⟨ref, (Registry.locate_assembled_eq_ok_iff compatible).mp located⟩
  | declarations =>
      obtain ⟨ref, -, found, -⟩ := (Declarations.mem_foreignTypes_iff compatible registry).mp member
      exact ⟨ref, found⟩

end Importing

/-- A root is bound once, to the module of the first type that has it. -/
structure FirstBound (locations : List Location) (imports : TypeImports) (root : String)
    (first : Location) : Prop where
  earliest : locations.find? (fun other => other.root == root) = some first
  bound : (imports.namespaces.filter fun entry => entry.1 == root) =
    [(root, Path.declarationModule first.file.name)]

/-- No other module is bound to the root. -/
theorem FirstBound.mem_iff {locations : List Location} {imports : TypeImports}
    {root module : String} {first : Location} (bound : FirstBound locations imports root first) :
    (root, module) ∈ imports.namespaces ↔ module = Path.declarationModule first.file.name := by
  have kept : (root, module) ∈ (imports.namespaces.filter fun entry => entry.1 == root) ↔
      (root, module) ∈ imports.namespaces := by
    simp
  rw [← kept, bound.bound, List.mem_singleton, Prod.mk.injEq]
  exact and_iff_right rfl

/-- The root of each imported type is bound to the module of the first one with this root. -/
theorem exists_firstBound {moduleOf : File → String} {locations : List Location}
    (companion : ∀ file, moduleOf file = Path.declarationModule file.name) {location : Location}
    (member : location ∈ locations) (rooted : location.root ≠ "") :
    ∃ first, FirstBound locations (ofLocations moduleOf locations) location.root first := by
  obtain ⟨binds, -⟩ := collects_ofLocations moduleOf locations
  have found : (locations.find? fun other => other.root == location.root).isSome :=
    List.find?_isSome.mpr ⟨location, member, beq_self_eq_true _⟩
  obtain ⟨first, earliest⟩ := Option.isSome_iff_exists.mp found
  have bound := binds.lookup location.root
  rw [find?_isRooted_and_root rooted, earliest, Option.map_some, companion] at bound
  exact ⟨first, earliest, Table.filter_of_lookup binds.keys bound⟩

/-- The root of each imported type is bound by one line of the output, to the module that is
declared for the file of the first imported type with this root, in the order of the references.
This is the module of the type's own file exactly when the two files have the same stem.  Types
without a root are those without a package, unless the package begins with a dot. -/
theorem generate_binds_roots {files : List File} {registry : Registry} {fileName : String}
    {dialect : Dialect} {frame : Frame} {imported : FileContext → List Location}
    {options : Options} {output : GeneratedFile}
    (loaded : Registry.ofFiles files = .ok registry)
    (importing : RootImporting dialect frame imported)
    (companion : options.typesImport = none)
    (generated : generate registry fileName dialect options = .ok output) :
    ∃ context imports, ContextFor registry fileName dialect options context ∧
      imports = ofLocations context.moduleOf (imported context) ∧
      output.content = frame.around context imports.text ∧
      ∀ location ∈ imported context,
        (∃ ref, DeclaredAt files ref location) ∧
        (location.root = "" ↔
          location.file.package = "" ∨ ¬ Name.Undotted location.file.package) ∧
        (location.root ≠ "" →
          ∃ first, FirstBound (imported context) imports location.root first ∧
            ((location.root, Path.declarationModule location.file.name) ∈ imports.namespaces ↔
              Path.stem location.file.name = Path.stem first.file.name)) := by
  obtain ⟨compatible, rfl⟩ := Registry.ofFiles_eq_ok_iff.mp loaded
  obtain ⟨context, made, rfl⟩ := exists_contextFor generated
  have modules : ∀ other, context.moduleOf other = Path.declarationModule other.name :=
    FileContext.moduleOf_eq (made.options_eq ▸ companion)
  refine ⟨context, _, made, rfl, importing.renderFile_eq context,
    fun location listed => ⟨?_, ?_, fun rooted => ?_⟩⟩
  · exact importing.exists_declaredAt compatible made.registry_eq listed
  · exact Location.root_eq_empty_iff location
  · obtain ⟨first, bound⟩ := exists_firstBound modules listed rooted
    exact ⟨first, bound, bound.mem_iff.trans Path.declarationModule_inj⟩

def firstFile : File :=
  { name := "one.proto", package := "acme", messages := [{ name := "A" }] }

def secondFile : File :=
  { name := "two.proto", package := "acme", messages := [{ name := "B" }] }

/-- A method whose types lie in one package but in two files. -/
def callingFile : File :=
  { name := "main.proto"
    services := [{ name := "Main", methods := [Method.unary "Run" ".acme.A" ".acme.B"] }] }

def sharedRootSamples : List File := [firstFile, secondFile, callingFile]

theorem locations_sharedRootSamples :
    locations (Registry.assembled sharedRootSamples) (fun _ => true)
      callingFile.methodRefs = [⟨firstFile, "A"⟩, ⟨secondFile, "B"⟩] := rfl

/-- The type of the second file is looked for in the module of the first one. -/
theorem generate_binds_roots_sharedRootSamples :
    ∃ output, generate (Registry.assembled sharedRootSamples) "main.proto" Promises.dialect {} =
        .ok output ∧
      ∃ context, ContextFor (Registry.assembled sharedRootSamples) "main.proto" Promises.dialect {}
          context ∧
        ∃ imports, output.content = Promises.frame.around context (TypeImports.text imports) ∧
          (imports.namespaces.filter fun entry => entry.1 == "acme") = [("acme", "./one.d")] ∧
          ("acme", "./two.d") ∉ imports.namespaces := by
  have loaded : Registry.ofFiles sharedRootSamples =
      .ok (Registry.assembled sharedRootSamples) := rfl
  obtain ⟨output, generated⟩ : ∃ output,
      generate (Registry.assembled sharedRootSamples) "main.proto" Promises.dialect {} =
        .ok output := ⟨_, rfl⟩
  obtain ⟨context, imports, made, -, content, roots⟩ :=
    generate_binds_roots loaded .promises rfl generated
  have file : context.file = callingFile := (Except.ok.inj made.known).symm
  rw [made.registry_eq, file, locations_sharedRootSamples] at roots
  obtain ⟨-, -, bound⟩ := roots ⟨secondFile, "B"⟩
    (List.mem_cons_of_mem _ (List.mem_singleton_self _))
  obtain ⟨first, firstBound, own_iff⟩ := bound (by decide)
  obtain rfl : (⟨firstFile, "A"⟩ : Location) = first := Option.some.inj firstBound.earliest
  exact ⟨output, generated, context, made, imports, content, firstBound.bound,
    fun own => absurd (own_iff.mp own) (by decide)⟩

/-- A root need not be bound to the module of the file that declares a type. -/
theorem root_bound_to_another_module :
    ¬ ∀ (files : List File) (registry : Registry) (fileName : String) (dialect : Dialect)
      (frame : Frame) (imported : FileContext → List Location) (output : GeneratedFile),
      Registry.ofFiles files = .ok registry → RootImporting dialect frame imported →
      generate registry fileName dialect {} = .ok output →
      ∀ context, ContextFor registry fileName dialect {} context →
      ∀ location ∈ imported context, location.file.package ≠ "" →
      (ofLocations context.moduleOf (imported context)).namespaces.lookup location.root =
        some (Path.declarationModule location.file.name) := by
  intro bound
  obtain ⟨output, generated⟩ : ∃ output,
      generate (Registry.assembled sharedRootSamples) "main.proto" Promises.dialect {} =
        .ok output := ⟨_, rfl⟩
  obtain ⟨context, made, -⟩ := exists_contextFor generated
  have file : context.file = callingFile := (Except.ok.inj made.known).symm
  have imported : locations context.registry (fun _ => true) context.file.methodRefs =
      [⟨firstFile, "A"⟩, ⟨secondFile, "B"⟩] := by
    rw [made.registry_eq, file, locations_sharedRootSamples]
  have modules : context.moduleOf = fun other => Path.declarationModule other.name :=
    funext (FileContext.moduleOf_eq (made.options_eq ▸ rfl))
  have found := bound sharedRootSamples _ "main.proto" _ _ _ output rfl .promises generated context
    made ⟨secondFile, "B"⟩ (by simp [imported]) (by decide)
  rw [imported, modules] at found
  exact absurd found (by decide)

end TypeImports

end RpcBindings
