/-
Module: RpcBindings.Proofs.Declarations.Imports
Purpose: Which of the types that a declaration file spells are bound by its imports.
Main exports: Declarations.foreignTypes, Declarations.binds_foreign_iff,
  Declarations.generate_binds_foreign
-/
import RpcBindings.Proofs.Declarations.Output
import RpcBindings.Proofs.Declarations.Places

namespace RpcBindings.Declarations

open Layout TypeImports

/-!
A type of another file is spelled with its full name and bound by an import, provided that the
reference is collected.  All references are collected that the file itself writes.  The value type
of a map may be written elsewhere: in a map entry that another file declares.
-/

/-! ### Foreign types -/

/-- The types of other files to which a file refers, in the order of its references. -/
def foreignTypes (context : FileContext) : List Location :=
  TypeImports.locations context.registry (fun file => file.name != context.file.name)
    (typeRefs context.file)

section Foreign

variable {files : List File} {scope : Scope} {ref : String} {location : Location}

/-- A type of another file is spelled with its full name. -/
theorem spell_foreign (compatible : Compatible files)
    (registry : scope.registry = Registry.assembled files)
    (found : DeclaredAt files ref location) (foreign : location.file.name ≠ scope.file.name) :
    scope.spell ref = location.fullName := by
  have located := (Registry.locate_assembled_eq_ok_iff compatible).mpr found
  rw [Scope.spell, registry, located]
  simp [foreign, Location.fullName]

theorem mem_foreignTypes_iff {context : FileContext} (compatible : Compatible files)
    (registry : context.registry = Registry.assembled files) :
    location ∈ foreignTypes context ↔
      ∃ ref ∈ typeRefs context.file, DeclaredAt files ref location ∧
        location.file.name ≠ context.file.name := by
  rw [foreignTypes, mem_locations_iff, registry]
  simp only [Registry.locate_assembled_eq_ok_iff compatible, bne_iff_ne]

/-- A type of another file is bound exactly when the import of some collected type serves it. -/
theorem binds_foreign_iff (context : FileContext) (compatible : Compatible files)
    (undotted : ∀ file ∈ files, Name.Undotted file.package)
    (registry : context.registry = Registry.assembled files)
    (found : DeclaredAt files ref location) :
    Binds context.moduleOf (foreignTypes context) (typeImports context) location
        location.fullName ↔
      ∃ other ∈ typeRefs context.file, ∃ place, DeclaredAt files other place ∧
        place.file.name ≠ context.file.name ∧ SharesImport context.moduleOf place location := by
  have imports : typeImports context = ofLocations context.moduleOf (foreignTypes context) :=
    ofRefs_eq _ _ _ _
  have allUndotted : ∀ place ∈ foreignTypes context, Name.Undotted place.file.package := by
    intro place placeMember
    obtain ⟨other, -, placeFound, -⟩ := (mem_foreignTypes_iff compatible registry).mp placeMember
    exact undotted place.file placeFound.member
  rw [imports, binds_iff allUndotted (undotted location.file found.member)]
  simp only [mem_foreignTypes_iff compatible registry]
  constructor
  · intro served
    obtain ⟨place, ⟨other, collected, placeFound, elsewhere⟩, shares⟩ := served
    exact ⟨other, collected, place, placeFound, elsewhere, shares⟩
  · intro served
    obtain ⟨other, collected, place, placeFound, elsewhere, shares⟩ := served
    exact ⟨place, ⟨other, collected, placeFound, elsewhere⟩, shares⟩

end Foreign

/-- Of the types of other files that a declaration file spells, each is spelled with its full name.
It is bound exactly when the import of some collected type serves it: the import of the root of its
package, or that of its outermost name if its file has no package.  That is so for the types of
fields, of the sides of methods, and of the values of all maps whose entries the file declares.  No
type is spelled but at these places: in the members of the messages that are rendered, and in the
interfaces of services. -/
theorem generate_binds_foreign {files : List File} {registry : Registry} {fileName : String}
    {options : Options} {output : GeneratedFile}
    (loaded : Registry.ofFiles files = .ok registry)
    (undotted : ∀ file ∈ files, Name.Undotted file.package)
    (generated : generate registry fileName dialect options = .ok output) :
    ∃ context : FileContext, ∃ scope : Scope,
      context.file ∈ files ∧ context.file.name = fileName ∧ context.registry = registry ∧
      context.options = options ∧ scope = Scope.ofFile registry context.file options ∧
      output.content =
        render Script.indentUnit (Script.headingSteps plugin context.inputId ++ [.blank]) ++
          (typeImports context).text ++ render Script.indentUnit (packageSteps context) ∧
      (∀ around name members, Within (ofFile scope) around (.interface name members) ↔
        ∃ message, Rendered context.file.messages around message ∧ name = message.name ∧
          members = message.fields.map scope.memberOf) ∧
      (∀ around message, Rendered context.file.messages around message →
        ∀ field ∈ message.fields, ∃ type,
          scope.memberOf field =
            scope.memberName field ++ (scope.memberFrame field).1 ++ type ++
              (scope.memberFrame field).2 ∧
          ((∃ kind, type = plainType kind) ∨
            ∃ mapRef? ref, SpelledAt scope around mapRef? ref ∧ type = scope.spell ref)) ∧
      (context.services = context.file.services.map fun service =>
        renderAt Script.indentUnit (namespaceLevel context.file.package)
          (serviceDeclaration scope options service).steps) ∧
      ∀ around mapRef? ref location, SpelledAt scope around mapRef? ref →
        DeclaredAt files ref location → location.file.name ≠ fileName →
        scope.spell ref = location.fullName ∧
        (Binds context.moduleOf (foreignTypes context) (typeImports context) location
            (scope.spell ref) ↔
          ∃ other ∈ typeRefs context.file, ∃ place, DeclaredAt files other place ∧
            place.file.name ≠ fileName ∧ SharesImport context.moduleOf place location) ∧
        ((∀ entry ∈ mapRef?, context.file.Declares (Name.qualified entry)) →
          Binds context.moduleOf (foreignTypes context) (typeImports context) location
            (scope.spell ref)) := by
  obtain ⟨compatible, rfl⟩ := Registry.ofFiles_eq_ok_iff.mp loaded
  obtain ⟨file, contexts, known, -, bound, rfl⟩ := generate_eq_ok_iff.mp generated
  obtain ⟨member, rfl⟩ := mem_of_file?_eq_ok known
  refine ⟨dialect.fileContext (Registry.assembled files) options file contexts,
    Scope.ofFile (Registry.assembled files) file options, member, rfl, rfl, rfl, rfl,
    ?_, ?_, ?_, ?_, ?_⟩
  · exact renderFile_eq (dialect.fileContext (Registry.assembled files) options file contexts)
  · intro around name members
    exact within_ofFile_iff
  · intro around message rendered field ofField
    exact exists_type_of_member rendered ofField
  · exact services_eq bound
  · intro around mapRef? ref location spelled found foreign
    have fullName : (Scope.ofFile (Registry.assembled files) file options).spell ref =
        location.fullName := spell_foreign compatible rfl found foreign
    have bound_iff :=
      binds_foreign_iff (dialect.fileContext (Registry.assembled files) options file contexts)
        compatible undotted rfl found
    rw [fullName]
    refine ⟨rfl, bound_iff, ?_⟩
    intro ownEntry
    exact bound_iff.mpr ⟨ref, spelled.mem_typeRefs compatible rfl member ownEntry, location, found,
      foreign, SharesImport.refl _ location⟩

/-- The type of the values of a map, in a file of its own. -/
def valueFile : File :=
  { name := "c.proto", package := "c", messages := [{ name := "Value" }] }

/-- The entry of a map whose values are of that type. -/
def entrySample : Message :=
  Message.entry "Entry" { name := "key", kind := .string }
    { name := "value", kind := .message, typeName := some ".c.Value" }

def mapField (entry : String) : Field :=
  { name := "m", kind := .message, label := .repeated, typeName := some entry }

/-- A message with a map, the entry of which is declared inside the message. -/
def ownEntryFile : File :=
  { name := "a.proto", package := "a"
    messages := [{ name := "M", fields := [mapField ".a.M.Entry"], nested := [entrySample] }] }

/-- A message with a map, the entry of which another file declares. -/
def foreignEntryFile : File :=
  { name := "a.proto", package := "a"
    messages := [{ name := "M", fields := [mapField ".b.Entry"] }] }

def foreignEntrySamples : List File :=
  [foreignEntryFile, { name := "b.proto", package := "b", messages := [entrySample] }, valueFile]

/-- The values of a map with an entry of its own file are of a type that is imported. -/
theorem generate_binds_foreign_ownEntryFile :
    ∃ output, generate (Registry.assembled [ownEntryFile, valueFile]) "a.proto" dialect {} =
        .ok output ∧
      ∃ (imports : TypeImports) (module : String),
        (imports.namespaces.filter fun entry => entry.1 == "c") = [("c", module)] ∧
        ∃ before after, output.content = before ++ imports.text ++ after := by
  have loaded : Registry.ofFiles [ownEntryFile, valueFile] =
      .ok (Registry.assembled [ownEntryFile, valueFile]) := rfl
  have undotted : ∀ file ∈ [ownEntryFile, valueFile], Name.Undotted file.package := by
    simp [ownEntryFile, valueFile, Name.Undotted]
  have generated : ∃ output,
      generate (Registry.assembled [ownEntryFile, valueFile]) "a.proto" dialect {} = .ok output :=
    ⟨_, rfl⟩
  obtain ⟨output, generated⟩ := generated
  obtain ⟨context, scope, member, named, -, -, rfl, content, -, -, -, bound⟩ :=
    generate_binds_foreign loaded undotted generated
  have same : context.file = ownEntryFile := by
    rcases List.mem_pair.mp member with same | same
    · exact same
    · rw [same] at named
      exact absurd named (by decide)
  have spelled : SpelledAt (Scope.ofFile (Registry.assembled [ownEntryFile, valueFile])
      context.file {}) [] (some ".a.M.Entry") ".c.Value" := by
    rw [same]
    exact .mapValue (.here (List.mem_singleton_self _)) (List.mem_singleton_self _) rfl rfl rfl
  have found : DeclaredAt [ownEntryFile, valueFile] ".c.Value" ⟨valueFile, "Value"⟩ :=
    ⟨by simp, File.mem_declaredRefs_iff.mp (by decide), by decide⟩
  have ownEntry : context.file.Declares (Name.qualified ".a.M.Entry") := by
    rw [same]
    exact File.mem_declaredRefs_iff.mp (by decide)
  obtain ⟨fullName, -, binds⟩ := bound _ _ _ _ spelled found (by decide)
  refine ⟨output, generated, typeImports context, ?_⟩
  cases binds (by simpa using ownEntry) with
  | name unnamed => exact absurd unnamed (by decide)
  | root packaged earliest entry =>
      rw [fullName] at entry
      exact ⟨_, entry, _, _, content⟩

/-- The type of the values of a map may be spelled without being bound, if the entry of the map is
declared in another file.  The value type is then imported only where something else asks for its
root. -/
theorem foreign_map_value_not_imported :
    ¬ ∀ (files : List File) (registry : Registry) (fileName : String) (options : Options)
      (output : GeneratedFile), Registry.ofFiles files = .ok registry →
      (∀ file ∈ files, Name.Undotted file.package) →
      generate registry fileName dialect options = .ok output →
      ∀ context : FileContext, context.registry = registry → context.file ∈ files →
      context.file.name = fileName → context.options = options →
      ∀ around mapRef? ref location,
      SpelledAt (Scope.ofFile registry context.file options) around mapRef? ref →
      DeclaredAt files ref location → location.file.name ≠ fileName →
      location.file.package ≠ "" →
      firstSegment location.fullName ∈ (typeImports context).namespaces.map Prod.fst := by
  intro imported
  have undotted : ∀ file ∈ foreignEntrySamples, Name.Undotted file.package := by
    simp [foreignEntrySamples, foreignEntryFile, valueFile, Name.Undotted]
  let registry := Registry.assembled foreignEntrySamples
  have spelled : SpelledAt (Scope.ofFile registry foreignEntryFile {}) [] (some ".b.Entry")
      ".c.Value" :=
    .mapValue (.here (List.mem_singleton_self _)) (List.mem_singleton_self _) rfl rfl rfl
  have found : DeclaredAt foreignEntrySamples ".c.Value" ⟨valueFile, "Value"⟩ :=
    ⟨by simp [foreignEntrySamples], File.mem_declaredRefs_iff.mp (by decide), by decide⟩
  have root := imported foreignEntrySamples registry "a.proto" {} _ rfl undotted rfl
    (dialect.fileContext registry {} foreignEntryFile []) rfl (List.mem_cons_self ..) rfl rfl
    _ _ _ _ spelled found (by decide) (by decide)
  exact absurd root (by decide)

end RpcBindings.Declarations
