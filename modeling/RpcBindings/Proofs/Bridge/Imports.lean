/-
Module: RpcBindings.Proofs.Bridge.Imports
Purpose: The types that a bridge imports, and those of them that their module exports.
Main exports: Bridge.typeImports, Bridge.renderFile_eq, Bridge.mem_types_iff,
  Bridge.generate_imports_exported_iff
-/
import RpcBindings.Proofs.Declarations.TopLevel
import RpcBindings.Proofs.Script.ExportNames

namespace RpcBindings

open Layout TypeImports

/-! ### Last segments -/

/-- What follows the last dot is the last segment. -/
theorem Name.lastSegment_member {scope name : String} (undotted : '.' ∉ name.toList) :
    Name.lastSegment (Name.member scope name) = name := by
  have kept : (name.toList.reverse ++ '.' :: scope.toList.reverse).takeWhile (fun c => c != '.') =
      name.toList.reverse := by
    rw [List.takeWhile_append_of_pos fun c member => ?_]
    · simp
    · have inside : c ∈ name.toList := List.mem_reverse.mp member
      exact bne_iff_ne.mpr fun dot => undotted (dot ▸ inside)
  have chars : (Name.member scope name).toList.reverse =
      name.toList.reverse ++ '.' :: scope.toList.reverse := by
    simp [Name.member]
  rw [Name.lastSegment, chars, kept, List.reverse_reverse, String.ofList_toList]

namespace Bridge

/-!
A bridge spells a type by the last segment of its reference and takes it from the one module of its
own input, wherever the type is declared.
-/

/-- The imports of a bridge: all names from one module. -/
def typeImports (context : FileContext) : TypeImports :=
  { named := if context.types.toList.isEmpty then [] else [(context.typesModule, context.types)] }

theorem text_typeImports (context : FileContext) :
    (typeImports context).text =
      Script.importBlock "import" context.types.toList context.typesModule := by
  unfold typeImports
  split
  · next empty =>
    rw [List.isEmpty_iff.mp empty]
    rfl
  · simp [text, hasNamespaces, String.join_cons]

def frame : Script.Frame where
  above := headingSteps
  below := callSteps
  balanced := fun _ _ => rfl

/-- The output is a heading, the imports of types, and the calls. -/
theorem renderFile_eq (context : FileContext) :
    dialect.renderFile context = frame.around context (typeImports context).text := by
  simp only [dialect]
  rw [text_typeImports]
  exact (frame.render_eq context (Script.balanced_nameListSteps _ _ _)).trans
    (congrArg (frame.around context) (Script.render_nameListSteps _ _ _))

/-- The names that are imported are the last segments of the methods' types. -/
theorem mem_types_iff {registry : Registry} {fileName : String} {options : Options}
    {context : FileContext} (made : ContextFor registry fileName dialect options context)
    {name : String} :
    name ∈ context.types.toList ↔ ∃ ref ∈ context.file.methodRefs, name = Name.lastSegment ref :=
  Script.MethodExporting.bridge.mem_types_iff made

/-- Where the package has one segment at most, the module exports the messages at the top of the
file. -/
theorem exports_lastSegment {file : File} (short : Declarations.packagePath file.package = [])
    {message : Message} (member : message ∈ file.messages) (undotted : '.' ∉ message.name.toList)
    {ref : String} (means : Name.qualified ref = file.refOf [message.name]) :
    file.Exports (Name.lastSegment ref) := by
  have spelled : file.refOf [message.name] = Name.member file.scope message.name := by
    simp [File.refOf]
  have same : Name.lastSegment ref = message.name := by
    rw [← Name.lastSegment_qualified, means, spelled, Name.lastSegment_member undotted]
  rw [File.Exports, short]
  exact Or.inr (Or.inl ⟨message, member, same⟩)

/-- The names that a bridge imports are the last segments of its methods' types, and it imports them
from the module of its own input.  The module that is declared for this input has the same name.  It
exports all these names exactly when each of them is one of a type or service at the top of the
file, in a package of one segment or none, or is the second segment of the package.  This is so
where the package has one segment at most and every method takes and answers with messages at the
top of the file. -/
theorem generate_imports_exported_iff {files : List File} {registry : Registry} {fileName : String}
    {options : Options} {bridge types : GeneratedFile}
    (loaded : Registry.ofFiles files = .ok registry)
    (companion : options.typesImport = none)
    (bridged : generate registry fileName dialect options = .ok bridge)
    (typed : generate registry fileName Declarations.dialect options = .ok types) :
    ∃ context declared : FileContext,
      ContextFor registry fileName dialect options context ∧
      ContextFor registry fileName Declarations.dialect options declared ∧
      context.file ∈ files ∧ declared.file = context.file ∧
      bridge.content =
        render Script.indentUnit (headingSteps context) ++ (typeImports context).text ++
          render Script.indentUnit (callSteps context) ∧
      types.content =
        render Script.indentUnit
            (Script.headingSteps Declarations.plugin declared.inputId ++ [.blank]) ++
          (Declarations.typeImports declared).text ++
          render Script.indentUnit (Declarations.treeSteps context.file.package
            (Declarations.packageDeclarations registry context.file options)) ∧
      "./" ++ types.name = context.typesModule ++ ".ts" ∧
      (∀ name, name ∈ context.types.toList ↔
        ∃ ref ∈ context.file.methodRefs, name = Name.lastSegment ref) ∧
      ((∀ name ∈ context.types.toList, Declarations.declares
          (Declarations.fileTree registry context.file options) name = true) ↔
        ∀ ref ∈ context.file.methodRefs, context.file.Exports (Name.lastSegment ref)) ∧
      (Declarations.packagePath context.file.package = [] →
        (∀ ref ∈ context.file.methodRefs, ∃ message ∈ context.file.messages,
          '.' ∉ message.name.toList ∧ Name.qualified ref = context.file.refOf [message.name]) →
        ∀ name ∈ context.types.toList, Declarations.declares
          (Declarations.fileTree registry context.file options) name = true) := by
  obtain ⟨compatible, rfl⟩ := Registry.ofFiles_eq_ok_iff.mp loaded
  obtain ⟨context, made, rfl⟩ := exists_contextFor bridged
  obtain ⟨declared, otherMade, rfl⟩ := exists_contextFor typed
  have same : declared.file = context.file := Except.ok.inj (otherMade.known.symm.trans made.known)
  have exported_iff : (∀ name ∈ context.types.toList, Declarations.declares
      (Declarations.fileTree (Registry.assembled files) context.file options) name = true) ↔
        ∀ ref ∈ context.file.methodRefs, context.file.Exports (Name.lastSegment ref) := by
    simp only [Declarations.declares_fileTree_iff]
    constructor
    · intro exported ref used
      exact exported _ ((mem_types_iff made).mpr ⟨ref, used, rfl⟩)
    · intro exported name listed
      obtain ⟨ref, used, rfl⟩ := (mem_types_iff made).mp listed
      exact exported ref used
  refine ⟨context, declared, made, otherMade, made.member, same, renderFile_eq context, ?_, ?_,
    fun name => mem_types_iff made, exported_iff, ?_⟩
  · obtain ⟨services, bound, given⟩ := otherMade.bound
    have package := Declarations.render_packageSteps bound
    rw [← given, same] at package
    rw [← package]
    exact Declarations.renderFile_eq declared
  · have module : context.typesModule = Path.declarationModule fileName := by
      rw [FileContext.typesModule, made.options_eq, companion, made.file_name]
      rfl
    rw [module]
    simp [Declarations.dialect, Path.declarationModule, ← String.toList_inj]
  · intro short top
    refine exported_iff.mpr fun ref used => ?_
    obtain ⟨message, messageMember, undotted, means⟩ := top ref used
    exact exports_lastSegment short messageMember undotted means

/-- A service of a package with one segment, whose methods use a message at the top of the file. -/
def ownMessageFile : File :=
  { name := "maps.proto", package := "maps", messages := [{ name := "Point" }]
    services := [{ name := "Maps", methods := [Method.unary "Get" ".maps.Point" ".maps.Point"] }] }

theorem generate_imports_exported_ownMessageFile :
    ∃ bridge types, generate (Registry.assembled [ownMessageFile]) "maps.proto" dialect {} =
        .ok bridge ∧
      generate (Registry.assembled [ownMessageFile]) "maps.proto" Declarations.dialect {} =
        .ok types ∧
      "./" ++ types.name = "./maps.d.ts" ∧
      ∃ context, ContextFor (Registry.assembled [ownMessageFile]) "maps.proto" dialect {} context ∧
        context.typesModule = "./maps.d" ∧ "Point" ∈ context.types.toList ∧
        Declarations.declares
          (Declarations.fileTree (Registry.assembled [ownMessageFile]) ownMessageFile {}) "Point" =
            true := by
  have loaded : Registry.ofFiles [ownMessageFile] = .ok (Registry.assembled [ownMessageFile]) := rfl
  obtain ⟨bridge, bridged⟩ : ∃ bridge,
      generate (Registry.assembled [ownMessageFile]) "maps.proto" dialect {} = .ok bridge :=
    ⟨_, rfl⟩
  obtain ⟨types, typed⟩ : ∃ types,
      generate (Registry.assembled [ownMessageFile]) "maps.proto" Declarations.dialect {} =
        .ok types := ⟨_, rfl⟩
  obtain ⟨context, declared, made, -, member, -, -, -, module, imported, -, exported⟩ :=
    generate_imports_exported_iff loaded rfl bridged typed
  have file : context.file = ownMessageFile := List.mem_singleton.mp member
  rw [file] at imported exported
  have point : "Point" ∈ context.types.toList :=
    (imported "Point").mpr ⟨".maps.Point", by decide, by decide⟩
  have top : ∀ ref ∈ ownMessageFile.methodRefs, ∃ message ∈ ownMessageFile.messages,
      '.' ∉ message.name.toList ∧ Name.qualified ref = ownMessageFile.refOf [message.name] := by
    intro ref used
    have same : ref = ".maps.Point" := by simpa [File.methodRefs, ownMessageFile, Method.unary,
      Method.typeRefs] using used
    rw [same]
    exact ⟨_, List.mem_singleton_self _, by decide, by decide⟩
  have own : context.typesModule = "./maps.d" := by
    rw [FileContext.typesModule, made.options_eq, file]
    decide
  refine ⟨bridge, types, bridged, typed, ?_, context, made, own, point,
    exported (by decide) top _ point⟩
  rw [module, own]
  decide

/-- A service whose methods use a message of another file. -/
def foreignMessageFile : File :=
  { name := "a.proto"
    services := [{ name := "Maps", methods := [Method.unary "Get" ".Value" ".Value"] }] }

def foreignMessageSamples : List File :=
  [foreignMessageFile, { name := "b.proto", messages := [{ name := "Value" }] }]

/-- A bridge may import names that their module does not export: those of types that another file
declares. -/
theorem foreign_message_not_exported :
    ¬ ∀ (files : List File) (registry : Registry) (file : File) (bridge types : GeneratedFile),
      Registry.ofFiles files = .ok registry → file ∈ files →
      generate registry file.name dialect {} = .ok bridge →
      generate registry file.name Declarations.dialect {} = .ok types →
      ∀ context, ContextFor registry file.name dialect {} context →
        ∀ name ∈ context.types.toList,
          Declarations.declares (Declarations.fileTree registry file {}) name = true := by
  intro exported
  obtain ⟨bridge, bridged⟩ : ∃ bridge, generate (Registry.assembled foreignMessageSamples)
      foreignMessageFile.name dialect {} = .ok bridge := ⟨_, rfl⟩
  obtain ⟨types, typed⟩ : ∃ types, generate (Registry.assembled foreignMessageSamples)
      foreignMessageFile.name Declarations.dialect {} = .ok types := ⟨_, rfl⟩
  obtain ⟨context, made, rfl⟩ := exists_contextFor bridged
  have file : context.file = foreignMessageFile := (Except.ok.inj made.known).symm
  have value : "Value" ∈ context.types.toList := by
    rw [mem_types_iff made, file]
    exact ⟨".Value", by decide, by decide⟩
  have declared := exported foreignMessageSamples _ foreignMessageFile _ types rfl
    (List.mem_cons_self ..) bridged typed context made "Value" value
  exact absurd declared (by decide)

end Bridge

end RpcBindings
