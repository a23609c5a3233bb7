/-
Module: RpcBindings.Proofs.TypeImports.Specifiers
Purpose: What the specifiers of imported types mean in the file that is generated.
Main exports: TypeImports.TypeImporting, TypeImports.generate_resolves_modules
-/
import RpcBindings.Proofs.Bridge.Imports
import RpcBindings.Proofs.Path.Resolution
import RpcBindings.Proofs.TypeImports.Roots

namespace RpcBindings

open Layout

namespace TypeImports

open Script (Frame)

/-!
A specifier is the path of a declaration file behind a dot and a slash.  Such a specifier is read
from the directory of the importing file, and output files lie in the directories of their inputs;
the path was written from the top.
-/

/-- The dialects whose output imports types, with their imports, and with the files that declare
what is imported.  A bridge takes all names from its own input, whichever file declares them. -/
inductive TypeImporting :
    Dialect → Frame → (FileContext → TypeImports) → (FileContext → File → Prop) → Prop where
  | bridge :
      TypeImporting Bridge.dialect Bridge.frame Bridge.typeImports
        fun context file => file = context.file
  | roots {dialect : Dialect} {frame : Frame} {imported : FileContext → List Location}
      (importing : RootImporting dialect frame imported) :
      TypeImporting dialect frame (fun context => ofLocations context.moduleOf (imported context))
        fun context file => ∃ location ∈ imported context, location.file = file

section Importing

variable {dialect : Dialect} {frame : Frame} {importsOf : FileContext → TypeImports}
  {declares : FileContext → File → Prop}

/-- In the output the imports stand inside the frame. -/
theorem TypeImporting.renderFile_eq (importing : TypeImporting dialect frame importsOf declares)
    (context : FileContext) :
    dialect.renderFile context = frame.around context (importsOf context).text := by
  cases importing with
  | bridge => exact Bridge.renderFile_eq context
  | roots importing => exact importing.renderFile_eq context

theorem TypeImporting.outputName_eq (importing : TypeImporting dialect frame importsOf declares)
    (fileName : String) :
    dialect.outputName fileName = Path.stem fileName ++ "." ++ dialect.suffix := by
  cases importing with
  | bridge => rfl
  | roots importing =>
      cases importing with
      | promises => rfl
      | declarations => rfl

/-- A bridge imports from the module of its own input, and only where it has methods. -/
theorem mem_modules_bridge_iff {registry : Registry} {fileName : String} {options : Options}
    {context : FileContext} (made : ContextFor registry fileName Bridge.dialect options context)
    {module : String} :
    module ∈ (Bridge.typeImports context).modules ↔
      module = context.typesModule ∧ ∃ ref, ref ∈ context.file.methodRefs := by
  have used_iff : context.types.toList ≠ [] ↔ ∃ ref, ref ∈ context.file.methodRefs := by
    constructor
    · intro some
      obtain ⟨name, member⟩ := List.exists_mem_of_ne_nil _ some
      obtain ⟨ref, used, -⟩ := (Bridge.mem_types_iff made).mp member
      exact ⟨ref, used⟩
    · intro some
      obtain ⟨ref, used⟩ := some
      exact List.ne_nil_of_mem ((Bridge.mem_types_iff made).mpr ⟨ref, used, rfl⟩)
  rw [← used_iff]
  by_cases empty : context.types.toList = []
  · simp [modules, Bridge.typeImports, empty]
  · simp [modules, Bridge.typeImports, empty]

/-- Types are imported from the modules that are declared for their files. -/
theorem TypeImporting.exists_declares
    (importing : TypeImporting dialect frame importsOf declares) {files : List File}
    (compatible : Compatible files) {fileName : String} {options : Options} {context : FileContext}
    (made : ContextFor (Registry.assembled files) fileName dialect options context)
    (companion : options.typesImport = none) {module : String}
    (member : module ∈ (importsOf context).modules) :
    ∃ file ∈ files, declares context file ∧ module = Path.declarationModule file.name := by
  have declared : ∀ file, context.moduleOf file = Path.declarationModule file.name :=
    FileContext.moduleOf_eq (made.options_eq ▸ companion)
  cases importing with
  | bridge =>
      have own : context.moduleOf context.file = context.typesModule := if_pos rfl
      refine ⟨context.file, made.member, rfl, ?_⟩
      rw [← declared, own]
      exact ((mem_modules_bridge_iff made).mp member).1
  | roots importing =>
      obtain ⟨location, listed, rfl⟩ := exists_of_mem_modules member
      obtain ⟨ref, found⟩ := importing.exists_declaredAt compatible made.registry_eq listed
      exact ⟨location.file, found.member, ⟨location, listed, rfl⟩, declared location.file⟩

end Importing

/-- The output that is declared for a file has the path of the declared module. -/
theorem outputName_declarations (fileName : String) :
    Declarations.dialect.outputName fileName = Path.stem fileName ++ ".d" ++ ".ts" := by
  have suffix : "." ++ "d.ts" = ".d" ++ ".ts" := by decide
  have named : Declarations.dialect.outputName fileName = Path.stem fileName ++ "." ++ "d.ts" := rfl
  rw [named, String.append_assoc, suffix, ← String.append_assoc]

theorem eq_of_outputName {fileName target : String}
    (path : Declarations.dialect.outputName fileName = target ++ ".ts") :
    target = Path.stem fileName ++ ".d" := by
  have written : target ++ ".ts" = Path.stem fileName ++ ".d" ++ ".ts" :=
    path.symm.trans (outputName_declarations fileName)
  have chars : target.toList ++ ".ts".toList =
      (Path.stem fileName ++ ".d").toList ++ ".ts".toList := by
    rw [← String.toList_append, written, String.toList_append]
  exact String.toList_inj.mp (List.append_cancel_right chars)

/-- Each module from which types are imported is named after the output that is declared for the
file of the types: it has the path of this output without its extension.  In the generated file the
specifier means this output exactly when the path leads there from the directory of the generated
file, too.  If the path does not go up, the generated file must lie in no directory for this. -/
theorem generate_resolves_modules {files : List File} {registry : Registry} {fileName : String}
    {dialect : Dialect} {frame : Frame} {importsOf : FileContext → TypeImports}
    {declares : FileContext → File → Prop} {options : Options} {output : GeneratedFile}
    (loaded : Registry.ofFiles files = .ok registry)
    (importing : TypeImporting dialect frame importsOf declares)
    (companion : options.typesImport = none)
    (generated : generate registry fileName dialect options = .ok output) :
    ∃ context imports, ContextFor registry fileName dialect options context ∧
      imports = importsOf context ∧
      output.content = frame.around context imports.text ∧
      output.name = Path.stem fileName ++ "." ++ dialect.suffix ∧
      ∀ module ∈ imports.modules, ∃ declaring ∈ files, ∃ target,
        declares context declaring ∧
        Declarations.dialect.outputName declaring.name = target ++ ".ts" ∧
        module = "./" ++ target ∧
        (Path.resolve output.name module = Path.place target ↔
          Path.Reaches (Path.directory output.name) target) ∧
        (".." ∉ Path.segments target →
          (Path.resolve output.name module = Path.place target ↔
            Path.directory output.name = Path.start target)) := by
  obtain ⟨compatible, rfl⟩ := Registry.ofFiles_eq_ok_iff.mp loaded
  obtain ⟨context, made, rfl⟩ := exists_contextFor generated
  refine ⟨context, _, made, rfl, importing.renderFile_eq context,
    importing.outputName_eq fileName, fun module listed => ?_⟩
  obtain ⟨declaring, declaringMember, declared, rfl⟩ :=
    importing.exists_declares compatible made companion listed
  have means := Path.resolve_declarationModule_eq_iff (dialect.outputName fileName) declaring.name
  refine ⟨declaring, declaringMember, Path.stem declaring.name ++ ".d", declared,
    outputName_declarations declaring.name, ?_, means, fun descending => ?_⟩
  · rw [Path.declarationModule, String.append_assoc]
  · exact means.trans (Path.reaches_iff_of_descending descending Path.up_directory_of_rooted)

/-- Where all files lie in no directory, the specifier means the declared output. -/
theorem generate_resolves_modules_ownMessageFile :
    ∃ output, generate (Registry.assembled [Bridge.ownMessageFile]) "maps.proto" Bridge.dialect {} =
        .ok output ∧
      ∃ context, ContextFor (Registry.assembled [Bridge.ownMessageFile]) "maps.proto" Bridge.dialect
          {} context ∧
        "./maps.d" ∈ (Bridge.typeImports context).modules ∧
        Path.resolve output.name "./maps.d" = Path.place "maps.d" := by
  have loaded : Registry.ofFiles [Bridge.ownMessageFile] =
      .ok (Registry.assembled [Bridge.ownMessageFile]) := rfl
  obtain ⟨output, generated⟩ : ∃ output,
      generate (Registry.assembled [Bridge.ownMessageFile]) "maps.proto" Bridge.dialect {} =
        .ok output := ⟨_, rfl⟩
  obtain ⟨context, _, made, rfl, -, name, modules⟩ :=
    generate_resolves_modules loaded .bridge rfl generated
  have listed : "./maps.d" ∈ (Bridge.typeImports context).modules := by
    have file : context.file = Bridge.ownMessageFile := (Except.ok.inj made.known).symm
    rw [mem_modules_bridge_iff made, FileContext.typesModule, made.options_eq, file]
    exact ⟨by decide, ".maps.Point", by decide⟩
  obtain ⟨declaring, declaringMember, target, -, path, -, -, means⟩ := modules "./maps.d" listed
  obtain rfl := List.mem_singleton.mp declaringMember
  have same : target = "maps.d" := (eq_of_outputName path).trans (by decide)
  have top : output.name = "maps.ipc.ts" := by
    rw [name]
    decide
  rw [same] at means
  exact ⟨output, generated, context, made, listed, (means (by decide)).mpr (by rw [top]; decide)⟩

/-- A file that lies in a directory. -/
def nestedFile : File :=
  { name := "a/b.proto", messages := [{ name := "Value" }]
    services := [{ name := "Maps", methods := [Method.unary "Get" ".Value" ".Value"] }] }

/-- A specifier need not mean the declared output, not even that of its own input: the directory of
the input is gone through twice. -/
theorem specifier_repeats_directory :
    ¬ ∀ (files : List File) (registry : Registry) (fileName : String) (dialect : Dialect)
      (frame : Frame) (importsOf : FileContext → TypeImports)
      (declares : FileContext → File → Prop) (output : GeneratedFile),
      Registry.ofFiles files = .ok registry → TypeImporting dialect frame importsOf declares →
      generate registry fileName dialect {} = .ok output →
      ∀ context, ContextFor registry fileName dialect {} context →
      ∀ module ∈ (importsOf context).modules, ∃ declaring ∈ files, ∃ target,
        declares context declaring ∧
        Declarations.dialect.outputName declaring.name = target ++ ".ts" ∧
        Path.resolve output.name module = Path.place target := by
  intro resolves
  obtain ⟨output, generated⟩ : ∃ output,
      generate (Registry.assembled [nestedFile]) "a/b.proto" Bridge.dialect {} = .ok output :=
    ⟨_, rfl⟩
  obtain ⟨context, made, rfl⟩ := exists_contextFor generated
  have file : context.file = nestedFile := (Except.ok.inj made.known).symm
  have listed : "./a/b.d" ∈ (Bridge.typeImports context).modules := by
    rw [mem_modules_bridge_iff made, FileContext.typesModule, made.options_eq, file]
    exact ⟨by decide, ".Value", by decide⟩
  obtain ⟨declaring, member, target, -, path, means⟩ := resolves [nestedFile] _ "a/b.proto" _ _ _ _
    _ rfl .bridge generated context made _ listed
  obtain rfl := List.mem_singleton.mp member
  have same : target = "a/b.d" := (eq_of_outputName path).trans (by decide)
  have meant : Path.resolve "a/b.ipc.ts" "./a/b.d" = Path.place "a/b.d" := same ▸ means
  exact absurd meant (by decide)

end TypeImports

end RpcBindings
