/-
Module: RpcBindings.Proofs.Script.TypeLists
Purpose: The lists of types in a generated script: what they hold, in which order, and how written.
Main exports: ContextFor.exists_bindings, Script.Listing, Script.Lists, Script.Lists.renderFile_eq,
  Script.generate_lists_types
-/
import RpcBindings.Proofs.Bridge.Imports
import RpcBindings.Proofs.FirstOccurrences
import RpcBindings.Proofs.Script.Templates

namespace RpcBindings

open Layout

/-!
The bindings of all services name types, and a file is written with the set of these names.  The
scripts with one export for a method list the names at the top, where they are imported.
-/

/-! ### Every dialect -/

/-- The types with which a file is written are those of all bindings, services as declared and
methods as they are visited. -/
theorem ContextFor.exists_bindings {registry : Registry} {fileName : String} {dialect : Dialect}
    {options : Options} {context : FileContext}
    (made : ContextFor registry fileName dialect options context) :
    ∃ bindings : List (List Binding),
      List.Forall₂
        (fun service bound =>
          List.Forall₂
            (fun method binding =>
              dialect.bind registry options context.file service method = .ok binding)
            (dialect.orderedMethods service) bound)
        context.file.services bindings ∧
      context.types.toList = distinct (bindings.flatten.flatMap Binding.referencedTypes) := by
  obtain ⟨services, bound, given⟩ := made.bound
  refine ⟨services.map ServiceContext.bindings, ?_, ?_⟩
  · rw [List.forall₂_map_right_iff]
    refine bound.imp fun service serviceContext serviceBound => ?_
    obtain ⟨bindings, pairs, rfl⟩ := Dialect.bindService_eq_ok_iff.mp serviceBound
    exact pairs
  · have types : context.types = NameSet.ofList
        (services.flatMap fun service => service.bindings.flatMap Binding.referencedTypes) := by
      rw [given]
      rfl
    rw [types, NameSet.toList_ofList_eq_distinct, List.flatten_eq_flatMap, List.flatMap_map,
      List.flatMap_assoc]
    rfl

namespace Store

def TypeScript.frame : Script.Frame where
  above := TypeScript.headingSteps
  below := fun context =>
    TypeScript.errorTypeSteps ++ [.splice ("\n".intercalate context.services)]
  balanced := fun _ _ => rfl

def Flow.frame : Script.Frame where
  above := Flow.headingSteps
  below := fun context =>
    rpcErrorSteps ++ [.blank, .splice ("\n".intercalate context.services)]
  balanced := fun _ _ => rfl

end Store

namespace Script

/-! ### Scripts -/

/-- How a script lists its types. -/
structure Listing where
  frame : Frame
  keyword : String
  /-- The module from which the types are imported. -/
  module : FileContext → String
  /-- Whether the types are exported again. -/
  passesOn : Bool

namespace Listing

variable (listing : Listing) (context : FileContext)

/-- The import of the types. -/
def imports : String :=
  importBlock listing.keyword context.types.toList (listing.module context)

/-- The export of the types, if there is one. -/
def exports : String :=
  if listing.passesOn then nameBlock "export type" context.types.toList "" else ""

/-- A script with the lists of its types. -/
def script : String :=
  listing.frame.around context (listing.imports context ++ listing.exports context)

/-- The steps of both lists. -/
def steps : List Step :=
  importSteps listing.keyword context.types.toList (listing.module context) ++
    if listing.passesOn then nameListSteps "export type" context.types.toList "" else []

theorem balanced_steps : Balanced (listing.steps context) := by
  refine Balanced.append (balanced_nameListSteps _ _ _) ?_
  split
  · exact balanced_nameListSteps _ _ _
  · exact balanced_nil

theorem render_steps :
    render indentUnit (listing.steps context) =
      listing.imports context ++ listing.exports context := by
  have imported : render indentUnit (importSteps listing.keyword context.types.toList
      (listing.module context)) = listing.imports context := render_nameListSteps _ _ _
  have exported : render indentUnit
      (if listing.passesOn then nameListSteps "export type" context.types.toList "" else []) =
        listing.exports context := by
    rw [exports, ← render_nameListSteps]
    split
    · rfl
    · rfl
  rw [← imported, ← exported]
  exact renderAt_append_of_balanced _ (balanced_nameListSteps _ _ _) _ _

end Listing

def typeScriptListing : Listing where
  frame := Store.TypeScript.frame
  keyword := "import"
  module := fun context => Store.typesModule context.options
  passesOn := false

def flowListing : Listing where
  frame := Store.Flow.frame
  keyword := "import type"
  module := fun context => Store.typesModule context.options
  passesOn := true

def bridgeListing : Listing where
  frame := Bridge.frame
  keyword := "import"
  module := FileContext.typesModule
  passesOn := false

/-- The dialects that list their types, and how each of them does. -/
inductive Lists : Dialect → Listing → Prop where
  | typeScriptStore : Lists Store.TypeScript.dialect typeScriptListing
  | flowStore : Lists Store.Flow.dialect flowListing
  | bridge : Lists Bridge.dialect bridgeListing

theorem MethodExporting.exists_lists {dialect : Dialect} (exporting : MethodExporting dialect) :
    ∃ listing, Lists dialect listing := by
  cases exporting with
  | typeScriptStore => exact ⟨_, .typeScriptStore⟩
  | flowStore => exact ⟨_, .flowStore⟩
  | bridge => exact ⟨_, .bridge⟩

namespace Lists

variable {dialect : Dialect} {listing : Listing}

theorem exporting (lists : Lists dialect listing) : MethodExporting dialect := by
  cases lists with
  | typeScriptStore => exact .typeScriptStore
  | flowStore => exact .flowStore
  | bridge => exact .bridge

/-- What is written is a script with the lists of its types. -/
theorem renderFile_eq (lists : Lists dialect listing) (context : FileContext) :
    dialect.renderFile context = listing.script context := by
  rw [Listing.script, ← listing.render_steps context,
    ← listing.frame.render_eq context (listing.balanced_steps context)]
  cases lists with
  | typeScriptStore =>
      simp only [Store.TypeScript.dialect, Store.TypeScript.fileSteps, Listing.steps,
        typeScriptListing, Store.TypeScript.frame, Bool.false_eq_true, if_false, List.append_nil,
        List.append_assoc]
  | flowStore =>
      simp only [Store.Flow.dialect, Store.Flow.fileSteps, Listing.steps, flowListing,
        Store.Flow.frame, if_true, List.append_assoc]
  | bridge =>
      simp only [Bridge.dialect, Bridge.fileSteps, Listing.steps, bridgeListing, Bridge.frame,
        Bool.false_eq_true, if_false, List.append_nil]

end Lists

/-- A file without methods refers to no type for them. -/
theorem methodRefs_eq_nil_iff {file : File} :
    file.methodRefs = [] ↔ ∀ service ∈ file.services, service.methods = [] := by
  rw [File.methodRefs, List.flatMap_eq_nil_iff]
  refine forall₂_congr fun service _ => ?_
  rw [List.flatMap_eq_nil_iff, List.eq_nil_iff_forall_not_mem]
  refine forall_congr' fun method => ?_
  simp [Method.typeRefs]

/-- The types with which a file is written are those of all bindings, each once, in the order in
which services as declared and methods as visited first name them.

A script lists them at the top, in its import and, where it has one, in its export of types: the
last segments of the references of its methods.  Nothing is listed exactly when no service has a
method.  The code of a method names types of methods only in the places of its own two, and the
names that are put there are listed. -/
theorem generate_lists_types {registry : Registry} {fileName : String} {dialect : Dialect}
    {options : Options} {output : GeneratedFile}
    (generated : generate registry fileName dialect options = .ok output) :
    ∃ context, ContextFor registry fileName dialect options context ∧
      output.content = dialect.renderFile context ∧
      (∃ bindings : List (List Binding),
        List.Forall₂
          (fun service bound =>
            List.Forall₂
              (fun method binding =>
                dialect.bind registry options context.file service method = .ok binding)
              (dialect.orderedMethods service) bound)
          context.file.services bindings ∧
        context.types.toList = distinct (bindings.flatten.flatMap Binding.referencedTypes)) ∧
      ∀ listing, Lists dialect listing →
        FirstOccurrences (context.file.methodRefs.map Name.lastSegment) context.types.toList ∧
        output.content = listing.script context ∧
        (listing.imports context = "" ↔
          ∀ service ∈ context.file.services, service.methods = []) ∧
        (listing.passesOn = true → (listing.exports context = "" ↔
          ∀ service ∈ context.file.services, service.methods = [])) ∧
        ∀ service ∈ context.file.services, ∀ method ∈ service.methods,
          (∀ ref ∈ method.typeRefs, Name.lastSegment ref ∈ context.types.toList) ∧
          ∃ template, ∀ (other : Method) (otherRegistry : Registry) (binding : Binding),
            other.name = method.name → other.isDuplex = method.isDuplex →
            dialect.bind otherRegistry options context.file service other = .ok binding →
              binding.fragment =
                fill (Name.lastSegment other.inputType) (Name.lastSegment other.outputType)
                  template := by
  obtain ⟨context, made, rfl⟩ := exists_contextFor generated
  refine ⟨context, made, rfl, made.exists_bindings, fun listing lists => ?_⟩
  have exporting := lists.exporting
  have listed : context.types.toList = distinct (context.file.methodRefs.map Name.lastSegment) := by
    rw [exporting.types_eq made, NameSet.toList_ofList_eq_distinct]
  have first := firstOccurrences_iff.mpr listed
  have none_iff : context.types.toList = [] ↔
      ∀ service ∈ context.file.services, service.methods = [] := by
    rw [← methodRefs_eq_nil_iff]
    constructor
    · intro none
      rw [List.eq_nil_iff_forall_not_mem]
      intro ref used
      have name := (first.mem _).mpr (List.mem_map_of_mem used)
      rw [none] at name
      cases name
    · intro none
      rw [listed, none]
      rfl
  refine ⟨first, lists.renderFile_eq context, ?_, ?_, ?_⟩
  · rw [Listing.imports, importBlock, nameBlock_eq_empty_iff, none_iff]
  · intro passed
    rw [Listing.exports, if_pos passed, nameBlock_eq_empty_iff, none_iff]
  · intro service ofFile method ofService
    refine ⟨fun ref written => ?_, ?_⟩
    · exact (first.mem _).mpr (List.mem_map_of_mem
        (File.mem_methodRefs_iff.mpr ⟨service, ofFile, method, ofService, written⟩))
    · obtain ⟨template, fills⟩ :=
        exporting.exists_template context.file service method.name method.isDuplex
      refine ⟨template, fun other otherRegistry binding named streams bound => ?_⟩
      obtain ⟨request, -, -, rfl⟩ := Dialect.bind_eq_ok_iff.mp bound
      rw [fills _ rfl rfl named streams, exporting.typeName_eq]

/-- A service without methods, and one whose methods share their types. -/
def boardFile : File :=
  { name := "board.proto", package := "board"
    messages := [{ name := "Row" }, { name := "Cell" }]
    services :=
      [{ name := "Idle" },
       { name := "Board"
         methods := [Method.unary "Read" ".board.Cell" ".board.Row",
           Method.duplex "Write" ".board.Row" ".board.Cell"] }] }

/-- Two types are listed in the order in which the first method names them. -/
theorem generate_lists_types_boardFile :
    ∃ output, generate (Registry.assembled [boardFile]) "board.proto" Store.Flow.dialect {} =
        .ok output ∧
      ∃ front back, output.content = front ++
        "import type \x7b\n  Cell,\n  Row\n\x7d from './types'\n\n" ++
        "export type \x7b\n  Cell,\n  Row\n\x7d\n\n" ++ back := by
  obtain ⟨output, generated⟩ : ∃ output,
      generate (Registry.assembled [boardFile]) "board.proto" Store.Flow.dialect {} =
        .ok output := ⟨_, rfl⟩
  obtain ⟨context, made, -, -, lists⟩ := generate_lists_types generated
  obtain ⟨first, written, -⟩ := lists flowListing .flowStore
  have of : context.file = boardFile := (Except.ok.inj made.known).symm
  have options : context.options = {} := made.options_eq
  have names : context.types.toList = ["Cell", "Row"] := by
    rw [firstOccurrences_iff.mp first, of]
    decide
  have imports : flowListing.imports context =
      "import type \x7b\n  Cell,\n  Row\n\x7d from './types'\n\n" := by
    rw [Listing.imports, names, show flowListing.module context = "./types" by
      simp [flowListing, Store.typesModule, options]]
    decide
  have exports : flowListing.exports context =
      "export type \x7b\n  Cell,\n  Row\n\x7d\n\n" := by
    rw [Listing.exports, names]
    decide
  refine ⟨output, generated, render indentUnit (Store.Flow.frame.above context),
    render indentUnit (Store.Flow.frame.below context), ?_⟩
  rw [written, Listing.script, imports, exports]
  simp only [Frame.around, String.append_assoc]
  rfl

end Script

end RpcBindings
