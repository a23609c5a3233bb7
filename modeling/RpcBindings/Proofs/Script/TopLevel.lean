/-
Module: RpcBindings.Proofs.Script.TopLevel
Purpose: When the names that a script binds for one service are distinct.
Main exports: Script.Speaks.nodup_names_iff, Script.nodup_topLevel_iff
-/
import Mathlib.Data.List.Perm.Basic
import RpcBindings.Proofs.Script.Reading
import RpcBindings.Proofs.Script.Vocabulary

namespace RpcBindings.Script

/-!
Where there is one service, each source of names is free of repetitions: types are imported once,
methods are told apart by their exports, and the fixed names differ.  But no source knows of another
one, and types and methods may have any names.
-/

/-! ### The sources of names -/

section SingleService

variable {dialect : Dialect} {vocabulary : Vocabulary} {file : File} {service : Service}

theorem not_isShared (single : file.services = [service]) : file.isShared = false := by
  simp [File.isShared, single]

/-- A method is exported under its own name, the first letters lowered. -/
theorem methodExports_eq (single : file.services = [service]) :
    methodExports file service =
      service.methods.map fun method => Name.decapitalize method.name := by
  simp [methodExports, exportName, not_isShared single]

theorem nodup_methodExports (single : file.services = [service])
    (methods : (service.methods.map fun method => Name.decapitalize method.name).Nodup) :
    (methodExports file service).Nodup := by
  rw [methodExports_eq single]
  exact methods

/-- The type of a stream's events is named for the stream. -/
theorem bridge_events_eq (single : file.services = [service]) :
    bridgeVocabulary.events file service =
      (streams service).map fun method => method.name ++ "Event" := by
  have beside : bridgeVocabulary.beside file service =
      fun method => if method.isDuplex then [method.name ++ "Event"] else [] := by
    funext method
    simp [bridgeVocabulary, Bridge.eventName, not_isShared single]
  rw [Vocabulary.events, streams, beside]
  induction service.methods with
  | nil => rfl
  | cons method methods inductionHypothesis =>
      rw [List.flatMap_cons, inductionHypothesis]
      by_cases duplex : method.isDuplex = true
      · rw [if_pos duplex, List.filter_cons_of_pos duplex]
        rfl
      · rw [if_neg duplex, List.filter_cons_of_neg duplex]
        rfl

theorem storeNames_eq (single : file.services = [service]) :
    storeNames file service = ["RPC", "RPCState", "initialState", "reducer"] := by
  rw [storeNames, not_isShared single]
  rfl

/-! The fixed names of each dialect. -/

theorem fixed_typeScriptStore_eq (single : file.services = [service]) :
    typeScriptStoreVocabulary.fixed file service =
      ["client", "RPCError", "ErrFn", "ErrHandler", "RPCConfig", "RPC", "RPCState", "initialState",
        "reducer"] :=
  congrArg (["client", "RPCError", "ErrFn", "ErrHandler", "RPCConfig"] ++ ·) (storeNames_eq single)

theorem fixed_flowStore_eq (single : file.services = [service]) :
    flowStoreVocabulary.fixed file service =
      ["client", "RPCError", "RPC", "RPCState", "initialState", "reducer"] :=
  congrArg (["client", "RPCError"] ++ ·) (storeNames_eq single)

theorem fixed_bridge_eq (file : File) (service : Service) :
    bridgeVocabulary.fixed file service =
      ["ipcRenderer", "randomBytes", "replyID", "RPCErr", "ErrHandler", "ignoreErr"] := rfl

namespace Speaks

theorem nodup_fixed (speaks : Speaks dialect vocabulary) (single : file.services = [service]) :
    (vocabulary.fixed file service).Nodup := by
  cases speaks with
  | typeScriptStore =>
      rw [fixed_typeScriptStore_eq single]
      decide
  | flowStore =>
      rw [fixed_flowStore_eq single]
      decide
  | bridge =>
      rw [fixed_bridge_eq]
      decide

/-- Only bridges declare types of events. -/
theorem events_cases (speaks : Speaks dialect vocabulary) (single : file.services = [service]) :
    vocabulary.events file service = [] ∨
      vocabulary = bridgeVocabulary ∧ vocabulary.events file service =
        (streams service).map fun method => method.name ++ "Event" := by
  have none : (service.methods.flatMap fun _ => ([] : List String)) = [] :=
    List.flatMap_eq_nil_iff.mpr fun _ _ => rfl
  cases speaks with
  | typeScriptStore => exact Or.inl none
  | flowStore => exact Or.inl none
  | bridge => exact Or.inr ⟨rfl, bridge_events_eq single⟩

theorem nodup_events (speaks : Speaks dialect vocabulary) (single : file.services = [service])
    (methods : (service.methods.map fun method => Name.decapitalize method.name).Nodup) :
    (vocabulary.events file service).Nodup := by
  rcases speaks.events_cases single with none | ⟨-, some⟩
  · rw [none]
    exact List.nodup_nil
  · have injective : Function.Injective fun name => name ++ "Event" := by
      intro one other equality
      simpa using equality
    have names : (service.methods.map Method.name).Nodup := by
      refine List.Nodup.of_map Name.decapitalize ?_
      rw [List.map_map]
      exact methods
    have streamNames : ((streams service).map Method.name).Nodup :=
      names.sublist (List.filter_sublist.map Method.name)
    have eventNames := streamNames.map injective
    rw [List.map_map] at eventNames
    rw [some]
    exact eventNames

/-- No fixed name is that of the type of some events. -/
theorem disjoint_fixed_events (speaks : Speaks dialect vocabulary)
    (single : file.services = [service]) :
    (vocabulary.fixed file service).Disjoint (vocabulary.events file service) := by
  rcases speaks.events_cases single with none | ⟨rfl, some⟩
  · rw [none]
    exact List.disjoint_nil_right _
  · rw [fixed_bridge_eq, some]
    intro name member event
    obtain ⟨method, -, rfl⟩ := List.mem_map.mp event
    have others : ∀ name ∈ ["ipcRenderer", "randomBytes", "replyID", "RPCErr", "ErrHandler",
        "ignoreErr"], ¬ "Event".toList <:+ name.toList := by decide
    exact others _ member ⟨method.name.toList, String.toList_append.symm⟩

/-- Names of a script, put in the order of their sources. -/
theorem perm_names (single : file.services = [service]) {context : FileContext}
    (of : context.file = file) :
    (vocabulary.names context).Perm
      (vocabulary.fixed file service ++ context.types.toList ++ methodExports file service ++
        vocabulary.events file service) := by
  have methods : (service.methods.flatMap fun method =>
      vocabulary.beside file service method ++ [exportName file service method]).Perm
        (vocabulary.events file service ++ methodExports file service) := by
    rw [Vocabulary.events, methodExports, List.map_eq_flatMap]
    exact (List.flatMap_append_perm _ _ _).symm
  have counts := List.perm_iff_count.mp methods
  refine List.perm_iff_count.mpr fun name => ?_
  have count := counts name
  rw [List.count_append] at count
  simp only [Vocabulary.names, Vocabulary.ofService, Vocabulary.fixed, of, single,
    List.flatMap_singleton, List.count_append, count]
  omega

/-- Names repeat between sources only: a type may have the name of something that the script
declares, and an export may have a fixed name or that of the type of some events. -/
theorem nodup_names_iff (speaks : Speaks dialect vocabulary) {registry : Registry}
    {fileName : String} {options : Options} {context : FileContext}
    (made : ContextFor registry fileName dialect options context) (of : context.file = file)
    (single : file.services = [service])
    (methods : (service.methods.map fun method => Name.decapitalize method.name).Nodup) :
    (vocabulary.names context).Nodup ↔
      context.types.toList.Disjoint (vocabulary.fixed file service ++ methodExports file service ++
        vocabulary.events file service) ∧
      (methodExports file service).Disjoint
        (vocabulary.fixed file service ++ vocabulary.events file service) := by
  have fixed := speaks.nodup_fixed single
  have types := speaks.exporting.nodup_types made
  have exports := nodup_methodExports single methods
  have events := speaks.nodup_events single methods
  have apart := speaks.disjoint_fixed_events single
  rw [(perm_names single of).nodup_iff]
  simp only [List.nodup_append', fixed, types, exports, events, apart, true_and,
    List.disjoint_append_left, List.disjoint_append_right]
  constructor
  · intro distinct
    obtain ⟨⟨fixedTypes, fixedExports, typesExports⟩, typesEvents, exportsEvents⟩ := distinct
    exact ⟨⟨⟨List.disjoint_symm fixedTypes, typesExports⟩, typesEvents⟩,
      List.disjoint_symm fixedExports, exportsEvents⟩
  · intro distinct
    obtain ⟨⟨⟨typesFixed, typesExports⟩, typesEvents⟩, exportsFixed, exportsEvents⟩ := distinct
    exact ⟨⟨List.disjoint_symm typesFixed, List.disjoint_symm exportsFixed, typesExports⟩,
      typesEvents, exportsEvents⟩

end Speaks

end SingleService

/-! ### Distinct names -/

/-- What is generated for a file with one service is a list of statements.  The names that they bind
are the fixed names of the dialect, the last segments of the methods' types, the exports of the
methods, and in a bridge the types of the streams' events.  Where the names of the service are
portable and no other text breaks a line, they are the names that a reader finds on the lines of the
script.

If the exports are distinct, then no name repeats inside one of these sources, nor is a fixed name
the type of some events.  So the names are distinct exactly when no type has the name of something
that the script declares, and no export has a fixed name or that of the type of some events. -/
theorem nodup_topLevel_iff {dialect : Dialect} {vocabulary : Vocabulary} {registry : Registry}
    {fileName : String} {options : Options} {output : GeneratedFile} {file : File}
    {service : Service}
    (speaks : Speaks dialect vocabulary)
    (generated : generate registry fileName dialect options = .ok output)
    (known : registry.file? fileName = .ok file)
    (single : file.services = [service])
    (methods : (service.methods.map fun method => Name.decapitalize method.name).Nodup) :
    ∃ context, ContextFor registry fileName dialect options context ∧ context.file = file ∧
      Binds (Legible file options) output.content (vocabulary.names context) ∧
      (Legible file options → boundNames output.content = vocabulary.names context) ∧
      (vocabulary.names context).Perm
        (vocabulary.fixed file service ++ context.types.toList ++ methodExports file service ++
          vocabulary.events file service) ∧
      (∀ name, name ∈ context.types.toList ↔
        ∃ method ∈ service.methods, ∃ ref ∈ method.typeRefs, name = Name.lastSegment ref) ∧
      (vocabulary.fixed file service).Nodup ∧ context.types.toList.Nodup ∧
      (methodExports file service).Nodup ∧ (vocabulary.events file service).Nodup ∧
      (vocabulary.fixed file service).Disjoint (vocabulary.events file service) ∧
      ((vocabulary.names context).Nodup ↔
        context.types.toList.Disjoint (vocabulary.fixed file service ++
          methodExports file service ++ vocabulary.events file service) ∧
        (methodExports file service).Disjoint
          (vocabulary.fixed file service ++ vocabulary.events file service)) := by
  obtain ⟨context, made, rfl⟩ := exists_contextFor generated
  have of : context.file = file := Except.ok.inj (made.known.symm.trans known)
  have binds := speaks.binds_content made
  rw [of] at binds
  refine ⟨context, made, of, binds, binds.boundNames_eq, Speaks.perm_names single of, ?_,
    speaks.nodup_fixed single, speaks.exporting.nodup_types made,
    nodup_methodExports single methods, speaks.nodup_events single methods,
    speaks.disjoint_fixed_events single, speaks.nodup_names_iff made of single methods⟩
  intro name
  rw [speaks.exporting.mem_types_iff made, of, File.methodRefs, single, List.flatMap_singleton]
  constructor
  · intro found
    obtain ⟨ref, used, spelled⟩ := found
    obtain ⟨method, member, written⟩ := List.mem_flatMap.mp used
    exact ⟨method, member, ref, written, spelled⟩
  · intro found
    obtain ⟨method, member, ref, written, spelled⟩ := found
    exact ⟨ref, List.mem_flatMap.mpr ⟨method, member, written⟩, spelled⟩

/-- A service with a method that is called and one with streams. -/
def watchService : Service :=
  { name := "Maps"
    methods := [Method.unary "Find" ".maps.Point" ".maps.Area",
      Method.duplex "Watch" ".maps.Area" ".maps.Point"] }

def watchFile : File :=
  { name := "maps.proto", package := "maps", messages := [{ name := "Point" }, { name := "Area" }]
    services := [watchService] }

/-- Eleven names stand at the top of a bridge with two methods, and a reader finds them all. -/
theorem nodup_topLevel_watchFile :
    ∃ output context, generate (Registry.assembled [watchFile]) "maps.proto" Bridge.dialect {} =
        .ok output ∧
      Binds (Legible watchFile {}) output.content (bridgeVocabulary.names context) ∧
      boundNames output.content =
        ["ipcRenderer", "randomBytes", "Point", "Area", "replyID", "RPCErr", "ErrHandler",
          "ignoreErr", "find", "WatchEvent", "watch"] ∧
      (boundNames output.content).Nodup := by
  obtain ⟨output, generated⟩ : ∃ output,
      generate (Registry.assembled [watchFile]) "maps.proto" Bridge.dialect {} = .ok output :=
    ⟨_, rfl⟩
  have single : watchFile.services = [watchService] := rfl
  obtain ⟨context, made, of, binds, read, -, -, -, -, -, -, -, distinct⟩ :=
    nodup_topLevel_iff .bridge generated rfl single (by decide)
  have types : context.types.toList = ["Point", "Area"] := by
    rw [MethodExporting.bridge.types_eq made, of]
    decide
  have typesApart : ∀ name ∈ ["Point", "Area"],
      name ∉ bridgeVocabulary.fixed watchFile watchService ++
        methodExports watchFile watchService ++ bridgeVocabulary.events watchFile watchService := by
    decide
  have exportsApart : ∀ name ∈ methodExports watchFile watchService,
      name ∉ bridgeVocabulary.fixed watchFile watchService ++
        bridgeVocabulary.events watchFile watchService := by
    decide
  have legible : Legible watchFile {} :=
    { services := by decide, fileName := by decide, options := by decide }
  have names : bridgeVocabulary.names context =
      ["ipcRenderer", "randomBytes", "Point", "Area", "replyID", "RPCErr", "ErrHandler",
        "ignoreErr", "find", "WatchEvent", "watch"] := by
    rw [Vocabulary.names, types, of]
    decide
  rw [types] at distinct
  refine ⟨output, context, generated, binds, (read legible).trans names, ?_⟩
  rw [read legible]
  exact distinct.mpr ⟨typesApart, exportsApart⟩

/-- A service whose one method is exported under the name of the reducer. -/
def reducerService : Service :=
  { name := "Maps", methods := [Method.unary "Reducer" ".Point" ".Point"] }

def reducerFile : File :=
  { name := "maps.proto", messages := [{ name := "Point" }], services := [reducerService] }

/-- Distinct exports are not enough: an export may have a name that the dialect binds itself. -/
theorem names_of_one_service_repeat :
    ¬ ∀ (dialect : Dialect) (vocabulary : Vocabulary) (registry : Registry) (options : Options)
      (file : File) (service : Service) (output : GeneratedFile), Speaks dialect vocabulary →
      registry.file? file.name = .ok file → file.services = [service] →
      (service.methods.map fun method => Name.decapitalize method.name).Nodup →
      generate registry file.name dialect options = .ok output →
      ∀ context, ContextFor registry file.name dialect options context →
        (vocabulary.names context).Nodup := by
  intro distinct
  obtain ⟨output, generated⟩ : ∃ output, generate (Registry.assembled [reducerFile])
      reducerFile.name Store.TypeScript.dialect {} = .ok output := ⟨_, rfl⟩
  obtain ⟨context, made, rfl⟩ := exists_contextFor generated
  have of : context.file = reducerFile := (Except.ok.inj made.known).symm
  have methods :
      (reducerService.methods.map fun method => Name.decapitalize method.name).Nodup := by decide
  have names := distinct _ _ _ _ reducerFile reducerService _ .typeScriptStore rfl rfl methods
    generated context made
  have apart := ((Speaks.nodup_names_iff .typeScriptStore made of rfl methods).mp names).2
  have exported : "reducer" ∈ methodExports reducerFile reducerService := by decide
  have fixed : "reducer" ∈ typeScriptStoreVocabulary.fixed reducerFile reducerService := by decide
  exact apart exported (List.mem_append_left _ fixed)

end RpcBindings.Script
