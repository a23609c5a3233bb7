/-
Module: RpcBindings.Proofs.Store.Actions
Purpose: When the reducers of a file answer every action type in one place only.
Main exports: Store.methodPlaces, Store.caseLabels, Store.Meets, Store.nodup_labels_iff,
  Store.generate_actions_distinct_iff
-/
import Mathlib.Data.List.Nodup
import RpcBindings.Proofs.Name.ActionTypes
import RpcBindings.Proofs.Script.ExportNames
import RpcBindings.Proofs.Store.Agreement

namespace RpcBindings.Store

open Layout

/-!
Every method has two action types, which differ in their endings.  All reducers of a file are given
every action, so an action type that two methods share changes the state of both.  Distinct names
and distinct exports do not rule this out: an action type keeps neither the case of letters nor how
the words of a name were set apart, nor where the service ends.
-/

/-- The methods of a file, each with its service, as they are declared. -/
def methodPlaces (file : File) : List (Service × Method) :=
  file.services.flatMap fun service => service.methods.map fun method => (service, method)

/-- The labels of all reducer cases that are read back from the layouts of some services. -/
def caseLabels (flavor : Flavor) (contexts : List ServiceContext) : List String :=
  contexts.flatMap fun context => (readCases (serviceSteps flavor context)).map Prod.fst

/-- The labels of the two cases of a method. -/
def placeLabels (place : Service × Method) : List String :=
  [actionName place.1 place.2 ++ "_REQUEST", actionName place.1 place.2 ++ "_RESPONSE"]

/-- In capitals, one of the services with the words of its method goes on as the other service with
the words of the other method. -/
def Meets (first second : Service × Method) : Prop :=
  Name.Continues first.1.name (callName first.2) second.1.name (callName second.2) ∨
    Name.Continues second.1.name (callName second.2) first.1.name (callName first.2)

theorem actionName_eq_iff {first second : Service × Method} :
    actionName first.1 first.2 = actionName second.1 second.2 ↔ Meets first second :=
  Name.actionType_eq_actionType_iff

/-! ### Labels -/

/-- The endings of the two labels differ in their last letter. -/
theorem append_request_ne_append_response (first second : String) :
    first ++ "_REQUEST" ≠ second ++ "_RESPONSE" := by
  intro same
  have last := congrArg (fun label => label.toList.getLast?) same
  simp at last

theorem nodup_placeLabels (place : Service × Method) : (placeLabels place).Nodup := by
  rw [placeLabels, List.nodup_cons, List.mem_singleton]
  exact ⟨append_request_ne_append_response _ _, List.nodup_singleton _⟩

/-- Two methods share a label exactly if they share their action name. -/
theorem disjoint_placeLabels_iff {first second : Service × Method} :
    List.Disjoint (placeLabels first) (placeLabels second) ↔ ¬ Meets first second := by
  rw [← actionName_eq_iff, List.disjoint_left]
  constructor
  · intro disjoint same
    refine disjoint (List.mem_cons_self ..) ?_
    rw [same]
    exact List.mem_cons_self ..
  · intro differ label inFirst inSecond
    simp only [placeLabels, List.mem_cons, List.not_mem_nil, or_false] at inFirst inSecond
    rcases inFirst with rfl | rfl <;> rcases inSecond with same | same
    · exact differ (by simpa using same)
    · exact append_request_ne_append_response _ _ same
    · exact append_request_ne_append_response _ _ same.symm
    · exact differ (by simpa using same)

/-- The labels of some methods are distinct exactly if no two methods meet. -/
theorem nodup_labels_iff (places : List (Service × Method)) :
    (places.flatMap placeLabels).Nodup ↔
      places.Pairwise fun first second => ¬ Meets first second := by
  rw [List.nodup_flatMap, and_iff_right fun place _ => nodup_placeLabels place]
  exact List.Pairwise.iff fun _ _ => disjoint_placeLabels_iff

/-- The cases of a file are those of its methods, as these are declared. -/
theorem caseLabels_eq {dialect : Dialect} {flavor : Flavor} {write : Thunk → List Step}
    (store : StoreDialect dialect flavor write) {registry : Registry} {options : Options}
    {file : File} {contexts : List ServiceContext}
    (bound : dialect.BoundServices registry options file contexts) :
    caseLabels flavor contexts = (methodPlaces file).flatMap placeLabels := by
  have labels (service : Service) (context : ServiceContext)
      (serviceBound : dialect.bindService registry options file service = .ok context) :
      (service.methods.flatMap fun method => placeLabels (service, method)) =
        (readCases (serviceSteps flavor context)).map Prod.fst := by
    rw [store.bindings_eq serviceBound, readCases_eq store, List.map_flatMap]
    rfl
  have pointwise := Traversal.map_eq_map_of_forall₂ (bound.imp labels)
  rw [caseLabels, List.flatMap_def, ← pointwise, ← List.flatMap_def]
  simp only [methodPlaces, List.flatMap_assoc, List.flatMap_map]

/-- The labels of the reducer cases of a file are the types of the requests and the responses of all
its methods.  They are distinct exactly if there are no two methods of which one goes on, behind its
service, as the other one does behind its own. -/
theorem generate_actions_distinct_iff {dialect : Dialect} {flavor : Flavor}
    {write : Thunk → List Step} {registry : Registry} {fileName : String} {options : Options}
    {output : GeneratedFile} (store : StoreDialect dialect flavor write)
    (generated : generate registry fileName dialect options = .ok output) :
    ∃ file contexts heading, registry.file? fileName = .ok file ∧
      output.content = heading ++ "\n".intercalate (contexts.map fun context =>
        render Script.indentUnit (serviceSteps flavor context)) ∧
      caseLabels flavor contexts = (methodPlaces file).flatMap placeLabels ∧
      ((caseLabels flavor contexts).Nodup ↔
        (methodPlaces file).Pairwise fun first second => ¬ Meets first second) := by
  obtain ⟨file, contexts, heading, known, bound, content⟩ := store.exists_layouts generated
  have labels := caseLabels_eq store bound
  refine ⟨file, contexts, heading, known, content, labels, ?_⟩
  rw [labels]
  exact nodup_labels_iff _

/-- Two services with a method of one name have different action types. -/
theorem generate_actions_distinct_iff_sharedSamples :
    ∃ output contexts heading,
      generate (Registry.assembled sharedSamples) "maps.proto" Flow.dialect {} = .ok output ∧
      output.content = heading ++ "\n".intercalate (contexts.map fun context =>
        render Script.indentUnit (serviceSteps Flow.flavor context)) ∧
      (caseLabels Flow.flavor contexts).Nodup := by
  have generated : ∃ output,
      generate (Registry.assembled sharedSamples) "maps.proto" Flow.dialect {} = .ok output :=
    ⟨_, rfl⟩
  obtain ⟨output, written⟩ := generated
  obtain ⟨file, contexts, heading, known, content, -, distinct⟩ :=
    generate_actions_distinct_iff .flow written
  refine ⟨output, contexts, heading, written, content, distinct.mpr ?_⟩
  have apart : ∀ file ∈ sharedSamples, (methodPlaces file).Pairwise fun first second =>
      actionName first.1 first.2 ≠ actionName second.1 second.2 := by
    decide
  simp only [ne_eq, actionName_eq_iff] at apart
  exact apart file (mem_of_file?_eq_ok known).1

/-- A service with two methods of the same words. -/
def respelledFile : File :=
  { name := "tiles.proto", messages := [{ name := "Tile" }]
    services :=
      [{ name := "Maps"
         methods := [Method.unary "GetTile" ".Tile" ".Tile",
           Method.unary "get_tile" ".Tile" ".Tile"] }] }

/-- Two services of which one has a name that ends in a word with which a method of the other one
begins. -/
def adjoinedFile : File :=
  { name := "tiles.proto", messages := [{ name := "Tile" }]
    services :=
      [{ name := "Maps", methods := [Method.unary "TileGet" ".Tile" ".Tile"] },
       { name := "Maps_Tile", methods := [Method.unary "Get" ".Tile" ".Tile"] }] }

/-- In a file the names of services, the names of each service's methods and the exports differ, but
two cases of the reducers have the same label. -/
def RepeatsLabels (file : File) : Prop :=
  (file.services.map Service.name).Nodup ∧
  (∀ service ∈ file.services, (service.methods.map Method.name).Nodup) ∧
  ∃ output contexts heading,
    generate (Registry.assembled [file]) file.name TypeScript.dialect {} = .ok output ∧
    TypeScript.dialect.BoundServices (Registry.assembled [file]) {} file contexts ∧
    output.content = heading ++ "\n".intercalate (contexts.map fun context =>
      render Script.indentUnit (serviceSteps TypeScript.flavor context)) ∧
    (Script.exportsOf contexts).Nodup ∧
    ¬ (caseLabels TypeScript.flavor contexts).Nodup

theorem actions_of_distinct_exports_repeat :
    RepeatsLabels respelledFile ∧ RepeatsLabels adjoinedFile := by
  have generated : ∀ file ∈ [respelledFile, adjoinedFile], ∃ output,
      generate (Registry.assembled [file]) file.name TypeScript.dialect {} = .ok output := by
    simp only [List.forall_mem_cons, List.not_mem_nil, false_imp_iff, implies_true, and_true]
    exact ⟨⟨_, rfl⟩, ⟨_, rfl⟩⟩
  have names : ∀ file ∈ [respelledFile, adjoinedFile],
      (file.services.map Service.name).Nodup ∧
      (∀ service ∈ file.services, (service.methods.map Method.name).Nodup) ∧
      (file.services.flatMap fun service =>
        service.methods.map (Script.exportName file service)).Nodup := by
    decide
  have repeated : ∀ file ∈ [respelledFile, adjoinedFile],
      ¬ (methodPlaces file).Pairwise fun first second =>
        actionName first.1 first.2 ≠ actionName second.1 second.2 := by
    decide +kernel
  simp only [ne_eq, actionName_eq_iff] at repeated
  suffices repeats : ∀ file ∈ [respelledFile, adjoinedFile], RepeatsLabels file from
    ⟨repeats _ (by simp), repeats _ (by simp)⟩
  intro file member
  obtain ⟨services, methods, exports⟩ := names file member
  obtain ⟨output, written⟩ := generated file member
  obtain ⟨found, contexts, heading, known, bound, content⟩ :=
    StoreDialect.typeScript.exists_layouts written
  obtain rfl : found = file := List.mem_singleton.mp (mem_of_file?_eq_ok known).1
  refine ⟨services, methods, output, contexts, heading, written, bound, content, ?_, ?_⟩
  · rwa [Script.MethodExporting.typeScriptStore.exportsOf_eq bound]
  · rw [caseLabels_eq .typeScript bound, nodup_labels_iff]
    exact repeated found member

end RpcBindings.Store
