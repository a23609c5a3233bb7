/-
Module: RpcBindings.Proofs.Script.Legible
Purpose: The templates of scripts, and when each of their lines can be told to lie in its group.
Main exports: Script.Legible, Script.ClearFrame, Script.Legible.clearFrame, Store.inGroup_thunk,
  Store.inGroup_reducerSteps, Bridge.PortableNames, Bridge.inGroup_unarySteps,
  Bridge.inGroup_streamSteps
-/
import RpcBindings.Proofs.Brackets.Stores
import RpcBindings.Proofs.Script.ExportNames
import RpcBindings.Proofs.Script.Statements
import RpcBindings.Proofs.Store.Agreement

namespace RpcBindings

open Layout
open Name (AllPortable)
open Script (InGroup forall_inGroup_block)

/-!
The fixed texts of a template hold no line ends, and a line that ends a group begins with the
bracket that closes it.  So all depends on the texts of the input: names and references must be
portable where they are bound, and the other texts must not break their lines.
-/

/-! ### Texts of the input -/

namespace Script

/-- A file and options from which a script is generated that can be read line by line. -/
structure Legible (file : File) (options : Options) : Prop where
  services : ∀ service ∈ file.services, AllPortable service.texts
  fileName : Unbroken file.name
  options : ∀ text ∈ options.texts, Unbroken text

/-- The texts around the code of the services can be told from their lines. -/
structure ClearFrame (context : FileContext) : Prop where
  inputId : Unbroken context.inputId
  clientModule : Unbroken context.options.clientModule
  storeTypes : Unbroken (Store.typesModule context.options)
  typesModule : Unbroken context.typesModule
  types : ∀ type ∈ context.types.toList, Name.Portable type

theorem Legible.clearFrame {dialect : Dialect} {registry : Registry} {fileName : String}
    {options : Options} {context : FileContext} (exporting : MethodExporting dialect)
    (made : ContextFor registry fileName dialect options context)
    (legible : Legible context.file options) : ClearFrame context := by
  have given {text : Option String} (listed : ∀ value ∈ text, value ∈ options.texts) :
      ∀ value ∈ text, Unbroken value :=
    fun value member => legible.options value (listed value member)
  have inputId : context.inputId = options.inputId.getD context.file.name := by
    obtain ⟨services, -, same⟩ := made.bound
    rw [same]
    rfl
  have imported : ∀ value ∈ options.typesImport, Unbroken value :=
    given fun value member => by simp_all [Options.texts]
  have stem : Unbroken (Path.stem context.file.name) := fun inside =>
    legible.fileName (Path.mem_of_mem_stem inside)
  refine ⟨?_, ?_, ?_, ?_, ?_⟩
  · rw [inputId]
    exact unbroken_getD (given fun value member => by simp_all [Options.texts]) legible.fileName
  · rw [made.options_eq]
    exact unbroken_getD (given fun value member => by simp_all [Options.texts]) (by decide)
  · rw [made.options_eq]
    exact unbroken_getD imported (by decide)
  · rw [FileContext.typesModule, made.options_eq]
    exact unbroken_getD imported (stem.between (by decide) (by decide))
  · intro type listed
    obtain ⟨ref, used, rfl⟩ := (exporting.mem_types_iff made).mp listed
    obtain ⟨service, ofFile, method, ofService, written⟩ := File.mem_methodRefs_iff.mp used
    have methodPortable :=
      Service.portable_methods (legible.services service ofFile) method ofService
    exact (methodPortable.tail ref written).lastSegment

end Script

/-! ### Stores -/

namespace Store

variable {dialect : Dialect} {flavor : Flavor} {write : Thunk → List Step} {file : File}
  {service : Service}

theorem portable_thunkOf (portable : AllPortable service.texts) {method : Method}
    (member : method ∈ service.methods) : (thunkOf file service method).Portable := by
  have name := Service.portable_name portable
  have methodPortable := Service.portable_methods portable method member
  have methodName := Method.portable_name methodPortable
  exact
    { exported := Script.portable_exportName name methodName
      call := methodName.decapitalize
      action := portable_actionName name methodName
      requestType := (Method.portable_inputType methodPortable).lastSegment
      responseType := (Method.portable_outputType methodPortable).lastSegment }

/-- The type and the payload of an action have a line each. -/
theorem inGroup_dispatch {action payload : String} (actionPortable : Name.Portable action)
    (payloadUnbroken : Unbroken payload) :
    ∀ step ∈ Thunk.dispatch action payload, InGroup step := by
  simp only [Thunk.dispatch, List.forall_mem_cons, List.not_mem_nil, IsEmpty.forall_iff,
    implies_true, and_true, InGroup, unbroken_append, actionPortable.unbroken, payloadUnbroken]
  and_intros
  all_goals exact .literal (by decide)

section Thunks

variable {thunk : Thunk} (portable : thunk.Portable)

include portable

theorem inGroup_dispatchRequest : ∀ step ∈ thunk.dispatchRequest, InGroup step :=
  inGroup_dispatch (portable.action.append (by decide)) (by decide)

theorem inGroup_dispatchResponse : ∀ step ∈ thunk.dispatchResponse, InGroup step :=
  List.forall_mem_cons.mpr
    ⟨.literal (by decide), inGroup_dispatch (portable.action.append (by decide)) (by decide)⟩

theorem inGroup_dispatchError : ∀ step ∈ thunk.dispatchError, InGroup step :=
  inGroup_dispatch (by decide) (portable.action.unbroken.between (by decide) (by decide))

theorem inGroup_thunk (store : StoreDialect dialect flavor write) :
    ∀ step ∈ write thunk, InGroup step := by
  -- Equations, since these conditions are to be rewritten as a whole.
  have request := eq_true (inGroup_dispatchRequest portable)
  have response := eq_true (inGroup_dispatchResponse portable)
  have error := eq_true (inGroup_dispatchError portable)
  cases store with
  | typeScript =>
      simp only [TypeScript.thunkSteps, TypeScript.errorSteps, forall_inGroup_block,
        List.forall_mem_append, List.forall_mem_cons, List.not_mem_nil, IsEmpty.forall_iff,
        implies_true, and_true, request, response, error]
      simp only [InGroup, unbroken_append, portable.exported.unbroken, portable.call.unbroken,
        portable.requestType.unbroken, portable.responseType.unbroken, and_true, true_and]
      and_intros
      all_goals exact .literal (by decide)
  | flow =>
      simp only [Flow.thunkSteps, forall_inGroup_block, List.forall_mem_append,
        List.forall_mem_cons, List.not_mem_nil, IsEmpty.forall_iff, implies_true, and_true,
        request, response, error]
      simp only [InGroup, unbroken_append, portable.exported.unbroken, portable.call.unbroken,
        portable.requestType.unbroken, portable.responseType.unbroken, and_true, true_and]
      and_intros
      all_goals exact .literal (by decide)

end Thunks

theorem tidy_bindingOf (store : StoreDialect dialect flavor write) {method : Method}
    (portable : (thunkOf file service method).Portable) :
    (bindingOf write file service method).Tidy := by
  cases store with
  | typeScript => exact portable.tidy_bind (TypeScript.tidy_thunkSteps portable)
  | flow => exact portable.tidy_bind (Flow.tidy_thunkSteps portable)

section State

variable {exports : Exports} {bindings : List Binding}

theorem inGroup_thunkMapSteps (portable : exports.Portable)
    (tidy : ∀ binding ∈ bindings, binding.Tidy) :
    ∀ step ∈ thunkMapSteps exports bindings, InGroup step := by
  have listed : InGroup (.lines (withCommas (bindings.map Binding.exported))) :=
    unbroken_withCommas <| List.forall_mem_map.mpr fun binding member =>
      (tidy binding member).exported.unbroken
  simp only [thunkMapSteps, forall_inGroup_block, List.forall_mem_singleton, listed,
    unbroken_append, portable.thunks.unbroken]
  decide

theorem unbroken_optional (store : StoreDialect dialect flavor write) {type : String}
    (unbroken : Unbroken type) : Unbroken (flavor.optional type) := by
  cases store with
  | typeScript => exact unbroken.append (by decide)
  | flow => exact .append (by decide) unbroken

theorem unbroken_typeEntries (store : StoreDialect dialect flavor write) {binding : Binding}
    (tidy : binding.Tidy) :
    ∀ entry ∈ typeEntries flavor.optional binding, Unbroken entry.text := by
  simp only [typeEntries, List.forall_mem_cons, List.not_mem_nil, IsEmpty.forall_iff,
    implies_true, and_true, Entry.text, loadingKey, requestKey, responseKey, unbroken_append,
    tidy.exported.unbroken, unbroken_optional store tidy.requestType.unbroken,
    unbroken_optional store tidy.responseType.unbroken]
  decide

theorem unbroken_initialEntries {binding : Binding} (tidy : binding.Tidy) :
    ∀ entry ∈ initialEntries binding, Unbroken entry.text := by
  simp only [initialEntries, List.forall_mem_cons, List.not_mem_nil, IsEmpty.forall_iff,
    implies_true, and_true, Entry.text, loadingKey, requestKey, responseKey, unbroken_append,
    tidy.exported.unbroken]
  decide

theorem inGroup_entryLines {entriesOf : Binding → List Entry}
    (each : ∀ binding ∈ bindings, ∀ entry ∈ entriesOf binding, Unbroken entry.text) :
    InGroup (.lines (withCommas ((bindings.flatMap entriesOf).map Entry.text))) := by
  refine unbroken_withCommas (List.forall_mem_map.mpr fun entry member => ?_)
  obtain ⟨binding, bindingMember, own⟩ := List.mem_flatMap.mp member
  exact each binding bindingMember entry own

theorem inGroup_stateTypeSteps (store : StoreDialect dialect flavor write)
    (portable : exports.Portable) (tidy : ∀ binding ∈ bindings, binding.Tidy) :
    ∀ step ∈ stateTypeSteps flavor exports bindings, InGroup step := by
  have listed := inGroup_entryLines fun binding member =>
    unbroken_typeEntries store (tidy binding member)
  simp only [stateTypeSteps, forall_inGroup_block, List.forall_mem_singleton, listed,
    unbroken_append, portable.stateType.unbroken]
  decide

theorem inGroup_initialStateSteps (portable : exports.Portable)
    (tidy : ∀ binding ∈ bindings, binding.Tidy) :
    ∀ step ∈ initialStateSteps exports bindings, InGroup step := by
  have listed := inGroup_entryLines fun binding member =>
    unbroken_initialEntries (tidy binding member)
  simp only [initialStateSteps, forall_inGroup_block, List.forall_mem_singleton, listed,
    unbroken_append, portable.stateType.unbroken, portable.initialState.unbroken]
  decide

/-! ### Reducers -/

theorem inGroup_reducerCase {action exported : String} (actionPortable : Name.Portable action)
    (exportedPortable : Name.Portable exported) {reducerCase : ReducerCase}
    (own : reducerCase = requestCase action exported ∨
      reducerCase = responseCase action exported) :
    ∀ step ∈ reducerCase.steps, InGroup step := by
  rcases own with rfl | rfl
  all_goals
    simp only [ReducerCase.steps, requestCase, responseCase, requestAction, responseAction,
      forall_inGroup_block, List.forall_mem_append, List.map_cons, List.map_nil,
      List.forall_mem_cons, List.not_mem_nil, IsEmpty.forall_iff, implies_true, and_true]
    simp only [InGroup, Entry.text, loadingKey, requestKey, responseKey, unbroken_append,
      actionPortable.unbroken, exportedPortable.unbroken, true_and]
    and_intros
    all_goals exact .literal (by decide)

theorem unbroken_reducerHeader (store : StoreDialect dialect flavor write)
    (portable : exports.Portable) : Unbroken (flavor.reducerHeader exports) := by
  cases store with
  | typeScript =>
      simp only [TypeScript.flavor, unbroken_append, portable.reducer.unbroken,
        portable.stateType.unbroken, portable.initialState.unbroken]
      decide
  | flow =>
      simp only [Flow.flavor, unbroken_append, portable.reducer.unbroken,
        portable.stateType.unbroken, portable.initialState.unbroken]
      decide

theorem inGroup_reducerSteps (store : StoreDialect dialect flavor write)
    (exportsPortable : exports.Portable) (portable : AllPortable service.texts)
    (tidy : ∀ binding ∈ bindings, binding.Tidy) :
    ∀ step ∈ reducerSteps flavor exports (reducerCases service bindings), InGroup step := by
  have cases : ∀ step ∈ (reducerCases service bindings).flatMap ReducerCase.steps,
      InGroup step := by
    intro step member
    obtain ⟨reducerCase, caseMember, inside⟩ := List.mem_flatMap.mp member
    obtain ⟨action, exported, actionPortable, exportedPortable, own⟩ :=
      exists_of_mem_reducerCases portable tidy caseMember
    exact inGroup_reducerCase actionPortable exportedPortable own step inside
  have others : ∀ step ∈ [Step.enter "default:", .line "return state", .outdent],
      InGroup step := by
    simp only [List.forall_mem_cons, List.not_mem_nil, IsEmpty.forall_iff, implies_true, and_true]
    exact ⟨.literal (by decide), .literal (by decide), trivial⟩
  refine forall_inGroup_block.mpr ⟨unbroken_reducerHeader store exportsPortable, ?_, by decide⟩
  exact forall_inGroup_block.mpr
    ⟨by decide, List.forall_mem_append.mpr ⟨cases, others⟩, by decide⟩

end State

theorem inGroup_rpcErrorSteps : ∀ step ∈ rpcErrorSteps, InGroup step := by
  simp only [rpcErrorSteps, forall_inGroup_block, List.forall_mem_cons, List.not_mem_nil,
    IsEmpty.forall_iff, implies_true, and_true]
  simp only [InGroup]
  decide

end Store

/-! ### Bridges -/

namespace Bridge

/-- The names with which the code of a method is written. -/
structure PortableNames (context : MethodContext) : Prop where
  service : Name.Portable context.service.name
  method : Name.Portable context.method.name
  requestType : Name.Portable context.requestType
  responseType : Name.Portable context.responseType

namespace PortableNames

variable {context : MethodContext} (portable : PortableNames context)

include portable

theorem fullName : Name.Portable context.fullName := by
  have dot : Name.Portable "." := by decide
  exact (portable.service.append dot).append portable.method

theorem exported :
    Name.Portable (Script.exportName context.file context.service context.method) :=
  Script.portable_exportName portable.service portable.method

theorem event : Name.Portable (eventName context.file context.service context.method) :=
  portable_eventName portable.service portable.method

end PortableNames

section Method

variable {context : MethodContext} (portable : PortableNames context) {exported : String}
  (exportedPortable : Name.Portable exported)

include portable exportedPortable

theorem inGroup_unarySteps : ∀ step ∈ unarySteps context exported, InGroup step := by
  simp only [unarySteps, replyStep, sendStep, forall_inGroup_block, List.forall_mem_append,
    List.forall_mem_cons, List.not_mem_nil, IsEmpty.forall_iff, implies_true, and_true]
  simp only [InGroup, unbroken_append, exportedPortable.unbroken, portable.requestType.unbroken,
    portable.responseType.unbroken, portable.fullName.unbroken, portable.service.unbroken,
    portable.method.unbroken, and_true]
  and_intros
  all_goals exact .literal (by decide)

theorem inGroup_streamSteps : ∀ step ∈ streamSteps context exported, InGroup step := by
  have sender : Script.Closes
      ("): ((req?: " ++ context.requestType ++ ", end?: boolean) => void) => \x7b") :=
    .append (.append (.literal (by decide)) _) _
  simp only [streamSteps, replyStep, sendStep, stopListening, forall_inGroup_block,
    List.forall_mem_append, List.forall_mem_cons, List.not_mem_nil, IsEmpty.forall_iff,
    implies_true, and_true]
  simp only [InGroup, unbroken_append, exportedPortable.unbroken, portable.event.unbroken,
    portable.requestType.unbroken, portable.responseType.unbroken, portable.fullName.unbroken,
    portable.service.unbroken, portable.method.unbroken, sender, and_true, true_and]
  and_intros
  all_goals exact .literal (by decide)

end Method

end Bridge

end RpcBindings
