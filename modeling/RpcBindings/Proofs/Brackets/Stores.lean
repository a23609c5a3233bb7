/-
Module: RpcBindings.Proofs.Brackets.Stores
Purpose: The brackets of stores match, in both languages.
Main exports: Store.Thunk.Portable, Store.Flavor.Tidy, Store.tidy_serviceSteps,
  Store.TypeScript.tidy_dialect, Store.Flow.tidy_dialect
-/
import RpcBindings.Proofs.Brackets.Scripts
import RpcBindings.Target.Store.Flow
import RpcBindings.Target.Store.TypeScript

namespace RpcBindings.Store

open Layout
open Name (AllPortable)

/-!
A store is laid out in parts that match one by one: thunks, their map, the state with its type, and
the reducer.  The languages differ in the thunks, in optional types and in one header.
-/

/-! ### Thunks -/

structure Thunk.Portable (thunk : Thunk) : Prop where
  exported : Name.Portable thunk.exported
  call : Name.Portable thunk.call
  action : Name.Portable thunk.action
  requestType : Name.Portable thunk.requestType
  responseType : Name.Portable thunk.responseType

theorem portable_actionName {service : Service} {method : Method}
    (servicePortable : Name.Portable service.name) (methodPortable : Name.Portable method.name) :
    Name.Portable (actionName service method) :=
  servicePortable.actionType methodPortable.decapitalize

theorem Thunk.portable_ofMethod {context : MethodContext} (portable : context.Portable) :
    (ofMethod context).Portable where
  exported := Script.portable_exportName (Service.portable_name portable.service)
    (Method.portable_name portable.method)
  call := (Method.portable_name portable.method).decapitalize
  action := portable_actionName (Service.portable_name portable.service)
    (Method.portable_name portable.method)
  requestType := portable.requestType
  responseType := portable.responseType

theorem Thunk.Portable.tidy_bind {thunk : Thunk} (portable : thunk.Portable) {steps : List Step}
    (tidy : Tidy steps) : (thunk.bind steps).Tidy where
  exported := portable.exported
  requestType := portable.requestType
  responseType := portable.responseType
  fragment := wellBracketed_renderAt Script.brackets_indentUnit tidy 0

/-! ### State -/

structure Entry.Tidy (entry : Entry) : Prop where
  key : Name.Portable entry.key
  value : WellBracketed entry.value

theorem Entry.Tidy.text {entry : Entry} (tidy : entry.Tidy) : WellBracketed entry.text :=
  .append (.append tidy.key.wellBracketed (.literal rfl)) tidy.value

structure Exports.Portable (exports : Exports) : Prop where
  thunks : Name.Portable exports.thunks
  stateType : Name.Portable exports.stateType
  initialState : Name.Portable exports.initialState
  reducer : Name.Portable exports.reducer

/-- What differs between the languages keeps brackets matching. -/
structure Flavor.Tidy (flavor : Flavor) : Prop where
  optional {type : String} (portable : Name.Portable type) : WellBracketed (flavor.optional type)
  reducerHeader {exports : Exports} (portable : exports.Portable) :
    WellBracketed (flavor.reducerHeader exports)

theorem Exports.portable_ofService {service : Service} (portable : Name.Portable service.name)
    (shared : Bool) : (ofService shared service).Portable := by
  unfold ofService
  split
  · exact
      { thunks := portable.append (by decide)
        stateType := portable.append (by decide)
        initialState := portable.decapitalize.append (by decide)
        reducer := portable.decapitalize.append (by decide) }
  · exact
      { thunks := by decide
        stateType := by decide
        initialState := by decide
        reducer := by decide }

section Keys

variable {exported : String} (portable : Name.Portable exported)

include portable

theorem portable_loadingKey : Name.Portable (loadingKey exported) :=
  portable.append (by decide)

theorem portable_requestKey : Name.Portable (requestKey exported) :=
  portable.append (by decide)

theorem portable_responseKey : Name.Portable (responseKey exported) :=
  portable

end Keys

theorem tidy_typeEntries {flavor : Flavor} (tidy : flavor.Tidy) {binding : Binding}
    (bindingTidy : binding.Tidy) : ∀ entry ∈ typeEntries flavor.optional binding, entry.Tidy := by
  have exported := bindingTidy.exported
  simp only [typeEntries, List.forall_mem_cons, List.not_mem_nil, IsEmpty.forall_iff,
    implies_true, and_true]
  exact ⟨⟨portable_loadingKey exported, .literal rfl⟩,
    ⟨portable_requestKey exported, tidy.optional bindingTidy.requestType⟩,
    ⟨portable_responseKey exported, tidy.optional bindingTidy.responseType⟩⟩

theorem tidy_initialEntries {binding : Binding} (tidy : binding.Tidy) :
    ∀ entry ∈ initialEntries binding, entry.Tidy := by
  simp only [initialEntries, List.forall_mem_cons, List.not_mem_nil, IsEmpty.forall_iff,
    implies_true, and_true]
  exact ⟨⟨portable_loadingKey tidy.exported, .literal rfl⟩,
    ⟨portable_requestKey tidy.exported, .literal rfl⟩,
    ⟨portable_responseKey tidy.exported, .literal rfl⟩⟩

theorem tidy_entryLines {bindings : List Binding} {entriesOf : Binding → List Entry}
    (each : ∀ binding ∈ bindings, ∀ entry ∈ entriesOf binding, entry.Tidy) :
    Tidy [.lines (withCommas ((bindings.flatMap entriesOf).map Entry.text))] := by
  refine .lines (.withCommas fun text member => ?_)
  obtain ⟨entry, entryMember, rfl⟩ := List.mem_map.mp member
  obtain ⟨binding, bindingMember, own⟩ := List.mem_flatMap.mp entryMember
  exact (each binding bindingMember entry own).text

/-! ### Reducers -/

structure ReducerCase.Tidy (reducerCase : ReducerCase) : Prop where
  action : Name.Portable reducerCase.action
  changes : ∀ entry ∈ reducerCase.changes, entry.Tidy

theorem ReducerCase.Tidy.steps {reducerCase : ReducerCase} (tidy : reducerCase.Tidy) :
    Layout.Tidy reducerCase.steps := by
  have label : WellBracketed ("case '" ++ reducerCase.action ++ "': ") :=
    tidy.action.between (.literal rfl) (.literal rfl)
  have kept : Layout.Tidy [.line "...state,"] := .literal rfl
  have changes : Layout.Tidy (reducerCase.changes.map fun entry => .line (entry.text ++ ",")) :=
    .map fun entry member => .line ((tidy.changes entry member).text.append (.literal rfl))
  exact .block label (.block (.literal rfl) (kept.append changes) (.literal rfl)) (.literal rfl)

section Cases

variable {action exported : String} (actionPortable : Name.Portable action)
  (exportedPortable : Name.Portable exported)

include actionPortable exportedPortable

theorem tidy_requestCase : (requestCase action exported).Tidy where
  action := actionPortable.append (by decide)
  changes := by
    simp only [requestCase, List.forall_mem_cons, List.not_mem_nil, IsEmpty.forall_iff,
      implies_true, and_true]
    exact ⟨⟨portable_loadingKey exportedPortable, .literal rfl⟩,
      ⟨portable_requestKey exportedPortable, .literal rfl⟩⟩

theorem tidy_responseCase : (responseCase action exported).Tidy where
  action := actionPortable.append (by decide)
  changes := by
    simp only [responseCase, List.forall_mem_cons, List.not_mem_nil, IsEmpty.forall_iff,
      implies_true, and_true]
    exact ⟨⟨portable_loadingKey exportedPortable, .literal rfl⟩,
      ⟨portable_requestKey exportedPortable, .literal rfl⟩,
      ⟨portable_responseKey exportedPortable, .literal rfl⟩⟩

end Cases

/-- Each case of a reducer is made of two portable names. -/
theorem exists_of_mem_reducerCases {service : Service} {bindings : List Binding}
    (portable : AllPortable service.texts) (tidy : ∀ binding ∈ bindings, binding.Tidy)
    {reducerCase : ReducerCase} (member : reducerCase ∈ reducerCases service bindings) :
    ∃ action exported, Name.Portable action ∧ Name.Portable exported ∧
      (reducerCase = requestCase action exported ∨ reducerCase = responseCase action exported) := by
  obtain ⟨⟨method, binding⟩, paired, own⟩ := List.mem_flatMap.mp member
  obtain ⟨methodMember, bindingMember⟩ := List.of_mem_zip paired
  have methodPortable := Service.portable_methods portable method methodMember
  have action := portable_actionName (Service.portable_name portable)
    (Method.portable_name methodPortable)
  exact ⟨_, _, action, (tidy binding bindingMember).exported, List.mem_pair.mp own⟩

theorem tidy_reducerCases {service : Service} {bindings : List Binding}
    (servicePortable : AllPortable service.texts) (tidy : ∀ binding ∈ bindings, binding.Tidy) :
    ∀ reducerCase ∈ reducerCases service bindings, reducerCase.Tidy := by
  intro reducerCase member
  obtain ⟨action, exported, actionPortable, exportedPortable, rfl | rfl⟩ :=
    exists_of_mem_reducerCases servicePortable tidy member
  · exact tidy_requestCase actionPortable exportedPortable
  · exact tidy_responseCase actionPortable exportedPortable

theorem tidy_reducerSteps {flavor : Flavor} (tidy : flavor.Tidy) {exports : Exports}
    (portable : exports.Portable) {cases : List ReducerCase}
    (casesTidy : ∀ reducerCase ∈ cases, reducerCase.Tidy) :
    Tidy (reducerSteps flavor exports cases) := by
  have otherwise : Tidy [.enter "default:", .line "return state", .outdent] := by
    simp only [Tidy, List.flatMap_cons, List.flatMap_nil, Step.brackets]
    repeat rw [brackets_ofList]
    decide
  have all : Tidy (cases.flatMap ReducerCase.steps) :=
    .flatMap fun reducerCase member => (casesTidy reducerCase member).steps
  refine .block (tidy.reducerHeader portable) ?_ (.literal rfl)
  exact .block (.literal rfl) (all.append otherwise) (.literal rfl)

/-! ### Services -/

theorem tidy_thunksSteps {bindings : List Binding} (tidy : ∀ binding ∈ bindings, binding.Tidy) :
    Tidy (thunksSteps bindings) :=
  .flatMap fun binding member => (Tidy.splice (tidy binding member).fragment).append .blank

theorem tidy_serviceSteps {flavor : Flavor} (tidy : flavor.Tidy) {context : ServiceContext}
    (portable : context.Portable) : Tidy (serviceSteps flavor context) := by
  have exports := Exports.portable_ofService (Service.portable_name portable.service)
    context.file.isShared
  have thunkMap : Tidy (thunkMapSteps (Exports.ofService context.file.isShared context.service)
      context.bindings) := by
    refine .block (exports.thunks.between (.literal rfl) (.literal rfl))
      (.lines (.withCommas fun text member => ?_)) (.literal rfl)
    obtain ⟨binding, bindingMember, rfl⟩ := List.mem_map.mp member
    exact (portable.bindings binding bindingMember).exported.wellBracketed
  have stateType : Tidy (stateTypeSteps flavor
      (Exports.ofService context.file.isShared context.service) context.bindings) := by
    exact .block (exports.stateType.between (.literal rfl) (.literal rfl))
      (tidy_entryLines fun binding member =>
        tidy_typeEntries tidy (portable.bindings binding member))
      (.literal rfl)
  have initialState : Tidy (initialStateSteps
      (Exports.ofService context.file.isShared context.service) context.bindings) := by
    have header : WellBracketed
        ("const " ++ (Exports.ofService context.file.isShared context.service).initialState ++ ": " ++
          (Exports.ofService context.file.isShared context.service).stateType ++ " = ") :=
      .append (.append (exports.initialState.between (.literal rfl) (.literal rfl))
        exports.stateType.wellBracketed) (.literal rfl)
    exact .block header
      (tidy_entryLines fun binding member =>
        tidy_initialEntries (portable.bindings binding member))
      (.literal rfl)
  have reducer := tidy_reducerSteps tidy exports
    (tidy_reducerCases portable.service portable.bindings)
  exact (((((((tidy_thunksSteps portable.bindings).append thunkMap).append .blank).append
    stateType).append .blank).append initialState).append .blank).append reducer

theorem wellBracketed_renderService {flavor : Flavor} (tidy : flavor.Tidy)
    {context : ServiceContext} (portable : context.Portable) :
    WellBracketed (renderService flavor context) :=
  wellBracketed_renderAt Script.brackets_indentUnit (tidy_serviceSteps tidy portable) 0

theorem tidy_rpcErrorSteps : Tidy rpcErrorSteps :=
  .block (.literal rfl) (.cons (.literal rfl) (.cons (.literal rfl) (.literal rfl))) (.literal rfl)

theorem tidy_clientSteps {options : Options} (portable : AllPortable options.texts) :
    Tidy (clientSteps options) :=
  .cons (.line ((Options.portable_clientModule portable).between (.literal rfl) (.literal rfl)))
    .blank

theorem portable_typesModule {options : Options} (portable : AllPortable options.texts) :
    Name.Portable (typesModule options) :=
  Options.portable_typesImport portable (by decide)

/-! ### TypeScript -/

namespace TypeScript

theorem tidy_flavor : flavor.Tidy where
  optional portable := .append portable.wellBracketed (.literal rfl)
  reducerHeader portable := by
    simp only [flavor, wellBracketed_iff, brackets_append, portable.stateType.brackets_eq,
      portable.initialState.brackets_eq, portable.reducer.brackets_eq]
    repeat rw [brackets_ofList]
    decide

theorem tidy_thunkSteps {thunk : Thunk} (portable : thunk.Portable) : Tidy (thunkSteps thunk) := by
  simp only [Tidy, thunkSteps, errorSteps, Thunk.dispatchRequest, Thunk.dispatchResponse,
    Thunk.dispatchError, Thunk.dispatch, requestAction, responseAction, flatMap_brackets_block,
    List.flatMap_append, List.flatMap_cons, List.flatMap_nil, Step.brackets, brackets_append,
    portable.exported.brackets_eq, portable.call.brackets_eq, portable.action.brackets_eq,
    portable.requestType.brackets_eq, portable.responseType.brackets_eq]
  repeat rw [brackets_ofList]
  decide

theorem tidy_errorTypeSteps : Tidy errorTypeSteps := by
  have config : Tidy (block "export type RPCConfig = " [.line "errHandler?: ErrHandler,"] "") :=
    .block (.literal rfl) (.literal rfl) (.literal rfl)
  exact .append (.append (.append tidy_rpcErrorSteps
    (.cons .blank (.cons (.literal rfl) (.literal rfl)))) config) .blank

theorem tidy_fileSteps {context : FileContext} (portable : context.Portable) :
    Tidy (fileSteps context) := by
  have heading : Tidy (headingSteps context) :=
    .append (Script.tidy_headingSteps (by decide) portable.inputId)
      (tidy_clientSteps portable.options)
  have types : Tidy (Script.importSteps "import" context.types.toList
      (typesModule context.options)) :=
    Script.tidy_importSteps portable.types (.literal rfl) (portable_typesModule portable.options)
  have services : Tidy [.splice ("\n".intercalate context.services)] :=
    .splice (.intercalate portable.services)
  exact ((heading.append types).append tidy_errorTypeSteps).append services

theorem tidy_dialect : dialect.Tidy where
  typeName portable := portable.lastSegment
  mapField _ := FieldBinding.tidy_none
  bindMethod portable := (Thunk.portable_ofMethod portable).tidy_bind
    (tidy_thunkSteps (Thunk.portable_ofMethod portable))
  renderService portable := wellBracketed_renderService tidy_flavor portable
  renderFile portable := by
    simp only [dialect, render]
    exact wellBracketed_renderAt Script.brackets_indentUnit (tidy_fileSteps portable) 0

end TypeScript

/-! ### Flow -/

namespace Flow

theorem tidy_flavor : flavor.Tidy where
  optional portable := .append (.literal rfl) portable.wellBracketed
  reducerHeader portable := by
    simp only [flavor, wellBracketed_iff, brackets_append, portable.stateType.brackets_eq,
      portable.initialState.brackets_eq, portable.reducer.brackets_eq]
    repeat rw [brackets_ofList]
    decide

theorem tidy_thunkSteps {thunk : Thunk} (portable : thunk.Portable) : Tidy (thunkSteps thunk) := by
  simp only [Tidy, thunkSteps, Thunk.dispatchRequest, Thunk.dispatchResponse,
    Thunk.dispatchError, Thunk.dispatch, requestAction, responseAction, flatMap_brackets_block,
    List.flatMap_append, List.flatMap_cons, List.flatMap_nil, Step.brackets, brackets_append,
    portable.exported.brackets_eq, portable.call.brackets_eq, portable.action.brackets_eq,
    portable.requestType.brackets_eq, portable.responseType.brackets_eq]
  repeat rw [brackets_ofList]
  decide

theorem tidy_fileSteps {context : FileContext} (portable : context.Portable) :
    Tidy (fileSteps context) := by
  have heading : Tidy (headingSteps context) :=
    .append (.append (.cons (.literal rfl) (.literal rfl))
      (Script.tidy_headingSteps (by decide) portable.inputId)) (tidy_clientSteps portable.options)
  have types : Tidy (Script.importSteps "import type" context.types.toList
      (typesModule context.options)) :=
    Script.tidy_importSteps portable.types (.literal rfl) (portable_typesModule portable.options)
  have exported : Tidy (Script.nameListSteps "export type" context.types.toList "") :=
    Script.tidy_nameListSteps portable.types (.literal rfl) (.literal rfl)
  have services : Tidy [.splice ("\n".intercalate context.services)] :=
    .splice (.intercalate portable.services)
  exact (((heading.append types).append exported).append tidy_rpcErrorSteps).append
    (Tidy.blank.append services)

theorem tidy_dialect : dialect.Tidy where
  typeName portable := portable.lastSegment
  mapField _ := FieldBinding.tidy_none
  bindMethod portable := (Thunk.portable_ofMethod portable).tidy_bind
    (tidy_thunkSteps (Thunk.portable_ofMethod portable))
  renderService portable := wellBracketed_renderService tidy_flavor portable
  renderFile portable := by
    simp only [dialect, render]
    exact wellBracketed_renderAt Script.brackets_indentUnit (tidy_fileSteps portable) 0

end Flow

end RpcBindings.Store
