/-
Module: RpcBindings.Proofs.Script.Vocabulary
Purpose: The names that a generated script binds at its top level, statement by statement.
Main exports: Script.Vocabulary, Script.Speaks, Script.laysOut_service,
  Script.Speaks.binds_service, Script.Speaks.binds_content
-/
import RpcBindings.Proofs.Script.Legible

namespace RpcBindings.Script

open Layout
open Name (AllPortable)

/-!
The names at the top of a script have several sources: the types that are imported, the fixed names
of the dialect, the exports of the methods and the types of their events.
-/

/-! ### Vocabularies -/

/-- The names that a dialect binds by itself, by the places where it binds them. -/
structure Vocabulary where
  /-- Above the imports of types. -/
  above : List String
  /-- Between the imports of types and the code of the services. -/
  below : List String
  /-- In front of what a method exports. -/
  beside : File → Service → Method → List String
  /-- Behind the methods of a service. -/
  behind : File → Service → List String

namespace Vocabulary

variable (vocabulary : Vocabulary) (file : File) (service : Service)

/-- The names that the code of a service binds. -/
def ofService : List String :=
  (service.methods.flatMap fun method =>
    vocabulary.beside file service method ++ [exportName file service method]) ++
    vocabulary.behind file service

/-- The names that a whole script binds, in their order. -/
def names (context : FileContext) : List String :=
  vocabulary.above ++ context.types.toList ++ vocabulary.below ++
    context.file.services.flatMap (vocabulary.ofService context.file)

/-- The names that do not depend on the methods. -/
def fixed : List String :=
  vocabulary.above ++ vocabulary.below ++ vocabulary.behind file service

/-- The types of events. -/
def events : List String :=
  service.methods.flatMap (vocabulary.beside file service)

end Vocabulary

/-- The exports of the methods of a service. -/
def methodExports (file : File) (service : Service) : List String :=
  service.methods.map (exportName file service)

/-- The names that a store exports for a service besides its methods. -/
def storeNames (file : File) (service : Service) : List String :=
  let exports := Store.Exports.ofService file.isShared service
  [exports.thunks, exports.stateType, exports.initialState, exports.reducer]

def typeScriptStoreVocabulary : Vocabulary where
  above := ["client"]
  below := ["RPCError", "ErrFn", "ErrHandler", "RPCConfig"]
  beside := fun _ _ _ => []
  behind := storeNames

def flowStoreVocabulary : Vocabulary where
  above := ["client"]
  below := ["RPCError"]
  beside := fun _ _ _ => []
  behind := storeNames

def bridgeVocabulary : Vocabulary where
  above := ["ipcRenderer", "randomBytes"]
  below := ["replyID", "RPCErr", "ErrHandler", "ignoreErr"]
  beside := fun file service method =>
    if method.isDuplex then [Bridge.eventName file service method] else []
  behind := fun _ _ => []

/-- The dialects that export a value for each method, each with its vocabulary. -/
inductive Speaks : Dialect → Vocabulary → Prop where
  | typeScriptStore : Speaks Store.TypeScript.dialect typeScriptStoreVocabulary
  | flowStore : Speaks Store.Flow.dialect flowStoreVocabulary
  | bridge : Speaks Bridge.dialect bridgeVocabulary

/-! ### What is common to all scripts -/

variable {clear : Prop}

theorem laysOut_headingSteps {plugin inputId : String} (pluginUnbroken : Unbroken plugin)
    (told : clear → Unbroken inputId) : LaysOut clear (headingSteps plugin inputId) [] := by
  have author : "// Code generated by " ++ plugin ++ " DO NOT EDIT." =
      "// " ++ ("Code generated by " ++ plugin ++ " DO NOT EDIT.") := by
    rw [← String.append_assoc, ← String.append_assoc]
    rfl
  have input : "// InputID: " ++ inputId = "// " ++ ("InputID: " ++ inputId) := by
    rw [← String.append_assoc]
    rfl
  have authorUnbroken : Unbroken ("Code generated by " ++ plugin ++ " DO NOT EDIT.") :=
    pluginUnbroken.between (.literal (by decide)) (.literal (by decide))
  exact (LaysOut.comment author fun _ => authorUnbroken).append
    (LaysOut.comment input fun holds => .append (.literal (by decide)) (told holds))

theorem laysOut_takeOne (name module : String)
    (told : clear → Name.Portable name ∧ Unbroken module) :
    LaysOut clear [.line ("import \x7b" ++ name ++ "\x7d from '" ++ module ++ "'")] [name] :=
  LaysOut.statement (.takeOne name module) told

/-- All names of an import are bound. -/
theorem laysOut_importSteps {keyword module : String} {names : List String}
    (told : clear → keyword ∈ ["import", "import type"] ∧
      (∀ name ∈ names, Name.Portable name) ∧ Unbroken module) :
    LaysOut clear (importSteps keyword names module) names :=
  LaysOut.statement (.take keyword names module) told

/-- A function that takes a request begins like the binding of its name. -/
theorem begins_request (exported : String) :
    Form.exportedConstant.Begins exported ("export const " ++ exported ++ " = (req: ") :=
  Form.exportedConstant.begins_closing exported "(req: "

/-! ### Stores -/

section Stores

variable {dialect : Dialect} {flavor : Store.Flavor} {write : Store.Thunk → List Step}

/-- The lines of a thunk behind the first one end the group that the first one opens. -/
theorem settles_thunk (store : Store.StoreDialect dialect flavor write) (thunk : Store.Thunk) :
    settles 1 (write thunk).tail = true := by
  cases store with
  | typeScript => rfl
  | flow => rfl

theorem laysOut_thunk (store : Store.StoreDialect dialect flavor write) {thunk : Store.Thunk}
    (told : clear → thunk.Portable) : LaysOut clear (write thunk) [thunk.exported] := by
  obtain ⟨parameters, rest, begins⟩ := store.begins_thunk thunk
  have closed : settles 1 rest = true := by
    have tail := settles_thunk store thunk
    rwa [begins] at tail
  have inner : clear → ∀ step ∈ write thunk, InGroup step := fun holds =>
    Store.inGroup_thunk (told holds) store
  rw [begins] at inner ⊢
  exact LaysOut.group ((begins_request thunk.exported).append parameters) closed fun holds =>
    ⟨(told holds).exported, inner holds⟩

theorem nested_reducerCase (reducerCase : Store.ReducerCase) : Nested reducerCase.steps := by
  have changes : Nested (reducerCase.changes.map fun entry => .line (entry.text ++ ",")) := by
    rw [List.map_eq_flatMap]
    exact Nested.flatMap fun _ _ _ _ => rfl
  have kept : Nested [.line "...state,"] := fun _ _ => rfl
  exact ((kept.append changes).block _ _).block _ _

theorem laysOut_reducer (store : Store.StoreDialect dialect flavor write)
    {exports : Store.Exports} {cases : List Store.ReducerCase}
    (told : clear → Name.Portable exports.reducer ∧
      ∀ step ∈ Store.reducerSteps flavor exports cases, InGroup step) :
    LaysOut clear (Store.reducerSteps flavor exports cases) [exports.reducer] := by
  have others : Nested [.enter "default:", .line "return state", .outdent] := fun _ _ => rfl
  have inner : Nested (cases.flatMap Store.ReducerCase.steps ++
      [.enter "default:", .line "return state", .outdent]) :=
    (Nested.flatMap fun reducerCase _ => nested_reducerCase reducerCase).append others
  cases store with
  | typeScript =>
      have opening : Form.exportedConstant.Begins exports.reducer
          ("export const " ++ exports.reducer ++ " = (state: ") :=
        Form.exportedConstant.begins_closing _ "(state: "
      exact LaysOut.block ((((opening.append _).append _).append _).append _) (inner.block _ _)
        told
  | flow =>
      have opening : Form.exportedFunction.Begins exports.reducer
          ("export function " ++ exports.reducer ++ "(state: ") :=
        Form.exportedFunction.begins_closing _ "state: "
      exact LaysOut.block ((((opening.append _).append _).append _).append _) (inner.block _ _)
        told

/-- The code of a service binds the exports of its methods, and behind them the names of the
store. -/
theorem laysOut_service (store : Store.StoreDialect dialect flavor write) {file : File}
    {service : Service} (told : clear → AllPortable service.texts) :
    LaysOut clear
      (Store.serviceSteps flavor
        { file, service, bindings := service.methods.map (Store.bindingOf write file service) })
      (methodExports file service ++ storeNames file service) := by
  let exports := Store.Exports.ofService file.isShared service
  let bindings := service.methods.map (Store.bindingOf write file service)
  have names : clear → exports.Portable := fun holds =>
    Store.Exports.portable_ofService (Service.portable_name (told holds)) _
  have tidy : clear → ∀ binding ∈ bindings, binding.Tidy := fun holds =>
    List.forall_mem_map.mpr fun method member =>
      Store.tidy_bindingOf store (Store.portable_thunkOf (told holds) member)
  have thunk (method : Method) (member : method ∈ service.methods) :
      LaysOut clear [.splice (Store.bindingOf write file service method).fragment, .blank]
        [exportName file service method] :=
    (LaysOut.splice (laysOut_thunk store fun holds =>
      Store.portable_thunkOf (told holds) member).binds).append LaysOut.gap
  have thunks : LaysOut clear (Store.thunksSteps bindings) (methodExports file service) := by
    rw [Store.thunksSteps, List.flatMap_map, methodExports, List.map_eq_flatMap]
    exact LaysOut.flatMap thunk
  have listed (text : List String) : Nested [.lines text] := fun _ _ => rfl
  have thunkMap : LaysOut clear (Store.thunkMapSteps exports bindings) [exports.thunks] :=
    LaysOut.block (Form.exportedConstant.begins_header _) (listed _) fun holds =>
      ⟨(names holds).thunks, Store.inGroup_thunkMapSteps (names holds) (tidy holds)⟩
  have stateType :
      LaysOut clear (Store.stateTypeSteps flavor exports bindings) [exports.stateType] :=
    LaysOut.block (Form.exportedType.begins_header _) (listed _) fun holds =>
      ⟨(names holds).stateType, Store.inGroup_stateTypeSteps store (names holds) (tidy holds)⟩
  have initialState :
      LaysOut clear (Store.initialStateSteps exports bindings) [exports.initialState] :=
    LaysOut.block (((Form.typedConstant.begins_header _).append _).append _) (listed _)
      fun holds =>
        ⟨(names holds).initialState, Store.inGroup_initialStateSteps (names holds) (tidy holds)⟩
  have reducer : LaysOut clear
      (Store.reducerSteps flavor exports (Store.reducerCases service bindings))
      [exports.reducer] :=
    laysOut_reducer store fun holds =>
      ⟨(names holds).reducer,
        Store.inGroup_reducerSteps store (names holds) (told holds) (tidy holds)⟩
  have all := ((((((thunks.append thunkMap).append .gap).append stateType).append .gap).append
    initialState).append .gap).append reducer
  have listedNames : methodExports file service ++ [exports.thunks] ++ [] ++
      [exports.stateType] ++ [] ++ [exports.initialState] ++ [] ++ [exports.reducer] =
        methodExports file service ++ storeNames file service := by
    simp only [List.append_nil, List.append_assoc]
    rfl
  rw [← listedNames]
  exact all

end Stores

/-- The import of the client, with an empty line behind it. -/
theorem laysOut_clientSteps {options : Options} (told : clear → Unbroken options.clientModule) :
    LaysOut clear (Store.clientSteps options) ["client"] :=
  (laysOut_takeOne "client" _ fun holds => ⟨by decide, told holds⟩).append .gap

/-- The type of an error has the same name in both stores. -/
theorem laysOut_rpcErrorSteps : LaysOut clear Store.rpcErrorSteps ["RPCError"] :=
  LaysOut.block (Form.exportedType.begins_header "RPCError") (fun _ _ => rfl)
    fun _ => ⟨by decide, Store.inGroup_rpcErrorSteps⟩

theorem laysOut_errorTypeSteps :
    LaysOut clear Store.TypeScript.errorTypeSteps typeScriptStoreVocabulary.below := by
  have errorFunction :
      LaysOut clear [.line "export type ErrFn = (err: RPCError) => void"] ["ErrFn"] :=
    LaysOut.line (Form.exportedType.begins_closing "ErrFn" "(err: RPCError) => void")
      fun _ => ⟨by decide, .literal (by decide)⟩
  have errorHandler :
      LaysOut clear
        [.line "export type ErrHandler = (err: RPCError, errFn: ErrFn | void) => void"]
        ["ErrHandler"] :=
    LaysOut.line (Form.exportedType.begins_closing "ErrHandler"
      "(err: RPCError, errFn: ErrFn | void) => void") fun _ => ⟨by decide, .literal (by decide)⟩
  have configuration :
      LaysOut clear (block "export type RPCConfig = " [.line "errHandler?: ErrHandler,"] "")
        ["RPCConfig"] :=
    LaysOut.block (Form.exportedType.begins_header "RPCConfig") (fun _ _ => rfl) fun _ =>
      ⟨by decide, forall_inGroup_block.mpr
        ⟨by decide, List.forall_mem_singleton.mpr (.literal (by decide)), by decide⟩⟩
  have types := (LaysOut.gap.append errorFunction).append errorHandler
  exact ((laysOut_rpcErrorSteps.append types).append configuration).append .gap

/-! ### Bridges -/

section Bridges

variable {context : MethodContext} {exported : String}

theorem laysOut_unary
    (told : clear → Bridge.PortableNames context ∧ Name.Portable exported) :
    LaysOut clear (Bridge.unarySteps context exported) [exported] :=
  LaysOut.block (((begins_request exported).append _).append _) (fun _ _ => rfl) fun holds =>
    ⟨(told holds).2, Bridge.inGroup_unarySteps (told holds).1 (told holds).2⟩

/-- A method with streams is preceded by the type of its events. -/
theorem laysOut_stream
    (told : clear → Bridge.PortableNames context ∧ Name.Portable exported) :
    LaysOut clear (Bridge.streamSteps context exported)
      [Bridge.eventName context.file context.service context.method, exported] := by
  let event := Bridge.eventName context.file context.service context.method
  have typeOpening : Form.exportedType.Begins event
      ("export type " ++ event ++ " = \x7berr?: RPCErr, res?: ") :=
    Form.exportedType.begins_closing _ "\x7berr?: RPCErr, res?: "
  have opening : Form.exportedConstant.Begins exported ("export const " ++ exported ++ " = (") :=
    Form.exportedConstant.begins_closing _ "("
  obtain ⟨body, split, closed⟩ : ∃ body, Bridge.streamSteps context exported =
      [.line ("export type " ++ event ++ " = \x7berr?: RPCErr, res?: " ++
          context.responseType ++ ", done: boolean\x7d")] ++
        ([.blank] ++ .enter ("export const " ++ exported ++ " = (") :: body) ∧
      settles 1 body = true := ⟨_, rfl, rfl⟩
  have inner : clear → ∀ step ∈ Bridge.streamSteps context exported, InGroup step := fun holds =>
    Bridge.inGroup_streamSteps (told holds).1 (told holds).2
  rw [split] at inner ⊢
  refine (LaysOut.line ((typeOpening.append _).append _) fun holds => ?_).append
    (LaysOut.gap.append (LaysOut.group opening closed fun holds => ?_))
  · exact ⟨(told holds).1.event, inner holds _ (List.mem_append_left _ List.mem_cons_self)⟩
  · exact ⟨(told holds).2, fun step member =>
      inner holds step (List.mem_append_right _ (List.mem_append_right _ member))⟩

/-- The code of a method binds its export, in front of it the type of its events if both sides send
streams. -/
theorem binds_bridgeMethod (told : clear → Bridge.PortableNames context) :
    Binds clear (Bridge.bindMethod context).fragment
      (bridgeVocabulary.beside context.file context.service context.method ++
        [exportName context.file context.service context.method]) := by
  have both (holds : clear) := And.intro (told holds) (told holds).exported
  by_cases duplex : context.method.isDuplex = true
  · simp only [bridgeVocabulary, Bridge.bindMethod, if_pos duplex]
    exact (laysOut_stream both).binds
  · simp only [bridgeVocabulary, Bridge.bindMethod, if_neg duplex]
    exact (laysOut_unary both).binds

end Bridges

theorem laysOut_callTypes :
    LaysOut clear
      (block "const replyID = (): string => " [.line "return randomBytes(20).toString('hex')"] "" ++
        [.blank,
         .line "export type RPCErr = \x7bmessage: string; name?: string; code?: number\x7d",
         .line "export type ErrHandler = (err: RPCErr) => void",
         .line "export const ignoreErr: ErrHandler = () => \x7b\x7d",
         .blank])
      bridgeVocabulary.below := by
  have reply :
      LaysOut clear (block "const replyID = (): string => "
        [.line "return randomBytes(20).toString('hex')"] "") ["replyID"] :=
    LaysOut.block (Form.constant.begins_closing "replyID" "(): string => ") (fun _ _ => rfl)
      fun _ => ⟨by decide, forall_inGroup_block.mpr
        ⟨by decide, List.forall_mem_singleton.mpr (.literal (by decide)), by decide⟩⟩
  have error :
      LaysOut clear
        [.line "export type RPCErr = \x7bmessage: string; name?: string; code?: number\x7d"]
        ["RPCErr"] :=
    LaysOut.line (Form.exportedType.begins_closing "RPCErr"
      "\x7bmessage: string; name?: string; code?: number\x7d")
      fun _ => ⟨by decide, .literal (by decide)⟩
  have handler :
      LaysOut clear [.line "export type ErrHandler = (err: RPCErr) => void"] ["ErrHandler"] :=
    LaysOut.line (Form.exportedType.begins_closing "ErrHandler" "(err: RPCErr) => void")
      fun _ => ⟨by decide, .literal (by decide)⟩
  have ignore :
      LaysOut clear [.line "export const ignoreErr: ErrHandler = () => \x7b\x7d"]
        ["ignoreErr"] :=
    LaysOut.line (Form.exportedTypedConstant.begins_closing "ignoreErr"
      "ErrHandler = () => \x7b\x7d") fun _ => ⟨by decide, .literal (by decide)⟩
  exact reply.append (LaysOut.gap.append (error.append (handler.append (ignore.append .gap))))

/-! ### Whole scripts -/

section Files

variable {context : FileContext} {names : List String}
  (services : Binds clear ("\n".intercalate context.services) names)
  (told : clear → ClearFrame context)

include services told

theorem laysOut_typeScriptStore :
    LaysOut clear (Store.TypeScript.fileSteps context)
      (typeScriptStoreVocabulary.above ++ context.types.toList ++
        typeScriptStoreVocabulary.below ++ names) := by
  have heading : LaysOut clear (Store.TypeScript.headingSteps context) ["client"] :=
    (laysOut_headingSteps (by decide) fun holds => (told holds).inputId).append
      (laysOut_clientSteps fun holds => (told holds).clientModule)
  have types : LaysOut clear (importSteps "import" context.types.toList
      (Store.typesModule context.options)) context.types.toList :=
    laysOut_importSteps fun holds => ⟨by decide, (told holds).types, (told holds).storeTypes⟩
  exact ((heading.append types).append laysOut_errorTypeSteps).append (.splice services)

theorem laysOut_flowStore :
    LaysOut clear (Store.Flow.fileSteps context)
      (flowStoreVocabulary.above ++ context.types.toList ++ flowStoreVocabulary.below ++
        names) := by
  have remark : LaysOut clear [.line "/* eslint-disable */"] [] :=
    LaysOut.statement (.remark "eslint-disable") fun _ => Unbroken.literal (by decide)
  have mark : LaysOut clear [.line "// @flow"] [] := by
    have spelled : "// @flow" = "// " ++ "@flow" := rfl
    exact LaysOut.comment spelled fun _ => .literal (by decide)
  have flow : LaysOut clear [.line "// @flow", .line "/* eslint-disable */"] [] :=
    mark.append remark
  have heading : LaysOut clear (Store.Flow.headingSteps context) ["client"] :=
    (flow.append (laysOut_headingSteps (by decide) fun holds => (told holds).inputId)).append
      (laysOut_clientSteps fun holds => (told holds).clientModule)
  have types : LaysOut clear (importSteps "import type" context.types.toList
      (Store.typesModule context.options)) context.types.toList :=
    laysOut_importSteps fun holds => ⟨by decide, (told holds).types, (told holds).storeTypes⟩
  have passedOn : LaysOut clear (nameListSteps "export type" context.types.toList "") [] :=
    LaysOut.statement (.passOn context.types.toList) fun holds => (told holds).types
  have all := (((heading.append types).append passedOn).append laysOut_rpcErrorSteps).append
    (LaysOut.gap.append (.splice services))
  rw [List.append_nil] at all
  exact all

theorem laysOut_bridge :
    LaysOut clear (Bridge.fileSteps context)
      (bridgeVocabulary.above ++ context.types.toList ++ bridgeVocabulary.below ++ names) := by
  have process : LaysOut clear
      [.line "import \x7bipcRenderer\x7d from 'electron'",
       .line "import \x7brandomBytes\x7d from 'crypto'", .blank]
      bridgeVocabulary.above :=
    (laysOut_takeOne "ipcRenderer" "electron" fun _ => ⟨by decide, by decide⟩).append
      ((laysOut_takeOne "randomBytes" "crypto" fun _ => ⟨by decide, by decide⟩).append .gap)
  have heading : LaysOut clear (Bridge.headingSteps context) bridgeVocabulary.above :=
    (laysOut_headingSteps (by decide) fun holds => (told holds).inputId).append process
  have types : LaysOut clear (importSteps "import" context.types.toList context.typesModule)
      context.types.toList :=
    laysOut_importSteps fun holds => ⟨by decide, (told holds).types, (told holds).typesModule⟩
  have calls : LaysOut clear (Bridge.callSteps context) (bridgeVocabulary.below ++ names) :=
    laysOut_callTypes.append (.splice services)
  have all := (heading.append types).append calls
  rw [← List.append_assoc] at all
  exact all

end Files

namespace Speaks

variable {dialect : Dialect} {vocabulary : Vocabulary}

theorem exporting (speaks : Speaks dialect vocabulary) : MethodExporting dialect := by
  cases speaks with
  | typeScriptStore => exact .typeScriptStore
  | flowStore => exact .flowStore
  | bridge => exact .bridge

/-- The code of a service binds the exports of its methods with the types of their events, and
behind them the names that stand for the service. -/
theorem binds_service (speaks : Speaks dialect vocabulary) {registry : Registry}
    {options : Options} {file : File} {service : Service} {context : ServiceContext}
    (bound : dialect.bindService registry options file service = .ok context)
    (told : clear → AllPortable service.texts) :
    Binds clear (dialect.renderService context) (vocabulary.ofService file service) := by
  have ofStore {flavor : Store.Flavor} {write : Store.Thunk → List Step}
      (store : Store.StoreDialect dialect flavor write) :
      Binds clear (dialect.renderService context)
        (methodExports file service ++ storeNames file service) := by
    rw [store.renderService_eq, store.bindings_eq bound]
    exact (laysOut_service store told).binds
  have exportsAlone : (service.methods.flatMap fun method =>
      [] ++ [exportName file service method]) = methodExports file service :=
    List.map_eq_flatMap.symm
  cases speaks with
  | typeScriptStore =>
      rw [Vocabulary.ofService, typeScriptStoreVocabulary, exportsAlone]
      exact ofStore .typeScript
  | flowStore =>
      rw [Vocabulary.ofService, flowStoreVocabulary, exportsAlone]
      exact ofStore .flow
  | bridge =>
      obtain ⟨bindings, pairs, rfl⟩ := Dialect.bindService_eq_ok_iff.mp bound
      have each : List.Forall₂ (Binds clear) (bindings.map Binding.fragment)
          (service.methods.map fun method =>
            bridgeVocabulary.beside file service method ++ [exportName file service method]) := by
        rw [List.forall₂_map_left_iff, List.forall₂_map_right_iff]
        have inService := (List.forall₂_and_left _ _).mpr ⟨fun _ member => member, pairs⟩
        refine (inService.imp fun method binding listed => ?_).flip
        obtain ⟨member, methodBound⟩ := listed
        obtain ⟨request, -, -, rfl⟩ := Dialect.bind_eq_ok_iff.mp methodBound
        refine binds_bridgeMethod fun holds => ?_
        have method := Service.portable_methods (told holds) _ member
        exact
          { service := Service.portable_name (told holds)
            method := Method.portable_name method
            requestType := (Method.portable_inputType method).lastSegment
            responseType := (Method.portable_outputType method).lastSegment }
      have all := Binds.intercalate each
      rw [← List.flatMap_def] at all
      rw [Vocabulary.ofService]
      exact (List.append_nil _).symm ▸ all

/-- A script binds the names of its dialect, its types, and the names of its services. -/
theorem binds_content (speaks : Speaks dialect vocabulary) {registry : Registry}
    {fileName : String} {options : Options} {context : FileContext}
    (made : ContextFor registry fileName dialect options context) :
    Binds (Legible context.file options) (dialect.renderFile context)
      (vocabulary.names context) := by
  obtain ⟨contexts, bound, given⟩ := made.bound
  have services : Binds (Legible context.file options) ("\n".intercalate context.services)
      (context.file.services.flatMap (vocabulary.ofService context.file)) := by
    have scripts : context.services = contexts.map dialect.renderService := by
      rw [given]
      rfl
    have each : List.Forall₂ (Binds (Legible context.file options))
        (contexts.map dialect.renderService)
        (context.file.services.map (vocabulary.ofService context.file)) := by
      rw [List.forall₂_map_left_iff, List.forall₂_map_right_iff]
      have inFile := (List.forall₂_and_left _ _).mpr ⟨fun _ member => member, bound⟩
      exact (inFile.imp fun service serviceContext listed =>
        speaks.binds_service listed.2 fun legible => legible.services service listed.1).flip
    rw [scripts, List.flatMap_def]
    exact Binds.intercalate each
  have told := Legible.clearFrame speaks.exporting made
  cases speaks with
  | typeScriptStore => exact (laysOut_typeScriptStore services told).binds
  | flowStore => exact (laysOut_flowStore services told).binds
  | bridge => exact (laysOut_bridge services told).binds

end Speaks

end RpcBindings.Script
