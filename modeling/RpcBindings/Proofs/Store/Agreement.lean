/-
Module: RpcBindings.Proofs.Store.Agreement
Purpose: The thunks of a generated store, its reducer, and its state fit together.
Main exports: Store.StoreDialect, Store.AgreesOn, Store.Agrees, Store.agrees_serviceSteps,
  Store.generate_agrees
-/
import Mathlib.Data.List.Forall2
import RpcBindings.Proofs.Generation.Outcome
import RpcBindings.Proofs.Store.Reading

namespace RpcBindings.Store

open Layout

/-!
A thunk is written when its method is bound, and the reducer when the whole service is written.
Both spell the types of the actions on their own, and the reducer is paired with the thunks by
position alone.  They agree because both dialects take the methods as they are declared.
-/

/-- The dialects that write stores, each with its spellings and with the code of its thunks. -/
inductive StoreDialect : Dialect → Flavor → (Thunk → List Step) → Prop where
  | typeScript :
      StoreDialect TypeScript.dialect TypeScript.flavor TypeScript.thunkSteps
  | flow :
      StoreDialect Flow.dialect Flow.flavor Flow.thunkSteps

/-- A list of steps begins the function that is exported under a name. -/
def Begins (steps : List Step) (exported : String) : Prop :=
  ∃ parameters rest,
    steps = .enter ("export const " ++ exported ++ " = (req: " ++ parameters) :: rest

/-- The thunk of a method in a store. -/
def thunkOf (file : File) (service : Service) (method : Method) : Thunk where
  exported := Script.exportName file service method
  call := callName method
  action := actionName service method
  requestType := Name.lastSegment method.inputType
  responseType := Name.lastSegment method.outputType

/-- The binding of a method in a store. -/
def bindingOf (write : Thunk → List Step) (file : File) (service : Service) (method : Method) :
    Binding :=
  (thunkOf file service method).bind (write (thunkOf file service method))

/-- The thunk of a method, its two cases of the reducer, and its three keys of the state fit
together. -/
structure AgreesOn (file : File) (service : Service) (layout thunk : List Step)
    (request response : String × List String) (method : Method) : Prop where
  /-- The thunk is exported under the name of the method. -/
  begins : Begins thunk (Script.exportName file service method)
  /-- The thunk dispatches the request and the response, and an error in between. -/
  dispatches : dispatchedTypes thunk = [request.1, "ERROR", response.1]
  requestLabel : request.1 = actionName service method ++ "_REQUEST"
  responseLabel : response.1 = actionName service method ++ "_RESPONSE"
  requestLines : request.2 =
    ["...state,",
     assignment (Script.exportName file service method ++ "Loading") "true",
     assignment (Script.exportName file service method ++ "Request") "action.payload"]
  responseLines : response.2 =
    ["...state,",
     assignment (Script.exportName file service method ++ "Loading") "false",
     assignment (Script.exportName file service method ++ "Request") "null",
     assignment (Script.exportName file service method) "action.payload"]
  /-- The type of the state has the keys. -/
  declared : ∀ key ∈ stateKeys (Script.exportName file service method),
    HasKey layout
      ("export type " ++ (Exports.ofService file.isShared service).stateType ++ " = ") key
  /-- The initial state has the keys. -/
  initialised : ∀ key ∈ stateKeys (Script.exportName file service method),
    HasKey layout
      ("const " ++ (Exports.ofService file.isShared service).initialState ++ ": " ++
        (Exports.ofService file.isShared service).stateType ++ " = ") key

/-- A service is laid out with one thunk and two cases of the reducer for each method, in the order
of the methods, and with no others. -/
structure Agrees (write : Thunk → List Step) (file : File) (service : Service)
    (layout : List Step) : Prop where
  thunks : spliced layout =
    service.methods.map fun method => render Script.indentUnit (write (thunkOf file service method))
  caseCount : (readCases layout).length = 2 * service.methods.length
  methods : ∀ index method, service.methods[index]? = some method →
    ∃ request response,
      (readCases layout)[2 * index]? = some request ∧
      (readCases layout)[2 * index + 1]? = some response ∧
      AgreesOn file service layout (write (thunkOf file service method)) request response method

/-! ### What the two dialects have in common -/

namespace StoreDialect

variable {dialect : Dialect} {flavor : Flavor} {write : Thunk → List Step}

theorem orderedMethods_eq (store : StoreDialect dialect flavor write) (service : Service) :
    dialect.orderedMethods service = service.methods := by
  cases store with
  | typeScript => rfl
  | flow => rfl

theorem typeName_eq (store : StoreDialect dialect flavor write) :
    dialect.typeName = Name.lastSegment := by
  cases store with
  | typeScript => rfl
  | flow => rfl

theorem bindMethod_eq (store : StoreDialect dialect flavor write) (context : MethodContext) :
    dialect.bindMethod context =
      (Thunk.ofMethod context).bind (write (Thunk.ofMethod context)) := by
  cases store with
  | typeScript => rfl
  | flow => rfl

theorem renderService_eq (store : StoreDialect dialect flavor write) :
    dialect.renderService = renderService flavor := by
  cases store with
  | typeScript => rfl
  | flow => rfl

/-- The services stand at the end of a file. -/
theorem renderFile_eq (store : StoreDialect dialect flavor write) (context : FileContext) :
    ∃ heading, dialect.renderFile context = heading ++ "\n".intercalate context.services := by
  have atEnd {steps front : List Step} {text : String} (last : steps = front ++ [.splice text]) :
      ∃ heading, render Script.indentUnit steps = heading ++ text := by
    subst last
    refine ⟨render Script.indentUnit front, ?_⟩
    simp [render, renderAt, pieces_append, String.join_append, Step.text]
  cases store with
  | typeScript => exact atEnd rfl
  | flow => exact atEnd (List.append_assoc _ [Step.blank] [_]).symm

theorem reducerHeader_differs (store : StoreDialect dialect flavor write) (exports : Exports) :
    (flavor.reducerHeader exports ++ "\x7b").toList[1]? ≠ some 'a' := by
  cases store with
  | typeScript => simp [TypeScript.flavor]
  | flow => simp [Flow.flavor]

theorem begins_thunk (store : StoreDialect dialect flavor write) (thunk : Thunk) :
    Begins (write thunk) thunk.exported := by
  cases store with
  | typeScript =>
      simp only [Begins, TypeScript.thunkSteps, block, String.append_assoc]
      exact ⟨_, _, rfl⟩
  | flow =>
      simp only [Begins, Flow.thunkSteps, block, String.append_assoc]
      exact ⟨_, _, rfl⟩

/-- A thunk dispatches its request, then an error if there is one, then its response. -/
theorem dispatchedTypes_thunk (store : StoreDialect dialect flavor write) (thunk : Thunk) :
    dispatchedTypes (write thunk) =
      [requestAction thunk.action, "ERROR", responseAction thunk.action] := by
  cases store with
  | typeScript =>
      simp only [TypeScript.thunkSteps, block, dispatchedTypes_append, TypeScript.errorSteps,
        Thunk.dispatchRequest, Thunk.dispatchResponse, Thunk.dispatchError,
        dispatchedTypes_dispatch]
      rfl
  | flow =>
      simp only [Flow.thunkSteps, block, dispatchedTypes_append,
        Thunk.dispatchRequest, Thunk.dispatchResponse, Thunk.dispatchError,
        dispatchedTypes_dispatch]
      rfl

theorem bindings_eq (store : StoreDialect dialect flavor write) {registry : Registry}
    {options : Options} {file : File} {service : Service} {context : ServiceContext}
    (bound : dialect.bindService registry options file service = .ok context) :
    context =
      { file, service, bindings := service.methods.map (bindingOf write file service) } := by
  obtain ⟨bindings, pairs, rfl⟩ := Dialect.bindService_eq_ok_iff.mp bound
  rw [store.orderedMethods_eq] at pairs
  have pointwise : List.Forall₂ (fun method binding =>
      bindingOf write file service method = binding) service.methods bindings := by
    refine pairs.imp ?_
    intro method binding methodBound
    obtain ⟨request, -, -, rfl⟩ := Dialect.bind_eq_ok_iff.mp methodBound
    rw [store.bindMethod_eq, store.typeName_eq]
    rfl
  rw [← List.forall₂_map_left_iff, List.forall₂_eq_eq_eq] at pointwise
  rw [pointwise]

/-- What is generated ends with the layouts of the services of the file. -/
theorem exists_layouts (store : StoreDialect dialect flavor write) {registry : Registry}
    {fileName : String} {options : Options} {output : GeneratedFile}
    (generated : generate registry fileName dialect options = .ok output) :
    ∃ file contexts heading, registry.file? fileName = .ok file ∧
      dialect.BoundServices registry options file contexts ∧
      output.content = heading ++ "\n".intercalate (contexts.map fun context =>
        render Script.indentUnit (serviceSteps flavor context)) := by
  obtain ⟨file, contexts, known, -, bound, rfl⟩ := generate_eq_ok_iff.mp generated
  obtain ⟨heading, content⟩ :=
    store.renderFile_eq (dialect.fileContext registry options file contexts)
  refine ⟨file, contexts, heading, known, bound, ?_⟩
  rw [content, Dialect.fileContext, store.renderService_eq]
  rfl

end StoreDialect

/-! ### The reducer and the methods -/

/-- The cases that are read back for a method: that of its request, then that of its response. -/
def requestReading (file : File) (service : Service) (method : Method) : String × List String :=
  (requestCase (actionName service method) (Script.exportName file service method)).reading

def responseReading (file : File) (service : Service) (method : Method) : String × List String :=
  (responseCase (actionName service method) (Script.exportName file service method)).reading

/-- Where each item makes two entries, those of an item stand at twice its position. -/
theorem getElem?_flatMap_pair {α β : Type} (first second : α → β) (items : List α) (index : Nat) :
    (items.flatMap fun item => [first item, second item])[2 * index]? =
        items[index]?.map first ∧
      (items.flatMap fun item => [first item, second item])[2 * index + 1]? =
        items[index]?.map second := by
  induction items generalizing index with
  | nil => simp
  | cons item items inductionHypothesis =>
      cases index with
      | zero => simp
      | succ index => simpa [Nat.mul_succ] using inductionHypothesis index

theorem readCases_eq {dialect : Dialect} {flavor : Flavor} {write : Thunk → List Step}
    (store : StoreDialect dialect flavor write) (file : File) (service : Service) :
    readCases (serviceSteps flavor
        { file, service, bindings := service.methods.map (bindingOf write file service) }) =
      service.methods.flatMap fun method =>
        [requestReading file service method, responseReading file service method] := by
  rw [readCases_serviceSteps store.reducerHeader_differs]
  simp only [reducerCases, ← List.map_prod_left_eq_zip, List.flatMap_map, List.map_flatMap]
  rfl

/-- A service that was bound is laid out as its methods ask. -/
theorem agrees_serviceSteps {dialect : Dialect} {flavor : Flavor} {write : Thunk → List Step}
    (store : StoreDialect dialect flavor write) {registry : Registry} {options : Options}
    {file : File} {service : Service} {context : ServiceContext}
    (bound : dialect.bindService registry options file service = .ok context) :
    Agrees write file service (serviceSteps flavor context) := by
  have bindings := store.bindings_eq bound
  subst bindings
  have cases := readCases_eq store file service
  refine ⟨?_, ?_, ?_⟩
  · rw [spliced_serviceSteps, List.map_map]
    rfl
  · rw [cases]
    simp [List.length_flatMap, Nat.mul_comm]
  · intro index method found
    obtain ⟨atRequest, atResponse⟩ := getElem?_flatMap_pair (requestReading file service)
      (responseReading file service) service.methods index
    rw [found] at atRequest atResponse
    refine ⟨_, _, by rw [cases]; exact atRequest, by rw [cases]; exact atResponse, ?_⟩
    have member : bindingOf write file service method ∈
        service.methods.map (bindingOf write file service) :=
      List.mem_map_of_mem (List.mem_of_getElem? found)
    exact {
      begins := store.begins_thunk _
      dispatches := store.dispatchedTypes_thunk _
      requestLabel := rfl
      responseLabel := rfl
      requestLines := rfl
      responseLines := rfl
      declared := fun key listed => hasKey_stateType member listed
      initialised := fun key listed => hasKey_initialState member listed }

/-- Whatever is generated for a store, the text of the services stands at the end of the file, and
each service is laid out with one thunk and two cases of the reducer for each of its methods.  The
labels of the two cases are the types that the thunk dispatches, and the keys that the cases change
are keys of the state and of the initial state. -/
theorem generate_agrees {dialect : Dialect} {flavor : Flavor} {write : Thunk → List Step}
    {registry : Registry} {fileName : String} {options : Options} {output : GeneratedFile}
    (store : StoreDialect dialect flavor write)
    (generated : generate registry fileName dialect options = .ok output) :
    ∃ file contexts heading, registry.file? fileName = .ok file ∧
      output.content = heading ++ "\n".intercalate (contexts.map fun context =>
        render Script.indentUnit (serviceSteps flavor context)) ∧
      List.Forall₂ (fun service context =>
          Agrees write file service (serviceSteps flavor context))
        file.services contexts := by
  obtain ⟨file, contexts, heading, known, bound, content⟩ := store.exists_layouts generated
  refine ⟨file, contexts, heading, known, content, bound.imp ?_⟩
  intro service context serviceBound
  exact agrees_serviceSteps store serviceBound

def sharedSamples : List File :=
  [{ name := "maps.proto", messages := [{ name := "Point" }]
     services :=
      [{ name := "Maps", methods := [Method.unary "Zoom" ".Point" ".Point",
          Method.unary "Find" ".Point" ".Point"] },
       { name := "Routes", methods := [Method.unary "Find" ".Point" ".Point"] }] }]

theorem generate_agrees_sharedSamples :
    ∃ output, generate (Registry.assembled sharedSamples) "maps.proto" Flow.dialect {} =
        .ok output ∧
      ∃ file contexts heading,
        (Registry.assembled sharedSamples).file? "maps.proto" = .ok file ∧
        output.content = heading ++ "\n".intercalate (contexts.map fun context =>
          render Script.indentUnit (serviceSteps Flow.flavor context)) ∧
        List.Forall₂ (fun service context =>
            Agrees Flow.thunkSteps file service (serviceSteps Flow.flavor context))
          file.services contexts := by
  have generated : ∃ output,
      generate (Registry.assembled sharedSamples) "maps.proto" Flow.dialect {} = .ok output :=
    ⟨_, rfl⟩
  obtain ⟨output, written⟩ := generated
  exact ⟨output, written, generate_agrees .flow written⟩

end RpcBindings.Store
