/-
Module: RpcBindings.Target.Store.State
Purpose: The state of a store that calls the methods of a service, the reducer that changes it, and
  what stands at the top of its file.
Main exports: Store.Exports, Store.ReducerCase, Store.reducerCases, Store.Flavor,
  Store.serviceSteps, Store.clientSteps, Store.rpcErrorSteps
-/
import RpcBindings.Target.Script

namespace RpcBindings.Store

open Layout

/-!
A thunk dispatches one action when it sends its request and another one with the response.  The state
has three entries for each method: whether a call is under way, the request of that call, and the
last response.  The reducer has two cases for each method, one for each action.
-/

/-- The name under which a service's client has a method. -/
def callName (method : Method) : String :=
  Name.decapitalize method.name

/-- What the types of a method's actions begin with. -/
def actionName (service : Service) (method : Method) : String :=
  Name.actionType service.name (callName method)

def requestAction (action : String) : String :=
  action ++ "_REQUEST"

def responseAction (action : String) : String :=
  action ++ "_RESPONSE"

/-! ### Exported names -/

/-- The names of what is exported for a service. -/
structure Exports where
  thunks : String
  stateType : String
  initialState : String
  reducer : String
deriving Repr, DecidableEq, Inhabited

/-- The exported names of a service.  Where services share a file, each name begins with its
service. -/
def Exports.ofService (shared : Bool) (service : Service) : Exports :=
  if shared then
    let lower := Name.decapitalize service.name
    { thunks := service.name ++ "RPC"
      stateType := service.name ++ "RPCState"
      initialState := lower ++ "InitialState"
      reducer := lower ++ "Reducer" }
  else
    { thunks := "RPC"
      stateType := "RPCState"
      initialState := "initialState"
      reducer := "reducer" }

/-! ### State -/

/-- The key that tells whether a call is under way. -/
def loadingKey (exported : String) : String := exported ++ "Loading"

/-- The key of the request of the call that is under way. -/
def requestKey (exported : String) : String := exported ++ "Request"

/-- The key of the last response. -/
def responseKey (exported : String) : String := exported

structure Entry where
  key : String
  value : String
deriving Repr, DecidableEq, Inhabited

def Entry.text (entry : Entry) : String :=
  entry.key ++ ": " ++ entry.value

/-- The entries of the state type for one method, given how an optional value is spelled. -/
def typeEntries (optional : String → String) (binding : Binding) : List Entry :=
  [⟨loadingKey binding.exported, "boolean"⟩,
   ⟨requestKey binding.exported, optional binding.requestType⟩,
   ⟨responseKey binding.exported, optional binding.responseType⟩]

/-- The entries of the initial state for one method. -/
def initialEntries (binding : Binding) : List Entry :=
  [⟨loadingKey binding.exported, "false"⟩,
   ⟨requestKey binding.exported, "null"⟩,
   ⟨responseKey binding.exported, "null"⟩]

/-! ### Reducer -/

/-- A case of the reducer: the action that it answers, and what it changes in the state. -/
structure ReducerCase where
  action : String
  changes : List Entry
deriving Repr, DecidableEq, Inhabited

def requestCase (action exported : String) : ReducerCase :=
  { action := requestAction action
    changes := [⟨loadingKey exported, "true"⟩, ⟨requestKey exported, "action.payload"⟩] }

def responseCase (action exported : String) : ReducerCase :=
  { action := responseAction action
    changes :=
      [⟨loadingKey exported, "false"⟩, ⟨requestKey exported, "null"⟩,
       ⟨responseKey exported, "action.payload"⟩] }

/-- The cases of the reducer.  A method and the binding in the same place belong together. -/
def reducerCases (service : Service) (bindings : List Binding) : List ReducerCase :=
  (service.methods.zip bindings).flatMap fun (method, binding) =>
    let action := actionName service method
    [requestCase action binding.exported, responseCase action binding.exported]

def ReducerCase.steps (reducerCase : ReducerCase) : List Step :=
  block ("case '" ++ reducerCase.action ++ "': ")
    (block "return "
      ([.line "...state,"] ++ reducerCase.changes.map fun entry => .line (entry.text ++ ","))
      "")
    ""

/-! ### Services -/

/-- What differs between the languages in which a store is written. -/
structure Flavor where
  /-- How a value that may be missing is spelled. -/
  optional : String → String
  /-- The first line of the reducer, without the brace. -/
  reducerHeader : Exports → String

/-- The code of the thunks, an empty line after each. -/
def thunksSteps (bindings : List Binding) : List Step :=
  bindings.flatMap fun binding => [.splice binding.fragment, .blank]

/-- The map of the thunks. -/
def thunkMapSteps (exports : Exports) (bindings : List Binding) : List Step :=
  block ("export const " ++ exports.thunks ++ " = ")
    [.lines (withCommas (bindings.map Binding.exported))] ""

/-- The type of the state. -/
def stateTypeSteps (flavor : Flavor) (exports : Exports) (bindings : List Binding) : List Step :=
  block ("export type " ++ exports.stateType ++ " = ")
    [.lines (withCommas ((bindings.flatMap (typeEntries flavor.optional)).map Entry.text))] ""

/-- The state in which a store begins. -/
def initialStateSteps (exports : Exports) (bindings : List Binding) : List Step :=
  block ("const " ++ exports.initialState ++ ": " ++ exports.stateType ++ " = ")
    [.lines (withCommas ((bindings.flatMap initialEntries).map Entry.text))] ""

/-- The reducer, which leaves the state as it is for all actions without a case. -/
def reducerSteps (flavor : Flavor) (exports : Exports) (cases : List ReducerCase) : List Step :=
  block (flavor.reducerHeader exports)
    (block "switch (action.type) "
      (cases.flatMap ReducerCase.steps ++ [.enter "default:", .line "return state", .outdent])
      "")
    ""

/-- The thunks of a service, their map, the state with its type, and the reducer. -/
def serviceSteps (flavor : Flavor) (context : ServiceContext) : List Step :=
  let exports := Exports.ofService context.file.isShared context.service
  let bindings := context.bindings
  thunksSteps bindings ++
  thunkMapSteps exports bindings ++ [.blank] ++
  stateTypeSteps flavor exports bindings ++ [.blank] ++
  initialStateSteps exports bindings ++ [.blank] ++
  reducerSteps flavor exports (reducerCases context.service bindings)

def renderService (flavor : Flavor) (context : ServiceContext) : String :=
  render Script.indentUnit (serviceSteps flavor context)

/-! ### Files -/

/-- The import of the client. -/
def clientSteps (options : Options) : List Step :=
  [.line ("import \x7bclient\x7d from '" ++ options.clientModule ++ "'"),
   .blank]

/-- The module from which the types are imported. -/
def typesModule (options : Options) : String :=
  options.typesImport.getD "./types"

/-- The type of errors, which both languages declare alike. -/
def rpcErrorSteps : List Step :=
  block "export type RPCError = "
    [.line "code: number,", .line "message: string,", .line "details: string,"] ""

end RpcBindings.Store
