/-
Module: RpcBindings.Target.Store.Thunk
Purpose: Thunks: functions that call a method and tell a store about it.
Main exports: Store.Thunk, Store.Thunk.ofMethod, Store.Thunk.bind
-/
import RpcBindings.Target.Store.State

namespace RpcBindings.Store

open Layout

/-- What the thunk of a method is made of. -/
structure Thunk where
  exported : String
  call : String
  /-- What the types of the actions begin with. -/
  action : String
  requestType : String
  responseType : String
deriving Repr, DecidableEq, Inhabited

namespace Thunk

/-- The thunk of a method.  Actions come in pairs of request and response, so a method with streams
is called like any other. -/
def ofMethod (context : MethodContext) : Thunk :=
  { exported := Script.exportName context.file context.service context.method
    call := callName context.method
    action := actionName context.service context.method
    requestType := context.requestType
    responseType := context.responseType }

def dispatch (action payload : String) : List Step :=
  [.enter "dispatch(\x7b",
   .line ("type: '" ++ action ++ "',"),
   .line ("payload: " ++ payload ++ ","),
   .leave "\x7d)"]

def dispatchRequest (thunk : Thunk) : List Step :=
  dispatch (requestAction thunk.action) "req"

/-- Hand the response to the caller, if there is one, and dispatch it. -/
def dispatchResponse (thunk : Thunk) : List Step :=
  [.line "if (resp && respFn) respFn(resp)"] ++
  dispatch (responseAction thunk.action) "resp"

/-- Dispatch an error that nobody handles. -/
def dispatchError (thunk : Thunk) : List Step :=
  dispatch "ERROR" ("\x7berror: err, action: '" ++ thunk.action ++ "', req\x7d")

def bind (thunk : Thunk) (steps : List Step) : Binding :=
  { exported := thunk.exported
    requestType := thunk.requestType
    responseType := thunk.responseType
    fragment := render Script.indentUnit steps }

end Thunk

end RpcBindings.Store
