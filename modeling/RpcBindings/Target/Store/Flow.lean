/-
Module: RpcBindings.Target.Store.Flow
Purpose: Redux stores in JavaScript with Flow types.
Main exports: Store.Flow.dialect
-/
import RpcBindings.Target.Store.Thunk

namespace RpcBindings.Store.Flow

open Layout

def plugin : String := "protoc-gen-jsrpc"

def flavor : Flavor where
  optional := fun type => "?" ++ type
  reducerHeader := fun exports =>
    "export function " ++ exports.reducer ++ "(state: " ++ exports.stateType ++ " = " ++
      exports.initialState ++ ", action: any) "

/-- A thunk as code.  An error goes to the caller's handler, or is dispatched if there is none. -/
def thunkSteps (thunk : Thunk) : List Step :=
  block
    ("export const " ++ thunk.exported ++ " = (req: " ++ thunk.requestType ++
      ", respFn: ?(resp: " ++ thunk.responseType ++
      ") => void, errFn: ?(err: RPCError) => void) => " ++
      "async (dispatch: (action: any) => void) => ")
    (thunk.dispatchRequest ++
      [.line "let cl = await client()",
       .enter ("cl." ++ thunk.call ++ "(req, (err: ?RPCError, resp: ?" ++ thunk.responseType ++
         ") => \x7b")] ++
      block "if (err && !errFn) " (thunk.dispatchError ++ [.line "return"]) "" ++
      block "if (err && errFn) " [.line "console.error(err)", .line "errFn(err)"] "" ++
      thunk.dispatchResponse ++
      [.leave "\x7d)"])
    ""

def bindMethod (context : MethodContext) : Binding :=
  let thunk := Thunk.ofMethod context
  thunk.bind (thunkSteps thunk)

/-- The lines above the imports of types. -/
def headingSteps (context : FileContext) : List Step :=
  [.line "// @flow",
   .line "/* eslint-disable */"] ++
  Script.headingSteps plugin context.inputId ++
  clientSteps context.options

/-- A file of thunks.  The types are exported again, so that callers need no other module. -/
def fileSteps (context : FileContext) : List Step :=
  headingSteps context ++
  Script.importSteps "import type" context.types.toList (typesModule context.options) ++
  Script.nameListSteps "export type" context.types.toList "" ++
  rpcErrorSteps ++
  [.blank,
   .splice ("\n".intercalate context.services)]

def dialect : Dialect where
  name := "flow-redux"
  plugin := plugin
  language := "flow"
  suffix := "redux.js"
  bindMethod := bindMethod
  renderService := renderService flavor
  renderFile := fun context => render Script.indentUnit (fileSteps context)

end RpcBindings.Store.Flow
