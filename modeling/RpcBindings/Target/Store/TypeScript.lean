/-
Module: RpcBindings.Target.Store.TypeScript
Purpose: Redux stores in TypeScript.
Main exports: Store.TypeScript.dialect
-/
import RpcBindings.Target.Store.Thunk

namespace RpcBindings.Store.TypeScript

open Layout

def plugin : String := "protoc-gen-tsredux"

def flavor : Flavor where
  optional := fun type => type ++ " | void"
  reducerHeader := fun exports =>
    "export const " ++ exports.reducer ++ " = (state: " ++ exports.stateType ++ " = " ++
      exports.initialState ++ ", action: any) => "

/-- What a thunk does with an error.  The caller's handler is told first.  The handler of the store,
which comes with the configuration, decides alone if there is one; otherwise an error without a
caller's handler is dispatched. -/
def errorSteps (thunk : Thunk) : List Step :=
  block "if (errFn) " [.line "console.error(err)", .line "errFn(err)"] "" ++
  [.line "const errHandler = config ? config.errHandler : undefined",
   .enter "if (errHandler) \x7b",
   .line "errHandler(err, errFn)",
   .turn "\x7d else if (!errFn) \x7b"] ++
  thunk.dispatchError ++
  [.leave "\x7d",
   .line "return"]

def thunkSteps (thunk : Thunk) : List Step :=
  block
    ("export const " ++ thunk.exported ++ " = (req: " ++ thunk.requestType ++
      ", respFn: ((resp: " ++ thunk.responseType ++
      ") => void) | void, errFn: ErrFn | void) => async (dispatch: (action: any) => void, " ++
      "getState: () => any, config: RPCConfig | void) => ")
    (thunk.dispatchRequest ++
      [.line "const cl = await client()",
       .enter ("cl." ++ thunk.call ++ "(req, (err: RPCError | void, resp: " ++
         thunk.responseType ++ " | void) => \x7b")] ++
      block "if (err) " (errorSteps thunk) "" ++
      thunk.dispatchResponse ++
      [.leave "\x7d)"])
    ""

def bindMethod (context : MethodContext) : Binding :=
  let thunk := Thunk.ofMethod context
  thunk.bind (thunkSteps thunk)

/-- The types that handlers of errors need. -/
def errorTypeSteps : List Step :=
  rpcErrorSteps ++
  [.blank,
   .line "export type ErrFn = (err: RPCError) => void",
   .line "export type ErrHandler = (err: RPCError, errFn: ErrFn | void) => void"] ++
  block "export type RPCConfig = " [.line "errHandler?: ErrHandler,"] "" ++
  [.blank]

/-- The lines above the imports of types. -/
def headingSteps (context : FileContext) : List Step :=
  Script.headingSteps plugin context.inputId ++
  clientSteps context.options

def fileSteps (context : FileContext) : List Step :=
  headingSteps context ++
  Script.importSteps "import" context.types.toList (typesModule context.options) ++
  errorTypeSteps ++
  [.splice ("\n".intercalate context.services)]

def dialect : Dialect where
  name := "ts-redux"
  plugin := plugin
  language := "typescript"
  suffix := "redux.ts"
  bindMethod := bindMethod
  renderService := renderService flavor
  renderFile := fun context => render Script.indentUnit (fileSteps context)

end RpcBindings.Store.TypeScript
