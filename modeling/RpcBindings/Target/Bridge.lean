/-
Module: RpcBindings.Target.Bridge
Purpose: Bridges from a renderer process to the main process of a desktop application.
Main exports: Bridge.dialect
-/
import RpcBindings.Target.Script

namespace RpcBindings.Bridge

open Layout

/-!
Each call chooses a fresh channel for its answers, named for the method and a random number, sends
its request on the channel `rpc` (`rpc-stream` if both sides send streams) and listens for answers.
A handler of errors is given with each call.
-/

def plugin : String := "protoc-gen-tsipc"

/-- Choose the channel for answers. -/
def replyStep (fullName : String) : Step :=
  .line ("const reply = '" ++ fullName ++ "-' + replyID()")

/-- Send something to the main process.  `extra` names what is sent besides the request and the
channel for answers. -/
def sendStep (channel service method extra : String) : Step :=
  .line ("ipcRenderer.send('" ++ channel ++ "', \x7bservice: '" ++ service ++ "', method: '" ++
    method ++ "', args: req, reply" ++ extra ++ "\x7d)")

/-- A method that is called once, as a function that promises the response. -/
def unarySteps (context : MethodContext) (exported : String) : List Step :=
  block
    ("export const " ++ exported ++ " = (req: " ++ context.requestType ++
      ", errHandler: ErrHandler = ignoreErr) => ")
    ([.enter ("return new Promise<" ++ context.responseType ++ ">((resolve, reject) => \x7b"),
      replyStep context.fullName,
      .enter "ipcRenderer.once(reply, (event, arg) => \x7b"] ++
      block "if (arg.err) "
        [.line ("console.error('RPC error (" ++ context.fullName ++ "):', arg.err)"),
         .line "errHandler(arg.err)",
         .line "reject(arg.err)",
         .line "return"] "" ++
      [.line "resolve(arg.resp)",
       .leave "\x7d)",
       sendStep "rpc" context.service.name context.method.name "",
       .leave "\x7d)"])
    ""

/-- The name of the type of a stream's events.  Where services share a file, it begins with the
service. -/
def eventName (file : File) (service : Service) (method : Method) : String :=
  (if file.isShared then service.name else "") ++ method.name ++ "Event"

def stopListening : Step :=
  .line "ipcRenderer.removeAllListeners(reply)"

/-- A method with streams, as a function that takes a listener and gives a sender.  The listener
stays until the main process reports the end or an error, or until the sender is told to end. -/
def streamSteps (context : MethodContext) (exported : String) : List Step :=
  let event := eventName context.file context.service context.method
  [.line ("export type " ++ event ++ " = \x7berr?: RPCErr, res?: " ++ context.responseType ++
     ", done: boolean\x7d"),
   .blank,
   .enter ("export const " ++ exported ++ " = ("),
   .line ("f: (res: " ++ event ++ ") => void,"),
   .line "errHandler: ErrHandler = ignoreErr,",
   .turn ("): ((req?: " ++ context.requestType ++ ", end?: boolean) => void) => \x7b"),
   replyStep context.fullName,
   .enter "ipcRenderer.on(reply, (event, arg) => \x7b"] ++
  block "if (!!arg.done || arg.err) " [stopListening] "" ++
  block "if (arg.err) "
    [.line ("console.error('RPC-stream error (" ++ context.fullName ++ "):', arg.err)"),
     .line "errHandler(arg.err)"] "" ++
  [.line "f(\x7bres: arg.resp, err: arg.err, done: !!arg.done\x7d)",
   .leave "\x7d)"] ++
  block ("return (req?: " ++ context.requestType ++ ", end?: boolean) => ")
    ([sendStep "rpc-stream" context.service.name context.method.name ", end"] ++
      block "if (end) " [stopListening] "")
    "" ++
  [.leave "\x7d"]

def bindMethod (context : MethodContext) : Binding :=
  let exported := Script.exportName context.file context.service context.method
  { exported
    requestType := context.requestType
    responseType := context.responseType
    fragment :=
      render Script.indentUnit <|
        if context.method.isDuplex then streamSteps context exported
        else unarySteps context exported }

/-- The lines above the imports of types. -/
def headingSteps (context : FileContext) : List Step :=
  Script.headingSteps plugin context.inputId ++
  [.line "import \x7bipcRenderer\x7d from 'electron'",
   .line "import \x7brandomBytes\x7d from 'crypto'",
   .blank]

/-- What follows the imports of types. -/
def callSteps (context : FileContext) : List Step :=
  block "const replyID = (): string => " [.line "return randomBytes(20).toString('hex')"] "" ++
  [.blank,
   .line "export type RPCErr = \x7bmessage: string; name?: string; code?: number\x7d",
   .line "export type ErrHandler = (err: RPCErr) => void",
   .line "export const ignoreErr: ErrHandler = () => \x7b\x7d",
   .blank,
   .splice ("\n".intercalate context.services)]

def fileSteps (context : FileContext) : List Step :=
  headingSteps context ++
  Script.importSteps "import" context.types.toList context.typesModule ++
  callSteps context

def dialect : Dialect where
  name := "ts-ipc"
  plugin := plugin
  language := "typescript"
  suffix := "ipc.ts"
  bindMethod := bindMethod
  renderFile := fun context => render Script.indentUnit (fileSteps context)

end RpcBindings.Bridge
