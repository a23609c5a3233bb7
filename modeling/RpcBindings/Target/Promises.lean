/-
Module: RpcBindings.Target.Promises
Purpose: Classes that turn the callbacks of a service client into promises.
Main exports: Promises.dialect
-/
import RpcBindings.Target.TypeImports

namespace RpcBindings.Promises

open Layout

/-!
Types are spelled with their packages and reached through the modules that declare them.  Methods
keep their names, as the client that is wrapped has them.
-/

def plugin : String := "protoc-gen-tsrpc"

/-- A method with streams: the stream of the client. -/
def streamSteps (context : MethodContext) : List Step :=
  block
    (context.method.name ++ "(): ClientDuplexStream<" ++ context.requestType ++ ", " ++
      context.responseType ++ "> ")
    [.line ("return this.service." ++ context.method.name ++ "()")]
    ""

/-- Any other method: a promise of the response. -/
def unarySteps (context : MethodContext) : List Step :=
  let response := context.responseType
  block (context.method.name ++ "(req: " ++ context.requestType ++ "): Promise<" ++ response ++ "> ")
    ([.enter ("return new Promise<" ++ response ++ ">((resolve, reject) => \x7b"),
      .enter ("this.service." ++ context.method.name ++ "(req, (err: RPCError | null, resp: " ++
        response ++ ") => \x7b")] ++
      block "if (err) " [.line "reject(err)", .line "return"] "" ++
      [.line "resolve(resp)",
       .leave "\x7d)",
       .leave "\x7d)"])
    ""

/-- What becomes of a method.  It lies one level deep, in a class. -/
def bindMethod (context : MethodContext) : Binding :=
  { exported := context.method.name
    requestType := context.requestType
    responseType := context.responseType
    fragment :=
      renderAt Script.indentUnit 1 <|
        if context.method.isDuplex then streamSteps context else unarySteps context }

def serviceSteps (context : ServiceContext) : List Step :=
  block ("export class " ++ context.service.name ++ "Service ")
    ([.line "service: ServiceClient", .blank] ++
      block "constructor(service: ServiceClient) " [.line "this.service = service"] "" ++
      context.bindings.flatMap fun binding => [.blank, .splice binding.fragment])
    ""

def typeImports (context : FileContext) : TypeImports :=
  TypeImports.ofRefs context.registry (fun _ => true) context.moduleOf context.file.methodRefs

/-- The lines above the imports of types. -/
def headingSteps (context : FileContext) : List Step :=
  Script.headingSteps plugin context.inputId ++
  [.blank,
   .line "import \x7bServiceClient\x7d from '@grpc/grpc-js/build/src/make-client'",
   .line "import \x7bClientDuplexStream\x7d from '@grpc/grpc-js/build/src/call'"] ++
  if (typeImports context).hasNamespaces then [] else [.blank]

/-- The lines between the imports and the classes. -/
def errorSteps : List Step :=
  block "export type RPCError = "
    [.line "name: string", .line "message: string", .line "code: number",
     .line "details: string"] "" ++
  [.blank]

def fileSteps (context : FileContext) : List Step :=
  headingSteps context ++
  (typeImports context).steps ++
  errorSteps ++
  [.splice ("\n".intercalate context.services)]

def dialect : Dialect where
  name := "ts-promise"
  plugin := plugin
  language := "typescript"
  suffix := "rpc.ts"
  typeName := Name.withoutLeadingDot
  bindMethod := bindMethod
  renderService := fun context => render Script.indentUnit (serviceSteps context)
  renderFile := fun context => render Script.indentUnit (fileSteps context)

end RpcBindings.Promises
