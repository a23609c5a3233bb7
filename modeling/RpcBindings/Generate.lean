/-
Module: RpcBindings.Generate
Purpose: The generation of bindings for one file.
Main exports: GenerateError, GeneratedFile, generate
-/
import RpcBindings.Dialect.Basic
import RpcBindings.Options.Parameter

namespace RpcBindings

/-! ### Errors -/

/-- Why nothing is generated. -/
inductive GenerateError where
  | fileNotFound (cause : LookupError)
  /-- What a method takes or answers with is no known message. -/
  | typeNotFound (file service method : String) (cause : LookupError)
  /-- The dialect asks for one service, and the file has another number of them. -/
  | unsupportedInput (file dialect : String) (services : Nat)
  | unknownDialect (name : String)
  | invalidParameter (fault : ParameterFault)
deriving Repr, DecidableEq, Inhabited

namespace GenerateError

/-- Why a dialect that asks for one service refuses a file. -/
def serviceCountReason (services : Nat) : String :=
  "exactly one service per file is supported, found " ++ toString services

def message : GenerateError → String
  | .fileNotFound cause => cause.message
  | .typeNotFound file service method cause =>
      file ++ ": " ++ service ++ "." ++ method ++ ": " ++ cause.message
  | .unsupportedInput file dialect services =>
      file ++ ": unsupported input for " ++ dialect ++ ": " ++ serviceCountReason services
  | .unknownDialect name => "unknown dialect: " ++ name
  | .invalidParameter fault => "invalid generator parameter: " ++ fault.message

/-- Whether something was looked up and not found. -/
def isNotFound : GenerateError → Bool
  | .fileNotFound _ | .typeNotFound _ _ _ _ => true
  | _ => false

end GenerateError

/-! ### Generation -/

structure GeneratedFile where
  name : String
  content : String
deriving Repr, DecidableEq, Inhabited

namespace Dialect

variable (dialect : Dialect) (registry : Registry) (options : Options)

/-- Whether a file has a number of services that the dialect accepts. -/
def acceptsCount (file : File) : Bool :=
  match dialect.servicesPerFile with
  | .any => true
  | .exactlyOne => file.services.length == 1

/-- The message that a reference of a method means. -/
def resolve (file : File) (service : Service) (method : Method) (ref : String) :
    Except GenerateError Message :=
  (registry.message? ref).mapError fun cause =>
    .typeNotFound file.name service.name method.name cause

/-- The bindings of a request's fields, without those that are empty. -/
def bindFields (request : Message) : List FieldBinding :=
  (request.fields.map dialect.mapField).filter fun binding => !binding.isEmpty

/-- Bind one method.  The response must be known too, although only its name is used. -/
def bind (file : File) (service : Service) (method : Method) : Except GenerateError Binding := do
  let request ← resolve registry file service method method.inputType
  let _ ← resolve registry file service method method.outputType
  pure <| dialect.bindMethod
    { registry, file, service, method, request
      requestType := dialect.typeName method.inputType
      responseType := dialect.typeName method.outputType
      fields := dialect.bindFields request
      options }

/-- Bind the methods of a service, in the order of the dialect. -/
def bindService (file : File) (service : Service) : Except GenerateError ServiceContext := do
  let bindings ← (dialect.orderedMethods service).mapM (dialect.bind registry options file service)
  pure { file, service, bindings }

/-- What is known about a file once its services are bound. -/
def fileContext (file : File) (services : List ServiceContext) : FileContext :=
  { registry, file
    inputId := options.inputId.getD file.name
    types := NameSet.ofList <| services.flatMap fun service =>
      service.bindings.flatMap Binding.referencedTypes
    services := services.map dialect.renderService
    streaming := file.services.any fun service => service.methods.any Method.isDuplex
    options }

end Dialect

/-- Generate the bindings of a file.  Nothing is generated unless the file is known, the dialect
accepts its number of services, and every method takes and answers with known messages. -/
def generate (registry : Registry) (fileName : String) (dialect : Dialect) (options : Options) :
    Except GenerateError GeneratedFile := do
  let file ← (registry.file? fileName).mapError .fileNotFound
  if dialect.acceptsCount file then
    let services ← file.services.mapM (dialect.bindService registry options file)
    pure
      { name := dialect.outputName file.name
        content := dialect.renderFile (dialect.fileContext registry options file services) }
  else
    throw (.unsupportedInput file.name dialect.name file.services.length)

end RpcBindings
