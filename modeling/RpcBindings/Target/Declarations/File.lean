/-
Module: RpcBindings.Target.Declarations.File
Purpose: Declaration files: the types and services of a file, as other modules import them.
Main exports: Declarations.dialect
-/
import RpcBindings.Target.Declarations.Tree

namespace RpcBindings.Declarations

open Layout

def plugin : String := "protoc-gen-tstypes"

/-- The segments of a package below its root, if there are any. -/
def namespacePath? (package : String) : Option String :=
  match package.toList.dropWhile fun c => c != '.' with
  | _ :: path => some (String.ofList path)
  | [] => none

/-- The level of the declarations of a package. -/
def namespaceLevel (package : String) : Nat :=
  if (namespacePath? package).isSome then 1 else 0

/-- The type of one side of a method. -/
def sideType (options : Options) (streaming : Bool) (type : String) : String :=
  if streaming && options.asyncIterators then "AsyncIterator<" ++ type ++ ">" else type

/-- What becomes of a method: a member of the interface of its service. -/
def bindMethod (context : MethodContext) : Binding :=
  let scope := Scope.ofFile context.registry context.file context.options
  let request := scope.spell context.method.inputType
  let response := scope.spell context.method.outputType
  { exported := context.method.name
    requestType := request
    responseType := response
    fragment :=
      renderAt Script.indentUnit (namespaceLevel context.file.package + 1)
        [.line (context.method.name ++ ": (r: " ++
          sideType context.options context.method.clientStreaming request ++ ") => " ++
          sideType context.options context.method.serverStreaming response ++ ";")] }

def renderService (context : ServiceContext) : String :=
  renderAt Script.indentUnit (namespaceLevel context.file.package) <|
    block ("export interface " ++ context.service.name ++ "Service ")
      (context.bindings.map fun binding => .splice binding.fragment)
      ""

/-- The declarations of a file, inside the namespace of its package. -/
def packageSteps (context : FileContext) : List Step :=
  let body :=
    spaced (bodySteps (ofFile (Scope.ofFile context.registry context.file context.options)) ++
      context.services.map fun service => [.splice service])
  match namespacePath? context.file.package with
  | some path => block ("export declare namespace " ++ path ++ " ") body ""
  | none => body

def fileSteps (context : FileContext) : List Step :=
  Script.headingSteps plugin context.inputId ++
  [.blank] ++
  (typeImports context).steps ++
  packageSteps context

/-- Declaration files of TypeScript.  The name of the output is that of the module from which other
targets import types. -/
def dialect : Dialect where
  name := "ts-types"
  plugin := plugin
  language := "typescript"
  suffix := "d.ts"
  bindMethod := bindMethod
  renderService := renderService
  renderFile := fun context => render Script.indentUnit (fileSteps context)

end RpcBindings.Declarations
