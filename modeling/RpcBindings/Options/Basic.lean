/-
Module: RpcBindings.Options.Basic
Purpose: The options of one run of a generator.
Main exports: Options, Options.clientModule, Options.goPackageName, Options.ofJson?, Options.toJson
-/
import RpcBindings.Json.Reader
import RpcBindings.Json.Record

namespace RpcBindings

open Json

/-- The options of one run.  Each dialect reads those that it knows. -/
structure Options where
  /-- The identifier that is printed at the top of the output, if not the name of the input. -/
  inputId : Option String := none
  /-- The module from which message types are imported. -/
  typesImport : Option String := none
  /-- The module from which the state dialects import the client. -/
  clientImport : Option String := none
  /-- The package of generated Go code. -/
  goPackage : Option String := none
  /-- Whether declared streams are `AsyncIterator`s. -/
  asyncIterators : Bool := false
  /-- Whether declared fields are spelled in camel case. -/
  camelCaseNames : Bool := false
deriving Repr, DecidableEq, Inhabited

namespace Options

/-- The module from which the client is imported. -/
def clientModule (options : Options) : String :=
  options.clientImport.getD "./client"

def goPackageName (options : Options) : String :=
  options.goPackage.getD "proto"

def withInputId (options : Options) (inputId : String) : Options :=
  { options with inputId := some inputId }

def withTypesImport (options : Options) (module : String) : Options :=
  { options with typesImport := some module }

def withAsyncIterators (options : Options) : Options :=
  { options with asyncIterators := true }

/-- The options that a JSON record describes.  Every field has a default. -/
def ofJson? (json : Json) : Option Options := do
  let record ← Record.ofJson?
    ["input_id", "types_import", "client_import", "go_package", "async_iterators",
     "camel_case_names"] json
  let inputId ← record.optionalText "input_id"
  let typesImport ← record.optionalText "types_import"
  let clientImport ← record.optionalText "client_import"
  let goPackage ← record.optionalText "go_package"
  let asyncIterators ← record.withDefault "async_iterators" bool? false
  let camelCaseNames ← record.withDefault "camel_case_names" bool? false
  pure { inputId, typesImport, clientImport, goPackage, asyncIterators, camelCaseNames }

def parse (text : String) : Option Options :=
  (Json.parse text).bind ofJson?

def optionalTextToJson : Option String → Json
  | some text => ofText text
  | none => .null

def toJson (options : Options) : Json :=
  ofMembers
    [("input_id", optionalTextToJson options.inputId),
     ("types_import", optionalTextToJson options.typesImport),
     ("client_import", optionalTextToJson options.clientImport),
     ("go_package", optionalTextToJson options.goPackage),
     ("async_iterators", .bool options.asyncIterators),
     ("camel_case_names", .bool options.camelCaseNames)]

end Options

end RpcBindings
