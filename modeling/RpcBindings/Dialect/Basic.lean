/-
Module: RpcBindings.Dialect.Basic
Purpose: Dialects: the ways of writing bindings that a generator can be run with.
Main exports: Dialect, MethodContext, ServiceContext, FileContext, Dialect.orderedMethods
-/
import RpcBindings.Binding
import RpcBindings.NameSet
import RpcBindings.Options.Basic
import RpcBindings.Path
import RpcBindings.Registry.Basic

namespace RpcBindings

/-!
A dialect says how a field, a method, a service and a whole file are written, and what it asks of its
input.  It keeps no state.  Everything that a function of a dialect may look at is in the context
that it is given.
-/

/-- The order in which the methods of a service are taken. -/
inductive MethodOrder where
  /-- As they are declared. -/
  | declared
  /-- By name, compared byte by byte; methods of one name as they are declared. -/
  | byName
deriving Repr, DecidableEq, Inhabited

/-- How many services a file may have. -/
inductive ServiceCount where
  | any
  | exactlyOne
deriving Repr, DecidableEq, Inhabited

/-- What a dialect knows when it binds a method. -/
structure MethodContext where
  registry : Registry
  file : File
  service : Service
  method : Method
  request : Message
  requestType : String
  responseType : String
  /-- The bindings of the request's fields in their order, without those that are empty. -/
  fields : List FieldBinding
  options : Options

def MethodContext.fullName (context : MethodContext) : String :=
  context.service.fullName context.method

/-- What a dialect knows when it puts the bindings of a service together. -/
structure ServiceContext where
  file : File
  service : Service
  /-- The bindings of the methods, in the order of the dialect. -/
  bindings : List Binding

/-- What a dialect knows when it writes a file. -/
structure FileContext where
  registry : Registry
  file : File
  /-- The identifier that is printed at the top. -/
  inputId : String
  /-- The types that the bindings refer to. -/
  types : NameSet
  /-- The services as they were written, in declared order. -/
  services : List String
  /-- Whether both sides of some method send streams. -/
  streaming : Bool
  options : Options

namespace FileContext

/-- The name of the input without its extension. -/
def stem (context : FileContext) : String :=
  Path.stem context.file.name

/-- The module from which the types of the input are imported. -/
def typesModule (context : FileContext) : String :=
  context.options.typesImport.getD (Path.declarationModule context.file.name)

/-- The module from which the types of a file are imported. -/
def moduleOf (context : FileContext) (file : File) : String :=
  if file.name = context.file.name then context.typesModule
  else Path.declarationModule file.name

end FileContext

/-- A way of writing bindings. -/
structure Dialect where
  name : String
  /-- The compiler plugin that the dialect stands for, which the output names as its author. -/
  plugin : String
  language : String
  /-- What follows the input's stem and a dot in the name of the output. -/
  suffix : String
  /-- The name of the output for an input file. -/
  outputName : String → String := fun fileName => Path.stem fileName ++ "." ++ suffix
  methodOrder : MethodOrder := .declared
  servicesPerFile : ServiceCount := .any
  typeName : String → String := Name.lastSegment
  mapField : Field → FieldBinding := fun _ => .none
  bindMethod : MethodContext → Binding
  /-- How the bindings of a service are put together.  Without a rule of its own a dialect leaves an
  empty line between them. -/
  renderService : ServiceContext → String := fun context =>
    "\n".intercalate (context.bindings.map Binding.fragment)
  renderFile : FileContext → String

namespace Dialect

/-- The bytes of a name, by which names are ordered. -/
def nameBytes (name : String) : List UInt8 :=
  name.toList.flatMap String.utf8EncodeChar

/-- The methods of a service in the order in which the dialect takes them. -/
def orderedMethods (dialect : Dialect) (service : Service) : List Method :=
  match dialect.methodOrder with
  | .declared => service.methods
  | .byName =>
      service.methods.mergeSort fun first second =>
        decide (nameBytes first.name ≤ nameBytes second.name)

end Dialect

end RpcBindings
