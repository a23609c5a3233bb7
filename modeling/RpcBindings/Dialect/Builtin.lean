/-
Module: RpcBindings.Dialect.Builtin
Purpose: The dialects that can be chosen by name.
Main exports: Dialect.builtin, Dialect.ofName?, Dialect.ofLanguage, generateByName
-/
import RpcBindings.Generate
import RpcBindings.Target.Bridge
import RpcBindings.Target.Commands
import RpcBindings.Target.Declarations.File
import RpcBindings.Target.Promises
import RpcBindings.Target.Store.Flow
import RpcBindings.Target.Store.TypeScript

namespace RpcBindings

namespace Dialect

/-- The dialects that can be chosen by name. -/
def builtin : List Dialect :=
  [Commands.dialect, Store.TypeScript.dialect, Store.Flow.dialect, Bridge.dialect,
   Promises.dialect, Declarations.dialect]

def builtinNames : List String :=
  builtin.map Dialect.name

def ofName? (name : String) : Option Dialect :=
  builtin.find? fun dialect => dialect.name == name

def ofLanguage (language : String) : List Dialect :=
  builtin.filter fun dialect => dialect.language == language

/-- No two dialects share a name. -/
theorem nodup_builtinNames : builtinNames.Nodup := by
  decide

end Dialect

/-- Generate the bindings of a file with the dialect that has a name. -/
def generateByName (registry : Registry) (fileName dialectName : String) (options : Options) :
    Except GenerateError GeneratedFile :=
  match Dialect.ofName? dialectName with
  | some dialect => generate registry fileName dialect options
  | none => .error (.unknownDialect dialectName)

end RpcBindings
