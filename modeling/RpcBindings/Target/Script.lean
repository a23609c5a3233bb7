/-
Module: RpcBindings.Target.Script
Purpose: What all targets of the JavaScript family share: exported names, imports, headings.
Main exports: Script.exportName, Script.importSteps, Script.indentUnit, Script.headingSteps
-/
import RpcBindings.Dialect.Basic
import RpcBindings.Layout
import RpcBindings.Name.Spelling

namespace RpcBindings.Script

open Layout

/-- Blocks are indented by two spaces. -/
def indentUnit : String := "  "

/-- The name under which a method is exported.  Where services share a file, the service comes first
in the name, so that methods of one name can be told apart. -/
def exportName (file : File) (service : Service) (method : Method) : String :=
  if file.isShared then Name.decapitalize service.name ++ method.name
  else Name.decapitalize method.name

/-- The first lines of generated code: the plugin that wrote it, and its input. -/
def headingSteps (plugin inputId : String) : List Step :=
  [.line ("// Code generated by " ++ plugin ++ " DO NOT EDIT."),
   .line ("// InputID: " ++ inputId)]

/-- The names of a list, one to a line, between braces. -/
def nameListSteps (opening : String) (names : List String) (closing : String) : List Step :=
  if names.isEmpty then []
  else block (opening ++ " ") [.lines (withCommas names)] closing ++ [.blank]

/-- The import of some names from a module.  There is none if there are no names. -/
def importSteps (keyword : String) (names : List String) (module : String) : List Step :=
  nameListSteps keyword names (" from '" ++ module ++ "'")

end RpcBindings.Script
