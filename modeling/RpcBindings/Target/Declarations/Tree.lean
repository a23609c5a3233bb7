/-
Module: RpcBindings.Target.Declarations.Tree
Purpose: Declared types as a tree of enums, interfaces and namespaces.
Main exports: Declarations.Declaration, Declarations.ofMessage, Declarations.ofEnum,
  Declarations.Declaration.steps, Declarations.bodySteps
-/
import RpcBindings.Target.Declarations.Scope

namespace RpcBindings.Declarations

open Layout

inductive Declaration where
  /-- An enum with the names of its members. -/
  | enumeration (name : String) (members : List String)
  /-- An interface with its member lines. -/
  | interface (name : String) (members : List String)
  | scope (name : String) (body : List Declaration)
deriving Repr, Inhabited, BEq

def ofEnum (enum : Enum) : Declaration :=
  .enumeration enum.name (enum.values.map EnumValue.name)

mutual

/-- The declarations of a message: an interface, and a namespace for the types inside the message,
if it declares any.  Map entries inside it are part of its fields and not declared. -/
def ofMessage (scope : Scope) : Message → List Declaration
  | { name, fields, nested, enums, mapEntry := _ } =>
      let inner := enums.map ofEnum ++ ofNested scope nested
      .interface name (fields.map scope.memberOf) ::
        (if inner.isEmpty then [] else [.scope name inner])

def ofNested (scope : Scope) : List Message → List Declaration
  | [] => []
  | message :: messages =>
      (if message.mapEntry then [] else ofMessage scope message) ++ ofNested scope messages

end

/-- The declarations of the types of a file: its enums, then its messages. -/
def ofFile (scope : Scope) : List Declaration :=
  scope.file.enums.map ofEnum ++ scope.file.messages.flatMap (ofMessage scope)

/-- A member of an enum, whose value is its own name. -/
def enumMember (name : String) : String :=
  name ++ " = \"" ++ name ++ "\","

/-- Parts of a file with an empty line between any two. -/
def spaced : List (List Step) → List Step
  | [] => []
  | [part] => part
  | part :: next :: rest => part ++ [.blank] ++ spaced (next :: rest)

mutual

/-- A declaration as code. -/
def Declaration.steps : Declaration → List Step
  | .enumeration name members =>
      block ("export enum " ++ name ++ " ") [.lines (members.map enumMember)] ""
  | .interface name members =>
      block ("export interface " ++ name ++ " ") [.lines members] ""
  | .scope name body => block ("export namespace " ++ name ++ " ") (spaced (bodySteps body)) ""

def bodySteps : List Declaration → List (List Step)
  | [] => []
  | declaration :: rest => declaration.steps :: bodySteps rest

end

end RpcBindings.Declarations
