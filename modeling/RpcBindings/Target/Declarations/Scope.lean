/-
Module: RpcBindings.Target.Declarations.Scope
Purpose: How types are spelled in a declaration file, and which types it imports.
Main exports: Declarations.Scope, Declarations.Scope.spell, Declarations.Scope.memberOf,
  Declarations.typeRefs, Declarations.typeImports
-/
import RpcBindings.Target.TypeImports

namespace RpcBindings.Declarations

/-!
The top level of a declaration file stands for the root of its package.  A file of the package
`acme.geo.v1` puts its types into the namespace `geo.v1`, so that whoever imports the file as `acme`
finds them at `acme.geo.v1`.  Types that a message declares lie in a namespace of the message's name.
-/

/-- What spelling a type depends on. -/
structure Scope where
  registry : Registry
  file : File
  camelCase : Bool

/-- The scope of a file under some options. -/
def Scope.ofFile (registry : Registry) (file : File) (options : Options) : Scope :=
  { registry, file, camelCase := options.camelCaseNames }

namespace Scope

/-- The spelling of a type.  A type of this file is spelled from inside the package, and so is a type
without a package; any other type is spelled with its package.  A reference that means nothing is
left as it is written. -/
def spell (scope : Scope) (ref : String) : String :=
  match scope.registry.locate ref with
  | .ok location =>
      if location.file.name = scope.file.name ∨ location.file.package = "" then location.localName
      else location.file.package ++ "." ++ location.localName
  | .error _ => Name.withoutLeadingDot ref

/-! ### Members -/

/-- The type of a single value of a field. -/
def valueType (scope : Scope) (field : Field) : String :=
  match field.kind with
  | .bool => "boolean"
  | .string => "string"
  | .bytes => "Uint8Array"
  | .message | .group | .enum =>
      match field.typeName with
      | some ref => scope.spell ref
      | none => "unknown"
  | _ => "number"

/-- The type of the keys of a map.  There are only two to choose from. -/
def keyType : FieldKind → String
  | .string | .bool => "string"
  | _ => "number"

/-- The key and the value field of a map, if a field is one: it is repeated, and its type is a map
entry. -/
def mapOf? (scope : Scope) (field : Field) : Option (Field × Field) :=
  if field.isRepeated && field.kind == .message then do
    let ref ← field.typeName
    match scope.registry.message? ref with
    | .ok entry => entry.keyValue?
    | .error _ => none
  else none

/-- The name of a field's member. -/
def memberName (scope : Scope) (field : Field) : String :=
  if scope.camelCase then Name.camel field.name else field.name

/-- The member that a field becomes. -/
def memberOf (scope : Scope) (field : Field) : String :=
  let name := scope.memberName field
  match scope.mapOf? field with
  | some (key, value) =>
      name ++ "?: \x7b [key: " ++ keyType key.kind ++ "]: " ++ scope.valueType value ++ " \x7d;"
  | none =>
      match field.label with
      | .optional => name ++ "?: " ++ scope.valueType field ++ ";"
      | .required => name ++ ": " ++ scope.valueType field ++ ";"
      | .repeated => name ++ ": Array<" ++ scope.valueType field ++ ">;"

end Scope

/-! ### Imports -/

mutual

/-- The types that the fields of a message refer to, then those of the messages inside it. -/
def fieldRefs : Message → List String
  | { name := _, fields, nested, enums := _, mapEntry := _ } =>
      fields.filterMap Field.typeName ++ fieldRefsIn nested

/-- The types that the fields of several messages refer to. -/
def fieldRefsIn : List Message → List String
  | [] => []
  | message :: messages => fieldRefs message ++ fieldRefsIn messages

end

/-- The types that a file refers to: those of fields, then those of methods. -/
def typeRefs (file : File) : List String :=
  fieldRefsIn file.messages ++ file.methodRefs

/-- The imports of all types that a file refers to and another file declares. -/
def typeImports (context : FileContext) : TypeImports :=
  TypeImports.ofRefs context.registry (fun file => file.name != context.file.name)
    context.moduleOf (typeRefs context.file)

end RpcBindings.Declarations
