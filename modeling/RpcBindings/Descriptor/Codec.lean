/-
Module: RpcBindings.Descriptor.Codec
Purpose: Descriptions of interface files as JSON, written and read.
Main exports: File.toJson, File.ofJson?, Message.toJson, Message.ofJson?, Descriptor.parseFiles
-/
import RpcBindings.Descriptor.Basic
import RpcBindings.Json.Reader
import RpcBindings.Json.Record

namespace RpcBindings

open Json

/-!
Every field of a description is written out, except for the type of a field that has none.  Reading
accepts what a record allows, with a default for everything but names, kinds, numbers and the types
of methods.  The readers take the number of levels that arrays and objects may still be nested.
-/

/-! ### Words -/

/-- Read a word from a fixed set.  It may also be written as an object with the word as its only key
and `null` behind it. -/
def wordOf? {α : Type} (ofWord? : String → Option α) (levels : Nat) : Json → Option α
  | .string (some word) => ofWord? word
  | .object [(some word, .null)] => deeper levels fun _ => ofWord? word
  | _ => none

/-! ### Fields -/

def Field.toJson (field : Field) : Json :=
  ofMembers <|
    [("name", ofText field.name), ("kind", ofText field.kind.word),
     ("label", ofText field.label.word)] ++
    (match field.typeName with
      | some ref => [("type_name", ofText ref)]
      | none => [])

def Field.ofJson? (levels : Nat) (json : Json) : Option Field :=
  deeper levels fun inner => do
    let record ← Record.ofJson? ["name", "kind", "label", "type_name"] json
    let name ← record.required "name" text?
    let kind ← record.required "kind" (wordOf? FieldKind.ofWord? inner)
    let label ← record.withDefault "label" (wordOf? Label.ofWord? inner) .optional
    let typeName ← record.optionalText "type_name"
    pure { name, kind, label, typeName }

/-! ### Enums -/

def EnumValue.toJson (value : EnumValue) : Json :=
  ofMembers [("name", ofText value.name), ("number", ofInt value.number.toInt)]

def EnumValue.ofJson? (levels : Nat) (json : Json) : Option EnumValue :=
  deeper levels fun _ => do
    let record ← Record.ofJson? ["name", "number"] json
    let name ← record.required "name" text?
    let number ← record.required "number" int32?
    pure { name, number }

def Enum.toJson (enum : Enum) : Json :=
  ofMembers [("name", ofText enum.name), ("values", .array (enum.values.map EnumValue.toJson))]

def Enum.ofJson? (levels : Nat) (json : Json) : Option Enum :=
  deeper levels fun inner => do
    let record ← Record.ofJson? ["name", "values"] json
    let name ← record.required "name" text?
    let values ← record.withDefault "values" (listOf? EnumValue.ofJson? inner) []
    pure { name, values }

/-! ### Messages -/

mutual

def Message.toJson : Message → Json
  | { name, fields, nested, enums, mapEntry } =>
      ofMembers
        [("name", ofText name),
         ("fields", .array (fields.map Field.toJson)),
         ("nested", .array (Message.listToJson nested)),
         ("enums", .array (enums.map Enum.toJson)),
         ("map_entry", .bool mapEntry)]

def Message.listToJson : List Message → List Json
  | [] => []
  | message :: messages => message.toJson :: Message.listToJson messages

end

/-- Read a message, given how the messages inside it are read. -/
def Message.readWith (nestedOf? : Json → Option (List Message)) (inner : Nat) (json : Json) :
    Option Message := do
  let record ← Record.ofJson? ["name", "fields", "nested", "enums", "map_entry"] json
  let name ← record.required "name" text?
  let fields ← record.withDefault "fields" (listOf? Field.ofJson? inner) []
  let nested ← record.withDefault "nested" nestedOf? []
  let enums ← record.withDefault "enums" (listOf? Enum.ofJson? inner) []
  let mapEntry ← record.withDefault "map_entry" bool? false
  pure { name, fields, nested, enums, mapEntry }

/-- The message that a JSON value describes.  The message takes one level, and the array of the
messages inside it another. -/
def Message.ofJson? : Nat → Json → Option Message
  | 0, _ => none
  | 1, json => Message.readWith (fun _ => none) 0 json
  | levels + 2, json =>
      Message.readWith
        (fun nested =>
          match nested with
          | .array items => items.mapM (Message.ofJson? levels)
          | _ => none)
        (levels + 1) json

/-! ### Services -/

def Method.toJson (method : Method) : Json :=
  ofMembers
    [("name", ofText method.name),
     ("input_type", ofText method.inputType),
     ("output_type", ofText method.outputType),
     ("client_streaming", .bool method.clientStreaming),
     ("server_streaming", .bool method.serverStreaming)]

def Method.ofJson? (levels : Nat) (json : Json) : Option Method :=
  deeper levels fun _ => do
    let record ← Record.ofJson?
      ["name", "input_type", "output_type", "client_streaming", "server_streaming"] json
    let name ← record.required "name" text?
    let inputType ← record.required "input_type" text?
    let outputType ← record.required "output_type" text?
    let clientStreaming ← record.withDefault "client_streaming" bool? false
    let serverStreaming ← record.withDefault "server_streaming" bool? false
    pure { name, inputType, outputType, clientStreaming, serverStreaming }

def Service.toJson (service : Service) : Json :=
  ofMembers
    [("name", ofText service.name), ("methods", .array (service.methods.map Method.toJson))]

def Service.ofJson? (levels : Nat) (json : Json) : Option Service :=
  deeper levels fun inner => do
    let record ← Record.ofJson? ["name", "methods"] json
    let name ← record.required "name" text?
    let methods ← record.withDefault "methods" (listOf? Method.ofJson? inner) []
    pure { name, methods }

/-! ### Files -/

def File.toJson (file : File) : Json :=
  ofMembers
    [("name", ofText file.name),
     ("package", ofText file.package),
     ("services", .array (file.services.map Service.toJson)),
     ("messages", .array (Message.listToJson file.messages)),
     ("enums", .array (file.enums.map Enum.toJson))]

def File.ofJson? (levels : Nat) (json : Json) : Option File :=
  deeper levels fun inner => do
    let record ← Record.ofJson? ["name", "package", "services", "messages", "enums"] json
    let name ← record.required "name" text?
    let package ← record.withDefault "package" text? ""
    let services ← record.withDefault "services" (listOf? Service.ofJson? inner) []
    let messages ← record.withDefault "messages" (listOf? Message.ofJson? inner) []
    let enums ← record.withDefault "enums" (listOf? Enum.ofJson? inner) []
    pure { name, package, services, messages, enums }

namespace Descriptor

/-- How many levels arrays and objects may be nested. -/
def depthLimit : Nat := 127

def filesToJson (files : List File) : Json :=
  .array (files.map File.toJson)

def filesOfJson? (json : Json) : Option (List File) :=
  listOf? File.ofJson? depthLimit json

def parseFiles (text : String) : Option (List File) :=
  (Json.parse text).bind filesOfJson?

end Descriptor

@[simp] theorem Message.listToJson_eq_map (messages : List Message) :
    Message.listToJson messages = messages.map Message.toJson := by
  induction messages with
  | nil => simp [Message.listToJson]
  | cons message messages inductionHypothesis =>
      simp [Message.listToJson, inductionHypothesis]

end RpcBindings
