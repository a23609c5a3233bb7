/-
Module: RpcBindings.Descriptor.Basic
Purpose: Descriptions of interface files: packages, services with methods, messages and enums.
Main exports: Field, EnumValue, Enum, Message, Method, Service, File
-/
import RpcBindings.Descriptor.FieldKind

namespace RpcBindings

/-!
These are plain data; everything else only reads them.  A reference to a type is text such as
`.routeguide.Point`; which declaration it means is a question for the registry.
-/

structure Field where
  name : String
  kind : FieldKind
  label : Label := .optional
  /-- The type of a message or enum field. -/
  typeName : Option String := none
deriving Repr, DecidableEq, Inhabited

structure EnumValue where
  name : String
  number : Int32
deriving Repr, DecidableEq, Inhabited

structure Enum where
  name : String
  values : List EnumValue := []
deriving Repr, DecidableEq, Inhabited

/-- A message, with the types declared inside it. -/
structure Message where
  name : String
  fields : List Field := []
  nested : List Message := []
  enums : List Enum := []
  /-- Set on the message that stands for one entry of a map field.  Its fields `key` and `value`
  have the types of the map. -/
  mapEntry : Bool := false
deriving Repr, Inhabited, BEq

structure Method where
  name : String
  inputType : String
  outputType : String
  clientStreaming : Bool := false
  serverStreaming : Bool := false
deriving Repr, DecidableEq, Inhabited

structure Service where
  name : String
  methods : List Method := []
deriving Repr, DecidableEq, Inhabited

/-- An interface file. -/
structure File where
  name : String
  /-- The package of the file's types, empty if it names none. -/
  package : String := ""
  services : List Service := []
  messages : List Message := []
  enums : List Enum := []
deriving Repr, Inhabited, BEq

/-! ### Fields -/

def Field.isRepeated (field : Field) : Bool :=
  field.label == .repeated

/-- The field with a reference to its type. -/
def Field.withTypeName (field : Field) (ref : String) : Field :=
  { field with typeName := some ref }

/-! ### Enums -/

/-- The members of the given names, numbered upwards. -/
def EnumValue.numbered (start : Nat) : List String → List EnumValue
  | [] => []
  | name :: names => ⟨name, Int32.ofNat start⟩ :: numbered (start + 1) names

/-- The enum whose members are numbered from zero. -/
def Enum.ofNames (name : String) (values : List String) : Enum :=
  { name, values := EnumValue.numbered 0 values }

/-! ### Methods and services -/

/-- A method that takes one message and answers with one. -/
def Method.unary (name inputType outputType : String) : Method :=
  { name, inputType, outputType }

/-- A method of which both sides send streams of messages. -/
def Method.duplex (name inputType outputType : String) : Method :=
  { name, inputType, outputType, clientStreaming := true, serverStreaming := true }

/-- Whether both sides of a method send streams of messages. -/
def Method.isDuplex (method : Method) : Bool :=
  method.clientStreaming && method.serverStreaming

/-- The types that a method refers to: what it takes, then what it answers with. -/
def Method.typeRefs (method : Method) : List String :=
  [method.inputType, method.outputType]

def Service.fullName (service : Service) (method : Method) : String :=
  service.name ++ "." ++ method.name

/-! ### Messages -/

/-- The message that stands for an entry of a map field. -/
def Message.entry (name : String) (key value : Field) : Message :=
  { name, fields := [key, value], mapEntry := true }

def Message.withNested (message inner : Message) : Message :=
  { message with nested := message.nested ++ [inner] }

def Message.withEnum (message : Message) (enum : Enum) : Message :=
  { message with enums := message.enums ++ [enum] }

def Message.field? (message : Message) (name : String) : Option Field :=
  message.fields.find? fun field => field.name == name

/-- The key and the value field of a map entry. -/
def Message.keyValue? (message : Message) : Option (Field × Field) :=
  if message.mapEntry then do
    let key ← message.field? "key"
    let value ← message.field? "value"
    pure (key, value)
  else none

/-! ### Files -/

def File.withService (file : File) (service : Service) : File :=
  { file with services := file.services ++ [service] }

def File.withMessage (file : File) (message : Message) : File :=
  { file with messages := file.messages ++ [message] }

def File.withEnum (file : File) (enum : Enum) : File :=
  { file with enums := file.enums ++ [enum] }

/-- The types that the methods of a file refer to, in their order. -/
def File.methodRefs (file : File) : List String :=
  file.services.flatMap fun service => service.methods.flatMap Method.typeRefs

/-- Whether more than one service goes into the output of the file. -/
def File.isShared (file : File) : Bool :=
  decide (1 < file.services.length)

theorem File.mem_methodRefs_iff {file : File} {ref : String} :
    ref ∈ file.methodRefs ↔
      ∃ service ∈ file.services, ∃ method ∈ service.methods, ref ∈ method.typeRefs := by
  simp only [File.methodRefs, List.mem_flatMap]

end RpcBindings
