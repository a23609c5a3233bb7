/-
Module: RpcBindings.Proofs.Registry.Qualified
Purpose: Files of which some references are written without the dot in front, and what a registry
  makes of them.
Main exports: Name.DropsDot, File.DropsDots, File.qualified, File.DropsDots.qualified_eq,
  Registry.qualified, Registry.message?_qualified_eq, Registry.locate_qualified,
  Registry.ofFiles_of_dropsDots
-/
import RpcBindings.Proofs.Registry.Location

namespace RpcBindings

/-!
A reference means the same with and without the dot in front.  Files that differ only in such dots
become the same when all references are written in the form under which types are filed.  What files
declare has no references in it, so nothing is filed differently, and every lookup of a reference in
the one form finds what is found for it in the other.
-/

/-! ### Dots in front -/

/-- A reference stays as it is, or loses the dot in front of it. -/
inductive Name.DropsDot : String → String → Prop where
  | kept (ref : String) : DropsDot ref ref
  | dropped {ref : String} (plain : ref.toList.head? ≠ some '.') : DropsDot ("." ++ ref) ref

structure Field.DropsDots (first second : Field) : Prop where
  name : first.name = second.name
  kind : first.kind = second.kind
  label : first.label = second.label
  typeName : Option.Rel Name.DropsDot first.typeName second.typeName

structure Method.DropsDots (first second : Method) : Prop where
  name : first.name = second.name
  inputType : Name.DropsDot first.inputType second.inputType
  outputType : Name.DropsDot first.outputType second.outputType
  clientStreaming : first.clientStreaming = second.clientStreaming
  serverStreaming : first.serverStreaming = second.serverStreaming

structure Service.DropsDots (first second : Service) : Prop where
  name : first.name = second.name
  methods : List.Forall₂ Method.DropsDots first.methods second.methods

/-- Two messages that differ at most in dots, in their own fields and in those of the messages
inside them. -/
inductive Message.DropsDots : Message → Message → Prop where
  | intro {first second : Message}
      (name : first.name = second.name)
      (fields : List.Forall₂ Field.DropsDots first.fields second.fields)
      (nested : List.Forall₂ Message.DropsDots first.nested second.nested)
      (enums : first.enums = second.enums)
      (mapEntry : first.mapEntry = second.mapEntry) :
      Message.DropsDots first second

/-- Two files of which the second is the first without the dots in front of some references of its
methods and fields. -/
structure File.DropsDots (first second : File) : Prop where
  name : first.name = second.name
  package : first.package = second.package
  services : List.Forall₂ Service.DropsDots first.services second.services
  messages : List.Forall₂ Message.DropsDots first.messages second.messages
  enums : first.enums = second.enums

/-! ### Filed forms -/

/-- The field with its reference in the filed form. -/
def Field.qualified (field : Field) : Field :=
  { field with typeName := field.typeName.map Name.qualified }

def Method.qualified (method : Method) : Method :=
  { method with
    inputType := Name.qualified method.inputType
    outputType := Name.qualified method.outputType }

def Service.qualified (service : Service) : Service :=
  { service with methods := service.methods.map Method.qualified }

mutual

/-- The message with all references in the filed form, at every depth. -/
def Message.qualified : Message → Message
  | { name, fields, nested, enums, mapEntry } =>
      { name, fields := fields.map Field.qualified, nested := Message.qualifiedIn nested, enums
        mapEntry }

def Message.qualifiedIn : List Message → List Message
  | [] => []
  | message :: messages => message.qualified :: Message.qualifiedIn messages

end

def File.qualified (file : File) : File :=
  { file with
    services := file.services.map Service.qualified
    messages := file.messages.map Message.qualified }

theorem Message.qualifiedIn_eq_map (messages : List Message) :
    Message.qualifiedIn messages = messages.map Message.qualified := by
  induction messages with
  | nil => rw [Message.qualifiedIn, List.map_nil]
  | cons message messages inductionHypothesis =>
      rw [Message.qualifiedIn, inductionHypothesis, List.map_cons]

theorem Message.qualified_eq (message : Message) :
    message.qualified =
      { message with
        fields := message.fields.map Field.qualified
        nested := message.nested.map Message.qualified } := by
  cases message
  rw [Message.qualified, Message.qualifiedIn_eq_map]

/-! ### Nothing is left of the differences -/

theorem Name.DropsDot.qualified_eq {first second : String} (drops : DropsDot first second) :
    qualified first = qualified second := by
  cases drops with
  | kept ref => rfl
  | dropped plain =>
      have dotted : ("." ++ second).toList = '.' :: second.toList := by
        rw [String.toList_append]
        rfl
      rw [qualified_eq_self dotted, qualified]
      split
      · next rest begins => simp [begins] at plain
      · rfl

theorem Field.DropsDots.qualified_eq {first second : Field} (drops : first.DropsDots second) :
    first.qualified = second.qualified := by
  have typeName : first.typeName.map Name.qualified = second.typeName.map Name.qualified := by
    have typed := drops.typeName
    generalize first.typeName = ref, second.typeName = other at typed
    cases typed with
    | none => rfl
    | some drop => exact congrArg some drop.qualified_eq
  simp only [qualified, drops.name, drops.kind, drops.label, typeName]

theorem Method.DropsDots.qualified_eq {first second : Method} (drops : first.DropsDots second) :
    first.qualified = second.qualified := by
  simp only [qualified, drops.name, drops.inputType.qualified_eq, drops.outputType.qualified_eq,
    drops.clientStreaming, drops.serverStreaming]

theorem Service.DropsDots.qualified_eq {first second : Service} (drops : first.DropsDots second) :
    first.qualified = second.qualified := by
  have methods := Traversal.map_eq_map_of_forall₂
    (drops.methods.imp fun _ _ methods => methods.qualified_eq)
  simp only [qualified, drops.name, methods]

mutual

/-- The differences lie in the fields of a message and of those inside it. -/
theorem Message.qualified_eq_of_dropsDots :
    ∀ {first second : Message}, first.DropsDots second → first.qualified = second.qualified
  | { name := _, fields := _, nested, enums := _, mapEntry := _ }, second, drops => by
      -- The relation holds of lists through another one, so the recursion is on the messages.
      obtain ⟨name, fields, inner, enums, mapEntry⟩ := drops
      have ownFields := Traversal.map_eq_map_of_forall₂
        (fields.imp fun _ _ fields => fields.qualified_eq)
      have innerMessages := map_qualified_eq_of_dropsDots inner
      simp only at name ownFields innerMessages enums mapEntry
      simp only [Message.qualified_eq, name, ownFields, innerMessages, enums, mapEntry]

theorem Message.map_qualified_eq_of_dropsDots :
    ∀ {first second : List Message}, List.Forall₂ Message.DropsDots first second →
      first.map Message.qualified = second.map Message.qualified
  | [], _, .nil => rfl
  | message :: messages, _, .cons drops others => by
      rw [List.map_cons, List.map_cons, qualified_eq_of_dropsDots drops,
        map_qualified_eq_of_dropsDots others]

end

theorem File.DropsDots.qualified_eq {first second : File} (drops : first.DropsDots second) :
    first.qualified = second.qualified := by
  have services := Traversal.map_eq_map_of_forall₂
    (drops.services.imp fun _ _ services => services.qualified_eq)
  have messages := Message.map_qualified_eq_of_dropsDots drops.messages
  simp only [qualified, drops.name, drops.package, drops.enums, services, messages]

/-! ### What files declare -/

mutual

theorem Message.declaredMessages_qualified (scope : String) :
    ∀ (path : List Nat) (message : Message),
      message.qualified.declaredMessages scope path = message.declaredMessages scope path
  | path, { name, fields := _, nested, enums := _, mapEntry := _ } => by
      rw [Message.qualified, Message.declaredMessages, Message.declaredMessages,
        Message.declaredMessagesIn_qualified]

theorem Message.declaredMessagesIn_qualified (scope : String) (path : List Nat) :
    ∀ (index : Nat) (messages : List Message),
      Message.declaredMessagesIn scope path index (Message.qualifiedIn messages) =
        Message.declaredMessagesIn scope path index messages
  | _, [] => by rw [Message.qualifiedIn]
  | index, message :: messages => by
      rw [Message.qualifiedIn, Message.declaredMessagesIn, Message.declaredMessagesIn,
        Message.declaredMessages_qualified, Message.declaredMessagesIn_qualified]

end

mutual

theorem Message.declaredEnums_qualified :
    ∀ (scope : String) (message : Message),
      message.qualified.declaredEnums scope = message.declaredEnums scope
  | scope, { name, fields := _, nested, enums, mapEntry := _ } => by
      rw [Message.qualified, Message.declaredEnums, Message.declaredEnums,
        Message.declaredEnumsIn_qualified]

theorem Message.declaredEnumsIn_qualified :
    ∀ (scope : String) (messages : List Message),
      Message.declaredEnumsIn scope (Message.qualifiedIn messages) =
        Message.declaredEnumsIn scope messages
  | _, [] => by rw [Message.qualifiedIn]
  | scope, message :: messages => by
      rw [Message.qualifiedIn, Message.declaredEnumsIn, Message.declaredEnumsIn,
        Message.declaredEnums_qualified, Message.declaredEnumsIn_qualified]

end

theorem File.declaredMessages_qualified (file : File) :
    file.qualified.declaredMessages = file.declaredMessages := by
  unfold declaredMessages qualified
  rw [← Message.qualifiedIn_eq_map, Message.declaredMessagesIn_qualified]
  rfl

theorem File.declaredEnums_qualified (file : File) :
    file.qualified.declaredEnums = file.declaredEnums := by
  unfold declaredEnums qualified
  rw [← Message.qualifiedIn_eq_map, Message.declaredEnumsIn_qualified]
  rfl

theorem File.declaredRefs_qualified (file : File) :
    file.qualified.declaredRefs = file.declaredRefs := by
  rw [declaredRefs, declaredRefs, declaredMessages_qualified, declaredEnums_qualified]

theorem File.declares_qualified_iff {file : File} {ref : String} :
    file.qualified.Declares ref ↔ file.Declares ref := by
  rw [← mem_declaredRefs_iff, ← mem_declaredRefs_iff, declaredRefs_qualified]

/-! ### Index paths -/

/-- An index path leads to the same message. -/
theorem Message.nestedAt?_qualified (path : List Nat) (message : Message) :
    message.qualified.nestedAt? path = (message.nestedAt? path).map Message.qualified := by
  induction path generalizing message with
  | nil => rfl
  | cons index path inductionHypothesis =>
      rw [nestedAt?, nestedAt?, qualified_eq, List.getElem?_map]
      cases message.nested[index]? with
      | none => rfl
      | some inner => exact inductionHypothesis inner

theorem File.messageAt?_qualified (file : File) (path : List Nat) :
    file.qualified.messageAt? path = (file.messageAt? path).map Message.qualified := by
  cases path with
  | nil => rfl
  | cons index path =>
      rw [messageAt?, messageAt?, qualified, List.getElem?_map]
      cases file.messages[index]? with
      | none => rfl
      | some message => exact message.nestedAt?_qualified path

/-! ### Registries -/

/-- Where a type is declared, in the file with its references in the filed form. -/
def Location.qualified (location : Location) : Location :=
  { location with file := location.file.qualified }

/-- What was looked up, in the filed form. -/
def LookupError.qualified : LookupError → LookupError
  | .fileNotFound name => .fileNotFound name
  | .messageNotFound ref => .messageNotFound (Name.qualified ref)
  | .typeNotFound ref => .typeNotFound (Name.qualified ref)

/-- The registry of the same files, with their references in the filed form. -/
def Registry.qualified (registry : Registry) : Registry :=
  { registry with files := registry.files.map File.qualified }

namespace Registry

theorem assembled_map_qualified (files : List File) :
    assembled (files.map File.qualified) = (assembled files).qualified := by
  have messages (file : File) : messageEntries file.qualified = messageEntries file := by
    rw [messageEntries, messageEntries, File.declaredMessages_qualified]
    rfl
  have enums (file : File) : enumEntries file.qualified = enumEntries file := by
    rw [enumEntries, enumEntries, File.declaredEnums_qualified]
    rfl
  simp only [assembled, qualified, List.flatMap_map, messages, enums]

/-- Files can be loaded together or not, however their references are written. -/
theorem compatible_map_qualified_iff {files : List File} :
    Compatible (files.map File.qualified) ↔ Compatible files := by
  have names : (files.map File.qualified).map File.name = files.map File.name := by
    rw [List.map_map]
    rfl
  constructor
  · intro compatible
    have refs := compatible.refs
    rw [List.pairwise_map] at refs
    simp only [File.declares_qualified_iff] at refs
    exact ⟨names ▸ compatible.names, refs⟩
  · intro compatible
    refine ⟨names.symm ▸ compatible.names, ?_⟩
    rw [List.pairwise_map]
    simp only [File.declares_qualified_iff]
    exact compatible.refs

/-- Files that can be loaded can be loaded without the dots in front of some of their references. -/
theorem ofFiles_of_dropsDots {files others : List File} {registry : Registry}
    (drops : List.Forall₂ File.DropsDots files others)
    (loaded : ofFiles files = .ok registry) :
    ofFiles others = .ok (assembled others) ∧
      registry.qualified = (assembled others).qualified := by
  have same : files.map File.qualified = others.map File.qualified :=
    Traversal.map_eq_map_of_forall₂ (drops.imp fun _ _ files => files.qualified_eq)
  obtain ⟨compatible, rfl⟩ := ofFiles_eq_ok_iff.mp loaded
  rw [← compatible_map_qualified_iff, same, compatible_map_qualified_iff] at compatible
  refine ⟨ofFiles_eq_ok_iff.mpr ⟨compatible, rfl⟩, ?_⟩
  rw [← assembled_map_qualified, ← assembled_map_qualified, same]

variable (registry : Registry)

theorem fileNamed?_qualified (name : String) :
    registry.qualified.fileNamed? name = (registry.fileNamed? name).map File.qualified :=
  List.find?_map

theorem file?_qualified (name : String) :
    registry.qualified.file? name = (registry.file? name).map File.qualified := by
  rw [file?, file?, fileNamed?_qualified]
  cases registry.fileNamed? name with
  | none => rfl
  | some file => rfl

/-- A reference in the filed form means the same message, or nothing, and then it is reported in
this form. -/
theorem message?_qualified_eq (ref : String) :
    registry.qualified.message? (Name.qualified ref) =
      ((registry.message? ref).map Message.qualified).mapError LookupError.qualified := by
  have tables : registry.qualified.messages = registry.messages := rfl
  unfold message?
  rw [tables, Name.qualified_qualified]
  cases registry.messages.lookup (Name.qualified ref) with
  | none => rfl
  | some entry =>
      simp only [fileNamed?_qualified]
      cases registry.fileNamed? entry.file with
      | none => rfl
      | some file =>
          simp only [Option.map_some, File.messageAt?_qualified]
          cases file.messageAt? entry.path with
          | none => rfl
          | some message => rfl

theorem locate_qualified (ref : String) :
    registry.qualified.locate (Name.qualified ref) =
      ((registry.locate ref).map Location.qualified).mapError LookupError.qualified := by
  have tables : registry.qualified.fileNameOf? = registry.fileNameOf? := rfl
  unfold locate
  rw [tables, Name.qualified_qualified]
  cases registry.fileNameOf? (Name.qualified ref) with
  | none => rfl
  | some fileName =>
      simp only [fileNamed?_qualified]
      cases registry.fileNamed? fileName with
      | none => rfl
      | some file =>
          have package : file.qualified.package = file.package := rfl
          simp only [Option.map_some, package]
          cases Name.localName? file.package (Name.qualified ref) with
          | none => rfl
          | some localName => rfl

end Registry

end RpcBindings
