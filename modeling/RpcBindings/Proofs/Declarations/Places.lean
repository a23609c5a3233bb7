/-
Module: RpcBindings.Proofs.Declarations.Places
Purpose: Where a declaration file spells types: in which namespaces, and by which references.
Main exports: Declarations.Within, Declarations.Rendered, Declarations.SpelledAt,
  Declarations.within_ofFile_iff_exists_rendered, Declarations.exists_type_of_member,
  Declarations.SpelledAt.mem_typeRefs
-/
import RpcBindings.Proofs.Registry.Location
import RpcBindings.Target.Declarations.Tree

namespace RpcBindings.Declarations

/-!
Types are spelled by a walk over the tree of messages that leaves out map entries and looks into
them only from the fields that they belong to.  Which types are imported is settled by another walk,
over all messages of the file and map entries among them.  A place is what the two have in common: a
field of a message, or one side of a method, and the reference that is spelled there.
-/

/-! ### Members -/

/-- The type to which a single value of a field refers. -/
def valueRef? (field : Field) : Option String :=
  match field.kind with
  | .message | .group | .enum => field.typeName
  | _ => none

/-- The type of values that refer to no other type. -/
def plainType : FieldKind → String
  | .bool => "boolean"
  | .string => "string"
  | .bytes => "Uint8Array"
  | .message | .group | .enum => "unknown"
  | _ => "number"

namespace Scope

variable (scope : Scope)

/-- The field of which a member holds values: the value field of a map, and any other field
itself. -/
def heldField (field : Field) : Field :=
  match scope.mapOf? field with
  | some (_, value) => value
  | none => field

/-- What stands in front of the type in a member, and behind it. -/
def memberFrame (field : Field) : String × String :=
  match scope.mapOf? field with
  | some (key, _) => ("?: \x7b [key: " ++ keyType key.kind ++ "]: ", " \x7d;")
  | none =>
      match field.label with
      | .optional => ("?: ", ";")
      | .required => (": ", ";")
      | .repeated => (": Array<", ">;")

theorem valueType_eq (field : Field) :
    scope.valueType field = ((valueRef? field).map scope.spell).getD (plainType field.kind) := by
  unfold valueType valueRef?
  cases field.kind with
  | message | group | enum => cases field.typeName <;> rfl
  | _ => rfl

/-- A member spells the one type to which the values that it holds refer, and no other. -/
theorem memberOf_eq (field : Field) :
    scope.memberOf field =
      scope.memberName field ++ (scope.memberFrame field).1 ++
        ((valueRef? (scope.heldField field)).map scope.spell).getD
          (plainType (scope.heldField field).kind) ++
        (scope.memberFrame field).2 := by
  rw [← valueType_eq]
  unfold memberOf memberFrame heldField
  cases scope.mapOf? field with
  | some keyValue => simp [String.append_assoc]
  | none => cases field.label <;> simp [String.append_assoc]

variable {scope}

/-- A map is read off the message to which its field refers. -/
theorem exists_entry_of_mapOf? {field key value : Field}
    (map : scope.mapOf? field = some (key, value)) :
    ∃ ref entry, field.typeName = some ref ∧ scope.registry.message? ref = .ok entry ∧
      value ∈ entry.fields := by
  unfold mapOf? at map
  split at map
  · obtain ⟨ref, typed, found⟩ := Option.bind_eq_some_iff.mp map
    cases outcome : scope.registry.message? ref with
    | error cause => simp [outcome] at found
    | ok entry =>
        simp only [outcome, Message.keyValue?] at found
        split at found
        · obtain ⟨first, -, rest⟩ := Option.bind_eq_some_iff.mp found
          obtain ⟨second, valueFound, same⟩ := Option.bind_eq_some_iff.mp rest
          cases same
          exact ⟨ref, entry, typed, outcome, List.mem_of_find?_eq_some valueFound⟩
        · cases found
  · cases map

end Scope

/-! ### Namespaces -/

/-- `Within declarations around declaration`: going into the namespaces `around`, one in the other,
leads to the declaration. -/
inductive Within : List Declaration → List String → Declaration → Prop where
  | here {declarations : List Declaration} {declaration : Declaration}
      (member : declaration ∈ declarations) :
      Within declarations [] declaration
  | inside {declarations body : List Declaration} {name : String} {around : List String}
      {declaration : Declaration}
      (member : .scope name body ∈ declarations)
      (rest : Within body around declaration) :
      Within declarations (name :: around) declaration

/-- `Rendered messages around message`: where all of `messages` are rendered, `message` is too, in
the namespaces of the messages `around` it.  Map entries are rendered at the top only. -/
inductive Rendered : List Message → List String → Message → Prop where
  | here {messages : List Message} {message : Message} (member : message ∈ messages) :
      Rendered messages [] message
  | inside {messages : List Message} {outer message : Message} {around : List String}
      (member : outer ∈ messages)
      (rest : Rendered (outer.nested.filter fun inner => !inner.mapEntry) around message) :
      Rendered messages (outer.name :: around) message

theorem Within.ne_nil {declarations : List Declaration} {around : List String}
    {declaration : Declaration} (within : Within declarations around declaration) :
    declarations ≠ [] := by
  cases within with
  | here member => exact List.ne_nil_of_mem member
  | inside member rest => exact List.ne_nil_of_mem member

theorem ofNested_eq (scope : Scope) (messages : List Message) :
    ofNested scope messages =
      (messages.filter fun message => !message.mapEntry).flatMap (ofMessage scope) := by
  induction messages with
  | nil => rfl
  | cons message messages inductionHypothesis =>
      rw [ofNested, inductionHypothesis]
      cases entry : message.mapEntry with
      | true => simp [entry]
      | false => simp [entry]

/-- What the namespace of a message holds. -/
def innerOf (scope : Scope) (message : Message) : List Declaration :=
  message.enums.map ofEnum ++
    (message.nested.filter fun inner => !inner.mapEntry).flatMap (ofMessage scope)

theorem ofMessage_eq (scope : Scope) (message : Message) :
    ofMessage scope message =
      .interface message.name (message.fields.map scope.memberOf) ::
        if (innerOf scope message).isEmpty then [] else
          [.scope message.name (innerOf scope message)] := by
  cases message with
  | mk name fields nested enums mapEntry => rw [ofMessage, ofNested_eq, innerOf]

theorem interface_mem_ofMessage_iff {scope : Scope} {message : Message} {name : String}
    {members : List String} :
    .interface name members ∈ ofMessage scope message ↔
      name = message.name ∧ members = message.fields.map scope.memberOf := by
  rw [ofMessage_eq]
  split
  · simp
  · simp

theorem scope_mem_ofMessage_iff {scope : Scope} {message : Message} {name : String}
    {body : List Declaration} :
    .scope name body ∈ ofMessage scope message ↔
      name = message.name ∧ body = innerOf scope message ∧ body ≠ [] := by
  rw [ofMessage_eq]
  split
  · next empty =>
    have empty : innerOf scope message = [] := by simpa using empty
    constructor
    · intro member
      simp at member
    · intro named
      exact absurd (named.2.1.trans empty) named.2.2
  · next inhabited =>
    have inhabited : innerOf scope message ≠ [] := by simpa using inhabited
    constructor
    · intro member
      obtain ⟨rfl, rfl⟩ : name = message.name ∧ body = innerOf scope message := by
        simpa using member
      exact ⟨rfl, rfl, inhabited⟩
    · intro named
      obtain ⟨rfl, rfl, -⟩ := named
      simp

theorem interface_mem_iff {scope : Scope} {messages : List Message} {name : String}
    {members : List String} :
    .interface name members ∈ messages.flatMap (ofMessage scope) ↔
      ∃ message ∈ messages, name = message.name ∧
        members = message.fields.map scope.memberOf := by
  simp only [List.mem_flatMap, interface_mem_ofMessage_iff]

theorem scope_mem_iff {scope : Scope} {messages : List Message} {name : String}
    {body : List Declaration} :
    .scope name body ∈ messages.flatMap (ofMessage scope) ↔
      ∃ message ∈ messages, name = message.name ∧ body = innerOf scope message ∧ body ≠ [] := by
  simp only [List.mem_flatMap, scope_mem_ofMessage_iff]

section Types

variable {scope : Scope} {messages : List Message} {around : List String}
  {declaration : Declaration}

/-- Enums hold no other declarations. -/
theorem within_enums_append_iff {enums : List Enum} {declarations : List Declaration}
    (noEnum : ∀ name members, declaration ≠ .enumeration name members) :
    Within (enums.map ofEnum ++ declarations) around declaration ↔
      Within declarations around declaration := by
  constructor
  · intro within
    cases within with
    | here member =>
        rcases List.mem_append.mp member with ofEnums | others
        · obtain ⟨enum, -, rfl⟩ := List.mem_map.mp ofEnums
          exact absurd rfl (noEnum _ _)
        · exact .here others
    | inside member rest =>
        refine .inside ?_ rest
        simpa [ofEnum] using member
  · intro within
    cases within with
    | here member => exact .here (List.mem_append_right _ member)
    | inside member rest => exact .inside (List.mem_append_right _ member) rest

/-- The interfaces and namespaces among the declarations of some messages are those of the messages
that are rendered, each in the namespaces of the messages around it. -/
theorem within_flatMap_ofMessage_iff
    (noEnum : ∀ name members, declaration ≠ .enumeration name members) :
    Within (messages.flatMap (ofMessage scope)) around declaration ↔
      ∃ message, Rendered messages around message ∧ declaration ∈ ofMessage scope message := by
  -- One namespace is entered at a time, and what it holds is again made from a list of messages.
  induction around generalizing messages with
  | nil =>
      constructor
      · intro within
        cases within with
        | here member =>
            obtain ⟨message, messageMember, made⟩ := List.mem_flatMap.mp member
            exact ⟨message, .here messageMember, made⟩
      · intro rendered
        obtain ⟨message, rendered, made⟩ := rendered
        cases rendered with
        | here member => exact .here (List.mem_flatMap.mpr ⟨message, member, made⟩)
  | cons outer around inductionHypothesis =>
      constructor
      · intro within
        cases within with
        | inside member rest =>
            obtain ⟨message, messageMember, rfl, rfl, -⟩ := scope_mem_iff.mp member
            obtain ⟨inner, rendered, made⟩ :=
              inductionHypothesis.mp ((within_enums_append_iff noEnum).mp rest)
            exact ⟨inner, .inside messageMember rendered, made⟩
      · intro rendered
        obtain ⟨message, rendered, made⟩ := rendered
        cases rendered with
        | @inside _ outer _ _ member rest =>
            have within : Within (innerOf scope outer) around declaration :=
              (within_enums_append_iff noEnum).mpr (inductionHypothesis.mpr ⟨message, rest, made⟩)
            exact .inside (scope_mem_iff.mpr ⟨outer, member, rfl, rfl, within.ne_nil⟩) within

/-- The interfaces and namespaces of a declaration file are those of the messages that are
rendered. -/
theorem within_ofFile_iff_exists_rendered
    (noEnum : ∀ name members, declaration ≠ .enumeration name members) :
    Within (ofFile scope) around declaration ↔
      ∃ message, Rendered scope.file.messages around message ∧
        declaration ∈ ofMessage scope message := by
  rw [ofFile, within_enums_append_iff noEnum, within_flatMap_ofMessage_iff noEnum]

theorem within_ofFile_iff {name : String} {members : List String} :
    Within (ofFile scope) around (.interface name members) ↔
      ∃ message, Rendered scope.file.messages around message ∧ name = message.name ∧
        members = message.fields.map scope.memberOf := by
  have noEnum : ∀ other values, Declaration.interface name members ≠ .enumeration other values :=
    fun _ _ => nofun
  simp only [within_ofFile_iff_exists_rendered noEnum, interface_mem_ofMessage_iff]

end Types

/-! ### Spelled references -/

/-- `SpelledAt scope around mapRef? ref`: the reference is spelled in the namespaces `around`.
Where that is the value of a map, `mapRef?` is the reference by which the map is written. -/
inductive SpelledAt (scope : Scope) : List String → Option String → String → Prop where
  | member {around : List String} {message : Message} {field : Field} {ref : String}
      (rendered : Rendered scope.file.messages around message)
      (ofField : field ∈ message.fields)
      (single : scope.mapOf? field = none)
      (spelled : valueRef? field = some ref) :
      SpelledAt scope around none ref
  | mapValue {around : List String} {message : Message} {field key value : Field}
      {entry ref : String}
      (rendered : Rendered scope.file.messages around message)
      (ofField : field ∈ message.fields)
      (map : scope.mapOf? field = some (key, value))
      (written : field.typeName = some entry)
      (spelled : valueRef? value = some ref) :
      SpelledAt scope around (some entry) ref
  | side {service : Service} {method : Method} {ref : String}
      (ofFile : service ∈ scope.file.services)
      (ofService : method ∈ service.methods)
      (spelled : ref ∈ method.typeRefs) :
      SpelledAt scope [] none ref

/-- Every type that the member of a rendered message spells is spelled in the namespaces of the
message. -/
theorem exists_spelledAt {scope : Scope} {around : List String} {message : Message} {field : Field}
    {ref : String} (rendered : Rendered scope.file.messages around message)
    (ofField : field ∈ message.fields) (spelled : valueRef? (scope.heldField field) = some ref) :
    ∃ mapRef?, SpelledAt scope around mapRef? ref := by
  unfold Scope.heldField at spelled
  cases map : scope.mapOf? field with
  | none =>
      rw [map] at spelled
      exact ⟨none, .member rendered ofField map spelled⟩
  | some keyValue =>
      rw [map] at spelled
      obtain ⟨entry, -, written, -⟩ := Scope.exists_entry_of_mapOf? map
      exact ⟨some entry, .mapValue rendered ofField map written spelled⟩

/-- The type in a member is plain, or it is spelled at a place in the namespaces of the message. -/
theorem exists_type_of_member {scope : Scope} {around : List String} {message : Message}
    {field : Field} (rendered : Rendered scope.file.messages around message)
    (ofField : field ∈ message.fields) :
    ∃ type, scope.memberOf field =
        scope.memberName field ++ (scope.memberFrame field).1 ++ type ++
          (scope.memberFrame field).2 ∧
      ((∃ kind, type = plainType kind) ∨
        ∃ mapRef? ref, SpelledAt scope around mapRef? ref ∧ type = scope.spell ref) := by
  refine ⟨_, scope.memberOf_eq field, ?_⟩
  cases spelled : valueRef? (scope.heldField field) with
  | none => exact Or.inl ⟨_, rfl⟩
  | some ref =>
      obtain ⟨mapRef?, place⟩ := exists_spelledAt rendered ofField spelled
      exact Or.inr ⟨mapRef?, ref, place, rfl⟩

theorem typeName_of_valueRef? {field : Field} {ref : String}
    (spelled : valueRef? field = some ref) : field.typeName = some ref := by
  unfold valueRef? at spelled
  split at spelled
  · exact spelled
  · exact spelled
  · exact spelled
  · cases spelled

/-- A walk can be made wherever all messages are found among which it begins. -/
theorem exists_walk_of_subset {messages others : List Message} (subset : messages ⊆ others)
    {path : List Nat} {names : List String} {message : Message}
    (walk : Walk messages path names message) : ∃ path, Walk others path names message := by
  cases walk with
  | here found =>
      obtain ⟨index, found⟩ := List.getElem?_of_mem (subset (List.mem_of_getElem? found))
      exact ⟨_, .here found⟩
  | inside found rest =>
      obtain ⟨index, found⟩ := List.getElem?_of_mem (subset (List.mem_of_getElem? found))
      exact ⟨_, .inside found rest⟩

/-- What is rendered is reached by a walk through the messages around it. -/
theorem Rendered.exists_walk {messages : List Message} {around : List String} {message : Message}
    (rendered : Rendered messages around message) :
    ∃ path, Walk messages path (around ++ [message.name]) message := by
  induction rendered with
  | here member =>
      obtain ⟨index, found⟩ := List.getElem?_of_mem member
      exact ⟨_, .here found⟩
  | inside member _ inductionHypothesis =>
      obtain ⟨index, found⟩ := List.getElem?_of_mem member
      obtain ⟨path, walk⟩ := inductionHypothesis
      obtain ⟨path, walk⟩ := exists_walk_of_subset (List.filter_subset_self _) walk
      exact ⟨_, .inside found walk⟩

theorem fieldRefsIn_eq (messages : List Message) :
    fieldRefsIn messages = messages.flatMap fieldRefs := by
  induction messages with
  | nil => rfl
  | cons message messages inductionHypothesis =>
      rw [fieldRefsIn, inductionHypothesis, List.flatMap_cons]

theorem fieldRefs_eq (message : Message) :
    fieldRefs message =
      message.fields.filterMap Field.typeName ++ message.nested.flatMap fieldRefs := by
  cases message with
  | mk name fields nested enums mapEntry => rw [fieldRefs, fieldRefsIn_eq]

/-- The references of the fields of all messages that walks reach are collected. -/
theorem mem_fieldRefsIn_of_walk {messages : List Message} {path : List Nat} {names : List String}
    {message : Message} (walk : Walk messages path names message) {field : Field} {ref : String}
    (ofField : field ∈ message.fields) (typed : field.typeName = some ref) :
    ref ∈ fieldRefsIn messages := by
  induction walk with
  | here found =>
      rw [fieldRefsIn_eq, List.mem_flatMap]
      refine ⟨_, List.mem_of_getElem? found, ?_⟩
      rw [fieldRefs_eq, List.mem_append]
      exact Or.inl (List.mem_filterMap.mpr ⟨field, ofField, typed⟩)
  | inside found _ inductionHypothesis =>
      rw [fieldRefsIn_eq, List.mem_flatMap]
      refine ⟨_, List.mem_of_getElem? found, ?_⟩
      rw [fieldRefs_eq, List.mem_append, ← fieldRefsIn_eq]
      exact Or.inr (inductionHypothesis ofField)

/-- What is spelled is collected, with the exception of what is found in map entries of other
files. -/
theorem SpelledAt.mem_typeRefs {files : List File} {scope : Scope}
    (compatible : Compatible files) (registry : scope.registry = Registry.assembled files)
    (member : scope.file ∈ files) {around : List String} {mapRef? : Option String} {ref : String}
    (spelled : SpelledAt scope around mapRef? ref)
    (ownEntry : ∀ entry ∈ mapRef?, scope.file.Declares (Name.qualified entry)) :
    ref ∈ typeRefs scope.file := by
  cases spelled with
  | member rendered ofField single spelled =>
      obtain ⟨path, walk⟩ := rendered.exists_walk
      exact List.mem_append_left _
        (mem_fieldRefsIn_of_walk walk ofField (typeName_of_valueRef? spelled))
  | @mapValue around message field key value entry ref rendered ofField map written spelled =>
      obtain ⟨other, found, typed, known, ofEntry⟩ := Scope.exists_entry_of_mapOf? map
      obtain rfl : other = entry := Option.some.inj (typed.symm.trans written)
      rw [registry] at known
      obtain ⟨file, fileMember, path, names, walk, reached⟩ :=
        Registry.messageAt_of_message?_eq_ok compatible.names known
      -- The entry is found through the registry; only its file tells that the walk collects it.
      obtain rfl : scope.file = file := compatible.eq_of_declares member (ownEntry other rfl)
        fileMember (reached ▸ .message walk)
      exact List.mem_append_left _
        (mem_fieldRefsIn_of_walk walk ofEntry (typeName_of_valueRef? spelled))
  | @side service method ref serviceMember methodMember spelled =>
      exact List.mem_append_right _ (List.mem_flatMap.mpr
        ⟨service, serviceMember, List.mem_flatMap.mpr ⟨method, methodMember, spelled⟩⟩)

end RpcBindings.Declarations
