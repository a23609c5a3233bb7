/-
Module: RpcBindings.Proofs.Declarations.Listing
Purpose: The types that are declared for a file, and those that the registry collects from it.
Main exports: Declarations.fileTypes, File.entryRefs, Declarations.typesIn_packageDeclarations,
  Declarations.perm_declaredRefs, Declarations.readable_packageDeclarations
-/
import Mathlib.Data.List.Perm.Basic
import RpcBindings.Proofs.Declarations.Reading

namespace RpcBindings

open Layout

/-!
The registry collects the types of a file in one way, messages inside out and enums apart; a
declaration file declares them in another, each message in front of what is inside it.  Both lists
hold the same references, but for the map entries inside messages and all that lies in them.
-/

/-! ### Map entries -/

/-- The references that are collected from a message, itself included. -/
def Message.declaredRefs (scope : String) (message : Message) : List String :=
  (message.declaredMessages scope []).map Prod.fst ++ message.declaredEnums scope

mutual

/-- Of the references that are collected from a message, those of the map entries inside it and of
all that lies in them. -/
def Message.entryRefs (scope : String) : Message → List String
  | { name, fields := _, nested, enums := _, mapEntry := _ } =>
      Message.entryRefsIn (Name.member scope name) nested

def Message.entryRefsIn (scope : String) : List Message → List String
  | [] => []
  | message :: messages =>
      (if message.mapEntry then message.declaredRefs scope else message.entryRefs scope) ++
        Message.entryRefsIn scope messages

end

/-- The references of the map entries that lie inside messages of a file, and of all that lies in
these entries. -/
def File.entryRefs (file : File) : List String :=
  file.messages.flatMap (Message.entryRefs file.scope)

namespace Declarations

/-! ### The types of a file, in order -/

def enumType (outer : String) (enum : Enum) : DeclaredType :=
  { kind := .enumeration, ref := Name.member outer enum.name
    lines := enum.values.map fun value => enumMember value.name }

mutual

/-- A message with a member for each field, its enums, then the messages inside it that are no map
entries, each followed by what is inside it. -/
def messageTypes (scope : Scope) (outer : String) : Message → List DeclaredType
  | { name, fields, nested, enums, mapEntry := _ } =>
      { kind := .interface, ref := Name.member outer name, lines := fields.map scope.memberOf } ::
        (enums.map (enumType (Name.member outer name)) ++
          nestedTypes scope (Name.member outer name) nested)

def nestedTypes (scope : Scope) (outer : String) : List Message → List DeclaredType
  | [] => []
  | message :: messages =>
      (if message.mapEntry then [] else messageTypes scope outer message) ++
        nestedTypes scope outer messages

end

/-- The enums of a file, then its messages, each followed by what is inside it. -/
def fileTypes (scope : Scope) : List DeclaredType :=
  scope.file.enums.map (enumType scope.file.scope) ++
    scope.file.messages.flatMap (messageTypes scope scope.file.scope)

/-- The interface of a service, with a member for each method. -/
def serviceType (scope : Scope) (options : Options) (service : Service) : DeclaredType :=
  { kind := .interface, ref := Name.member scope.file.scope (service.name ++ "Service")
    lines := service.methods.map (methodLine scope options) }

theorem typesIn_map_ofEnum (outer : String) (enums : List Enum) :
    typesIn outer (enums.map ofEnum) = enums.map (enumType outer) := by
  induction enums with
  | nil => rfl
  | cons enum enums inductionHypothesis =>
      rw [List.map_cons, List.map_cons, typesIn, inductionHypothesis]
      simp [ofEnum, Declaration.types, enumType]

mutual

/-- The declarations of a message declare its types, also where its namespace is left out for want
of declarations. -/
theorem typesIn_ofMessage (scope : Scope) :
    ∀ (message : Message) {outer : String},
      typesIn outer (ofMessage scope message) = messageTypes scope outer message
  | { name, fields, nested, enums, mapEntry }, outer => by
      have inside : typesIn (Name.member outer name) (enums.map ofEnum ++ ofNested scope nested) =
          enums.map (enumType (Name.member outer name)) ++
            nestedTypes scope (Name.member outer name) nested := by
        rw [typesIn_append, typesIn_map_ofEnum, typesIn_ofNested scope nested]
      rw [ofMessage, messageTypes, ← inside]
      simp only [typesIn, Declaration.types, List.cons_append, List.nil_append]
      split
      · next empty =>
        rw [List.isEmpty_iff.mp empty]
        rfl
      · simp [typesIn, Declaration.types]

theorem typesIn_ofNested (scope : Scope) :
    ∀ (messages : List Message) {outer : String},
      typesIn outer (ofNested scope messages) = nestedTypes scope outer messages
  | [], outer => rfl
  | message :: messages, outer => by
      rw [ofNested, nestedTypes, typesIn_append, typesIn_ofNested scope messages]
      cases message.mapEntry with
      | true => rfl
      | false => simp [typesIn_ofMessage scope message]

end

theorem typesIn_flatMap_ofMessage (scope : Scope) (outer : String) (messages : List Message) :
    typesIn outer (messages.flatMap (ofMessage scope)) =
      messages.flatMap (messageTypes scope outer) := by
  induction messages with
  | nil => rfl
  | cons message messages inductionHypothesis =>
      rw [List.flatMap_cons, List.flatMap_cons, typesIn_append, typesIn_ofMessage,
        inductionHypothesis]

theorem typesIn_services (scope : Scope) (options : Options) (services : List Service) :
    typesIn scope.file.scope (services.map (serviceDeclaration scope options)) =
      services.map (serviceType scope options) := by
  induction services with
  | nil => rfl
  | cons service services inductionHypothesis =>
      rw [List.map_cons, List.map_cons, typesIn, inductionHypothesis]
      rfl

/-- All that a file declares in the namespace of its package. -/
theorem typesIn_packageDeclarations (registry : Registry) (file : File) (options : Options) :
    typesIn file.scope (packageDeclarations registry file options) =
      fileTypes (Scope.ofFile registry file options) ++
        file.services.map (serviceType (Scope.ofFile registry file options) options) := by
  rw [packageDeclarations, typesIn_append, ofFile, typesIn_append, typesIn_map_ofEnum,
    typesIn_flatMap_ofMessage]
  exact congrArg (fileTypes (Scope.ofFile registry file options) ++ ·)
    (typesIn_services (Scope.ofFile registry file options) options file.services)

/-! ### The same references -/

mutual

/-- The references of messages do not depend on where the messages are found. -/
theorem map_fst_declaredMessages :
    ∀ (message : Message) {scope : String} (path other : List Nat),
      (message.declaredMessages scope path).map Prod.fst =
        (message.declaredMessages scope other).map Prod.fst
  | { name, fields, nested, enums, mapEntry }, scope, path, other => by
      simp only [Message.declaredMessages, List.map_append, List.map_cons, List.map_nil]
      rw [map_fst_declaredMessagesIn nested path other 0 0]

theorem map_fst_declaredMessagesIn :
    ∀ (messages : List Message) {scope : String} (path other : List Nat) (index otherIndex : Nat),
      (Message.declaredMessagesIn scope path index messages).map Prod.fst =
        (Message.declaredMessagesIn scope other otherIndex messages).map Prod.fst
  | [], scope, path, other, index, otherIndex => rfl
  | message :: messages, scope, path, other, index, otherIndex => by
      simp only [Message.declaredMessagesIn, List.map_append]
      rw [map_fst_declaredMessages message (path ++ [index]) (other ++ [otherIndex]),
        map_fst_declaredMessagesIn messages path other (index + 1) (otherIndex + 1)]

end

theorem map_ref_enumType (outer : String) (enums : List Enum) :
    (enums.map (enumType outer)).map DeclaredType.ref =
      enums.map fun enum => Name.member outer enum.name := by
  rw [List.map_map]
  rfl

/-- What is collected from several messages is what is collected from each of them. -/
theorem perm_flatMap_declaredRefs (outer : String) (messages : List Message) (path : List Nat)
    (index : Nat) :
    ((Message.declaredMessagesIn outer path index messages).map Prod.fst ++
        Message.declaredEnumsIn outer messages).Perm
      (messages.flatMap (Message.declaredRefs outer)) := by
  induction messages generalizing index with
  | nil => exact List.Perm.refl _
  | cons message messages inductionHypothesis =>
      apply List.perm_iff_count.mpr
      intro ref
      have counts := (inductionHypothesis (index + 1)).count_eq ref
      simp only [Message.declaredRefs, Message.declaredMessagesIn, Message.declaredEnumsIn,
        List.flatMap_cons, List.map_append, List.count_append,
        map_fst_declaredMessages message (path ++ [index]) []] at counts ⊢
      omega

mutual

/-- What is collected from a message is what is declared for it, and what lies in map entries. -/
theorem perm_of_message (scope : Scope) :
    ∀ (message : Message) (outer : String),
      (message.declaredRefs outer).Perm
        ((messageTypes scope outer message).map DeclaredType.ref ++ message.entryRefs outer)
  | { name, fields, nested, enums, mapEntry }, outer => by
      have inside := (perm_flatMap_declaredRefs (Name.member outer name) nested [] 0).trans
        (perm_of_nested scope nested (Name.member outer name))
      apply List.perm_iff_count.mpr
      intro ref
      have counts := inside.count_eq ref
      simp only [Message.declaredRefs, Message.declaredMessages, Message.declaredEnums,
        messageTypes, Message.entryRefs, map_ref_enumType, List.map_append, List.map_cons,
        List.map_nil, List.count_append, List.count_cons, List.count_nil] at counts ⊢
      omega

theorem perm_of_nested (scope : Scope) :
    ∀ (messages : List Message) (outer : String),
      (messages.flatMap (Message.declaredRefs outer)).Perm
        ((nestedTypes scope outer messages).map DeclaredType.ref ++
          Message.entryRefsIn outer messages)
  | [], outer => List.Perm.refl _
  | message :: messages, outer => by
      have others := perm_of_nested scope messages outer
      rw [List.flatMap_cons, nestedTypes, Message.entryRefsIn, List.map_append]
      cases message.mapEntry with
      | true =>
          simp only [if_true, List.map_nil, List.nil_append]
          exact (others.append_left _).trans (List.perm_append_comm_assoc _ _ _)
      | false =>
          have both := (perm_of_message scope message outer).append others
          simp only [Bool.false_eq_true, if_false, List.append_assoc] at both ⊢
          exact both.trans ((List.perm_append_comm_assoc _ _ _).append_left _)

end

/-- What is collected from a file is what is declared for it, and what lies in map entries. -/
theorem perm_declaredRefs (scope : Scope) :
    scope.file.declaredRefs.Perm
      ((fileTypes scope).map DeclaredType.ref ++ scope.file.entryRefs) := by
  have messages : ((Message.declaredMessagesIn scope.file.scope [] 0 scope.file.messages).map
        Prod.fst ++ Message.declaredEnumsIn scope.file.scope scope.file.messages).Perm
      ((scope.file.messages.flatMap (messageTypes scope scope.file.scope)).map DeclaredType.ref ++
        scope.file.entryRefs) := by
    rw [List.map_flatMap]
    refine (perm_flatMap_declaredRefs _ _ [] 0).trans (.trans ?_
      (List.flatMap_append_perm _ _ _).symm)
    exact .flatMap_left _ fun message _ => perm_of_message scope message scope.file.scope
  apply List.perm_iff_count.mpr
  intro ref
  have counts := messages.count_eq ref
  simp only [File.declaredRefs, File.declaredMessages, File.declaredEnums, fileTypes,
    map_ref_enumType, List.map_append, List.count_append] at counts ⊢
  omega

/-! ### Reading a file back -/

section Reading

variable {files : List File} {scope : Scope}

theorem readable_ofEnum {enum : Enum} (plain : enum.Plain) : (ofEnum enum).Readable := by
  refine .enumeration (Name.clean_of_isIdentifier plain.name).plainLine.unbroken ?_
  intro member listed
  obtain ⟨value, valueMember, rfl⟩ := List.mem_map.mp listed
  exact plainLine_enumMember (plain.values value valueMember)

/-- The declarations of a plain message can be read back. -/
theorem readable_ofMessage (compatible : Compatible files)
    (registry : scope.registry = Registry.assembled files)
    (allPlain : ∀ file ∈ files, file.PlainNames)
    {message : Message} (plain : message.Plain) :
    ∀ declaration ∈ ofMessage scope message, declaration.Readable := by
  induction plain with
  | @intro message name fields enums nested inductionHypothesis =>
      have unbroken := (Name.clean_of_isIdentifier name).plainLine.unbroken
      have members : ∀ member ∈ message.fields.map scope.memberOf, PlainLine member := by
        intro member listed
        obtain ⟨field, fieldMember, rfl⟩ := List.mem_map.mp listed
        exact plainLine_memberOf compatible registry allPlain (fields field fieldMember)
      have inside : ∀ declaration ∈ innerOf scope message, declaration.Readable := by
        intro declaration member
        rcases List.mem_append.mp member with ofEnums | ofMessages
        · obtain ⟨enum, enumMember, rfl⟩ := List.mem_map.mp ofEnums
          exact readable_ofEnum (enums enum enumMember)
        · obtain ⟨inner, innerMember, made⟩ := List.mem_flatMap.mp ofMessages
          exact inductionHypothesis inner (List.mem_of_mem_filter innerMember) declaration made
      rw [ofMessage_eq]
      intro declaration member
      rcases List.mem_cons.mp member with rfl | further
      · exact .interface unbroken members
      · split at further
        · cases further
        · rw [List.mem_singleton.mp further]
          exact .scope unbroken inside

/-- The interface of a plain service can be read back. -/
theorem readable_serviceDeclaration (compatible : Compatible files)
    (registry : scope.registry = Registry.assembled files) (options : Options) {service : Service}
    (plain : service.Plain) : (serviceDeclaration scope options service).Readable := by
  refine .interface ?_ ?_
  · have name := (Name.clean_of_isIdentifier plain.name).plainLine.trailing
    exact (name.append (by decide)).unbroken
  · intro member listed
    obtain ⟨method, methodMember, rfl⟩ := List.mem_map.mp listed
    exact plainLine_methodLine compatible registry options (plain.methods method methodMember)

/-- All that a plain file declares can be read back. -/
theorem readable_packageDeclarations (compatible : Compatible files)
    (allPlain : ∀ file ∈ files, file.PlainNames) {file : File} (plain : file.PlainNames)
    (options : Options) :
    ∀ declaration ∈ packageDeclarations (Registry.assembled files) file options,
      declaration.Readable := by
  intro declaration member
  rcases List.mem_append.mp member with ofTypes | ofServices
  · rcases List.mem_append.mp ofTypes with ofEnums | ofMessages
    · obtain ⟨enum, enumMember, rfl⟩ := List.mem_map.mp ofEnums
      exact readable_ofEnum (plain.enums enum enumMember)
    · obtain ⟨message, messageMember, made⟩ := List.mem_flatMap.mp ofMessages
      exact readable_ofMessage compatible rfl allPlain (plain.messages message messageMember)
        declaration made
  · obtain ⟨service, serviceMember, rfl⟩ := List.mem_map.mp ofServices
    exact readable_serviceDeclaration compatible rfl options (plain.services service serviceMember)

end Reading

end Declarations

end RpcBindings
