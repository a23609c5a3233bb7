/-
Module: RpcBindings.Proofs.Brackets.Declarations
Purpose: The brackets of declaration files match.
Main exports: Declarations.portable_spell, Declarations.wellBracketed_memberOf,
  Declarations.CarriesOver.ofFile, Declarations.fieldRefs_subset, Declarations.tidy_dialect
-/
import RpcBindings.Proofs.Brackets.Scripts
import RpcBindings.Proofs.Declarations.Places
import RpcBindings.Target.Declarations.File

namespace RpcBindings.Declarations

open Layout
open Name (AllPortable)

/-!
Types are spelled from packages and references, also from those of other files, to which a map may
lead.  The declarations of a message lie in each other as the messages do.
-/

/-! ### Spelled types and members -/

section Spelling

variable {scope : Scope} (registry : scope.registry.Portable)

include registry

/-- A type is spelled from a package and from parts of a reference. -/
theorem portable_spell {ref : String} (portable : Name.Portable ref) :
    Name.Portable (scope.spell ref) := by
  unfold Scope.spell
  split
  · next location located =>
    obtain ⟨filePortable, localPortable⟩ := registry.of_locate portable located
    have dot : Name.Portable "." := by decide
    split
    · exact localPortable
    · exact ((File.portable_package filePortable).append dot).append localPortable
  · exact portable.withoutLeadingDot

theorem portable_valueType {field : Field} (portable : AllPortable field.texts) :
    Name.Portable (scope.valueType field) := by
  rw [Scope.valueType_eq]
  cases spelled : valueRef? field with
  | none =>
      have plain (kind : FieldKind) : Name.Portable (plainType kind) := by
        cases kind <;> decide
      exact plain field.kind
  | some ref =>
      exact portable_spell registry (Field.portable_type portable (typeName_of_valueRef? spelled))

/-- The values of a map are of a portable type, wherever its entry is declared. -/
theorem portable_heldField {field : Field} (portable : AllPortable field.texts) :
    AllPortable (scope.heldField field).texts := by
  unfold Scope.heldField
  split
  · next key value map =>
    obtain ⟨ref, entry, -, known, ofEntry⟩ := Scope.exists_entry_of_mapOf? map
    exact Message.portable_fields (registry.of_message? known) value ofEntry
  · exact portable

omit registry in
/-- What stands around the type of a member opens and closes brackets in pairs. -/
theorem matched_memberFrame (field : Field) :
    Matched (Layout.brackets (scope.memberFrame field).1 ++
      Layout.brackets (scope.memberFrame field).2) := by
  unfold Scope.memberFrame
  split
  · next key value map =>
    have keyType : Name.Portable (Scope.keyType key.kind) := by
      unfold Scope.keyType
      split <;> decide
    simp only [brackets_append, keyType.brackets_eq]
    repeat rw [brackets_ofList]
    decide
  · cases field.label <;>
    · simp only
      repeat rw [brackets_ofList]
      decide

omit registry in
theorem portable_memberName {field : Field} (portable : AllPortable field.texts) :
    Name.Portable (scope.memberName field) := by
  unfold Scope.memberName
  split
  · exact (Field.portable_name portable).camel
  · exact Field.portable_name portable

theorem wellBracketed_memberOf {field : Field} (portable : AllPortable field.texts) :
    WellBracketed (scope.memberOf field) := by
  have name : Name.Portable (scope.memberName field) := portable_memberName portable
  have type := portable_valueType registry (portable_heldField registry portable)
  rw [Scope.memberOf_eq, ← Scope.valueType_eq, wellBracketed_iff]
  simpa only [brackets_append, name.brackets_eq, type.brackets_eq, List.nil_append,
    List.append_nil] using matched_memberFrame field

end Spelling

/-! ### Declared types -/

theorem tidy_spaced {parts : List (List Step)} (each : ∀ part ∈ parts, Tidy part) :
    Tidy (spaced parts) := by
  fun_induction spaced parts with
  | case1 => exact .nil
  | case2 part => exact each part (List.mem_singleton_self _)
  | case3 part next rest inductionHypothesis =>
      obtain ⟨first, others⟩ := List.forall_mem_cons.mp each
      exact (first.append .blank).append (inductionHypothesis others)

theorem tidy_bodySteps {declarations : List Declaration}
    (each : ∀ declaration ∈ declarations, Tidy declaration.steps) :
    ∀ part ∈ bodySteps declarations, Tidy part := by
  rw [bodySteps_eq]
  exact List.forall_mem_map.mpr each

theorem tidy_ofEnum {enum : Enum} (portable : AllPortable enum.texts) :
    Tidy (ofEnum enum).steps := by
  have header : WellBracketed ("export enum " ++ enum.name ++ " ") :=
    portable.head.between (.literal rfl) (.literal rfl)
  refine .block header (.lines fun text listed => ?_) (.literal rfl)
  obtain ⟨name, member, rfl⟩ := List.mem_map.mp listed
  have written := (portable.tail name member).wellBracketed
  exact .append (.append (.append written (.literal rfl)) written) (.literal rfl)

/-- A property of messages, which the messages inside them have too, carries over to a property of
declarations: whatever is declared for such a message has it. -/
structure CarriesOver (scope : Scope) (fit : Message → Prop) (good : Declaration → Prop) :
    Prop where
  nested {message : Message} (fits : fit message) : ∀ inner ∈ message.nested, fit inner
  interface {message : Message} (fits : fit message) :
    good (.interface message.name (message.fields.map scope.memberOf))
  enumeration {message : Message} (fits : fit message) : ∀ enum ∈ message.enums, good (ofEnum enum)
  namespaced {message : Message} {body : List Declaration} (fits : fit message)
    (each : ∀ declaration ∈ body, good declaration) : good (.scope message.name body)

namespace CarriesOver

variable {scope : Scope} {fit : Message → Prop} {good : Declaration → Prop}

mutual

theorem ofMessage (carries : CarriesOver scope fit good) : ∀ message : Message, fit message →
    ∀ declaration ∈ Declarations.ofMessage scope message, good declaration
  | { name, fields, nested, enums, mapEntry }, fits => by
      have inner : ∀ declaration ∈ enums.map ofEnum ++ Declarations.ofNested scope nested,
          good declaration :=
        List.forall_mem_append.mpr
          ⟨List.forall_mem_map.mpr (carries.enumeration fits),
            carries.ofNested nested (carries.nested fits)⟩
      rw [Declarations.ofMessage]
      refine List.forall_mem_cons.mpr ⟨carries.interface fits, ?_⟩
      split
      · exact List.forall_mem_nil _
      · exact List.forall_mem_singleton.mpr (carries.namespaced fits inner)

theorem ofNested (carries : CarriesOver scope fit good) : ∀ messages : List Message,
    (∀ message ∈ messages, fit message) →
      ∀ declaration ∈ Declarations.ofNested scope messages, good declaration
  | [], _ => List.forall_mem_nil _
  | message :: messages, fits => by
      obtain ⟨first, others⟩ := List.forall_mem_cons.mp fits
      rw [Declarations.ofNested]
      refine List.forall_mem_append.mpr ⟨?_, carries.ofNested messages others⟩
      split
      · exact List.forall_mem_nil _
      · exact carries.ofMessage message first

end

/-- The declarations of a file are those of its enums and of its messages. -/
theorem ofFile (carries : CarriesOver scope fit good)
    (enums : ∀ enum ∈ scope.file.enums, good (ofEnum enum))
    (messages : ∀ message ∈ scope.file.messages, fit message) :
    ∀ declaration ∈ Declarations.ofFile scope, good declaration := by
  refine List.forall_mem_append.mpr ⟨List.forall_mem_map.mpr enums, fun declaration member => ?_⟩
  obtain ⟨message, messageMember, made⟩ := List.mem_flatMap.mp member
  exact carries.ofMessage message (messages message messageMember) declaration made

end CarriesOver

theorem carriesOver_tidy {scope : Scope} (registry : scope.registry.Portable) :
    CarriesOver scope (fun message => AllPortable message.texts)
      fun declaration => Tidy declaration.steps where
  nested portable := Message.portable_nested portable
  interface {message} portable := by
    have header : WellBracketed ("export interface " ++ message.name ++ " ") :=
      (Message.portable_name portable).between (.literal rfl) (.literal rfl)
    refine .block header (.lines fun text listed => ?_) (.literal rfl)
    obtain ⟨field, member, rfl⟩ := List.mem_map.mp listed
    exact wellBracketed_memberOf registry (Message.portable_fields portable field member)
  enumeration portable enum member := tidy_ofEnum (Message.portable_enums portable enum member)
  namespaced {message body} portable each := by
    have header : WellBracketed ("export namespace " ++ message.name ++ " ") :=
      (Message.portable_name portable).between (.literal rfl) (.literal rfl)
    exact .block header (tidy_spaced (tidy_bodySteps each)) (.literal rfl)

theorem tidy_ofFile {scope : Scope} (registry : scope.registry.Portable)
    (portable : AllPortable scope.file.texts) :
    ∀ declaration ∈ ofFile scope, Tidy declaration.steps :=
  (carriesOver_tidy registry).ofFile
    (fun enum member => tidy_ofEnum (File.portable_enums portable enum member))
    (File.portable_messages portable)

/-! ### Imports -/

mutual

/-- The types that the fields of a message refer to are texts of the message. -/
theorem fieldRefs_subset : ∀ message : Message, fieldRefs message ⊆ message.texts
  | { name, fields, nested, enums, mapEntry } => by
      intro ref member
      rw [fieldRefs, List.mem_append] at member
      rw [Message.texts]
      refine List.mem_cons_of_mem _ ?_
      rcases member with own | inside
      · obtain ⟨field, fieldMember, typed⟩ := List.mem_filterMap.mp own
        have text : ref ∈ field.texts := List.mem_cons_of_mem _ (by simp [typed])
        exact List.mem_append_left _ (List.mem_append_left _
          (List.mem_flatMap_of_mem fieldMember text))
      · exact List.mem_append_right _ (fieldRefsIn_subset nested inside)

theorem fieldRefsIn_subset :
    ∀ messages : List Message, fieldRefsIn messages ⊆ Message.textsIn messages
  | [] => List.nil_subset _
  | message :: messages =>
      List.append_subset.mpr
        ⟨List.subset_append_of_subset_left _ (fieldRefs_subset message),
          List.subset_append_of_subset_right _ (fieldRefsIn_subset messages)⟩

end

theorem portable_typeRefs {file : File} (portable : AllPortable file.texts) :
    AllPortable (typeRefs file) := by
  have fieldRefs := portable.tail.tail.left.right.subset (fieldRefsIn_subset file.messages)
  exact List.forall_mem_append.mpr ⟨fieldRefs, File.portable_methodRefs portable⟩

/-! ### Services -/

theorem brackets_sideType {type : String} (portable : Name.Portable type) (options : Options)
    (streaming : Bool) : Layout.brackets (sideType options streaming type) = [] := by
  unfold sideType
  split
  · simp only [brackets_append, portable.brackets_eq]
    repeat rw [brackets_ofList]
    decide
  · exact portable.brackets_eq

theorem tidy_bindMethod {context : MethodContext} (portable : context.Portable) :
    (bindMethod context).Tidy := by
  have spell {ref : String} (refPortable : Name.Portable ref) : Name.Portable
      ((Scope.ofFile context.registry context.file context.options).spell ref) :=
    portable_spell portable.registry refPortable
  have request := spell (Method.portable_inputType portable.method)
  have response := spell (Method.portable_outputType portable.method)
  have name := Method.portable_name portable.method
  refine ⟨name, request, response, wellBracketed_renderAt Script.brackets_indentUnit (.line ?_) _⟩
  simp only [wellBracketed_iff, brackets_append, name.brackets_eq,
    brackets_sideType request context.options, brackets_sideType response context.options]
  repeat rw [brackets_ofList]
  decide

theorem wellBracketed_renderService {context : ServiceContext} (portable : context.Portable) :
    WellBracketed (renderService context) := by
  have header : WellBracketed ("export interface " ++ context.service.name ++ "Service ") :=
    (Service.portable_name portable.service).between (.literal rfl) (.literal rfl)
  have methods : Tidy (context.bindings.map fun binding => .splice binding.fragment) :=
    .map fun binding member => .splice (portable.bindings binding member).fragment
  refine wellBracketed_renderAt Script.brackets_indentUnit ?_ _
  exact .block header methods (.literal rfl)

/-! ### Files -/

theorem portable_typeImports {context : FileContext} (portable : context.Portable) :
    (typeImports context).Portable :=
  TypeImports.portable_ofRefs portable.registry (fun _ => portable.moduleOf)
    (portable_typeRefs portable.file)

theorem tidy_packageSteps {context : FileContext} (portable : context.Portable) :
    Tidy (packageSteps context) := by
  have body : Tidy (spaced
      (bodySteps (ofFile (Scope.ofFile context.registry context.file context.options)) ++
        context.services.map fun service => [.splice service])) := by
    refine tidy_spaced (List.forall_mem_append.mpr
      ⟨tidy_bodySteps (tidy_ofFile portable.registry portable.file), ?_⟩)
    exact List.forall_mem_map.mpr fun service member => .splice (portable.services service member)
  unfold packageSteps
  split
  · next path found =>
    have pathPortable := (File.portable_package portable.file).namespacePath? found
    exact .block (pathPortable.between (.literal rfl) (.literal rfl)) body (.literal rfl)
  · exact body

theorem tidy_fileSteps {context : FileContext} (portable : context.Portable) :
    Tidy (fileSteps context) := by
  have heading : Tidy (Script.headingSteps plugin context.inputId) :=
    Script.tidy_headingSteps (by decide) portable.inputId
  have types : Tidy (typeImports context).steps :=
    TypeImports.tidy_steps (portable_typeImports portable)
  exact ((heading.append .blank).append types).append (tidy_packageSteps portable)

theorem tidy_dialect : dialect.Tidy where
  typeName portable := portable.lastSegment
  mapField _ := FieldBinding.tidy_none
  bindMethod portable := tidy_bindMethod portable
  renderService portable := wellBracketed_renderService portable
  renderFile portable := by
    simp only [dialect, render]
    exact wellBracketed_renderAt Script.brackets_indentUnit (tidy_fileSteps portable) 0

end RpcBindings.Declarations
