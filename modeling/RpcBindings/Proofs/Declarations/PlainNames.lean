/-
Module: RpcBindings.Proofs.Declarations.PlainNames
Purpose: Files in which all names are plain identifiers, and what is spelled from such names.
Main exports: Name.isIdentifier, Name.PlainPath, Name.Clean, File.Plain, Name.clean_camel,
  Declarations.clean_spell, Declarations.plainLine_memberOf
-/
import RpcBindings.Proofs.Declarations.Scoping
import RpcBindings.Proofs.Layout.Lines
import RpcBindings.Proofs.Name.CaseClosed

namespace RpcBindings

open Layout

/-!
Names are not checked when files are loaded.  A declaration file can be read back where its names
are identifiers: then nothing that is put together from them ends a line, or opens or ends a block.
-/

namespace Name

/-! ### Identifiers and paths -/

def isWordChar (c : Char) : Bool :=
  c.isAlphanum || c == '_'

/-- Letters, digits and underscores, of which the first is no digit. -/
def isIdentifier (name : String) : Bool :=
  match name.toList with
  | [] => false
  | first :: rest => !first.isDigit && (first :: rest).all isWordChar

/-- A path of identifiers, or no path at all. -/
def PlainPath (path : String) : Prop :=
  path = "" ∨ ∀ segment ∈ segments path, isIdentifier segment = true

instance : DecidablePred PlainPath := fun _ =>
  inferInstanceAs (Decidable (_ ∨ _))

/-- A text of letters, digits, underscores and dots. -/
def Clean (text : String) : Prop :=
  ∀ c ∈ text.toList, isWordChar c = true ∨ c = '.'

theorem isWordChar_of_mem {name : String} (identifier : isIdentifier name = true) :
    ∀ c ∈ name.toList, isWordChar c = true := by
  unfold isIdentifier at identifier
  split at identifier
  · cases identifier
  · next first rest chars =>
    rw [Bool.and_eq_true, List.all_eq_true] at identifier
    rw [chars]
    exact identifier.2

theorem clean_of_isIdentifier {name : String} (identifier : isIdentifier name = true) :
    Clean name :=
  fun c member => Or.inl (isWordChar_of_mem identifier c member)

theorem ne_empty_of_isIdentifier {name : String} (identifier : isIdentifier name = true) :
    name ≠ "" := by
  rintro rfl
  exact absurd identifier (by decide)

theorem clean_of_plainPath {path : String} (plain : PlainPath path) : Clean path := by
  intro c member
  rcases plain with rfl | identifiers
  · simp at member
  · by_cases dot : c = '.'
    · exact Or.inr dot
    · have kept : c ∈ (path.toList.splitOnP fun c => c == '.').flatten := by
        rw [flatten_splitOnP, List.mem_filter]
        exact ⟨member, by simpa using dot⟩
      obtain ⟨part, partMember, inside⟩ := List.mem_flatten.mp kept
      have identifier := identifiers (String.ofList part) (List.mem_map_of_mem partMember)
      exact Or.inl (isWordChar_of_mem identifier c (by simpa using inside))

/-- A clean text can stand in a plain line, at its beginning too. -/
theorem Clean.plainLine {text : String} (clean : Clean text) : PlainLine text := by
  have absent {c : Char} (noWord : isWordChar c = false) (noDot : c ≠ '.') : c ∉ text.toList := by
    intro member
    rcases clean c member with word | dot
    · rw [noWord] at word
      cases word
    · exact noDot dot
  constructor
  · constructor
    · exact absent (by decide) (by decide)
    · exact fun head => absent (by decide) (by decide) (List.mem_of_head? head)
  · exact fun head => absent (by decide) (by decide) (List.mem_of_head? head)
  · exact fun last => absent (by decide) (by decide) (List.mem_of_getLast? last)

/-! ### Camel case -/

theorem toNat_lt_of_isWordChar {c : Char} (word : isWordChar c = true) : c.toNat < 0x80 := by
  rw [isWordChar, Bool.or_eq_true, beq_iff_eq] at word
  rcases word with alphanumeric | rfl
  · exact toNat_lt_of_isAlphanum alphanumeric
  · decide

/-- Among the ASCII characters, word characters stay word characters in the other case. -/
theorem isWordChar_of_code :
    ∀ code < 0x80, isWordChar (Char.ofNat code) = true →
      isWordChar (Char.ofNat code).toLower = true ∧
        isWordChar (Char.ofNat code).toUpper = true := by
  decide

theorem caseStable_isWordChar : CaseStable isWordChar :=
  (caseClosed_of_codes (fun _ => toNat_lt_of_isWordChar) isWordChar_of_code).stable

/-- The camel case of an identifier need not be one, but it is clean. -/
theorem clean_camel {name : String} (identifier : isIdentifier name = true) :
    Clean (camel name) := by
  intro c member
  left
  exact caseStable_isWordChar.camel (fun c inside _ => isWordChar_of_mem identifier c inside) c
    member

end Name

/-! ### Plain files -/

/-- A reference whose segments behind the dot in front are identifiers. -/
def Name.PlainRef (ref : String) : Prop :=
  Name.PlainPath (Name.withoutLeadingDot ref)

instance : DecidablePred Name.PlainRef := fun _ =>
  inferInstanceAs (Decidable (Name.PlainPath _))

structure Field.Plain (field : Field) : Prop where
  name : Name.isIdentifier field.name = true
  type : ∀ ref ∈ field.typeName, Name.PlainRef ref

structure Enum.Plain (enum : Enum) : Prop where
  name : Name.isIdentifier enum.name = true
  values : ∀ value ∈ enum.values, Name.isIdentifier value.name = true

instance : DecidablePred Field.Plain := fun _ =>
  decidable_of_iff (_ ∧ _) ⟨fun both => ⟨both.1, both.2⟩, fun plain => ⟨plain.name, plain.type⟩⟩

instance : DecidablePred Enum.Plain := fun _ =>
  decidable_of_iff (_ ∧ _) ⟨fun both => ⟨both.1, both.2⟩, fun plain => ⟨plain.name, plain.values⟩⟩

/-- A message whose names are plain, and those of the types inside it too. -/
inductive Message.Plain : Message → Prop where
  | intro {message : Message} (name : Name.isIdentifier message.name = true)
      (fields : ∀ field ∈ message.fields, field.Plain)
      (enums : ∀ enum ∈ message.enums, enum.Plain)
      (nested : ∀ inner ∈ message.nested, Message.Plain inner) :
      Message.Plain message

structure Method.Plain (method : Method) : Prop where
  name : Name.isIdentifier method.name = true
  input : Name.PlainRef method.inputType
  output : Name.PlainRef method.outputType

instance : DecidablePred Method.Plain := fun _ =>
  decidable_of_iff (_ ∧ _ ∧ _)
    ⟨fun all => ⟨all.1, all.2.1, all.2.2⟩, fun plain => ⟨plain.name, plain.input, plain.output⟩⟩

structure Service.Plain (service : Service) : Prop where
  name : Name.isIdentifier service.name = true
  methods : ∀ method ∈ service.methods, method.Plain

/-- A file that declares plain names, whatever its own name is. -/
structure File.PlainNames (file : File) : Prop where
  package : Name.PlainPath file.package
  messages : ∀ message ∈ file.messages, message.Plain
  enums : ∀ enum ∈ file.enums, enum.Plain
  services : ∀ service ∈ file.services, service.Plain

/-- A file whose names are identifiers, and whose own name holds neither line ends nor braces. -/
structure File.Plain (file : File) : Prop where
  name : Unbraced file.name
  package : Name.PlainPath file.package
  messages : ∀ message ∈ file.messages, message.Plain
  enums : ∀ enum ∈ file.enums, enum.Plain
  services : ∀ service ∈ file.services, service.Plain

theorem File.Plain.plainNames {file : File} (plain : file.Plain) : file.PlainNames :=
  { plain with }

theorem Message.Plain.fields {message : Message} (plain : message.Plain) :
    ∀ field ∈ message.fields, field.Plain := by
  cases plain with
  | intro name fields enums nested => exact fields

/-- What walks reach among plain messages is plain. -/
theorem Message.Plain.of_walk {messages : List Message} {path : List Nat} {names : List String}
    {message : Message} (walk : Walk messages path names message)
    (plain : ∀ other ∈ messages, other.Plain) : message.Plain := by
  induction walk with
  | here found => exact plain _ (List.mem_of_getElem? found)
  | inside found _ inductionHypothesis =>
      apply inductionHypothesis
      cases plain _ (List.mem_of_getElem? found) with
      | intro name fields enums nested => exact nested

namespace Declarations

/-! ### References -/

/-- The fields of a plain message have plain types, and those of the messages inside it too. -/
theorem plainRef_of_mem_fieldRefs {message : Message} (plain : message.Plain) :
    ∀ ref ∈ fieldRefs message, Name.PlainRef ref := by
  induction plain with
  | @intro message name fields enums nested inductionHypothesis =>
      rw [fieldRefs_eq]
      intro ref member
      rcases List.mem_append.mp member with own | inside
      · obtain ⟨field, fieldMember, typed⟩ := List.mem_filterMap.mp own
        exact (fields field fieldMember).type ref typed
      · obtain ⟨inner, innerMember, further⟩ := List.mem_flatMap.mp inside
        exact inductionHypothesis inner innerMember ref further

/-- A plain file refers to types by plain references. -/
theorem plainRef_of_mem_typeRefs {file : File} (plain : file.Plain) :
    ∀ ref ∈ typeRefs file, Name.PlainRef ref := by
  intro ref member
  rcases List.mem_append.mp member with ofFields | ofMethods
  · rw [fieldRefsIn_eq] at ofFields
    obtain ⟨message, messageMember, inside⟩ := List.mem_flatMap.mp ofFields
    exact plainRef_of_mem_fieldRefs (plain.messages message messageMember) ref inside
  · obtain ⟨service, serviceMember, method, methodMember, side⟩ :=
      File.mem_methodRefs_iff.mp ofMethods
    have methodPlain := (plain.services service serviceMember).methods method methodMember
    rcases List.mem_pair.mp side with rfl | rfl
    · exact methodPlain.input
    · exact methodPlain.output

/-! ### Spelled types -/

section Spelling

variable {files : List File} {scope : Scope}

theorem clean_withoutLeadingDot {ref : String} (plain : Name.PlainRef ref) :
    Name.Clean (Name.withoutLeadingDot ref) :=
  Name.clean_of_plainPath plain

/-- A type's name in its package is a part of its reference. -/
theorem clean_localName {ref : String} {location : Location} (plain : Name.PlainRef ref)
    (found : DeclaredAt files ref location) : Name.Clean location.localName := by
  have clean := clean_withoutLeadingDot plain
  rw [found.withoutLeadingDot_eq, Location.fullName] at clean
  intro c member
  split at clean
  · exact clean c member
  · apply clean c
    simp [member]

/-- A type is spelled as its reference is, or as a part of it. -/
theorem clean_spell (compatible : Compatible files)
    (registry : scope.registry = Registry.assembled files) {ref : String}
    (plain : Name.PlainRef ref) : Name.Clean (scope.spell ref) := by
  unfold Scope.spell
  split
  · next location located =>
    rw [registry] at located
    have found := (Registry.locate_assembled_eq_ok_iff compatible).mp located
    have localClean := clean_localName plain found
    split
    · exact localClean
    · next elsewhere =>
      have named : location.file.package ≠ "" := (not_or.mp elsewhere).2
      have full : location.fullName = location.file.package ++ "." ++ location.localName :=
        if_neg named
      rw [← full, ← found.withoutLeadingDot_eq]
      exact clean_withoutLeadingDot plain
  · exact clean_withoutLeadingDot plain

/-- The values of a map are of a plain type, wherever its entry is declared. -/
theorem plain_heldField (compatible : Compatible files)
    (registry : scope.registry = Registry.assembled files)
    (allPlain : ∀ file ∈ files, file.PlainNames)
    {field : Field} (plain : field.Plain) : (scope.heldField field).Plain := by
  unfold Scope.heldField
  cases map : scope.mapOf? field with
  | none => exact plain
  | some keyValue =>
      obtain ⟨key, value⟩ := keyValue
      obtain ⟨ref, entry, -, known, ofEntry⟩ := Scope.exists_entry_of_mapOf? map
      rw [registry] at known
      obtain ⟨file, member, path, names, walk, -⟩ :=
        Registry.messageAt_of_message?_eq_ok compatible.names known
      exact (Message.Plain.of_walk walk (allPlain file member).messages).fields value ofEntry

theorem trailing_plainType (kind : FieldKind) : Trailing (plainType kind) := by
  cases kind <;> decide

/-- What stands around the type of a member leaves its line plain. -/
theorem memberFrame_plain (scope : Scope) (field : Field) :
    PlainLine (scope.memberFrame field).1 ∧ (scope.memberFrame field).1 ≠ "" ∧
      Trailing (scope.memberFrame field).2 := by
  unfold Scope.memberFrame
  cases scope.mapOf? field with
  | some keyValue =>
      have keys : Scope.keyType keyValue.1.kind = "string" ∨
          Scope.keyType keyValue.1.kind = "number" := by
        unfold Scope.keyType
        split
        · exact Or.inl rfl
        · exact Or.inl rfl
        · exact Or.inr rfl
      rcases keys with keys | keys
      · simp only [keys]
        decide
      · simp only [keys]
        decide
  | none => cases field.label <;> decide

/-- The member of a plain field is a plain line. -/
theorem plainLine_memberOf (compatible : Compatible files)
    (registry : scope.registry = Registry.assembled files)
    (allPlain : ∀ file ∈ files, file.PlainNames)
    {field : Field} (plain : field.Plain) : PlainLine (scope.memberOf field) := by
  have name : Name.Clean (scope.memberName field) := by
    unfold Scope.memberName
    split
    · exact Name.clean_camel plain.name
    · exact Name.clean_of_isIdentifier plain.name
  have type : Trailing (((valueRef? (scope.heldField field)).map scope.spell).getD
      (plainType (scope.heldField field).kind)) := by
    cases spelled : valueRef? (scope.heldField field) with
    | none => exact trailing_plainType _
    | some ref =>
        have held := plain_heldField compatible registry allPlain plain
        have refPlain := held.type ref (typeName_of_valueRef? spelled)
        exact (clean_spell compatible registry refPlain).plainLine.trailing
  obtain ⟨opening, some, closing⟩ := memberFrame_plain scope field
  have filled : scope.memberName field ++ (scope.memberFrame field).1 ≠ "" := by
    simpa using fun _ => some
  rw [Scope.memberOf_eq, String.append_assoc]
  exact (name.plainLine.append opening).extend filled (type.append closing)

theorem plainLine_enumMember {name : String} (identifier : Name.isIdentifier name = true) :
    PlainLine (enumMember name) := by
  have clean := (Name.clean_of_isIdentifier identifier).plainLine
  have between : Trailing " = \"" := by decide
  have closing : Trailing "\"," := by decide
  rw [enumMember, String.append_assoc, String.append_assoc]
  exact clean.extend (Name.ne_empty_of_isIdentifier identifier)
    (between.append (clean.trailing.append closing))

theorem trailing_sideType {type : String} (trailing : Trailing type) (options : Options)
    (streaming : Bool) : Trailing (sideType options streaming type) := by
  have opening : Trailing "AsyncIterator<" := by decide
  have closing : Trailing ">" := by decide
  unfold sideType
  split
  · exact (opening.append trailing).append closing
  · exact trailing

/-- The member of a plain method is a plain line. -/
theorem plainLine_methodLine (compatible : Compatible files)
    (registry : scope.registry = Registry.assembled files) (options : Options) {method : Method}
    (plain : method.Plain) : PlainLine (methodLine scope options method) := by
  have name := (Name.clean_of_isIdentifier plain.name).plainLine
  have opening : Trailing ": (r: " := by decide
  have input : Trailing
      (sideType options method.clientStreaming (scope.spell method.inputType)) :=
    trailing_sideType (clean_spell compatible registry plain.input).plainLine.trailing _ _
  have arrow : Trailing ") => " := by decide
  have output : Trailing
      (sideType options method.serverStreaming (scope.spell method.outputType)) :=
    trailing_sideType (clean_spell compatible registry plain.output).plainLine.trailing _ _
  have closing : Trailing ";" := by decide
  simp only [methodLine, String.append_assoc]
  exact name.extend (Name.ne_empty_of_isIdentifier plain.name) (opening.append
    (input.append (arrow.append (output.append closing))))

end Spelling

end Declarations

end RpcBindings
