/-
Module: RpcBindings.Proofs.Indentation.Dialects
Purpose: What each function of a dialect must do so that all its output is indented by its braces.
Main exports: File.declaredNames, Registry.Named, Name.Portable.lineStart, Dialect.Aligned,
  Dialect.Aligned.generate
-/
import RpcBindings.Proofs.Brackets.Dialects
import RpcBindings.Proofs.Layout.Indentation

namespace RpcBindings

open Layout
open Name (AllPortable)
open Traversal (exists_of_mem_results)

/-!
A fragment is laid out before the file is, at a level that its dialect has chosen for it.  Whether
the level fits is seen only where the fragment goes in: there as many braces must be open.
-/

/-! ### Declared names -/

mutual

/-- The names of a message, of its fields, and of all that is declared inside it. -/
def Message.declaredNames : Message → List String
  | { name, fields, nested, enums, mapEntry := _ } =>
      name :: (fields.map Field.name ++ enums.flatMap Enum.texts ++ Message.declaredNamesIn nested)

def Message.declaredNamesIn : List Message → List String
  | [] => []
  | message :: messages => message.declaredNames ++ Message.declaredNamesIn messages

end

/-- The names of a service and of its methods. -/
def Service.declaredNames (service : Service) : List String :=
  service.name :: service.methods.map Method.name

/-- All names that a file declares. -/
def File.declaredNames (file : File) : List String :=
  file.services.flatMap Service.declaredNames ++ Message.declaredNamesIn file.messages ++
    file.enums.flatMap Enum.texts

theorem Message.declaredNamesIn_eq (messages : List Message) :
    declaredNamesIn messages = messages.flatMap declaredNames := by
  induction messages with
  | nil => rfl
  | cons message messages inductionHypothesis =>
      rw [declaredNamesIn, inductionHypothesis, List.flatMap_cons]

theorem Message.declaredNames_eq (message : Message) :
    message.declaredNames = message.name :: (message.fields.map Field.name ++
      message.enums.flatMap Enum.texts ++ message.nested.flatMap declaredNames) := by
  cases message
  rw [declaredNames, declaredNamesIn_eq]

/-- The enums inside a message declare names of the message. -/
theorem Message.texts_subset_declaredNames {message : Message} {enum : Enum}
    (member : enum ∈ message.enums) : enum.texts ⊆ message.declaredNames := by
  rw [declaredNames_eq]
  exact fun name inside => List.mem_cons_of_mem _ (List.mem_append_left _
    (List.mem_append_right _ (List.mem_flatMap_of_mem member inside)))

theorem Message.declaredNames_subset {message inner : Message} (member : inner ∈ message.nested) :
    inner.declaredNames ⊆ message.declaredNames := by
  rw [declaredNames_eq message]
  exact fun name inside => List.mem_cons_of_mem _ (List.mem_append_right _
    (List.mem_flatMap_of_mem member inside))

theorem File.texts_subset_declaredNames {file : File} {enum : Enum}
    (member : enum ∈ file.enums) : enum.texts ⊆ file.declaredNames :=
  fun _ inside => List.mem_append_right _ (List.mem_flatMap_of_mem member inside)

theorem File.declaredNames_subset {file : File} {message : Message}
    (member : message ∈ file.messages) : message.declaredNames ⊆ file.declaredNames := by
  rw [declaredNames, Message.declaredNamesIn_eq]
  exact fun name inside => List.mem_append_left _ (List.mem_append_right _
    (List.mem_flatMap_of_mem member inside))

/-- A registry of files in which every declared name is some text. -/
def Registry.Named (registry : Registry) : Prop :=
  ∀ file ∈ registry.files, "" ∉ file.declaredNames

instance : DecidablePred Registry.Named := fun registry =>
  List.decidableBAll (fun file : File => "" ∉ file.declaredNames) registry.files

/-! ### Portable texts in lines -/

namespace Name

theorem inked_of_isPortable {c : Char} (portable : isPortable c = true) :
    c ≠ ' ' ∧ c ≠ '\t' ∧ c ≠ '\n' ∧ c ≠ '\x7b' ∧ c ≠ '\x7d' :=
  forall_ascii
    (fun c => isPortable c = true → c ≠ ' ' ∧ c ≠ '\t' ∧ c ≠ '\n' ∧ c ≠ '\x7b' ∧ c ≠ '\x7d')
    (by decide) (toNat_lt_of_isPortable portable) portable

namespace Portable

variable {name : String} (portable : Portable name)

include portable

theorem linePart (opened : Nat) : LinePart opened opened name := by
  have inked {c : Char} (member : c ∈ name.toList) := inked_of_isPortable (portable c member)
  exact Unbraced.linePart
    ⟨fun inside => (inked inside).2.2.1 rfl, fun inside => (inked inside).2.2.2.1 rfl,
      fun inside => (inked inside).2.2.2.2 rfl⟩ opened

/-- A line may be a name, and then it is empty if the name is. -/
theorem level : Level name := by
  cases chars : name.toList with
  | nil => exact .inl (String.toList_eq_nil_iff.mp chars)
  | cons c rest =>
      obtain ⟨noSpace, noTab, -, -, noClosing⟩ :=
        inked_of_isPortable (portable c (chars ▸ List.mem_cons_self))
      exact .inr ⟨portable.linePart 0, c, by simp [chars], noSpace, noTab, noClosing⟩

/-- A line may begin with a name, which may even be empty if something else follows. -/
theorem lineStart {behind : String} {next : Nat} (others : LineStart 0 next behind) :
    LineStart 0 next (name ++ behind) := by
  rcases portable.level with rfl | first
  · rw [String.empty_append]
    exact others
  · exact first.append others.toLinePart

/-- A name between two texts.  `opened` braces are open where it stands. -/
theorem within (opened : Nat) {front back : String} {last : Nat} (before : LineStart 0 opened front)
    (behind : LinePart opened last back) : LineStart 0 last (front ++ name ++ back) :=
  (before.append (portable.linePart opened)).append behind

end Portable

end Name

/-! ### Dialects -/

/-- Both texts of a field are lines that close what they open. -/
structure FieldBinding.Level (binding : FieldBinding) : Prop where
  declaration : Layout.Level binding.declaration
  accessor : Layout.Level binding.accessor

/-- A field that a dialect leaves out takes no line. -/
theorem FieldBinding.level_none : FieldBinding.none.Level := ⟨.inl rfl, .inl rfl⟩

/-- The functions of a dialect indent code by its braces, as long as the code that they are given is
indented by its braces at the level where it goes in. -/
structure Dialect.Aligned (importing : Prop) (unit : String) (methodLevel serviceLevel : File → Nat)
    (dialect : Dialect) : Prop where
  tidy : dialect.Tidy
  mapField {field : Field} (portable : AllPortable field.texts) : (dialect.mapField field).Level
  bindMethod {context : MethodContext} (portable : context.Portable)
    (fields : ∀ field ∈ context.fields, field.Level) :
    FollowsBraces importing unit (methodLevel context.file) (dialect.bindMethod context).fragment
      (methodLevel context.file)
  renderService {context : ServiceContext} (portable : context.Portable)
    (methods : ∀ binding ∈ context.bindings, FollowsBraces importing unit
      (methodLevel context.file) binding.fragment (methodLevel context.file)) :
    FollowsBraces importing unit (serviceLevel context.file) (dialect.renderService context)
      (serviceLevel context.file)
  renderFile {context : FileContext} (portable : context.Portable)
    (named : "" ∉ context.file.declaredNames)
    (services : ∀ service ∈ context.services, FollowsBraces importing unit
      (serviceLevel context.file) service (serviceLevel context.file)) :
    FollowsBraces importing unit 0 (dialect.renderFile context) 0

namespace Dialect.Aligned

variable {importing : Prop} {unit : String} {methodLevel serviceLevel : File → Nat}
  {dialect : Dialect} {registry : Registry} {options : Options} {file : File} {service : Service}
  (aligned : dialect.Aligned importing unit methodLevel serviceLevel)
  (registryPortable : registry.Portable) (optionsPortable : AllPortable options.texts)

include aligned registryPortable optionsPortable

/-- A bound method is written at the level of methods. -/
theorem bind {method : Method} {binding : Binding} (filePortable : AllPortable file.texts)
    (servicePortable : AllPortable service.texts) (methodPortable : AllPortable method.texts)
    (bound : dialect.bind registry options file service method = .ok binding) :
    FollowsBraces importing unit (methodLevel file) binding.fragment (methodLevel file) := by
  obtain ⟨request, found, -, rfl⟩ := Dialect.bind_eq_ok_iff.mp bound
  refine aligned.bindMethod (aligned.tidy.methodContext registryPortable optionsPortable
    filePortable servicePortable methodPortable found) fun fieldBinding member => ?_
  obtain ⟨field, fieldMember, rfl⟩ := List.mem_map.mp (List.mem_filter.mp member).1
  exact aligned.mapField
    (Message.portable_fields (registryPortable.of_message? found) field fieldMember)

/-- A service of which all methods are bound is written at the level of services. -/
theorem bindService {context : ServiceContext} (filePortable : AllPortable file.texts)
    (servicePortable : AllPortable service.texts)
    (bound : dialect.bindService registry options file service = .ok context) :
    FollowsBraces importing unit (serviceLevel file) (dialect.renderService context)
      (serviceLevel file) := by
  have portable := aligned.tidy.bindService registryPortable optionsPortable filePortable
    servicePortable bound
  obtain ⟨bindings, all, rfl⟩ := Dialect.bindService_eq_ok_iff.mp bound
  refine aligned.renderService portable fun binding member => ?_
  obtain ⟨method, visited, methodBound⟩ := exists_of_mem_results all member
  have declared := (Dialect.mem_orderedMethods_iff dialect).mp visited
  exact aligned.bind registryPortable optionsPortable filePortable servicePortable
    (Service.portable_methods servicePortable method declared) methodBound

/-- Whatever is generated is indented by its braces. -/
theorem generate (named : registry.Named) {fileName : String} {output : GeneratedFile}
    (generated : RpcBindings.generate registry fileName dialect options = .ok output) :
    FollowsBraces importing unit 0 output.content 0 := by
  obtain ⟨file, services, known, -, bound, rfl⟩ := generate_eq_ok_iff.mp generated
  have fileMember := (mem_of_file?_eq_ok known).1
  have filePortable := registryPortable file fileMember
  refine aligned.renderFile
    (aligned.tidy.fileContext registryPortable optionsPortable filePortable bound)
    (named file fileMember) fun text member => ?_
  obtain ⟨context, contextMember, rfl⟩ := List.mem_map.mp member
  obtain ⟨service, declared, serviceBound⟩ := exists_of_mem_results bound contextMember
  exact aligned.bindService registryPortable optionsPortable filePortable
    (File.portable_services filePortable service declared) serviceBound

end Dialect.Aligned

end RpcBindings
