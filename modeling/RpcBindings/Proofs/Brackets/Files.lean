/-
Module: RpcBindings.Proofs.Brackets.Files
Purpose: The texts that stand in files and options, and registries where all texts are portable.
Main exports: File.texts, Options.texts, Name.AllPortable, Registry.Portable,
  Registry.Portable.of_message?, Registry.Portable.of_locate
-/
import RpcBindings.Generate
import RpcBindings.Proofs.Name.Portable

namespace RpcBindings

/-!
All that a generation is given in words are the texts of its files and of its options: names,
packages, references, paths, modules.  What is found by a reference is a part of some file, so its
texts are texts of that file.
-/

/-! ### Texts -/

def Field.texts (field : Field) : List String :=
  field.name :: field.typeName.toList

def Enum.texts (enum : Enum) : List String :=
  enum.name :: enum.values.map EnumValue.name

mutual

/-- The texts of a message and of all that is declared inside it. -/
def Message.texts : Message → List String
  | { name, fields, nested, enums, mapEntry := _ } =>
      name :: (fields.flatMap Field.texts ++ enums.flatMap Enum.texts ++ Message.textsIn nested)

def Message.textsIn : List Message → List String
  | [] => []
  | message :: messages => message.texts ++ Message.textsIn messages

end

def Method.texts (method : Method) : List String :=
  method.name :: method.typeRefs

def Service.texts (service : Service) : List String :=
  service.name :: service.methods.flatMap Method.texts

/-- All texts of a file, its own name included. -/
def File.texts (file : File) : List String :=
  file.name :: file.package ::
    (file.services.flatMap Service.texts ++ Message.textsIn file.messages ++
      file.enums.flatMap Enum.texts)

/-- The options that are texts, as far as they are set. -/
def Options.texts (options : Options) : List String :=
  options.inputId.toList ++ options.typesImport.toList ++ options.clientImport.toList ++
    options.goPackage.toList

theorem Message.textsIn_eq (messages : List Message) :
    textsIn messages = messages.flatMap texts := by
  induction messages with
  | nil => rfl
  | cons message messages inductionHypothesis =>
      rw [textsIn, inductionHypothesis, List.flatMap_cons]

theorem Message.texts_eq (message : Message) :
    message.texts = message.name :: (message.fields.flatMap Field.texts ++
      message.enums.flatMap Enum.texts ++ message.nested.flatMap texts) := by
  cases message
  rw [texts, textsIn_eq]

/-! ### Portable texts -/

namespace Name

def AllPortable (texts : List String) : Prop :=
  ∀ text ∈ texts, Portable text

instance : DecidablePred AllPortable := fun texts =>
  List.decidableBAll Portable texts

namespace AllPortable

variable {texts others : List String}

theorem subset (portable : AllPortable texts) (within : others ⊆ texts) : AllPortable others :=
  fun text member => portable text (within member)

theorem head {text : String} (portable : AllPortable (text :: texts)) : Portable text :=
  portable text List.mem_cons_self

theorem tail {text : String} (portable : AllPortable (text :: texts)) : AllPortable texts :=
  portable.subset (List.subset_cons_self text texts)

theorem left (portable : AllPortable (texts ++ others)) : AllPortable texts :=
  portable.subset (List.subset_append_left texts others)

theorem right (portable : AllPortable (texts ++ others)) : AllPortable others :=
  portable.subset (List.subset_append_right texts others)

/-- What is portable all together is portable one by one. -/
theorem of_mem {α : Type} {items : List α} {textsOf : α → List String}
    (portable : AllPortable (items.flatMap textsOf)) {item : α} (member : item ∈ items) :
    AllPortable (textsOf item) :=
  portable.subset fun _ inside => List.mem_flatMap_of_mem member inside

/-- A text that may be set is portable, or else its default is. -/
theorem getD {text : Option String} (portable : AllPortable text.toList) {default : String}
    (otherwise : Portable default) : Portable (text.getD default) := by
  cases text with
  | none => exact otherwise
  | some text => exact portable.head

end AllPortable

end Name

open Name (AllPortable)

/-! ### Parts of files -/

section Parts

variable {field : Field} {enum : Enum} {message : Message} {method : Method} {service : Service}
  {file : File}

theorem Field.portable_name (portable : AllPortable field.texts) : Name.Portable field.name :=
  portable.head

theorem Field.portable_type (portable : AllPortable field.texts) {ref : String}
    (typed : field.typeName = some ref) : Name.Portable ref :=
  portable ref (List.mem_cons_of_mem _ (by simp [typed]))

theorem Message.portable_name (portable : AllPortable message.texts) :
    Name.Portable message.name := by
  rw [texts_eq] at portable
  exact portable.head

theorem Message.portable_fields (portable : AllPortable message.texts) :
    ∀ field ∈ message.fields, AllPortable field.texts := by
  rw [texts_eq] at portable
  exact fun field member => portable.tail.left.left.of_mem member

theorem Message.portable_enums (portable : AllPortable message.texts) :
    ∀ enum ∈ message.enums, AllPortable enum.texts := by
  rw [texts_eq] at portable
  exact fun enum member => portable.tail.left.right.of_mem member

theorem Message.portable_nested (portable : AllPortable message.texts) :
    ∀ inner ∈ message.nested, AllPortable inner.texts := by
  rw [texts_eq] at portable
  exact fun inner member => portable.tail.right.of_mem member

theorem Method.portable_name (portable : AllPortable method.texts) : Name.Portable method.name :=
  portable.head

theorem Method.portable_inputType (portable : AllPortable method.texts) :
    Name.Portable method.inputType :=
  portable.tail.head

theorem Method.portable_outputType (portable : AllPortable method.texts) :
    Name.Portable method.outputType :=
  portable.tail.tail.head

theorem Service.portable_name (portable : AllPortable service.texts) :
    Name.Portable service.name :=
  portable.head

theorem Service.portable_methods (portable : AllPortable service.texts) :
    ∀ method ∈ service.methods, AllPortable method.texts :=
  fun _ member => portable.tail.of_mem member

theorem File.portable_name (portable : AllPortable file.texts) : Name.Portable file.name :=
  portable.head

theorem File.portable_package (portable : AllPortable file.texts) : Name.Portable file.package :=
  portable.tail.head

theorem File.portable_services (portable : AllPortable file.texts) :
    ∀ service ∈ file.services, AllPortable service.texts :=
  fun _ member => portable.tail.tail.left.left.of_mem member

theorem File.portable_messages (portable : AllPortable file.texts) :
    ∀ message ∈ file.messages, AllPortable message.texts := by
  have messages := portable.tail.tail.left.right
  rw [Message.textsIn_eq] at messages
  exact fun message member => messages.of_mem member

theorem File.portable_enums (portable : AllPortable file.texts) :
    ∀ enum ∈ file.enums, AllPortable enum.texts :=
  fun _ member => portable.tail.tail.right.of_mem member

/-- The methods of a file refer to types by texts of the file. -/
theorem File.portable_methodRefs (portable : AllPortable file.texts) :
    AllPortable file.methodRefs := by
  intro ref member
  obtain ⟨service, serviceMember, method, methodMember, side⟩ := mem_methodRefs_iff.mp member
  have servicePortable := portable_services portable service serviceMember
  exact (Service.portable_methods servicePortable method methodMember).tail ref side

/-- An index path stays inside the message where it begins. -/
theorem Message.portable_nestedAt? {path : List Nat} {inner : Message}
    (portable : AllPortable message.texts) (leads : message.nestedAt? path = some inner) :
    AllPortable inner.texts := by
  induction path generalizing message with
  | nil =>
      obtain rfl := Option.some.inj leads
      exact portable
  | cons index path inductionHypothesis =>
      rw [Message.nestedAt?, Option.bind_eq_some_iff] at leads
      obtain ⟨next, found, leads⟩ := leads
      exact inductionHypothesis (portable_nested portable next (List.mem_of_getElem? found)) leads

theorem File.portable_messageAt? {path : List Nat} (portable : AllPortable file.texts)
    (leads : file.messageAt? path = some message) : AllPortable message.texts := by
  cases path with
  | nil => cases leads
  | cons index path =>
      rw [File.messageAt?, Option.bind_eq_some_iff] at leads
      obtain ⟨outer, found, leads⟩ := leads
      exact Message.portable_nestedAt?
        (portable_messages portable outer (List.mem_of_getElem? found)) leads

end Parts

/-! ### Registries -/

/-- A registry of files in which all texts are portable. -/
def Registry.Portable (registry : Registry) : Prop :=
  ∀ file ∈ registry.files, AllPortable file.texts

instance : DecidablePred Registry.Portable := fun registry =>
  List.decidableBAll (fun file : File => AllPortable file.texts) registry.files

namespace Registry.Portable

variable {registry : Registry} (portable : registry.Portable)

include portable

theorem of_fileNamed? {name : String} {file : File} (known : registry.fileNamed? name = some file) :
    AllPortable file.texts :=
  portable file (List.mem_of_find?_eq_some known)

/-- What a reference means is a message of some file. -/
theorem of_message? {ref : String} {message : Message}
    (found : registry.message? ref = .ok message) : AllPortable message.texts := by
  unfold message? at found
  split at found
  · cases found
  · split at found
    · cases found
    · next file known =>
      split at found
      · cases found
      · next leads =>
        obtain rfl := Except.ok.inj found
        exact File.portable_messageAt? (portable.of_fileNamed? known) leads

/-- A type is located in some file, by a part of the reference. -/
theorem of_locate {ref : String} {location : Location} (refPortable : Name.Portable ref)
    (located : registry.locate ref = .ok location) :
    AllPortable location.file.texts ∧ Name.Portable location.localName := by
  unfold locate at located
  split at located
  · cases located
  · split at located
    · cases located
    · next file known =>
      split at located
      · cases located
      · next rest within =>
        obtain rfl := Except.ok.inj located
        exact ⟨portable.of_fileNamed? known, refPortable.qualified.localName? within⟩

end Registry.Portable

end RpcBindings
