/-
Module: RpcBindings.Proofs.Registry.Agreement
Purpose: Sets of files that give the same answers about a reference.
Main exports: Compatible.of_perm, Compatible.of_append, File.RefersTo,
  Registry.file?_assembled_congr, Registry.message?_assembled_congr,
  Registry.locate_assembled_congr, Registry.AgreesOn, Registry.agreesOn_of_perm,
  Registry.agreesOn_of_append
-/
import RpcBindings.Proofs.Registry.Location

namespace RpcBindings

/-!
Files that are loaded together share no reference, so what a reference means is settled by the one
file that declares it.  Neither the order of the files nor the presence of further ones can change
an answer, as long as the file that settles it stays.
-/

/-! ### Compatible files -/

/-- In which order files are given does not matter for whether they can be loaded together. -/
theorem Compatible.of_perm {files others : List File} (perm : files.Perm others)
    (compatible : Compatible files) : Compatible others where
  names := (perm.map File.name).nodup compatible.names
  refs := by
    have symmetric (earlier later : File)
        (apart : ∀ ref, earlier.Declares ref → ¬ later.Declares ref) (ref : String)
        (declared : later.Declares ref) : ¬ earlier.Declares ref :=
      fun other => apart ref other declared
    exact perm.pairwise compatible.refs (symmetric _ _)

/-- Some of the files that can be loaded together can be loaded without the others. -/
theorem Compatible.of_append {files more : List File} (compatible : Compatible (files ++ more)) :
    Compatible files where
  names := compatible.names.sublist ((List.sublist_append_left files more).map File.name)
  refs := compatible.refs.sublist (List.sublist_append_left files more)

theorem compatible_singleton (file : File) : Compatible [file] where
  names := List.nodup_singleton _
  refs := List.pairwise_singleton _ _

/-- `file.RefersTo ref`: a field of one of the file's messages, at any depth, or one side of a
method is written with the reference. -/
inductive File.RefersTo (file : File) : String → Prop where
  | field {path : List Nat} {names : List String} {message : Message} {field : Field} {ref : String}
      (walk : Walk file.messages path names message)
      (ofMessage : field ∈ message.fields)
      (typed : field.typeName = some ref) :
      File.RefersTo file ref
  | side {service : Service} {method : Method} {ref : String}
      (ofFile : service ∈ file.services)
      (ofService : method ∈ service.methods)
      (written : ref ∈ method.typeRefs) :
      File.RefersTo file ref

namespace Registry

variable {files others : List File}

/-! ### Files -/

theorem fileNamed?_assembled_eq_some_iff (names : (files.map File.name).Nodup) {name : String}
    {file : File} :
    (assembled files).fileNamed? name = some file ↔ file ∈ files ∧ file.name = name := by
  constructor
  · intro found
    exact ⟨List.mem_of_find?_eq_some found, by simpa using List.find?_some found⟩
  · intro named
    obtain ⟨member, rfl⟩ := named
    exact fileNamed?_assembled names member

/-- A name leads to the same file where the same files have it. -/
theorem file?_assembled_congr (names : (files.map File.name).Nodup)
    (otherNames : (others.map File.name).Nodup) {name : String}
    (shared : ∀ file : File, file.name = name → (file ∈ files ↔ file ∈ others)) :
    (assembled files).file? name = (assembled others).file? name := by
  have found : (assembled files).fileNamed? name = (assembled others).fileNamed? name := by
    refine Option.ext fun file => ?_
    rw [fileNamed?_assembled_eq_some_iff names, fileNamed?_assembled_eq_some_iff otherNames]
    exact and_congr_left fun named => shared file named
  rw [file?, file?, found]

/-! ### References that are declared -/

/-- A message is filed for a file that declares it. -/
theorem declares_of_mem_messageEntries {file : File} {entry : String × MessageEntry}
    (filed : entry ∈ messageEntries file) : file.Declares entry.1 := by
  obtain ⟨collected, member, rfl⟩ := List.mem_map.mp filed
  exact File.mem_declaredRefs_iff.mp (List.mem_append_left _ (List.mem_map_of_mem member))

/-- The entry of a message is that of the file that declares the reference. -/
theorem lookup_messages_eq_alone (compatible : Compatible files) {file : File} {ref : String}
    (member : file ∈ files) (declared : file.Declares ref) :
    (assembled files).messages.lookup ref = (assembled [file]).messages.lookup ref := by
  have alone : ∀ other ∈ files, other ≠ file → ∀ entry ∈ messageEntries other, entry.1 ≠ ref := by
    intro other otherMember different entry filed same
    have otherDeclared := declares_of_mem_messageEntries filed
    rw [same] at otherDeclared
    exact different (compatible.eq_of_declares otherMember otherDeclared member declared)
  have single : (assembled [file]).messages = (messageEntries file).reverse := by
    simp [assembled]
  rw [single]
  exact Table.lookup_reverse_flatMap member alone

/-- A reference means the message that it means in the file that declares it. -/
theorem message?_eq_alone (compatible : Compatible files) {file : File} {ref : String}
    (member : file ∈ files) (declared : file.Declares (Name.qualified ref)) :
    (assembled files).message? ref = (assembled [file]).message? ref := by
  have filed := lookup_messages_eq_alone compatible member declared
  cases alone : (assembled [file]).messages.lookup (Name.qualified ref) with
  | none => rw [message?, message?, filed, alone]
  | some entry =>
      obtain ⟨other, message, known, -, leads, -⟩ :=
        lookup_leads (compatible_singleton file).names alone
      obtain ⟨single, named⟩ :=
        (fileNamed?_assembled_eq_some_iff (compatible_singleton file).names).mp known
      obtain rfl : other = file := List.mem_singleton.mp single
      have knownAmong := (fileNamed?_assembled_eq_some_iff compatible.names).mpr ⟨member, named⟩
      rw [message?_eq_ok alone known leads, message?_eq_ok (filed.trans alone) knownAmong leads]

/-- A reference is located where the file that declares it has it. -/
theorem locate_eq_alone (compatible : Compatible files) {file : File} {ref : String}
    (member : file ∈ files) (declared : file.Declares (Name.qualified ref)) :
    (assembled files).locate ref = (assembled [file]).locate ref := by
  have single := compatible_singleton file
  obtain ⟨location, located⟩ := (exists_locate_assembled_iff single).mpr
    ⟨file, List.mem_singleton_self _, declared⟩
  have found := (locate_assembled_eq_ok_iff single).mp located
  have inside : location.file ∈ files := List.mem_singleton.mp found.member ▸ member
  rw [located, locate_assembled_eq_ok_iff compatible]
  exact ⟨inside, found.declared, found.spelled⟩

/-! ### References that are not declared -/

/-- A location that is not found is reported with the reference as it was written. -/
theorem locate_eq_error {registry : Registry} {ref : String} {error : LookupError}
    (fails : registry.locate ref = .error error) : error = .typeNotFound ref := by
  unfold locate at fails
  split at fails
  · exact (Except.error.inj fails).symm
  · split at fails
    · exact (Except.error.inj fails).symm
    · split at fails
      · exact (Except.error.inj fails).symm
      · cases fails

theorem message?_eq_error_of_undeclared (names : (files.map File.name).Nodup) {ref : String}
    (undeclared : ∀ file ∈ files, ¬ file.Declares (Name.qualified ref)) :
    (assembled files).message? ref = .error (.messageNotFound ref) := by
  cases outcome : (assembled files).message? ref with
  | error error => rw [message?_eq_error outcome]
  | ok message =>
      obtain ⟨file, member, path, on, walk, spelled⟩ := messageAt_of_message?_eq_ok names outcome
      exact absurd (spelled ▸ .message walk) (undeclared file member)

theorem locate_eq_error_of_undeclared (compatible : Compatible files) {ref : String}
    (undeclared : ∀ file ∈ files, ¬ file.Declares (Name.qualified ref)) :
    (assembled files).locate ref = .error (.typeNotFound ref) := by
  cases outcome : (assembled files).locate ref with
  | error error => rw [locate_eq_error outcome]
  | ok location =>
      obtain ⟨file, member, declared⟩ :=
        (exists_locate_assembled_iff compatible).mp ⟨location, outcome⟩
      exact absurd declared (undeclared file member)

/-! ### Two sets of files -/

section Shared

variable (compatible : Compatible files) (otherCompatible : Compatible others) {ref : String}
  (shared : ∀ file : File, file.Declares (Name.qualified ref) → (file ∈ files ↔ file ∈ others))

include compatible otherCompatible shared

/-- A reference means the same where the same file declares it, or none does. -/
theorem message?_assembled_congr :
    (assembled files).message? ref = (assembled others).message? ref := by
  by_cases declared : ∃ file ∈ files, file.Declares (Name.qualified ref)
  · obtain ⟨file, member, declares⟩ := declared
    rw [message?_eq_alone compatible member declares,
      message?_eq_alone otherCompatible ((shared file declares).mp member) declares]
  · have undeclared : ∀ file ∈ files, ¬ file.Declares (Name.qualified ref) :=
      fun file member declares => declared ⟨file, member, declares⟩
    rw [message?_eq_error_of_undeclared compatible.names undeclared,
      message?_eq_error_of_undeclared otherCompatible.names fun file member declares =>
        undeclared file ((shared file declares).mpr member) declares]

/-- A reference is located at the same place where the same file declares it, or none does. -/
theorem locate_assembled_congr :
    (assembled files).locate ref = (assembled others).locate ref := by
  by_cases declared : ∃ file ∈ files, file.Declares (Name.qualified ref)
  · obtain ⟨file, member, declares⟩ := declared
    rw [locate_eq_alone compatible member declares,
      locate_eq_alone otherCompatible ((shared file declares).mp member) declares]
  · have undeclared : ∀ file ∈ files, ¬ file.Declares (Name.qualified ref) :=
      fun file member declares => declared ⟨file, member, declares⟩
    rw [locate_eq_error_of_undeclared compatible undeclared,
      locate_eq_error_of_undeclared otherCompatible fun file member declares =>
        undeclared file ((shared file declares).mpr member) declares]

end Shared

/-! ### Agreement -/

/-- Two registries answer alike about some references, and about those to which the fields of the
messages that are found refer in turn. -/
structure AgreesOn (first second : Registry) (refs : String → Prop) : Prop where
  message : ∀ ref, refs ref → first.message? ref = second.message? ref
  location : ∀ ref, refs ref → first.locate ref = second.locate ref
  closed : ∀ ref, refs ref → ∀ message, first.message? ref = .ok message →
    ∀ field ∈ message.fields, ∀ other, field.typeName = some other → refs other

/-- The files in another order agree with them on all references. -/
theorem agreesOn_of_perm (compatible : Compatible files) (perm : files.Perm others) :
    (assembled files).AgreesOn (assembled others) fun _ => True where
  message _ _ := message?_assembled_congr compatible (compatible.of_perm perm)
    fun _ _ => perm.mem_iff
  location _ _ := locate_assembled_congr compatible (compatible.of_perm perm)
    fun _ _ => perm.mem_iff
  closed _ _ _ _ _ _ _ _ := trivial

/-- Files agree with more files on the references that they write, if they declare them all. -/
theorem agreesOn_of_append {more : List File} (compatible : Compatible (files ++ more))
    (located : ∀ file ∈ files, ∀ ref, file.RefersTo ref →
      ∃ location, (assembled files).locate ref = .ok location) :
    (assembled files).AgreesOn (assembled (files ++ more))
      fun ref => ∃ file ∈ files, file.RefersTo ref := by
  have small := compatible.of_append
  -- Whatever declares such a reference among all files is the file that does so among the first.
  have shared (ref : String) (written : ∃ file ∈ files, file.RefersTo ref) (file : File)
      (declares : file.Declares (Name.qualified ref)) : file ∈ files ↔ file ∈ files ++ more := by
    obtain ⟨writer, writerMember, refers⟩ := written
    obtain ⟨owner, ownerMember, ownerDeclares⟩ :=
      (exists_locate_assembled_iff small).mp (located writer writerMember ref refers)
    constructor
    · intro member
      exact List.mem_append_left _ member
    · intro member
      exact compatible.eq_of_declares member declares (List.mem_append_left _ ownerMember)
        ownerDeclares ▸ ownerMember
  refine ⟨fun ref written => ?_, fun ref written => ?_, ?_⟩
  · exact message?_assembled_congr small compatible (shared ref written)
  · exact locate_assembled_congr small compatible (shared ref written)
  · intro ref written message found field ofMessage other typed
    obtain ⟨file, member, path, names, walk, -⟩ := messageAt_of_message?_eq_ok small.names found
    exact ⟨file, member, .field walk ofMessage typed⟩

end Registry

end RpcBindings
