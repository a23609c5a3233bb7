/-
Module: RpcBindings.Proofs.Registry.Lookup
Purpose: What a lookup finds is what a walk through the declarations reaches.
Main exports: MessageAt, Registry.mem_messages_assembled_iff, Registry.lookup_leads,
  Registry.message?_outcome
-/
import Mathlib.Data.List.Flatten
import RpcBindings.Proofs.Registry.Loading
import RpcBindings.Proofs.Table

namespace RpcBindings

/-- Some file declares the message, and spells its reference so. -/
def MessageAt (files : List File) (ref : String) (message : Message) : Prop :=
  ∃ file ∈ files, ∃ path names, Walk file.messages path names message ∧ file.refOf names = ref

namespace Registry

/-! ### The tables of some files -/

theorem fileNamed?_assembled {files : List File} {file : File}
    (names : (files.map File.name).Nodup) (member : file ∈ files) :
    (assembled files).fileNamed? file.name = some file :=
  Table.find?_of_mem names member

/-- Every entry of the table of messages is made from a declaration: its file is one of those that
were loaded, and its index path walks to a message with that reference. -/
theorem mem_messages_assembled_iff {files : List File} {ref : String} {entry : MessageEntry} :
    (ref, entry) ∈ (assembled files).messages ↔
      ∃ file ∈ files, entry.file = file.name ∧
        ∃ names message, Walk file.messages entry.path names message ∧ file.refOf names = ref := by
  simp only [assembled, List.mem_reverse, List.mem_flatMap, messageEntries, List.mem_map]
  constructor
  · intro filed
    rcases filed with ⟨file, member, ⟨_, path⟩, collected, same⟩
    obtain ⟨rfl, rfl⟩ := Prod.mk.inj same
    obtain ⟨names, message, walk, rfl⟩ := File.mem_declaredMessages_iff.mp collected
    exact ⟨file, member, rfl, names, message, walk, rfl⟩
  · intro declared
    rcases declared with ⟨file, member, fileName, names, message, walk, rfl⟩
    refine ⟨file, member, (file.refOf names, entry.path), ?_, ?_⟩
    · exact File.mem_declaredMessages_iff.mpr ⟨names, message, walk, rfl⟩
    · rw [← fileName]

/-- Where references are distinct, no key of the table of messages occurs twice. -/
theorem nodup_keys_messages_assembled {files : List File}
    (distinct : (files.flatMap File.declaredRefs).Nodup) :
    ((assembled files).messages.map Prod.fst).Nodup := by
  have keys : (assembled files).messages.map Prod.fst =
      (files.flatMap fun file => file.declaredMessages.map Prod.fst).reverse := by
    simp [assembled, List.map_flatMap, messageEntries, Function.comp_def]
  rw [keys, List.nodup_reverse]
  refine distinct.sublist (List.Sublist.flatMap_right files ?_)
  intro file member
  exact List.sublist_append_left _ _

/-! ### Lookups -/

/-- An entry that is filed leads to a message: its file is known, and its index path stays inside
the declarations. -/
theorem lookup_leads {files : List File} {ref : String} {entry : MessageEntry}
    (names : (files.map File.name).Nodup)
    (filed : (assembled files).messages.lookup ref = some entry) :
    ∃ file message, (assembled files).fileNamed? entry.file = some file ∧ entry.path ≠ [] ∧
      file.messageAt? entry.path = some message ∧ MessageAt files ref message := by
  obtain ⟨file, member, fileName, on, message, walk, spelled⟩ :=
    mem_messages_assembled_iff.mp (Table.mem_of_lookup filed)
  refine ⟨file, message, ?_, walk.path_ne_nil, walk.messageAt?, ?_⟩
  · rw [fileName]
    exact fileNamed?_assembled names member
  · exact ⟨file, member, entry.path, on, walk, spelled⟩

/-- A message is filed under no other reference than its own. -/
theorem lookup_injective {files : List File} {ref other : String} {entry : MessageEntry}
    (names : (files.map File.name).Nodup)
    (filed : (assembled files).messages.lookup ref = some entry)
    (alsoFiled : (assembled files).messages.lookup other = some entry) : ref = other := by
  obtain ⟨file, member, fileName, on, message, walk, rfl⟩ :=
    mem_messages_assembled_iff.mp (Table.mem_of_lookup filed)
  obtain ⟨otherFile, otherMember, otherName, otherOn, otherMessage, otherWalk, rfl⟩ :=
    mem_messages_assembled_iff.mp (Table.mem_of_lookup alsoFiled)
  have found := fileNamed?_assembled names member
  rw [← fileName, otherName, fileNamed?_assembled names otherMember] at found
  cases found
  rw [walk.names_eq otherWalk]

/-- A reference under which an entry is filed means the message to which the entry leads. -/
theorem message?_eq_ok {registry : Registry} {ref : String} {entry : MessageEntry} {file : File}
    {message : Message}
    (filed : registry.messages.lookup (Name.qualified ref) = some entry)
    (known : registry.fileNamed? entry.file = some file)
    (leads : file.messageAt? entry.path = some message) :
    registry.message? ref = .ok message := by
  simp [message?, filed, known, leads]

/-- A lookup that fails reports the reference as it was written. -/
theorem message?_eq_error {registry : Registry} {ref : String} {error : LookupError}
    (fails : registry.message? ref = .error error) : error = .messageNotFound ref := by
  unfold message? at fails
  split at fails
  · exact (Except.error.inj fails).symm
  · split at fails
    · exact (Except.error.inj fails).symm
    · split at fails
      · exact (Except.error.inj fails).symm
      · cases fails

/-- What is found as a message is declared as one. -/
theorem messageAt_of_message?_eq_ok {files : List File} {ref : String} {message : Message}
    (names : (files.map File.name).Nodup)
    (found : (assembled files).message? ref = .ok message) :
    MessageAt files (Name.qualified ref) message := by
  cases filed : (assembled files).messages.lookup (Name.qualified ref) with
  | none => simp [message?, filed] at found
  | some entry =>
      obtain ⟨file, other, known, -, leads, reached⟩ := lookup_leads names filed
      rw [message?_eq_ok filed known leads] at found
      cases found
      exact reached

/-- Where references are distinct, a lookup finds what a walk reaches, and nothing else. -/
theorem message?_assembled_eq_ok_iff {files : List File} {ref : String} {message : Message}
    (names : (files.map File.name).Nodup) (distinct : (files.flatMap File.declaredRefs).Nodup) :
    (assembled files).message? ref = .ok message ↔
      MessageAt files (Name.qualified ref) message := by
  constructor
  · intro found
    exact messageAt_of_message?_eq_ok names found
  · intro reached
    rcases reached with ⟨file, member, path, on, walk, spelled⟩
    have filed : (assembled files).messages.lookup (Name.qualified ref) = some ⟨file.name, path⟩ :=
      Table.lookup_of_mem (nodup_keys_messages_assembled distinct)
        (mem_messages_assembled_iff.mpr ⟨file, member, rfl, on, message, walk, spelled⟩)
    exact message?_eq_ok filed (fileNamed?_assembled names member) walk.messageAt?

/-- Where references are distinct, one file declares a reference. -/
theorem eq_of_mem_declaredRefs {files : List File} {file other : File} {ref : String}
    (distinct : (files.flatMap File.declaredRefs).Nodup)
    (member : file ∈ files) (declared : ref ∈ file.declaredRefs)
    (otherMember : other ∈ files) (otherDeclared : ref ∈ other.declaredRefs) : file = other := by
  have apart := (List.nodup_flatMap.mp distinct).2
  rw [disjoint_declaredRefs_eq] at apart
  exact eq_of_pairwise_declares apart member (File.mem_declaredRefs_iff.mp declared) otherMember
    (File.mem_declaredRefs_iff.mp otherDeclared)

/-- Where references are distinct, the names on a walk settle the message that it reaches. -/
theorem eq_of_walk_names {file : File} (distinct : file.declaredRefs.Nodup) {path other : List Nat}
    {names : List String} {message found : Message} (walk : Walk file.messages path names message)
    (otherWalk : Walk file.messages other names found) : message = found := by
  have keys : (file.declaredMessages.map Prod.fst).Nodup := (List.nodup_append.mp distinct).1
  have collected := File.mem_declaredMessages_iff.mpr ⟨_, _, walk, rfl⟩
  have otherCollected := File.mem_declaredMessages_iff.mpr ⟨_, _, otherWalk, rfl⟩
  have same := List.inj_on_of_nodup_map keys collected otherCollected rfl
  obtain rfl : path = other := congrArg Prod.snd same
  exact Option.some.inj (walk.messageAt?.symm.trans otherWalk.messageAt?)

/-- Where references are distinct, that of an enum is not that of a message. -/
theorem not_messageAt_of_mem_declaredEnums {files : List File} {file : File} {ref : String}
    {message : Message} (distinct : (files.flatMap File.declaredRefs).Nodup)
    (member : file ∈ files) (collected : ref ∈ file.declaredEnums) :
    ¬ MessageAt files ref message := by
  intro reached
  rcases reached with ⟨other, otherMember, path, on, walk, rfl⟩
  have messageCollected : other.refOf on ∈ other.declaredMessages.map Prod.fst :=
    List.mem_map.mpr ⟨_, File.mem_declaredMessages_iff.mpr ⟨on, message, walk, rfl⟩, rfl⟩
  obtain rfl := eq_of_mem_declaredRefs distinct member (List.mem_append_right _ collected)
    otherMember (List.mem_append_left _ messageCollected)
  exact List.disjoint_of_nodup_append ((List.nodup_flatMap.mp distinct).1 file member)
    messageCollected collected

/-- Once files with distinct references are loaded, a lookup with or without the dot in front finds
exactly the message that a walk reaches under that reference.  In every other case, references of
enums included, it fails with the reference as it was written.  No entry that is found under a
reference leads astray: its file is known, and its index path ends at a message. -/
theorem message?_outcome {files : List File} {registry : Registry}
    (loaded : ofFiles files = .ok registry)
    (distinct : (files.flatMap File.declaredRefs).Nodup) (ref : String) :
    (∀ message, registry.message? ref = .ok message ↔
      MessageAt files (Name.qualified ref) message) ∧
    (∀ error, registry.message? ref = .error error ↔
      error = .messageNotFound ref ∧ ∀ message, ¬ MessageAt files (Name.qualified ref) message) ∧
    (∀ file ∈ files, Name.qualified ref ∈ file.declaredEnums →
      registry.message? ref = .error (.messageNotFound ref)) ∧
    ∀ entry, registry.messages.lookup (Name.qualified ref) = some entry →
      ∃ file message, registry.fileNamed? entry.file = some file ∧ entry.path ≠ [] ∧
        file.messageAt? entry.path = some message ∧
        MessageAt files (Name.qualified ref) message := by
  obtain ⟨compatible, rfl⟩ := ofFiles_eq_ok_iff.mp loaded
  have names := compatible.names
  have error_iff : ∀ error, (assembled files).message? ref = .error error ↔
      error = .messageNotFound ref ∧
        ∀ message, ¬ MessageAt files (Name.qualified ref) message := by
    intro error
    constructor
    · intro fails
      refine ⟨message?_eq_error fails, ?_⟩
      intro message reached
      rw [(message?_assembled_eq_ok_iff names distinct).mpr reached] at fails
      cases fails
    · intro absent
      rcases absent with ⟨rfl, unreached⟩
      cases outcome : (assembled files).message? ref with
      | error error => rw [message?_eq_error outcome]
      | ok message =>
          exact absurd ((message?_assembled_eq_ok_iff names distinct).mp outcome)
            (unreached message)
  refine ⟨?_, error_iff, ?_, ?_⟩
  · intro message
    exact message?_assembled_eq_ok_iff names distinct
  · intro file member collected
    exact (error_iff _).mpr
      ⟨rfl, fun message => not_messageAt_of_mem_declaredEnums distinct member collected⟩
  · intro entry filed
    exact lookup_leads names filed

def innerSample : Message :=
  { name := "Meta", fields := [{ name := "tag", kind := .string }] }

def outerSample : Message :=
  { name := "Point", nested := [innerSample], enums := [{ name := "Kind" }] }

def nestingSamples : List File :=
  [{ name := "bare.proto", messages := [{ name := "Empty" }] },
   { name := "geo.proto", package := "geo", messages := [{ name := "Line" }, outerSample] }]

/-- A message inside another one is found, also without the dot in front; the enum beside it is no
message. -/
theorem message?_nestingSamples :
    ofFiles nestingSamples = .ok (assembled nestingSamples) ∧
      (nestingSamples.flatMap File.declaredRefs).Nodup ∧
      (assembled nestingSamples).message? "geo.Point.Meta" = .ok innerSample ∧
      (assembled nestingSamples).message? ".geo.Point.Kind" =
        .error (.messageNotFound ".geo.Point.Kind") := by
  have loaded : ofFiles nestingSamples = .ok (assembled nestingSamples) := rfl
  have distinct : (nestingSamples.flatMap File.declaredRefs).Nodup := by decide
  refine ⟨loaded, distinct, ?_, ?_⟩
  · have walk : Walk [{ name := "Line" }, outerSample] [1, 0] [outerSample.name, innerSample.name]
        innerSample := .inside rfl (.here rfl)
    exact ((message?_outcome loaded distinct "geo.Point.Meta").1 innerSample).mpr
      ⟨_, List.mem_cons_of_mem _ (List.mem_singleton_self _), [1, 0], _, walk, by decide⟩
  · exact (message?_outcome loaded distinct ".geo.Point.Kind").2.2.1 _
      (List.mem_cons_of_mem _ (List.mem_singleton_self _)) (by decide)

end Registry

end RpcBindings
