/-
Module: RpcBindings.Proofs.Descriptor.RoundTrip
Purpose: Descriptions that are written as JSON are read back, up to the limit of nesting.
Main exports: Message.ofJson?_toJson, Message.levels_toJson_le, Descriptor.filesOfJson?_filesToJson
-/
import RpcBindings.Descriptor.Codec
import RpcBindings.Proofs.Json.Levels

namespace RpcBindings

open Json

/-!
What is written has every field, so that it may be nested deeper than what was read: where a reader
takes a default, the writer puts an array.  The arrays lie at odd depths and the records at even
ones.  As an odd number of levels is allowed, the deepest record that is read has one level left for
its arrays.
-/

/-! ### Records without lists -/

theorem Field.ofJson?_toJson {bound : Nat} {field : Field} (fits : field.toJson.levels ≤ bound) :
    Field.ofJson? bound field.toJson = some field := by
  obtain ⟨inner, rfl, -⟩ := Iff.mp levels_ofMembers_le_iff fits
  obtain ⟨name, kind, label, typeName⟩ := field
  have kinds : wordOf? FieldKind.ofWord? inner (.string (some kind.word)) = some kind :=
    FieldKind.ofWord?_word kind
  have labels : wordOf? Label.ofWord? inner (.string (some label.word)) = some label :=
    Label.ofWord?_word label
  cases typeName with
  | none =>
      rw [ofJson?, deeper, toJson, Record.ofJson?_ofMembers (by simp) (by simp)]
      simp [Record.required, Record.withDefault, Record.optionalText, List.lookup_cons, ofText,
        text?, kinds, labels]
  | some ref =>
      rw [ofJson?, deeper, toJson, Record.ofJson?_ofMembers (by simp) (by simp)]
      simp [Record.required, Record.withDefault, Record.optionalText, List.lookup_cons, ofText,
        text?, kinds, labels]

theorem EnumValue.ofJson?_toJson {bound : Nat} {value : EnumValue}
    (fits : value.toJson.levels ≤ bound) : EnumValue.ofJson? bound value.toJson = some value := by
  obtain ⟨inner, rfl, -⟩ := Iff.mp levels_ofMembers_le_iff fits
  rw [ofJson?, deeper, toJson, Record.ofJson?_ofMembers (by simp) (by simp)]
  simp [Record.required, List.lookup_cons, int32?_ofInt]

theorem Method.ofJson?_toJson {bound : Nat} {method : Method}
    (fits : method.toJson.levels ≤ bound) : Method.ofJson? bound method.toJson = some method := by
  obtain ⟨inner, rfl, -⟩ := Iff.mp levels_ofMembers_le_iff fits
  rw [ofJson?, deeper, toJson, Record.ofJson?_ofMembers (by simp) (by simp)]
  simp [Record.required, Record.withDefault, List.lookup_cons]

/-! ### Records with lists -/

theorem Enum.ofJson?_toJson {bound : Nat} {enum : Enum} (fits : enum.toJson.levels ≤ bound) :
    Enum.ofJson? bound enum.toJson = some enum := by
  obtain ⟨inner, rfl, members⟩ := Iff.mp levels_ofMembers_le_iff fits
  simp only [List.forall_mem_cons] at members
  have values := listOf?_array_map EnumValue.ofJson? members.2.1
    fun _ _ _ => EnumValue.ofJson?_toJson
  rw [ofJson?, deeper, toJson, Record.ofJson?_ofMembers (by simp) (by simp)]
  simp [Record.required, Record.withDefault, List.lookup_cons, values]

theorem Service.ofJson?_toJson {bound : Nat} {service : Service}
    (fits : service.toJson.levels ≤ bound) :
    Service.ofJson? bound service.toJson = some service := by
  obtain ⟨inner, rfl, members⟩ := Iff.mp levels_ofMembers_le_iff fits
  simp only [List.forall_mem_cons] at members
  have methods := listOf?_array_map Method.ofJson? members.2.1
    fun _ _ _ => Method.ofJson?_toJson
  rw [ofJson?, deeper, toJson, Record.ofJson?_ofMembers (by simp) (by simp)]
  simp [Record.required, Record.withDefault, List.lookup_cons, methods]

/-- The levels that a written message takes are those of its lists and one more. -/
theorem Message.levels_toJson_le_iff {message : Message} {bound : Nat} :
    message.toJson.levels ≤ bound ↔
      ∃ inner, bound = inner + 1 ∧
        (Json.array (message.fields.map Field.toJson)).levels ≤ inner ∧
        (Json.array (message.nested.map Message.toJson)).levels ≤ inner ∧
        (Json.array (message.enums.map Enum.toJson)).levels ≤ inner := by
  obtain ⟨name, fields, nested, enums, mapEntry⟩ := message
  rw [toJson, levels_ofMembers_le_iff]
  simp

/-- The messages inside a message are read like the message itself, two levels deeper. -/
theorem Message.ofJson?_toJson {bound : Nat} {message : Message}
    (fits : message.toJson.levels ≤ bound) :
    Message.ofJson? bound message.toJson = some message := by
  induction bound using Nat.strongRecOn generalizing message with
  | _ bound inductionHypothesis =>
      obtain ⟨inner, rfl, fieldsFit, nestedFit, enumsFit⟩ := Iff.mp levels_toJson_le_iff fits
      obtain ⟨levels, rfl, innerFit⟩ := Iff.mp levels_array_le_iff nestedFit
      have fields := listOf?_array_map Field.ofJson? fieldsFit
        fun _ _ _ => Field.ofJson?_toJson
      have enums := listOf?_array_map Enum.ofJson? enumsFit
        fun _ _ _ => Enum.ofJson?_toJson
      have nested : (message.nested.map Message.toJson).mapM (Message.ofJson? levels) =
          some message.nested := by
        rw [mapM_eq_some_iff, List.forall₂_map_left_iff, List.forall₂_same]
        intro other member
        exact inductionHypothesis levels (by omega) (innerFit _ (List.mem_map_of_mem member))
      obtain ⟨name, ownFields, ownNested, ownEnums, mapEntry⟩ := message
      rw [ofJson?, readWith, toJson, Record.ofJson?_ofMembers (by simp) (by simp)]
      simp [Record.required, Record.withDefault, List.lookup_cons, fields, enums, nested]

theorem File.ofJson?_toJson {bound : Nat} {file : File} (fits : file.toJson.levels ≤ bound) :
    File.ofJson? bound file.toJson = some file := by
  obtain ⟨inner, rfl, members⟩ := Iff.mp levels_ofMembers_le_iff fits
  simp only [List.forall_mem_cons, Message.listToJson_eq_map] at members
  obtain ⟨-, -, servicesFit, messagesFit, enumsFit, -⟩ := members
  have services := listOf?_array_map Service.ofJson? servicesFit
    fun _ _ _ => Service.ofJson?_toJson
  have messages := listOf?_array_map Message.ofJson? messagesFit
    fun _ _ _ => Message.ofJson?_toJson
  have enums := listOf?_array_map Enum.ofJson? enumsFit
    fun _ _ _ => Enum.ofJson?_toJson
  rw [ofJson?, deeper, toJson, Record.ofJson?_ofMembers (by simp) (by simp)]
  simp [Record.required, Record.withDefault, List.lookup_cons, services, messages, enums]

/-! ### Levels of what was read -/

theorem exists_of_deeper_eq_some {α : Type} {bound : Nat} {read : Nat → Option α} {value : α}
    (found : deeper bound read = some value) :
    ∃ inner, bound = inner + 1 ∧ read inner = some value := by
  cases bound with
  | zero => cases found
  | succ inner => exact ⟨inner, rfl, found⟩

theorem Field.levels_toJson_le {bound : Nat} {json : Json} {field : Field}
    (found : Field.ofJson? bound json = some field) : field.toJson.levels ≤ bound := by
  obtain ⟨inner, rfl, -⟩ := exists_of_deeper_eq_some found
  refine Iff.mpr levels_ofMembers_le_iff ⟨inner, rfl, ?_⟩
  cases field.typeName with
  | none => simp
  | some ref => simp

theorem EnumValue.levels_toJson_le {bound : Nat} {json : Json} {value : EnumValue}
    (found : EnumValue.ofJson? bound json = some value) : value.toJson.levels ≤ bound := by
  obtain ⟨inner, rfl, -⟩ := exists_of_deeper_eq_some found
  exact Iff.mpr levels_ofMembers_le_iff ⟨inner, rfl, by simp⟩

theorem Method.levels_toJson_le {bound : Nat} {json : Json} {method : Method}
    (found : Method.ofJson? bound json = some method) : method.toJson.levels ≤ bound := by
  obtain ⟨inner, rfl, -⟩ := exists_of_deeper_eq_some found
  exact Iff.mpr levels_ofMembers_le_iff ⟨inner, rfl, by simp⟩

/-- A record that is read where the number of levels is even has one left for its lists. -/
theorem exists_of_even {pairs inner : Nat} (even : 2 * pairs = inner + 1) :
    ∃ fewer, pairs = fewer + 1 ∧ inner = 2 * fewer + 1 :=
  ⟨pairs - 1, by omega, by omega⟩

theorem Enum.levels_toJson_le {pairs : Nat} {json : Json} {enum : Enum}
    (found : Enum.ofJson? (2 * pairs) json = some enum) : enum.toJson.levels ≤ 2 * pairs := by
  obtain ⟨inner, even, read⟩ := exists_of_deeper_eq_some found
  obtain ⟨fewer, rfl, rfl⟩ := exists_of_even even
  simp only [Option.bind_eq_bind, Option.bind_eq_some_iff] at read
  obtain ⟨record, -, name, -, values, valuesRead, same⟩ := read
  obtain rfl := Option.some.inj same
  have valuesFit := Record.levels_list_le valuesRead fun _ _ => EnumValue.levels_toJson_le
  exact Iff.mpr levels_ofMembers_le_iff ⟨_, even, by simpa using valuesFit⟩

theorem Service.levels_toJson_le {pairs : Nat} {json : Json} {service : Service}
    (found : Service.ofJson? (2 * pairs) json = some service) :
    service.toJson.levels ≤ 2 * pairs := by
  obtain ⟨inner, even, read⟩ := exists_of_deeper_eq_some found
  obtain ⟨fewer, rfl, rfl⟩ := exists_of_even even
  simp only [Option.bind_eq_bind, Option.bind_eq_some_iff] at read
  obtain ⟨record, -, name, -, methods, methodsRead, same⟩ := read
  obtain rfl := Option.some.inj same
  have methodsFit := Record.levels_list_le methodsRead fun _ _ => Method.levels_toJson_le
  exact Iff.mpr levels_ofMembers_le_iff ⟨_, even, by simpa using methodsFit⟩

/-- The messages inside a message are read as a list, where a level is left for it. -/
theorem Message.ofJson?_eq_readWith (bound : Nat) (json : Json) :
    Message.ofJson? (bound + 2) json =
      Message.readWith (listOf? Message.ofJson? (bound + 1)) (bound + 1) json := by
  rw [ofJson?]
  congr 1

/-- A message that was read takes no more levels when it is written.  The induction goes down by
two levels, which are those of a message and of the array around it. -/
theorem Message.levels_toJson_le {pairs : Nat} {json : Json} {message : Message}
    (found : Message.ofJson? (2 * pairs) json = some message) :
    message.toJson.levels ≤ 2 * pairs := by
  induction pairs generalizing json message with
  | zero => cases found
  | succ fewer inductionHypothesis =>
      rw [Nat.mul_succ, ofJson?_eq_readWith, readWith] at found
      simp only [Option.bind_eq_bind, Option.bind_eq_some_iff] at found
      obtain ⟨record, -, name, -, fields, fieldsRead, nested, nestedRead, enums, enumsRead,
        mapEntry, -, same⟩ := found
      obtain rfl := Option.some.inj same
      exact Iff.mpr levels_toJson_le_iff ⟨_, rfl,
        Record.levels_list_le fieldsRead fun _ _ => Field.levels_toJson_le,
        Record.levels_list_le nestedRead fun _ _ => inductionHypothesis,
        Record.levels_list_le enumsRead fun _ _ => Enum.levels_toJson_le⟩

theorem File.levels_toJson_le (pairs : Nat) {json : Json} {file : File}
    (found : File.ofJson? (2 * pairs) json = some file) : file.toJson.levels ≤ 2 * pairs := by
  obtain ⟨inner, even, read⟩ := exists_of_deeper_eq_some found
  obtain ⟨fewer, rfl, rfl⟩ := exists_of_even even
  simp only [Option.bind_eq_bind, Option.bind_eq_some_iff] at read
  obtain ⟨record, -, name, -, package, -, services, servicesRead, messages, messagesRead, enums,
    enumsRead, same⟩ := read
  obtain rfl := Option.some.inj same
  have servicesFit := Record.levels_list_le servicesRead fun _ _ => Service.levels_toJson_le
  have messagesFit := Record.levels_list_le messagesRead fun _ _ => Message.levels_toJson_le
  have enumsFit := Record.levels_list_le enumsRead fun _ _ => Enum.levels_toJson_le
  refine Iff.mpr levels_ofMembers_le_iff ⟨_, even, ?_⟩
  simpa using ⟨servicesFit, messagesFit, enumsFit⟩

/-! ### Files -/

namespace Descriptor

theorem filesOfJson?_of_levels_le {files : List File}
    (fits : (filesToJson files).levels ≤ depthLimit) :
    filesOfJson? (filesToJson files) = some files :=
  listOf?_array_map File.ofJson? fits fun _ _ _ => File.ofJson?_toJson

/-- The limit is odd: the array of the files takes one level, and each file an even number. -/
theorem levels_filesToJson_le {json : Json} {files : List File}
    (found : filesOfJson? json = some files) : (filesToJson files).levels ≤ depthLimit :=
  levels_le_of_listOf? found fun _ _ => File.levels_toJson_le 63

/-- Files that are written are read back if and only if they stay within the limit of nesting, and
files that were read stay within it when they are written with every field. -/
theorem filesOfJson?_filesToJson :
    (∀ files, filesOfJson? (filesToJson files) = some files ↔
      (filesToJson files).levels ≤ depthLimit) ∧
    ∀ json files, filesOfJson? json = some files →
      (filesToJson files).levels ≤ depthLimit ∧
        filesOfJson? (filesToJson files) = some files := by
  constructor
  · intro files
    exact ⟨levels_filesToJson_le, filesOfJson?_of_levels_le⟩
  · intro json files found
    have fits := levels_filesToJson_le found
    exact ⟨fits, filesOfJson?_of_levels_le fits⟩

/-- Messages that lie one in the other, written without the fields that have a default. -/
def chainJson : Nat → Json
  | 0 => ofMembers [("name", ofText "Link")]
  | depth + 1 => ofMembers [("name", ofText "Link"), ("nested", .array [chainJson depth])]

/-- A file that is written as an array of its fields, around messages that lie one in the other. -/
def chainFilesJson (depth : Nat) : Json :=
  .array [.array [ofText "chain.proto", ofText "", .array [], .array [chainJson depth]]]

set_option maxRecDepth 4000 in
/-- The deepest messages that are read take the last level when their lists are written, and one
more message is too deep. -/
theorem filesOfJson?_filesToJson_chainFiles :
    filesOfJson? (chainFilesJson 62) = none ∧
      ∃ files, filesOfJson? (chainFilesJson 61) = some files ∧
        (chainFilesJson 61).levels + 1 = depthLimit ∧
        (filesToJson files).levels = depthLimit ∧
        filesOfJson? (filesToJson files) = some files := by
  refine ⟨rfl, _, rfl, rfl, rfl, ?_⟩
  exact (filesOfJson?_filesToJson.2 (chainFilesJson 61) _ rfl).2

end Descriptor

end RpcBindings
