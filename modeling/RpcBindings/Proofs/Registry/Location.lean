/-
Module: RpcBindings.Proofs.Registry.Location
Purpose: Where the type that a reference means is declared, and under which name in its package.
Main exports: Location.fullName, DeclaredAt, Compatible.eq_of_declares,
  Registry.locate_assembled_eq_ok_iff, Registry.exists_locate_assembled_iff,
  Registry.Resolves.exists_locate
-/
import RpcBindings.Proofs.Generation.Outcome

namespace RpcBindings

/-!
A type is filed under the reference that its file spells for it: the scope of the file, a dot, and
the name inside the package.  A location undoes this, so it is settled by the file that declares the
reference; files that are loaded together share no reference, so there is one such file.
-/

/-! ### References and names inside a package -/

namespace Name

/-- The reference without its dot in front is what follows the dot of the filed form. -/
theorem qualified_eq (ref : String) : qualified ref = "." ++ withoutLeadingDot ref := by
  unfold qualified withoutLeadingDot
  split
  · next rest dotted => simp [← String.toList_inj, dotted]
  · rfl

theorem withoutLeadingDot_qualified (ref : String) :
    withoutLeadingDot (qualified ref) = withoutLeadingDot ref := by
  rw [qualified_eq]
  simp [withoutLeadingDot]

/-- A dot in front comes before the last dot, or is it. -/
theorem lastSegment_qualified (ref : String) : lastSegment (qualified ref) = lastSegment ref := by
  unfold qualified
  split
  · rfl
  · have reversed : ("." ++ ref).toList.reverse = ref.toList.reverse ++ ['.'] := by simp
    rw [lastSegment, lastSegment, reversed, List.takeWhile_append]
    split
    · next whole =>
      have none := (List.takeWhile_prefix _).eq_of_length whole
      rw [none, List.takeWhile_cons_of_neg (by decide), List.append_nil]
    · rfl

theorem localName?_eq_some_iff {package ref name : String} :
    localName? package ref = some name ↔ ref = member (packagePrefix package) name := by
  simp only [localName?, Option.map_eq_some_iff, List.isPrefixOf?_eq_some_iff_append_eq, member,
    ← String.toList_inj, String.toList_append]
  constructor
  · intro split
    rcases split with ⟨rest, split, same⟩
    rw [String.toList_ofList] at same
    rw [← same, ← split]
  · intro spelled
    exact ⟨name.toList, spelled.symm, by rw [String.ofList_toList]⟩

end Name

/-- A type's name with its package, as references have it behind the dot in front. -/
def Location.fullName (location : Location) : String :=
  if location.file.package = "" then location.localName
  else location.file.package ++ "." ++ location.localName

/-- Where the type that a reference means is declared among some files: in a file that declares the
reference, under the name that completes the file's scope to it. -/
structure DeclaredAt (files : List File) (ref : String) (location : Location) : Prop where
  member : location.file ∈ files
  declared : location.file.Declares (Name.qualified ref)
  spelled : Name.qualified ref = Name.member location.file.scope location.localName

/-- A reference is written as the full name of the type that it means, with or without a dot. -/
theorem DeclaredAt.withoutLeadingDot_eq {files : List File} {location : Location} {ref : String}
    (found : DeclaredAt files ref location) :
    Name.withoutLeadingDot ref = location.fullName := by
  have spelled := found.spelled
  rw [Name.qualified_eq, Name.member, File.scope, Name.packagePrefix] at spelled
  unfold Location.fullName
  by_cases unnamed : location.file.package = ""
  · rw [if_pos unnamed] at spelled ⊢
    simpa [← String.toList_inj] using spelled
  · rw [if_neg unnamed] at spelled ⊢
    simpa [← String.toList_inj] using spelled

/-! ### Declared references -/

namespace File

theorem refOf_cons (file : File) (name : String) (names : List String) :
    file.refOf (name :: names) =
      Name.member file.scope (name ++ String.join (names.map fun name => "." ++ name)) := by
  simp [refOf, Name.below, Name.member, String.join_cons, String.append_assoc]

/-- What a file declares has a name in the file's package. -/
theorem Declares.exists_localName {file : File} {ref : String} (declared : file.Declares ref) :
    ∃ name, ref = Name.member file.scope name := by
  have named (first : String) (rest : List String) :
      ∃ name, file.refOf (first :: rest) = Name.member file.scope name :=
    ⟨_, file.refOf_cons first rest⟩
  cases declared with
  | message walk =>
      cases walk with
      | here found => exact named _ _
      | inside found rest => exact named _ _
  | enum member => exact named _ _
  | nestedEnum walk member =>
      cases walk with
      | here found => exact named _ _
      | inside found rest => exact named _ _

end File

/-- Of files that can be loaded together only one declares a reference. -/
theorem Compatible.eq_of_declares {files : List File} (compatible : Compatible files)
    {file other : File} {ref : String} (member : file ∈ files) (declared : file.Declares ref)
    (otherMember : other ∈ files) (otherDeclared : other.Declares ref) : file = other :=
  eq_of_pairwise_declares compatible.refs member declared otherMember otherDeclared

namespace Registry

variable {files : List File} {ref : String}

/-! ### Locations -/

/-- A type is filed with the name of a file that declares it. -/
theorem fileNameOf?_assembled {fileName : String}
    (filed : (assembled files).fileNameOf? ref = some fileName) :
    ∃ file ∈ files, file.name = fileName ∧ file.Declares ref := by
  unfold fileNameOf? at filed
  split at filed
  · next entry found =>
    obtain ⟨file, member, named, names, message, walk, rfl⟩ :=
      mem_messages_assembled_iff.mp (Table.mem_of_lookup found)
    exact ⟨file, member, named.symm.trans (Option.some.inj filed), .message walk⟩
  · obtain ⟨file, member, collected⟩ := by
      simpa [assembled, enumEntries] using Table.mem_of_lookup filed
    exact ⟨file, member, collected.2,
      File.mem_declaredRefs_iff.mp (List.mem_append_right _ collected.1)⟩

theorem isSome_fileNameOf? (registry : Registry) (ref : String) :
    (registry.fileNameOf? ref).isSome = registry.declares ref := by
  unfold fileNameOf? declares
  cases registry.messages.lookup ref with
  | none => simp
  | some entry => simp

/-- A reference is located where it is declared. -/
theorem locate_assembled_eq_ok_iff (compatible : Compatible files) {location : Location} :
    (assembled files).locate ref = .ok location ↔ DeclaredAt files ref location := by
  constructor
  · intro located
    unfold locate at located
    split at located
    · cases located
    · next fileName filed =>
      obtain ⟨file, member, rfl, declared⟩ := fileNameOf?_assembled filed
      rw [fileNamed?_assembled compatible.names member] at located
      simp only at located
      split at located
      · cases located
      · next localName spelled =>
        cases located
        exact ⟨member, declared, Name.localName?_eq_some_iff.mp spelled⟩
  · intro found
    rcases found with ⟨member, declared, spelled⟩
    have filed : ((assembled files).fileNameOf? (Name.qualified ref)).isSome := by
      rw [isSome_fileNameOf?, declares_assembled_iff]
      exact ⟨location.file, member, declared⟩
    obtain ⟨fileName, filed⟩ := Option.isSome_iff_exists.mp filed
    obtain ⟨other, otherMember, rfl, otherDeclared⟩ := fileNameOf?_assembled filed
    obtain rfl := compatible.eq_of_declares member declared otherMember otherDeclared
    have named := Name.localName?_eq_some_iff.mpr spelled
    simp only [locate, filed, fileNamed?_assembled compatible.names member, named]

/-- The references that are located are those that some file declares. -/
theorem exists_locate_assembled_iff (compatible : Compatible files) :
    (∃ location, (assembled files).locate ref = .ok location) ↔
      ∃ file ∈ files, file.Declares (Name.qualified ref) := by
  constructor
  · intro located
    obtain ⟨location, located⟩ := located
    have found := (locate_assembled_eq_ok_iff compatible).mp located
    exact ⟨location.file, found.member, found.declared⟩
  · intro declared
    obtain ⟨file, member, declared⟩ := declared
    obtain ⟨localName, spelled⟩ := declared.exists_localName
    exact ⟨⟨file, localName⟩, (locate_assembled_eq_ok_iff compatible).mpr
      ⟨member, declared, spelled⟩⟩

/-- What is found as a message is located too. -/
theorem Resolves.exists_locate (compatible : Compatible files)
    (resolves : (assembled files).Resolves ref) :
    ∃ location, (assembled files).locate ref = .ok location := by
  obtain ⟨message, found⟩ := resolves
  obtain ⟨file, member, path, names, walk, reached⟩ :=
    messageAt_of_message?_eq_ok compatible.names found
  exact (exists_locate_assembled_iff compatible).mpr ⟨file, member, reached ▸ .message walk⟩

end Registry

end RpcBindings
