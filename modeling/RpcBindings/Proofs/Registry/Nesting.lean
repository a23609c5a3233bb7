/-
Module: RpcBindings.Proofs.Registry.Nesting
Purpose: A type that is located is declared in its file at the path that its local name spells.
Main exports: File.DeclaresAt, File.declares_iff, DeclaredAt.localName_eq, Registry.locate_outcome
-/
import RpcBindings.Proofs.Layout.Rendering
import RpcBindings.Proofs.Registry.Agreement

namespace RpcBindings

/-!
The segments of a reference are those of a package, then the messages around a type, then the type
itself, and nothing in the reference tells where the package ends: one package may begin with
another one, or with the reference of a message.  A location tells it, as it comes with the file.
-/

/-! ### Nesting paths -/

/-- What a file declares, at any depth, by its nesting path: the names of the messages around it,
from the outermost one, and its own name. -/
inductive File.DeclaresAt (file : File) : List String → Prop where
  | message {path : List Nat} {names : List String} {message : Message}
      (walk : Walk file.messages path names message) :
      File.DeclaresAt file names
  | enum {enum : Enum} (member : enum ∈ file.enums) :
      File.DeclaresAt file [enum.name]
  | nestedEnum {path : List Nat} {names : List String} {message : Message} {enum : Enum}
      (walk : Walk file.messages path names message) (member : enum ∈ message.enums) :
      File.DeclaresAt file (names ++ [enum.name])

/-- A nesting path as one name. -/
def Name.dotted (names : List String) : String :=
  ".".intercalate names

theorem Name.dotted_cons (name : String) (names : List String) :
    dotted (name :: names) = name ++ String.join (names.map fun inner => "." ++ inner) :=
  Layout.intercalate_cons "." name names

theorem Name.member_inj {scope name other : String} :
    member scope name = member scope other ↔ name = other := by
  simp [member, ← String.toList_inj]

theorem Walk.names_ne_nil {messages : List Message} {path : List Nat} {names : List String}
    {message : Message} (walk : Walk messages path names message) : names ≠ [] := by
  cases walk <;> simp

namespace File

variable {file : File} {ref : String} {names : List String}

theorem DeclaresAt.ne_nil (declared : file.DeclaresAt names) : names ≠ [] := by
  cases declared with
  | message walk => exact walk.names_ne_nil
  | enum member => exact List.cons_ne_nil _ _
  | nestedEnum walk member => simp

/-- A reference is spelled from the package of a file and from a path in it. -/
theorem refOf_eq_member (some : names ≠ []) :
    file.refOf names = Name.member file.scope (Name.dotted names) := by
  obtain ⟨name, names, rfl⟩ := List.exists_cons_of_ne_nil some
  rw [refOf_cons, Name.dotted_cons]

/-- The references that a file declares are those of its nesting paths. -/
theorem declares_iff :
    file.Declares ref ↔ ∃ names, file.DeclaresAt names ∧ file.refOf names = ref := by
  constructor
  · intro declared
    cases declared with
    | message walk => exact ⟨_, .message walk, rfl⟩
    | enum member => exact ⟨_, .enum member, rfl⟩
    | nestedEnum walk member => exact ⟨_, .nestedEnum walk member, rfl⟩
  · intro declared
    obtain ⟨names, declared, rfl⟩ := declared
    cases declared with
    | message walk => exact .message walk
    | enum member => exact .enum member
    | nestedEnum walk member => exact .nestedEnum walk member

end File

/-- The local name of a type is its nesting path: whatever path of the file has the reference, the
local name spells it. -/
theorem DeclaredAt.localName_eq {files : List File} {ref : String} {location : Location}
    (found : DeclaredAt files ref location) {names : List String} (some : names ≠ [])
    (spelled : location.file.refOf names = Name.qualified ref) :
    location.localName = Name.dotted names := by
  rw [File.refOf_eq_member some, found.spelled, Name.member_inj] at spelled
  exact spelled.symm

namespace Registry

variable {files : List File} {ref : String}

/-- The entry that is found under a reference leads to a file, and the reference begins with the
prefix of that file's package. -/
theorem fileNameOf?_leads (compatible : Compatible files) {fileName : String}
    (filed : (assembled files).fileNameOf? ref = some fileName) :
    ∃ file localName, (assembled files).fileNamed? fileName = some file ∧
      Name.localName? file.package ref = some localName := by
  obtain ⟨file, member, rfl, declared⟩ := fileNameOf?_assembled filed
  obtain ⟨localName, spelled⟩ := declared.exists_localName
  exact ⟨file, localName, fileNamed?_assembled compatible.names member,
    Name.localName?_eq_some_iff.mpr spelled⟩

/-- A reference that is not located is one that no file declares, and it is reported as it was
written. -/
theorem locate_assembled_eq_error_iff (compatible : Compatible files) {error : LookupError} :
    (assembled files).locate ref = .error error ↔
      error = .typeNotFound ref ∧ ∀ file ∈ files, ¬ file.Declares (Name.qualified ref) := by
  have located : (∃ location, (assembled files).locate ref = .ok location) ↔
      ∃ file ∈ files, file.Declares (Name.qualified ref) := exists_locate_assembled_iff compatible
  constructor
  · intro fails
    refine ⟨locate_eq_error fails, fun file member declared => ?_⟩
    obtain ⟨location, found⟩ := located.mpr ⟨file, member, declared⟩
    rw [fails] at found
    cases found
  · intro undeclared
    obtain ⟨rfl, undeclared⟩ := undeclared
    cases outcome : (assembled files).locate ref with
    | error error => rw [locate_eq_error outcome]
    | ok location =>
        obtain ⟨file, member, declared⟩ := located.mp ⟨location, outcome⟩
        exact absurd declared (undeclared file member)

/-- What is found as a message is located, in the file and at the path where it is declared. -/
theorem exists_locate_of_message?_eq_ok (compatible : Compatible files) {message : Message}
    (found : (assembled files).message? ref = .ok message) :
    ∃ location path names, (assembled files).locate ref = .ok location ∧
      Walk location.file.messages path names message ∧
      location.localName = Name.dotted names := by
  obtain ⟨file, member, path, names, walk, spelled⟩ :=
    messageAt_of_message?_eq_ok compatible.names found
  have located : DeclaredAt files ref ⟨file, Name.dotted names⟩ :=
    { member
      declared := spelled ▸ .message walk
      spelled := spelled ▸ File.refOf_eq_member walk.names_ne_nil }
  exact ⟨_, path, names, (locate_assembled_eq_ok_iff compatible).mpr located, walk, rfl⟩

/-- Once files are loaded, a reference is located exactly when some file declares a message or an
enum with that reference, the dot in front being put there if it is missing.  The location is that
file with the name that completes its package to the reference, and this name is the nesting path of
the type.  What is found as a message is located too, in a file that has the message at that path.
Every other reference is reported as it was written; an entry that is found under a reference never
leads to an unknown file or to one of another package. -/
theorem locate_outcome {registry : Registry} (loaded : ofFiles files = .ok registry)
    (ref : String) :
    ((∃ location, registry.locate ref = .ok location) ↔
      ∃ file ∈ files, file.Declares (Name.qualified ref)) ∧
    (∀ location, registry.locate ref = .ok location ↔ DeclaredAt files ref location) ∧
    (∀ location, registry.locate ref = .ok location →
      ∃ names, location.file.DeclaresAt names ∧ location.localName = Name.dotted names ∧
        Name.member (Name.packagePrefix location.file.package) location.localName =
          Name.qualified ref) ∧
    (∀ message, registry.message? ref = .ok message →
      ∃ location path names, registry.locate ref = .ok location ∧
        Walk location.file.messages path names message ∧
        location.localName = Name.dotted names) ∧
    (∀ error, registry.locate ref = .error error ↔
      error = .typeNotFound ref ∧ ∀ file ∈ files, ¬ file.Declares (Name.qualified ref)) ∧
    ∀ fileName, registry.fileNameOf? (Name.qualified ref) = some fileName →
      ∃ file localName, registry.fileNamed? fileName = some file ∧
        Name.localName? file.package (Name.qualified ref) = some localName := by
  obtain ⟨compatible, rfl⟩ := ofFiles_eq_ok_iff.mp loaded
  refine ⟨exists_locate_assembled_iff compatible, ?_, ?_, ?_, ?_, ?_⟩
  · intro location
    exact locate_assembled_eq_ok_iff compatible
  · intro location located
    have found := (locate_assembled_eq_ok_iff compatible).mp located
    obtain ⟨names, declared, spelled⟩ := File.declares_iff.mp found.declared
    exact ⟨names, declared, found.localName_eq declared.ne_nil spelled, found.spelled.symm⟩
  · intro message found
    exact exists_locate_of_message?_eq_ok compatible found
  · intro error
    exact locate_assembled_eq_error_iff compatible
  · intro fileName filed
    exact fileNameOf?_leads compatible filed

/-- A package that is the reference of another file's message. -/
def overlappingSamples : List File :=
  [{ name := "geo.proto", package := "geo"
     messages := [{ name := "Point", nested := [{ name := "Meta" }] }] },
   { name := "point.proto", package := "geo.Point", enums := [{ name := "Unit" }] }]

/-- The types below `.geo.Point` lie in two files, under names of different lengths; a message of
the package `geo.Point` that no file declares is reported as it was written. -/
theorem locate_overlappingSamples :
    ofFiles overlappingSamples = .ok (assembled overlappingSamples) ∧
      (assembled overlappingSamples).locate "geo.Point.Meta" =
        .ok ⟨overlappingSamples[0], "Point.Meta"⟩ ∧
      (assembled overlappingSamples).locate ".geo.Point.Unit" =
        .ok ⟨overlappingSamples[1], "Unit"⟩ ∧
      (assembled overlappingSamples).locate "geo.Point.Line" =
        .error (.typeNotFound "geo.Point.Line") := by
  have loaded : ofFiles overlappingSamples = .ok (assembled overlappingSamples) := rfl
  refine ⟨loaded, ?_, ?_, ?_⟩
  · exact ((locate_outcome loaded "geo.Point.Meta").2.1 _).mpr
      { member := List.mem_cons_self ..
        declared := File.mem_declaredRefs_iff.mp (by decide)
        spelled := by decide }
  · exact ((locate_outcome loaded ".geo.Point.Unit").2.1 _).mpr
      { member := List.mem_cons_of_mem _ (List.mem_singleton_self _)
        declared := File.mem_declaredRefs_iff.mp (by decide)
        spelled := by decide }
  · have undeclared : ∀ file ∈ overlappingSamples,
        Name.qualified "geo.Point.Line" ∉ file.declaredRefs := by decide
    exact ((locate_outcome loaded "geo.Point.Line").2.2.2.2.1 _).mpr
      ⟨rfl, fun file member declared =>
        undeclared file member (File.mem_declaredRefs_iff.mpr declared)⟩

end Registry

end RpcBindings
