/-
Module: RpcBindings.Proofs.Registry.Loading
Purpose: Which files can be loaded together, and what a refusal reports.
Main exports: Compatible, FirstClash, Registry.assembled, Registry.ofFiles_eq_ok_iff,
  Registry.ofFiles_outcome
-/
import Mathlib.Data.List.Induction
import Mathlib.Data.List.Nodup
import Mathlib.Data.List.Pairwise
import RpcBindings.Proofs.Registry.Walk
import RpcBindings.Proofs.Traversal
import RpcBindings.Registry.Basic

namespace RpcBindings

/-!
Loading compares each file with the files before it: their names, and the references that they
declare.  Two declarations inside one file are never compared, so a file may declare a reference
twice.
-/

/-- Files that can be loaded together: no two of them share a name, and no two of them declare one
reference. -/
structure Compatible (files : List File) : Prop where
  names : (files.map File.name).Nodup
  refs : files.Pairwise fun earlier later => ∀ ref, earlier.Declares ref → ¬ later.Declares ref

/-- The error for the first file that cannot join the files before it.  A name that is taken is
reported before any reference, and of several references the first in the order of collection. -/
inductive FirstClash (files : List File) : LoadError → Prop where
  | name {earlier later : List File} {file : File}
      (split : files = earlier ++ file :: later)
      (compatible : Compatible earlier)
      (taken : file.name ∈ earlier.map File.name) :
      FirstClash files (.duplicateFile file.name)
  | type {earlier later : List File} {file : File} {free rest : List String} {ref : String}
      (split : files = earlier ++ file :: later)
      (compatible : Compatible earlier)
      (fresh : file.name ∉ earlier.map File.name)
      (collected : file.declaredRefs = free ++ ref :: rest)
      (unclaimed : ∀ other ∈ free, ∀ before ∈ earlier, ¬ before.Declares other)
      (taken : ∃ before ∈ earlier, before.Declares ref) :
      FirstClash files (.duplicateType ref)

/-- One more file joins when its name and its references are new. -/
theorem compatible_append_singleton_iff {files : List File} {file : File} :
    Compatible (files ++ [file]) ↔
      Compatible files ∧ file.name ∉ files.map File.name ∧
        ∀ ref, file.Declares ref → ∀ other ∈ files, ¬ other.Declares ref := by
  constructor
  · intro compatible
    have names := compatible.names
    rw [List.map_append, List.map_singleton, List.nodup_append] at names
    obtain ⟨filesNodup, -, apart⟩ := names
    obtain ⟨filesApart, -, fileApart⟩ := List.pairwise_append.mp compatible.refs
    refine ⟨⟨filesNodup, filesApart⟩, ?_, ?_⟩
    · intro taken
      exact apart _ taken _ (List.mem_singleton_self _) rfl
    · intro ref declared other member otherDeclares
      exact fileApart other member file (List.mem_singleton_self _) ref otherDeclares declared
  · intro joins
    rcases joins with ⟨compatible, fresh, unclaimed⟩
    constructor
    · rw [List.map_append, List.map_singleton, List.nodup_append]
      refine ⟨compatible.names, List.nodup_singleton _, ?_⟩
      intro taken member name single same
      rw [List.mem_singleton] at single
      exact fresh (single ▸ same ▸ member)
    · refine List.pairwise_append.mpr ⟨compatible.refs, List.pairwise_singleton _ _, ?_⟩
      intro other member last single ref otherDeclares declared
      rw [List.mem_singleton] at single
      subst single
      exact unclaimed ref declared other member otherDeclares

/-- Of files that share no references only one declares a given reference. -/
theorem eq_of_pairwise_declares {files : List File}
    (apart : files.Pairwise fun earlier later => ∀ ref, earlier.Declares ref → ¬ later.Declares ref)
    {file other : File} {ref : String} (member : file ∈ files) (declared : file.Declares ref)
    (otherMember : other ∈ files) (otherDeclared : other.Declares ref) : file = other := by
  by_contra different
  have symmetric : Std.Symm fun earlier later : File =>
      ∀ ref, earlier.Declares ref → ¬ later.Declares ref :=
    ⟨fun _ _ apart ref declared otherDeclared => apart ref otherDeclared declared⟩
  exact apart.forall member otherMember different ref declared otherDeclared

/-- Files share no references when the lists of their references are disjoint. -/
theorem disjoint_declaredRefs_eq :
    Function.onFun List.Disjoint File.declaredRefs =
      fun earlier later => ∀ ref, earlier.Declares ref → ¬ later.Declares ref := by
  funext earlier later
  simp only [← File.mem_declaredRefs_iff]
  rfl

/-- References are distinct over all files when they are distinct in each file, and no two files
share one. -/
theorem distinct_iff_compatible {files : List File} :
    (files.map File.name).Nodup ∧ (files.flatMap File.declaredRefs).Nodup ↔
      Compatible files ∧ ∀ file ∈ files, file.declaredRefs.Nodup := by
  rw [List.nodup_flatMap, disjoint_declaredRefs_eq]
  constructor
  · intro distinct
    rcases distinct with ⟨names, within, refs⟩
    exact ⟨⟨names, refs⟩, within⟩
  · intro apart
    rcases apart with ⟨⟨names, refs⟩, within⟩
    exact ⟨names, within, refs⟩

namespace Registry

/-- The registry that holds some files, whatever they declare. -/
def assembled (files : List File) : Registry :=
  { files
    messages := (files.flatMap messageEntries).reverse
    enums := (files.flatMap enumEntries).reverse }

theorem fileNamed?_assembled_isSome_iff {files : List File} {name : String} :
    ((assembled files).fileNamed? name).isSome ↔ name ∈ files.map File.name := by
  simp [fileNamed?, assembled, List.find?_isSome]

/-- The references that are filed are those that one of the loaded files declares. -/
theorem declares_assembled_iff {files : List File} {ref : String} :
    (assembled files).declares ref = true ↔ ∃ file ∈ files, file.Declares ref := by
  simp only [← File.mem_declaredRefs_iff]
  simp only [declares, assembled, Bool.or_eq_true, List.lookup_isSome_iff, List.mem_reverse,
    List.mem_flatMap, messageEntries, enumEntries, List.mem_map, beq_iff_eq, File.declaredRefs,
    List.mem_append]
  constructor
  · intro filed
    rcases filed with ⟨_, ⟨file, member, entry, collected, rfl⟩, rfl⟩ |
      ⟨_, ⟨file, member, other, collected, rfl⟩, rfl⟩
    · exact ⟨file, member, Or.inl ⟨entry, collected, rfl⟩⟩
    · exact ⟨file, member, Or.inr collected⟩
  · intro declared
    rcases declared with ⟨file, member, ⟨entry, collected, rfl⟩ | collected⟩
    · exact Or.inl ⟨_, ⟨file, member, entry, collected, rfl⟩, rfl⟩
    · exact Or.inr ⟨_, ⟨file, member, ref, collected, rfl⟩, rfl⟩

theorem assembled_append_singleton (files : List File) (file : File) :
    assembled (files ++ [file]) =
      { files := files ++ [file]
        messages := (messageEntries file).reverse ++ (assembled files).messages
        enums := (enumEntries file).reverse ++ (assembled files).enums } := by
  simp [assembled]

/-- No reference of a file clashes when the loaded files declare none of them. -/
theorem find?_declares_assembled_eq_none_iff {files : List File} {file : File} :
    file.declaredRefs.find? (assembled files).declares = none ↔
      ∀ ref, file.Declares ref → ∀ other ∈ files, ¬ other.Declares ref := by
  simp only [List.find?_eq_none, declares_assembled_iff, File.mem_declaredRefs_iff]
  simp

/-- The reference that clashes is the first one that a loaded file declares. -/
theorem find?_declares_assembled_eq_some_iff {files : List File} {file : File} {ref : String} :
    file.declaredRefs.find? (assembled files).declares = some ref ↔
      ∃ free rest, file.declaredRefs = free ++ ref :: rest ∧
        (∀ other ∈ free, ∀ before ∈ files, ¬ before.Declares other) ∧
        ∃ before ∈ files, before.Declares ref := by
  rw [List.find?_eq_some_iff_append, declares_assembled_iff]
  have unclaimed_iff : ∀ other, ((!(assembled files).declares other) = true) ↔
      ∀ before ∈ files, ¬ before.Declares other := by
    intro other
    rw [Bool.not_eq_true', ← Bool.not_eq_true, declares_assembled_iff]
    simp
  simp only [unclaimed_iff]
  constructor
  · intro clash
    rcases clash with ⟨taken, free, rest, collected, unclaimed⟩
    exact ⟨free, rest, collected, unclaimed, taken⟩
  · intro clash
    rcases clash with ⟨free, rest, collected, unclaimed, taken⟩
    exact ⟨taken, free, rest, collected, unclaimed⟩

/-- A file with a new name and new references is added. -/
theorem insert_assembled_eq_ok_iff {files : List File} {file : File} {registry : Registry} :
    (assembled files).insert file = .ok registry ↔
      file.name ∉ files.map File.name ∧
        (∀ ref, file.Declares ref → ∀ other ∈ files, ¬ other.Declares ref) ∧
        registry = assembled (files ++ [file]) := by
  rw [← find?_declares_assembled_eq_none_iff, ← fileNamed?_assembled_isSome_iff,
    assembled_append_singleton]
  unfold insert
  by_cases known : ((assembled files).fileNamed? file.name).isSome
  · simp [known]
  · cases found : file.declaredRefs.find? (assembled files).declares with
    | none =>
        simp only [known, Bool.false_eq_true, if_false, not_false_eq_true, true_and,
          Except.ok.injEq]
        exact eq_comm
    | some ref => simp [known]

/-- A file is refused for its name, or else for the first of its references that is taken. -/
theorem insert_assembled_eq_error_iff {files : List File} {file : File} {error : LoadError} :
    (assembled files).insert file = .error error ↔
      (file.name ∈ files.map File.name ∧ error = .duplicateFile file.name) ∨
        (file.name ∉ files.map File.name ∧
          ∃ ref, file.declaredRefs.find? (assembled files).declares = some ref ∧
            error = .duplicateType ref) := by
  rw [← fileNamed?_assembled_isSome_iff]
  unfold insert
  by_cases known : ((assembled files).fileNamed? file.name).isSome
  · simp [known, eq_comm]
  · cases found : file.declaredRefs.find? (assembled files).declares with
    | none => simp [known]
    | some ref => simp [known, eq_comm]

/-- Files load exactly when they are compatible, and then the registry holds them. -/
theorem ofFiles_eq_ok_iff {files : List File} {registry : Registry} :
    ofFiles files = .ok registry ↔ Compatible files ∧ registry = assembled files := by
  induction files using List.reverseRecOn generalizing registry with
  | nil =>
      have none : Compatible [] := ⟨List.nodup_nil, List.Pairwise.nil⟩
      simp [ofFiles, pure, Except.pure, none, assembled, empty, eq_comm]
  | append_singleton files file inductionHypothesis =>
      rw [ofFiles, List.foldlM_append, Traversal.bind_eq_ok_iff]
      simp only [List.foldlM_cons, List.foldlM_nil, bind_pure]
      rw [compatible_append_singleton_iff]
      constructor
      · intro success
        rcases success with ⟨reached, loads, inserts⟩
        obtain ⟨compatible, rfl⟩ := inductionHypothesis.mp loads
        obtain ⟨fresh, unclaimed, rfl⟩ := insert_assembled_eq_ok_iff.mp inserts
        exact ⟨⟨compatible, fresh, unclaimed⟩, rfl⟩
      · intro joins
        rcases joins with ⟨⟨compatible, fresh, unclaimed⟩, rfl⟩
        exact ⟨assembled files, inductionHypothesis.mpr ⟨compatible, rfl⟩,
          insert_assembled_eq_ok_iff.mpr ⟨fresh, unclaimed, rfl⟩⟩

/-- Loading fails with the clash of the first file that cannot join those before it. -/
theorem ofFiles_eq_error_iff {files : List File} {error : LoadError} :
    ofFiles files = .error error ↔ FirstClash files error := by
  rw [ofFiles, Traversal.foldlM_eq_error_iff]
  constructor
  · intro failure
    rcases failure with ⟨earlier, file, later, reached, split, loads, fails⟩
    obtain ⟨compatible, rfl⟩ := ofFiles_eq_ok_iff.mp loads
    rcases insert_assembled_eq_error_iff.mp fails with ⟨taken, rfl⟩ | ⟨fresh, ref, found, rfl⟩
    · exact .name split compatible taken
    · obtain ⟨free, rest, collected, unclaimed, taken⟩ :=
        find?_declares_assembled_eq_some_iff.mp found
      exact .type split compatible fresh collected unclaimed taken
  · intro clash
    cases clash with
    | @name earlier later file split compatible taken =>
        exact ⟨earlier, file, later, assembled earlier, split,
          ofFiles_eq_ok_iff.mpr ⟨compatible, rfl⟩,
          insert_assembled_eq_error_iff.mpr (Or.inl ⟨taken, rfl⟩)⟩
    | @type earlier later file free rest ref split compatible fresh collected unclaimed taken =>
        have found := find?_declares_assembled_eq_some_iff.mpr
          ⟨free, rest, collected, unclaimed, taken⟩
        exact ⟨earlier, file, later, assembled earlier, split,
          ofFiles_eq_ok_iff.mpr ⟨compatible, rfl⟩,
          insert_assembled_eq_error_iff.mpr (Or.inr ⟨fresh, ref, found, rfl⟩)⟩

/-- Some files load exactly when their names are distinct and no two of them declare one reference;
that falls short of distinct references by those that a file declares twice.  Otherwise the first
file that cannot join is reported: for its name, or else for the first of its references that a file
before it declares. -/
theorem ofFiles_outcome (files : List File) :
    ((∃ registry, ofFiles files = .ok registry) ↔ Compatible files) ∧
      ((files.map File.name).Nodup ∧ (files.flatMap File.declaredRefs).Nodup ↔
        Compatible files ∧ ∀ file ∈ files, file.declaredRefs.Nodup) ∧
      ∀ error, ofFiles files = .error error ↔ FirstClash files error := by
  refine ⟨?_, distinct_iff_compatible, fun error => ofFiles_eq_error_iff⟩
  constructor
  · intro success
    rcases success with ⟨registry, loads⟩
    exact (ofFiles_eq_ok_iff.mp loads).1
  · intro compatible
    exact ⟨assembled files, ofFiles_eq_ok_iff.mpr ⟨compatible, rfl⟩⟩

/-- Distinct references are not needed for loading: a file with two messages of one name loads. -/
theorem repeated_ref_in_one_file_loads :
    ¬ ∀ files : List File,
      (∃ registry, ofFiles files = .ok registry) ↔
        (files.map File.name).Nodup ∧ (files.flatMap File.declaredRefs).Nodup := by
  intro loads_iff
  let twice : File := { name := "a.proto", messages := [{ name := "A" }, { name := "A" }] }
  have distinct : ([twice].flatMap File.declaredRefs).Nodup := ((loads_iff [twice]).mp ⟨_, rfl⟩).2
  have collected : [twice].flatMap File.declaredRefs = [".A", ".A"] := by decide
  rw [collected] at distinct
  exact absurd distinct (by decide)

end Registry

end RpcBindings
