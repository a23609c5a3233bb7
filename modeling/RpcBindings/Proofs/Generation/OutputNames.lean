/-
Module: RpcBindings.Proofs.Generation.OutputNames
Purpose: How outputs are named, and that no two runs of the generator write the same output.
Main exports: Path.IsProto, Path.IsProto.stem_append, Dialect.outputName_of_mem,
  Dialect.eq_of_tail, Dialect.eq_of_outputName_eq, outputsOf, generate_overwrites_nothing
-/
import RpcBindings.Proofs.Generation.Outcome
import RpcBindings.Proofs.Path.Resolution

namespace RpcBindings

/-!
The name of an output is read from its end.  There stands the ending of a dialect, and since no
ending is a tail of another one, it tells the dialect.  What precedes it is the stem of the input,
and the input is its stem and `.proto`.
-/

/-! ### Inputs -/

namespace Path

/-- A file name that ends in `.proto` and in whose last segment something stands before that. -/
structure IsProto (fileName : String) : Prop where
  ending : ".proto".toList <:+ fileName.toList
  longer : ".proto".length < ((segments fileName).getLastD "").length

instance (fileName : String) : Decidable (IsProto fileName) :=
  decidable_of_iff
    (".proto".toList <:+ fileName.toList ∧
      ".proto".length < ((segments fileName).getLastD "").length)
    ⟨fun proto => ⟨proto.1, proto.2⟩, fun proto => ⟨proto.ending, proto.longer⟩⟩

variable {fileName : String}

/-- The character before the ending belongs to the last segment. -/
theorem IsProto.exists_front (proto : IsProto fileName) :
    ∃ front last, last ≠ '/' ∧ fileName.toList = front ++ last :: ".proto".toList := by
  obtain ⟨before, chars⟩ := proto.ending
  have longer := proto.longer
  rcases List.eq_nil_or_concat before with rfl | ⟨front, last, rfl⟩
  · have bare : (segments fileName).getLastD "" = ".proto" := by
      rw [segments, ← chars]
      decide
    rw [bare] at longer
    exact absurd longer (Nat.lt_irrefl _)
  · rw [List.concat_eq_append, List.append_assoc, List.singleton_append] at chars
    refine ⟨front, last, ?_, chars.symm⟩
    rintro rfl
    -- Behind a slash the ending would be the whole last segment.
    have alone : (".proto".toList.splitOn '/').map String.ofList = [".proto"] := by decide
    have bare : (segments fileName).getLastD "" = ".proto" := by
      rw [segments, ← chars, List.splitOn_append_cons_self, List.map_append, alone,
        List.getLastD_eq_getLast?, List.getLast?_concat, Option.getD_some]
    rw [bare] at longer
    exact absurd longer (Nat.lt_irrefl _)

/-- Nothing but the ending is taken off. -/
theorem IsProto.stem_append (proto : IsProto fileName) : stem fileName ++ ".proto" = fileName := by
  obtain ⟨front, last, inside, chars⟩ := proto.exists_front
  have reversed : fileName.toList.reverse = "otorp.".toList ++ last :: front.reverse := by
    simp [chars]
  have kept : stemChars fileName.toList = front ++ [last] := by
    simp [stemChars, lastSegmentReversed, directoryReversed, reversed, inside]
  apply String.toList_inj.mp
  rw [String.toList_append, toList_stem, kept, chars, List.append_assoc, List.singleton_append]

/-- A dot in a directory or before the ending does not matter, and a segment must have a name. -/
example : IsProto "maps.v1/tile.sets.proto" ∧ ¬ IsProto "maps/.proto" := by
  decide

end Path

/-! ### Dialects -/

namespace Dialect

variable {dialect other : Dialect}

/-- How the names of a dialect's outputs end. -/
def ending (dialect : Dialect) : List Char :=
  '.' :: dialect.suffix.toList

theorem outputName_of_mem (known : dialect ∈ builtin) (fileName : String) :
    dialect.outputName fileName = Path.stem fileName ++ "." ++ dialect.suffix := by
  have named : ∀ dialect ∈ builtin,
      dialect.outputName fileName = Path.stem fileName ++ "." ++ dialect.suffix := by
    simp only [builtin, List.forall_mem_cons, List.not_mem_nil, false_imp_iff, implies_true,
      and_true]
    exact ⟨rfl, rfl, rfl, rfl, rfl, rfl⟩
  exact named dialect known

theorem toList_outputName (known : dialect ∈ builtin) (fileName : String) :
    (dialect.outputName fileName).toList = (Path.stem fileName).toList ++ dialect.ending := by
  rw [outputName_of_mem known, String.toList_append, String.toList_append, List.append_assoc]
  rfl

/-- No ending is a tail of the ending of another dialect. -/
theorem eq_of_tail (known : dialect ∈ builtin) (knownOther : other ∈ builtin)
    (tail : dialect.ending <:+ other.ending ∨ other.ending <:+ dialect.ending) :
    dialect = other := by
  have apart : builtin.Pairwise fun first second =>
      ¬ (first.ending <:+ second.ending ∨ second.ending <:+ first.ending) := by
    decide
  have : Std.Symm fun first second : Dialect =>
      ¬ (first.ending <:+ second.ending ∨ second.ending <:+ first.ending) :=
    ⟨fun _ _ separate tails => separate tails.symm⟩
  by_contra different
  exact apart.forall known knownOther different tail

/-- The name of an output tells its dialect and its input. -/
theorem eq_of_outputName_eq (known : dialect ∈ builtin) (knownOther : other ∈ builtin)
    {fileName otherName : String} (proto : Path.IsProto fileName)
    (protoOther : Path.IsProto otherName)
    (same : dialect.outputName fileName = other.outputName otherName) :
    fileName = otherName ∧ dialect = other := by
  have chars := congrArg String.toList same
  rw [toList_outputName known, toList_outputName knownOther] at chars
  have tail : dialect.ending <:+ (Path.stem otherName).toList ++ other.ending := by
    rw [← chars]
    exact List.suffix_append _ _
  obtain rfl := eq_of_tail known knownOther
    (List.suffix_or_suffix_of_suffix tail (List.suffix_append _ _))
  have stems : Path.stem fileName = Path.stem otherName :=
    String.toList_inj.mp (List.append_cancel_right chars)
  rw [← proto.stem_append, ← protoOther.stem_append, stems]
  exact ⟨rfl, rfl⟩

end Dialect

/-! ### Runs -/

/-- What is written when each file is generated with each dialect. -/
def outputsOf (registry : Registry) (options : Options) (fileNames : List String)
    (dialects : List Dialect) : List GeneratedFile :=
  fileNames.flatMap fun fileName =>
    dialects.filterMap fun dialect => (generate registry fileName dialect options).toOption

theorem name_of_generate {registry : Registry} {fileName : String} {dialect : Dialect}
    {options : Options} {output : GeneratedFile}
    (generated : (generate registry fileName dialect options).toOption = some output) :
    output.name = dialect.outputName fileName := by
  cases outcome : generate registry fileName dialect options with
  | error failure =>
      rw [outcome] at generated
      cases generated
  | ok written =>
      rw [outcome] at generated
      cases generated
      obtain ⟨context, -, rfl⟩ := exists_contextFor outcome
      rfl

/-- The output for an input is named like the input, with the dialect's suffix in the place of
`proto`.  Two outputs have the same name only if they are of the same dialect and for the same
input, so whatever files are generated with whatever dialects, no output is written twice. -/
theorem generate_overwrites_nothing :
    (∀ dialect ∈ Dialect.builtin, ∀ fileName, Path.IsProto fileName →
      ∃ stem, fileName = stem ++ ".proto" ∧
        dialect.outputName fileName = stem ++ "." ++ dialect.suffix) ∧
    (∀ dialect ∈ Dialect.builtin, ∀ other ∈ Dialect.builtin, ∀ fileName otherName,
      Path.IsProto fileName → Path.IsProto otherName →
        dialect.outputName fileName = other.outputName otherName →
          fileName = otherName ∧ dialect = other) ∧
    ∀ fileNames dialects, fileNames.Nodup → dialects.Nodup →
      (∀ fileName ∈ fileNames, Path.IsProto fileName) →
      (∀ dialect ∈ dialects, dialect ∈ Dialect.builtin) →
        ∀ registry options,
          ((outputsOf registry options fileNames dialects).map GeneratedFile.name).Nodup := by
  refine ⟨?_, ?_, ?_⟩
  · intro dialect known fileName proto
    exact ⟨Path.stem fileName, proto.stem_append.symm, Dialect.outputName_of_mem known fileName⟩
  · intro dialect known other knownOther fileName otherName proto protoOther
    exact Dialect.eq_of_outputName_eq known knownOther proto protoOther
  · intro fileNames dialects distinctFiles distinctDialects proto known registry options
    rw [List.Nodup, List.pairwise_map, outputsOf, List.pairwise_flatMap]
    constructor
    · intro fileName fileMember
      rw [List.pairwise_filterMap]
      refine distinctDialects.imp_of_mem ?_
      intro dialect other member otherMember different first written second writtenOther same
      rw [name_of_generate written, name_of_generate writtenOther] at same
      exact different (Dialect.eq_of_outputName_eq (known dialect member)
        (known other otherMember) (proto fileName fileMember) (proto fileName fileMember) same).2
    · refine distinctFiles.imp_of_mem ?_
      intro fileName otherName fileMember otherFileMember different first firstMember second
        secondMember same
      obtain ⟨dialect, member, written⟩ := List.mem_filterMap.mp firstMember
      obtain ⟨other, otherMember, writtenOther⟩ := List.mem_filterMap.mp secondMember
      rw [name_of_generate written, name_of_generate writtenOther] at same
      exact different (Dialect.eq_of_outputName_eq (known dialect member)
        (known other otherMember) (proto fileName fileMember) (proto otherName otherFileMember)
        same).1

/-- One file in a directory and one beside it. -/
def tileFiles : List File :=
  [{ name := "tiles.proto", messages := [{ name := "Tile" }] },
   { name := "maps/tiles.proto", package := "maps", messages := [{ name := "Tile" }] }]

theorem generate_overwrites_nothing_tileFiles :
    (outputsOf (Registry.assembled tileFiles) {} ["tiles.proto", "maps/tiles.proto"]
        [Promises.dialect, Declarations.dialect]).map GeneratedFile.name =
      ["tiles.rpc.ts", "tiles.d.ts", "maps/tiles.rpc.ts", "maps/tiles.d.ts"] ∧
    ["tiles.rpc.ts", "tiles.d.ts", "maps/tiles.rpc.ts", "maps/tiles.d.ts"].Nodup := by
  have written : (outputsOf (Registry.assembled tileFiles) {} ["tiles.proto", "maps/tiles.proto"]
        [Promises.dialect, Declarations.dialect]).map GeneratedFile.name =
      ["tiles.rpc.ts", "tiles.d.ts", "maps/tiles.rpc.ts", "maps/tiles.d.ts"] := rfl
  have different : Promises.dialect ≠ Declarations.dialect := fun same =>
    absurd (congrArg Dialect.name same) (by decide)
  refine ⟨written, ?_⟩
  rw [← written]
  refine generate_overwrites_nothing.2.2 _ _ (by decide) (by simpa using different) (by decide) ?_
    _ _
  simp [Dialect.builtin]

end RpcBindings
