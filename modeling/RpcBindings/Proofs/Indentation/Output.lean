/-
Module: RpcBindings.Proofs.Indentation.Output
Purpose: What is generated for declarations, promises and commands is indented by its braces.
Main exports: Dialect.blockUnits, generate_keepsToBraces
-/
import RpcBindings.Proofs.Brackets.Output
import RpcBindings.Proofs.Indentation.Commands
import RpcBindings.Proofs.Indentation.Declarations

namespace RpcBindings

open Layout
open Name (AllPortable)

/-- The dialects that indent by braces alone, each with the blanks that it puts in front of a line
for every open brace. -/
def Dialect.blockUnits : List (Dialect × String) :=
  [(Declarations.dialect, "  "), (Promises.dialect, "  "), (Commands.dialect, "\t")]

/-- Where no declared name is empty and all texts of the files and of the options are portable,
every line of the output that is not empty lies as deep as braces are open in front of it, or one
level less deep if it begins with a closing brace, and no brace stays open.  Only commands have a
list of imports in parentheses, whose lines are indented without a brace. -/
theorem generate_keepsToBraces {registry : Registry} {fileName unit : String} {dialect : Dialect}
    {options : Options} {output : GeneratedFile} (known : (dialect, unit) ∈ Dialect.blockUnits)
    (named : registry.Named) (registryPortable : registry.Portable)
    (optionsPortable : AllPortable options.texts)
    (generated : generate registry fileName dialect options = .ok output) :
    KeepsToBraces (dialect.name = "go-cli") unit output.content := by
  simp only [Dialect.blockUnits, List.mem_cons, Prod.mk.injEq, List.not_mem_nil,
    or_false] at known
  rcases known with ⟨rfl, rfl⟩ | ⟨rfl, rfl⟩ | ⟨rfl, rfl⟩
  · exact (Declarations.aligned_dialect.generate registryPortable optionsPortable named
      generated).keepsToBraces (by simp)
  · exact (Promises.aligned_dialect.generate registryPortable optionsPortable named
      generated).keepsToBraces (by simp)
  · exact ((Commands.aligned_dialect rfl).generate registryPortable optionsPortable named
      generated).keepsToBraces (by simp)

theorem generate_keepsToBraces_leafFile :
    ∃ output, generate (Registry.assembled [leafFile]) "plants/leaf.proto" Declarations.dialect
        { inputId := some "leaf-1", typesImport := some "./types" } = .ok output ∧
      KeepsToBraces (Declarations.dialect.name = "go-cli") "  " output.content := by
  have generated : ∃ output,
      generate (Registry.assembled [leafFile]) "plants/leaf.proto" Declarations.dialect
        { inputId := some "leaf-1", typesImport := some "./types" } = .ok output := ⟨_, rfl⟩
  obtain ⟨output, generated⟩ := generated
  exact ⟨output, generated,
    generate_keepsToBraces (by simp [Dialect.blockUnits]) (by decide) (by decide) (by decide)
      generated⟩

end RpcBindings
