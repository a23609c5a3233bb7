/-
Module: RpcBindings.Proofs.Brackets.Output
Purpose: Whatever is generated from portable names, its brackets match.
Main exports: Dialect.tidy_of_mem_builtin, generate_wellBracketed
-/
import RpcBindings.Dialect.Builtin
import RpcBindings.Proofs.Brackets.Commands
import RpcBindings.Proofs.Brackets.Declarations
import RpcBindings.Proofs.Brackets.Stores

namespace RpcBindings

open Layout
open Name (AllPortable)

theorem Dialect.tidy_of_mem_builtin {dialect : Dialect} (builtin : dialect ∈ Dialect.builtin) :
    dialect.Tidy := by
  simp only [Dialect.builtin, List.mem_cons, List.not_mem_nil, or_false] at builtin
  rcases builtin with rfl | rfl | rfl | rfl | rfl | rfl
  · exact Commands.tidy_dialect
  · exact Store.TypeScript.tidy_dialect
  · exact Store.Flow.tidy_dialect
  · exact Bridge.tidy_dialect
  · exact Promises.tidy_dialect
  · exact Declarations.tidy_dialect

/-- Where all texts of the files and of the options are portable, every closing bracket of the
output closes the latest one that is open, and none stays open. -/
theorem generate_wellBracketed {registry : Registry} {fileName : String} {dialect : Dialect}
    {options : Options} {output : GeneratedFile} (builtin : dialect ∈ Dialect.builtin)
    (registryPortable : registry.Portable) (optionsPortable : AllPortable options.texts)
    (generated : generate registry fileName dialect options = .ok output) :
    WellBracketed output.content :=
  (Dialect.tidy_of_mem_builtin builtin).generate registryPortable optionsPortable generated

/-- A file with a message inside another one, and with a method of either kind. -/
def leafFile : File :=
  { name := "plants/leaf.proto", package := "plants.v1"
    messages :=
      [{ name := "Leaf", nested := [{ name := "Vein" }]
         fields := [{ name := "main-vein", kind := .message,
                      typeName := some ".plants.v1.Leaf.Vein" }] }]
    services :=
      [{ name := "Plants"
         methods := [Method.unary "Find" ".plants.v1.Leaf" ".plants.v1.Leaf",
           Method.duplex "Grow" ".plants.v1.Leaf" ".plants.v1.Leaf.Vein"] }] }

theorem generate_wellBracketed_leafFile :
    ∃ output, generate (Registry.assembled [leafFile]) "plants/leaf.proto" Declarations.dialect
        { inputId := some "leaf-1", typesImport := some "./types" } = .ok output ∧
      WellBracketed output.content := by
  have generated : ∃ output,
      generate (Registry.assembled [leafFile]) "plants/leaf.proto" Declarations.dialect
        { inputId := some "leaf-1", typesImport := some "./types" } = .ok output := ⟨_, rfl⟩
  obtain ⟨output, generated⟩ := generated
  exact ⟨output, generated,
    generate_wellBracketed (by simp [Dialect.builtin]) (by decide) (by decide) generated⟩

end RpcBindings
