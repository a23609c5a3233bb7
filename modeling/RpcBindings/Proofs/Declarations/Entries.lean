/-
Module: RpcBindings.Proofs.Declarations.Entries
Purpose: Which map entries have an interface or a namespace in a declaration file.
Main exports: Declarations.Rendered.mapEntry_eq, Declarations.exists_within_interface_iff,
  Declarations.exists_within_scope_iff, Declarations.generate_declares_entry_iff
-/
import RpcBindings.Proofs.Declarations.Blocks

namespace RpcBindings.Declarations

open Layout

/-!
A message has an interface and, if it declares anything, a namespace.  The loop over the messages
inside a message passes over map entries; the one over the messages at the top of a file does not.
-/

/-! ### Rendered messages -/

theorem innerOf_ne_nil_iff (scope : Scope) {message : Message} :
    innerOf scope message ≠ [] ↔
      message.enums ≠ [] ∨ ∃ inner ∈ message.nested, inner.mapEntry = false := by
  have made (inner : Message) : ofMessage scope inner ≠ [] := by
    rw [ofMessage_eq]
    exact List.cons_ne_nil _ _
  rw [innerOf, ne_eq, List.append_eq_nil_iff, List.map_eq_nil_iff, List.flatMap_eq_nil_iff,
    not_and_or]
  simp [made]

/-- Inside other messages no map entry is rendered. -/
theorem Rendered.mapEntry_eq {messages : List Message} {around : List String} {message : Message}
    (rendered : Rendered messages around message) (inside : around ≠ []) :
    message.mapEntry = false := by
  induction rendered with
  | here member => exact absurd rfl inside
  | @inside messages outer message around member rest inductionHypothesis =>
      by_cases innermost : around = []
      · subst innermost
        cases rest with
        | here member => simpa using (List.mem_filter.mp member).2
      · exact inductionHypothesis innermost

/-- What is declared at the top of a package is made from the types of its file, or from a
service. -/
theorem within_packageDeclarations {registry : Registry} {file : File} {options : Options}
    {on : List String} {declaration : Declaration}
    (within : Within (packageDeclarations registry file options) on declaration) :
    Within (ofFile (Scope.ofFile registry file options)) on declaration ∨
      on = [] ∧ ∃ service, declaration =
        serviceDeclaration (Scope.ofFile registry file options) options service := by
  cases within with
  | here member =>
      rcases List.mem_append.mp member with ofTypes | ofServices
      · exact Or.inl (.here ofTypes)
      · obtain ⟨service, -, rfl⟩ := List.mem_map.mp ofServices
        exact Or.inr ⟨rfl, service, rfl⟩
  | inside member rest =>
      rcases List.mem_append.mp member with ofTypes | ofServices
      · exact Or.inl (.inside ofTypes rest)
      · obtain ⟨service, -, same⟩ := List.mem_map.mp ofServices
        cases same

section Entry

variable {file : File} {path : List Nat} {around : List String} {entry : Message}

/-- A message that is rendered at the place of a map entry is the entry, at the top of the file. -/
theorem eq_entry_of_rendered (distinct : file.declaredRefs.Nodup)
    (walk : Walk file.messages path (around ++ [entry.name]) entry)
    (isEntry : entry.mapEntry = true) {message : Message}
    (rendered : Rendered file.messages around message) (named : entry.name = message.name) :
    around = [] ∧ message = entry := by
  obtain ⟨other, otherWalk⟩ := rendered.exists_walk
  rw [← named] at otherWalk
  obtain rfl : message = entry := Registry.eq_of_walk_names distinct otherWalk walk
  refine ⟨?_, rfl⟩
  by_contra inside
  rw [rendered.mapEntry_eq inside] at isEntry
  cases isEntry

theorem rendered_of_walk {message : Message} {name : String}
    (walk : Walk file.messages path [name] message) : Rendered file.messages [] message := by
  cases walk with
  | here found => exact .here (List.mem_of_getElem? found)
  | inside found rest => cases rest

variable {registry : Registry} {options : Options}

/-- A map entry has an interface if and only if it is at the top of its file. -/
theorem exists_within_interface_iff (distinct : file.declaredRefs.Nodup)
    (walk : Walk file.messages path (around ++ [entry.name]) entry)
    (isEntry : entry.mapEntry = true) :
    (∃ members, Within (packageDeclarations registry file options) around
        (.interface entry.name members)) ↔ around = [] := by
  constructor
  · intro declared
    obtain ⟨members, within⟩ := declared
    rcases within_packageDeclarations within with ofTypes | ofService
    · obtain ⟨message, rendered, named, -⟩ := within_ofFile_iff.mp ofTypes
      exact (eq_entry_of_rendered distinct walk isEntry rendered named).1
    · exact ofService.1
  · rintro rfl
    exact ⟨_, (within_ofFile_iff.mpr ⟨entry, rendered_of_walk walk, rfl, rfl⟩).of_subset
      (List.subset_append_left _ _)⟩

/-- A map entry has a namespace if and only if it is at the top of its file and declares
something. -/
theorem exists_within_scope_iff (distinct : file.declaredRefs.Nodup)
    (walk : Walk file.messages path (around ++ [entry.name]) entry)
    (isEntry : entry.mapEntry = true) :
    (∃ body, Within (packageDeclarations registry file options) around
        (.scope entry.name body)) ↔
      around = [] ∧ (entry.enums ≠ [] ∨ ∃ inner ∈ entry.nested, inner.mapEntry = false) := by
  have noEnum (body : List Declaration) (name : String) (members : List String) :
      Declaration.scope entry.name body ≠ .enumeration name members := nofun
  constructor
  · intro declared
    obtain ⟨body, within⟩ := declared
    rcases within_packageDeclarations within with ofTypes | ⟨-, service, same⟩
    · obtain ⟨message, rendered, made⟩ :=
        (within_ofFile_iff_exists_rendered (noEnum body)).mp ofTypes
      obtain ⟨named, rfl, inhabited⟩ := scope_mem_ofMessage_iff.mp made
      obtain ⟨top, rfl⟩ := eq_entry_of_rendered distinct walk isEntry rendered named
      exact ⟨top, (innerOf_ne_nil_iff _).mp inhabited⟩
    · cases same
  · rintro ⟨rfl, inhabited⟩
    have made := scope_mem_ofMessage_iff.mpr
      ⟨rfl, rfl, (innerOf_ne_nil_iff (Scope.ofFile registry file options)).mpr inhabited⟩
    exact ⟨_, ((within_ofFile_iff_exists_rendered (noEnum _)).mpr
      ⟨entry, rendered_of_walk walk, made⟩).of_subset (List.subset_append_left _ _)⟩

end Entry

/-- What stands behind the heading and the imports of a declaration file opens the block of an
interface for a map entry exactly when the entry is declared at the top of the file, and the block
of a namespace for it exactly when it moreover has an enum or a message inside it that is no map
entry.  An entry that is declared inside another message, at any depth, has neither. -/
theorem generate_declares_entry_iff {files : List File} {registry : Registry} {fileName : String}
    {options : Options} {output : GeneratedFile}
    (loaded : Registry.ofFiles files = .ok registry)
    (distinct : (files.flatMap File.declaredRefs).Nodup)
    (plain : ∀ file ∈ files, file.PlainNames)
    (generated : generate registry fileName dialect options = .ok output) :
    ∃ (context : FileContext) (body : String),
      ContextFor registry fileName dialect options context ∧ context.file ∈ files ∧
      output.content =
        render Script.indentUnit (Script.headingSteps plugin context.inputId ++ [.blank]) ++
          (typeImports context).text ++ body ∧
      ∀ path around entry, Walk context.file.messages path (around ++ [entry.name]) entry →
        entry.mapEntry = true →
        (Opens body (headersAround context.file.package around)
            ("export interface " ++ entry.name) ↔ around = []) ∧
        (Opens body (headersAround context.file.package around)
            ("export namespace " ++ entry.name) ↔
          around = [] ∧ (entry.enums ≠ [] ∨ ∃ inner ∈ entry.nested, inner.mapEntry = false)) := by
  obtain ⟨compatible, rfl⟩ := Registry.ofFiles_eq_ok_iff.mp loaded
  obtain ⟨context, made, rfl⟩ := exists_contextFor generated
  have member : context.file ∈ files := made.member
  obtain ⟨services, bound, same⟩ := made.bound
  have body : render Script.indentUnit (packageSteps context) =
      render Script.indentUnit (treeSteps context.file.package
        (packageDeclarations (Registry.assembled files) context.file options)) := by
    rw [same]
    exact render_packageSteps bound
  refine ⟨context, render Script.indentUnit (packageSteps context), made, member,
    renderFile_eq context, fun path around entry walk isEntry => ?_⟩
  have names := plain context.file member
  have readable := readable_packageDeclarations compatible plain names options
  have refs := (List.nodup_flatMap.mp distinct).1 context.file member
  rw [body]
  exact ⟨(opens_interface_iff names.package readable).trans
      (exists_within_interface_iff refs walk isEntry),
    (opens_scope_iff names.package readable).trans (exists_within_scope_iff refs walk isEntry)⟩

/-- The entry of a map of strings. -/
def stringEntry (name : String) : Message :=
  Message.entry name { name := "key", kind := .string } { name := "value", kind := .string }

def pointSample : Message :=
  { name := "Point", nested := [stringEntry "Label"] }

/-- A file with two map entries, one of them inside a message and one at the top. -/
def entriesFile : File :=
  { name := "a.proto", messages := [pointSample, stringEntry "Entry"] }

theorem plainNames_entriesFile : entriesFile.PlainNames where
  package := by decide
  enums := List.forall_mem_nil _
  services := List.forall_mem_nil _
  messages := by
    have entry {name : String} (identifier : Name.isIdentifier name = true) :
        (stringEntry name).Plain := by
      have fields : ∀ field ∈ (stringEntry name).fields, field.Plain :=
        List.forall_mem_cons.mpr ⟨by decide, List.forall_mem_singleton.mpr (by decide)⟩
      exact .intro identifier fields (List.forall_mem_nil _) (List.forall_mem_nil _)
    have point : pointSample.Plain :=
      .intro (by decide) (List.forall_mem_nil _) (List.forall_mem_nil _)
        (List.forall_mem_singleton.mpr (entry (by decide)))
    exact List.forall_mem_cons.mpr ⟨point, List.forall_mem_singleton.mpr (entry (by decide))⟩

/-- The entry inside the message is left out, the one beside the message is declared. -/
theorem generate_declares_entry_iff_entriesFile :
    ∃ output front body,
      generate (Registry.assembled [entriesFile]) "a.proto" dialect {} = .ok output ∧
      output.content = front ++ body ∧
      ¬ Opens body ["export namespace Point"] "export interface Label" ∧
      ¬ Opens body ["export namespace Point"] "export namespace Label" ∧
      Opens body [] "export interface Entry" ∧ ¬ Opens body [] "export namespace Entry" := by
  have loaded : Registry.ofFiles [entriesFile] = .ok (Registry.assembled [entriesFile]) := rfl
  have distinct : ([entriesFile].flatMap File.declaredRefs).Nodup := by decide
  obtain ⟨output, generated⟩ : ∃ output,
      generate (Registry.assembled [entriesFile]) "a.proto" dialect {} = .ok output := ⟨_, rfl⟩
  obtain ⟨context, body, -, member, content, declares⟩ :=
    generate_declares_entry_iff loaded distinct
      (List.forall_mem_singleton.mpr plainNames_entriesFile) generated
  rw [List.mem_singleton.mp member] at declares
  have label : Walk entriesFile.messages [0, 0] ([pointSample.name] ++ [(stringEntry "Label").name])
      (stringEntry "Label") := .inside rfl (.here rfl)
  have entry : Walk entriesFile.messages [1] ([] ++ [(stringEntry "Entry").name])
      (stringEntry "Entry") := .here rfl
  obtain ⟨labelInterface, labelScope⟩ := declares _ _ _ label rfl
  obtain ⟨entryInterface, entryScope⟩ := declares _ _ _ entry rfl
  refine ⟨output, _, body, generated, content, fun opens => ?_, fun opens => ?_,
    entryInterface.mpr rfl, fun opens => ?_⟩
  · exact absurd (labelInterface.mp opens) (by decide)
  · exact absurd (labelScope.mp opens).1 (by decide)
  · exact absurd (entryScope.mp opens).2 (by decide)

/-- A map entry at the top of a file is declared like any other message. -/
theorem top_entry_declared :
    ¬ ∀ (files : List File) (registry : Registry) (fileName : String) (options : Options)
      (output : GeneratedFile), Registry.ofFiles files = .ok registry →
      (files.flatMap File.declaredRefs).Nodup → (∀ file ∈ files, file.PlainNames) →
      generate registry fileName dialect options = .ok output →
      ∀ file ∈ files, file.name = fileName →
      ∀ path around entry, Walk file.messages path (around ++ [entry.name]) entry →
        entry.mapEntry = true →
        ¬ Opens output.content (headersAround file.package around)
            ("export interface " ++ entry.name) ∧
          ¬ Opens output.content (headersAround file.package around)
            ("export namespace " ++ entry.name) := by
  intro undeclared
  have declared := undeclared [entriesFile] (Registry.assembled [entriesFile]) "a.proto" {} _ rfl
    (by decide) (List.forall_mem_singleton.mpr plainNames_entriesFile) rfl entriesFile
    (List.mem_singleton_self _) rfl [1] [] _ (.here rfl) rfl
  exact absurd declared.1 (by decide +kernel)

end RpcBindings.Declarations
