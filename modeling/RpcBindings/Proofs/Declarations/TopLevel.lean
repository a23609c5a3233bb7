/-
Module: RpcBindings.Proofs.Declarations.TopLevel
Purpose: The declarations in the text of a declaration file, and the names at its top level.
Main exports: Declarations.treeSteps, Declarations.renderAt_spaced,
  Declarations.render_packageSteps, File.Exports, Declarations.declares_fileTree_iff
-/
import RpcBindings.Proofs.Declarations.Scoping

namespace RpcBindings

open Layout

/-!
A module exports what stands at its top level.  A package of one segment puts its types and services
there; a longer one puts the one namespace there that holds them.
-/

namespace Declarations

/-! ### The text of declarations -/

/-- The declarations of a package as code, inside the namespace of the package. -/
def treeSteps (package : String) (declarations : List Declaration) : List Step :=
  match namespacePath? package with
  | some path =>
      block ("export declare namespace " ++ path ++ " ") (spaced (bodySteps declarations)) ""
  | none => spaced (bodySteps declarations)

theorem balanced_spaced {parts : List (List Step)} (each : ∀ part ∈ parts, Balanced part) :
    Balanced (spaced parts) := by
  fun_induction spaced parts with
  | case1 => exact balanced_nil
  | case2 part => exact each part (List.mem_singleton_self _)
  | case3 part next rest inductionHypothesis =>
      obtain ⟨first, others⟩ := List.forall_mem_cons.mp each
      exact (first.append (balanced_singleton fun _ => rfl)).append (inductionHypothesis others)

mutual

theorem balanced_declaration : ∀ declaration : Declaration, Balanced declaration.steps
  | .enumeration _ _ => (balanced_singleton fun _ => rfl).block _ _
  | .interface _ _ => (balanced_singleton fun _ => rfl).block _ _
  | .scope _ body => (balanced_spaced (balanced_bodySteps body)).block _ _

theorem balanced_bodySteps :
    ∀ (declarations : List Declaration), ∀ part ∈ bodySteps declarations, Balanced part
  | [] => List.forall_mem_nil _
  | declaration :: rest =>
      List.forall_mem_cons.mpr ⟨balanced_declaration declaration, balanced_bodySteps rest⟩

end

/-- Parts of a file that keep the level are written with an empty line between any two. -/
theorem renderAt_spaced {parts : List (List Step)} (each : ∀ part ∈ parts, Balanced part)
    (unit : String) (level : Nat) :
    renderAt unit level (spaced parts) = "\n".intercalate (parts.map (renderAt unit level)) := by
  fun_induction spaced parts with
  | case1 => rfl
  | case2 part => simp
  | case3 part next rest inductionHypothesis =>
      obtain ⟨first, others⟩ := List.forall_mem_cons.mp each
      have front : Balanced (part ++ [.blank]) := first.append (balanced_singleton fun _ => rfl)
      rw [renderAt_append_of_balanced _ front, renderAt_append_of_balanced _ first,
        inductionHypothesis others]
      exact String.intercalate_cons_cons.symm

/-- Each part of the declarations of a file ends where it begins. -/
theorem balanced_parts (declarations : List Declaration) (services : List String) :
    ∀ part ∈ bodySteps declarations ++ services.map fun service => [.splice service],
      Balanced part := by
  intro part member
  rcases List.mem_append.mp member with ofTypes | ofServices
  · exact balanced_bodySteps declarations part ofTypes
  · obtain ⟨service, -, rfl⟩ := List.mem_map.mp ofServices
    exact balanced_singleton fun _ => rfl

/-- The text of a file's declarations is that of the types and services of its package. -/
theorem render_packageSteps {registry : Registry} {options : Options} {file : File}
    {contexts : List ServiceContext}
    (bound : dialect.BoundServices registry options file contexts) :
    render Script.indentUnit (packageSteps (dialect.fileContext registry options file contexts)) =
      render Script.indentUnit
        (treeSteps file.package (packageDeclarations registry file options)) := by
  let scope := Scope.ofFile registry file options
  have balanced := balanced_parts (ofFile scope) (contexts.map dialect.renderService)
  have otherBalanced := balanced_bodySteps (packageDeclarations registry file options)
  have body : renderAt Script.indentUnit (namespaceLevel file.package)
      (spaced (bodySteps (ofFile scope) ++
        (contexts.map dialect.renderService).map fun service => [.splice service])) =
      renderAt Script.indentUnit (namespaceLevel file.package)
        (spaced (bodySteps (packageDeclarations registry file options))) := by
    rw [renderAt_spaced balanced, renderAt_spaced otherBalanced, packageDeclarations, bodySteps_eq,
      bodySteps_eq, services_eq bound]
    simp [Function.comp_def, scope]
  unfold packageSteps treeSteps render
  rw [namespaceLevel] at body
  simp only [Dialect.fileContext]
  cases path? : namespacePath? file.package with
  | none =>
      rw [path?] at body
      exact body
  | some path =>
      rw [path?] at body
      rw [renderAt_block _ (balanced_spaced balanced), renderAt_block _
        (balanced_spaced otherBalanced)]
      exact congrArg (_ ++ · ++ _) body

/-! ### Exported names -/

/-- Each declaration of a message has its name. -/
theorem name_eq_of_mem_ofMessage {scope : Scope} {message : Message} {declaration : Declaration}
    (member : declaration ∈ ofMessage scope message) : declaration.name = message.name := by
  rw [ofMessage_eq] at member
  rcases List.mem_cons.mp member with rfl | inner
  · rfl
  · split at inner
    · cases inner
    · rw [List.mem_singleton.mp inner]
      rfl

end Declarations

/-- What the module of a file exports: the outermost namespace of the package below its root, or, if
there is none, the types at the top of the file and the interfaces of its services. -/
def File.Exports (file : File) (name : String) : Prop :=
  match Declarations.packagePath file.package with
  | outer :: _ => name = outer
  | [] =>
      (∃ enum ∈ file.enums, name = enum.name) ∨ (∃ message ∈ file.messages, name = message.name) ∨
        ∃ service ∈ file.services, name = service.name ++ "Service"

namespace Declarations

theorem declares_iff {declarations : List Declaration} {name : String} :
    declares declarations name = true ↔ ∃ declaration ∈ declarations, name = declaration.name := by
  simp only [declares, List.any_eq_true, beq_iff_eq, @eq_comm _ name]

theorem declares_packageDeclarations_iff (registry : Registry) (file : File) (options : Options)
    {name : String} :
    declares (packageDeclarations registry file options) name = true ↔
      (∃ enum ∈ file.enums, name = enum.name) ∨ (∃ message ∈ file.messages, name = message.name) ∨
        ∃ service ∈ file.services, name = service.name ++ "Service" := by
  rw [declares_iff]
  constructor
  · intro declared
    obtain ⟨declaration, member, rfl⟩ := declared
    rcases List.mem_append.mp member with ofTypes | ofServices
    · rcases List.mem_append.mp ofTypes with ofEnums | ofMessages
      · obtain ⟨enum, enumMember, rfl⟩ := List.mem_map.mp ofEnums
        exact Or.inl ⟨enum, enumMember, rfl⟩
      · obtain ⟨message, messageMember, made⟩ := List.mem_flatMap.mp ofMessages
        exact Or.inr (Or.inl ⟨message, messageMember, name_eq_of_mem_ofMessage made⟩)
    · obtain ⟨service, serviceMember, rfl⟩ := List.mem_map.mp ofServices
      exact Or.inr (Or.inr ⟨service, serviceMember, rfl⟩)
  · intro named
    rcases named with ⟨enum, member, rfl⟩ | ⟨message, member, rfl⟩ | ⟨service, member, rfl⟩
    · exact ⟨ofEnum enum, List.mem_append_left _
        (List.mem_append_left _ (List.mem_map_of_mem member)), rfl⟩
    · let scope := Scope.ofFile registry file options
      have made : Declaration.interface message.name (message.fields.map scope.memberOf) ∈
          file.messages.flatMap (ofMessage scope) :=
        interface_mem_iff.mpr ⟨message, member, rfl, rfl⟩
      exact ⟨_, List.mem_append_left _ (List.mem_append_right _ made), rfl⟩
    · exact ⟨_, List.mem_append_right _ (List.mem_map_of_mem member), rfl⟩

/-- The names at the top of a file's declarations are those that its module exports. -/
theorem declares_fileTree_iff (registry : Registry) (file : File) (options : Options)
    {name : String} :
    declares (fileTree registry file options) name = true ↔ file.Exports name := by
  unfold fileTree File.Exports
  cases packagePath file.package with
  | nil => exact declares_packageDeclarations_iff registry file options
  | cons outer path => simp [wrapped, declares_iff, Declaration.name]

end Declarations

end RpcBindings
