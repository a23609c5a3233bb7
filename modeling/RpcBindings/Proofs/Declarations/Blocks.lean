/-
Module: RpcBindings.Proofs.Declarations.Blocks
Purpose: The blocks that the text of a package opens are those of its declarations.
Main exports: Declarations.Opens, Declarations.headersAround, Declarations.mem_openedIn_iff,
  Declarations.opens_interface_iff, Declarations.opens_scope_iff
-/
import RpcBindings.Proofs.Declarations.Contents
import RpcBindings.Proofs.Declarations.TopLevel

namespace RpcBindings.Declarations

open Layout

/-!
A declaration is found in the text of a file by what opens its block: the keyword and the name in
its header, and the headers of the namespaces around it.  The text of a package opens the blocks of
the declarations that lie in it, at any depth, and no others but that of its own namespace.
-/

/-! ### Opened blocks -/

/-- The blocks that some lines open, each with the headers of the blocks around it. -/
def readOpened (around lines : List String) : List (List String × String) :=
  (readBlocks around lines).map fun block => (block.around, block.header)

/-- A text opens a block with this header, inside the blocks with the headers `around` it. -/
def Opens (text : String) (around : List String) (header : String) : Prop :=
  (around, header) ∈ readOpened [] (readLines text)

instance (text : String) (around : List String) (header : String) :
    Decidable (Opens text around header) :=
  inferInstanceAs (Decidable (_ ∈ _))

/-- The headers around what a file declares inside some messages. -/
def headersAround (package : String) (names : List String) : List String :=
  (namespacePath? package).toList.map ("export declare namespace " ++ ·) ++
    names.map ("export namespace " ++ ·)

def Declaration.header : Declaration → String
  | .enumeration name _ => "export enum " ++ name
  | .interface name _ => "export interface " ++ name
  | .scope name _ => "export namespace " ++ name

@[simp] theorem Declaration.header_enumeration (name : String) (members : List String) :
    (Declaration.enumeration name members).header = "export enum " ++ name := rfl

@[simp] theorem Declaration.header_interface (name : String) (members : List String) :
    (Declaration.interface name members).header = "export interface " ++ name := rfl

@[simp] theorem Declaration.header_scope (name : String) (body : List Declaration) :
    (Declaration.scope name body).header = "export namespace " ++ name := rfl

mutual

/-- The blocks that a declaration opens. -/
def Declaration.opened (around : List String) : Declaration → List (List String × String)
  | .enumeration name _ => [(around, "export enum " ++ name)]
  | .interface name _ => [(around, "export interface " ++ name)]
  | .scope name body =>
      (around, "export namespace " ++ name) ::
        openedIn (around ++ ["export namespace " ++ name]) body

/-- The blocks that several declarations open. -/
def openedIn (around : List String) : List Declaration → List (List String × String)
  | [] => []
  | declaration :: rest => declaration.opened around ++ openedIn around rest

end

/-! ### Reading the blocks of declarations -/

theorem readOpened_plain {lines : List String} (plain : ∀ line ∈ lines, PlainLine line)
    (around rest : List String) : readOpened around (lines ++ rest) = readOpened around rest := by
  rw [readOpened, readBlocks_plain plain, readOpened]

/-- A block is read, then what its body opens, and then what follows. -/
theorem readOpened_block {header : String} {body : List Step}
    {opened : List (List String × String)} {around : List String}
    (inside : ∀ rest, readOpened (around ++ [header]) (body.flatMap Step.written ++ rest) =
      opened ++ readOpened (around ++ [header]) rest)
    (rest : List String) :
    readOpened around ((block (header ++ " ") body "").flatMap Step.written ++ rest) =
      (around, header) :: opened ++ readOpened around rest := by
  have closing : Trailing ("\x7d" ++ "") := by decide
  have back : readOpened (around ++ [header]) (("\x7d" ++ "") :: rest) =
      readOpened around rest := by
    rw [readOpened, readBlocks_ending closing, readOpened]
  rw [List.cons_append, ← back, ← inside, readOpened, readBlocks_block, List.map_cons, readOpened]

/-- Between declarations stand empty lines, which open nothing. -/
theorem readOpened_spaced {declarations : List Declaration} {around : List String}
    (each : ∀ declaration ∈ declarations, ∀ rest,
      readOpened around (declaration.steps.flatMap Step.written ++ rest) =
        declaration.opened around ++ readOpened around rest)
    (rest : List String) :
    readOpened around ((spaced (bodySteps declarations)).flatMap Step.written ++ rest) =
      openedIn around declarations ++ readOpened around rest := by
  induction declarations with
  | nil => rfl
  | cons declaration declarations inductionHypothesis =>
      obtain ⟨first, others⟩ := List.forall_mem_cons.mp each
      cases declarations with
      | nil => simpa [bodySteps, spaced, openedIn] using first rest
      | cons next declarations =>
          have gap (rest : List String) :
              readOpened around ([Step.blank].flatMap Step.written ++ rest) =
                readOpened around rest :=
            readOpened_plain (by decide) around rest
          have below := inductionHypothesis others
          rw [bodySteps] at below ⊢
          rw [bodySteps, spaced, List.flatMap_append, List.flatMap_append, List.append_assoc,
            List.append_assoc, first, gap, below]
          exact (List.append_assoc ..).symm

theorem readOpened_lines {lines : List String} (plain : ∀ line ∈ lines, PlainLine line)
    (header : String) (around rest : List String) :
    readOpened around ((block (header ++ " ") [.lines lines] "").flatMap Step.written ++ rest) =
      [(around, header)] ++ readOpened around rest := by
  have written : [Step.lines lines].flatMap Step.written = lines := by simp [Step.written]
  have inside (rest : List String) :
      readOpened (around ++ [header]) ([Step.lines lines].flatMap Step.written ++ rest) =
        [] ++ readOpened (around ++ [header]) rest := by
    rw [written, readOpened_plain plain, List.nil_append]
  exact readOpened_block inside rest

theorem readOpened_steps {declaration : Declaration} (readable : declaration.Readable)
    (around rest : List String) :
    readOpened around (declaration.steps.flatMap Step.written ++ rest) =
      declaration.opened around ++ readOpened around rest := by
  induction readable generalizing around rest with
  | enumeration unbroken plain => exact readOpened_lines (List.forall_mem_map.mpr plain) _ _ rest
  | interface unbroken plain => exact readOpened_lines plain _ _ rest
  | scope unbroken inside inductionHypothesis =>
      rw [Declaration.opened]
      exact readOpened_block (readOpened_spaced fun declaration member =>
        inductionHypothesis declaration member _) rest

/-! ### Places of declarations -/

theorem openedIn_eq (around : List String) (declarations : List Declaration) :
    openedIn around declarations = declarations.flatMap (Declaration.opened around) := by
  induction declarations with
  | nil => rfl
  | cons declaration declarations inductionHypothesis =>
      rw [openedIn, inductionHypothesis, List.flatMap_cons]

theorem Within.of_subset {first second : List Declaration} (subset : first ⊆ second)
    {on : List String} {declaration : Declaration} (within : Within first on declaration) :
    Within second on declaration := by
  cases within with
  | here member => exact .here (subset member)
  | inside member rest => exact .inside (subset member) rest

theorem mem_openedIn_of_within {declarations : List Declaration} {on : List String}
    {declaration : Declaration} (within : Within declarations on declaration)
    (around : List String) :
    (around ++ on.map ("export namespace " ++ ·), declaration.header) ∈
      openedIn around declarations := by
  induction within generalizing around with
  | @here declarations declaration member =>
      rw [openedIn_eq, List.mem_flatMap]
      refine ⟨declaration, member, ?_⟩
      rw [List.map_nil, List.append_nil]
      cases declaration <;> exact List.mem_cons_self
  | @inside declarations body name on declaration member rest inductionHypothesis =>
      rw [openedIn_eq, List.mem_flatMap]
      refine ⟨_, member, List.mem_cons_of_mem _ ?_⟩
      simpa using inductionHypothesis (around ++ ["export namespace " ++ name])

mutual

theorem Declaration.exists_within_of_mem_opened :
    ∀ (declaration : Declaration) {around place : List String} {header : String},
      (place, header) ∈ declaration.opened around →
        ∃ on inner, Within [declaration] on inner ∧
          place = around ++ on.map ("export namespace " ++ ·) ∧ header = inner.header
  | .enumeration name members, around, place, header, member => by
      obtain ⟨rfl, rfl⟩ := Prod.mk.inj (List.mem_singleton.mp member)
      exact ⟨[], _, .here (List.mem_singleton_self _), by simp, rfl⟩
  | .interface name members, around, place, header, member => by
      obtain ⟨rfl, rfl⟩ := Prod.mk.inj (List.mem_singleton.mp member)
      exact ⟨[], _, .here (List.mem_singleton_self _), by simp, rfl⟩
  | .scope name body, around, place, header, member => by
      rcases List.mem_cons.mp member with same | inside
      · obtain ⟨rfl, rfl⟩ := Prod.mk.inj same
        exact ⟨[], _, .here (List.mem_singleton_self _), by simp, rfl⟩
      · obtain ⟨on, inner, within, rfl, rfl⟩ := exists_within_of_mem_openedIn body inside
        exact ⟨name :: on, inner, .inside (List.mem_singleton_self _) within, by simp, rfl⟩

theorem exists_within_of_mem_openedIn :
    ∀ (declarations : List Declaration) {around place : List String} {header : String},
      (place, header) ∈ openedIn around declarations →
        ∃ on inner, Within declarations on inner ∧
          place = around ++ on.map ("export namespace " ++ ·) ∧ header = inner.header
  | [], around, place, header, member => by cases member
  | declaration :: rest, around, place, header, member => by
      rcases List.mem_append.mp member with first | others
      · obtain ⟨on, inner, within, same⟩ := declaration.exists_within_of_mem_opened first
        exact ⟨on, inner, within.of_subset (by simp), same⟩
      · obtain ⟨on, inner, within, same⟩ := exists_within_of_mem_openedIn rest others
        exact ⟨on, inner, within.of_subset (List.subset_cons_self _ _), same⟩

end

/-- The blocks that declarations open are those of the declarations at any depth, each inside the
blocks of the namespaces that lead to it. -/
theorem mem_openedIn_iff {declarations : List Declaration} {around on : List String}
    {header : String} :
    (around ++ on.map ("export namespace " ++ ·), header) ∈ openedIn around declarations ↔
      ∃ declaration, declaration.header = header ∧ Within declarations on declaration := by
  constructor
  · intro opened
    obtain ⟨other, declaration, within, same, rfl⟩ := exists_within_of_mem_openedIn _ opened
    have names : on = other :=
      List.map_injective_iff.mpr (fun _ _ => String.append_right_inj _ |>.mp)
        (List.append_cancel_left same)
    exact ⟨declaration, rfl, names ▸ within⟩
  · intro declared
    obtain ⟨declaration, rfl, within⟩ := declared
    exact mem_openedIn_of_within within around

/-! ### Headers -/

/-- The keywords of two headers are told apart by the character behind `export`. -/
theorem header_eq_interface_iff {declaration : Declaration} {name : String} :
    declaration.header = "export interface " ++ name ↔
      ∃ members, .interface name members = declaration := by
  constructor
  · intro same
    have keyword := congrArg (fun header => header.toList[7]?) same
    cases declaration with
    | interface other members => exact ⟨members, by simpa using same.symm⟩
    | enumeration | scope => simp at keyword
  · rintro ⟨members, rfl⟩
    rfl

theorem header_eq_scope_iff {declaration : Declaration} {name : String} :
    declaration.header = "export namespace " ++ name ↔
      ∃ body, .scope name body = declaration := by
  constructor
  · intro same
    have keyword := congrArg (fun header => header.toList[7]?) same
    cases declaration with
    | scope other body => exact ⟨body, by simpa using same.symm⟩
    | enumeration | interface => simp at keyword
  · rintro ⟨body, rfl⟩
    rfl

theorem header_ne_package (declaration : Declaration) (path : String) :
    declaration.header ≠ "export declare namespace " ++ path := by
  intro same
  have keyword := congrArg String.toList same
  cases declaration <;> simp at keyword

/-! ### The text of a package -/

section Text

variable {package : String} {declarations : List Declaration}

theorem readable_treeSteps (plain : Name.PlainPath package)
    (readable : ∀ declaration ∈ declarations, declaration.Readable) :
    ∀ step ∈ treeSteps package declarations, step.Readable := by
  have body : ∀ step ∈ spaced (bodySteps declarations), step.Readable := by
    rw [bodySteps_eq]
    exact (reads_spaced (List.forall₂_map_left_iff.mpr (List.forall₂_same.mpr
      fun declaration member => reads_steps (readable declaration member)))).readable
  unfold treeSteps
  split
  · next path found =>
    have unbroken := unbroken_of_namespacePath? plain found
    exact readable_block (oneLine_header _ unbroken (by decide) (by decide)) (by decide) body
  · exact body

/-- The text of a package opens the block of its namespace, if there is one, and those of its
declarations. -/
theorem readOpened_treeSteps (readable : ∀ declaration ∈ declarations, declaration.Readable)
    (rest : List String) :
    readOpened [] ((treeSteps package declarations).flatMap Step.written ++ rest) =
      (namespacePath? package).toList.map (fun path => ([], "export declare namespace " ++ path)) ++
        openedIn (headersAround package []) declarations ++ readOpened [] rest := by
  have body (around rest : List String) :
      readOpened around ((spaced (bodySteps declarations)).flatMap Step.written ++ rest) =
        openedIn around declarations ++ readOpened around rest :=
    readOpened_spaced (fun declaration member => readOpened_steps (readable declaration member) _)
      rest
  unfold treeSteps headersAround
  cases namespacePath? package with
  | none => exact body [] rest
  | some path => exact readOpened_block (body _) rest

variable (plain : Name.PlainPath package)
  (readable : ∀ declaration ∈ declarations, declaration.Readable) {name : String}

include plain readable

/-- What a package declares inside some messages opens its block inside those of the messages'
namespaces. -/
theorem opens_iff_within (on : List String) (other : Declaration) :
    Opens (render Script.indentUnit (treeSteps package declarations)) (headersAround package on)
        other.header ↔
      ∃ declaration, declaration.header = other.header ∧ Within declarations on declaration := by
  have writes := writes_renderAt indentUnit_eq (readable_treeSteps plain readable) 0
  have last : readOpened [] [""] = [] := by decide
  have place : headersAround package on =
      headersAround package [] ++ on.map ("export namespace " ++ ·) := by simp [headersAround]
  have outside : (headersAround package on, other.header) ∉
      (namespacePath? package).toList.map fun path =>
        (([] : List String), "export declare namespace " ++ path) := by
    intro member
    obtain ⟨path, -, same⟩ := List.mem_map.mp member
    exact header_ne_package other path (congrArg Prod.snd same).symm
  rw [Opens, render, writes.readLines_eq, readOpened_treeSteps readable, last, List.append_nil,
    List.mem_append, or_iff_right outside, place, mem_openedIn_iff]

theorem opens_interface_iff {on : List String} :
    Opens (render Script.indentUnit (treeSteps package declarations)) (headersAround package on)
        ("export interface " ++ name) ↔
      ∃ members, Within declarations on (.interface name members) := by
  have opens := opens_iff_within plain readable on (.interface name [])
  simpa only [Declaration.header_interface, header_eq_interface_iff, exists_exists_eq_and]
    using opens

theorem opens_scope_iff {on : List String} :
    Opens (render Script.indentUnit (treeSteps package declarations)) (headersAround package on)
        ("export namespace " ++ name) ↔
      ∃ body, Within declarations on (.scope name body) := by
  have opens := opens_iff_within plain readable on (.scope name [])
  simpa only [Declaration.header_scope, header_eq_scope_iff, exists_exists_eq_and] using opens

end Text

end RpcBindings.Declarations
