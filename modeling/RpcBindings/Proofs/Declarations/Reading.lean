/-
Module: RpcBindings.Proofs.Declarations.Reading
Purpose: Reading declared types back from the text of a declaration file.
Main exports: Declarations.DeclaredType, Declarations.readTypes, Declarations.Reads,
  Declarations.Declaration.types, Declarations.Declaration.Readable, Declarations.reads_steps,
  Declarations.Reads.readTypes_render
-/
import RpcBindings.Proofs.Declarations.PlainNames
import RpcBindings.Proofs.Store.Reading

namespace RpcBindings.Declarations

open Layout
open Store (between? between?_append between?_eq_none)

/-!
A reader takes the blocks of a declaration file for what their headers say.  An enum or an interface
declares a type; its reference is made of the namespaces around the block and of its own name.  The
steps of a file are read part by part: what a part declares does not depend on what follows it, and
it depends on what is around it only through the scope of the place.
-/

/-! ### Declared types -/

inductive TypeKind where
  | enumeration
  | interface
deriving Repr, DecidableEq

/-- A declared type as it is read: its reference, and the lines between its braces. -/
structure DeclaredType where
  kind : TypeKind
  ref : String
  lines : List String
deriving Repr, DecidableEq

/-- The name of the namespace that a header opens: one name inside a module, and a path of names for
the package. -/
def spaceName? (header : String) : Option String :=
  (between? "export namespace " "" header).or (between? "export declare namespace " "" header)

/-- The kind and the name of the type that a header opens. -/
def typeHeader? (header : String) : Option (TypeKind × String) :=
  ((between? "export enum " "" header).map fun name => (.enumeration, name)).or
    ((between? "export interface " "" header).map fun name => (.interface, name))

/-- The scope of what is declared inside some blocks of a module. -/
def scopeOf (module : String) (around : List String) : String :=
  Name.below module (around.filterMap spaceName?)

def declaredType? (module : String) (block : Block) : Option DeclaredType :=
  (typeHeader? block.header).map fun (kind, name) =>
    { kind, ref := Name.member (scopeOf module block.around) name, lines := block.lines }

/-- The types that some lines declare, inside the blocks `around` them. -/
def readTypesIn (module : String) (around lines : List String) : List DeclaredType :=
  (readBlocks around lines).filterMap (declaredType? module)

/-- The types that a text declares, in order.  `module` is the scope for which its top level
stands. -/
def readTypes (module text : String) : List DeclaredType :=
  readTypesIn module [] (readLines text)

/-! ### Headers -/

theorem between?_of_append (opening text : String) : between? opening "" (opening ++ text) =
    some text := by
  have read := between?_append opening text ""
  rwa [String.append_empty] at read

theorem typeHeader?_enum (name : String) :
    typeHeader? ("export enum " ++ name) = some (.enumeration, name) := by
  rw [typeHeader?, between?_of_append]
  rfl

theorem typeHeader?_interface (name : String) :
    typeHeader? ("export interface " ++ name) = some (.interface, name) := by
  have other : between? "export enum " "" ("export interface " ++ name) = none :=
    between?_eq_none 7 'e' rfl (by simp)
  rw [typeHeader?, other, between?_of_append]
  rfl

/-- A header that has neither keyword at its place declares no type. -/
theorem typeHeader?_eq_none {header : String} (noEnum : header.toList[7]? ≠ some 'e')
    (noInterface : header.toList[7]? ≠ some 'i') : typeHeader? header = none := by
  rw [typeHeader?, between?_eq_none 7 'e' rfl noEnum, between?_eq_none 7 'i' rfl noInterface]
  rfl

theorem spaceName?_inner (name : String) :
    spaceName? ("export namespace " ++ name) = some name := by
  rw [spaceName?, between?_of_append]
  rfl

theorem spaceName?_package (path : String) :
    spaceName? ("export declare namespace " ++ path) = some path := by
  have other : between? "export namespace " "" ("export declare namespace " ++ path) = none :=
    between?_eq_none 7 'n' rfl (by simp)
  rw [spaceName?, other, between?_of_append]
  rfl

theorem scopeOf_append_singleton {header name : String} (inner : spaceName? header = some name)
    (module : String) (around : List String) :
    scopeOf module (around ++ [header]) = Name.member (scopeOf module around) name := by
  simp [scopeOf, Name.below, Name.member, List.filterMap_append, inner, String.join_append,
    String.append_assoc]

/-! ### Parts of a file -/

/-- `Reads steps types`: the lines of the steps can be read back, and they declare these types,
wherever they stand.  `types` depends on the scope of the place. -/
structure Reads (steps : List Step) (types : String → List DeclaredType) : Prop where
  readable : ∀ step ∈ steps, step.Readable
  declares : ∀ module around rest,
    readTypesIn module around (steps.flatMap Step.written ++ rest) =
      types (scopeOf module around) ++ readTypesIn module around rest

theorem reads_nil : Reads [] fun _ => [] where
  readable := by simp
  declares := fun _ _ _ => rfl

/-- Steps that write plain lines declare nothing. -/
theorem reads_plain {steps : List Step} (readable : ∀ step ∈ steps, step.Readable)
    (plain : ∀ line ∈ steps.flatMap Step.written, PlainLine line) : Reads steps fun _ => [] where
  readable := readable
  declares module around rest := by
    rw [readTypesIn, readBlocks_plain plain]
    rfl

theorem reads_line {line : String} (plain : PlainLine line) : Reads [.line line] fun _ => [] := by
  apply reads_plain
  · exact List.forall_mem_singleton.mpr plain.toOneLine
  · exact List.forall_mem_singleton.mpr plain

theorem reads_lines {lines : List String} (plain : ∀ line ∈ lines, PlainLine line) :
    Reads [.lines lines] fun _ => [] := by
  apply reads_plain
  · exact List.forall_mem_singleton.mpr fun line member => (plain line member).toOneLine
  · simpa [Step.written] using plain

theorem reads_blank : Reads [.blank] fun _ => [] := by
  apply reads_plain
  · exact List.forall_mem_singleton.mpr trivial
  · exact List.forall_mem_singleton.mpr (by decide)

theorem Reads.append {first second : List Step}
    {firstTypes secondTypes : String → List DeclaredType} (one : Reads first firstTypes)
    (two : Reads second secondTypes) :
    Reads (first ++ second) fun scope => firstTypes scope ++ secondTypes scope where
  readable := List.forall_mem_append.mpr ⟨one.readable, two.readable⟩
  declares module around rest := by
    rw [List.flatMap_append, List.append_assoc, one.declares, two.declares, List.append_assoc]

theorem indentUnit_eq : Script.indentUnit = String.ofList (List.replicate 2 ' ') := by
  decide

/-- Code that was laid out elsewhere reads like the steps that it was made from. -/
theorem Reads.splice {steps : List Step} {types : String → List DeclaredType}
    (reads : Reads steps types) (level : Nat) :
    Reads [.splice (renderAt Script.indentUnit level steps)] types := by
  have writes : Writes (renderAt Script.indentUnit level steps) (steps.flatMap Step.written) :=
    writes_renderAt indentUnit_eq reads.readable level
  constructor
  · exact List.forall_mem_singleton.mpr ⟨_, writes⟩
  · intro module around rest
    have written : [Step.splice (renderAt Script.indentUnit level steps)].flatMap Step.written =
        steps.flatMap Step.written := by
      simp [Step.written, writes.readLines_eq]
    rw [written]
    exact reads.declares module around rest

/-! ### Blocks -/

section Blocks

variable {header after : String} {body : List Step} {inner : String → List DeclaredType}

/-- A block that is read declares what its header says, then what its body declares. -/
theorem Reads.block (reads : Reads body inner) (opening : OneLine (header ++ " \x7b"))
    (closing : Trailing ("\x7d" ++ after)) :
    (∀ step ∈ block (header ++ " ") body after, step.Readable) ∧
      ∀ module around rest,
        readTypesIn module around
            ((Layout.block (header ++ " ") body after).flatMap Step.written ++ rest) =
          (declaredType? module
              ⟨around, header, (body.flatMap Step.written ++ ("\x7d" ++ after) :: rest).takeWhile
                isPlain⟩).toList ++
            (inner (scopeOf module (around ++ [header])) ++ readTypesIn module around rest) := by
  refine ⟨readable_block opening closing reads.readable, fun module around rest => ?_⟩
  have back : readTypesIn module (around ++ [header]) (("\x7d" ++ after) :: rest) =
      readTypesIn module around rest := by
    rw [readTypesIn, readBlocks_ending closing, readTypesIn]
  rw [readTypesIn, readBlocks_block, ← back, ← reads.declares]
  cases declared : declaredType? module
      ⟨around, header, (body.flatMap Step.written ++ ("\x7d" ++ after) :: rest).takeWhile
        isPlain⟩ with
  | none => simp [declared, readTypesIn]
  | some type => simp [declared, readTypesIn]

/-- The block of a type, with one member to a line. -/
theorem reads_type {kind : TypeKind} {name : String} {members : List String}
    (named : typeHeader? header = some (kind, name)) (opening : OneLine (header ++ " \x7b"))
    (plain : ∀ member ∈ members, PlainLine member) :
    Reads (block (header ++ " ") [.lines members] "") fun scope =>
      [{ kind, ref := Name.member scope name, lines := members }] := by
  have closing : Trailing ("\x7d" ++ "") := by decide
  obtain ⟨readable, declares⟩ := (reads_lines plain).block opening closing
  refine ⟨readable, fun module around rest => ?_⟩
  have written : [Step.lines members].flatMap Step.written = members := by simp [Step.written]
  rw [declares, written, takeWhile_isPlain plain (by simp)]
  simp [declaredType?, named]

/-- Any other block declares what its body declares: in a scope of its own if it is a namespace. -/
theorem Reads.enclose (reads : Reads body inner) (untyped : typeHeader? header = none)
    (opening : OneLine (header ++ " \x7b")) (closing : Trailing ("\x7d" ++ after))
    {types : String → List DeclaredType}
    (placed : ∀ module around,
      inner (scopeOf module (around ++ [header])) = types (scopeOf module around)) :
    Reads (Layout.block (header ++ " ") body after) types := by
  obtain ⟨readable, declares⟩ := reads.block opening closing
  refine ⟨readable, fun module around rest => ?_⟩
  rw [declares, placed, declaredType?, untyped]
  rfl

end Blocks

/-! ### Trees of declarations -/

mutual

/-- The types that a declaration declares in a scope. -/
def Declaration.types (scope : String) : Declaration → List DeclaredType
  | .enumeration name members =>
      [{ kind := .enumeration, ref := Name.member scope name, lines := members.map enumMember }]
  | .interface name members =>
      [{ kind := .interface, ref := Name.member scope name, lines := members }]
  | .scope name body => typesIn (Name.member scope name) body

/-- The types that several declarations declare in a scope. -/
def typesIn (scope : String) : List Declaration → List DeclaredType
  | [] => []
  | declaration :: rest => declaration.types scope ++ typesIn scope rest

end

theorem typesIn_append (scope : String) (first second : List Declaration) :
    typesIn scope (first ++ second) = typesIn scope first ++ typesIn scope second := by
  induction first with
  | nil => rfl
  | cons declaration first inductionHypothesis =>
      rw [List.cons_append, typesIn, typesIn, inductionHypothesis, List.append_assoc]

/-- A declaration of which the lines can be read back: no name ends a line, and no member opens or
ends a block. -/
inductive Declaration.Readable : Declaration → Prop where
  | enumeration {name : String} {members : List String}
      (unbroken : '\n' ∉ name.toList)
      (plain : ∀ member ∈ members, PlainLine (enumMember member)) :
      Declaration.Readable (.enumeration name members)
  | interface {name : String} {members : List String}
      (unbroken : '\n' ∉ name.toList)
      (plain : ∀ member ∈ members, PlainLine member) :
      Declaration.Readable (.interface name members)
  | scope {name : String} {body : List Declaration}
      (unbroken : '\n' ∉ name.toList)
      (inside : ∀ declaration ∈ body, Declaration.Readable declaration) :
      Declaration.Readable (.scope name body)

/-- Parts of a file declare one after the other what each of them does. -/
theorem reads_spaced {parts : List (List Step)} {declarations : List Declaration}
    (each : List.Forall₂ (fun part declaration =>
      Reads part fun scope => declaration.types scope) parts declarations) :
    Reads (spaced parts) fun scope => typesIn scope declarations := by
  induction each with
  | nil => exact reads_nil
  | @cons part declaration parts declarations first others inductionHypothesis =>
      cases others with
      | nil => simpa [spaced, typesIn] using first
      | cons next rest =>
          have reads := (first.append reads_blank).append inductionHypothesis
          simpa only [spaced, typesIn, List.append_nil] using reads

theorem oneLine_header (keyword : String) {name : String} (unbroken : '\n' ∉ name.toList)
    (plain : PlainLine keyword) (some : keyword ≠ "") : OneLine (keyword ++ name ++ " \x7b") := by
  have spaceOpen : '\n' ∉ " \x7b".toList := by decide
  constructor
  · simp only [String.toList_append, List.mem_append]
    exact not_or.mpr ⟨not_or.mpr ⟨plain.unbroken, unbroken⟩, spaceOpen⟩
  · have inhabited : keyword.toList ≠ [] := by simpa using some
    rw [String.append_assoc, String.toList_append, List.head?_append_of_ne_nil _ inhabited]
    exact plain.unindented

/-- The steps of a declaration declare its types. -/
theorem reads_steps {declaration : Declaration} (readable : declaration.Readable) :
    Reads declaration.steps fun scope => declaration.types scope := by
  induction readable with
  | @enumeration name members unbroken plain =>
      exact reads_type (typeHeader?_enum name) (oneLine_header _ unbroken (by decide) (by decide))
        (List.forall_mem_map.mpr plain)
  | @interface name members unbroken plain =>
      exact reads_type (typeHeader?_interface name)
        (oneLine_header _ unbroken (by decide) (by decide)) plain
  | @scope name body unbroken inside inductionHypothesis =>
      have reads : Reads (spaced (bodySteps body)) fun scope => typesIn scope body := by
        rw [bodySteps_eq]
        exact reads_spaced (List.forall₂_map_left_iff.mpr
          (List.forall₂_same.mpr inductionHypothesis))
      have untyped : typeHeader? ("export namespace " ++ name) = none :=
        typeHeader?_eq_none (by simp) (by simp)
      refine reads.enclose untyped (oneLine_header _ unbroken (by decide) (by decide)) (by decide)
        fun module around => ?_
      rw [scopeOf_append_singleton (spaceName?_inner name), Declaration.types]

/-! ### Whole files -/

/-- The types that some steps declare are read from their text. -/
theorem Reads.readTypes_render {steps : List Step} {types : String → List DeclaredType}
    (reads : Reads steps types) (module : String) :
    readTypes module (render Script.indentUnit steps) = types module := by
  have writes : Writes (render Script.indentUnit steps) (steps.flatMap Step.written) :=
    writes_renderAt indentUnit_eq reads.readable 0
  have top : scopeOf module [] = module := by simp [scopeOf]
  have last : readTypesIn module [] [""] = [] := by
    have empty : ∀ line ∈ [""], PlainLine line := List.forall_mem_singleton.mpr (by decide)
    rw [readTypesIn, ← List.append_nil [""], readBlocks_plain empty]
    rfl
  rw [readTypes, writes.readLines_eq, reads.declares, top, last, List.append_nil]

end RpcBindings.Declarations
