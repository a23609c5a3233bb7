/-
Module: RpcBindings.Proofs.Declarations.Contents
Purpose: What is read back from a declaration file is the types of the file it was made for.
Main exports: Declarations.packageModule, Declarations.reads_imports, Declarations.reads_fileSteps,
  Declarations.generate_reads_types
-/
import RpcBindings.Proofs.Declarations.Listing
import RpcBindings.Proofs.TypeImports.Modules

namespace RpcBindings.Declarations

open Layout TypeImports

/-!
Around the declarations of a file stand a heading, imports, and the namespace of the package.  The
first two declare nothing.  The namespace holds the segments of the package below its root, and the
root is what the module stands for.
-/

/-! ### Imports -/

theorem reads_flatMap {α : Type} {items : List α} {stepsOf : α → List Step}
    (each : ∀ item ∈ items, Reads (stepsOf item) fun _ => []) :
    Reads (items.flatMap stepsOf) fun _ => [] := by
  induction items with
  | nil => exact reads_nil
  | cons item items inductionHypothesis =>
      obtain ⟨first, others⟩ := List.forall_mem_cons.mp each
      rw [List.flatMap_cons]
      exact first.append (inductionHypothesis others)

theorem plainLine_of_mem_withCommas {items : List String} (plain : ∀ item ∈ items, PlainLine item) :
    ∀ line ∈ withCommas items, PlainLine line := by
  intro line member
  obtain ⟨item, itemMember, rfl | rfl⟩ := exists_of_mem_withCommas member
  · exact plain line itemMember
  · exact (plain item itemMember).append (by decide)

/-- The line that imports a root declares nothing. -/
theorem reads_namespaceStep {entry : String × String} (root : Name.Clean entry.1)
    (module : Trailing entry.2) : Reads [namespaceStep entry] fun _ => [] := by
  have opening : PlainLine "import * as " := by decide
  have between : Trailing " from '" := by decide
  have closing : Trailing "'" := by decide
  apply reads_line
  simp only [String.append_assoc]
  exact opening.extend (by decide)
    (root.plainLine.trailing.append (between.append (module.append closing)))

/-- The block that imports names from a module declares nothing. -/
theorem reads_importSteps {names : List String} {module : String}
    (clean : ∀ name ∈ names, Name.Clean name) (trailing : Trailing module) :
    Reads (Script.importSteps "import" names module) fun _ => [] := by
  have listed : Reads [.lines (withCommas names)] fun _ => [] :=
    reads_lines (plainLine_of_mem_withCommas fun name member => (clean name member).plainLine)
  have closing : Trailing ("\x7d" ++ (" from '" ++ module ++ "'")) := by
    have front : Trailing ("\x7d" ++ " from '") := by decide
    have quote : Trailing "'" := by decide
    rw [← String.append_assoc, ← String.append_assoc]
    exact (front.append trailing).append quote
  have block : Reads (block ("import" ++ " ") [.lines (withCommas names)]
      (" from '" ++ module ++ "'")) fun _ => [] :=
    listed.enclose (by decide) ⟨by decide, by decide⟩ closing fun _ _ => rfl
  unfold Script.importSteps Script.nameListSteps
  split
  · exact reads_nil
  · exact block.append reads_blank

/-- Imports declare nothing where roots and names are clean and modules hold no line ends. -/
theorem reads_imports {imports : TypeImports}
    (roots : ∀ entry ∈ imports.namespaces, Name.Clean entry.1 ∧ Trailing entry.2)
    (named : ∀ entry ∈ imports.named, Trailing entry.1 ∧ ∀ name ∈ entry.2.toList, Name.Clean name) :
    Reads imports.steps fun _ => [] := by
  have namespaces : Reads (imports.namespaces.map namespaceStep) fun _ => [] := by
    rw [List.map_eq_flatMap]
    exact reads_flatMap fun entry member =>
      reads_namespaceStep (roots entry member).1 (roots entry member).2
  have gap : Reads (if imports.hasNamespaces then [.blank] else []) fun _ => [] := by
    split
    · exact reads_blank
    · exact reads_nil
  have names : Reads (imports.named.flatMap fun entry =>
      Script.importSteps "import" entry.2.toList entry.1) fun _ => [] :=
    reads_flatMap fun entry member =>
      reads_importSteps (named entry member).2 (named entry member).1
  exact (namespaces.append gap).append names

theorem trailing_declarationModule {name : String} (unbraced : Unbraced name) :
    Trailing (Path.declarationModule name) := by
  have stem : Trailing (Path.stem name) := by
    constructor
    · exact fun member => unbraced.unbroken (Path.mem_of_mem_stem member)
    · exact fun last => unbraced.unopened (Path.mem_of_mem_stem (List.mem_of_getLast? last))
  have front : Trailing "./" := by decide
  have behind : Trailing ".d" := by decide
  exact (front.append stem).append behind

theorem clean_firstSegment {path : String} (clean : Name.Clean path) :
    Name.Clean (firstSegment path) := by
  intro c member
  rw [firstSegment, String.toList_ofList] at member
  exact clean c (List.takeWhile_subset _ member)

/-- The imports of a plain file declare nothing. -/
theorem reads_typeImports {files : List File} (compatible : Compatible files)
    (allPlain : ∀ file ∈ files, file.Plain) {context : FileContext}
    (member : context.file ∈ files) (registry : context.registry = Registry.assembled files) :
    Reads (typeImports context).steps fun _ => [] := by
  have imports : typeImports context = ofLocations context.moduleOf
      (TypeImports.locations context.registry (fun file => file.name != context.file.name)
        (typeRefs context.file)) := ofRefs_eq _ _ _ _
  have declared : ∀ location ∈ TypeImports.locations context.registry
      (fun file => file.name != context.file.name) (typeRefs context.file),
      location.file ∈ files ∧ Name.Clean location.localName ∧
        Trailing (context.moduleOf location.file) := by
    intro location listed
    obtain ⟨ref, used, located, elsewhere⟩ := mem_locations_iff.mp listed
    rw [registry] at located
    have found := (Registry.locate_assembled_eq_ok_iff compatible).mp located
    have plainRef := plainRef_of_mem_typeRefs (allPlain context.file member) ref used
    refine ⟨found.member, clean_localName plainRef found, ?_⟩
    rw [FileContext.moduleOf, if_neg (bne_iff_ne.mp elsewhere)]
    exact trailing_declarationModule (allPlain location.file found.member).name
  rw [imports]
  apply reads_imports
  · intro entry bound
    obtain ⟨location, listed, rfl⟩ := exists_of_mem_roots bound
    obtain ⟨fileMember, -, module⟩ := declared location listed
    exact ⟨clean_firstSegment (Name.clean_of_plainPath (allPlain _ fileMember).package), module⟩
  · intro entry bound
    constructor
    · obtain ⟨location, listed, same⟩ := exists_of_mem_named_modules bound
      exact same ▸ (declared location listed).2.2
    · intro name taken
      obtain ⟨location, listed, -, rfl⟩ := exists_of_mem_taken bound taken
      exact clean_firstSegment (declared location listed).2.1

/-! ### The namespace of the package -/

/-- What the top level of a module stands for: the root of the package. -/
def packageModule (package : String) : String :=
  Name.packagePrefix (firstSegment package)

/-- The scope of the declarations of a package, in its module. -/
def packageScope (package module : String) : String :=
  match namespacePath? package with
  | some path => Name.member module path
  | none => module

/-- A package is its root, and what follows it if there is more. -/
theorem package_eq (package : String) :
    package = match namespacePath? package with
      | some path => firstSegment package ++ "." ++ path
      | none => firstSegment package := by
  have split : package.toList = (firstSegment package).toList ++
      package.toList.dropWhile fun c => c != '.' := by
    rw [firstSegment, String.toList_ofList, List.takeWhile_append_dropWhile]
  rw [namespacePath?]
  cases rest : package.toList.dropWhile fun c => c != '.' with
  | nil =>
      rw [rest, List.append_nil, String.toList_inj] at split
      exact split
  | cons c path =>
      have dot : c = '.' := by
        have inhabited : (package.toList.dropWhile fun c => c != '.') ≠ [] := by simp [rest]
        have head := List.head_dropWhile_not (fun c => c != '.') inhabited
        simpa [rest] using head
      rw [rest, dot] at split
      simp [← String.toList_inj, split]

theorem unbroken_of_namespacePath? {package path : String} (plain : Name.PlainPath package)
    (found : namespacePath? package = some path) : '\n' ∉ path.toList := by
  have split := package_eq package
  rw [found] at split
  intro inside
  have member : '\n' ∈ package.toList := by
    rw [split]
    simp [inside]
  exact (Name.clean_of_plainPath plain).plainLine.unbroken member

theorem undotted_of_plainPath {path : String} (plain : Name.PlainPath path) :
    Name.Undotted path := by
  intro head
  rcases plain with rfl | identifiers
  · cases head
  · obtain ⟨rest, chars⟩ := List.head?_eq_some_iff.mp head
    have first : "" ∈ Name.segments path := by
      rw [Name.segments, chars, List.splitOn, List.splitOnP_cons_eq_if_modifyHead]
      simp
    exact absurd (identifiers "" first) (by decide)

/-- The scope of a file is that of its package in the file's module. -/
theorem packageScope_packageModule {package : String} (plain : Name.PlainPath package) :
    packageScope package (packageModule package) = Name.packagePrefix package := by
  have split := package_eq package
  unfold packageScope packageModule
  cases path? : namespacePath? package with
  | none =>
      rw [path?] at split
      exact congrArg Name.packagePrefix split.symm
  | some path =>
      rw [path?] at split
      have named : package ≠ "" := by
        intro unnamed
        rw [unnamed] at path?
        cases path?
      have rooted : firstSegment package ≠ "" := fun unrooted =>
        named ((firstSegment_eq_empty_iff (undotted_of_plainPath plain)).mp unrooted)
      have dotted : "." ++ package = "." ++ (firstSegment package ++ "." ++ path) :=
        congrArg ("." ++ ·) split
      rw [Name.packagePrefix, if_neg rooted, Name.packagePrefix, if_neg named, dotted]
      simp only [Name.member, String.append_assoc]

/-! ### Whole files -/

theorem reads_headingSteps {inputId : String} (trailing : Trailing inputId) :
    Reads (Script.headingSteps plugin inputId) fun _ => [] := by
  have author : PlainLine ("// Code generated by " ++ plugin ++ " DO NOT EDIT.") := by decide
  have opening : PlainLine "// InputID: " := by decide
  exact (reads_line author).append (reads_line (opening.extend (by decide) trailing))

/-- The declarations of a package are read in the scope of the package. -/
theorem reads_packageSteps {context : FileContext} {declarations : List Declaration}
    (package : Name.PlainPath context.file.package)
    (body : List.Forall₂ (fun part declaration => Reads part fun scope => declaration.types scope)
      (bodySteps (ofFile (Scope.ofFile context.registry context.file context.options)) ++
        context.services.map fun service => [.splice service]) declarations) :
    Reads (packageSteps context) fun module =>
      typesIn (packageScope context.file.package module) declarations := by
  have reads := reads_spaced body
  unfold packageSteps packageScope
  cases path? : namespacePath? context.file.package with
  | none => exact reads
  | some path =>
      have unbroken := unbroken_of_namespacePath? package path?
      have untyped : typeHeader? ("export declare namespace " ++ path) = none :=
        typeHeader?_eq_none (by simp) (by simp)
      refine reads.enclose untyped (oneLine_header _ unbroken (by decide) (by decide)) (by decide)
        fun module around => ?_
      rw [scopeOf_append_singleton (spaceName?_package path)]

/-- The types that are read from a whole file are those that its package declares. -/
theorem reads_fileSteps {files : List File} (compatible : Compatible files)
    (allPlain : ∀ file ∈ files, file.Plain) {options : Options}
    (heading : ∀ inputId ∈ options.inputId, Unbraced inputId) {file : File} (member : file ∈ files)
    {contexts : List ServiceContext}
    (bound : dialect.BoundServices (Registry.assembled files) options file contexts) :
    Reads (fileSteps (dialect.fileContext (Registry.assembled files) options file contexts))
      fun module => typesIn (packageScope file.package module)
        (packageDeclarations (Registry.assembled files) file options) := by
  have plain := allPlain file member
  have readable := readable_packageDeclarations compatible
    (fun other otherMember => (allPlain other otherMember).plainNames) plain.plainNames options
  have inputId : Trailing (options.inputId.getD file.name) := by
    cases given : options.inputId with
    | none => exact plain.name.trailing
    | some inputId => exact (heading inputId given).trailing
  have types : List.Forall₂
      (fun part declaration => Reads part fun scope => Declaration.types scope declaration)
      (bodySteps (ofFile (Scope.ofFile (Registry.assembled files) file options)))
      (ofFile (Scope.ofFile (Registry.assembled files) file options)) := by
    rw [bodySteps_eq]
    exact List.forall₂_map_left_iff.mpr (List.forall₂_same.mpr fun declaration declared =>
      reads_steps (readable declaration (List.mem_append_left _ declared)))
  have services : List.Forall₂
      (fun part declaration => Reads part fun scope => Declaration.types scope declaration)
      ((contexts.map dialect.renderService).map fun service => [.splice service])
      (file.services.map
        (serviceDeclaration (Scope.ofFile (Registry.assembled files) file options) options)) := by
    rw [services_eq bound, List.map_map]
    refine List.forall₂_map_left_iff.mpr (List.forall₂_map_right_iff.mpr
      (List.forall₂_same.mpr fun service declared => ?_))
    exact (reads_steps (readable _ (List.mem_append_right _
      (List.mem_map_of_mem declared)))).splice _
  have imports := reads_typeImports compatible allPlain
    (show (dialect.fileContext (Registry.assembled files) options file contexts).file ∈ files from
      member) rfl
  exact (((reads_headingSteps inputId).append reads_blank).append imports).append
    (reads_packageSteps plain.package (List.rel_append types services))

/-- What is read back from a declaration file: the types of its file, and after them an interface
for each service.  References are made of the root of the package, for which the module stands, and
of the namespaces around a type.  The types are the enums of the file, then its messages, each
directly followed by its enums and then by the messages inside it, and an interface has one member
for each field of its message, in the order of the fields.  These are the references that the
registry collects from the file, each once, with the exception of map entries inside messages and of
what lies in them. -/
theorem generate_reads_types {files : List File} {registry : Registry} {fileName : String}
    {options : Options} {output : GeneratedFile}
    (loaded : Registry.ofFiles files = .ok registry)
    (distinct : (files.flatMap File.declaredRefs).Nodup)
    (plain : ∀ file ∈ files, file.Plain)
    (heading : ∀ inputId ∈ options.inputId, Unbraced inputId)
    (generated : generate registry fileName dialect options = .ok output) :
    ∃ file scope, file ∈ files ∧ file.name = fileName ∧
      scope = Scope.ofFile registry file options ∧
      readTypes (packageModule file.package) output.content =
        fileTypes scope ++ file.services.map (serviceType scope options) ∧
      ((fileTypes scope).map DeclaredType.ref).Nodup ∧
      ∀ ref, ref ∈ (fileTypes scope).map DeclaredType.ref ↔
        ref ∈ file.declaredRefs ∧ ref ∉ file.entryRefs := by
  obtain ⟨compatible, rfl⟩ := Registry.ofFiles_eq_ok_iff.mp loaded
  obtain ⟨file, contexts, known, -, bound, rfl⟩ := generate_eq_ok_iff.mp generated
  obtain ⟨member, rfl⟩ := mem_of_file?_eq_ok known
  refine ⟨file, Scope.ofFile (Registry.assembled files) file options, member, rfl, rfl, ?_, ?_⟩
  · have reads := reads_fileSteps compatible plain heading member bound
    refine (reads.readTypes_render (packageModule file.package)).trans ?_
    rw [packageScope_packageModule (plain file member).package]
    exact typesIn_packageDeclarations (Registry.assembled files) file options
  · have perm := perm_declaredRefs (Scope.ofFile (Registry.assembled files) file options)
    have once := (List.nodup_flatMap.mp distinct).1 file member
    obtain ⟨types, -, apart⟩ := List.nodup_append.mp (perm.nodup_iff.mp once)
    refine ⟨types, fun ref => ?_⟩
    have collected := perm.mem_iff (a := ref)
    rw [List.mem_append] at collected
    constructor
    · intro declared
      exact ⟨collected.mpr (Or.inl declared), fun entry => apart ref declared ref entry rfl⟩
    · intro listed
      exact (collected.mp listed.1).resolve_right listed.2

/-- A message with an enum inside it, and with a map, whose entry is inside it too. -/
def labelledSample : Message :=
  { name := "Shape"
    fields :=
      [{ name := "kind", kind := .enum, typeName := some ".acme.geo.Shape.Kind" },
       { name := "labels", kind := .message, label := .repeated,
         typeName := some ".acme.geo.Shape.Label" }]
    nested :=
      [Message.entry "Label" { name := "key", kind := .string } { name := "value", kind := .bool }]
    enums := [Enum.ofNames "Kind" ["LINE"]] }

/-- A service that takes such messages, in a package of two segments. -/
def labelledFile : File :=
  { name := "shape.proto", package := "acme.geo", messages := [labelledSample]
    services :=
      [{ name := "Draw"
         methods := [Method.unary "Put" ".acme.geo.Shape" ".acme.geo.Shape"] }] }

theorem plain_labelledFile : labelledFile.Plain where
  name := ⟨by decide, by decide, by decide⟩
  package := by decide
  enums := List.forall_mem_nil _
  messages := by
    have entry : (Message.entry "Label" { name := "key", kind := .string }
        { name := "value", kind := .bool }).Plain :=
      .intro (by decide) (by decide) (List.forall_mem_nil _) (List.forall_mem_nil _)
    exact List.forall_mem_singleton.mpr
      (.intro (by decide) (by decide) (by decide) (List.forall_mem_singleton.mpr entry))
  services := List.forall_mem_singleton.mpr ⟨by decide, by decide⟩

/-- The entry of the map is part of a member and not declared. -/
theorem generate_reads_types_labelledFile :
    ∃ output, generate (Registry.assembled [labelledFile]) "shape.proto" dialect {} = .ok output ∧
      readTypes ".acme" output.content =
        [⟨.interface, ".acme.geo.Shape",
            ["kind?: Shape.Kind;", "labels?: \x7b [key: string]: boolean \x7d;"]⟩,
         ⟨.enumeration, ".acme.geo.Shape.Kind", ["LINE = \"LINE\","]⟩,
         ⟨.interface, ".acme.geo.DrawService", ["Put: (r: Shape) => Shape;"]⟩] := by
  have loaded : Registry.ofFiles [labelledFile] = .ok (Registry.assembled [labelledFile]) := rfl
  have distinct : ([labelledFile].flatMap File.declaredRefs).Nodup := by decide
  have plain : ∀ file ∈ [labelledFile], file.Plain :=
    List.forall_mem_singleton.mpr plain_labelledFile
  obtain ⟨output, generated⟩ : ∃ output,
      generate (Registry.assembled [labelledFile]) "shape.proto" dialect {} = .ok output := ⟨_, rfl⟩
  obtain ⟨file, scope, member, -, rfl, types, -, -⟩ :=
    generate_reads_types loaded distinct plain (by simp) generated
  obtain rfl := List.mem_singleton.mp member
  exact ⟨output, generated, types.trans (by decide)⟩

end RpcBindings.Declarations
