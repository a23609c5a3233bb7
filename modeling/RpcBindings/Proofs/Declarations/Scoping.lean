/-
Module: RpcBindings.Proofs.Declarations.Scoping
Purpose: Which declaration a spelled name means, read where it is spelled.
Main exports: Name.segments, Declarations.read?, Declarations.Captured, Declarations.Outside,
  Declarations.read?_eq_some_iff, Declarations.read?_fileTree_iff
-/
import RpcBindings.Proofs.Declarations.Output
import RpcBindings.Proofs.Declarations.Places

namespace RpcBindings

/-! ### Dotted paths -/

/-- The names between the dots of a path. -/
def Name.segments (path : String) : List String :=
  (path.toList.splitOn '.').map String.ofList

/-- Names without dots are read back from the path that they make. -/
theorem Name.segments_eq {name : String} {names : List String}
    (plain : ∀ other ∈ name :: names, '.' ∉ other.toList) :
    Name.segments (name ++ String.join (names.map fun other => "." ++ other)) = name :: names := by
  have joined (first : List Char) (rest : List (List Char)) :
      first ++ rest.flatMap (fun other => '.' :: other) = ['.'].intercalate (first :: rest) := by
    induction rest generalizing first with
    | nil => simp
    | cons next rest inductionHypothesis =>
        rw [List.flatMap_cons, List.cons_append, inductionHypothesis]
        simp [List.intercalate]
  have chars : (name ++ String.join (names.map fun other => "." ++ other)).toList =
      ['.'].intercalate ((name :: names).map String.toList) := by
    rw [List.map_cons, ← joined]
    simp [List.flatMap_map]
  have apart : ∀ part ∈ (name :: names).map String.toList, '.' ∉ part := by
    intro part member
    obtain ⟨other, otherMember, rfl⟩ := List.mem_map.mp member
    exact plain other otherMember
  rw [Name.segments, chars, List.splitOn_intercalate '.' apart (by simp), List.map_map]
  simp

namespace Declarations

/-! ### Lexical scoping -/

/-!
A place lies in namespaces, one in the other.  The first segment of a name is looked up in the
innermost of them that declares it, then outwards up to the top; the other segments are followed
from there downwards.  Namespaces of one name at one place are one namespace.
-/

def Declaration.name : Declaration → String
  | .enumeration name _ | .interface name _ | .scope name _ => name

def declares (declarations : List Declaration) (name : String) : Bool :=
  declarations.any fun declaration => declaration.name == name

/-- What the namespace of a name holds. -/
def bodyOf (declarations : List Declaration) (name : String) : List Declaration :=
  declarations.flatMap fun declaration =>
    match declaration with
    | .scope other body => if other = name then body else []
    | _ => []

/-- What is held by the namespace to which a path leads. -/
def bodyAt (declarations : List Declaration) (path : List String) : List Declaration :=
  path.foldl bodyOf declarations

/-- Whether names can be followed downwards. -/
def follows : List Declaration → List String → Bool
  | _, [] => true
  | declarations, name :: names =>
      declares declarations name && follows (bodyOf declarations name) names

/-- The path to the innermost of some namespaces that declares a name, or the empty path for the
top. -/
def holder? : List Declaration → List String → String → Option (List String)
  | declarations, [], name => if declares declarations name then some [] else none
  | declarations, outer :: around, name =>
      match holder? (bodyOf declarations outer) around name with
      | some inner => some (outer :: inner)
      | none => if declares declarations name then some [] else none

/-- What a name means inside some namespaces: the path to it from the top. -/
def read? (declarations : List Declaration) (around : List String) :
    List String → Option (List String)
  | [] => none
  | name :: names =>
      (holder? declarations around name).bind fun inner =>
        if follows (bodyAt declarations inner) (name :: names) then some (inner ++ name :: names)
        else none

/-- One of some namespaces declares a name, so that the name does not mean the one at the top. -/
def Captured (declarations : List Declaration) (around : List String) (name : String) : Prop :=
  ∃ inner, inner ≠ [] ∧ inner <+: around ∧ declares (bodyAt declarations inner) name = true

section Reading

variable {declarations : List Declaration} {around : List String} {name : String}

theorem bodyAt_cons (outer : String) (inner : List String) :
    bodyAt declarations (outer :: inner) = bodyAt (bodyOf declarations outer) inner := rfl

/-- No namespace holds a name when none of them declares it, from the top to the innermost one. -/
theorem holder?_eq_none_iff :
    holder? declarations around name = none ↔
      ∀ inner, inner <+: around → declares (bodyAt declarations inner) name = false := by
  induction around generalizing declarations with
  | nil => simp [holder?, bodyAt]
  | cons outer around inductionHypothesis =>
      rw [holder?]
      constructor
      · intro absent inner inside
        split at absent
        · cases absent
        · next below =>
          rcases List.prefix_cons_iff.mp inside with rfl | ⟨rest, rfl, deeper⟩
          · simpa [bodyAt] using absent
          · rw [bodyAt_cons]
            exact inductionHypothesis.mp below rest deeper
      · intro absent
        have below : holder? (bodyOf declarations outer) around name = none := by
          refine inductionHypothesis.mpr fun inner inside => ?_
          rw [← bodyAt_cons]
          exact absent _ (List.prefix_cons_iff.mpr (Or.inr ⟨inner, rfl, inside⟩))
        have top : declares declarations name = false := absent [] (List.nil_prefix)
        rw [below]
        simp [top]

/-- The top holds a name that it declares unless one of the namespaces captures the name. -/
theorem holder?_eq_some_nil_iff (top : declares declarations name = true) :
    holder? declarations around name = some [] ↔ ¬ Captured declarations around name := by
  cases around with
  | nil =>
      have free : ¬ Captured declarations [] name := by
        intro captured
        obtain ⟨inner, inhabited, inside, -⟩ := captured
        exact inhabited (List.prefix_nil.mp inside)
      simp [holder?, top, free]
  | cons outer around =>
      have captured_iff : Captured declarations (outer :: around) name ↔
          ¬ holder? (bodyOf declarations outer) around name = none := by
        rw [holder?_eq_none_iff]
        constructor
        · intro captured absent
          obtain ⟨inner, inhabited, inside, declared⟩ := captured
          rcases List.prefix_cons_iff.mp inside with rfl | ⟨rest, rfl, deeper⟩
          · exact inhabited rfl
          · rw [bodyAt_cons, absent rest deeper] at declared
            cases declared
        · intro present
          by_contra free
          refine present fun inner inside => ?_
          by_contra declared
          rw [Bool.not_eq_false] at declared
          exact free ⟨outer :: inner, by simp,
            List.prefix_cons_iff.mpr (Or.inr ⟨inner, rfl, inside⟩), declared⟩
      rw [captured_iff, not_not, holder?]
      cases below : holder? (bodyOf declarations outer) around name with
      | none => simp [top]
      | some inner => simp

/-- A name that can be followed from the top is read from there unless its first segment is
captured. -/
theorem read?_eq_some_iff {names : List String}
    (followed : follows declarations (name :: names) = true) :
    read? declarations around (name :: names) = some (name :: names) ↔
      ¬ Captured declarations around name := by
  -- A name that is held further in is read below a path that is not empty, so elsewhere.
  have top : declares declarations name = true := by
    rw [follows, Bool.and_eq_true] at followed
    exact followed.1
  rw [← holder?_eq_some_nil_iff top, read?]
  constructor
  · intro read
    obtain ⟨inner, held, found⟩ := Option.bind_eq_some_iff.mp read
    split at found
    · have same : inner ++ name :: names = name :: names := Option.some.inj found
      obtain rfl : inner = [] := List.append_left_eq_self.mp same
      exact held
    · cases found
  · intro held
    rw [held, Option.bind_some, bodyAt, List.foldl_nil, if_pos followed, List.nil_append]

/-! ### Namespaces around a whole tree -/

/-- Declarations inside namespaces, one in the other. -/
def wrapped (path : List String) (declarations : List Declaration) : List Declaration :=
  path.foldr (fun name body => [.scope name body]) declarations

theorem bodyOf_wrapped (outer : String) (path : List String) :
    bodyOf (wrapped (outer :: path) declarations) outer = wrapped path declarations := by
  simp [wrapped, bodyOf]

theorem bodyAt_wrapped (path inner : List String) :
    bodyAt (wrapped path declarations) (path ++ inner) = bodyAt declarations inner := by
  induction path with
  | nil => rfl
  | cons outer path inductionHypothesis =>
      rw [List.cons_append, bodyAt_cons, bodyOf_wrapped, inductionHypothesis]

theorem holder?_wrapped (top : declares declarations name = true) (path : List String) :
    holder? (wrapped path declarations) (path ++ around) name =
      (holder? declarations around name).map (path ++ ·) := by
  have present : ∃ inner, holder? declarations around name = some inner := by
    rw [← Option.isSome_iff_exists, Option.isSome_iff_ne_none, Ne, holder?_eq_none_iff]
    intro absent
    have declared : declares declarations name = false := absent [] List.nil_prefix
    rw [top] at declared
    cases declared
  obtain ⟨inner, held⟩ := present
  induction path with
  | nil => simp [wrapped]
  | cons outer path inductionHypothesis =>
      rw [List.cons_append, holder?, bodyOf_wrapped, inductionHypothesis, held]
      rfl

/-- Namespaces around a whole tree do not change what its names mean. -/
theorem read?_wrapped (top : declares declarations name = true) (path names : List String) :
    read? (wrapped path declarations) (path ++ around) (name :: names) =
      (read? declarations around (name :: names)).map (path ++ ·) := by
  rw [read?, read?, holder?_wrapped top]
  cases holder? declarations around name with
  | none => rfl
  | some inner =>
      simp only [Option.map_some, Option.bind_some, bodyAt_wrapped]
      split
      · simp
      · rfl

end Reading

/-! ### The declarations of a file -/

/-- The segments of a package below its root. -/
def packagePath (package : String) : List String :=
  ((namespacePath? package).map Name.segments).getD []

section

variable (registry : Registry) (file : File) (options : Options)

/-- What a file declares in the namespace of its package: its types, and interfaces of services. -/
def packageDeclarations : List Declaration :=
  ofFile (Scope.ofFile registry file options) ++
    file.services.map (serviceDeclaration (Scope.ofFile registry file options) options)

/-- All that a file declares, with the namespaces of its package. -/
def fileTree : List Declaration :=
  wrapped (packagePath file.package) (packageDeclarations registry file options)

end

/-- `Outside messages enums names`: the names lead to a type that is no map entry and lies in
none. -/
inductive Outside : List Message → List Enum → List String → Prop where
  | message {messages : List Message} {enums : List Enum} {message : Message}
      (member : message ∈ messages) (plain : message.mapEntry = false) :
      Outside messages enums [message.name]
  | enum {messages : List Message} {enums : List Enum} {enum : Enum} (member : enum ∈ enums) :
      Outside messages enums [enum.name]
  | inside {messages : List Message} {enums : List Enum} {outer : Message} {names : List String}
      (member : outer ∈ messages) (plain : outer.mapEntry = false)
      (rest : Outside outer.nested outer.enums names) :
      Outside messages enums (outer.name :: names)

theorem declares_of_subset {first second : List Declaration} (subset : first ⊆ second)
    {name : String} (declared : declares first name = true) : declares second name = true := by
  obtain ⟨declaration, member, named⟩ := List.any_eq_true.mp declared
  exact List.any_eq_true.mpr ⟨declaration, subset member, named⟩

theorem bodyOf_subset {first second : List Declaration} (subset : first ⊆ second)
    (name : String) : bodyOf first name ⊆ bodyOf second name := by
  intro declaration member
  obtain ⟨holder, holderMember, held⟩ := List.mem_flatMap.mp member
  exact List.mem_flatMap.mpr ⟨holder, subset holderMember, held⟩

/-- More declarations leave all names that can be followed. -/
theorem follows_of_subset {first second : List Declaration} (subset : first ⊆ second)
    {names : List String} (followed : follows first names = true) :
    follows second names = true := by
  induction names generalizing first second with
  | nil => rfl
  | cons name names inductionHypothesis =>
      rw [follows, Bool.and_eq_true] at followed ⊢
      obtain ⟨declared, below⟩ := followed
      exact ⟨declares_of_subset subset declared,
        inductionHypothesis (bodyOf_subset subset name) below⟩

/-- The namespace of a message is among what is held under its name. -/
theorem innerOf_subset_bodyOf {scope : Scope} {messages : List Message} {message : Message}
    (member : message ∈ messages) :
    innerOf scope message ⊆ bodyOf (messages.flatMap (ofMessage scope)) message.name := by
  intro declaration held
  have inhabited := List.ne_nil_of_mem held
  refine List.mem_flatMap.mpr ⟨.scope message.name (innerOf scope message), ?_, ?_⟩
  · exact scope_mem_iff.mpr ⟨message, member, rfl, rfl, inhabited⟩
  · simpa using held

/-- Types outside map entries are declared where their names lead. -/
theorem Outside.follows {scope : Scope} {messages rendered : List Message} {enums : List Enum}
    {names : List String} (outside : Outside messages enums names)
    (all : ∀ message ∈ messages, message.mapEntry = false → message ∈ rendered) :
    follows (enums.map ofEnum ++ rendered.flatMap (ofMessage scope)) names = true := by
  induction outside generalizing rendered with
  | @message messages enums message member plain =>
      have declared : declares (rendered.flatMap (ofMessage scope)) message.name = true :=
        List.any_eq_true.mpr ⟨_, interface_mem_iff.mpr
          ⟨message, all message member plain, rfl, rfl⟩, beq_self_eq_true _⟩
      rw [Declarations.follows, declares_of_subset (List.subset_append_right _ _) declared]
      rfl
  | @enum messages enums enum member =>
      have declared : declares (enums.map ofEnum) enum.name = true :=
        List.any_eq_true.mpr ⟨_, List.mem_map_of_mem member, beq_self_eq_true _⟩
      rw [Declarations.follows, declares_of_subset (List.subset_append_left _ _) declared]
      rfl
  | @inside messages enums outer names member plain _ inductionHypothesis =>
      -- Map entries are left out of the namespace, but none lies on the way.
      have found := all outer member plain
      have declared : declares (rendered.flatMap (ofMessage scope)) outer.name = true :=
        List.any_eq_true.mpr ⟨_, interface_mem_iff.mpr ⟨outer, found, rfl, rfl⟩,
          beq_self_eq_true _⟩
      have below : Declarations.follows (innerOf scope outer) names = true := by
        refine inductionHypothesis fun inner innerMember innerPlain => ?_
        exact List.mem_filter.mpr ⟨innerMember, by rw [innerPlain]; rfl⟩
      have held := follows_of_subset (innerOf_subset_bodyOf found) below
      rw [Declarations.follows, declares_of_subset (List.subset_append_right _ _) declared,
        Bool.true_and]
      exact follows_of_subset (bodyOf_subset (List.subset_append_right _ _) outer.name) held

/-- What is declared outside map entries is reached by a walk, or is an enum where a walk ends. -/
theorem Outside.exists_walk {messages : List Message} {enums : List Enum} {names : List String}
    (outside : Outside messages enums names) :
    (∃ path message, Walk messages path names message) ∨
      (∃ enum ∈ enums, names = [enum.name]) ∨
      ∃ path on message, Walk messages path on message ∧
        ∃ enum ∈ message.enums, names = on ++ [enum.name] := by
  induction outside with
  | message member plain =>
      obtain ⟨index, found⟩ := List.getElem?_of_mem member
      exact Or.inl ⟨_, _, .here found⟩
  | enum member => exact Or.inr (Or.inl ⟨_, member, rfl⟩)
  | inside member plain _ inductionHypothesis =>
      obtain ⟨index, found⟩ := List.getElem?_of_mem member
      rcases inductionHypothesis with ⟨path, message, walk⟩ | ⟨enum, enumMember, rfl⟩ |
        ⟨path, on, message, walk, enum, enumMember, rfl⟩
      · exact Or.inl ⟨_, message, .inside found walk⟩
      · exact Or.inr (Or.inr ⟨_, _, _, .here found, enum, enumMember, rfl⟩)
      · exact Or.inr (Or.inr ⟨_, _, message, .inside found walk, enum, enumMember, rfl⟩)

theorem Outside.declares {file : File} {names : List String}
    (outside : Outside file.messages file.enums names) : file.Declares (file.refOf names) := by
  rcases outside.exists_walk with ⟨path, message, walk⟩ | ⟨enum, member, rfl⟩ |
    ⟨path, on, message, walk, enum, member, rfl⟩
  · exact .message walk
  · exact .enum member
  · exact .nestedEnum walk member

/-- A type of the same file is spelled by the names that lead to it. -/
theorem segments_spell_own {files : List File} (compatible : Compatible files) {file : File}
    (member : file ∈ files) (options : Options) {ref : String} {names : List String}
    (target : Outside file.messages file.enums names)
    (means : Name.qualified ref = file.refOf names)
    (plain : ∀ name ∈ names, '.' ∉ name.toList) :
    Name.segments ((Scope.ofFile (Registry.assembled files) file options).spell ref) = names := by
  cases names with
  | nil => cases target
  | cons name names =>
      have found : DeclaredAt files ref
          ⟨file, name ++ String.join (names.map fun other => "." ++ other)⟩ :=
        ⟨member, means ▸ target.declares, means.trans (file.refOf_cons name names)⟩
      have located := (Registry.locate_assembled_eq_ok_iff compatible).mpr found
      have spelled : (Scope.ofFile (Registry.assembled files) file options).spell ref =
          name ++ String.join (names.map fun other => "." ++ other) := by
        simp [Scope.spell, Scope.ofFile, located]
      rw [spelled, Name.segments_eq plain]

/-- Wherever the name of a type of the same file is spelled, it means this type exactly when no
namespace of a message around the place declares a member with the name's first segment.  The type
may be any that is no map entry and lies in none.  In members of top-level messages and in those of
services the name always means the type. -/
theorem read?_fileTree_iff {files : List File} {registry : Registry}
    (loaded : Registry.ofFiles files = .ok registry) {file : File} (member : file ∈ files)
    (options : Options) {ref name : String} {names : List String}
    (target : Outside file.messages file.enums (name :: names))
    (means : Name.qualified ref = file.refOf (name :: names))
    (plain : ∀ other ∈ name :: names, '.' ∉ other.toList) :
    ∀ around mapRef?, SpelledAt (Scope.ofFile registry file options) around mapRef? ref →
      (read? (fileTree registry file options) (packagePath file.package ++ around)
          (Name.segments ((Scope.ofFile registry file options).spell ref)) =
            some (packagePath file.package ++ name :: names) ↔
        ¬ Captured (packageDeclarations registry file options) around name) ∧
      (around = [] → ¬ Captured (packageDeclarations registry file options) around name) := by
  obtain ⟨compatible, rfl⟩ := Registry.ofFiles_eq_ok_iff.mp loaded
  intro around mapRef? _
  have followed : follows (packageDeclarations (Registry.assembled files) file options)
      (name :: names) = true :=
    follows_of_subset (List.subset_append_left _ _) (target.follows fun _ found _ => found)
  have top :
      declares (packageDeclarations (Registry.assembled files) file options) name = true := by
    rw [follows, Bool.and_eq_true] at followed
    exact followed.1
  constructor
  · rw [segments_spell_own compatible member options target means plain, fileTree,
      read?_wrapped top, ← read?_eq_some_iff followed]
    cases read? (packageDeclarations (Registry.assembled files) file options) around
        (name :: names) with
    | none => simp
    | some path => simp
  · intro outermost captured
    obtain ⟨inner, inhabited, inside, -⟩ := captured
    rw [outermost] at inside
    exact inhabited (List.prefix_nil.mp inside)

/-- A line between two points: one is declared at the top, and one beside the line. -/
def lineSample : Message :=
  { name := "Line"
    fields :=
      [{ name := "from", kind := .message, typeName := some ".acme.geo.Point" },
       { name := "to", kind := .message, typeName := some ".acme.geo.Shape.Point" }] }

def shapeSample : Message :=
  { name := "Shape", nested := [{ name := "Point" }, lineSample] }

def shapesFile : File :=
  { name := "shapes.proto", package := "acme.geo", messages := [{ name := "Point" }, shapeSample] }

theorem rendered_lineSample : Rendered shapesFile.messages [shapeSample.name] lineSample :=
  .inside (List.mem_cons_of_mem _ (List.mem_singleton_self _))
    (.here (by simp [shapeSample, lineSample]))

/-- The name of a nested type is read back beside it. -/
theorem read?_fileTree_shapesFile :
    read? (fileTree (Registry.assembled [shapesFile]) shapesFile {}) ["geo", "Shape"]
        (Name.segments ((Scope.ofFile (Registry.assembled [shapesFile]) shapesFile {}).spell
          ".acme.geo.Shape.Point")) =
      some ["geo", "Shape", "Point"] := by
  have loaded : Registry.ofFiles [shapesFile] = .ok (Registry.assembled [shapesFile]) := rfl
  have nested : Outside shapeSample.nested shapeSample.enums
      [({ name := "Point" } : Message).name] :=
    .message (List.mem_cons_self ..) rfl
  have target : Outside shapesFile.messages shapesFile.enums ["Shape", "Point"] :=
    .inside (List.mem_cons_of_mem _ (List.mem_singleton_self _)) rfl nested
  have spelled : SpelledAt (Scope.ofFile (Registry.assembled [shapesFile]) shapesFile {})
      ["Shape"] none ".acme.geo.Shape.Point" :=
    .member rendered_lineSample (List.mem_cons_of_mem _ (List.mem_singleton_self _)) rfl rfl
  have path : packagePath shapesFile.package = ["geo"] := by decide
  have free : ¬ Captured (packageDeclarations (Registry.assembled [shapesFile]) shapesFile {})
      ["Shape"] "Shape" :=
    (holder?_eq_some_nil_iff (by decide)).mp (by decide)
  have reads := (read?_fileTree_iff loaded (List.mem_singleton_self _) {} target (by decide)
    (by decide) _ _ spelled).1.mpr free
  rw [path] at reads
  exact reads

/-- The name of a type at the top may mean another type where it is spelled: a message that declares
a type of that name hides the one at the top from the members inside. -/
theorem own_type_read_as_nested :
    ¬ ∀ (files : List File) (registry : Registry) (file : File) (options : Options)
      (around : List String) (mapRef? : Option String) (ref : String) (names : List String),
      Registry.ofFiles files = .ok registry → (files.flatMap File.declaredRefs).Nodup →
      file ∈ files → SpelledAt (Scope.ofFile registry file options) around mapRef? ref →
      Outside file.messages file.enums names → Name.qualified ref = file.refOf names →
      (∀ name ∈ names, '.' ∉ name.toList) →
      read? (fileTree registry file options) (packagePath file.package ++ around)
        (Name.segments ((Scope.ofFile registry file options).spell ref)) =
          some (packagePath file.package ++ names) := by
  intro reads
  have target : Outside shapesFile.messages shapesFile.enums
      [({ name := "Point" } : Message).name] := .message (List.mem_cons_self ..) rfl
  have spelled : SpelledAt (Scope.ofFile (Registry.assembled [shapesFile]) shapesFile {})
      ["Shape"] none ".acme.geo.Point" :=
    .member rendered_lineSample (List.mem_cons_self ..) rfl rfl
  have top := reads [shapesFile] (Registry.assembled [shapesFile]) shapesFile {} _ _ _ _ rfl
    (by decide) (List.mem_singleton_self _) spelled target (by decide) (by decide)
  have nested : read? (fileTree (Registry.assembled [shapesFile]) shapesFile {})
      (packagePath shapesFile.package ++ ["Shape"])
      (Name.segments ((Scope.ofFile (Registry.assembled [shapesFile]) shapesFile {}).spell
        ".acme.geo.Point")) = some ["geo", "Shape", "Point"] := by
    decide
  rw [nested] at top
  exact absurd top (by decide)

end Declarations

end RpcBindings
