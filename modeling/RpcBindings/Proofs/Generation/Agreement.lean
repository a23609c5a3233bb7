/-
Module: RpcBindings.Proofs.Generation.Agreement
Purpose: What is generated depends on the registry only through the references of the file.
Main exports: Declarations.mem_typeRefs_iff, Dialect.ReadsByReference,
  Dialect.readsByReference_of_mem_builtin, generate_congr, outcome_independent_of_order,
  generate_independent_of_further_files
-/
import RpcBindings.Proofs.Declarations.Places
import RpcBindings.Proofs.Registry.Agreement
import RpcBindings.Proofs.TypeImports.Collection

namespace RpcBindings

/-!
A dialect is handed the whole registry, but the built-in ones only look up references: those that
the file writes, and those that are written in a message found that way, where it is the entry of a
map.  Two registries that agree on these references therefore make no difference to the output.
-/

/-! ### Declarations -/

namespace Declarations

mutual

/-- What is collected from a message is written by one of its fields or by a message inside it. -/
theorem exists_field_of_mem_fieldRefs {ref : String} :
    ∀ message : Message, ref ∈ fieldRefs message →
      (∃ field ∈ message.fields, field.typeName = some ref) ∨
        ∃ path names inner, Walk message.nested path names inner ∧
          ∃ field ∈ inner.fields, field.typeName = some ref
  | { name := _, fields, nested, enums := _, mapEntry := _ }, collected => by
      rw [fieldRefs, List.mem_append] at collected
      rcases collected with own | inside
      · exact Or.inl (List.mem_filterMap.mp own)
      · exact Or.inr (exists_walk_of_mem_fieldRefsIn nested inside)

/-- What is collected from some messages is written by a field of one that a walk reaches. -/
theorem exists_walk_of_mem_fieldRefsIn {ref : String} :
    ∀ messages : List Message, ref ∈ fieldRefsIn messages →
      ∃ path names message, Walk messages path names message ∧
        ∃ field ∈ message.fields, field.typeName = some ref
  | [], collected => by simp [fieldRefsIn] at collected
  | message :: messages, collected => by
      rw [fieldRefsIn, List.mem_append] at collected
      rcases collected with first | later
      · rcases exists_field_of_mem_fieldRefs message first with own |
          ⟨path, names, inner, walk, typed⟩
        · exact ⟨[0], _, message, .here rfl, own⟩
        · exact ⟨0 :: path, _, inner, .inside rfl walk, typed⟩
      · obtain ⟨path, names, inner, walk, typed⟩ := exists_walk_of_mem_fieldRefsIn messages later
        obtain ⟨path, walk⟩ := exists_walk_of_subset (List.subset_cons_self message messages) walk
        exact ⟨path, names, inner, walk, typed⟩

end

/-- The references that are collected from a file are those that it writes. -/
theorem mem_typeRefs_iff {file : File} {ref : String} :
    ref ∈ typeRefs file ↔ file.RefersTo ref := by
  rw [typeRefs, List.mem_append]
  constructor
  · intro collected
    rcases collected with inField | inMethod
    · obtain ⟨path, names, message, walk, field, member, typed⟩ :=
        exists_walk_of_mem_fieldRefsIn _ inField
      exact .field walk member typed
    · obtain ⟨service, serviceMember, method, methodMember, written⟩ :=
        File.mem_methodRefs_iff.mp inMethod
      exact .side serviceMember methodMember written
  · intro refers
    cases refers with
    | field walk ofMessage typed => exact Or.inl (mem_fieldRefsIn_of_walk walk ofMessage typed)
    | side ofFile ofService written =>
        exact Or.inr (File.mem_methodRefs_iff.mpr ⟨_, ofFile, _, ofService, written⟩)

/-- The scope with another registry. -/
def Scope.withRegistry (scope : Scope) (registry : Registry) : Scope :=
  { scope with registry }

section Congruence

variable {first second : Registry} {refs : String → Prop} (agrees : first.AgreesOn second refs)
  (scope : Scope)

include agrees

theorem Scope.spell_congr {ref : String} (used : refs ref) :
    (scope.withRegistry first).spell ref = (scope.withRegistry second).spell ref := by
  simp only [spell, withRegistry, agrees.location ref used]
  rfl

theorem Scope.valueType_congr {field : Field}
    (used : ∀ ref, field.typeName = some ref → refs ref) :
    (scope.withRegistry first).valueType field = (scope.withRegistry second).valueType field := by
  rw [valueType_eq, valueType_eq]
  cases spelled : valueRef? field with
  | none => rfl
  | some ref =>
      rw [Option.map_some, Option.map_some,
        scope.spell_congr agrees (used ref (typeName_of_valueRef? spelled))]

/-- A field is a map of the same keys and values. -/
theorem Scope.mapOf?_congr {field : Field} (used : ∀ ref, field.typeName = some ref → refs ref) :
    (scope.withRegistry first).mapOf? field = (scope.withRegistry second).mapOf? field := by
  unfold mapOf?
  cases typed : field.typeName with
  | none => rfl
  | some ref =>
      simp only [withRegistry, Option.bind_eq_bind, Option.bind_some,
        agrees.message ref (used ref typed)]

/-- A field becomes the same member.  The value of a map is written in another message, whose
references belong to those on which the registries agree. -/
theorem Scope.memberOf_congr {field : Field} (used : ∀ ref, field.typeName = some ref → refs ref) :
    (scope.withRegistry first).memberOf field = (scope.withRegistry second).memberOf field := by
  have map := scope.mapOf?_congr agrees used
  unfold memberOf
  rw [← map]
  cases found : (scope.withRegistry first).mapOf? field with
  | none =>
      rw [scope.valueType_congr agrees used]
      rfl
  | some keyValue =>
      obtain ⟨ref, entry, typed, known, ofEntry⟩ := exists_entry_of_mapOf? found
      have valueUsed := agrees.closed ref (used ref typed) entry known _ ofEntry
      simp only [scope.valueType_congr agrees valueUsed]
      rfl

end Congruence

mutual

/-- A message is declared in the same way. -/
theorem ofMessage_congr {first second : Registry} {refs : String → Prop}
    (agrees : first.AgreesOn second refs) (scope : Scope) :
    ∀ message : Message, (∀ ref ∈ fieldRefs message, refs ref) →
      ofMessage (scope.withRegistry first) message = ofMessage (scope.withRegistry second) message
  | { name, fields, nested, enums, mapEntry }, used => by
      rw [fieldRefs, List.forall_mem_append] at used
      have members : fields.map (scope.withRegistry first).memberOf =
          fields.map (scope.withRegistry second).memberOf := by
        refine List.map_congr_left fun field member =>
          scope.memberOf_congr agrees fun ref typed => ?_
        exact used.1 ref (List.mem_filterMap.mpr ⟨field, member, typed⟩)
      rw [ofMessage, ofMessage, ofNested_congr agrees scope nested used.2, members]

theorem ofNested_congr {first second : Registry} {refs : String → Prop}
    (agrees : first.AgreesOn second refs) (scope : Scope) :
    ∀ messages : List Message, (∀ ref ∈ fieldRefsIn messages, refs ref) →
      ofNested (scope.withRegistry first) messages = ofNested (scope.withRegistry second) messages
  | [], _ => by rw [ofNested, ofNested]
  | message :: messages, used => by
      rw [fieldRefsIn, List.forall_mem_append] at used
      rw [ofNested, ofNested, ofMessage_congr agrees scope message used.1,
        ofNested_congr agrees scope messages used.2]

end

/-- A file is declared in the same way. -/
theorem ofFile_congr {first second : Registry} {refs : String → Prop}
    (agrees : first.AgreesOn second refs) (scope : Scope)
    (used : ∀ ref ∈ typeRefs scope.file, refs ref) :
    ofFile (scope.withRegistry first) = ofFile (scope.withRegistry second) := by
  rw [typeRefs, List.forall_mem_append, fieldRefsIn_eq] at used
  have messages : scope.file.messages.flatMap (ofMessage (scope.withRegistry first)) =
      scope.file.messages.flatMap (ofMessage (scope.withRegistry second)) := by
    refine List.flatMap_congr fun message member => ofMessage_congr agrees scope message ?_
    exact fun ref collected => used.1 ref (List.mem_flatMap.mpr ⟨message, member, collected⟩)
  simp only [ofFile, Scope.withRegistry] at messages ⊢
  rw [messages]

end Declarations

/-- The same types are imported for references on which the registries agree. -/
theorem TypeImports.ofRefs_congr {first second : Registry} {refs : String → Prop}
    (agrees : first.AgreesOn second refs) {wanted : File → Bool} {moduleOf : File → String}
    {written : List String} (used : ∀ ref ∈ written, refs ref) :
    ofRefs first wanted moduleOf written = ofRefs second wanted moduleOf written := by
  rw [ofRefs_eq, ofRefs_eq, locations, locations]
  refine congrArg _ (List.filterMap_congr fun ref member => ?_)
  rw [agrees.location ref (used ref member)]

/-! ### Dialects -/

/-- A dialect that looks at the registry only through the references of the file and of its methods:
it writes the same from two registries that agree on these. -/
structure Dialect.ReadsByReference (dialect : Dialect) : Prop where
  bindMethod : ∀ {first second : Registry} {refs : String → Prop},
    first.AgreesOn second refs → ∀ context : MethodContext,
    (∀ ref ∈ context.method.typeRefs, refs ref) →
    dialect.bindMethod { context with registry := first } =
      dialect.bindMethod { context with registry := second }
  renderFile : ∀ {first second : Registry} {refs : String → Prop},
    first.AgreesOn second refs → ∀ context : FileContext,
    (∀ ref, context.file.RefersTo ref → refs ref) →
    dialect.renderFile { context with registry := first } =
      dialect.renderFile { context with registry := second }

theorem Promises.readsByReference : Promises.dialect.ReadsByReference where
  bindMethod _ _ _ := rfl
  renderFile := by
    intro first second refs agrees context used
    have imports : typeImports { context with registry := first } =
        typeImports { context with registry := second } := by
      refine TypeImports.ofRefs_congr agrees fun ref written => used ref ?_
      exact Declarations.mem_typeRefs_iff.mp (List.mem_append_right _ written)
    simp only [dialect, fileSteps, headingSteps, imports]

theorem Declarations.readsByReference : Declarations.dialect.ReadsByReference where
  bindMethod := by
    intro first second refs agrees context used
    have input := used context.method.inputType (List.mem_cons_self ..)
    have output := used context.method.outputType (List.mem_cons_of_mem _ (List.mem_cons_self ..))
    let scope := Scope.ofFile first context.file context.options
    have request := scope.spell_congr agrees input
    have response := scope.spell_congr agrees output
    simp only [scope, Scope.withRegistry, Scope.ofFile] at request response
    simp only [dialect, Declarations.bindMethod, Scope.ofFile, request, response]
  renderFile := by
    intro first second refs agrees context used
    have collected : ∀ ref ∈ typeRefs context.file, refs ref :=
      fun ref written => used ref (mem_typeRefs_iff.mp written)
    have imports : typeImports { context with registry := first } =
        typeImports { context with registry := second } :=
      TypeImports.ofRefs_congr agrees collected
    have declared := ofFile_congr agrees (Scope.ofFile first context.file context.options) collected
    simp only [Scope.withRegistry, Scope.ofFile] at declared
    simp only [dialect, fileSteps, packageSteps, Scope.ofFile, imports, declared]

/-- All built-in dialects are of this kind. -/
theorem Dialect.readsByReference_of_mem_builtin {dialect : Dialect} (member : dialect ∈ builtin) :
    dialect.ReadsByReference := by
  simp only [builtin, List.mem_cons, List.not_mem_nil, or_false] at member
  rcases member with rfl | rfl | rfl | rfl | rfl | rfl
  · exact ⟨fun _ _ _ => rfl, fun _ _ _ => rfl⟩
  · exact ⟨fun _ _ _ => rfl, fun _ _ _ => rfl⟩
  · exact ⟨fun _ _ _ => rfl, fun _ _ _ => rfl⟩
  · exact ⟨fun _ _ _ => rfl, fun _ _ _ => rfl⟩
  · exact Promises.readsByReference
  · exact Declarations.readsByReference

/-! ### Generation -/

section Generation

variable {dialect : Dialect} (reads : dialect.ReadsByReference) {first second : Registry}
  {refs : String → Prop} (agrees : first.AgreesOn second refs) (options : Options) {file : File}

include reads agrees

theorem Dialect.bind_congr {service : Service} {method : Method}
    (used : ∀ ref ∈ method.typeRefs, refs ref) :
    dialect.bind first options file service method =
      dialect.bind second options file service method := by
  have input := agrees.message method.inputType (used _ (List.mem_cons_self ..))
  have output := agrees.message method.outputType
    (used _ (List.mem_cons_of_mem _ (List.mem_cons_self ..)))
  have bound (request : Message) := reads.bindMethod agrees
    { registry := first, file, service, method, request
      requestType := dialect.typeName method.inputType
      responseType := dialect.typeName method.outputType
      fields := dialect.bindFields request
      options } used
  simp only [bind, resolve, input, output, bound]

theorem Dialect.bindService_congr {service : Service} (member : service ∈ file.services)
    (used : ∀ ref, file.RefersTo ref → refs ref) :
    dialect.bindService first options file service =
      dialect.bindService second options file service := by
  have methods : (dialect.orderedMethods service).mapM (dialect.bind first options file service) =
      (dialect.orderedMethods service).mapM (dialect.bind second options file service) := by
    refine Traversal.mapM_congr fun method visited => dialect.bind_congr reads agrees options ?_
    intro ref written
    exact used ref (.side member ((mem_orderedMethods_iff dialect).mp visited) written)
  simp only [bindService, methods]

/-- A file is generated alike from two registries that know it and agree on its references. -/
theorem generate_congr {fileName : String}
    (known : first.file? fileName = second.file? fileName)
    (used : ∀ file, first.file? fileName = .ok file → ∀ ref, file.RefersTo ref → refs ref) :
    generate first fileName dialect options = generate second fileName dialect options := by
  unfold generate
  rw [← known]
  cases outcome : first.file? fileName with
  | error error => rfl
  | ok file =>
      have services : file.services.mapM (dialect.bindService first options file) =
          file.services.mapM (dialect.bindService second options file) :=
        Traversal.mapM_congr fun service member =>
          dialect.bindService_congr reads agrees options member (used file outcome)
      have written (contexts : List ServiceContext) :=
        reads.renderFile agrees (dialect.fileContext first options file contexts)
          (used file outcome)
      simp only [Dialect.fileContext] at written
      simp only [Except.mapError, bind, Except.bind, services, Dialect.fileContext, written]

end Generation

/-! ### Sets of files -/

/-- The order in which files are given does not matter.  They can be loaded in every order or in
none, and once they are loaded, every lookup has the same answer and every generation with a
built-in dialect the same outcome. -/
theorem outcome_independent_of_order {files others : List File} (perm : files.Perm others) :
    ((∃ registry, Registry.ofFiles files = .ok registry) ↔
      ∃ other, Registry.ofFiles others = .ok other) ∧
    ∀ registry other, Registry.ofFiles files = .ok registry → Registry.ofFiles others = .ok other →
      (∀ name, registry.file? name = other.file? name) ∧
      (∀ ref, registry.message? ref = other.message? ref) ∧
      (∀ ref, registry.locate ref = other.locate ref) ∧
      ∀ fileName, ∀ dialect ∈ Dialect.builtin, ∀ options,
        generate registry fileName dialect options = generate other fileName dialect options := by
  constructor
  · constructor
    · intro success
      obtain ⟨registry, loaded⟩ := success
      have compatible := (Registry.ofFiles_eq_ok_iff.mp loaded).1
      exact ⟨_, Registry.ofFiles_eq_ok_iff.mpr ⟨compatible.of_perm perm, rfl⟩⟩
    · intro success
      obtain ⟨other, loaded⟩ := success
      have compatible := (Registry.ofFiles_eq_ok_iff.mp loaded).1
      exact ⟨_, Registry.ofFiles_eq_ok_iff.mpr ⟨compatible.of_perm perm.symm, rfl⟩⟩
  · intro registry other loaded otherLoaded
    obtain ⟨compatible, rfl⟩ := Registry.ofFiles_eq_ok_iff.mp loaded
    obtain ⟨otherCompatible, rfl⟩ := Registry.ofFiles_eq_ok_iff.mp otherLoaded
    have agrees := Registry.agreesOn_of_perm compatible perm
    have known (name : String) :
        (Registry.assembled files).file? name = (Registry.assembled others).file? name :=
      Registry.file?_assembled_congr compatible.names otherCompatible.names
        fun _ _ => perm.mem_iff
    refine ⟨known, fun ref => agrees.message ref trivial,
      fun ref => agrees.location ref trivial, ?_⟩
    intro fileName dialect member options
    exact generate_congr (Dialect.readsByReference_of_mem_builtin member) agrees options
      (known fileName) fun _ _ _ _ => trivial

/-- A file whose field is a map.  The entry of the map is declared by another file. -/
def atlasFile : File :=
  { name := "atlas.proto", package := "atlas"
    messages :=
      [{ name := "Atlas"
         fields :=
          [{ name := "places", kind := .message, label := .repeated
             typeName := some ".geo.PlaceEntry" }] }]
    services :=
      [{ name := "Atlases", methods := [Method.duplex "Open" "geo.Point" ".atlas.Atlas"] }] }

def placeFile : File :=
  { name := "geo.proto", package := "geo"
    messages :=
      [{ name := "Point", enums := [{ name := "Kind" }] },
       Message.entry "PlaceEntry" { name := "key", kind := .string }
        { name := "value", kind := .enum, typeName := some ".geo.Point.Kind" }] }

/-- Files are generated alike if the file on which they depend is given after them. -/
theorem outcome_independent_of_order_atlasFile :
    ∃ registry other, Registry.ofFiles [placeFile, atlasFile] = .ok registry ∧
      Registry.ofFiles [atlasFile, placeFile] = .ok other ∧
      (∃ output, generate registry "atlas.proto" Declarations.dialect {} = .ok output) ∧
      generate registry "atlas.proto" Declarations.dialect {} =
        generate other "atlas.proto" Declarations.dialect {} := by
  have perm : [placeFile, atlasFile].Perm [atlasFile, placeFile] := List.Perm.swap _ _ _
  obtain ⟨loads_iff, same⟩ := outcome_independent_of_order perm
  have loaded : Registry.ofFiles [placeFile, atlasFile] =
      .ok (Registry.assembled [placeFile, atlasFile]) := rfl
  obtain ⟨other, otherLoaded⟩ := loads_iff.mp ⟨_, loaded⟩
  obtain ⟨-, -, -, generated⟩ := same _ other loaded otherLoaded
  exact ⟨_, other, loaded, otherLoaded, ⟨_, rfl⟩,
    generated "atlas.proto" Declarations.dialect (by simp [Dialect.builtin]) {}⟩

/-- Further files do not matter for a file whose references, like those of the files that are loaded
with it, are all declared among these files. -/
theorem generate_independent_of_further_files {files more : List File} {small large : Registry}
    (loaded : Registry.ofFiles files = .ok small)
    (loadedMore : Registry.ofFiles (files ++ more) = .ok large)
    (located : ∀ file ∈ files, ∀ ref, file.RefersTo ref →
      ∃ location, small.locate ref = .ok location) :
    ∀ file ∈ files, ∀ dialect ∈ Dialect.builtin, ∀ options,
      generate large file.name dialect options = generate small file.name dialect options := by
  intro file member dialect builtin options
  obtain ⟨compatible, rfl⟩ := Registry.ofFiles_eq_ok_iff.mp loaded
  obtain ⟨compatibleMore, rfl⟩ := Registry.ofFiles_eq_ok_iff.mp loadedMore
  have agrees := Registry.agreesOn_of_append compatibleMore located
  have memberMore : file ∈ files ++ more := List.mem_append_left _ member
  have known : (Registry.assembled files).file? file.name =
      (Registry.assembled (files ++ more)).file? file.name := by
    rw [Registry.file?, Registry.file?, Registry.fileNamed?_assembled compatible.names member,
      Registry.fileNamed?_assembled compatibleMore.names memberMore]
  refine (generate_congr (Dialect.readsByReference_of_mem_builtin builtin) agrees options known
    ?_).symm
  intro found outcome ref refers
  exact ⟨found, (mem_of_file?_eq_ok outcome).1, refers⟩

/-- A file with a type of the package `geo`. -/
def lineFile : File :=
  { name := "line.proto", package := "geo", messages := [{ name := "Line" }] }

/-- Another file of a package that is used makes no difference. -/
theorem generate_independent_of_further_files_atlasFile :
    ∃ small large, Registry.ofFiles [placeFile, atlasFile] = .ok small ∧
      Registry.ofFiles ([placeFile, atlasFile] ++ [lineFile]) = .ok large ∧
      (∀ file ∈ [placeFile, atlasFile], ∀ ref, file.RefersTo ref →
        ∃ location, small.locate ref = .ok location) ∧
      (∃ output, generate small "atlas.proto" Declarations.dialect {} = .ok output) ∧
      generate large "atlas.proto" Declarations.dialect {} =
        generate small "atlas.proto" Declarations.dialect {} := by
  have loaded : Registry.ofFiles [placeFile, atlasFile] =
      .ok (Registry.assembled [placeFile, atlasFile]) := rfl
  have loadedMore : Registry.ofFiles ([placeFile, atlasFile] ++ [lineFile]) =
      .ok (Registry.assembled ([placeFile, atlasFile] ++ [lineFile])) := rfl
  have located : ∀ file ∈ [placeFile, atlasFile], ∀ ref, file.RefersTo ref →
      ∃ location, (Registry.assembled [placeFile, atlasFile]).locate ref = .ok location := by
    simp only [← Declarations.mem_typeRefs_iff]
    have places : Declarations.typeRefs placeFile = [".geo.Point.Kind"] := rfl
    have atlases : Declarations.typeRefs atlasFile =
        [".geo.PlaceEntry", "geo.Point", ".atlas.Atlas"] := rfl
    simp only [List.forall_mem_cons, List.not_mem_nil, false_imp_iff, implies_true, and_true,
      places, atlases]
    exact ⟨⟨_, rfl⟩, ⟨_, rfl⟩, ⟨_, rfl⟩, ⟨_, rfl⟩⟩
  refine ⟨_, _, loaded, loadedMore, located, ⟨_, rfl⟩, ?_⟩
  exact generate_independent_of_further_files loaded loadedMore located atlasFile
    (List.mem_cons_of_mem _ (List.mem_singleton_self _)) Declarations.dialect
    (by simp [Dialect.builtin]) {}

end RpcBindings
