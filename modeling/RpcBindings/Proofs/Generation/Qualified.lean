/-
Module: RpcBindings.Proofs.Generation.Qualified
Purpose: Whether references are written with or without the dot in front does not matter to what is
  generated.
Main exports: Dialect.ReadsQualified, Dialect.readsQualified_of_mem_builtin,
  Dialect.ReadsQualified.generate_qualified, SameOutcome, generate_independent_of_dots
-/
import RpcBindings.Proofs.Declarations.Places
import RpcBindings.Proofs.Generation.Views
import RpcBindings.Proofs.Registry.Qualified

namespace RpcBindings

/-!
References are read in several places: they are looked up, a part of them is printed, and they are
printed as they are written when they mean nothing.  None of these tells a reference from its filed
form, so a dialect writes the same when every reference that it is given has this form.  Only an
error shows a reference itself.
-/

/-! ### Contexts -/

/-- The error with the reference that it reports in the filed form. -/
def GenerateError.qualified : GenerateError → GenerateError
  | .typeNotFound file service method (.messageNotFound ref) =>
      .typeNotFound file service method (.messageNotFound (Name.qualified ref))
  | error => error

/-- Files with all references in the filed form. -/
def FileView.qualified : FileView :=
  { file := File.qualified
    service := Service.qualified
    method := Method.qualified
    error := GenerateError.qualified }

theorem FileView.faithful_qualified : qualified.Faithful where
  name _ := rfl
  services _ := rfl
  methods _ := rfl
  serviceName _ := rfl
  methodName _ := rfl
  fileNotFound _ := rfl
  unsupportedInput _ _ _ := rfl

def MethodContext.qualified (context : MethodContext) : MethodContext :=
  { context with
    registry := context.registry.qualified
    file := context.file.qualified
    service := context.service.qualified
    method := context.method.qualified
    request := context.request.qualified }

def ServiceContext.qualified (context : ServiceContext) : ServiceContext :=
  { context with
    file := context.file.qualified
    service := context.service.qualified }

def FileContext.qualified (context : FileContext) : FileContext :=
  { context with
    registry := context.registry.qualified
    file := context.file.qualified }

/-- A dialect that makes the same of a reference and of its filed form, wherever it is given one. -/
structure Dialect.ReadsQualified (dialect : Dialect) : Prop where
  typeName : ∀ ref, dialect.typeName (Name.qualified ref) = dialect.typeName ref
  mapField : ∀ field : Field, dialect.mapField field.qualified = dialect.mapField field
  bindMethod : ∀ context : MethodContext,
    dialect.bindMethod context.qualified = dialect.bindMethod context
  renderService : ∀ context : ServiceContext,
    dialect.renderService context.qualified = dialect.renderService context
  renderFile : ∀ context : FileContext,
    dialect.renderFile context.qualified = dialect.renderFile context

/-! ### Imported types -/

theorem File.methodRefs_qualified (file : File) :
    file.qualified.methodRefs = file.methodRefs.map Name.qualified := by
  simp only [methodRefs, qualified, Service.qualified, List.flatMap_map, List.map_flatMap]
  rfl

namespace Declarations

mutual

theorem fieldRefs_qualified :
    ∀ message : Message, fieldRefs message.qualified = (fieldRefs message).map Name.qualified
  | { name := _, fields, nested, enums := _, mapEntry := _ } => by
      rw [Message.qualified, fieldRefs, fieldRefs, fieldRefsIn_qualified, List.map_append,
        List.filterMap_map, List.map_filterMap]
      rfl

theorem fieldRefsIn_qualified :
    ∀ messages : List Message,
      fieldRefsIn (Message.qualifiedIn messages) = (fieldRefsIn messages).map Name.qualified
  | [] => by rw [Message.qualifiedIn, fieldRefsIn, List.map_nil]
  | message :: messages => by
      rw [Message.qualifiedIn, fieldRefsIn, fieldRefsIn, fieldRefs_qualified,
        fieldRefsIn_qualified, List.map_append]

end

theorem typeRefs_qualified (file : File) :
    typeRefs file.qualified = (typeRefs file).map Name.qualified := by
  rw [typeRefs, typeRefs, File.methodRefs_qualified, List.map_append, ← fieldRefsIn_qualified,
    Message.qualifiedIn_eq_map]
  rfl

end Declarations

/-- An import is read off the name and the package of the file that declares a type. -/
theorem TypeImports.ofRefs_qualified (registry : Registry) {wanted : File → Bool}
    {moduleOf : File → String}
    (sameWanted : ∀ file : File, wanted file.qualified = wanted file)
    (sameModule : ∀ file : File, moduleOf file.qualified = moduleOf file)
    (refs : List String) :
    ofRefs registry.qualified wanted moduleOf (refs.map Name.qualified) =
      ofRefs registry wanted moduleOf refs := by
  unfold ofRefs
  rw [List.foldl_map]
  congr 1
  funext imports ref
  rw [Registry.locate_qualified]
  cases registry.locate ref with
  | error error => rfl
  | ok location =>
      simp only [Except.map, Except.mapError, Location.qualified, sameWanted, sameModule]
      rfl

/-! ### Declarations -/

/-- A map entry keeps its key and its value. -/
theorem Message.keyValue?_qualified (message : Message) :
    message.qualified.keyValue? =
      message.keyValue?.map (Prod.map Field.qualified Field.qualified) := by
  have named (name : String) :
      message.qualified.field? name = (message.field? name).map Field.qualified := by
    rw [field?, qualified_eq, List.find?_map]
    rfl
  have entry : message.qualified.mapEntry = message.mapEntry := by rw [qualified_eq]
  simp only [keyValue?, named, entry]
  split
  · cases message.field? "key" with
    | none => rfl
    | some key =>
        cases message.field? "value" with
        | none => rfl
        | some value => rfl
  · rfl

namespace Declarations

namespace Scope

def qualified (scope : Scope) : Scope :=
  { scope with
    registry := scope.registry.qualified
    file := scope.file.qualified }

variable (scope : Scope)

/-- A reference that means nothing is spelled without the dot, whether it has one or not. -/
theorem spell_qualified (ref : String) :
    scope.qualified.spell (Name.qualified ref) = scope.spell ref := by
  simp only [spell, qualified, Registry.locate_qualified]
  cases scope.registry.locate ref with
  | error error => exact Name.withoutLeadingDot_qualified ref
  | ok location => rfl

theorem valueType_qualified (field : Field) :
    scope.qualified.valueType field.qualified = scope.valueType field := by
  have refs : valueRef? field.qualified = (valueRef? field).map Name.qualified := by
    unfold valueRef? Field.qualified
    cases field.kind <;> rfl
  rw [valueType_eq, valueType_eq, refs]
  cases valueRef? field with
  | none => rfl
  | some ref => exact scope.spell_qualified ref

/-- A map entry is found by its reference, and its two fields by their names. -/
theorem mapOf?_qualified (field : Field) :
    scope.qualified.mapOf? field.qualified =
      (scope.mapOf? field).map (Prod.map Field.qualified Field.qualified) := by
  unfold mapOf?
  have kept : (field.qualified.isRepeated && field.qualified.kind == .message) =
      (field.isRepeated && field.kind == .message) := rfl
  rw [kept]
  split
  · cases typed : field.typeName with
    | none => simp [Field.qualified, typed]
    | some ref =>
        simp only [Field.qualified, qualified, typed, Option.map_some, Option.bind_eq_bind,
          Option.bind_some, Registry.message?_qualified_eq]
        cases scope.registry.message? ref with
        | error error => rfl
        | ok entry => exact entry.keyValue?_qualified
  · rfl

theorem memberOf_qualified (field : Field) :
    scope.qualified.memberOf field.qualified = scope.memberOf field := by
  unfold memberOf
  rw [mapOf?_qualified]
  cases scope.mapOf? field with
  | none =>
      rw [Option.map_none, valueType_qualified]
      rfl
  | some keyValue =>
      simp only [Option.map_some, Prod.map, valueType_qualified]
      rfl

end Scope

mutual

/-- A message is declared in the same way. -/
theorem ofMessage_qualified (scope : Scope) :
    ∀ message : Message, ofMessage scope.qualified message.qualified = ofMessage scope message
  | { name, fields, nested, enums, mapEntry } => by
      have members : (fields.map Field.qualified).map scope.qualified.memberOf =
          fields.map scope.memberOf := by
        rw [List.map_map]
        exact List.map_congr_left fun field _ => scope.memberOf_qualified field
      rw [Message.qualified, ofMessage, ofMessage, members, ofNested_qualified]

theorem ofNested_qualified (scope : Scope) :
    ∀ messages : List Message,
      ofNested scope.qualified (Message.qualifiedIn messages) = ofNested scope messages
  | [] => by rw [Message.qualifiedIn, ofNested, ofNested]
  | message :: messages => by
      rw [Message.qualifiedIn, ofNested, ofNested, ofMessage_qualified, ofNested_qualified,
        Message.qualified_eq]

end

theorem ofFile_qualified (scope : Scope) : ofFile scope.qualified = ofFile scope := by
  have messages : (scope.file.messages.map Message.qualified).flatMap
      (ofMessage scope.qualified) = scope.file.messages.flatMap (ofMessage scope) := by
    rw [List.flatMap_map]
    exact List.flatMap_congr fun message _ => ofMessage_qualified scope message
  rw [ofFile, ofFile, ← messages]
  rfl

theorem readsQualified : dialect.ReadsQualified where
  typeName := Name.lastSegment_qualified
  mapField _ := rfl
  bindMethod context := by
    have spell (ref : String) :=
      (Scope.ofFile context.registry context.file context.options).spell_qualified ref
    simp only [Scope.qualified, Scope.ofFile] at spell
    simp only [dialect, Declarations.bindMethod, MethodContext.qualified, Method.qualified,
      Scope.ofFile, spell]
    rfl
  renderService _ := rfl
  renderFile context := by
    have declared := ofFile_qualified
      (Scope.ofFile context.registry context.file context.options)
    have imports : typeImports context.qualified = typeImports context := by
      simp only [typeImports, FileContext.qualified, typeRefs_qualified]
      exact TypeImports.ofRefs_qualified _ (fun _ => rfl) (fun _ => rfl) _
    simp only [Scope.qualified, Scope.ofFile] at declared
    simp only [dialect, fileSteps, packageSteps, imports, Scope.ofFile]
    simp only [FileContext.qualified, declared]
    rfl

end Declarations

/-! ### Scripts and commands -/

theorem Script.exportName_qualified (file : File) (service : Service) (method : Method) :
    exportName file.qualified service.qualified method.qualified =
      exportName file service method :=
  FileView.faithful_qualified.exportName_eq file service method

theorem Store.Thunk.ofMethod_qualified (context : MethodContext) :
    ofMethod context.qualified = ofMethod context := by
  simp only [ofMethod, MethodContext.qualified, Script.exportName_qualified]
  rfl

theorem Store.TypeScript.readsQualified : dialect.ReadsQualified where
  typeName := Name.lastSegment_qualified
  mapField _ := rfl
  bindMethod context := by
    simp only [dialect, TypeScript.bindMethod, Thunk.ofMethod_qualified]
  renderService := FileView.faithful_qualified.renderService_eq _
  renderFile _ := rfl

theorem Store.Flow.readsQualified : dialect.ReadsQualified where
  typeName := Name.lastSegment_qualified
  mapField _ := rfl
  bindMethod context := by
    simp only [dialect, Flow.bindMethod, Thunk.ofMethod_qualified]
  renderService := FileView.faithful_qualified.renderService_eq _
  renderFile _ := rfl

theorem Bridge.readsQualified : dialect.ReadsQualified where
  typeName := Name.lastSegment_qualified
  mapField _ := rfl
  bindMethod context := by
    have event : eventName context.file.qualified context.service.qualified
        context.method.qualified = eventName context.file context.service context.method :=
      FileView.faithful_qualified.eventName_eq _ _ _
    simp only [dialect, Bridge.bindMethod, MethodContext.qualified, Script.exportName_qualified,
      streamSteps, event]
    rfl
  renderService _ := rfl
  renderFile _ := rfl

theorem Promises.readsQualified : dialect.ReadsQualified where
  typeName := Name.withoutLeadingDot_qualified
  mapField _ := rfl
  bindMethod _ := rfl
  renderService _ := rfl
  renderFile context := by
    have imports : typeImports context.qualified = typeImports context := by
      simp only [typeImports, FileContext.qualified, File.methodRefs_qualified]
      exact TypeImports.ofRefs_qualified _ (fun _ => rfl) (fun _ => rfl) _
    simp only [dialect, fileSteps, headingSteps, imports]
    rfl

/-- A flag is made of the kind, the label and the name of a field. -/
theorem Commands.readsQualified : dialect.ReadsQualified where
  typeName := Name.lastSegment_qualified
  mapField _ := rfl
  bindMethod _ := rfl
  renderService _ := rfl
  renderFile context := by
    have client : clientType context.file.qualified = clientType context.file :=
      FileView.faithful_qualified.clientType_eq context.file
    simp only [dialect, fileSteps, FileContext.qualified, client]

theorem Dialect.readsQualified_of_mem_builtin {dialect : Dialect} (known : dialect ∈ builtin) :
    dialect.ReadsQualified := by
  simp only [builtin, List.mem_cons, List.not_mem_nil, or_false] at known
  rcases known with rfl | rfl | rfl | rfl | rfl | rfl
  · exact Commands.readsQualified
  · exact Store.TypeScript.readsQualified
  · exact Store.Flow.readsQualified
  · exact Bridge.readsQualified
  · exact Promises.readsQualified
  · exact Declarations.readsQualified

/-! ### Generation -/

theorem Dialect.resolve_qualified (registry : Registry) (file : File) (service : Service)
    (method : Method) (ref : String) :
    resolve registry.qualified file.qualified service.qualified method.qualified
        (Name.qualified ref) =
      ((resolve registry file service method ref).map Message.qualified).mapError
        GenerateError.qualified := by
  unfold resolve
  rw [Registry.message?_qualified_eq]
  cases outcome : registry.message? ref with
  | error cause =>
      obtain rfl := Registry.message?_eq_error outcome
      rfl
  | ok message => rfl

namespace Dialect.ReadsQualified

variable {dialect : Dialect} (reads : dialect.ReadsQualified) (registry : Registry)
  (options : Options)

include reads

theorem bindFields_qualified (request : Message) :
    dialect.bindFields request.qualified = dialect.bindFields request := by
  have fields : (request.fields.map Field.qualified).map dialect.mapField =
      request.fields.map dialect.mapField := by
    rw [List.map_map]
    exact List.map_congr_left fun field _ => reads.mapField field
  rw [bindFields, bindFields, Message.qualified_eq, fields]

theorem bind_qualified (file : File) (service : Service) (method : Method) :
    dialect.bind registry.qualified options file.qualified service.qualified method.qualified =
      (dialect.bind registry options file service method).mapError GenerateError.qualified := by
  have bound (request : Message) := reads.bindMethod
    { registry, file, service, method, request
      requestType := dialect.typeName method.inputType
      responseType := dialect.typeName method.outputType
      fields := dialect.bindFields request
      options }
  have input : method.qualified.inputType = Name.qualified method.inputType := rfl
  have output : method.qualified.outputType = Name.qualified method.outputType := rfl
  unfold Dialect.bind
  simp only [input, output, resolve_qualified, reads.typeName]
  cases resolve registry file service method method.inputType with
  | error cause => rfl
  | ok request =>
      cases resolve registry file service method method.outputType with
      | error cause => rfl
      | ok response =>
          simp only [MethodContext.qualified] at bound
          simp only [Except.map, Except.mapError, Bind.bind, Except.bind,
            reads.bindFields_qualified, bound]
          rfl

theorem renderFile_qualified (file : File) (services : List ServiceContext) :
    dialect.renderFile (dialect.fileContext registry.qualified options file.qualified
        (services.map ServiceContext.qualified)) =
      dialect.renderFile (dialect.fileContext registry options file services) := by
  have rendered : (services.map ServiceContext.qualified).map dialect.renderService =
      services.map dialect.renderService := by
    rw [List.map_map]
    exact List.map_congr_left fun service _ => reads.renderService service
  have streaming : (file.qualified.services.any fun service =>
      service.methods.any Method.isDuplex) =
        file.services.any fun service => service.methods.any Method.isDuplex := by
    simp only [File.qualified, Service.qualified, List.any_map, Function.comp_def]
    rfl
  rw [← reads.renderFile (dialect.fileContext registry options file services)]
  simp only [fileContext, rendered, streaming, List.flatMap_map, FileContext.qualified]
  rfl

/-- What is generated does not change when all references are written in the filed form, and an
error changes only in the reference that it reports. -/
theorem generate_qualified (fileName : String) :
    generate registry.qualified fileName dialect options =
      (generate registry fileName dialect options).mapError GenerateError.qualified := by
  have follows : dialect.Follows options .qualified registry registry.qualified :=
    { file? := registry.file?_qualified
      bind := reads.bind_qualified registry options
      renderFile := reads.renderFile_qualified registry options }
  exact follows.generate_eq FileView.faithful_qualified fileName

end Dialect.ReadsQualified

/-! ### Outcomes -/

/-- Two outcomes that differ at most in a reference that an error reports, which means the same in
both. -/
inductive SameOutcome :
    Except GenerateError GeneratedFile → Except GenerateError GeneratedFile → Prop where
  | generated (output : GeneratedFile) : SameOutcome (.ok output) (.ok output)
  | refused (error : GenerateError) : SameOutcome (.error error) (.error error)
  | unresolved (file service method : String) {ref other : String}
      (same : Name.qualified ref = Name.qualified other) :
      SameOutcome (.error (.typeNotFound file service method (.messageNotFound ref)))
        (.error (.typeNotFound file service method (.messageNotFound other)))

namespace SameOutcome

/-- Errors that agree in the filed form report the same, except for a dot in front of a
reference. -/
theorem of_qualified_eq {first second : GenerateError} (same : first.qualified = second.qualified) :
    SameOutcome (.error first) (.error second) := by
  unfold GenerateError.qualified at same
  split at same
  · split at same
    · rw [GenerateError.typeNotFound.injEq, LookupError.messageNotFound.injEq] at same
      obtain ⟨rfl, rfl, rfl, refs⟩ := same
      exact .unresolved _ _ _ refs
    · next other => exact absurd same.symm (other _ _ _ _)
  · split at same
    · next other _ _ _ _ _ => exact absurd same (other _ _ _ _)
    · subst same
      exact .refused _

theorem of_mapError_eq {first second : Except GenerateError GeneratedFile}
    (same : first.mapError GenerateError.qualified = second.mapError GenerateError.qualified) :
    SameOutcome first second := by
  cases first with
  | ok output =>
      rw [Traversal.mapError_eq_ok_iff.mp same.symm]
      exact .generated output
  | error error =>
      obtain ⟨other, rfl, agree⟩ := Traversal.mapError_eq_error_iff.mp same.symm
      exact of_qualified_eq agree

variable {first second : Except GenerateError GeneratedFile}

theorem eq_of_ok (same : SameOutcome first second) {output : GeneratedFile}
    (generated : first = .ok output) : second = .ok output := by
  subst generated
  cases same
  rfl

theorem exists_of_typeNotFound (same : SameOutcome first second) {file service method ref : String}
    (refused : first = .error (.typeNotFound file service method (.messageNotFound ref))) :
    ∃ other, Name.qualified ref = Name.qualified other ∧
      second = .error (.typeNotFound file service method (.messageNotFound other)) := by
  subst refused
  cases same with
  | refused => exact ⟨ref, rfl, rfl⟩
  | unresolved _ _ _ same => exact ⟨_, same, rfl⟩

end SameOutcome

/-- Files that can be loaded can be loaded without the dots in front of some of their references.
With all dialects and under all options the same is generated from both for each file, or the same
error is reported, in which only the dot in front of a reference may be missing. -/
theorem generate_independent_of_dots {files others : List File} {registry : Registry}
    (drops : List.Forall₂ File.DropsDots files others)
    (loaded : Registry.ofFiles files = .ok registry) :
    ∃ undotted, Registry.ofFiles others = .ok undotted ∧
      ∀ dialect ∈ Dialect.builtin, ∀ fileName options,
        SameOutcome (generate registry fileName dialect options)
          (generate undotted fileName dialect options) := by
  obtain ⟨othersLoaded, same⟩ := Registry.ofFiles_of_dropsDots drops loaded
  refine ⟨_, othersLoaded, ?_⟩
  intro dialect known fileName options
  have reads := Dialect.readsQualified_of_mem_builtin known
  refine SameOutcome.of_mapError_eq ?_
  calc
    _ = generate registry.qualified fileName dialect options :=
      (reads.generate_qualified _ _ _).symm
    _ = generate (Registry.assembled others).qualified fileName dialect options := by rw [same]
    _ = _ := reads.generate_qualified _ _ _

/-- A file whose methods and fields have references that mean something and a field with one that
does not, and a file with a method that is refused.  `write` puts the dot in front of a reference or
not. -/
def harborFiles (write : String → String) : List File :=
  [{ name := "harbor.proto", package := "harbor"
     messages :=
      [{ name := "Ship"
         fields :=
          [{ name := "flag", kind := .message, typeName := some (write "harbor.Flag") },
           { name := "captain", kind := .message, typeName := some (write "crew.Captain") }] },
       { name := "Flag" }]
     services :=
      [{ name := "Ships"
         methods := [Method.unary "Find" (write "harbor.Flag") (write "harbor.Ship")] }] },
   { name := "wreck.proto"
     services :=
      [{ name := "Wrecks"
         methods := [Method.unary "Raise" (write "harbor.Ship") (write "harbor.Wreck")] }] }]

theorem generate_independent_of_dots_harborFiles :
    ∃ dotted plain, Registry.ofFiles (harborFiles ("." ++ ·)) = .ok dotted ∧
      Registry.ofFiles (harborFiles id) = .ok plain ∧
      (∃ output, generate dotted "harbor.proto" Declarations.dialect {} = .ok output ∧
        generate plain "harbor.proto" Declarations.dialect {} = .ok output) ∧
      generate dotted "wreck.proto" Promises.dialect {} =
        .error (.typeNotFound "wreck.proto" "Wrecks" "Raise" (.messageNotFound ".harbor.Wreck")) ∧
      ∃ ref, Name.qualified ".harbor.Wreck" = Name.qualified ref ∧
        generate plain "wreck.proto" Promises.dialect {} =
          .error (.typeNotFound "wreck.proto" "Wrecks" "Raise" (.messageNotFound ref)) := by
  have flag : Name.DropsDot ("." ++ "harbor.Flag") "harbor.Flag" := .dropped (by decide)
  have ship : Name.DropsDot ("." ++ "harbor.Ship") "harbor.Ship" := .dropped (by decide)
  have captain : Name.DropsDot ("." ++ "crew.Captain") "crew.Captain" := .dropped (by decide)
  have wreck : Name.DropsDot ("." ++ "harbor.Wreck") "harbor.Wreck" := .dropped (by decide)
  have drops : List.Forall₂ File.DropsDots (harborFiles ("." ++ ·)) (harborFiles id) :=
    .cons
      ⟨rfl, rfl, .cons ⟨rfl, .cons ⟨rfl, flag, ship, rfl, rfl⟩ .nil⟩ .nil,
        .cons
          (.intro rfl
            (.cons ⟨rfl, rfl, rfl, .some flag⟩ (.cons ⟨rfl, rfl, rfl, .some captain⟩ .nil))
            .nil rfl rfl)
          (.cons (.intro rfl .nil .nil rfl rfl) .nil),
        rfl⟩
      (.cons ⟨rfl, rfl, .cons ⟨rfl, .cons ⟨rfl, ship, wreck, rfl, rfl⟩ .nil⟩ .nil, .nil, rfl⟩ .nil)
  have loaded : Registry.ofFiles (harborFiles ("." ++ ·)) =
      .ok (Registry.assembled (harborFiles ("." ++ ·))) := rfl
  obtain ⟨plain, plainLoaded, same⟩ := generate_independent_of_dots drops loaded
  refine ⟨_, plain, loaded, plainLoaded, ⟨_, rfl, ?declared⟩, rfl, ?refused⟩
  case declared =>
    have outcome := same Declarations.dialect (by simp [Dialect.builtin]) "harbor.proto" {}
    exact outcome.eq_of_ok rfl
  case refused =>
    have outcome := same Promises.dialect (by simp [Dialect.builtin]) "wreck.proto" {}
    exact outcome.exists_of_typeNotFound rfl

end RpcBindings
