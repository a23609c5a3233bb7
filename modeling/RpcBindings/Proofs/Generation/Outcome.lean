/-
Module: RpcBindings.Proofs.Generation.Outcome
Purpose: When bindings are generated, and which failure is reported otherwise.
Main exports: Method.Resolves, Method.Offends, FirstFailure, Dialect.bind_eq_ok_iff,
  Dialect.bindService_eq_ok_iff, generate_eq_ok_iff, ContextFor, exists_contextFor,
  generate_outcome
-/
import RpcBindings.Dialect.Builtin
import RpcBindings.Proofs.Dialect.MethodOrder
import RpcBindings.Proofs.Registry.Lookup

namespace RpcBindings

open Traversal

/-!
Generation asks for the file, then counts its services, then looks up the types of every method.
The lookups go through the services as they are declared and through the methods of each as the
dialect visits them, so the failure that is reported is the first one of that walk.
-/

/-- The registry has a message for a reference. -/
def Registry.Resolves (registry : Registry) (ref : String) : Prop :=
  ∃ message, registry.message? ref = .ok message

/-- The registry has messages for what a method takes and for what it answers with. -/
def Method.Resolves (registry : Registry) (method : Method) : Prop :=
  registry.Resolves method.inputType ∧ registry.Resolves method.outputType

/-- The reference for which a method is refused: what it takes, or else what it answers with. -/
def Method.Offends (registry : Registry) (method : Method) (ref : String) : Prop :=
  (ref = method.inputType ∧ ¬ registry.Resolves method.inputType) ∨
    (ref = method.outputType ∧ registry.Resolves method.inputType ∧
      ¬ registry.Resolves method.outputType)

/-- A dialect that asks for one service per file gets it. -/
def Dialect.AcceptsCount (dialect : Dialect) (file : File) : Prop :=
  dialect.servicesPerFile = .exactlyOne → file.services.length = 1

/-- The services of a file, bound one by one in declared order. -/
def Dialect.BoundServices (dialect : Dialect) (registry : Registry) (options : Options)
    (file : File) (contexts : List ServiceContext) : Prop :=
  List.Forall₂
    (fun service context => dialect.bindService registry options file service = .ok context)
    file.services contexts

/-- The failure that ends a generation, by the order of the checks. -/
inductive FirstFailure (registry : Registry) (fileName : String) (dialect : Dialect) :
    GenerateError → Prop where
  | file (unknown : ∀ file, registry.file? fileName ≠ .ok file) :
      FirstFailure registry fileName dialect (.fileNotFound (.fileNotFound fileName))
  | count {file : File}
      (known : registry.file? fileName = .ok file)
      (refused : ¬ dialect.AcceptsCount file) :
      FirstFailure registry fileName dialect
        (.unsupportedInput file.name dialect.name file.services.length)
  | type {file : File} {earlier later : List Service} {service : Service}
      {before after : List Method} {method : Method} {ref : String}
      (known : registry.file? fileName = .ok file)
      (accepted : dialect.AcceptsCount file)
      (services : file.services = earlier ++ service :: later)
      (earlierResolve : ∀ other ∈ earlier, ∀ method ∈ other.methods, method.Resolves registry)
      (methods : dialect.orderedMethods service = before ++ method :: after)
      (beforeResolve : ∀ other ∈ before, other.Resolves registry)
      (offends : method.Offends registry ref) :
      FirstFailure registry fileName dialect
        (.typeNotFound file.name service.name method.name (.messageNotFound ref))

/-! ### One method -/

namespace Dialect

variable {dialect : Dialect} {registry : Registry} {options : Options} {file : File}
  {service : Service} {method : Method}

theorem acceptsCount_iff : dialect.acceptsCount file = true ↔ dialect.AcceptsCount file := by
  unfold acceptsCount AcceptsCount
  cases dialect.servicesPerFile with
  | any => simp
  | exactlyOne => simp

theorem resolve_eq_ok_iff {ref : String} {message : Message} :
    resolve registry file service method ref = .ok message ↔
      registry.message? ref = .ok message :=
  mapError_eq_ok_iff

/-- A reference of a method that means nothing is reported with the place of the method. -/
theorem resolve_eq_error_iff {ref : String} {error : GenerateError} :
    resolve registry file service method ref = .error error ↔
      ¬ registry.Resolves ref ∧
        error = .typeNotFound file.name service.name method.name (.messageNotFound ref) := by
  rw [resolve, mapError_eq_error_iff]
  constructor
  · intro failure
    rcases failure with ⟨cause, fails, rfl⟩
    have written := Registry.message?_eq_error fails
    subst written
    refine ⟨?_, rfl⟩
    intro resolves
    rcases resolves with ⟨message, found⟩
    rw [fails] at found
    cases found
  · intro failure
    rcases failure with ⟨unresolved, rfl⟩
    cases outcome : registry.message? ref with
    | error cause => exact ⟨cause, rfl, by rw [Registry.message?_eq_error outcome]⟩
    | ok message => exact absurd ⟨message, outcome⟩ unresolved

theorem bind_eq_ok_iff {binding : Binding} :
    dialect.bind registry options file service method = .ok binding ↔
      ∃ request, registry.message? method.inputType = .ok request ∧
        registry.Resolves method.outputType ∧
        binding = dialect.bindMethod
          { registry, file, service, method, request
            requestType := dialect.typeName method.inputType
            responseType := dialect.typeName method.outputType
            fields := dialect.bindFields request
            options } := by
  unfold bind
  simp only [Traversal.bind_eq_ok_iff, resolve_eq_ok_iff]
  constructor
  · intro success
    rcases success with ⟨request, input, response, output, bound⟩
    exact ⟨request, input, ⟨response, output⟩, (Except.ok.inj bound).symm⟩
  · intro resolved
    rcases resolved with ⟨request, input, ⟨response, output⟩, rfl⟩
    exact ⟨request, input, response, output, rfl⟩

theorem exists_bind_eq_ok_iff (dialect : Dialect) (options : Options) (file : File)
    (service : Service) :
    (∃ binding, dialect.bind registry options file service method = .ok binding) ↔
      method.Resolves registry := by
  simp only [bind_eq_ok_iff]
  constructor
  · intro success
    rcases success with ⟨_, request, input, output, -⟩
    exact ⟨⟨request, input⟩, output⟩
  · intro resolves
    rcases resolves with ⟨⟨request, input⟩, output⟩
    exact ⟨_, request, input, output, rfl⟩

/-- A method is refused for the first of its types that does not resolve. -/
theorem bind_eq_error_iff {error : GenerateError} :
    dialect.bind registry options file service method = .error error ↔
      ∃ ref, method.Offends registry ref ∧
        error = .typeNotFound file.name service.name method.name (.messageNotFound ref) := by
  unfold bind
  simp only [Traversal.bind_eq_error_iff, resolve_eq_ok_iff, resolve_eq_error_iff]
  constructor
  · intro failure
    rcases failure with ⟨input, rfl⟩ | ⟨request, input, ⟨output, rfl⟩ | ⟨_, _, impossible⟩⟩
    · exact ⟨method.inputType, Or.inl ⟨rfl, input⟩, rfl⟩
    · exact ⟨method.outputType, Or.inr ⟨rfl, ⟨request, input⟩, output⟩, rfl⟩
    · cases impossible
  · intro offence
    rcases offence with ⟨ref, ⟨rfl, input⟩ | ⟨rfl, ⟨request, input⟩, output⟩, rfl⟩
    · exact Or.inl ⟨input, rfl⟩
    · exact Or.inr ⟨request, input, Or.inl ⟨output, rfl⟩⟩

/-! ### One service -/

theorem mem_orderedMethods_iff (dialect : Dialect) :
    method ∈ dialect.orderedMethods service ↔ method ∈ service.methods :=
  (visits_orderedMethods dialect service).perm.mem_iff

/-- The bindings of a service stand in the order in which its methods are visited. -/
theorem bindService_eq_ok_iff {context : ServiceContext} :
    dialect.bindService registry options file service = .ok context ↔
      ∃ bindings, List.Forall₂
          (fun method binding => dialect.bind registry options file service method = .ok binding)
          (dialect.orderedMethods service) bindings ∧
        context = { file, service, bindings } := by
  unfold bindService
  simp only [Traversal.bind_eq_ok_iff, mapM_eq_ok_iff]
  constructor
  · intro success
    rcases success with ⟨bindings, bound, same⟩
    exact ⟨bindings, bound, (Except.ok.inj same).symm⟩
  · intro bound
    rcases bound with ⟨bindings, bound, rfl⟩
    exact ⟨bindings, bound, rfl⟩

theorem exists_bindService_eq_ok_iff (dialect : Dialect) (options : Options) (file : File) :
    (∃ context, dialect.bindService registry options file service = .ok context) ↔
      ∀ method ∈ service.methods, method.Resolves registry := by
  simp only [← mem_orderedMethods_iff dialect,
    ← exists_bind_eq_ok_iff dialect options file service]
  rw [← exists_mapM_eq_ok_iff]
  simp only [bindService_eq_ok_iff, mapM_eq_ok_iff]
  constructor
  · intro success
    rcases success with ⟨_, bindings, bound, -⟩
    exact ⟨bindings, bound⟩
  · intro success
    rcases success with ⟨bindings, bound⟩
    exact ⟨_, bindings, bound, rfl⟩

/-- Once the services of a file are bound, all types of its methods are known. -/
theorem BoundServices.resolves {contexts : List ServiceContext}
    (bound : dialect.BoundServices registry options file contexts) {ref : String}
    (member : ref ∈ file.methodRefs) : registry.Resolves ref := by
  obtain ⟨service, serviceMember, method, methodMember, side⟩ := File.mem_methodRefs_iff.mp member
  have succeed := exists_mapM_eq_ok_iff.mp ⟨contexts, mapM_eq_ok_iff.mpr bound⟩
  have resolves := (exists_bindService_eq_ok_iff dialect options file).mp
    (succeed service serviceMember) method methodMember
  rcases List.mem_pair.mp side with rfl | rfl
  · exact resolves.1
  · exact resolves.2

/-- A service is refused for the first method that is refused, in the order of the visits. -/
theorem bindService_eq_error_iff {error : GenerateError} :
    dialect.bindService registry options file service = .error error ↔
      ∃ before method after ref,
        dialect.orderedMethods service = before ++ method :: after ∧
        (∀ other ∈ before, other.Resolves registry) ∧ method.Offends registry ref ∧
        error = .typeNotFound file.name service.name method.name (.messageNotFound ref) := by
  unfold bindService
  simp only [Traversal.bind_eq_error_iff, mapM_eq_error_iff, exists_bind_eq_ok_iff,
    bind_eq_error_iff]
  constructor
  · intro failure
    rcases failure with ⟨before, method, after, split, resolve, ref, offends, rfl⟩ |
      ⟨_, _, impossible⟩
    · exact ⟨before, method, after, ref, split, resolve, offends, rfl⟩
    · cases impossible
  · intro offence
    rcases offence with ⟨before, method, after, ref, split, resolve, offends, rfl⟩
    exact Or.inl ⟨before, method, after, split, resolve, ref, offends, rfl⟩

end Dialect

/-! ### One file -/

section

variable {registry : Registry} {fileName : String} {dialect : Dialect} {options : Options}

/-- What is generated is written from the bindings of all services, in declared order. -/
theorem generate_eq_ok_iff {output : GeneratedFile} :
    generate registry fileName dialect options = .ok output ↔
      ∃ file services, registry.file? fileName = .ok file ∧ dialect.AcceptsCount file ∧
        List.Forall₂
          (fun service context => dialect.bindService registry options file service = .ok context)
          file.services services ∧
        output =
          { name := dialect.outputName file.name
            content :=
              dialect.renderFile (dialect.fileContext registry options file services) } := by
  unfold generate
  simp only [bind_eq_ok_iff, mapError_eq_ok_iff]
  constructor
  · intro success
    rcases success with ⟨file, known, written⟩
    by_cases accepted : dialect.acceptsCount file = true
    · rw [if_pos accepted, bind_eq_ok_iff] at written
      obtain ⟨services, bound, same⟩ := written
      exact ⟨file, services, known, Dialect.acceptsCount_iff.mp accepted, mapM_eq_ok_iff.mp bound,
        (Except.ok.inj same).symm⟩
    · rw [if_neg accepted] at written
      cases written
  · intro success
    rcases success with ⟨file, services, known, accepted, bound, rfl⟩
    refine ⟨file, known, ?_⟩
    rw [if_pos (Dialect.acceptsCount_iff.mpr accepted), bind_eq_ok_iff]
    exact ⟨services, mapM_eq_ok_iff.mpr bound, rfl⟩

theorem mem_of_file?_eq_ok {file : File} (known : registry.file? fileName = .ok file) :
    file ∈ registry.files ∧ file.name = fileName := by
  unfold Registry.file? Registry.fileNamed? at known
  split at known
  · next found =>
    cases known
    exact ⟨List.mem_of_find?_eq_some found, by simpa using List.find?_some found⟩
  · cases known

/-- What a dialect is given for a file: the file is a loaded one, and its services are bound. -/
structure ContextFor (registry : Registry) (fileName : String) (dialect : Dialect)
    (options : Options) (context : FileContext) : Prop where
  known : registry.file? fileName = .ok context.file
  bound : ∃ services, dialect.BoundServices registry options context.file services ∧
    context = dialect.fileContext registry options context.file services

theorem ContextFor.member {context : FileContext}
    (made : ContextFor registry fileName dialect options context) :
    context.file ∈ registry.files :=
  (mem_of_file?_eq_ok made.known).1

theorem ContextFor.file_name {context : FileContext}
    (made : ContextFor registry fileName dialect options context) :
    context.file.name = fileName :=
  (mem_of_file?_eq_ok made.known).2

theorem ContextFor.registry_eq {context : FileContext}
    (made : ContextFor registry fileName dialect options context) :
    context.registry = registry := by
  obtain ⟨services, -, same⟩ := made.bound
  rw [same]
  rfl

theorem ContextFor.options_eq {context : FileContext}
    (made : ContextFor registry fileName dialect options context) :
    context.options = options := by
  obtain ⟨services, -, same⟩ := made.bound
  rw [same]
  rfl

/-- Every output is written from such a context. -/
theorem exists_contextFor {output : GeneratedFile}
    (generated : generate registry fileName dialect options = .ok output) :
    ∃ context, ContextFor registry fileName dialect options context ∧
      output = { name := dialect.outputName fileName, content := dialect.renderFile context } := by
  obtain ⟨file, services, known, -, bound, rfl⟩ := generate_eq_ok_iff.mp generated
  obtain ⟨-, rfl⟩ := mem_of_file?_eq_ok known
  exact ⟨dialect.fileContext registry options file services, ⟨known, services, bound, rfl⟩, rfl⟩

theorem file?_eq_error_iff {error : LookupError} :
    registry.file? fileName = .error error ↔
      (∀ file, registry.file? fileName ≠ .ok file) ∧ error = .fileNotFound fileName := by
  unfold Registry.file?
  cases registry.fileNamed? fileName with
  | none => simp [eq_comm]
  | some file => simp

/-- A generation that fails reports the first failure in the order of the checks. -/
theorem generate_eq_error_iff {error : GenerateError} :
    generate registry fileName dialect options = .error error ↔
      FirstFailure registry fileName dialect error := by
  unfold generate
  simp only [bind_eq_error_iff, mapError_eq_ok_iff, mapError_eq_error_iff, file?_eq_error_iff]
  constructor
  · intro failure
    rcases failure with ⟨_, ⟨unknown, rfl⟩, rfl⟩ | ⟨file, known, fails⟩
    · exact .file unknown
    · by_cases accepted : dialect.acceptsCount file = true
      · rw [if_pos accepted, bind_eq_error_iff, mapM_eq_error_iff] at fails
        rcases fails with ⟨earlier, service, later, services, succeed, refused⟩ | ⟨_, _, impossible⟩
        · obtain ⟨before, method, after, ref, methods, beforeResolve, offends, rfl⟩ :=
            Dialect.bindService_eq_error_iff.mp refused
          exact .type known (Dialect.acceptsCount_iff.mp accepted) services
            (fun other member =>
              (Dialect.exists_bindService_eq_ok_iff _ _ _).mp (succeed other member))
            methods beforeResolve offends
        · cases impossible
      · rw [if_neg accepted] at fails
        cases fails
        exact .count known fun counts => accepted (Dialect.acceptsCount_iff.mpr counts)
  · intro failure
    cases failure with
    | file unknown => exact Or.inl ⟨_, ⟨unknown, rfl⟩, rfl⟩
    | @count file known refused =>
        refine Or.inr ⟨file, known, ?_⟩
        rw [if_neg fun accepted => refused (Dialect.acceptsCount_iff.mp accepted)]
        rfl
    | @type file earlier later service before after method ref known accepted services
        earlierResolve methods beforeResolve offends =>
        refine Or.inr ⟨file, known, ?_⟩
        rw [if_pos (Dialect.acceptsCount_iff.mpr accepted), bind_eq_error_iff, mapM_eq_error_iff]
        refine Or.inl ⟨earlier, service, later, services, ?_, ?_⟩
        · intro other member
          exact (Dialect.exists_bindService_eq_ok_iff _ _ _).mpr (earlierResolve other member)
        · exact Dialect.bindService_eq_error_iff.mpr
            ⟨before, method, after, ref, methods, beforeResolve, offends, rfl⟩

/-- A name that no dialect has is reported before anything is looked up. -/
theorem generateByName_of_notMem {dialectName : String}
    (unknown : dialectName ∉ Dialect.builtinNames) :
    generateByName registry fileName dialectName options =
      .error (.unknownDialect dialectName) := by
  have absent : Dialect.ofName? dialectName = none := by
    rw [Dialect.ofName?, List.find?_eq_none]
    intro dialect member named
    exact unknown (List.mem_map.mpr ⟨dialect, member, eq_of_beq named⟩)
  rw [generateByName, absent]

theorem generateByName_of_mem (member : dialect ∈ Dialect.builtin) :
    generateByName registry fileName dialect.name options =
      generate registry fileName dialect options := by
  have found : Dialect.ofName? dialect.name = some dialect :=
    Table.find?_of_mem Dialect.nodup_builtinNames member
  rw [generateByName, found]

end

/-- Bindings are generated exactly when the file is known, the dialect accepts the number of its
services, and each method of each service takes and answers with known messages.  Otherwise the
first failure is reported in this order: the file, the number of services, and the types of the
methods, with services as declared and methods in the order of the dialect.  A dialect that is
chosen by an unknown name is reported before all that. -/
theorem generate_outcome (registry : Registry) (fileName : String) (options : Options) :
    (∀ dialect : Dialect,
      ((∃ output, generate registry fileName dialect options = .ok output) ↔
        ∃ file, registry.file? fileName = .ok file ∧ dialect.AcceptsCount file ∧
          ∀ service ∈ file.services, ∀ method ∈ service.methods, method.Resolves registry) ∧
      (∀ error, generate registry fileName dialect options = .error error ↔
        FirstFailure registry fileName dialect error) ∧
      ∀ service, Dialect.Visits dialect.methodOrder service.methods
        (dialect.orderedMethods service)) ∧
    (∀ dialectName, dialectName ∉ Dialect.builtinNames →
      generateByName registry fileName dialectName options =
        .error (.unknownDialect dialectName)) ∧
    ∀ dialect ∈ Dialect.builtin,
      generateByName registry fileName dialect.name options =
        generate registry fileName dialect options := by
  refine ⟨?_, ?_, ?_⟩
  · intro dialect
    refine ⟨?_, fun error => generate_eq_error_iff, Dialect.visits_orderedMethods dialect⟩
    constructor
    · intro success
      rcases success with ⟨output, generated⟩
      obtain ⟨file, services, known, accepted, bound, -⟩ := generate_eq_ok_iff.mp generated
      have succeed := exists_mapM_eq_ok_iff.mp ⟨services, mapM_eq_ok_iff.mpr bound⟩
      exact ⟨file, known, accepted, fun service member =>
        (Dialect.exists_bindService_eq_ok_iff _ _ _).mp (succeed service member)⟩
    · intro conditions
      rcases conditions with ⟨file, known, accepted, resolve⟩
      obtain ⟨services, bound⟩ := exists_mapM_eq_ok_iff.mpr fun service member =>
        (Dialect.exists_bindService_eq_ok_iff dialect options file).mpr (resolve service member)
      exact ⟨_, generate_eq_ok_iff.mpr
        ⟨file, services, known, accepted, mapM_eq_ok_iff.mp bound, rfl⟩⟩
  · intro dialectName unknown
    exact generateByName_of_notMem unknown
  · intro dialect member
    exact generateByName_of_mem member

/-- A service with two methods that do not resolve, declared in the opposite order of their
names. -/
def brokenSample : Service :=
  { name := "Maps"
    methods := [Method.unary "Zoom" ".Gone" ".Gone", Method.unary "Find" ".Lost" ".Gone"] }

/-- Of two methods that do not resolve, a dialect that goes by name reports the first by name. -/
theorem generateByName_brokenSample :
    generateByName { files := [{ name := "maps.proto", services := [brokenSample] }] } "maps.proto"
        "go-cli" {} =
      .error (.typeNotFound "maps.proto" "Maps" "Find" (.messageNotFound ".Lost")) := by
  let file : File := { name := "maps.proto", services := [brokenSample] }
  let registry : Registry := { files := [file] }
  have outcome := generate_outcome registry "maps.proto" {}
  have byName : generateByName registry "maps.proto" "go-cli" {} =
      generate registry "maps.proto" Commands.dialect {} :=
    outcome.2.2 Commands.dialect (List.mem_cons_self ..)
  rw [byName]
  have known : registry.file? "maps.proto" = .ok file := rfl
  have later : ¬ Dialect.nameBytes "Zoom" ≤ Dialect.nameBytes "Find" := by decide
  have visited : Commands.dialect.orderedMethods brokenSample =
      [] ++ Method.unary "Find" ".Lost" ".Gone" :: [Method.unary "Zoom" ".Gone" ".Gone"] := by
    simp [Dialect.orderedMethods, Commands.dialect, brokenSample, Method.unary, List.mergeSort,
      List.MergeSort.Internal.splitInTwo, later]
  have lost : ¬ registry.Resolves ".Lost" := by
    intro resolves
    rcases resolves with ⟨message, found⟩
    cases found
  exact ((outcome.1 Commands.dialect).2.1 _).mpr
    (.type known (fun _ => rfl) (List.nil_append _).symm (by simp) visited (by simp)
      (Or.inl ⟨rfl, lost⟩))

end RpcBindings
