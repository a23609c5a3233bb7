/-
Module: RpcBindings.Proofs.Generation.Streams
Purpose: How much of the streams of methods has an effect on what is generated.
Main exports: File.Alike, File.blurred, Registry.assembled_map_blurred, Dialect.Sees,
  Dialect.Sees.generate_blurred, Dialect.Sees.generate_congr, generate_depends_on_seen_streams
-/
import RpcBindings.Proofs.Generation.Agreement
import RpcBindings.Proofs.Generation.Views

namespace RpcBindings

/-!
A method has two flags, one for each side that sends a stream.  Most dialects look at them through a
question about the method: none at all, or whether both sides send streams.  Such a dialect writes
the same for a method of which nothing is left but the answer, and so it cannot tell two methods
apart that have the same answer.
-/

/-! ### Files that differ in their streams -/

/-- Two methods that differ at most in their streams, and of which `seen` shows the same. -/
structure Method.Alike (seen : Method → Bool) (first second : Method) : Prop where
  name : first.name = second.name
  inputType : first.inputType = second.inputType
  outputType : first.outputType = second.outputType
  seen : seen first = seen second

structure Service.Alike (seen : Method → Bool) (first second : Service) : Prop where
  name : first.name = second.name
  methods : List.Forall₂ (Method.Alike seen) first.methods second.methods

/-- Two files that differ at most in the streams of their methods. -/
structure File.Alike (seen : Method → Bool) (first second : File) : Prop where
  name : first.name = second.name
  package : first.package = second.package
  services : List.Forall₂ (Service.Alike seen) first.services second.services
  messages : first.messages = second.messages
  enums : first.enums = second.enums

/-- Nothing is seen of the streams of a method. -/
def Method.noStream : Method → Bool := fun _ => false

section Blurring

variable (seen : Method → Bool)

/-- A method of which both sides send streams if that is what is seen of it, and none does
otherwise. -/
def Method.blurred (method : Method) : Method :=
  { method with clientStreaming := seen method, serverStreaming := seen method }

def Service.blurred (service : Service) : Service :=
  { service with methods := service.methods.map (Method.blurred seen) }

def File.blurred (file : File) : File :=
  { file with services := file.services.map (Service.blurred seen) }

def Location.blurred (location : Location) : Location :=
  { location with file := location.file.blurred seen }

def Registry.blurred (registry : Registry) : Registry :=
  { registry with files := registry.files.map (File.blurred seen) }

variable {seen}

theorem Method.isDuplex_blurred (method : Method) : (method.blurred seen).isDuplex = seen method :=
  Bool.and_self _

theorem Method.Alike.blurred_eq {first second : Method} (alike : first.Alike seen second) :
    first.blurred seen = second.blurred seen := by
  simp only [blurred, alike.name, alike.inputType, alike.outputType, alike.seen]

theorem Service.Alike.blurred_eq {first second : Service} (alike : first.Alike seen second) :
    first.blurred seen = second.blurred seen := by
  have methods := Traversal.map_eq_map_of_forall₂
    (alike.methods.imp fun _ _ methods => methods.blurred_eq)
  simp only [blurred, alike.name, methods]

/-- Nothing is left of the differences between two files that are alike. -/
theorem File.Alike.blurred_eq {first second : File} (alike : first.Alike seen second) :
    first.blurred seen = second.blurred seen := by
  have services := Traversal.map_eq_map_of_forall₂
    (alike.services.imp fun _ _ services => services.blurred_eq)
  simp only [blurred, alike.name, alike.package, alike.messages, alike.enums, services]

/-! ### Registries -/

namespace Registry

variable (registry : Registry)

theorem assembled_map_blurred (files : List File) :
    assembled (files.map (File.blurred seen)) = (assembled files).blurred seen := by
  simp only [assembled, blurred, List.flatMap_map]
  rfl

theorem fileNamed?_blurred (name : String) :
    (registry.blurred seen).fileNamed? name =
      (registry.fileNamed? name).map (File.blurred seen) :=
  List.find?_map

theorem file?_blurred (name : String) :
    (registry.blurred seen).file? name = (registry.file? name).map (File.blurred seen) := by
  rw [file?, file?, fileNamed?_blurred]
  cases registry.fileNamed? name with
  | none => rfl
  | some file => rfl

/-- Messages have no streams. -/
theorem message?_blurred (ref : String) :
    (registry.blurred seen).message? ref = registry.message? ref := by
  have tables : (registry.blurred seen).messages = registry.messages := rfl
  unfold message?
  rw [tables]
  cases registry.messages.lookup (Name.qualified ref) with
  | none => rfl
  | some entry =>
      simp only [fileNamed?_blurred]
      cases registry.fileNamed? entry.file with
      | none => rfl
      | some file => rfl

theorem locate_blurred (ref : String) :
    (registry.blurred seen).locate ref = (registry.locate ref).map (Location.blurred seen) := by
  have tables : (registry.blurred seen).fileNameOf? = registry.fileNameOf? := rfl
  unfold locate
  rw [tables]
  cases registry.fileNameOf? (Name.qualified ref) with
  | none => rfl
  | some fileName =>
      simp only [fileNamed?_blurred]
      cases registry.fileNamed? fileName with
      | none => rfl
      | some file =>
          have package : (file.blurred seen).package = file.package := rfl
          simp only [Option.map_some, package]
          cases Name.localName? file.package (Name.qualified ref) with
          | none => rfl
          | some localName => rfl

end Registry

/-- Files of whose streams nothing is left but what is seen of them. -/
def FileView.blurred (seen : Method → Bool) : FileView :=
  { file := File.blurred seen
    service := Service.blurred seen
    method := Method.blurred seen }

theorem FileView.faithful_blurred (seen : Method → Bool) : (blurred seen).Faithful where
  name _ := rfl
  services _ := rfl
  methods _ := rfl
  serviceName _ := rfl
  methodName _ := rfl
  fileNotFound _ := rfl
  unsupportedInput _ _ _ := rfl

/-! ### Contexts -/

variable (seen)

def MethodContext.blurred (context : MethodContext) : MethodContext :=
  { context with
    registry := context.registry.blurred seen
    file := context.file.blurred seen
    service := context.service.blurred seen
    method := context.method.blurred seen }

def ServiceContext.blurred (context : ServiceContext) : ServiceContext :=
  { context with
    file := context.file.blurred seen
    service := context.service.blurred seen }

/-- Whether both sides of some method of a file send streams. -/
def File.hasDuplex (file : File) : Bool :=
  file.services.any fun service => service.methods.any Method.isDuplex

def FileContext.blurred (context : FileContext) : FileContext :=
  { context with
    registry := context.registry.blurred seen
    file := context.file.blurred seen
    streaming := (context.file.blurred seen).hasDuplex }

/-- A dialect that sees no more of the streams of a method than `seen`: it writes the same when
nothing else is left of them. -/
structure Dialect.Sees (dialect : Dialect) (options : Options) : Prop where
  bindMethod : ∀ context : MethodContext, context.options = options →
    dialect.bindMethod (context.blurred seen) = dialect.bindMethod context
  renderService : ∀ context : ServiceContext,
    dialect.renderService (context.blurred seen) = dialect.renderService context
  renderFile : ∀ context : FileContext, context.streaming = context.file.hasDuplex →
    dialect.renderFile (context.blurred seen) = dialect.renderFile context

end Blurring

/-! ### Imported types -/

section Imports

variable {seen : Method → Bool}

/-- Methods refer to the same types. -/
theorem File.methodRefs_blurred (file : File) :
    (file.blurred seen).methodRefs = file.methodRefs := by
  simp only [methodRefs, blurred, Service.blurred, List.flatMap_map]
  rfl

theorem Declarations.typeRefs_blurred (file : File) :
    typeRefs (file.blurred seen) = typeRefs file :=
  congrArg (fieldRefsIn file.messages ++ ·) (File.methodRefs_blurred file)

/-- An import is read off the name and the package of the file that declares a type. -/
theorem TypeImports.ofRefs_blurred (registry : Registry) {wanted : File → Bool}
    {moduleOf : File → String}
    (sameWanted : ∀ file : File, wanted (file.blurred seen) = wanted file)
    (sameModule : ∀ file : File, moduleOf (file.blurred seen) = moduleOf file)
    (refs : List String) :
    ofRefs (registry.blurred seen) wanted moduleOf refs = ofRefs registry wanted moduleOf refs := by
  unfold ofRefs
  congr 1
  funext imports ref
  rw [Registry.locate_blurred]
  cases registry.locate ref with
  | error error => rfl
  | ok location =>
      simp only [Except.map, Location.blurred, sameWanted, sameModule]
      rfl

end Imports

/-! ### Declarations -/

namespace Declarations

variable {seen : Method → Bool}

variable (seen) in
def Scope.blurred (scope : Scope) : Scope :=
  { scope with
    registry := scope.registry.blurred seen
    file := scope.file.blurred seen }

theorem Scope.spell_blurred (scope : Scope) : (scope.blurred seen).spell = scope.spell := by
  funext ref
  simp only [spell, Scope.blurred, Registry.locate_blurred]
  cases scope.registry.locate ref with
  | error error => rfl
  | ok location => rfl

theorem Scope.memberOf_blurred (scope : Scope) :
    (scope.blurred seen).memberOf = scope.memberOf := by
  have map : (scope.blurred seen).mapOf? = scope.mapOf? := by
    funext field
    simp only [mapOf?, Scope.blurred, Registry.message?_blurred]
  funext field
  simp only [memberOf_eq, memberFrame, heldField, map, spell_blurred]
  rfl

mutual

/-- What a message declares is settled by the members of messages. -/
theorem ofMessage_eq_of_memberOf_eq {first second : Scope}
    (members : first.memberOf = second.memberOf) :
    ∀ message : Message, ofMessage first message = ofMessage second message
  | { name, fields, nested, enums, mapEntry } => by
      rw [ofMessage, ofMessage, members, ofNested_eq_of_memberOf_eq members nested]

theorem ofNested_eq_of_memberOf_eq {first second : Scope}
    (members : first.memberOf = second.memberOf) :
    ∀ messages : List Message, ofNested first messages = ofNested second messages
  | [] => by rw [ofNested, ofNested]
  | message :: messages => by
      rw [ofNested, ofNested, ofMessage_eq_of_memberOf_eq members message,
        ofNested_eq_of_memberOf_eq members messages]

end

theorem ofFile_blurred (scope : Scope) : ofFile (scope.blurred seen) = ofFile scope := by
  have message : ofMessage (scope.blurred seen) = ofMessage scope :=
    funext (ofMessage_eq_of_memberOf_eq scope.memberOf_blurred)
  simp only [ofFile, message]
  rfl

/-- A declaration file without iterators shows nothing of the streams. -/
theorem sees {options : Options} (plain : options.asyncIterators = false) :
    dialect.Sees seen options where
  bindMethod context given := by
    let scope := Scope.ofFile context.registry context.file context.options
    have spell : (scope.blurred seen).spell = scope.spell := scope.spell_blurred
    have side (streaming : Bool) (type : String) :
        sideType context.options streaming type = type := by
      simp [sideType, given, plain]
    simp only [scope, Scope.blurred, Scope.ofFile] at spell
    simp only [dialect, Declarations.bindMethod, MethodContext.blurred, Scope.ofFile, spell, side]
    rfl
  renderService _ := rfl
  renderFile context _ := by
    let scope := Scope.ofFile context.registry context.file context.options
    have declared : ofFile (scope.blurred seen) = ofFile scope := ofFile_blurred scope
    have imports : typeImports (context.blurred seen) = typeImports context := by
      simp only [typeImports, FileContext.blurred, typeRefs_blurred]
      exact TypeImports.ofRefs_blurred _ (fun _ => rfl) (fun _ => rfl) _
    simp only [scope, Scope.blurred, Scope.ofFile] at declared
    simp only [dialect, fileSteps, packageSteps, imports, Scope.ofFile]
    simp only [FileContext.blurred, declared]
    rfl

end Declarations

/-! ### Scripts and commands -/

theorem Script.exportName_blurred {seen : Method → Bool} (file : File) (service : Service)
    (method : Method) :
    exportName (file.blurred seen) (service.blurred seen) (method.blurred seen) =
      exportName file service method :=
  (FileView.faithful_blurred seen).exportName_eq file service method

/-- Stores call a method with streams like any other. -/
theorem Store.Thunk.ofMethod_blurred {seen : Method → Bool} (context : MethodContext) :
    ofMethod (context.blurred seen) = ofMethod context := by
  simp only [ofMethod, MethodContext.blurred, Script.exportName_blurred]
  rfl

theorem Store.TypeScript.sees (seen : Method → Bool) (options : Options) :
    dialect.Sees seen options where
  bindMethod context _ := by
    simp only [dialect, TypeScript.bindMethod, Thunk.ofMethod_blurred]
  renderService context := (FileView.faithful_blurred seen).renderService_eq _ context
  renderFile _ _ := rfl

theorem Store.Flow.sees (seen : Method → Bool) (options : Options) :
    dialect.Sees seen options where
  bindMethod context _ := by
    simp only [dialect, Flow.bindMethod, Thunk.ofMethod_blurred]
  renderService context := (FileView.faithful_blurred seen).renderService_eq _ context
  renderFile _ _ := rfl

theorem Bridge.sees (options : Options) : dialect.Sees Method.isDuplex options where
  bindMethod context _ := by
    have event : eventName (context.file.blurred Method.isDuplex)
        (context.service.blurred Method.isDuplex) (context.method.blurred Method.isDuplex) =
          eventName context.file context.service context.method :=
      (FileView.faithful_blurred Method.isDuplex).eventName_eq _ _ _
    simp only [dialect, Bridge.bindMethod, MethodContext.blurred, Script.exportName_blurred,
      Method.isDuplex_blurred, streamSteps, event]
    rfl
  renderService _ := rfl
  renderFile _ _ := rfl

theorem Promises.sees (options : Options) : dialect.Sees Method.isDuplex options where
  bindMethod context _ := by
    simp only [dialect, Promises.bindMethod, MethodContext.blurred, Method.isDuplex_blurred]
    rfl
  renderService _ := rfl
  renderFile context _ := by
    have imports : typeImports (context.blurred Method.isDuplex) = typeImports context := by
      simp only [typeImports, FileContext.blurred, File.methodRefs_blurred]
      exact TypeImports.ofRefs_blurred _ (fun _ => rfl) (fun _ => rfl) _
    simp only [dialect, fileSteps, headingSteps, imports]
    rfl

theorem Commands.sees (options : Options) : dialect.Sees Method.isDuplex options where
  bindMethod context _ := by
    simp only [dialect, Commands.bindMethod, commandSteps, MethodContext.blurred,
      Method.isDuplex_blurred]
    rfl
  renderService _ := rfl
  renderFile context streaming := by
    have client : clientType (context.file.blurred Method.isDuplex) = clientType context.file :=
      (FileView.faithful_blurred Method.isDuplex).clientType_eq context.file
    have duplex : (context.file.blurred Method.isDuplex).hasDuplex = context.file.hasDuplex := by
      simp only [File.hasDuplex, File.blurred, Service.blurred, List.any_map, Function.comp_def,
        Method.isDuplex_blurred]
    simp only [dialect, fileSteps, FileContext.blurred, client, duplex, streaming]

/-! ### Generation -/

section Generation

variable {seen : Method → Bool} {dialect : Dialect} {options : Options}

variable (sees : dialect.Sees seen options) (registry : Registry)

include sees

theorem Dialect.Sees.bind_blurred (file : File) (service : Service) (method : Method) :
    dialect.bind (registry.blurred seen) options (file.blurred seen) (service.blurred seen)
        (method.blurred seen) =
      dialect.bind registry options file service method := by
  have bound (request : Message) := sees.bindMethod
    { registry, file, service, method, request
      requestType := dialect.typeName method.inputType
      responseType := dialect.typeName method.outputType
      fields := dialect.bindFields request
      options } rfl
  simp only [MethodContext.blurred] at bound
  simp only [bind, resolve, Registry.message?_blurred, File.blurred, Service.blurred,
    Method.blurred] at bound ⊢
  simp only [bound]

theorem Dialect.Sees.renderFile_blurred (file : File) (services : List ServiceContext) :
    dialect.renderFile (dialect.fileContext (registry.blurred seen) options (file.blurred seen)
        (services.map (ServiceContext.blurred seen))) =
      dialect.renderFile (dialect.fileContext registry options file services) := by
  have rendered : (services.map (ServiceContext.blurred seen)).map dialect.renderService =
      services.map dialect.renderService := by
    rw [List.map_map]
    exact List.map_congr_left fun service _ => sees.renderService service
  rw [← sees.renderFile (dialect.fileContext registry options file services) rfl]
  simp only [fileContext, rendered, List.flatMap_map, FileContext.blurred]
  rfl

/-- What is generated is the same when nothing is left of the streams but what the dialect sees. -/
theorem Dialect.Sees.generate_blurred (fileName : String) :
    generate (registry.blurred seen) fileName dialect options =
      generate registry fileName dialect options := by
  have follows : dialect.Follows options (.blurred seen) registry (registry.blurred seen) :=
    { file? := registry.file?_blurred
      bind := fun file service method =>
        (sees.bind_blurred registry file service method).trans (Traversal.mapError_id _).symm
      renderFile := sees.renderFile_blurred registry }
  rw [follows.generate_eq (FileView.faithful_blurred seen)]
  exact Traversal.mapError_id _

end Generation

/-- Sets of files of which a dialect sees the same are generated alike. -/
theorem Dialect.Sees.generate_congr {seen : Method → Bool} {dialect : Dialect} {options : Options}
    (sees : dialect.Sees seen options) {files others : List File}
    (alike : List.Forall₂ (File.Alike seen) files others) (fileName : String) :
    generate (Registry.assembled files) fileName dialect options =
      generate (Registry.assembled others) fileName dialect options := by
  have blurred : files.map (File.blurred seen) = others.map (File.blurred seen) :=
    Traversal.map_eq_map_of_forall₂ (alike.imp fun _ _ files => files.blurred_eq)
  have registries :
      (Registry.assembled files).blurred seen = (Registry.assembled others).blurred seen := by
    rw [← Registry.assembled_map_blurred, ← Registry.assembled_map_blurred, blurred]
  calc
    _ = generate ((Registry.assembled files).blurred seen) fileName dialect options :=
      (sees.generate_blurred _ _).symm
    _ = generate ((Registry.assembled others).blurred seen) fileName dialect options := by
      rw [registries]
    _ = _ := sees.generate_blurred _ _

/-- Stores do not depend on the streams of methods.  Commands, bridges and promises depend on them
only through the methods of which both sides send streams, and declarations only if iterators are
asked for. -/
theorem generate_depends_on_seen_streams {files others : List File} {registry other : Registry}
    (loaded : Registry.ofFiles files = .ok registry)
    (otherLoaded : Registry.ofFiles others = .ok other) (fileName : String) (options : Options) :
    (List.Forall₂ (File.Alike Method.noStream) files others →
      ∀ dialect ∈ [Store.TypeScript.dialect, Store.Flow.dialect],
        generate registry fileName dialect options = generate other fileName dialect options) ∧
    (List.Forall₂ (File.Alike Method.isDuplex) files others →
      ∀ dialect ∈ [Commands.dialect, Bridge.dialect, Promises.dialect],
        generate registry fileName dialect options = generate other fileName dialect options) ∧
    (List.Forall₂ (File.Alike Method.noStream) files others → options.asyncIterators = false →
      generate registry fileName Declarations.dialect options =
        generate other fileName Declarations.dialect options) := by
  obtain ⟨-, rfl⟩ := Registry.ofFiles_eq_ok_iff.mp loaded
  obtain ⟨-, rfl⟩ := Registry.ofFiles_eq_ok_iff.mp otherLoaded
  refine ⟨?stores, ?duplex, ?declarations⟩
  case stores =>
    intro alike dialect member
    simp only [List.mem_cons, List.not_mem_nil, or_false] at member
    rcases member with rfl | rfl
    · exact (Store.TypeScript.sees _ options).generate_congr alike fileName
    · exact (Store.Flow.sees _ options).generate_congr alike fileName
  case duplex =>
    intro alike dialect member
    simp only [List.mem_cons, List.not_mem_nil, or_false] at member
    rcases member with rfl | rfl | rfl
    · exact (Commands.sees options).generate_congr alike fileName
    · exact (Bridge.sees options).generate_congr alike fileName
    · exact (Promises.sees options).generate_congr alike fileName
  case declarations =>
    intro alike plain
    exact (Declarations.sees plain).generate_congr alike fileName

/-- A file with a method whose answers, or whose requests, may be a stream. -/
def tideFile (clientStreaming serverStreaming : Bool) : File :=
  { name := "tide.proto", package := "tide"
    messages := [{ name := "Level", fields := [{ name := "height", kind := .int32 }] }]
    services :=
      [{ name := "Tides"
         methods :=
          [{ name := "Watch", inputType := ".tide.Level", outputType := ".tide.Level"
             clientStreaming, serverStreaming }] }] }

/-- A store and plain declarations are the same for a method with streams of both sides and one
without any, and promises are the same for a method with one stream and one without any. -/
theorem generate_depends_on_seen_streams_tideFile :
    ∃ none server both,
      Registry.ofFiles [tideFile false false] = .ok none ∧
      Registry.ofFiles [tideFile false true] = .ok server ∧
      Registry.ofFiles [tideFile true true] = .ok both ∧
      (∃ store, generate none "tide.proto" Store.Flow.dialect {} = .ok store ∧
        generate both "tide.proto" Store.Flow.dialect {} = .ok store) ∧
      (∃ promises, generate none "tide.proto" Promises.dialect {} = .ok promises ∧
        generate server "tide.proto" Promises.dialect {} = .ok promises) ∧
      ∃ declared, generate none "tide.proto" Declarations.dialect {} = .ok declared ∧
        generate both "tide.proto" Declarations.dialect {} = .ok declared := by
  let loaded (client server : Bool) : Registry := Registry.assembled [tideFile client server]
  have load (client server : Bool) :
      Registry.ofFiles [tideFile client server] = .ok (loaded client server) := rfl
  have unseen (client server : Bool) :
      List.Forall₂ (File.Alike Method.noStream) [tideFile false false] [tideFile client server] :=
    .cons ⟨rfl, rfl, .cons ⟨rfl, .cons ⟨rfl, rfl, rfl, rfl⟩ .nil⟩ .nil, rfl, rfl⟩ .nil
  have half : List.Forall₂ (File.Alike Method.isDuplex) [tideFile false false]
      [tideFile false true] :=
    .cons ⟨rfl, rfl, .cons ⟨rfl, .cons ⟨rfl, rfl, rfl, rfl⟩ .nil⟩ .nil, rfl, rfl⟩ .nil
  have all (client server : Bool) := generate_depends_on_seen_streams (load false false)
    (load client server) "tide.proto" {}
  refine ⟨loaded false false, loaded false true, loaded true true, load .., load .., load ..,
    ⟨_, rfl, ?store⟩, ⟨_, rfl, ?promises⟩, ⟨_, rfl, ?declared⟩⟩
  case store => exact ((all true true).1 (unseen ..) Store.Flow.dialect (by simp)).symm
  case promises => exact ((all false true).2.1 half Promises.dialect (by simp)).symm
  case declared => exact ((all true true).2.2 (unseen ..) rfl).symm

end RpcBindings
