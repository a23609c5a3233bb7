/-
Module: RpcBindings.Proofs.Promises.Imports
Purpose: Every type in the signature of a promise method is imported, and no other type is.
Main exports: Promises.signature, Promises.ClassOf, Promises.frame, Promises.generate_binds_types
-/
import RpcBindings.Proofs.TypeImports.Binding

namespace RpcBindings.Promises

open Layout TypeImports

/-!
Signatures spell a type as its reference is written, without the dot in front.  The imports are
collected from the places where the types are declared.  Both go back to one list: the references of
the methods, services and methods as they are declared, what a method takes before what it answers
with.
-/

/-! ### Classes -/

/-- The first line of a method in its class. -/
def signature (method : Method) : String :=
  let request := Name.withoutLeadingDot method.inputType
  let response := Name.withoutLeadingDot method.outputType
  if method.isDuplex then
    method.name ++ "(): ClientDuplexStream<" ++ request ++ ", " ++ response ++ "> \x7b"
  else method.name ++ "(req: " ++ request ++ "): Promise<" ++ response ++ "> \x7b"

/-- The code of a method begins with its signature. -/
def Signed (method : Method) (binding : Binding) : Prop :=
  ∃ body, binding.fragment = Script.indentUnit ++ signature method ++ "\n" ++ body

/-- The members of every class in front of its methods. -/
def constructorText : String :=
  "  service: ServiceClient\n\n  constructor(service: ServiceClient) \x7b\n" ++
    "    this.service = service\n  \x7d\n"

/-- A text is the class of a service: the methods stand in it as they are declared, each with its
signature and behind an empty line. -/
def ClassOf (service : Service) (text : String) : Prop :=
  ∃ bindings, List.Forall₂ Signed service.methods bindings ∧
    text = "export class " ++ service.name ++ "Service \x7b\n" ++ constructorText ++
      String.join (bindings.map fun binding => "\n" ++ binding.fragment) ++ "\x7d\n"

theorem signed_bindMethod (context : MethodContext)
    (request : context.requestType = Name.withoutLeadingDot context.method.inputType)
    (response : context.responseType = Name.withoutLeadingDot context.method.outputType) :
    Signed context.method (bindMethod context) := by
  have begins (header : String) (body : List Step) :
      ∃ rest, renderAt Script.indentUnit 1 (block header body "") =
        Script.indentUnit ++ (header ++ "\x7b") ++ "\n" ++ rest := by
    refine ⟨renderAt Script.indentUnit 2 (body ++ [.leave "\x7d"]), ?_⟩
    simp [block, renderAt_cons, Step.text, Step.levelAfter, lineAt, indentation]
  unfold Signed bindMethod signature
  cases duplex : context.method.isDuplex with
  | true =>
      simp only [if_true, ← request, ← response, streamSteps]
      obtain ⟨rest, written⟩ := begins (context.method.name ++ "(): ClientDuplexStream<" ++
        context.requestType ++ ", " ++ context.responseType ++ "> ") _
      refine ⟨rest, written.trans ?_⟩
      simp [String.append_assoc]
  | false =>
      simp only [Bool.false_eq_true, if_false, ← request, ← response, unarySteps]
      obtain ⟨rest, written⟩ := begins (context.method.name ++ "(req: " ++ context.requestType ++
        "): Promise<" ++ context.responseType ++ "> ") _
      refine ⟨rest, written.trans ?_⟩
      simp [String.append_assoc]

/-- The methods of a bound service carry their signatures. -/
theorem signed_bindings {registry : Registry} {options : Options} {file : File}
    {service : Service} {context : ServiceContext}
    (bound : dialect.bindService registry options file service = .ok context) :
    List.Forall₂ Signed service.methods context.bindings := by
  obtain ⟨bindings, pairs, rfl⟩ := Dialect.bindService_eq_ok_iff.mp bound
  refine pairs.imp fun method binding methodBound => ?_
  obtain ⟨request, -, -, rfl⟩ := Dialect.bind_eq_ok_iff.mp methodBound
  exact signed_bindMethod _ rfl rfl

theorem renderAt_methods (bindings : List Binding) :
    renderAt Script.indentUnit 1
        (bindings.flatMap fun binding => [.blank, .splice binding.fragment]) =
      String.join (bindings.map fun binding => "\n" ++ binding.fragment) := by
  rw [renderAt_flatMap _ fun _ _ _ => rfl]
  simp [renderAt_cons, Step.text, Step.levelAfter]

/-- The steps that write the members in front of the methods. -/
def constructorSteps : List Step :=
  [.line "service: ServiceClient", .blank] ++
    block "constructor(service: ServiceClient) " [.line "this.service = service"] ""

theorem renderAt_constructorSteps :
    renderAt Script.indentUnit 1 constructorSteps = constructorText := by
  decide

theorem renderService_eq (context : ServiceContext) :
    dialect.renderService context =
      "export class " ++ context.service.name ++ "Service \x7b\n" ++ constructorText ++
        String.join (context.bindings.map fun binding => "\n" ++ binding.fragment) ++
          "\x7d\n" := by
  have methods : Balanced
      (context.bindings.flatMap fun binding => [.blank, .splice binding.fragment]) :=
    Balanced.flatMap fun _ _ _ => rfl
  have front : Balanced constructorSteps := fun _ => rfl
  have parts : serviceSteps context =
      block ("export class " ++ context.service.name ++ "Service ")
        (constructorSteps ++
          context.bindings.flatMap fun binding => [.blank, .splice binding.fragment]) "" := rfl
  simp only [dialect]
  rw [render, parts, renderAt_block _ (front.append methods),
    renderAt_append_of_balanced _ front, renderAt_methods, renderAt_constructorSteps,
    lineAt_eq _ (by simp), lineAt_eq _ (by simp), indentation_zero]
  simp [String.append_assoc]

/-- The services of a file are written as classes. -/
theorem classOf_renderService {registry : Registry} {options : Options} {file : File}
    {contexts : List ServiceContext}
    (bound : dialect.BoundServices registry options file contexts) :
    List.Forall₂ ClassOf file.services (contexts.map dialect.renderService) := by
  refine List.forall₂_map_right_iff.mpr (bound.imp fun service context serviceBound => ?_)
  have signed := signed_bindings serviceBound
  obtain ⟨bindings, -, rfl⟩ := Dialect.bindService_eq_ok_iff.mp serviceBound
  exact ⟨bindings, signed, renderService_eq _⟩

/-! ### The output -/

def frame : Script.Frame where
  above := headingSteps
  below := fun context => errorSteps ++ [.splice ("\n".intercalate context.services)]
  balanced := fun context => by
    refine Balanced.append (fun _ => rfl) ?_
    split
    · exact balanced_nil
    · exact balanced_singleton fun _ => rfl

/-- The output is a heading, the imports of types, the type of errors, and the classes. -/
theorem renderFile_eq (context : FileContext) :
    dialect.renderFile context = frame.around context (typeImports context).text := by
  have parts : fileSteps context =
      frame.above context ++ (typeImports context).steps ++ frame.below context :=
    List.append_assoc ..
  simp only [dialect]
  rw [parts, frame.render_eq context (balanced_steps _), render_steps]

/-- The classes stand behind the type of errors. -/
theorem renderFile_eq_classes (context : FileContext) :
    dialect.renderFile context =
      render Script.indentUnit (headingSteps context) ++ (typeImports context).text ++
        render Script.indentUnit errorSteps ++ "\n".intercalate context.services := by
  have below : render Script.indentUnit (frame.below context) =
      render Script.indentUnit errorSteps ++ "\n".intercalate context.services :=
    Script.render_append_splice (fun _ => rfl) _
  rw [renderFile_eq, Script.Frame.around, below, ← String.append_assoc]
  rfl

/-- What is written for the methods of a file is bound by the imports of the same output.  Each type
in a signature is spelled as its reference is written.  If its file has a package, the first segment
of the spelling is imported once, from the module of the first type with this root; otherwise it
stands once among the names that are taken from the module of its file.  No other root and no other
name is imported. -/
theorem generate_binds_types {files : List File} {registry : Registry} {fileName : String}
    {options : Options} {output : GeneratedFile}
    (loaded : Registry.ofFiles files = .ok registry)
    (undotted : ∀ file ∈ files, Name.Undotted file.package)
    (generated : generate registry fileName dialect options = .ok output) :
    ∃ context : FileContext, context.file ∈ files ∧ context.file.name = fileName ∧
      context.registry = registry ∧ context.options = options ∧
      output.content =
        render Script.indentUnit (headingSteps context) ++ (typeImports context).text ++
          render Script.indentUnit errorSteps ++ "\n".intercalate context.services ∧
      List.Forall₂ ClassOf context.file.services context.services ∧
      ∃ locations, BindsExactly files context.moduleOf (context.file.methodRefs)
        (typeImports context) locations := by
  obtain ⟨compatible, rfl⟩ := Registry.ofFiles_eq_ok_iff.mp loaded
  obtain ⟨file, contexts, known, -, bound, rfl⟩ := generate_eq_ok_iff.mp generated
  obtain ⟨member, named⟩ := mem_of_file?_eq_ok known
  -- Generation looks the types up as messages; the imports look for the places of declarations.
  have located : ∀ ref ∈ file.methodRefs,
      ∃ location, (Registry.assembled files).locate ref = .ok location := by
    intro ref refMember
    exact (Dialect.BoundServices.resolves bound refMember).exists_locate compatible
  refine ⟨dialect.fileContext (Registry.assembled files) options file contexts, member, named,
    rfl, rfl, ?_, ?_, ?_⟩
  · exact renderFile_eq_classes
      (dialect.fileContext (Registry.assembled files) options file contexts)
  · exact classOf_renderService bound
  · exact ⟨_, bindsExactly_ofRefs compatible undotted located _⟩

/-- A message that is nested in another one, in a file without a package. -/
def bareSample : File :=
  { name := "bare.proto", messages := [{ name := "Plain", nested := [{ name := "Inner" }] }] }

/-- A file whose methods use nested types of two other files, one of which has a package. -/
def importSamples : List File :=
  [{ name := "maps.proto", package := "acme.maps", messages := [{ name := "Query" }]
     services :=
       [{ name := "Maps"
          methods :=
            [Method.unary "Find" ".acme.geo.Shape.Point" "Plain.Inner",
             Method.duplex "Watch" ".acme.maps.Query" ".acme.geo.Shape.Point"] }] },
   { name := "geo.proto", package := "acme.geo"
     messages := [{ name := "Shape", nested := [{ name := "Point" }] }] },
   bareSample]

/-- A type without a package that is nested in another one is reached through the outer one, which
is taken once from the module of its file. -/
theorem generate_binds_types_importSamples :
    ∃ output, generate (Registry.assembled importSamples) "maps.proto" dialect {} = .ok output ∧
      ∃ (imports : TypeImports) (names : NameSet),
        (imports.named.filter fun entry => entry.1 == "./bare.d") = [("./bare.d", names)] ∧
        names.toList.count "Plain" = 1 ∧
        ∃ before after, output.content = before ++ imports.text ++ after := by
  have loaded : Registry.ofFiles importSamples = .ok (Registry.assembled importSamples) := rfl
  have undotted : ∀ file ∈ importSamples, Name.Undotted file.package := by
    simp [importSamples, bareSample, Name.Undotted]
  have generated : ∃ output,
      generate (Registry.assembled importSamples) "maps.proto" dialect {} = .ok output := ⟨_, rfl⟩
  obtain ⟨output, generated⟩ := generated
  obtain ⟨context, member, named, -, -, content, -, locations, binds⟩ :=
    generate_binds_types loaded undotted generated
  have used : "Plain.Inner" ∈ context.file.methodRefs := by
    rcases List.mem_cons.mp member with same | other
    · rw [same]
      decide
    · simp [bareSample] at other
      rcases other with same | same <;> simp [same] at named
  have found : DeclaredAt importSamples "Plain.Inner" ⟨bareSample, "Plain.Inner"⟩ :=
    ⟨by simp [importSamples], File.mem_declaredRefs_iff.mp (by decide), by decide⟩
  have module : context.moduleOf bareSample = "./bare.d" := by
    rw [FileContext.moduleOf, named, if_neg (by decide)]
    decide
  refine ⟨output, generated, typeImports context, ?_⟩
  cases binds.bound "Plain.Inner" used _ found with
  | root packaged => exact absurd rfl packaged
  | name unnamed group once =>
      rw [module] at group
      exact ⟨_, group, once, _, _, by rw [content, String.append_assoc]⟩

end RpcBindings.Promises
