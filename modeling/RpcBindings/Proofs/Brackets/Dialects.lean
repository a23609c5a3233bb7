/-
Module: RpcBindings.Proofs.Brackets.Dialects
Purpose: What each function of a dialect must do so that the brackets of all its output match.
Main exports: FieldBinding.Tidy, Binding.Tidy, MethodContext.Portable, ServiceContext.Portable,
  FileContext.Portable, Dialect.Tidy, Dialect.Tidy.generate
-/
import RpcBindings.Proofs.Brackets.Files
import RpcBindings.Proofs.Generation.Outcome

namespace RpcBindings

open Layout
open Name (AllPortable)
open Traversal (exists_of_mem_results)

/-!
Portable texts go in at the bottom, and code with matching brackets comes out of every function of a
dialect.  What a function is given holds both: texts of the input, and code that was written before.
-/

/-! ### Bindings and contexts -/

structure FieldBinding.Tidy (binding : FieldBinding) : Prop where
  declaration : WellBracketed binding.declaration
  accessor : WellBracketed binding.accessor

structure Binding.Tidy (binding : Binding) : Prop where
  exported : Name.Portable binding.exported
  requestType : Name.Portable binding.requestType
  responseType : Name.Portable binding.responseType
  fragment : WellBracketed binding.fragment

structure MethodContext.Portable (context : MethodContext) : Prop where
  registry : context.registry.Portable
  file : AllPortable context.file.texts
  service : AllPortable context.service.texts
  method : AllPortable context.method.texts
  requestType : Name.Portable context.requestType
  responseType : Name.Portable context.responseType
  fields : ∀ field ∈ context.fields, field.Tidy
  options : AllPortable context.options.texts

structure ServiceContext.Portable (context : ServiceContext) : Prop where
  file : AllPortable context.file.texts
  service : AllPortable context.service.texts
  bindings : ∀ binding ∈ context.bindings, binding.Tidy

structure FileContext.Portable (context : FileContext) : Prop where
  registry : context.registry.Portable
  file : AllPortable context.file.texts
  inputId : Name.Portable context.inputId
  types : ∀ type ∈ context.types.toList, Name.Portable type
  services : ∀ service ∈ context.services, WellBracketed service
  options : AllPortable context.options.texts

theorem MethodContext.Portable.fullName {context : MethodContext} (portable : context.Portable) :
    Name.Portable context.fullName := by
  have dot : Name.Portable "." := by decide
  exact ((Service.portable_name portable.service).append dot).append
    (Method.portable_name portable.method)

/-! ### Options -/

namespace Options

variable {options : Options} (portable : AllPortable options.texts)

include portable

theorem portable_inputId {fileName : String} (otherwise : Name.Portable fileName) :
    Name.Portable (options.inputId.getD fileName) :=
  portable.left.left.left.getD otherwise

theorem portable_typesImport {module : String} (otherwise : Name.Portable module) :
    Name.Portable (options.typesImport.getD module) :=
  portable.left.left.right.getD otherwise

theorem portable_clientModule : Name.Portable options.clientModule :=
  portable.left.right.getD (by decide)

theorem portable_goPackageName : Name.Portable options.goPackageName :=
  portable.right.getD (by decide)

end Options

namespace FileContext.Portable

variable {context : FileContext} (portable : context.Portable)

include portable

theorem typesModule : Name.Portable context.typesModule :=
  Options.portable_typesImport portable.options
    (File.portable_name portable.file).declarationModule

theorem moduleOf {file : File} (filePortable : AllPortable file.texts) :
    Name.Portable (context.moduleOf file) := by
  unfold FileContext.moduleOf
  split
  · exact portable.typesModule
  · exact (File.portable_name filePortable).declarationModule

end FileContext.Portable

/-! ### Dialects -/

/-- The functions of a dialect make code with matching brackets of portable texts. -/
structure Dialect.Tidy (dialect : Dialect) : Prop where
  typeName {ref : String} (portable : Name.Portable ref) : Name.Portable (dialect.typeName ref)
  mapField {field : Field} (portable : AllPortable field.texts) : (dialect.mapField field).Tidy
  bindMethod {context : MethodContext} (portable : context.Portable) :
    (dialect.bindMethod context).Tidy
  renderService {context : ServiceContext} (portable : context.Portable) :
    WellBracketed (dialect.renderService context)
  renderFile {context : FileContext} (portable : context.Portable) :
    WellBracketed (dialect.renderFile context)

/-- A field that a dialect leaves out takes no text. -/
theorem FieldBinding.tidy_none : FieldBinding.none.Tidy where
  declaration := .of_brackets_eq_nil rfl
  accessor := .of_brackets_eq_nil rfl

namespace Dialect.Tidy

variable {dialect : Dialect} {registry : Registry} {options : Options} {file : File}
  {service : Service} (tidy : dialect.Tidy) (registryPortable : registry.Portable)
  (optionsPortable : AllPortable options.texts)

include tidy registryPortable optionsPortable

/-- What a dialect is given to bind a method. -/
theorem methodContext {method : Method} {request : Message}
    (filePortable : AllPortable file.texts) (servicePortable : AllPortable service.texts)
    (methodPortable : AllPortable method.texts)
    (found : registry.message? method.inputType = .ok request) :
    MethodContext.Portable
      { registry, file, service, method, request
        requestType := dialect.typeName method.inputType
        responseType := dialect.typeName method.outputType
        fields := dialect.bindFields request
        options } where
  registry := registryPortable
  file := filePortable
  service := servicePortable
  method := methodPortable
  requestType := tidy.typeName (Method.portable_inputType methodPortable)
  responseType := tidy.typeName (Method.portable_outputType methodPortable)
  fields := by
    intro fieldBinding member
    obtain ⟨field, fieldMember, rfl⟩ := List.mem_map.mp (List.mem_filter.mp member).1
    exact tidy.mapField
      (Message.portable_fields (registryPortable.of_message? found) field fieldMember)
  options := optionsPortable

/-- A bound method. -/
theorem bind {method : Method} {binding : Binding} (filePortable : AllPortable file.texts)
    (servicePortable : AllPortable service.texts) (methodPortable : AllPortable method.texts)
    (bound : dialect.bind registry options file service method = .ok binding) : binding.Tidy := by
  obtain ⟨request, found, -, rfl⟩ := Dialect.bind_eq_ok_iff.mp bound
  exact tidy.bindMethod (tidy.methodContext registryPortable optionsPortable filePortable
    servicePortable methodPortable found)

/-- A service of which all methods are bound. -/
theorem bindService {context : ServiceContext} (filePortable : AllPortable file.texts)
    (servicePortable : AllPortable service.texts)
    (bound : dialect.bindService registry options file service = .ok context) :
    context.Portable := by
  obtain ⟨bindings, all, rfl⟩ := Dialect.bindService_eq_ok_iff.mp bound
  refine ⟨filePortable, servicePortable, fun binding member => ?_⟩
  obtain ⟨method, visited, methodBound⟩ := exists_of_mem_results all member
  have declared := (Dialect.mem_orderedMethods_iff dialect).mp visited
  exact tidy.bind registryPortable optionsPortable filePortable servicePortable
    (Service.portable_methods servicePortable method declared) methodBound

/-- A file of which all services are bound. -/
theorem fileContext {services : List ServiceContext} (filePortable : AllPortable file.texts)
    (bound : dialect.BoundServices registry options file services) :
    (dialect.fileContext registry options file services).Portable := by
  have portable : ∀ context ∈ services, context.Portable := by
    intro context member
    obtain ⟨service, declared, serviceBound⟩ := exists_of_mem_results bound member
    exact tidy.bindService registryPortable optionsPortable filePortable
      (File.portable_services filePortable service declared) serviceBound
  refine
    { registry := registryPortable
      file := filePortable
      inputId := Options.portable_inputId optionsPortable (File.portable_name filePortable)
      types := fun type listed => ?_
      services := fun text member => ?_
      options := optionsPortable }
  · obtain ⟨context, contextMember, inContext⟩ :=
      List.mem_flatMap.mp (NameSet.mem_toList_ofList.mp listed)
    obtain ⟨binding, bindingMember, side⟩ := List.mem_flatMap.mp inContext
    have bindingTidy := (portable context contextMember).bindings binding bindingMember
    rcases List.mem_pair.mp side with rfl | rfl
    · exact bindingTidy.requestType
    · exact bindingTidy.responseType
  · obtain ⟨context, contextMember, rfl⟩ := List.mem_map.mp member
    exact tidy.renderService (portable context contextMember)

/-- Whatever is generated has matching brackets. -/
theorem generate {fileName : String} {output : GeneratedFile}
    (generated : RpcBindings.generate registry fileName dialect options = .ok output) :
    WellBracketed output.content := by
  obtain ⟨file, services, known, -, bound, rfl⟩ := generate_eq_ok_iff.mp generated
  have filePortable := registryPortable file (mem_of_file?_eq_ok known).1
  exact tidy.renderFile (tidy.fileContext registryPortable optionsPortable filePortable bound)

end Dialect.Tidy

end RpcBindings
