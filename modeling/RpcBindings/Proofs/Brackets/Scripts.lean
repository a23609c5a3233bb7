/-
Module: RpcBindings.Proofs.Brackets.Scripts
Purpose: The brackets of bridges and of promise classes match, and those of imports do.
Main exports: Script.tidy_importSteps, Script.portable_exportName, TypeImports.portable_ofRefs,
  Bridge.tidy_dialect, Promises.tidy_dialect
-/
import RpcBindings.Proofs.Brackets.Dialects
import RpcBindings.Proofs.TypeImports.Modules
import RpcBindings.Target.Bridge
import RpcBindings.Target.Promises

namespace RpcBindings

open Layout
open Name (AllPortable)

/-!
A line that opens a callback opens several brackets at once, and the line that ends it closes
them in the other order.  Such lines do not match one by one; whole templates do, whatever names
stand in them.
-/

/-! ### What the JavaScript family shares -/

namespace Script

theorem brackets_indentUnit : Layout.brackets indentUnit = [] := by
  decide

theorem portable_exportName {file : File} {service : Service} {method : Method}
    (servicePortable : Name.Portable service.name) (methodPortable : Name.Portable method.name) :
    Name.Portable (exportName file service method) := by
  unfold exportName
  split
  · exact servicePortable.decapitalize.append methodPortable
  · exact methodPortable.decapitalize

theorem tidy_headingSteps {plugin inputId : String} (pluginPortable : Name.Portable plugin)
    (inputPortable : Name.Portable inputId) : Tidy (headingSteps plugin inputId) :=
  .cons (.line (pluginPortable.between (.literal rfl) (.literal rfl)))
    (.line (.append (.literal rfl) inputPortable.wellBracketed))

section Names

variable {names : List String} (portable : ∀ name ∈ names, Name.Portable name)

include portable

theorem tidy_nameListSteps {opening closing : String} (openingPortable : WellBracketed opening)
    (closingPortable : WellBracketed closing) : Tidy (nameListSteps opening names closing) := by
  have listed : Tidy [.lines (withCommas names)] :=
    .lines (.withCommas fun name member => (portable name member).wellBracketed)
  unfold nameListSteps
  split
  · exact .nil
  · exact .append (.block (openingPortable.append (.literal rfl)) listed closingPortable) .blank

theorem tidy_importSteps {keyword module : String} (keywordPortable : WellBracketed keyword)
    (modulePortable : Name.Portable module) : Tidy (importSteps keyword names module) := by
  exact tidy_nameListSteps portable keywordPortable
    (modulePortable.between (.literal rfl) (.literal rfl))

end Names

end Script

/-! ### Imports -/

namespace TypeImports

/-- All that imports are written with is portable. -/
structure Portable (imports : TypeImports) : Prop where
  namespaces : ∀ entry ∈ imports.namespaces, Name.Portable entry.1 ∧ Name.Portable entry.2
  named : ∀ entry ∈ imports.named,
    Name.Portable entry.1 ∧ ∀ name ∈ entry.2.toList, Name.Portable name

/-- Roots, modules and names are taken from portable references and files. -/
theorem portable_ofRefs {registry : Registry} {wanted : File → Bool} {moduleOf : File → String}
    {refs : List String} (portable : registry.Portable)
    (modules : ∀ file, AllPortable file.texts → Name.Portable (moduleOf file))
    (refsPortable : AllPortable refs) : (ofRefs registry wanted moduleOf refs).Portable := by
  have located : ∀ location ∈ locations registry wanted refs,
      AllPortable location.file.texts ∧ Name.Portable location.localName := by
    intro location member
    obtain ⟨ref, refMember, found, -⟩ := mem_locations_iff.mp member
    exact portable.of_locate (refsPortable ref refMember) found
  rw [ofRefs_eq]
  refine ⟨fun entry member => ?_, fun entry member => ?_⟩
  · obtain ⟨location, locationMember, rfl⟩ := exists_of_mem_roots member
    have filePortable := (located location locationMember).1
    exact ⟨(File.portable_package filePortable).firstSegment, modules location.file filePortable⟩
  · obtain ⟨location, locationMember, module⟩ := exists_of_mem_named_modules member
    refine ⟨module ▸ modules location.file (located location locationMember).1,
      fun name taken => ?_⟩
    obtain ⟨other, otherMember, -, rfl⟩ := exists_of_mem_taken member taken
    exact (located other otherMember).2.firstSegment

theorem tidy_steps {imports : TypeImports} (portable : imports.Portable) :
    Tidy imports.steps := by
  unfold steps
  refine .append (.append (.map fun entry member => ?_) ?_) (.flatMap fun entry member => ?_)
  · obtain ⟨root, module⟩ := portable.namespaces entry member
    exact .line (.append (.append (root.between (.literal rfl) (.literal rfl))
      module.wellBracketed) (.literal rfl))
  · split
    · exact .blank
    · exact .nil
  · obtain ⟨module, names⟩ := portable.named entry member
    exact Script.tidy_importSteps names (.literal rfl) module

end TypeImports

/-! ### Bridges -/

namespace Bridge

theorem portable_eventName {file : File} {service : Service} {method : Method}
    (servicePortable : Name.Portable service.name) (methodPortable : Name.Portable method.name) :
    Name.Portable (eventName file service method) := by
  have ending : Name.Portable "Event" := by decide
  unfold eventName
  split
  · exact (servicePortable.append methodPortable).append ending
  · exact (Name.Portable.append (by decide) methodPortable).append ending

section Method

variable {context : MethodContext} (portable : context.Portable) {exported : String}
  (exportedPortable : Name.Portable exported)

include portable exportedPortable

theorem tidy_unarySteps : Tidy (unarySteps context exported) := by
  -- Names have no brackets, so those of the template are the brackets of its fixed texts.
  simp only [Tidy, unarySteps, replyStep, sendStep, flatMap_brackets_block, List.flatMap_append,
    List.flatMap_cons, List.flatMap_nil, Step.brackets, brackets_append,
    exportedPortable.brackets_eq, portable.requestType.brackets_eq,
    portable.responseType.brackets_eq, portable.fullName.brackets_eq,
    (Service.portable_name portable.service).brackets_eq,
    (Method.portable_name portable.method).brackets_eq]
  repeat rw [brackets_ofList]
  decide

theorem tidy_streamSteps : Tidy (streamSteps context exported) := by
  have event : Name.Portable (eventName context.file context.service context.method) :=
    portable_eventName (Service.portable_name portable.service)
      (Method.portable_name portable.method)
  simp only [Tidy, streamSteps, replyStep, sendStep, stopListening, flatMap_brackets_block,
    List.flatMap_append, List.flatMap_cons, List.flatMap_nil, Step.brackets, brackets_append,
    exportedPortable.brackets_eq, event.brackets_eq,
    portable.requestType.brackets_eq, portable.responseType.brackets_eq,
    portable.fullName.brackets_eq, (Service.portable_name portable.service).brackets_eq,
    (Method.portable_name portable.method).brackets_eq]
  repeat rw [brackets_ofList]
  decide

end Method

theorem tidy_bindMethod {context : MethodContext} (portable : context.Portable) :
    (bindMethod context).Tidy where
  exported := Script.portable_exportName (Service.portable_name portable.service)
    (Method.portable_name portable.method)
  requestType := portable.requestType
  responseType := portable.responseType
  fragment := by
    have exported : Name.Portable
        (Script.exportName context.file context.service context.method) :=
      Script.portable_exportName (Service.portable_name portable.service)
        (Method.portable_name portable.method)
    refine wellBracketed_renderAt Script.brackets_indentUnit ?_ 0
    split
    · exact tidy_streamSteps portable exported
    · exact tidy_unarySteps portable exported

section File

variable {context : FileContext} (portable : context.Portable)

include portable

theorem tidy_headingSteps : Tidy (headingSteps context) :=
  .append (Script.tidy_headingSteps (by decide) portable.inputId)
    (.cons (.literal rfl) (.cons (.literal rfl) .blank))

theorem tidy_callSteps : Tidy (callSteps context) := by
  have services : Tidy [.splice ("\n".intercalate context.services)] :=
    .splice (.intercalate portable.services)
  exact .append (.block (.literal rfl) (.literal rfl) (.literal rfl))
    (.cons .blank (.cons (.literal rfl) (.cons (.literal rfl) (.cons (.literal rfl)
      (.cons .blank services)))))

theorem tidy_fileSteps : Tidy (fileSteps context) := by
  have types : Tidy (Script.importSteps "import" context.types.toList context.typesModule) :=
    Script.tidy_importSteps portable.types (.literal rfl) portable.typesModule
  exact ((tidy_headingSteps portable).append types).append (tidy_callSteps portable)

end File

theorem tidy_dialect : dialect.Tidy where
  typeName portable := portable.lastSegment
  mapField _ := FieldBinding.tidy_none
  bindMethod portable := tidy_bindMethod portable
  renderService portable := .intercalate fun text member => by
    obtain ⟨binding, bindingMember, rfl⟩ := List.mem_map.mp member
    exact (portable.bindings binding bindingMember).fragment
  renderFile portable := by
    simp only [dialect, render]
    exact wellBracketed_renderAt Script.brackets_indentUnit (tidy_fileSteps portable) 0

end Bridge

/-! ### Promises -/

namespace Promises

section Method

variable {context : MethodContext} (portable : context.Portable)

include portable

theorem tidy_streamSteps : Tidy (streamSteps context) := by
  simp only [Tidy, streamSteps, flatMap_brackets_block, List.flatMap_cons, List.flatMap_nil,
    Step.brackets, brackets_append, portable.requestType.brackets_eq,
    portable.responseType.brackets_eq, (Method.portable_name portable.method).brackets_eq]
  repeat rw [brackets_ofList]
  decide

theorem tidy_unarySteps : Tidy (unarySteps context) := by
  simp only [Tidy, unarySteps, flatMap_brackets_block, List.flatMap_append, List.flatMap_cons,
    List.flatMap_nil, Step.brackets, brackets_append, portable.requestType.brackets_eq,
    portable.responseType.brackets_eq, (Method.portable_name portable.method).brackets_eq]
  repeat rw [brackets_ofList]
  decide

theorem tidy_bindMethod : (bindMethod context).Tidy where
  exported := Method.portable_name portable.method
  requestType := portable.requestType
  responseType := portable.responseType
  fragment := by
    refine wellBracketed_renderAt Script.brackets_indentUnit ?_ 1
    split
    · exact tidy_streamSteps portable
    · exact tidy_unarySteps portable

end Method

theorem tidy_serviceSteps {context : ServiceContext} (portable : context.Portable) :
    Tidy (serviceSteps context) := by
  have header : WellBracketed ("export class " ++ context.service.name ++ "Service ") :=
    (Service.portable_name portable.service).between (.literal rfl) (.literal rfl)
  have members : Tidy ([.line "service: ServiceClient", .blank] ++
      block "constructor(service: ServiceClient) " [.line "this.service = service"] "") :=
    .append (.cons (.literal rfl) .blank) (.block (.literal rfl) (.literal rfl) (.literal rfl))
  have methods : Tidy (context.bindings.flatMap fun binding =>
      [.blank, .splice binding.fragment]) := by
    refine .flatMap fun binding member => ?_
    exact Tidy.blank.append (.splice (portable.bindings binding member).fragment)
  exact .block header (members.append methods) (.literal rfl)

section File

variable {context : FileContext} (portable : context.Portable)

include portable

theorem portable_typeImports : (typeImports context).Portable :=
  TypeImports.portable_ofRefs portable.registry (fun _ => portable.moduleOf)
    (File.portable_methodRefs portable.file)

theorem tidy_headingSteps : Tidy (headingSteps context) := by
  have gap : Tidy (if (typeImports context).hasNamespaces then [] else [.blank]) := by
    split
    · exact .nil
    · exact .blank
  exact .append (.append (Script.tidy_headingSteps (by decide) portable.inputId)
    (.cons .blank (.cons (.literal rfl) (.literal rfl)))) gap

omit portable in
theorem tidy_errorSteps : Tidy errorSteps :=
  .append (.block (.literal rfl)
    (.cons (.literal rfl) (.cons (.literal rfl) (.cons (.literal rfl) (.literal rfl))))
    (.literal rfl)) .blank

theorem tidy_fileSteps : Tidy (fileSteps context) := by
  have types : Tidy (typeImports context).steps :=
    TypeImports.tidy_steps (portable_typeImports portable)
  have services : Tidy [.splice ("\n".intercalate context.services)] :=
    .splice (.intercalate portable.services)
  exact (((tidy_headingSteps portable).append types).append tidy_errorSteps).append services

end File

theorem tidy_dialect : dialect.Tidy where
  typeName portable := portable.withoutLeadingDot
  mapField _ := FieldBinding.tidy_none
  bindMethod portable := tidy_bindMethod portable
  renderService portable := by
    simp only [dialect, render]
    exact wellBracketed_renderAt Script.brackets_indentUnit (tidy_serviceSteps portable) 0
  renderFile portable := by
    simp only [dialect, render]
    exact wellBracketed_renderAt Script.brackets_indentUnit (tidy_fileSteps portable) 0

end Promises

end RpcBindings
