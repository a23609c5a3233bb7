/-
Module: RpcBindings.Proofs.Indentation.Declarations
Purpose: Declaration files are indented by their braces, however deep messages lie in each other.
Main exports: Declarations.lineStart_memberOf, Declarations.carriesOver_braced,
  Declarations.aligned_dialect
-/
import RpcBindings.Proofs.Brackets.Declarations
import RpcBindings.Proofs.Indentation.Scripts

namespace RpcBindings.Declarations

open Layout
open Name (AllPortable)

/-!
Whether a package has a path below its root decides at which level everything in the file lies.
The interfaces of services are laid out before the file, and so they take the level from the package
too.
-/

variable {importing : Prop} {unit : String} {level : Nat}

/-! ### Members -/

/-- A brace that opens in front of the type of a member closes behind it. -/
theorem exists_opened_memberFrame (scope : Scope) (field : Field) :
    ∃ opened, LineStart 0 opened (scope.memberFrame field).1 ∧
      LinePart opened 0 (scope.memberFrame field).2 := by
  unfold Scope.memberFrame
  split
  · next key value map =>
    have keyType : Name.Portable (Scope.keyType key.kind) := by
      unfold Scope.keyType
      split <;> decide
    have back : LinePart 1 0 " \x7d;" := .literal (by decide)
    exact ⟨1, keyType.within 1 (.literal (by decide)) (.literal (by decide)), back⟩
  · refine ⟨0, ?_⟩
    cases field.label <;> exact ⟨.literal (by decide), .literal (by decide)⟩

theorem lineStart_memberOf {scope : Scope} (registry : scope.registry.Portable) {field : Field}
    (portable : AllPortable field.texts) : LineStart 0 0 (scope.memberOf field) := by
  have name : Name.Portable (scope.memberName field) := portable_memberName portable
  have type := portable_valueType registry (portable_heldField registry portable)
  obtain ⟨opened, front, back⟩ := exists_opened_memberFrame scope field
  rw [Scope.memberOf_eq, ← Scope.valueType_eq]
  exact type.within opened (name.lineStart front) back

/-- A member of an enum begins with its name, and an empty name would leave a blank there. -/
theorem lineStart_enumMember {name : String} (portable : Name.Portable name) (some : name ≠ "") :
    LineStart 0 0 (enumMember name) := by
  have first : LineStart 0 0 name := portable.level.resolve_left some
  exact portable.within 0 (first.append (.literal (by decide))) (.literal (by decide))

/-! ### Declared types -/

theorem braced_spaced {parts : List (List Step)}
    (each : ∀ part ∈ parts, Braced importing unit level part) :
    Braced importing unit level (spaced parts) := by
  fun_induction spaced parts with
  | case1 => exact .nil
  | case2 part => exact each part (List.mem_singleton_self _)
  | case3 part next rest inductionHypothesis =>
      obtain ⟨first, others⟩ := List.forall_mem_cons.mp each
      exact (first.append .blank).append (inductionHypothesis others)

theorem braced_bodySteps {declarations : List Declaration}
    (each : ∀ declaration ∈ declarations, Braced importing unit level declaration.steps) :
    ∀ part ∈ bodySteps declarations, Braced importing unit level part := by
  rw [bodySteps_eq]
  exact List.forall_mem_map.mpr each

theorem braced_ofEnum {enum : Enum} (portable : AllPortable enum.texts)
    (named : "" ∉ enum.texts) : Braced importing unit level (ofEnum enum).steps := by
  have header : LineStart 0 0 ("export enum " ++ enum.name ++ " ") :=
    portable.head.within 0 (.literal (by decide)) (.literal (by decide))
  refine .block header (.lines (List.forall_mem_map.mpr fun name member => .inr ?_)) .empty
  exact lineStart_enumMember (portable.tail name member)
    fun empty => named (List.mem_cons_of_mem _ (empty ▸ member))

/-- Declarations can go in at any level, so those of a message can be put into a namespace. -/
theorem carriesOver_braced {scope : Scope} (registry : scope.registry.Portable) :
    CarriesOver scope (fun message => AllPortable message.texts ∧ "" ∉ message.declaredNames)
      fun declaration => ∀ level, Braced importing unit level declaration.steps where
  nested fits inner member :=
    ⟨Message.portable_nested fits.1 inner member,
      fun empty => fits.2 (Message.declaredNames_subset member empty)⟩
  interface {message} fits level := by
    have header : LineStart 0 0 ("export interface " ++ message.name ++ " ") :=
      (Message.portable_name fits.1).within 0 (.literal (by decide)) (.literal (by decide))
    refine .block header (.lines (List.forall_mem_map.mpr fun field member => .inr ?_)) .empty
    exact lineStart_memberOf registry (Message.portable_fields fits.1 field member)
  enumeration fits enum member level :=
    braced_ofEnum (Message.portable_enums fits.1 enum member)
      fun empty => fits.2 (Message.texts_subset_declaredNames member empty)
  namespaced {message body} fits each level := by
    have header : LineStart 0 0 ("export namespace " ++ message.name ++ " ") :=
      (Message.portable_name fits.1).within 0 (.literal (by decide)) (.literal (by decide))
    have inner := braced_bodySteps fun declaration member => each declaration member (level + 1)
    exact .block header (braced_spaced inner) .empty

theorem braced_ofFile {scope : Scope} (registry : scope.registry.Portable)
    (portable : AllPortable scope.file.texts) (named : "" ∉ scope.file.declaredNames) :
    ∀ declaration ∈ ofFile scope, ∀ level, Braced importing unit level declaration.steps :=
  (carriesOver_braced registry).ofFile
    (fun enum member _ => braced_ofEnum (File.portable_enums portable enum member)
      fun empty => named (File.texts_subset_declaredNames member empty))
    fun message member => ⟨File.portable_messages portable message member,
      fun empty => named (File.declaredNames_subset member empty)⟩

/-! ### Services -/

theorem linePart_sideType {type : String} (portable : Name.Portable type) (options : Options)
    (streaming : Bool) : LinePart 0 0 (sideType options streaming type) := by
  unfold sideType
  split
  · exact .append (.append (.literal (by decide)) (portable.linePart 0)) (.literal (by decide))
  · exact portable.linePart 0

theorem follows_bindMethod {context : MethodContext} (portable : context.Portable) :
    FollowsBraces importing Script.indentUnit (namespaceLevel context.file.package + 1)
      (bindMethod context).fragment (namespaceLevel context.file.package + 1) := by
  have spell {ref : String} (refPortable : Name.Portable ref) : Name.Portable
      ((Scope.ofFile context.registry context.file context.options).spell ref) :=
    portable_spell portable.registry refPortable
  have request := linePart_sideType (spell (Method.portable_inputType portable.method))
    context.options context.method.clientStreaming
  have response := linePart_sideType (spell (Method.portable_outputType portable.method))
    context.options context.method.serverStreaming
  have name : LineStart 0 0 (context.method.name ++ ": (r: ") :=
    (Method.portable_name portable.method).lineStart (.literal (by decide))
  have arrow : LinePart 0 0 ") => " := .literal (by decide)
  have ending : LinePart 0 0 ";" := .literal (by decide)
  have member := (((name.append request).append arrow).append response).append ending
  exact (Braced.line member).follows

theorem follows_renderService {context : ServiceContext} (portable : context.Portable)
    (methods : ∀ binding ∈ context.bindings, FollowsBraces importing Script.indentUnit
      (namespaceLevel context.file.package + 1) binding.fragment
      (namespaceLevel context.file.package + 1)) :
    FollowsBraces importing Script.indentUnit (namespaceLevel context.file.package)
      (renderService context) (namespaceLevel context.file.package) := by
  have header : LineStart 0 0 ("export interface " ++ context.service.name ++ "Service ") :=
    (Service.portable_name portable.service).within 0 (.literal (by decide)) (.literal (by decide))
  exact (Braced.block header (.map fun binding member => .splice (methods binding member))
    .empty).follows

/-! ### Files -/

theorem braced_packageSteps {context : FileContext} (portable : context.Portable)
    (named : "" ∉ context.file.declaredNames)
    (services : ∀ service ∈ context.services, FollowsBraces importing unit
      (namespaceLevel context.file.package) service (namespaceLevel context.file.package)) :
    Braced importing unit 0 (packageSteps context) := by
  have body : Braced importing unit (namespaceLevel context.file.package) (spaced
      (bodySteps (ofFile (Scope.ofFile context.registry context.file context.options)) ++
        context.services.map fun service => [.splice service])) := by
    have declared : ∀ declaration ∈
        ofFile (Scope.ofFile context.registry context.file context.options),
        Braced importing unit (namespaceLevel context.file.package) declaration.steps :=
      fun declaration member =>
        braced_ofFile portable.registry portable.file named declaration member _
    refine braced_spaced (List.forall_mem_append.mpr ⟨braced_bodySteps declared, ?_⟩)
    exact List.forall_mem_map.mpr fun service member => .splice (services service member)
  unfold packageSteps
  -- A namespace stands around the declarations just if they were laid out one level deep.
  split
  · next path found =>
    have inner : namespaceLevel context.file.package = 0 + 1 := by simp [namespaceLevel, found]
    have below := (File.portable_package portable.file).namespacePath? found
    have header : LineStart 0 0 ("export declare namespace " ++ path ++ " ") :=
      below.within 0 (.literal (by decide)) (.literal (by decide))
    rw [inner] at body
    exact .block header body .empty
  · next found =>
    have top : namespaceLevel context.file.package = 0 := by simp [namespaceLevel, found]
    rw [top] at body
    exact body

theorem braced_fileSteps {context : FileContext} (portable : context.Portable)
    (named : "" ∉ context.file.declaredNames)
    (services : ∀ service ∈ context.services, FollowsBraces importing unit
      (namespaceLevel context.file.package) service (namespaceLevel context.file.package)) :
    Braced importing unit 0 (fileSteps context) := by
  have heading : Braced importing unit 0 (Script.headingSteps plugin context.inputId) :=
    Script.braced_headingSteps (by decide) portable.inputId
  have types : Braced importing unit 0 (typeImports context).steps :=
    TypeImports.braced_steps (portable_typeImports portable)
  exact ((heading.append .blank).append types).append
    (braced_packageSteps portable named services)

theorem aligned_dialect :
    dialect.Aligned importing Script.indentUnit (fun file => namespaceLevel file.package + 1)
      (fun file => namespaceLevel file.package) where
  tidy := tidy_dialect
  mapField _ := FieldBinding.level_none
  bindMethod portable _ := follows_bindMethod portable
  renderService portable methods := follows_renderService portable methods
  renderFile portable named services := by
    simp only [dialect, render]
    exact (braced_fileSteps portable named services).follows

end RpcBindings.Declarations
