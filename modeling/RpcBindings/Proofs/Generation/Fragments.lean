/-
Module: RpcBindings.Proofs.Generation.Fragments
Purpose: The code of each method stands once in the output, and the methods stand in order.
Main exports: ServiceContext.withFragments, Dialect.TakesOver, Dialect.takesOver_of_mem_builtin,
  FragmentsPlaced, generate_places_methods
-/
import RpcBindings.Proofs.Commands.Flags
import RpcBindings.Proofs.Declarations.TopLevel
import RpcBindings.Proofs.Layout.Gaps
import RpcBindings.Proofs.Promises.Imports
import RpcBindings.Proofs.Script.TypeLists

namespace RpcBindings

open Layout

/-!
Code goes through three hands: a method is bound, the bindings of a service are put together, and
the services are put into a file.  Each dialect does the last two in its own way, but it looks at
the code in neither of them.
-/

/-! ### Other code -/

/-- Bindings with other code. -/
def withFragments (bindings : List Binding) (fragments : List String) : List Binding :=
  (bindings.zip fragments).map fun (binding, fragment) => { binding with fragment }

/-- What is known about a service, with other code for its methods. -/
def ServiceContext.withFragments (context : ServiceContext) (fragments : List String) :
    ServiceContext :=
  { context with bindings := RpcBindings.withFragments context.bindings fragments }

/-- The code of the methods of a service. -/
def ServiceContext.fragments (context : ServiceContext) : List String :=
  context.bindings.map Binding.fragment

section Bindings

variable {bindings : List Binding} {fragments : List String}

theorem fragments_withFragments (enough : fragments.length = bindings.length) :
    (withFragments bindings fragments).map Binding.fragment = fragments := by
  rw [withFragments, List.map_map]
  exact List.map_snd_zip (Nat.le_of_eq enough)

/-- Whatever does not look at the code is the same with other code. -/
theorem map_withFragments {α : Type} (view : Binding → α)
    (blind : ∀ binding fragment, view { binding with fragment } = view binding)
    (enough : fragments.length = bindings.length) :
    (withFragments bindings fragments).map view = bindings.map view := by
  have first : (view ∘ fun (binding, fragment) => { binding with fragment }) =
      view ∘ (Prod.fst : Binding × String → Binding) :=
    funext fun pair => blind pair.1 pair.2
  rw [withFragments, List.map_map, first, ← List.map_map,
    List.map_fst_zip (Nat.le_of_eq enough.symm)]

theorem flatMap_withFragments {α : Type} (view : Binding → List α)
    (blind : ∀ binding fragment, view { binding with fragment } = view binding)
    (enough : fragments.length = bindings.length) :
    (withFragments bindings fragments).flatMap view = bindings.flatMap view := by
  rw [List.flatMap_def, List.flatMap_def, map_withFragments view blind enough]

theorem withFragments_self (bindings : List Binding) :
    withFragments bindings (bindings.map Binding.fragment) = bindings := by
  rw [withFragments, ← List.map_prod_left_eq_zip, List.map_map]
  exact List.map_id' _

end Bindings

/-- A dialect takes the code of methods over into that of their service, and the code of services
over into the file. -/
structure Dialect.TakesOver (dialect : Dialect) : Prop where
  service : ∀ context : ServiceContext,
    Layout.TakesOver context.bindings.length fun fragments =>
      dialect.renderService (context.withFragments fragments)
  file : ∀ context : FileContext,
    Layout.TakesOver context.services.length fun services =>
      dialect.renderFile { context with services }

/-! ### Commands -/

theorem Commands.takesOver_dialect : Commands.dialect.TakesOver where
  service context := by
    refine (TakesOver.join _ "" "").congr fun fragments enough => ?_
    simp only [Commands.dialect, Commands.renderService, ServiceContext.withFragments,
      fragments_withFragments enough, String.empty_append, String.append_empty, List.map_id']
  file context := by
    let function := "func Commands(clientFn func() " ++ clientType context.file ++
      ") []cli.Command "
    let list := "return []cli.Command"
    refine ((((TakesOver.join _ "" "").around (lineAt "\t" 1 (list ++ "\x7b"))
      (lineAt "\t" 1 "\x7d")).around (lineAt "\t" 0 (function ++ "\x7b"))
      (lineAt "\t" 0 "\x7d")).around (render "\t" (headingSteps context)) "").congr
        fun services _ => ?_
    have splices : Balanced (services.map Step.splice) :=
      Balanced.map fun _ _ => balanced_singleton fun _ => rfl
    have parts : fileSteps { context with services } =
        headingSteps context ++ block function (block list (services.map .splice) "") "" := rfl
    simp only [Commands.dialect, render, parts, renderAt_append, levelAfter_headingSteps,
      renderAt_block _ (splices.block _ _), renderAt_block _ splices, renderAt_splices]
    simp

/-! ### Scripts -/

/-- Where the code of the services ends a script, an empty line stands between any two. -/
theorem Script.Frame.takesOver (frame : Script.Frame) (context : FileContext) (lists : String)
    (between : List Step) (balanced : Balanced between)
    (sameAbove : ∀ services, frame.above { context with services } = frame.above context)
    (ends : ∀ services, frame.below { context with services } =
      between ++ [.splice ("\n".intercalate services)]) :
    Layout.TakesOver context.services.length fun services =>
      frame.around { context with services } lists := by
  let front := render indentUnit (frame.above context) ++ lists ++ render indentUnit between
  refine ((TakesOver.intercalate _ "\n" []).around front "").congr fun services _ => ?_
  rw [Frame.around, sameAbove, ends, render_append_splice balanced, String.append_empty,
    ← String.append_assoc]
  rfl

theorem Script.Lists.takesOver_file {dialect : Dialect} {listing : Script.Listing}
    (lists : Script.Lists dialect listing) (context : FileContext) :
    Layout.TakesOver context.services.length fun services =>
      dialect.renderFile { context with services } := by
  have code := listing.frame.takesOver context (listing.imports context ++ listing.exports context)
  refine Layout.TakesOver.congr ?placed fun services _ => lists.renderFile_eq _
  cases lists with
  | typeScriptStore =>
      exact code Store.TypeScript.errorTypeSteps (fun _ => rfl) (fun _ => rfl) fun _ => rfl
  | flowStore =>
      exact code (Store.rpcErrorSteps ++ [.blank]) (fun _ => rfl) (fun _ => rfl) fun _ => rfl
  | bridge =>
      exact code ((Bridge.callSteps context).dropLast) (fun _ => rfl) (fun _ => rfl) fun _ => rfl

namespace Store

/-- The reducer looks at the names of bindings only. -/
theorem reducerCases_eq (service : Service) (bindings : List Binding) :
    reducerCases service bindings =
      (service.methods.zip (bindings.map Binding.exported)).flatMap fun (method, exported) =>
        [requestCase (actionName service method) exported,
         responseCase (actionName service method) exported] := by
  rw [List.zip_map_right, List.flatMap_map]
  rfl

/-- The state of a store and its reducer do not depend on the code of the thunks. -/
theorem exists_serviceSteps_withFragments (flavor : Flavor) (context : ServiceContext) :
    ∃ rest, ∀ fragments : List String, fragments.length = context.bindings.length →
      serviceSteps flavor (context.withFragments fragments) =
        thunksSteps (withFragments context.bindings fragments) ++ rest := by
  let exports := Exports.ofService context.file.isShared context.service
  refine ⟨thunkMapSteps exports context.bindings ++ [.blank] ++
    stateTypeSteps flavor exports context.bindings ++ [.blank] ++
    initialStateSteps exports context.bindings ++ [.blank] ++
    reducerSteps flavor exports (reducerCases context.service context.bindings),
    fun fragments enough => ?_⟩
  have names := map_withFragments Binding.exported (fun _ _ => rfl) enough
  have types := flatMap_withFragments (typeEntries flavor.optional) (fun _ _ => rfl) enough
  have values := flatMap_withFragments initialEntries (fun _ _ => rfl) enough
  simp only [serviceSteps, ServiceContext.withFragments, thunkMapSteps, stateTypeSteps,
    initialStateSteps, reducerCases_eq, names, types, values, exports, List.append_assoc]

/-- Each thunk has an empty line behind it. -/
theorem renderAt_thunksSteps (unit : String) (level : Nat) (bindings : List Binding) :
    renderAt unit level (thunksSteps bindings) =
      String.join ((bindings.map Binding.fragment).map (· ++ "\n")) := by
  rw [thunksSteps, renderAt_flatMap _ fun _ _ _ => rfl, List.map_map]
  simp [renderAt_cons, Step.text, Function.comp_def]

theorem takesOver_renderService (flavor : Flavor) (context : ServiceContext) :
    Layout.TakesOver context.bindings.length fun fragments =>
      renderService flavor (context.withFragments fragments) := by
  obtain ⟨rest, parts⟩ := exists_serviceSteps_withFragments flavor context
  refine ((TakesOver.join _ "" "\n").around "" (render Script.indentUnit rest)).congr
    fun fragments enough => ?_
  have thunks : Balanced (thunksSteps (withFragments context.bindings fragments)) :=
    Balanced.flatMap fun _ _ _ => rfl
  rw [renderService, render, parts fragments enough, renderAt_append_of_balanced _ thunks,
    renderAt_thunksSteps, fragments_withFragments enough]
  simp [render]

end Store

theorem Store.TypeScript.takesOver_dialect : Store.TypeScript.dialect.TakesOver where
  service context := takesOver_renderService flavor context
  file context := Script.Lists.typeScriptStore.takesOver_file context

theorem Store.Flow.takesOver_dialect : Store.Flow.dialect.TakesOver where
  service context := takesOver_renderService flavor context
  file context := Script.Lists.flowStore.takesOver_file context

theorem Bridge.takesOver_dialect : Bridge.dialect.TakesOver where
  service context := by
    refine (TakesOver.intercalate _ "\n" []).congr fun fragments enough => ?_
    rw [List.nil_append]
    exact congrArg ("\n".intercalate ·) (fragments_withFragments enough)
  file context := Script.Lists.bridge.takesOver_file context

/-! ### Promises -/

theorem Promises.takesOver_dialect : Promises.dialect.TakesOver where
  service context := by
    refine ((TakesOver.join _ "\n" "").around ("export class " ++ context.service.name ++
      "Service \x7b\n" ++ constructorText) "\x7d\n").congr fun fragments enough => ?_
    have code : ((withFragments context.bindings fragments).map fun binding =>
        "\n" ++ binding.fragment) = fragments.map fun fragment => "\n" ++ fragment ++ "" := by
      simp only [String.append_empty]
      exact (List.map_map ..).symm.trans (congrArg _ (fragments_withFragments enough))
    rw [renderService_eq, ← code]
    rfl
  file context :=
    (frame.takesOver context (typeImports context).text errorSteps (fun _ => rfl) (fun _ => rfl)
      fun _ => rfl).congr fun services _ => renderFile_eq { context with services }

/-! ### Declarations -/

namespace Declarations

/-- The types and the services of a file are parts of one list, of which the services are the
end. -/
theorem takesOver_packageSteps (context : FileContext) :
    Layout.TakesOver context.services.length fun services =>
      render Script.indentUnit (packageSteps { context with services }) := by
  let types := bodySteps (ofFile (Scope.ofFile context.registry context.file context.options))
  have texts (level : Nat) (services : List String) :
      renderAt Script.indentUnit level
          (spaced (types ++ services.map fun service => [.splice service])) =
        "\n".intercalate (types.map (renderAt Script.indentUnit level) ++ services) := by
    rw [renderAt_spaced (balanced_parts _ services)]
    simp [Function.comp_def, types]
  have listed (level : Nat) := TakesOver.intercalate context.services.length "\n"
    (types.map (renderAt Script.indentUnit level))
  cases path? : namespacePath? context.file.package with
  | none =>
      refine (listed 0).congr fun services _ => ?_
      simp only [packageSteps, path?, render]
      exact texts 0 services
  | some path =>
      let header := "export declare namespace " ++ path ++ " "
      refine ((listed 1).around (lineAt Script.indentUnit 0 (header ++ "\x7b"))
        (lineAt Script.indentUnit 0 "\x7d")).congr fun services _ => ?_
      have balanced : Balanced (spaced (types ++ services.map fun service => [.splice service])) :=
        balanced_spaced (balanced_parts _ services)
      simp only [packageSteps, path?, render]
      rw [← texts]
      exact renderAt_block _ balanced 0 header ""

theorem takesOver_dialect : dialect.TakesOver where
  service context := by
    let level := namespaceLevel context.file.package
    let header := "export interface " ++ context.service.name ++ "Service "
    refine ((TakesOver.join _ "" "").around (lineAt Script.indentUnit level (header ++ "\x7b"))
      (lineAt Script.indentUnit level "\x7d")).congr fun fragments enough => ?_
    have members : ((withFragments context.bindings fragments).map fun binding =>
        Step.splice binding.fragment) = fragments.map .splice :=
      (List.map_map ..).symm.trans (congrArg _ (fragments_withFragments enough))
    have balanced : Balanced (fragments.map Step.splice) :=
      Balanced.map fun _ _ => balanced_singleton fun _ => rfl
    have code : renderAt Script.indentUnit level (block header (fragments.map .splice) "") =
        lineAt Script.indentUnit level (header ++ "\x7b") ++ String.join fragments ++
          lineAt Script.indentUnit level "\x7d" := by
      rw [renderAt_block _ balanced, renderAt_splices]
      rfl
    simp only [dialect, renderService, ServiceContext.withFragments, members,
      String.empty_append, String.append_empty, List.map_id']
    exact code
  file context := by
    refine ((takesOver_packageSteps context).around (render Script.indentUnit
      (Script.headingSteps plugin context.inputId ++ [.blank]) ++ (typeImports context).text)
      "").congr fun services _ => ?_
    rw [renderFile_eq, String.append_empty]
    rfl

end Declarations

theorem Dialect.takesOver_of_mem_builtin {dialect : Dialect} (builtin : dialect ∈ Dialect.builtin) :
    dialect.TakesOver := by
  simp only [Dialect.builtin, List.mem_cons, List.not_mem_nil, or_false] at builtin
  rcases builtin with rfl | rfl | rfl | rfl | rfl | rfl
  · exact Commands.takesOver_dialect
  · exact Store.TypeScript.takesOver_dialect
  · exact Store.Flow.takesOver_dialect
  · exact Bridge.takesOver_dialect
  · exact Promises.takesOver_dialect
  · exact Declarations.takesOver_dialect

/-! ### Files -/

section

variable {dialect : Dialect} {registry : Registry} {options : Options} {file : File}
  {contexts : List ServiceContext}

/-- Each service is given as much code as it has methods. -/
def CodeFor (contexts : List ServiceContext) (code : List (List String)) : Prop :=
  List.Forall₂ (fun context fragments => fragments.length = context.bindings.length) contexts code

/-- The services of a file with other code. -/
def withCode (contexts : List ServiceContext) (code : List (List String)) : List ServiceContext :=
  List.zipWith ServiceContext.withFragments contexts code

theorem withCode_self (contexts : List ServiceContext) :
    withCode contexts (contexts.map ServiceContext.fragments) = contexts := by
  rw [withCode, List.zipWith_map_right, List.zipWith_self]
  have same (context : ServiceContext) : context.withFragments context.fragments = context := by
    rw [ServiceContext.withFragments, ServiceContext.fragments, withFragments_self]
  simp only [same, List.map_id']

/-- The types to which a file refers do not depend on the code. -/
theorem referencedTypes_withCode {code : List (List String)} (enough : CodeFor contexts code) :
    ((withCode contexts code).flatMap fun service =>
        service.bindings.flatMap Binding.referencedTypes) =
      contexts.flatMap fun service => service.bindings.flatMap Binding.referencedTypes := by
  induction enough with
  | nil => rfl
  | cons first _ inductionHypothesis =>
      have types := flatMap_withFragments Binding.referencedTypes (fun _ _ => rfl) first
      rw [withCode] at inductionHypothesis ⊢
      rw [List.zipWith_cons_cons, List.flatMap_cons, List.flatMap_cons, inductionHypothesis]
      exact congrArg (· ++ _) types

/-- A file is written by one template, whatever the code is, with a gap for each piece of it. -/
theorem Dialect.TakesOver.exists_template (takes : dialect.TakesOver) (registry : Registry)
    (options : Options) (file : File) (contexts : List ServiceContext) :
    ∃ template, ∀ code, CodeFor contexts code →
      gapCount template = code.flatten.length ∧
      dialect.renderFile (dialect.fileContext registry options file (withCode contexts code)) =
        fillGaps template code.flatten := by
  let written := dialect.fileContext registry options file contexts
  have one : written.services.length = contexts.length := List.length_map _
  obtain ⟨template, filled⟩ :=
    (one ▸ takes.file written).nested fun context _ => takes.service context
  refine ⟨template, fun code enough => ?_⟩
  obtain ⟨gaps, content⟩ := filled code enough
  refine ⟨gaps, ?_⟩
  rw [← content]
  have services : (withCode contexts code).map dialect.renderService =
      List.zipWith (fun context fragments =>
        dialect.renderService (context.withFragments fragments)) contexts code := by
    rw [withCode, List.map_zipWith]
  simp only [Dialect.fileContext, services, referencedTypes_withCode enough, written]

end

/-- The code of methods stands in a text: one piece for each method, in the order in which the
dialect takes the methods, and service by service as the services are declared.  It stands in the
gaps of one template, which has no other gaps and would be filled with any other code in the same
way, so that no piece is dropped, repeated or moved. -/
structure FragmentsPlaced (registry : Registry) (dialect : Dialect) (options : Options)
    (file : File) (contexts : List ServiceContext) (content : String) : Prop where
  bound : List.Forall₂
    (fun service context => List.Forall₂
      (fun method binding => dialect.bind registry options file service method = .ok binding)
      (dialect.orderedMethods service) context.bindings)
    file.services contexts
  placed : ∃ template,
    gapCount template = (file.services.flatMap Service.methods).length ∧
    content = fillGaps template (contexts.flatMap ServiceContext.fragments) ∧
    ∀ code, CodeFor contexts code →
      dialect.renderFile (dialect.fileContext registry options file (withCode contexts code)) =
        fillGaps template code.flatten

theorem fragmentsPlaced_of_boundServices {dialect : Dialect} (takes : dialect.TakesOver)
    {registry : Registry} {options : Options} {file : File} {contexts : List ServiceContext}
    (services : dialect.BoundServices registry options file contexts) :
    FragmentsPlaced registry dialect options file contexts
      (dialect.renderFile (dialect.fileContext registry options file contexts)) := by
  have bound : List.Forall₂
      (fun service context => List.Forall₂
        (fun method binding => dialect.bind registry options file service method = .ok binding)
        (dialect.orderedMethods service) context.bindings)
      file.services contexts := by
    refine services.imp fun service context serviceBound => ?_
    obtain ⟨bindings, pairs, rfl⟩ := Dialect.bindService_eq_ok_iff.mp serviceBound
    exact pairs
  have counts : file.services.map (fun service => service.methods.length) =
      contexts.map fun context => context.fragments.length := by
    refine Traversal.map_eq_map_of_forall₂ (bound.imp fun service context pairs => ?_)
    rw [ServiceContext.fragments, List.length_map, ← pairs.length_eq,
      (Dialect.visits_orderedMethods dialect service).perm.length_eq]
  obtain ⟨template, filled⟩ := takes.exists_template registry options file contexts
  have own : CodeFor contexts (contexts.map ServiceContext.fragments) :=
    List.forall₂_map_right_iff.mpr (List.forall₂_same.mpr fun context _ => List.length_map _)
  obtain ⟨gaps, content⟩ := filled _ own
  rw [withCode_self] at content
  refine ⟨bound, template, ?_, content, fun code enough => (filled code enough).2⟩
  rw [gaps, ← List.flatMap_def, List.length_flatMap, List.length_flatMap, counts]

/-- A dialect takes each method of a service once: in declared order, or sorted by the bytes of the
names, with methods of one name as they are declared.  Commands are the only built-in dialect that
sorts.  In its output there is one command for each method, in that order.  In the output of any
built-in dialect the code of each method stands once, and in the order of the methods. -/
theorem generate_places_methods :
    (∀ (dialect : Dialect) (service : Service),
      (dialect.orderedMethods service).Perm service.methods ∧
      (dialect.methodOrder = .declared → dialect.orderedMethods service = service.methods) ∧
      (dialect.methodOrder = .byName →
        Dialect.SortedByName service.methods (dialect.orderedMethods service))) ∧
    Commands.dialect.methodOrder = .byName ∧
    (∀ dialect ∈ Dialect.builtin, dialect.name ≠ "go-cli" → dialect.methodOrder = .declared) ∧
    ∀ (registry : Registry) (fileName : String) (options : Options) (output : GeneratedFile),
      (generate registry fileName Commands.dialect options = .ok output →
        ∃ context service commands,
          ContextFor registry fileName Commands.dialect options context ∧
          context.file.services = [service] ∧
          output.content = render "\t" (Commands.fileLayout context service commands) ∧
          List.Forall₂
            (fun method steps => ∃ request, registry.message? method.inputType = .ok request ∧
              (Commands.Command.ofRequest method request).WrittenAs method steps)
            (Commands.dialect.orderedMethods service) commands) ∧
      ∀ dialect ∈ Dialect.builtin, generate registry fileName dialect options = .ok output →
        ∃ file contexts, registry.file? fileName = .ok file ∧
          FragmentsPlaced registry dialect options file contexts output.content := by
  refine ⟨fun dialect service => ⟨?_, ?_, ?_⟩, rfl, ?_, ?_⟩
  · exact (Dialect.visits_orderedMethods dialect service).perm
  · intro declared
    have visits := Dialect.visits_orderedMethods dialect service
    rwa [declared] at visits
  · intro byName
    have visits := Dialect.visits_orderedMethods dialect service
    rwa [byName] at visits
  · intro dialect builtin other
    simp only [Dialect.builtin, List.mem_cons, List.not_mem_nil, or_false] at builtin
    rcases builtin with rfl | rfl | rfl | rfl | rfl | rfl
    · exact absurd rfl other
    all_goals rfl
  · intro registry fileName options output
    refine ⟨Commands.exists_layout, fun dialect builtin generated => ?_⟩
    obtain ⟨file, contexts, known, -, bound, rfl⟩ := generate_eq_ok_iff.mp generated
    exact ⟨file, contexts, known, fragmentsPlaced_of_boundServices
      (Dialect.takesOver_of_mem_builtin builtin) bound⟩

/-- Of two methods that are declared against the order of their names, commands take the second one
first, and a store the first one. -/
theorem generate_places_methods_accountFile :
    ∃ commands store steps context contexts,
      generate (Registry.assembled [Commands.accountFile]) "accounts.proto" Commands.dialect {} =
        .ok commands ∧
      generate (Registry.assembled [Commands.accountFile]) "accounts.proto" Store.Flow.dialect {} =
        .ok store ∧
      commands.content = render "\t" (Commands.fileLayout context Commands.accounts steps) ∧
      List.Forall₂
        (fun name steps => ∃ command method, command.name = name ∧
          Commands.Command.WrittenAs command method steps)
        ["get-user", "ping"] steps ∧
      Store.Flow.dialect.orderedMethods Commands.accounts = Commands.accounts.methods ∧
      FragmentsPlaced (Registry.assembled [Commands.accountFile]) Store.Flow.dialect {}
        Commands.accountFile contexts store.content := by
  let registry := Registry.assembled [Commands.accountFile]
  have known : registry.file? "accounts.proto" = .ok Commands.accountFile := rfl
  have flow : Store.Flow.dialect ∈ Dialect.builtin := by simp [Dialect.builtin]
  obtain ⟨ordered, byName, unsorted, places⟩ := generate_places_methods
  obtain ⟨commands, generated⟩ := Commands.exists_generated_accountFile
  have otherGenerated : ∃ store, generate registry "accounts.proto" Store.Flow.dialect {} =
      .ok store := ⟨_, rfl⟩
  obtain ⟨store, otherGenerated⟩ := otherGenerated
  obtain ⟨context, service, steps, made, one, content, written⟩ :=
    (places registry "accounts.proto" {} commands).1 generated
  have of : context.file = Commands.accountFile := Except.ok.inj (made.known.symm.trans known)
  obtain rfl : Commands.accounts = service := by simpa [of, Commands.accountFile] using one
  obtain ⟨file, contexts, found, placed⟩ :=
    (places registry "accounts.proto" {} store).2 Store.Flow.dialect flow otherGenerated
  obtain rfl := Except.ok.inj (found.symm.trans known)
  refine ⟨commands, store, steps, context, contexts, generated, otherGenerated, content, ?named,
    ?declared, placed⟩
  case named =>
    let ping := Method.unary "Ping" ".Empty" ".Empty"
    let getUser := Method.unary "GetUser" ".UserRequest" ".Empty"
    have sorted := (ordered Commands.dialect Commands.accounts).2.2 byName
    -- Two lists of the same methods that are both sorted are one list, as no two names are equal.
    have apart : ∀ first ∈ Commands.accounts.methods, ∀ second ∈ [getUser, ping],
        Dialect.nameBytes first.name ≤ Dialect.nameBytes second.name →
        Dialect.nameBytes second.name ≤ Dialect.nameBytes first.name → first = second := by
      decide
    have ascending : [getUser, ping].Pairwise fun first second =>
        Dialect.nameBytes first.name ≤ Dialect.nameBytes second.name := by decide
    have visited : Commands.dialect.orderedMethods Commands.accounts = [getUser, ping] :=
      List.Perm.eq_of_pairwise
        (fun first second member => apart first (sorted.perm.mem_iff.mp member) second)
        sorted.sorted ascending (sorted.perm.trans (List.Perm.swap getUser ping []))
    rw [visited] at written
    obtain ⟨first, _, ⟨request, -, writtenFirst⟩, others, rfl⟩ :=
      List.forall₂_cons_left_iff.mp written
    obtain ⟨second, _, ⟨other, -, writtenSecond⟩, none, rfl⟩ :=
      List.forall₂_cons_left_iff.mp others
    obtain rfl := List.forall₂_nil_left_iff.mp none
    have getUserName : Name.kebab "GetUser" = "get-user" := by decide
    have pingName : Name.kebab "Ping" = "ping" := by decide
    exact .cons ⟨_, _, getUserName, writtenFirst⟩ (.cons ⟨_, _, pingName, writtenSecond⟩ .nil)
  case declared =>
    exact (ordered Store.Flow.dialect Commands.accounts).2.1 (unsorted _ flow (by decide))

end RpcBindings
