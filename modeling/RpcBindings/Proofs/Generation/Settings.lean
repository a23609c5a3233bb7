/-
Module: RpcBindings.Proofs.Generation.Settings
Purpose: Which options have an effect on what is generated, and on which part of it.
Main exports: Options.Setting, Options.AgreeFor, Dialect.PrintsInput,
  Dialect.exists_printsInput_of_mem_builtin, generate_depends_on_known_settings
-/
import RpcBindings.Proofs.Generation.Outcome
import RpcBindings.Proofs.Layout.Rendering
import RpcBindings.Proofs.TypeImports.Collection

namespace RpcBindings

open Layout

/-!
All options are handed to every dialect, and each dialect looks at a few of them.  The identifier of
the input is apart from the others: all dialects print it, in one line near the top.
-/

/-! ### Settings -/

namespace Options

/-- The options other than the identifier of the input. -/
inductive Setting where
  | typesImport
  | clientImport
  | goPackage
  | asyncIterators
  | camelCaseNames
deriving Repr, DecidableEq

/-- The names of the dialects that know a setting. -/
def Setting.readers : Setting → List String
  | typesImport => ["ts-redux", "flow-redux", "ts-ipc", "ts-promise"]
  | clientImport => ["ts-redux", "flow-redux"]
  | goPackage => ["go-cli"]
  | asyncIterators | camelCaseNames => ["ts-types"]

/-- Two options say the same about a setting. -/
def Setting.Same (first second : Options) : Setting → Prop
  | typesImport => first.typesImport = second.typesImport
  | clientImport => first.clientImport = second.clientImport
  | goPackage => first.goPackage = second.goPackage
  | asyncIterators => first.asyncIterators = second.asyncIterators
  | camelCaseNames => first.camelCaseNames = second.camelCaseNames

/-- Two options say the same about every setting that a dialect knows. -/
def AgreeFor (dialect : Dialect) (first second : Options) : Prop :=
  ∀ setting : Setting, dialect.name ∈ setting.readers → setting.Same first second

end Options

/-! ### Dialects -/

/-- The line that tells the input of a generated file. -/
def inputLine (inputId : String) : String :=
  "// InputID: " ++ inputId ++ "\n"

/-- A dialect that prints the identifier of the input in one line, with `front` before it and the
rest behind it, and that looks at no settings but those that it knows. -/
structure Dialect.PrintsInput (dialect : Dialect) (front : String)
    (rest : FileContext → String) : Prop where
  renderFile : ∀ context, dialect.renderFile context =
    front ++ inputLine context.inputId ++ rest context
  rest : ∀ (context : FileContext) (inputId : String) (options : Options),
    Options.AgreeFor dialect context.options options →
      rest { context with inputId, options } = rest context
  bindMethod : ∀ (context : MethodContext) (options : Options),
    Options.AgreeFor dialect context.options options →
      dialect.bindMethod { context with options } = dialect.bindMethod context

/-- A text of which the first lines are known, up to that of the input. -/
theorem render_of_prefix {unit inputId : String} {front steps : List Step}
    (settled : levelAfter 0 front = 0)
    (headed : front ++ [.line ("// InputID: " ++ inputId)] <+: steps) :
    render unit steps =
      render unit front ++ inputLine inputId ++ render unit (steps.drop (front.length + 1)) := by
  have line : lineAt unit 0 ("// InputID: " ++ inputId) = inputLine inputId := by
    rw [lineAt_eq unit (by simp), indentation_zero, String.empty_append, inputLine]
  obtain ⟨rest, rfl⟩ := headed
  have dropped :
      (front ++ [Step.line ("// InputID: " ++ inputId)] ++ rest).drop (front.length + 1) = rest :=
    List.drop_left' (by simp)
  rw [dropped, List.append_assoc, render, renderAt_append, settled, List.cons_append, renderAt_cons,
    Step.text, line, String.append_assoc]
  rfl

theorem Commands.printsInput :
    Dialect.PrintsInput Commands.dialect
      (render "\t" [.line ("// Code initially generated by " ++ plugin)])
      fun context => render "\t" ((fileSteps context).drop 2) where
  renderFile context := by
    simp only [dialect]
    refine render_of_prefix rfl ?_
    simp only [fileSteps, List.append_assoc]
    exact List.prefix_append _ _
  rest context inputId options agree := by
    have package : context.options.goPackage = options.goPackage := agree .goPackage (by decide)
    simp only [fileSteps, Options.goPackageName, package]
    rfl
  bindMethod _ _ _ := rfl

/-- The line that tells the author of a script. -/
def Script.authorStep (plugin : String) : Step :=
  .line ("// Code generated by " ++ plugin ++ " DO NOT EDIT.")

namespace Store

theorem TypeScript.printsInput :
    Dialect.PrintsInput TypeScript.dialect
      (render Script.indentUnit [Script.authorStep plugin])
      fun context => render Script.indentUnit ((fileSteps context).drop 2) where
  renderFile context := by
    simp only [dialect]
    refine render_of_prefix rfl ?_
    simp only [fileSteps, List.append_assoc]
    exact List.prefix_append _ _
  rest context inputId options agree := by
    have types : context.options.typesImport = options.typesImport :=
      agree .typesImport (by decide)
    have client : context.options.clientImport = options.clientImport :=
      agree .clientImport (by decide)
    simp only [fileSteps, headingSteps, clientSteps, typesModule, Options.clientModule, types,
      client]
    rfl
  bindMethod _ _ _ := rfl

theorem Flow.printsInput :
    Dialect.PrintsInput Flow.dialect
      (render Script.indentUnit
        [.line "// @flow", .line "/* eslint-disable */", Script.authorStep plugin])
      fun context => render Script.indentUnit ((fileSteps context).drop 4) where
  renderFile context := by
    simp only [dialect]
    refine render_of_prefix rfl ?_
    simp only [fileSteps, List.append_assoc]
    exact List.prefix_append _ _
  rest context inputId options agree := by
    have types : context.options.typesImport = options.typesImport :=
      agree .typesImport (by decide)
    have client : context.options.clientImport = options.clientImport :=
      agree .clientImport (by decide)
    simp only [fileSteps, headingSteps, clientSteps, typesModule, Options.clientModule, types,
      client]
    rfl
  bindMethod _ _ _ := rfl

end Store

theorem Bridge.printsInput :
    Dialect.PrintsInput Bridge.dialect (render Script.indentUnit [Script.authorStep plugin])
      fun context => render Script.indentUnit ((fileSteps context).drop 2) where
  renderFile context := by
    simp only [dialect]
    refine render_of_prefix rfl ?_
    simp only [fileSteps, List.append_assoc]
    exact List.prefix_append _ _
  rest context inputId options agree := by
    have types : context.options.typesImport = options.typesImport :=
      agree .typesImport (by decide)
    simp only [fileSteps, FileContext.typesModule, types]
    rfl
  bindMethod _ _ _ := rfl

theorem Promises.printsInput :
    Dialect.PrintsInput Promises.dialect (render Script.indentUnit [Script.authorStep plugin])
      fun context => render Script.indentUnit ((fileSteps context).drop 2) where
  renderFile context := by
    simp only [dialect]
    refine render_of_prefix rfl ?_
    simp only [fileSteps, List.append_assoc]
    exact List.prefix_append _ _
  rest context inputId options agree := by
    have types : context.options.typesImport = options.typesImport :=
      agree .typesImport (by decide)
    have moduleOf : FileContext.moduleOf { context with inputId, options } = context.moduleOf := by
      funext file
      simp only [FileContext.moduleOf, FileContext.typesModule, types]
    simp only [fileSteps, headingSteps, typeImports, moduleOf]
    rfl
  bindMethod _ _ _ := rfl

namespace Declarations

/-- The modules of types of other files do not depend on the options, so that the setting for the
types of the input has no effect. -/
theorem typeImports_withOptions (context : FileContext) (inputId : String) (options : Options) :
    typeImports { context with inputId, options } = typeImports context := by
  unfold typeImports TypeImports.ofRefs
  congr 1
  funext imports ref
  cases context.registry.locate ref with
  | error error => rfl
  | ok location =>
      by_cases own : location.file.name = context.file.name
      · simp [own]
      · simp [own, FileContext.moduleOf]

theorem printsInput :
    Dialect.PrintsInput dialect (render Script.indentUnit [Script.authorStep plugin])
      fun context => render Script.indentUnit ((fileSteps context).drop 2) where
  renderFile context := by
    simp only [dialect]
    refine render_of_prefix rfl ?_
    simp only [fileSteps, List.append_assoc]
    exact List.prefix_append _ _
  rest context inputId options agree := by
    have camelCase : context.options.camelCaseNames = options.camelCaseNames :=
      agree .camelCaseNames (by decide)
    simp only [fileSteps, packageSteps, typeImports_withOptions, Scope.ofFile, camelCase]
    rfl
  bindMethod context options agree := by
    have camelCase : context.options.camelCaseNames = options.camelCaseNames :=
      agree .camelCaseNames (by decide)
    have iterators : context.options.asyncIterators = options.asyncIterators :=
      agree .asyncIterators (by decide)
    have scope : Scope.ofFile context.registry context.file options =
        Scope.ofFile context.registry context.file context.options := by
      rw [Scope.ofFile, Scope.ofFile, camelCase]
    have side : sideType options = sideType context.options := by
      funext streaming type
      rw [sideType, sideType, iterators]
    show Declarations.bindMethod _ = Declarations.bindMethod _
    rw [Declarations.bindMethod, Declarations.bindMethod, scope, side]

end Declarations

/-- All built-in dialects are of this kind. -/
theorem Dialect.exists_printsInput_of_mem_builtin {dialect : Dialect} (member : dialect ∈ builtin) :
    ∃ front rest, dialect.PrintsInput front rest := by
  simp only [builtin, List.mem_cons, List.not_mem_nil, or_false] at member
  rcases member with rfl | rfl | rfl | rfl | rfl | rfl
  · exact ⟨_, _, Commands.printsInput⟩
  · exact ⟨_, _, Store.TypeScript.printsInput⟩
  · exact ⟨_, _, Store.Flow.printsInput⟩
  · exact ⟨_, _, Bridge.printsInput⟩
  · exact ⟨_, _, Promises.printsInput⟩
  · exact ⟨_, _, Declarations.printsInput⟩

/-! ### Generation -/

section Generation

variable {dialect : Dialect} {front : String} {rest : FileContext → String}
  (prints : dialect.PrintsInput front rest) {registry : Registry} {fileName : String}

include prints

/-- Services are bound alike under options that agree on what the dialect knows. -/
theorem Dialect.PrintsInput.bindService_congr {first second : Options}
    (agree : Options.AgreeFor dialect first second) (file : File) (service : Service) :
    dialect.bindService registry first file service =
      dialect.bindService registry second file service := by
  have methods : (dialect.orderedMethods service).mapM (dialect.bind registry first file service) =
      (dialect.orderedMethods service).mapM (dialect.bind registry second file service) := by
    refine Traversal.mapM_congr fun method _ => ?_
    have bound (request : Message) := prints.bindMethod
      { registry, file, service, method, request
        requestType := dialect.typeName method.inputType
        responseType := dialect.typeName method.outputType
        fields := dialect.bindFields request
        options := first } second agree
    simp only [bind, bound]
  simp only [bindService, methods]

/-- What is written behind the identifier of the input is the same under options that agree on what
the dialect knows. -/
theorem Dialect.PrintsInput.rest_congr {first second : Options} {context other : FileContext}
    (made : ContextFor registry fileName dialect first context)
    (madeOther : ContextFor registry fileName dialect second other)
    (agree : Options.AgreeFor dialect first second) : rest context = rest other := by
  obtain ⟨services, bound, given⟩ := made.bound
  obtain ⟨otherServices, otherBound, otherGiven⟩ := madeOther.bound
  have sameFile : context.file = other.file :=
    Except.ok.inj (made.known.symm.trans madeOther.known)
  rw [← sameFile] at otherBound otherGiven
  have alike : context.file.services.mapM (dialect.bindService registry first context.file) =
      context.file.services.mapM (dialect.bindService registry second context.file) :=
    Traversal.mapM_congr fun service _ => prints.bindService_congr agree context.file service
  rw [Traversal.mapM_eq_ok_iff.mpr bound, Traversal.mapM_eq_ok_iff.mpr otherBound] at alike
  obtain rfl := Except.ok.inj alike
  have moved := prints.rest context other.inputId second (made.options_eq.symm ▸ agree)
  rw [← moved, given, otherGiven]
  rfl

variable (registry fileName) in
/-- A dialect of this kind succeeds or fails whatever the options are. -/
theorem Dialect.PrintsInput.generate_cases :
    (∃ error, ∀ options, generate registry fileName dialect options = .error error) ∨
      ∃ behind : Options → String,
        (∀ first second, Options.AgreeFor dialect first second → behind first = behind second) ∧
        ∀ options, generate registry fileName dialect options =
          .ok
            { name := dialect.outputName fileName
              content :=
                front ++ inputLine (options.inputId.getD fileName) ++ behind options } := by
  cases outcome : generate registry fileName dialect {} with
  | error error =>
      have failure := generate_eq_error_iff.mp outcome
      exact Or.inl ⟨error, fun options => generate_eq_error_iff.mpr failure⟩
  | ok output =>
      have succeeds (options : Options) : ∃ context,
          ContextFor registry fileName dialect options context ∧
            generate registry fileName dialect options =
              .ok
                { name := dialect.outputName fileName, content := dialect.renderFile context } := by
        cases generated : generate registry fileName dialect options with
        | error error =>
            have failure : generate registry fileName dialect {} = .error error :=
              generate_eq_error_iff.mpr (generate_eq_error_iff.mp generated)
            rw [outcome] at failure
            cases failure
        | ok output =>
            obtain ⟨context, made, rfl⟩ := exists_contextFor generated
            exact ⟨context, made, rfl⟩
      choose contexts made written using succeeds
      refine Or.inr ⟨fun options => rest (contexts options), ?_, ?_⟩
      · intro first second agree
        exact prints.rest_congr (made first) (made second) agree
      · intro options
        have inputId : (contexts options).inputId = options.inputId.getD fileName := by
          obtain ⟨services, -, given⟩ := (made options).bound
          rw [← (made options).file_name]
          conv_lhs => rw [given]
          rfl
        rw [written, prints.renderFile, inputId]

end Generation

/-- Whether a file is generated, the failure that is reported otherwise, and the name of the output
do not depend on the options.  The identifier of the input stands in one line, in front of which no
option has an effect; behind it only those have one that the dialect knows. -/
theorem generate_depends_on_known_settings (registry : Registry) (fileName : String) :
    ∀ dialect ∈ Dialect.builtin,
      (∃ error, ∀ options, generate registry fileName dialect options = .error error) ∨
      ∃ (front : String) (behind : Options → String),
        (∀ first second, Options.AgreeFor dialect first second → behind first = behind second) ∧
        ∀ options, generate registry fileName dialect options =
          .ok
            { name := dialect.outputName fileName
              content :=
                front ++ "// InputID: " ++ options.inputId.getD fileName ++ "\n" ++
                  behind options } := by
  intro dialect builtin
  obtain ⟨front, rest, prints⟩ := Dialect.exists_printsInput_of_mem_builtin builtin
  rcases prints.generate_cases registry fileName with
    failure | ⟨behind, agree, success⟩
  · exact Or.inl failure
  · refine Or.inr ⟨front, behind, agree, fun options => ?_⟩
    rw [success options, inputLine, ← String.append_assoc, ← String.append_assoc]

/-- A message with one field, whose name has two words. -/
def pointFile : File :=
  { name := "point.proto"
    messages := [{ name := "Point", fields := [{ name := "line_number", kind := .int32 }] }] }

/-- A declaration file has no use for the module of its own types, and the identifier of its input
is printed in one place. -/
theorem generate_depends_on_known_settings_pointFile :
    ∃ front behind, ∀ inputId typesImport,
      generate { files := [pointFile] } "point.proto" Declarations.dialect
          { inputId, typesImport } =
        .ok
          { name := "point.d.ts"
            content :=
              front ++ "// InputID: " ++ inputId.getD "point.proto" ++ "\n" ++ behind } := by
  let registry : Registry := { files := [pointFile] }
  rcases generate_depends_on_known_settings registry "point.proto" Declarations.dialect
    (by simp [Dialect.builtin]) with ⟨error, fails⟩ | ⟨front, behind, agree, success⟩
  · have generated : ∃ output,
        generate registry "point.proto" Declarations.dialect {} = .ok output := ⟨_, rfl⟩
    obtain ⟨output, generated⟩ := generated
    cases (fails {}).symm.trans generated
  · refine ⟨front, behind {}, fun inputId typesImport => ?_⟩
    have unknown : Options.AgreeFor Declarations.dialect { inputId, typesImport } {} := by
      intro setting known
      cases setting with
      | typesImport => exact absurd known (by decide)
      | clientImport => rfl
      | goPackage => rfl
      | asyncIterators => rfl
      | camelCaseNames => rfl
    have name : Declarations.dialect.outputName "point.proto" = "point.d.ts" := rfl
    rw [success, agree _ {} unknown, name]

end RpcBindings
