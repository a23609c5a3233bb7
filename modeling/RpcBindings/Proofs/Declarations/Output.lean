/-
Module: RpcBindings.Proofs.Declarations.Output
Purpose: The parts of a declaration file: its imports, its declarations, and those of its services.
Main exports: Declarations.serviceDeclaration, Declarations.services_eq, Declarations.frame,
  Declarations.renderFile_eq
-/
import RpcBindings.Proofs.TypeImports.Binding
import RpcBindings.Target.Declarations.File

namespace RpcBindings.Declarations

open Layout TypeImports

/-! ### Services -/

/-- The member of a service's interface that a method becomes. -/
def methodLine (scope : Scope) (options : Options) (method : Method) : String :=
  method.name ++ ": (r: " ++
    sideType options method.clientStreaming (scope.spell method.inputType) ++ ") => " ++
    sideType options method.serverStreaming (scope.spell method.outputType) ++ ";"

/-- What becomes of a service: an interface with a member for each method. -/
def serviceDeclaration (scope : Scope) (options : Options) (service : Service) : Declaration :=
  .interface (service.name ++ "Service") (service.methods.map (methodLine scope options))

theorem renderAt_fragments {scope : Scope} {options : Options} {level : Nat}
    {methods : List Method} {bindings : List Binding}
    (written : List.Forall₂
      (fun method binding => binding.fragment =
        renderAt Script.indentUnit level [.line (methodLine scope options method)])
      methods bindings) :
    renderAt Script.indentUnit level (bindings.map fun binding => .splice binding.fragment) =
      renderAt Script.indentUnit level [.lines (methods.map (methodLine scope options))] := by
  induction written with
  | nil => rfl
  | cons first _ inductionHypothesis =>
      simp only [List.map_cons, renderAt_cons, renderAt_nil, Step.text, Step.levelAfter,
        String.join_cons, String.append_empty, first] at inductionHypothesis ⊢
      rw [inductionHypothesis]

theorem renderService_eq {registry : Registry} {options : Options} {file : File}
    {service : Service} {context : ServiceContext}
    (bound : dialect.bindService registry options file service = .ok context) :
    dialect.renderService context =
      renderAt Script.indentUnit (namespaceLevel file.package)
        (serviceDeclaration (Scope.ofFile registry file options) options service).steps := by
  obtain ⟨bindings, pairs, rfl⟩ := Dialect.bindService_eq_ok_iff.mp bound
  have written : List.Forall₂
      (fun method binding => binding.fragment =
        renderAt Script.indentUnit (namespaceLevel file.package + 1)
          [.line (methodLine (Scope.ofFile registry file options) options method)])
      service.methods bindings := by
    refine pairs.imp fun method binding methodBound => ?_
    obtain ⟨request, -, -, rfl⟩ := Dialect.bind_eq_ok_iff.mp methodBound
    rfl
  have splices : Balanced (bindings.map fun binding => .splice binding.fragment) :=
    Balanced.map fun _ _ => balanced_singleton fun _ => rfl
  have lines : Balanced
      [.lines (service.methods.map (methodLine (Scope.ofFile registry file options) options))] :=
    balanced_singleton fun _ => rfl
  simp only [dialect, renderService, serviceDeclaration, Declaration.steps]
  rw [renderAt_block _ splices, renderAt_block _ lines, renderAt_fragments written]
  simp [String.append_assoc]

/-- The services of a file become interfaces, in declared order. -/
theorem services_eq {registry : Registry} {options : Options} {file : File}
    {contexts : List ServiceContext}
    (bound : dialect.BoundServices registry options file contexts) :
    contexts.map dialect.renderService =
      file.services.map fun service =>
        renderAt Script.indentUnit (namespaceLevel file.package)
          (serviceDeclaration (Scope.ofFile registry file options) options service).steps := by
  refine (Traversal.map_eq_map_of_forall₂ ?_).symm
  exact bound.imp fun service context serviceBound => (renderService_eq serviceBound).symm

/-! ### Files -/

theorem bodySteps_eq (declarations : List Declaration) :
    bodySteps declarations = declarations.map Declaration.steps := by
  induction declarations with
  | nil => rfl
  | cons declaration declarations inductionHypothesis =>
      rw [bodySteps, inductionHypothesis, List.map_cons]

def frame : Script.Frame where
  above := fun context => Script.headingSteps plugin context.inputId ++ [.blank]
  below := packageSteps
  balanced := fun _ _ => rfl

/-- The output is a heading, the imports of types, and the declarations. -/
theorem renderFile_eq (context : FileContext) :
    dialect.renderFile context = frame.around context (typeImports context).text := by
  simp only [dialect]
  exact (frame.render_eq context (balanced_steps _)).trans
    (congrArg (frame.around context) (render_steps _))

end RpcBindings.Declarations
