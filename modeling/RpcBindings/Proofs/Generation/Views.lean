/-
Module: RpcBindings.Proofs.Generation.Views
Purpose: Generation from changed descriptions of the same files, when a dialect does not see the
  change.
Main exports: FileView, FileView.Faithful, Dialect.Follows, Dialect.Follows.generate_eq
-/
import RpcBindings.Proofs.Generation.Outcome

namespace RpcBindings

/-!
That a dialect does not see some detail is shown by changing the detail everywhere: in files, in
their services and in the methods of these.  If each method is bound as before and each file is
written as before, then a whole generation ends as before.  An error may report what was changed; it
changes along.
-/

/-- How descriptions are changed, and with them the errors that report about them. -/
structure FileView where
  file : File → File
  service : Service → Service
  method : Method → Method
  error : GenerateError → GenerateError := id

namespace FileView

/-- What stays as it is: names, the order of services and methods, and the errors that are not about
a method. -/
structure Faithful (view : FileView) : Prop where
  name : ∀ file : File, (view.file file).name = file.name
  services : ∀ file : File, (view.file file).services = file.services.map view.service
  methods : ∀ service : Service, (view.service service).methods = service.methods.map view.method
  serviceName : ∀ service : Service, (view.service service).name = service.name
  methodName : ∀ method : Method, (view.method method).name = method.name
  fileNotFound : ∀ cause, view.error (.fileNotFound cause) = .fileNotFound cause
  unsupportedInput : ∀ file dialect services,
    view.error (.unsupportedInput file dialect services) = .unsupportedInput file dialect services

def context (view : FileView) (context : ServiceContext) : ServiceContext :=
  { context with
    file := view.file context.file
    service := view.service context.service }

/-! ### What is made of names -/

namespace Faithful

variable {view : FileView} (faithful : view.Faithful)

include faithful

theorem isShared_eq (file : File) : (view.file file).isShared = file.isShared := by
  rw [File.isShared, File.isShared, faithful.services, List.length_map]

theorem exportName_eq (file : File) (service : Service) (method : Method) :
    Script.exportName (view.file file) (view.service service) (view.method method) =
      Script.exportName file service method := by
  simp only [Script.exportName, faithful.isShared_eq, faithful.serviceName, faithful.methodName]

theorem eventName_eq (file : File) (service : Service) (method : Method) :
    Bridge.eventName (view.file file) (view.service service) (view.method method) =
      Bridge.eventName file service method := by
  simp only [Bridge.eventName, faithful.isShared_eq, faithful.serviceName, faithful.methodName]

theorem callName_eq (method : Method) :
    Store.callName (view.method method) = Store.callName method := by
  simp only [Store.callName, faithful.methodName]

theorem actionName_eq (service : Service) (method : Method) :
    Store.actionName (view.service service) (view.method method) =
      Store.actionName service method := by
  simp only [Store.actionName, faithful.callName_eq, faithful.serviceName]

/-- A method and the binding in the same place stay together. -/
theorem reducerCases_eq (service : Service) (bindings : List Binding) :
    Store.reducerCases (view.service service) bindings =
      Store.reducerCases service bindings := by
  simp only [Store.reducerCases, faithful.methods, List.zip_map_left, List.flatMap_map,
    Prod.map_fst, Prod.map_snd, id, faithful.actionName_eq]

theorem renderService_eq (flavor : Store.Flavor) (context : ServiceContext) :
    Store.renderService flavor (view.context context) = Store.renderService flavor context := by
  simp only [Store.renderService, Store.serviceSteps, FileView.context, faithful.isShared_eq,
    faithful.reducerCases_eq, Store.Exports.ofService, faithful.serviceName]

theorem clientType_eq (file : File) :
    Commands.clientType (view.file file) = Commands.clientType file := by
  unfold Commands.clientType
  rw [faithful.services]
  cases file.services with
  | nil => rfl
  | cons service services => simp only [List.map_cons, faithful.serviceName]

end Faithful

end FileView

/-! ### Generation -/

/-- From the changed descriptions in another registry a dialect binds the same methods, and writes
the same files. -/
structure Dialect.Follows (dialect : Dialect) (options : Options) (view : FileView)
    (registry other : Registry) : Prop where
  file? : ∀ name, other.file? name = (registry.file? name).map view.file
  bind : ∀ file service method,
    dialect.bind other options (view.file file) (view.service service) (view.method method) =
      (dialect.bind registry options file service method).mapError view.error
  renderFile : ∀ file services,
    dialect.renderFile
        (dialect.fileContext other options (view.file file) (services.map view.context)) =
      dialect.renderFile (dialect.fileContext registry options file services)

namespace Dialect.Follows

variable {dialect : Dialect} {options : Options} {view : FileView} {registry other : Registry}
  (faithful : view.Faithful) (follows : dialect.Follows options view registry other)

include faithful follows

/-- The methods of a service are bound in the same order. -/
theorem bindService_eq (file : File) (service : Service) :
    dialect.bindService other options (view.file file) (view.service service) =
      ((dialect.bindService registry options file service).map view.context).mapError
        view.error := by
  have ordered : dialect.orderedMethods (view.service service) =
      (dialect.orderedMethods service).map view.method :=
    dialect.orderedMethods_map (faithful.methods service) faithful.methodName
  have bound : ((dialect.orderedMethods service).map view.method).mapM
      (dialect.bind other options (view.file file) (view.service service)) =
        ((dialect.orderedMethods service).mapM
          (dialect.bind registry options file service)).mapError view.error :=
    Traversal.mapM_map_eq_mapError fun method _ => follows.bind file service method
  unfold bindService
  rw [ordered, bound]
  cases (dialect.orderedMethods service).mapM (dialect.bind registry options file service) with
  | error error => rfl
  | ok bindings => rfl

/-- A generation from the changed descriptions has the same output, or the changed error. -/
theorem generate_eq (fileName : String) :
    generate other fileName dialect options =
      (generate registry fileName dialect options).mapError view.error := by
  unfold generate
  rw [follows.file?]
  cases registry.file? fileName with
  | error cause => exact congrArg Except.error (faithful.fileNotFound cause).symm
  | ok file =>
      have count : (view.file file).services.length = file.services.length := by
        rw [faithful.services, List.length_map]
      have services : (view.file file).services.mapM
          (dialect.bindService other options (view.file file)) =
            ((file.services.mapM (dialect.bindService registry options file)).map
              (List.map view.context)).mapError view.error := by
        rw [faithful.services]
        exact Traversal.mapM_map_eq_map_mapError fun service _ =>
          follows.bindService_eq faithful file service
      have accepts : dialect.acceptsCount (view.file file) = dialect.acceptsCount file := by
        simp only [acceptsCount, count]
      simp only [Except.map, Except.mapError, Bind.bind, Except.bind, accepts, services, count,
        faithful.name]
      by_cases accepted : dialect.acceptsCount file = true
      · simp only [if_pos accepted]
        cases file.services.mapM (dialect.bindService registry options file) with
        | error error => rfl
        | ok contexts =>
            simp only [follows.renderFile]
            rfl
      · simp only [if_neg accepted]
        exact congrArg Except.error (faithful.unsupportedInput _ _ _).symm

end Dialect.Follows

end RpcBindings
