/-
Module: RpcBindings.Proofs.Script.ExportNames
Purpose: When the names under which methods are exported can be told apart over a whole file.
Main exports: Overlap, nodup_ledNames_iff, MethodExporting, MethodExporting.types_eq,
  nodup_exportsOf_iff
-/
import Mathlib.Data.List.Flatten
import Mathlib.Data.List.Forall2
import Mathlib.Data.List.Nodup
import RpcBindings.Proofs.Generation.Outcome
import RpcBindings.Proofs.Layout.Rendering

namespace RpcBindings.Script

open Layout

/-!
Where services share a file, the name of a method is exported behind a lead that stands for its
service.  Nothing marks where the lead ends.  So two methods of different services meet in one name
whenever the lead of one service goes on where the lead of the other ends, and the first method
makes up for the difference.
-/

/-- Names of methods, each behind the lead of its service. -/
def ledNames (lead : Service → String) (methodsOf : Service → List Method)
    (services : List Service) : List String :=
  services.flatMap fun service =>
    (methodsOf service).map fun method => lead service ++ method.name

/-- The lead of one service continues that of another one, and a method of the other service begins
with the continuation and goes on as a method of the one. -/
def Overlap (lead : Service → String) (methodsOf : Service → List Method)
    (services : List Service) : Prop :=
  ∃ first ∈ services, ∃ second ∈ services, first.name ≠ second.name ∧
    ∃ tail, lead second = lead first ++ tail ∧
      ∃ long ∈ methodsOf first, ∃ short ∈ methodsOf second, long.name = tail ++ short.name

/-- The lead of a service in exported names. -/
def exportLead (service : Service) : String :=
  Name.decapitalize service.name

/-- The methods of a service of which both sides send streams. -/
def streams (service : Service) : List Method :=
  service.methods.filter Method.isDuplex

/-! ### Names behind a lead -/

/-- Two texts that are put together alike from two parts each: the second part of one reaches over
the end of the other's first part. -/
theorem append_eq_append_iff {first second long short : String} :
    first ++ long = second ++ short ↔
      (∃ tail, second = first ++ tail ∧ long = tail ++ short) ∨
        ∃ tail, first = second ++ tail ∧ short = tail ++ long := by
  simp only [← String.toList_inj, String.toList_append]
  rw [List.append_eq_append_iff]
  constructor
  · intro split
    rcases split with ⟨tail, longer, rest⟩ | ⟨tail, longer, rest⟩
    · exact Or.inl ⟨String.ofList tail, by simpa using longer, by simpa using rest⟩
    · exact Or.inr ⟨String.ofList tail, by simpa using longer, by simpa using rest⟩
  · intro split
    rcases split with ⟨tail, longer, rest⟩ | ⟨tail, longer, rest⟩
    · exact Or.inl ⟨tail.toList, longer, rest⟩
    · exact Or.inr ⟨tail.toList, longer, rest⟩

/-- Names behind a lead are distinct exactly when no two services overlap.  Inside one service the
lead is always the same, so there distinct methods suffice. -/
theorem nodup_ledNames_iff {lead : Service → String} {methodsOf : Service → List Method}
    {services : List Service} (names : (services.map Service.name).Nodup)
    (methods : ∀ service ∈ services, ((methodsOf service).map Method.name).Nodup) :
    (ledNames lead methodsOf services).Nodup ↔ ¬ Overlap lead methodsOf services := by
  rw [ledNames, List.nodup_flatMap]
  constructor
  · intro distinct overlap
    obtain ⟨first, firstMember, second, secondMember, different, tail, continues, long, longMember,
      short, shortMember, rest⟩ := overlap
    have symmetric : Std.Symm (Function.onFun List.Disjoint fun service =>
        (methodsOf service).map fun method => lead service ++ method.name) :=
      ⟨fun _ _ disjoint => List.disjoint_symm disjoint⟩
    have apart := distinct.2.forall firstMember secondMember
      (fun same => different (congrArg Service.name same))
    refine apart (List.mem_map_of_mem longMember) (List.mem_map.mpr ⟨short, shortMember, ?_⟩)
    exact (append_eq_append_iff.mpr (Or.inl ⟨tail, continues, rest⟩)).symm
  · intro separate
    constructor
    · intro service member
      have sameLead : ((methodsOf service).map fun method => lead service ++ method.name) =
          ((methodsOf service).map Method.name).map (lead service ++ ·) := by
        rw [List.map_map]
        rfl
      rw [sameLead]
      refine (methods service member).map ?_
      intro one other equality
      simpa using equality
    · refine (List.pairwise_map.mp names).imp_of_mem ?_
      intro first second firstMember secondMember different
      refine List.disjoint_left.mpr ?_
      intro name inFirst inSecond
      obtain ⟨long, longMember, rfl⟩ := List.mem_map.mp inFirst
      obtain ⟨short, shortMember, same⟩ := List.mem_map.mp inSecond
      rcases append_eq_append_iff.mp same with ⟨tail, continues, rest⟩ | ⟨tail, continues, rest⟩
      · exact separate ⟨second, secondMember, first, firstMember, different.symm, tail, continues,
          short, shortMember, long, longMember, rest⟩
      · exact separate ⟨first, firstMember, second, secondMember, different, tail, continues,
          long, longMember, short, shortMember, rest⟩

/-! ### Dialects that export methods -/

/-- The dialects that export a value for each method. -/
inductive MethodExporting : Dialect → Prop where
  | typeScriptStore : MethodExporting Store.TypeScript.dialect
  | flowStore : MethodExporting Store.Flow.dialect
  | bridge : MethodExporting Bridge.dialect

/-- The names that are exported for the methods of some bound services. -/
def exportsOf (contexts : List ServiceContext) : List String :=
  contexts.flatMap fun context => context.bindings.map Binding.exported

/-- The types of the events of all streams of a file. -/
def eventNames (file : File) : List String :=
  file.services.flatMap fun service => (streams service).map (Bridge.eventName file service)

namespace MethodExporting

variable {dialect : Dialect} {registry : Registry} {options : Options} {file : File}

theorem exported_eq (exporting : MethodExporting dialect) (context : MethodContext) :
    (dialect.bindMethod context).exported =
      exportName context.file context.service context.method := by
  cases exporting with
  | typeScriptStore => rfl
  | flowStore => rfl
  | bridge => rfl

theorem orderedMethods_eq (exporting : MethodExporting dialect) (service : Service) :
    dialect.orderedMethods service = service.methods := by
  cases exporting with
  | typeScriptStore => rfl
  | flowStore => rfl
  | bridge => rfl

theorem typeName_eq (exporting : MethodExporting dialect) :
    dialect.typeName = Name.lastSegment := by
  cases exporting with
  | typeScriptStore => rfl
  | flowStore => rfl
  | bridge => rfl

theorem referencedTypes_eq (exporting : MethodExporting dialect) (context : MethodContext) :
    (dialect.bindMethod context).referencedTypes =
      [context.requestType, context.responseType] := by
  cases exporting with
  | typeScriptStore => rfl
  | flowStore => rfl
  | bridge => rfl

theorem exported_bindings_eq (exporting : MethodExporting dialect) {service : Service}
    {context : ServiceContext}
    (bound : dialect.bindService registry options file service = .ok context) :
    context.bindings.map Binding.exported = service.methods.map (exportName file service) := by
  obtain ⟨bindings, pairs, rfl⟩ := Dialect.bindService_eq_ok_iff.mp bound
  rw [exporting.orderedMethods_eq] at pairs
  have pointwise : List.Forall₂
      (fun method binding => exportName file service method = binding.exported)
      service.methods bindings := by
    refine pairs.imp ?_
    intro method binding methodBound
    obtain ⟨request, -, -, rfl⟩ := Dialect.bind_eq_ok_iff.mp methodBound
    rw [exporting.exported_eq]
  exact (Traversal.map_eq_map_of_forall₂ pointwise).symm

/-- Every method is exported once, services and methods as they are declared. -/
theorem exportsOf_eq (exporting : MethodExporting dialect) {contexts : List ServiceContext}
    (bound : dialect.BoundServices registry options file contexts) :
    exportsOf contexts =
      file.services.flatMap fun service => service.methods.map (exportName file service) := by
  have pointwise : List.Forall₂
      (fun (service : Service) (context : ServiceContext) =>
        service.methods.map (exportName file service) = context.bindings.map Binding.exported)
      file.services contexts :=
    bound.imp fun service context serviceBound => (exporting.exported_bindings_eq serviceBound).symm
  rw [exportsOf, List.flatMap_def, List.flatMap_def, Traversal.map_eq_map_of_forall₂ pointwise]

/-- The types of a file are the last segments of its methods' references, each taken once. -/
theorem types_eq (exporting : MethodExporting dialect) {fileName : String} {context : FileContext}
    (made : ContextFor registry fileName dialect options context) :
    context.types = NameSet.ofList (context.file.methodRefs.map Name.lastSegment) := by
  obtain ⟨contexts, bound, given⟩ := made.bound
  have methodTypes (method : Method) (binding : Binding) {service : Service}
      (methodBound : dialect.bind registry options context.file service method = .ok binding) :
      method.typeRefs.map Name.lastSegment = binding.referencedTypes := by
    obtain ⟨request, -, -, rfl⟩ := Dialect.bind_eq_ok_iff.mp methodBound
    rw [exporting.referencedTypes_eq, exporting.typeName_eq]
    rfl
  have serviceTypes (service : Service) (serviceContext : ServiceContext)
      (serviceBound : dialect.bindService registry options context.file service =
        .ok serviceContext) :
      (service.methods.flatMap fun method => method.typeRefs.map Name.lastSegment) =
        serviceContext.bindings.flatMap Binding.referencedTypes := by
    obtain ⟨bindings, pairs, rfl⟩ := Dialect.bindService_eq_ok_iff.mp serviceBound
    rw [exporting.orderedMethods_eq] at pairs
    rw [List.flatMap_def, List.flatMap_def]
    refine congrArg List.flatten (Traversal.map_eq_map_of_forall₂ ?_)
    exact pairs.imp fun method binding => methodTypes method binding
  have all : context.file.methodRefs.map Name.lastSegment =
      contexts.flatMap fun service => service.bindings.flatMap Binding.referencedTypes := by
    simp only [File.methodRefs, List.map_flatMap]
    rw [List.flatMap_def, List.flatMap_def]
    refine congrArg List.flatten (Traversal.map_eq_map_of_forall₂ ?_)
    exact bound.imp fun service serviceContext => serviceTypes service serviceContext
  rw [all, given]
  rfl

theorem mem_types_iff (exporting : MethodExporting dialect) {fileName : String}
    {context : FileContext} (made : ContextFor registry fileName dialect options context)
    {name : String} :
    name ∈ context.types.toList ↔
      ∃ ref ∈ context.file.methodRefs, name = Name.lastSegment ref := by
  rw [exporting.types_eq made, NameSet.mem_toList_ofList, List.mem_map]
  simp only [eq_comm]

theorem nodup_types (exporting : MethodExporting dialect) {fileName : String}
    {context : FileContext} (made : ContextFor registry fileName dialect options context) :
    context.types.toList.Nodup := by
  rw [exporting.types_eq made]
  exact NameSet.nodup_toList_ofList _

end MethodExporting

/-! ### Names over a whole file -/

theorem exportName_eq {file : File} (shared : 2 ≤ file.services.length) (service : Service) :
    exportName file service = fun method => exportLead service ++ method.name := by
  have several : file.isShared = true := decide_eq_true shared
  funext method
  simp [exportName, several, exportLead]

theorem eventName_eq {file : File} (shared : 2 ≤ file.services.length) (service : Service) :
    Bridge.eventName file service = fun method => service.name ++ method.name ++ "Event" := by
  have several : file.isShared = true := decide_eq_true shared
  funext method
  simp [Bridge.eventName, several]

/-- The type of a stream's events is declared where the code of the stream begins. -/
theorem fragment_declares_event {context : MethodContext}
    (duplex : context.method.isDuplex = true) :
    ∃ rest, (Bridge.dialect.bindMethod context).fragment =
      "export type " ++ Bridge.eventName context.file context.service context.method ++
        " = \x7b" ++ rest := by
  have written : (Bridge.dialect.bindMethod context).fragment =
      render indentUnit
        (Bridge.streamSteps context (exportName context.file context.service context.method)) := by
    simp [Bridge.dialect, Bridge.bindMethod, duplex]
  obtain ⟨steps, begins⟩ : ∃ steps,
      Bridge.streamSteps context (exportName context.file context.service context.method) =
        .line ("export type " ++ Bridge.eventName context.file context.service context.method ++
          " = \x7berr?: RPCErr, res?: " ++ context.responseType ++ ", done: boolean\x7d") ::
            steps := ⟨_, rfl⟩
  rw [written, begins, render, renderAt_cons, Step.text, lineAt_eq _ (by simp), indentation_zero]
  refine ⟨"err?: RPCErr, res?: " ++ context.responseType ++ ", done: boolean\x7d" ++ "\n" ++
    renderAt indentUnit 0 steps, ?_⟩
  simp [← String.toList_inj, Step.levelAfter]

/-- Over a file in which services share the output, and in which services and the methods of each
service are told apart by name: the exports of the methods are distinct exactly when no
decapitalised service name continues another one with the front of one of its methods, and the types
of events are distinct exactly when no service name continues another one with the front of one of
its streams.
Every stream declares the type of its events under that name. -/
theorem nodup_exportsOf_iff {dialect : Dialect} {registry : Registry} {options : Options}
    {file : File} {contexts : List ServiceContext}
    (exporting : MethodExporting dialect)
    (bound : dialect.BoundServices registry options file contexts)
    (shared : 2 ≤ file.services.length)
    (services : (file.services.map Service.name).Nodup)
    (methods : ∀ service ∈ file.services, (service.methods.map Method.name).Nodup) :
    ((exportsOf contexts).Nodup ↔ ¬ Overlap exportLead Service.methods file.services) ∧
      ((eventNames file).Nodup ↔ ¬ Overlap Service.name streams file.services) ∧
      ∀ context : MethodContext, context.method.isDuplex = true →
        ∃ rest, (Bridge.dialect.bindMethod context).fragment =
          "export type " ++ Bridge.eventName context.file context.service context.method ++
            " = \x7b" ++ rest := by
  refine ⟨?_, ?_, fun context duplex => fragment_declares_event duplex⟩
  · have exported : exportsOf contexts = ledNames exportLead Service.methods file.services := by
      rw [exporting.exportsOf_eq bound]
      simp only [ledNames, exportName_eq shared]
    rw [exported]
    exact nodup_ledNames_iff services methods
  · have events : eventNames file =
        (ledNames Service.name streams file.services).map (· ++ "Event") := by
      simp only [eventNames, ledNames, List.map_flatMap, List.map_map, eventName_eq shared]
      rfl
    have injective : Function.Injective fun name => name ++ "Event" := by
      intro one other equality
      simpa using equality
    rw [events, List.nodup_map_iff injective]
    refine nodup_ledNames_iff services ?_
    intro service member
    exact (methods service member).sublist (List.filter_sublist.map Method.name)

/-- Two services whose names differ in the case of one letter, with a method of one name. -/
def casedSample : File :=
  { name := "maps.proto", messages := [{ name := "Point" }]
    services :=
      [{ name := "Maps", methods := [Method.unary "Get" ".Point" ".Point"] },
       { name := "maps", methods := [Method.unary "Get" ".Point" ".Point"] }] }

/-- Two services of which the name of one continues that of the other, each with a stream. -/
def continuedSample : File :=
  { name := "maps.proto", messages := [{ name := "Point" }]
    services :=
      [{ name := "Map", methods := [Method.duplex "sGet" ".Point" ".Point"] },
       { name := "Maps", methods := [Method.duplex "Get" ".Point" ".Point"] }] }

/-- Where one service name continues another one, the exports and the types of events may
repeat. -/
theorem nodup_exportsOf_iff_continuedSample :
    ∃ contexts,
      Bridge.dialect.BoundServices (Registry.assembled [continuedSample]) {} continuedSample
        contexts ∧ ¬ (exportsOf contexts).Nodup ∧ ¬ (eventNames continuedSample).Nodup := by
  have bound : ∃ contexts, Bridge.dialect.BoundServices (Registry.assembled [continuedSample]) {}
      continuedSample contexts := ⟨_, .cons rfl (.cons rfl .nil)⟩
  obtain ⟨contexts, bound⟩ := bound
  have distinct :=
    nodup_exportsOf_iff .bridge bound (by decide) (by decide) (by decide)
  refine ⟨contexts, bound, ?_, ?_⟩
  · rw [distinct.1, not_not]
    exact ⟨_, List.mem_cons_self .., _, List.mem_cons_of_mem _ (List.mem_cons_self ..), by decide,
      "s", by decide, _, List.mem_cons_self .., _, List.mem_cons_self .., by decide⟩
  · rw [distinct.2.1, not_not]
    exact ⟨_, List.mem_cons_self .., _, List.mem_cons_of_mem _ (List.mem_cons_self ..), by decide,
      "s", by decide, Method.duplex "sGet" ".Point" ".Point", by decide,
      Method.duplex "Get" ".Point" ".Point", by decide, by decide⟩

/-- Distinct names of services and of the methods in each are not enough.  The case of a service's
first letters is lost in exports, so that services with a method of one name may export it under one
name; and types of events are told apart by nothing but where the service ends. -/
theorem names_of_distinct_methods_repeat :
    (¬ ∀ (dialect : Dialect) (registry : Registry) (options : Options) (file : File)
      (contexts : List ServiceContext), MethodExporting dialect →
      dialect.BoundServices registry options file contexts → 2 ≤ file.services.length →
      (file.services.map Service.name).Nodup →
      (∀ service ∈ file.services, (service.methods.map Method.name).Nodup) →
      (exportsOf contexts).Nodup) ∧
    ¬ ∀ file : File, 2 ≤ file.services.length → (file.services.map Service.name).Nodup →
      (∀ service ∈ file.services, (service.methods.map Method.name).Nodup) →
      (eventNames file).Nodup := by
  constructor
  · intro distinct
    have bound : ∃ contexts, Bridge.dialect.BoundServices (Registry.assembled [casedSample]) {}
        casedSample contexts := ⟨_, .cons rfl (.cons rfl .nil)⟩
    obtain ⟨contexts, bound⟩ := bound
    have exported : exportsOf contexts = ["mapsGet", "mapsGet"] := by
      rw [MethodExporting.bridge.exportsOf_eq bound]
      decide
    have apart := distinct _ _ _ _ contexts .bridge bound (by decide) (by decide) (by decide)
    rw [exported] at apart
    exact absurd apart (by decide)
  · intro distinct
    exact absurd (distinct continuedSample (by decide) (by decide) (by decide)) (by decide)

end RpcBindings.Script
