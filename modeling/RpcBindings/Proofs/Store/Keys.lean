/-
Module: RpcBindings.Proofs.Store.Keys
Purpose: When the keys of a store's state are distinct, and its methods leave each other's keys alone.
Main exports: Store.KeepsApart, Store.Unextended, Store.nodup_keys_iff,
  Store.Agrees.keepsApart_iff, Store.generate_keys_distinct_iff
-/
import Mathlib.Data.List.Nodup
import RpcBindings.Proofs.Store.Agreement

namespace RpcBindings.Store

open Layout

/-!
The three keys of a method are its exported name, and this name with one of two endings.  Distinct
names give distinct keys unless one name is another one with such an ending; then two methods share a
key of the state, and the reducer's case for one of them overwrites what the other one keeps there.
-/

/-- What a reducer puts into the state. -/
def stateValues : List String :=
  ["true", "false", "null", "action.payload"]

/-- A case of a reducer gives a key a new value. -/
def Changes (reading : String × List String) (key : String) : Prop :=
  ∃ value ∈ stateValues, assignment key value ∈ reading.2

/-- The two cases in the place of one method. -/
def casesAt (cases : List (String × List String)) (index : Nat) : List (String × List String) :=
  (cases.drop (2 * index)).take 2

/-- No case of a method changes a key of another method. -/
def KeepsApart (cases : List (String × List String)) (exports : List String) : Prop :=
  ∀ index other exported, index ≠ other → exports[other]? = some exported →
    ∀ reading ∈ casesAt cases index, ∀ key ∈ stateKeys exported, ¬ Changes reading key

/-- None of some names is another one of them with the ending of a key. -/
def Unextended (exports : List String) : Prop :=
  ∀ exported ∈ exports, loadingKey exported ∉ exports ∧ requestKey exported ∉ exports

instance (exports : List String) : Decidable (Unextended exports) :=
  inferInstanceAs (Decidable (∀ exported ∈ exports, _ ∧ _))

/-! ### Keys -/

theorem loadingKey_inj {exported other : String} :
    loadingKey exported = loadingKey other ↔ exported = other := by
  simp [loadingKey, ← String.toList_inj]

theorem requestKey_inj {exported other : String} :
    requestKey exported = requestKey other ↔ exported = other := by
  simp [requestKey, ← String.toList_inj]

/-- The two endings differ in their last letter. -/
theorem loadingKey_ne_requestKey (exported other : String) :
    loadingKey exported ≠ requestKey other := by
  intro same
  have last := congrArg (fun key => key.toList.getLast?) same
  simp [loadingKey, requestKey] at last

theorem ne_loadingKey (exported : String) : exported ≠ loadingKey exported := by
  simp [loadingKey, ← String.toList_inj]

theorem ne_requestKey (exported : String) : exported ≠ requestKey exported := by
  simp [requestKey, ← String.toList_inj]

theorem nodup_stateKeys (exported : String) : (stateKeys exported).Nodup := by
  simp [stateKeys, responseKey, loadingKey_ne_requestKey, (ne_loadingKey exported).symm,
    (ne_requestKey exported).symm]

/-- One name is another one with the ending of a key. -/
def Extends (longer exported : String) : Prop :=
  longer = loadingKey exported ∨ longer = requestKey exported

theorem mem_stateKeys_iff {key exported : String} :
    key ∈ stateKeys exported ↔ Extends key exported ∨ key = exported := by
  simp [stateKeys, responseKey, Extends, or_assoc]

/-- A name is the stem of one key only. -/
theorem Extends.stem_eq {key first second : String} (one : Extends key first)
    (two : Extends key second) : first = second := by
  rcases one with rfl | rfl <;> rcases two with same | same
  · exact loadingKey_inj.mp same
  · exact absurd same (loadingKey_ne_requestKey _ _)
  · exact absurd same.symm (loadingKey_ne_requestKey _ _)
  · exact requestKey_inj.mp same

/-- Two names share a key exactly if one of them extends the other one. -/
theorem disjoint_stateKeys_iff {first second : String} (differ : first ≠ second) :
    List.Disjoint (stateKeys first) (stateKeys second) ↔
      ¬ Extends first second ∧ ¬ Extends second first := by
  have own (exported : String) : exported ∈ stateKeys exported :=
    mem_stateKeys_iff.mpr (Or.inr rfl)
  rw [List.disjoint_left]
  constructor
  · intro disjoint
    refine ⟨fun extended => ?_, fun extended => ?_⟩
    · exact disjoint (own first) (mem_stateKeys_iff.mpr (Or.inl extended))
    · exact disjoint (mem_stateKeys_iff.mpr (Or.inl extended)) (own second)
  · intro apart key inFirst inSecond
    rcases mem_stateKeys_iff.mp inFirst with ofFirst | rfl
    · rcases mem_stateKeys_iff.mp inSecond with ofSecond | rfl
      · exact differ (ofFirst.stem_eq ofSecond)
      · exact apart.2 ofFirst
    · rcases mem_stateKeys_iff.mp inSecond with ofSecond | same
      · exact apart.1 ofSecond
      · exact differ same

/-- Of distinct names, no two share a key exactly if none extends another one. -/
theorem pairwise_disjoint_iff {exports : List String} (distinct : exports.Nodup) :
    exports.Pairwise (fun first second => List.Disjoint (stateKeys first) (stateKeys second)) ↔
      Unextended exports := by
  constructor
  · intro pairwise exported member
    have symmetric : Std.Symm fun first second : String =>
        List.Disjoint (stateKeys first) (stateKeys second) := ⟨fun _ _ => List.disjoint_symm⟩
    have apart (longer : String) (extended : Extends longer exported)
        (differ : exported ≠ longer) : longer ∉ exports := by
      intro listed
      have disjoint := pairwise.forall member listed differ
      exact ((disjoint_stateKeys_iff differ).mp disjoint).2 extended
    exact ⟨apart _ (Or.inl rfl) (ne_loadingKey _), apart _ (Or.inr rfl) (ne_requestKey _)⟩
  · intro unextended
    refine distinct.pairwise_of_forall_ne fun first firstMember second secondMember differ => ?_
    have apart {longer exported : String} (listed : longer ∈ exports) (member : exported ∈ exports) :
        ¬ Extends longer exported := by
      intro extended
      rcases extended with rfl | rfl
      · exact (unextended exported member).1 listed
      · exact (unextended exported member).2 listed
    exact (disjoint_stateKeys_iff differ).mpr
      ⟨apart firstMember secondMember, apart secondMember firstMember⟩

/-- The keys of distinct names are distinct exactly if no name is another one with the ending of a
key. -/
theorem nodup_keys_iff {exports : List String} (distinct : exports.Nodup) :
    (exports.flatMap stateKeys).Nodup ↔ Unextended exports := by
  rw [List.nodup_flatMap, ← pairwise_disjoint_iff distinct]
  exact and_iff_right fun exported _ => nodup_stateKeys exported

/-! ### Cases -/

/-- The end of a line tells which value it gives: the values differ in their last two letters. -/
theorem stateValues_end {value other : String} (one : value ∈ stateValues)
    (two : other ∈ stateValues)
    (same : value.toList.reverse.take 2 = other.toList.reverse.take 2) : value = other := by
  revert other
  revert value
  decide

/-- A line gives a value to one key only. -/
theorem assignment_inj {key otherKey value other : String} (one : value ∈ stateValues)
    (two : other ∈ stateValues) (same : assignment key value = assignment otherKey other) :
    key = otherKey := by
  have long : ∀ value ∈ stateValues, 2 ≤ value.toList.reverse.length := by decide
  have reversed : value.toList.reverse ++ (key ++ ": ").toList.reverse =
      other.toList.reverse ++ (otherKey ++ ": ").toList.reverse := by
    have all := congrArg (fun line => line.toList.reverse) same
    simpa [assignment] using all
  have ends := congrArg (List.take 2) reversed
  rw [List.take_append_of_le_length (long value one),
    List.take_append_of_le_length (long other two)] at ends
  obtain rfl := stateValues_end one two ends
  simpa [assignment, ← String.toList_inj] using same

/-- Together the two cases of a method change its keys, and no other ones. -/
theorem AgreesOn.changes_iff {file : File} {service : Service} {layout thunk : List Step}
    {request response : String × List String} {method : Method}
    (agrees : AgreesOn file service layout thunk request response method) {key : String} :
    (∃ reading ∈ [request, response], Changes reading key) ↔
      key ∈ stateKeys (Script.exportName file service method) := by
  let exported := Script.exportName file service method
  -- The line that takes the old state over gives no value.
  have spread (value : String) : assignment key value ≠ "...state," := by
    intro same
    have colon : ':' ∈ (assignment key value).toList := by simp [assignment]
    rw [same] at colon
    revert colon
    decide
  have given {value other changed : String} (one : value ∈ stateValues) (two : other ∈ stateValues)
      (listed : changed ∈ stateKeys exported)
      (same : assignment key value = assignment changed other) : key ∈ stateKeys exported :=
    assignment_inj one two same ▸ listed
  have loading : exported ++ "Loading" ∈ stateKeys exported := List.mem_cons_self
  have sent : exported ++ "Request" ∈ stateKeys exported :=
    List.mem_cons_of_mem _ List.mem_cons_self
  have answered : exported ∈ stateKeys exported := mem_stateKeys_iff.mpr (Or.inr rfl)
  constructor
  · intro changed
    obtain ⟨reading, member, value, known, line⟩ := changed
    rcases List.mem_pair.mp member with rfl | rfl
    · rw [agrees.requestLines] at line
      simp only [List.mem_cons, List.not_mem_nil, or_false, spread, false_or] at line
      rcases line with same | same
      · exact given known (by decide) loading same
      · exact given known (by decide) sent same
    · rw [agrees.responseLines] at line
      simp only [List.mem_cons, List.not_mem_nil, or_false, spread, false_or] at line
      rcases line with same | same | same
      · exact given known (by decide) loading same
      · exact given known (by decide) sent same
      · exact given known (by decide) answered same
  · intro listed
    refine ⟨response, List.mem_pair.mpr (Or.inr rfl), ?_⟩
    simp only [Changes, agrees.responseLines]
    simp only [stateKeys, List.mem_cons, List.not_mem_nil, or_false] at listed
    rcases listed with rfl | rfl | rfl
    · exact ⟨"false", by decide, by simp [loadingKey]⟩
    · exact ⟨"null", by decide, by simp [requestKey]⟩
    · exact ⟨"action.payload", by decide, by simp [responseKey]⟩

theorem casesAt_eq {cases : List (String × List String)} {index : Nat}
    {request response : String × List String} (first : cases[2 * index]? = some request)
    (second : cases[2 * index + 1]? = some response) :
    casesAt cases index = [request, response] := by
  obtain ⟨inside, rfl⟩ := List.getElem?_eq_some_iff.mp first
  obtain ⟨insideNext, rfl⟩ := List.getElem?_eq_some_iff.mp second
  rw [casesAt, List.drop_eq_getElem_cons inside, List.drop_eq_getElem_cons insideNext]
  rfl

/-! ### Services -/

section

variable {write : Thunk → List Step} {file : File} {service : Service} {layout : List Step}

/-- The cases in the place of a method change its keys, and no other ones. -/
theorem Agrees.changes_casesAt_iff (agrees : Agrees write file service layout) {index : Nat}
    {exported key : String}
    (found : (service.methods.map (Script.exportName file service))[index]? = some exported) :
    (∃ reading ∈ casesAt (readCases layout) index, Changes reading key) ↔
      key ∈ stateKeys exported := by
  rw [List.getElem?_map, Option.map_eq_some_iff] at found
  obtain ⟨method, inPlace, rfl⟩ := found
  obtain ⟨request, response, first, second, agreesOn⟩ := agrees.methods index method inPlace
  rw [casesAt_eq first second]
  exact agreesOn.changes_iff

/-- Methods leave the keys of each other alone exactly if no two of them share a key. -/
theorem Agrees.keepsApart_iff_pairwise (agrees : Agrees write file service layout) :
    KeepsApart (readCases layout) (service.methods.map (Script.exportName file service)) ↔
      (service.methods.map (Script.exportName file service)).Pairwise fun first second =>
        List.Disjoint (stateKeys first) (stateKeys second) := by
  let exports := service.methods.map (Script.exportName file service)
  constructor
  · intro apart
    refine List.pairwise_iff_getElem.mpr fun index other inside otherInside before => ?_
    rw [List.disjoint_left]
    intro key ofFirst ofSecond
    obtain ⟨reading, member, changes⟩ :=
      (agrees.changes_casesAt_iff (List.getElem?_eq_getElem inside)).mpr ofFirst
    exact apart index other _ (Nat.ne_of_lt before) (List.getElem?_eq_getElem otherInside) reading
      member key ofSecond changes
  · intro pairwise index other exported differ found reading member key ofOther changes
    have inside : index < exports.length := by
      by_contra outside
      have none : casesAt (readCases layout) index = [] := by
        rw [casesAt, List.drop_eq_nil_of_le, List.take_nil]
        rw [agrees.caseCount]
        simp [exports] at outside
        omega
      rw [none] at member
      cases member
    have ofThis : key ∈ stateKeys exports[index] :=
      (agrees.changes_casesAt_iff (List.getElem?_eq_getElem inside)).mp ⟨reading, member, changes⟩
    obtain ⟨otherInside, rfl⟩ := List.getElem?_eq_some_iff.mp found
    have places := List.pairwise_iff_getElem.mp pairwise
    rcases Nat.lt_or_gt_of_ne differ with before | behind
    · exact places index other inside otherInside before ofThis ofOther
    · exact places other index otherInside inside behind ofOther ofThis

/-- A method's cases leave the keys of other methods alone exactly if no name is another one with
the ending of a key. -/
theorem Agrees.keepsApart_iff (agrees : Agrees write file service layout)
    (distinct : (service.methods.map (Script.exportName file service)).Nodup) :
    KeepsApart (readCases layout) (service.methods.map (Script.exportName file service)) ↔
      Unextended (service.methods.map (Script.exportName file service)) :=
  agrees.keepsApart_iff_pairwise.trans (pairwise_disjoint_iff distinct)

end

/-- The keys of the state of a service, and when those of different methods stay apart. -/
structure KeysFollow (file : File) (service : Service) (layout : List Step)
    (exports : List String) : Prop where
  exports_eq : exports = service.methods.map (Script.exportName file service)
  listed : ListsKeys layout
    ("export type " ++ (Exports.ofService file.isShared service).stateType ++ " = ")
    (exports.flatMap stateKeys)
  initialised : ListsKeys layout
    ("const " ++ (Exports.ofService file.isShared service).initialState ++ ": " ++
      (Exports.ofService file.isShared service).stateType ++ " = ")
    (exports.flatMap stateKeys)
  distinct_iff : exports.Nodup → ((exports.flatMap stateKeys).Nodup ↔ Unextended exports)
  apart_iff : exports.Nodup → (KeepsApart (readCases layout) exports ↔ Unextended exports)

theorem keysFollow_serviceSteps {dialect : Dialect} {flavor : Flavor} {write : Thunk → List Step}
    (store : StoreDialect dialect flavor write) {registry : Registry} {options : Options}
    {file : File} {service : Service} {context : ServiceContext}
    (bound : dialect.bindService registry options file service = .ok context) :
    KeysFollow file service (serviceSteps flavor context)
      (context.bindings.map Binding.exported) := by
  have agrees := agrees_serviceSteps store bound
  have bindings := store.bindings_eq bound
  have exports_eq : context.bindings.map Binding.exported =
      service.methods.map (Script.exportName file service) := by
    rw [bindings, List.map_map]
    rfl
  have listed := listsKeys_stateType flavor context
  have initialised := listsKeys_initialState flavor context
  rw [bindings] at listed initialised ⊢
  refine ⟨bindings ▸ exports_eq, listed, initialised, nodup_keys_iff, ?_⟩
  rw [← bindings, exports_eq]
  exact agrees.keepsApart_iff

/-- The type of a store's state and the initial state list three keys for each method: its exported
name with either ending, and the name itself.  Where the exported names of a service are distinct,
these keys are distinct exactly if no exported name is another one followed by `Loading` or
`Request`, and exactly then no case of the reducer changes a key of another method. -/
theorem generate_keys_distinct_iff {dialect : Dialect} {flavor : Flavor}
    {write : Thunk → List Step} {registry : Registry} {fileName : String} {options : Options}
    {output : GeneratedFile} (store : StoreDialect dialect flavor write)
    (generated : generate registry fileName dialect options = .ok output) :
    ∃ file contexts heading, registry.file? fileName = .ok file ∧
      output.content = heading ++ "\n".intercalate (contexts.map fun context =>
        render Script.indentUnit (serviceSteps flavor context)) ∧
      List.Forall₂ (fun service context =>
          KeysFollow file service (serviceSteps flavor context)
            (context.bindings.map Binding.exported))
        file.services contexts := by
  obtain ⟨file, contexts, heading, known, bound, content⟩ := store.exists_layouts generated
  refine ⟨file, contexts, heading, known, content, ?_⟩
  exact bound.imp fun service context serviceBound => keysFollow_serviceSteps store serviceBound

theorem generate_keys_distinct_iff_sharedSamples :
    ∃ output file contexts heading,
      generate (Registry.assembled sharedSamples) "maps.proto" TypeScript.dialect {} =
        .ok output ∧
      (Registry.assembled sharedSamples).file? "maps.proto" = .ok file ∧
      output.content = heading ++ "\n".intercalate (contexts.map fun context =>
        render Script.indentUnit (serviceSteps TypeScript.flavor context)) ∧
      List.Forall₂ (fun (_ : Service) context =>
          ((context.bindings.map Binding.exported).flatMap stateKeys).Nodup ∧
          KeepsApart (readCases (serviceSteps TypeScript.flavor context))
            (context.bindings.map Binding.exported))
        file.services contexts := by
  have generated : ∃ output,
      generate (Registry.assembled sharedSamples) "maps.proto" TypeScript.dialect {} =
        .ok output := ⟨_, rfl⟩
  obtain ⟨output, written⟩ := generated
  obtain ⟨file, contexts, heading, known, content, follow⟩ :=
    generate_keys_distinct_iff .typeScript written
  refine ⟨output, file, contexts, heading, written, known, content, ?_⟩
  have member : file ∈ sharedSamples := (mem_of_file?_eq_ok known).1
  have apart : ∀ file ∈ sharedSamples, ∀ service ∈ file.services,
      (service.methods.map (Script.exportName file service)).Nodup ∧
      Unextended (service.methods.map (Script.exportName file service)) := by
    decide
  refine ((List.forall₂_and_left _ _).mpr ⟨apart file member, follow⟩).imp
    fun service context read => ?_
  obtain ⟨⟨distinct, unextended⟩, keys⟩ := read
  rw [← keys.exports_eq] at distinct unextended
  exact ⟨(keys.distinct_iff distinct).mpr unextended, (keys.apart_iff distinct).mpr unextended⟩

/-- A service of which one method has the name of another one with the ending of a key. -/
def loadingFile : File :=
  { name := "maps.proto", messages := [{ name := "Point" }]
    services :=
      [{ name := "Maps"
         methods := [Method.unary "get" ".Point" ".Point",
           Method.unary "getLoading" ".Point" ".Point"] }] }

/-- The exported names differ, but the state lists a key twice, and the reducer's cases for one
method change it although it belongs to the other one. -/
theorem keys_of_distinct_exports_repeat :
    ∃ output context heading,
      generate (Registry.assembled [loadingFile]) "maps.proto" TypeScript.dialect {} =
        .ok output ∧
      output.content = heading ++ render Script.indentUnit
        (serviceSteps TypeScript.flavor context) ∧
      (context.bindings.map Binding.exported).Nodup ∧
      ListsKeys (serviceSteps TypeScript.flavor context) "export type RPCState = "
        ((context.bindings.map Binding.exported).flatMap stateKeys) ∧
      ¬ ((context.bindings.map Binding.exported).flatMap stateKeys).Nodup ∧
      ¬ KeepsApart (readCases (serviceSteps TypeScript.flavor context))
        (context.bindings.map Binding.exported) := by
  have generated : ∃ output,
      generate (Registry.assembled [loadingFile]) "maps.proto" TypeScript.dialect {} =
        .ok output := ⟨_, rfl⟩
  obtain ⟨output, written⟩ := generated
  obtain ⟨file, contexts, known, -, bound, rfl⟩ := generate_eq_ok_iff.mp written
  obtain rfl : loadingFile = file := Except.ok.inj known
  obtain ⟨context, others, serviceBound, none, rfl⟩ := List.forall₂_cons_left_iff.mp bound
  obtain rfl := List.forall₂_nil_left_iff.mp none
  obtain ⟨heading, content⟩ := StoreDialect.typeScript.renderFile_eq
    (TypeScript.dialect.fileContext (Registry.assembled [loadingFile]) {} loadingFile [context])
  have keys := keysFollow_serviceSteps .typeScript serviceBound
  have listed := keys.listed
  have exports : context.bindings.map Binding.exported = ["get", "getLoading"] :=
    keys.exports_eq.trans (by decide)
  have distinct : (context.bindings.map Binding.exported).Nodup := by
    rw [exports]
    decide
  have extended : ¬ Unextended (context.bindings.map Binding.exported) := by
    rw [exports]
    decide
  refine ⟨_, context, heading, written, content, distinct, listed, ?_, ?_⟩
  · exact fun nodup => extended ((keys.distinct_iff distinct).mp nodup)
  · exact fun apart => extended ((keys.apart_iff distinct).mp apart)

end RpcBindings.Store
