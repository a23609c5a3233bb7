/-
Module: RpcBindings.Proofs.Store.Reading
Purpose: What can be read back from the layout of a store: thunks, actions, and reducer cases.
Main exports: Store.spliced, Store.dispatchedTypes, Store.readCases, Store.HasKey, Store.ListsKeys,
  Store.readCases_serviceSteps, Store.spliced_serviceSteps, Store.listsKeys_stateType,
  Store.listsKeys_initialState
-/
import Mathlib.Data.List.Basic
import RpcBindings.Target.Store.Thunk

namespace RpcBindings.Store

open Layout

/-!
Names of services and methods may hold any characters, line ends and quotes included, so nothing is
searched for in the finished text.  A layout is read step by step instead, as it is written: what
stands between two fixed texts of a step is read whole.
-/

/-- What stands between a fixed opening and a fixed closing text. -/
def between? (opening closing text : String) : Option String :=
  ((text.toList.dropPrefix? opening.toList).bind fun rest =>
    rest.dropSuffix? closing.toList).map String.ofList

/-- The code that was laid out elsewhere. -/
def spliced (steps : List Step) : List String :=
  steps.flatMap fun
    | .splice text => [text]
    | _ => []

def plainLines (steps : List Step) : List String :=
  steps.flatMap fun
    | .line text => [text]
    | .lines texts => texts
    | _ => []

/-- The types of the actions that are dispatched, in order. -/
def dispatchedTypes (steps : List Step) : List String :=
  (plainLines steps).filterMap (between? "type: '" "',")

/-- The label of a reducer case that begins here. -/
def caseLabel? : Step → Option String
  | .enter header => between? "case '" "': \x7b" header
  | _ => none

def isLeave : Step → Bool
  | .leave _ => true
  | _ => false

/-- The cases of a reducer: the label of each, and the lines of the object that it returns. -/
def readCases : List Step → List (String × List String)
  | [] => []
  | step :: rest =>
      match caseLabel? step with
      | some label =>
          (label, plainLines (rest.takeWhile fun next => !isLeave next)) :: readCases rest
      | none => readCases rest

/-- The line that gives a key of the state a new value. -/
def assignment (key value : String) : String :=
  key ++ ": " ++ value ++ ","

/-- A layout holds a block in braces that lists the key with some value. -/
def HasKey (steps : List Step) (header key : String) : Prop :=
  ∃ items value, block header [.lines (withCommas items)] "" <:+: steps ∧
    key ++ ": " ++ value ∈ items

/-- A layout holds a block in braces that lists the keys, each with some value, and nothing else. -/
def ListsKeys (steps : List Step) (header : String) (keys : List String) : Prop :=
  ∃ entries : List Entry, entries.map Entry.key = keys ∧
    block header [.lines (withCommas (entries.map Entry.text))] "" <:+: steps

/-! ### Reading between fixed texts -/

theorem between?_append (opening text closing : String) :
    between? opening closing (opening ++ text ++ closing) = some text := by
  have dropped : (opening ++ text ++ closing).toList.dropPrefix? opening.toList =
      some (text.toList ++ closing.toList) :=
    List.dropPrefix?_eq_some_iff.mpr ⟨opening.toList, by simp, by simp⟩
  have kept : (text.toList ++ closing.toList).dropSuffix? closing.toList = some text.toList :=
    List.dropSuffix?_eq_some_iff.mpr ⟨closing.toList, rfl, by simp⟩
  rw [between?, dropped, Option.bind_some, kept, Option.map_some, String.ofList_toList]

/-- Nothing is read from a text that differs from the opening in one of its characters. -/
theorem between?_eq_none {opening closing text : String} (index : Nat) (c : Char)
    (opens : opening.toList[index]? = some c) (differs : text.toList[index]? ≠ some c) :
    between? opening closing text = none := by
  cases found : text.toList.dropPrefix? opening.toList with
  | none => simp [between?, found]
  | some rest =>
      obtain ⟨front, split, same⟩ := List.dropPrefix?_eq_some_iff.mp found
      rw [eq_of_beq same] at split
      obtain ⟨inside, -⟩ := List.getElem?_eq_some_iff.mp opens
      rw [split, List.getElem?_append_left inside] at differs
      exact absurd opens differs

/-! ### Thunks -/

theorem dispatchedTypes_append (first second : List Step) :
    dispatchedTypes (first ++ second) = dispatchedTypes first ++ dispatchedTypes second := by
  simp [dispatchedTypes, plainLines]

/-- The type of a dispatched action is read back; the payload is none. -/
theorem dispatchedTypes_dispatch (action : String) {payload : String} :
    dispatchedTypes (Thunk.dispatch action payload) = [action] := by
  have payloadLine : between? "type: '" "'," ("payload: " ++ payload ++ ",") = none :=
    between?_eq_none 0 't' rfl (by simp)
  simp [dispatchedTypes, plainLines, Thunk.dispatch, between?_append, payloadLine]

/-! ### Reducers -/

/-- No reducer case begins in a list of steps. -/
def Unlabelled (steps : List Step) : Prop :=
  ∀ step ∈ steps, caseLabel? step = none

theorem unlabelled_nil : Unlabelled [] :=
  List.forall_mem_nil _

theorem unlabelled_cons_iff {step : Step} {rest : List Step} :
    Unlabelled (step :: rest) ↔ caseLabel? step = none ∧ Unlabelled rest :=
  List.forall_mem_cons

theorem unlabelled_append_iff {first second : List Step} :
    Unlabelled (first ++ second) ↔ Unlabelled first ∧ Unlabelled second :=
  List.forall_mem_append

/-- A header that differs from `case` in its second character is no label. -/
theorem caseLabel?_enter {header : String} (differs : header.toList[1]? ≠ some 'a') :
    caseLabel? (.enter header) = none :=
  between?_eq_none 1 'a' rfl differs

theorem readCases_append {front : List Step} (unlabelled : Unlabelled front)
    (rest : List Step) : readCases (front ++ rest) = readCases rest := by
  induction front with
  | nil => rfl
  | cons step front inductionHypothesis =>
      obtain ⟨first, others⟩ := List.forall_mem_cons.mp unlabelled
      simp [readCases, first, inductionHypothesis others]

theorem readCases_eq_nil {steps : List Step} (unlabelled : Unlabelled steps) :
    readCases steps = [] := by
  have read := readCases_append unlabelled []
  rwa [List.append_nil] at read

def ReducerCase.lines (reducerCase : ReducerCase) : List String :=
  "...state," :: reducerCase.changes.map fun entry => assignment entry.key entry.value

/-- What a case is read as: its label and its lines. -/
def ReducerCase.reading (reducerCase : ReducerCase) : String × List String :=
  (reducerCase.action, reducerCase.lines)

/-- What a case opens before its first closing line: the object that it returns. -/
def ReducerCase.body (reducerCase : ReducerCase) : List Step :=
  .enter "return \x7b" :: .line "...state," ::
    reducerCase.changes.map fun entry => .line (assignment entry.key entry.value)

theorem ReducerCase.steps_eq (reducerCase : ReducerCase) :
    reducerCase.steps =
      .enter ("case '" ++ reducerCase.action ++ "': \x7b") ::
        (reducerCase.body ++ [.leave "\x7d", .leave "\x7d"]) := by
  simp [ReducerCase.steps, ReducerCase.body, Layout.block, Entry.text, assignment,
    String.append_assoc]

theorem ReducerCase.plainLines_body (reducerCase : ReducerCase) :
    plainLines reducerCase.body = reducerCase.lines := by
  simp only [ReducerCase.body, ReducerCase.lines, plainLines, List.flatMap_cons, List.flatMap_map,
    List.nil_append, List.singleton_append]
  rw [List.map_eq_flatMap]

/-- Inside a case there are neither closing lines nor labels of further cases. -/
theorem ReducerCase.mem_body {reducerCase : ReducerCase} {step : Step}
    (member : step ∈ reducerCase.body) : isLeave step = false ∧ caseLabel? step = none := by
  simp only [ReducerCase.body, List.mem_cons, List.mem_map] at member
  rcases member with rfl | rfl | ⟨entry, -, rfl⟩
  · exact ⟨rfl, caseLabel?_enter (by decide)⟩
  · exact ⟨rfl, rfl⟩
  · exact ⟨rfl, rfl⟩

/-- A case is read back with its label and its lines. -/
theorem readCases_steps_append (reducerCase : ReducerCase) (rest : List Step) :
    readCases (reducerCase.steps ++ rest) =
      reducerCase.reading :: readCases rest := by
  have label : caseLabel? (.enter ("case '" ++ reducerCase.action ++ "': \x7b")) =
      some reducerCase.action := between?_append _ _ _
  have opened : (reducerCase.body ++ (.leave "\x7d" :: .leave "\x7d" :: rest)).takeWhile
      (fun next => !isLeave next) = reducerCase.body := by
    rw [List.takeWhile_append_of_pos fun step member => by simp [(ReducerCase.mem_body member).1],
      List.takeWhile_cons_of_neg (by simp [isLeave]), List.append_nil]
  rw [ReducerCase.steps_eq, List.cons_append, List.append_assoc, readCases, label]
  simp only [List.cons_append, List.nil_append, opened, ReducerCase.plainLines_body]
  rw [readCases_append fun step member => (ReducerCase.mem_body member).2]
  rfl

theorem readCases_flatMap_append (cases : List ReducerCase) (rest : List Step) :
    readCases (cases.flatMap ReducerCase.steps ++ rest) =
      cases.map ReducerCase.reading ++ readCases rest := by
  induction cases with
  | nil => rfl
  | cons reducerCase cases inductionHypothesis =>
      rw [List.flatMap_cons, List.append_assoc, readCases_steps_append, inductionHypothesis,
        List.map_cons, List.cons_append]

/-- The cases of a reducer are read back in order, and there are no others. -/
theorem readCases_reducerSteps {flavor : Flavor} {exports : Exports}
    (differs : (flavor.reducerHeader exports ++ "\x7b").toList[1]? ≠ some 'a')
    (cases : List ReducerCase) :
    readCases (reducerSteps flavor exports cases) =
      cases.map ReducerCase.reading := by
  have headers : Unlabelled
      [.enter (flavor.reducerHeader exports ++ "\x7b"), .enter "switch (action.type) \x7b"] := by
    simp only [unlabelled_cons_iff, unlabelled_nil, and_true]
    exact ⟨caseLabel?_enter differs, caseLabel?_enter (by decide)⟩
  -- All other actions are answered after the cases, under a header that is no label.
  have footers : Unlabelled
      [.enter "default:", .line "return state", .outdent, .leave "\x7d", .leave "\x7d"] := by
    simp only [unlabelled_cons_iff, unlabelled_nil, and_true]
    exact ⟨caseLabel?_enter (by decide), rfl, rfl, rfl, rfl⟩
  have split : reducerSteps flavor exports cases =
      [.enter (flavor.reducerHeader exports ++ "\x7b"), .enter "switch (action.type) \x7b"] ++
        (cases.flatMap ReducerCase.steps ++
          [.enter "default:", .line "return state", .outdent, .leave "\x7d", .leave "\x7d"]) := by
    simp [reducerSteps, Layout.block]
  rw [split, readCases_append headers, readCases_flatMap_append, readCases_eq_nil footers,
    List.append_nil]

/-! ### Services -/

/-- What is written before the reducer holds no case. -/
theorem unlabelled_front (flavor : Flavor) (exports : Exports) (bindings : List Binding) :
    Unlabelled (thunksSteps bindings ++ thunkMapSteps exports bindings ++ [.blank] ++
      stateTypeSteps flavor exports bindings ++ [.blank] ++
      initialStateSteps exports bindings ++ [.blank]) := by
  have thunks : Unlabelled (thunksSteps bindings) := by
    intro step member
    obtain ⟨binding, -, inside⟩ := List.mem_flatMap.mp member
    simp only [List.mem_cons, List.not_mem_nil, or_false] at inside
    rcases inside with rfl | rfl
    · rfl
    · rfl
  have listing {header : String} (texts : List String)
      (differs : (header ++ "\x7b").toList[1]? ≠ some 'a') :
      Unlabelled (block header [.lines texts] "") := by
    simp only [block, unlabelled_append_iff, unlabelled_cons_iff, unlabelled_nil, and_true]
    exact ⟨⟨caseLabel?_enter differs, rfl⟩, rfl⟩
  have blank : Unlabelled [.blank] := by
    simp only [unlabelled_cons_iff, unlabelled_nil, and_true]
    rfl
  simp only [unlabelled_append_iff]
  exact ⟨⟨⟨⟨⟨⟨thunks, listing _ (by simp)⟩, blank⟩, listing _ (by simp)⟩, blank⟩,
    listing _ (by simp)⟩, blank⟩

/-- The cases of a service are those of its reducer. -/
theorem readCases_serviceSteps {flavor : Flavor}
    (differs : ∀ exports, (flavor.reducerHeader exports ++ "\x7b").toList[1]? ≠ some 'a')
    (context : ServiceContext) :
    readCases (serviceSteps flavor context) =
      (reducerCases context.service context.bindings).map ReducerCase.reading := by
  rw [serviceSteps, readCases_append (unlabelled_front flavor _ context.bindings),
    readCases_reducerSteps (differs _)]

theorem spliced_append (first second : List Step) :
    spliced (first ++ second) = spliced first ++ spliced second := by
  simp [spliced]

theorem spliced_reducerSteps (flavor : Flavor) (exports : Exports) (cases : List ReducerCase) :
    spliced (reducerSteps flavor exports cases) = [] := by
  have oneCase (reducerCase : ReducerCase) : spliced reducerCase.steps = [] := by
    simp [spliced, ReducerCase.steps, block, List.flatMap_map]
  have allCases : spliced (cases.flatMap ReducerCase.steps) = [] := by
    simp only [spliced, List.flatMap_assoc]
    exact List.flatMap_eq_nil_iff.mpr fun reducerCase _ => oneCase reducerCase
  simp only [reducerSteps, block, spliced_append, allCases]
  rfl

/-- Nothing but the code of the methods is taken over from elsewhere. -/
theorem spliced_serviceSteps (flavor : Flavor) (context : ServiceContext) :
    spliced (serviceSteps flavor context) = context.bindings.map Binding.fragment := by
  have thunks : spliced (thunksSteps context.bindings) =
      context.bindings.map Binding.fragment := by
    simp [spliced, thunksSteps, List.flatMap_assoc, List.map_eq_flatMap]
  simp only [serviceSteps, spliced_append, thunks, spliced_reducerSteps]
  simp [spliced, thunkMapSteps, stateTypeSteps, initialStateSteps, block]

/-! ### State -/

/-- The keys of the state for what is exported under a name. -/
def stateKeys (exported : String) : List String :=
  [loadingKey exported, requestKey exported, responseKey exported]

theorem ListsKeys.hasKey {layout : List Step} {header key : String} {keys : List String}
    (lists : ListsKeys layout header keys) (listed : key ∈ keys) : HasKey layout header key := by
  obtain ⟨entries, rfl, within⟩ := lists
  obtain ⟨entry, member, rfl⟩ := List.mem_map.mp listed
  exact ⟨entries.map Entry.text, entry.value, within, List.mem_map_of_mem member⟩

theorem mem_keys_of_mem {bindings : List Binding} {binding : Binding} {key : String}
    (bound : binding ∈ bindings) (listed : key ∈ stateKeys binding.exported) :
    key ∈ (bindings.map Binding.exported).flatMap stateKeys :=
  List.mem_flatMap.mpr ⟨_, List.mem_map_of_mem bound, listed⟩

/-- Where every binding makes an entry for each of its keys, the keys of all entries are those of
the bindings. -/
theorem keys_entries (entries : Binding → List Entry)
    (own : ∀ binding, (entries binding).map Entry.key = stateKeys binding.exported)
    (bindings : List Binding) :
    (bindings.flatMap entries).map Entry.key =
      (bindings.map Binding.exported).flatMap stateKeys := by
  rw [List.map_flatMap, List.flatMap_map]
  simp only [own]

/-- The type of the state lists the keys of each method, in the order of the methods. -/
theorem listsKeys_stateType (flavor : Flavor) (context : ServiceContext) :
    ListsKeys (serviceSteps flavor context)
      ("export type " ++ (Exports.ofService context.file.isShared context.service).stateType ++
        " = ")
      ((context.bindings.map Binding.exported).flatMap stateKeys) := by
  refine ⟨_, keys_entries (typeEntries flavor.optional) (fun _ => rfl) context.bindings, ?_⟩
  simp only [serviceSteps, stateTypeSteps, List.append_assoc]
  exact List.infix_append_of_infix_right
    (List.infix_append_of_infix_right (List.infix_append' _ _ _))

/-- The initial state lists the same keys. -/
theorem listsKeys_initialState (flavor : Flavor) (context : ServiceContext) :
    ListsKeys (serviceSteps flavor context)
      ("const " ++ (Exports.ofService context.file.isShared context.service).initialState ++ ": " ++
        (Exports.ofService context.file.isShared context.service).stateType ++ " = ")
      ((context.bindings.map Binding.exported).flatMap stateKeys) := by
  refine ⟨_, keys_entries initialEntries (fun _ => rfl) context.bindings, ?_⟩
  simp only [serviceSteps, initialStateSteps, List.append_assoc]
  exact List.infix_append_of_infix_right (List.infix_append_of_infix_right
    (List.infix_append_of_infix_right (List.infix_append_of_infix_right
      (List.infix_append' _ _ _))))

/-- The type of the state has the keys of each method. -/
theorem hasKey_stateType {flavor : Flavor} {context : ServiceContext} {binding : Binding}
    {key : String} (bound : binding ∈ context.bindings)
    (listed : key ∈ stateKeys binding.exported) :
    HasKey (serviceSteps flavor context)
      ("export type " ++ (Exports.ofService context.file.isShared context.service).stateType ++
        " = ") key :=
  (listsKeys_stateType flavor context).hasKey (mem_keys_of_mem bound listed)

theorem hasKey_initialState {flavor : Flavor} {context : ServiceContext} {binding : Binding}
    {key : String} (bound : binding ∈ context.bindings)
    (listed : key ∈ stateKeys binding.exported) :
    HasKey (serviceSteps flavor context)
      ("const " ++ (Exports.ofService context.file.isShared context.service).initialState ++ ": " ++
        (Exports.ofService context.file.isShared context.service).stateType ++ " = ") key :=
  (listsKeys_initialState flavor context).hasKey (mem_keys_of_mem bound listed)

end RpcBindings.Store
