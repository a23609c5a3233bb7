/-
Module: RpcBindings.Proofs.NameSet
Purpose: What a set of names holds after any sequence of operations on it.
Main exports: NameSet.Operation, NameSet.run, NameSet.givenBy, FirstOccurrences.apply,
  FirstOccurrences.run, NameSet.run_outcome
-/
import Mathlib.Data.Finset.Card
import RpcBindings.Proofs.FirstOccurrences

namespace RpcBindings

/-!
A set of names begins empty or is collected from names, and takes further names one by one or many
at once.  What it holds at any time is said by the names that it was given until then, and by nothing
else: each of them once, in the order in which they first occurred.
-/

namespace NameSet

/-- What can be done to a set of names. -/
inductive Operation where
  | insert (name : String)
  | extend (names : List String)
  /-- A set that is made from these names takes the place of the one at hand. -/
  | collect (names : List String)
deriving Repr, DecidableEq

/-- The set after an operation. -/
def Operation.apply (set : NameSet) : Operation → NameSet
  | .insert name => (set.insertNew name).2
  | .extend names => set.insertAll names
  | .collect names => ofList names

/-- The names that a set was given, one after the other, when it was given some of them before the
operation. -/
def Operation.given (before : List String) : Operation → List String
  | .insert name => before ++ [name]
  | .extend names => before ++ names
  | .collect names => names

/-- The set after all operations. -/
def run (set : NameSet) (operations : List Operation) : NameSet :=
  operations.foldl Operation.apply set

/-- All names that a set was given by operations on the empty set, one after the other. -/
def givenBy (operations : List Operation) : List String :=
  operations.foldl Operation.given []

end NameSet

open NameSet (Operation)

namespace FirstOccurrences

variable {names : List String} {set : NameSet}

theorem insertAll (occurrences : FirstOccurrences names set.toList) (more : List String) :
    FirstOccurrences (names ++ more) (set.insertAll more).toList := by
  induction more generalizing names set with
  | nil =>
      rw [List.append_nil]
      exact occurrences
  | cons name more inductionHypothesis =>
      rw [NameSet.insertAll_cons, List.append_cons]
      exact inductionHypothesis (occurrences.insert name)

/-- Every operation keeps a set in the order of the first occurrences of all names given. -/
theorem apply (occurrences : FirstOccurrences names set.toList) (operation : Operation) :
    FirstOccurrences (operation.given names) (operation.apply set).toList := by
  cases operation with
  | insert name => exact occurrences.insert name
  | extend more => exact occurrences.insertAll more
  | collect others => exact nil.insertAll others

theorem run (occurrences : FirstOccurrences names set.toList) (operations : List Operation) :
    FirstOccurrences (operations.foldl Operation.given names) (set.run operations).toList := by
  induction operations generalizing names set with
  | nil => exact occurrences
  | cons operation operations inductionHypothesis =>
      exact inductionHypothesis (occurrences.apply operation)

end FirstOccurrences

/-- A name is new to a set in the order of first occurrences exactly if it has not occurred. -/
theorem FirstOccurrences.insertNew_iff {names : List String} {set : NameSet}
    (occurrences : FirstOccurrences names set.toList) (name : String) :
    (set.insertNew name).1 = true ↔ name ∉ names := by
  rw [← occurrences.mem]
  simp [NameSet.insertNew, NameSet.contains]

/-- The first occurrences of some names are as many as there are different names. -/
theorem FirstOccurrences.length_eq {names listed : List String}
    (occurrences : FirstOccurrences names listed) : listed.length = names.toFinset.card := by
  have same : listed.toFinset = names.toFinset := by
    ext name
    rw [List.mem_toFinset, List.mem_toFinset, occurrences.mem]
  rw [← same, List.toFinset_card_of_nodup occurrences.nodup]

/-- A list without repetition is that of its own first occurrences. -/
theorem firstOccurrences_self {names : List String} (once : names.Nodup) :
    FirstOccurrences names names where
  mem _ := Iff.rfl
  ordered := by
    refine List.pairwise_iff_getElem.mpr fun i j inI inJ before => ?_
    rw [once.idxOf_getElem, once.idxOf_getElem]
    exact before

/-- To remove repetitions a second time changes nothing. -/
theorem distinct_distinct (names : List String) : distinct (distinct names) = distinct names :=
  (firstOccurrences_iff.mp (firstOccurrences_self (firstOccurrences_distinct names).nodup)).symm

/-- After any operations a set lists the names that it was given, each once and in the order of
their first occurrences, which is the list that is left of these names when repetitions are removed.
The next name is new to the set exactly if it has not been given, and the size of the set is the
number of different names.  Nothing is left to be removed from such a list. -/
theorem NameSet.run_outcome (operations : List Operation) :
    FirstOccurrences (givenBy operations) (empty.run operations).toList ∧
    (∀ name, ((empty.run operations).insertNew name).1 = true ↔ name ∉ givenBy operations) ∧
    (empty.run operations).size = (givenBy operations).toFinset.card ∧
    (empty.run operations).toList = distinct (givenBy operations) ∧
    ∀ names, distinct (distinct names) = distinct names := by
  have occurrences : FirstOccurrences (givenBy operations) (empty.run operations).toList :=
    FirstOccurrences.nil.run operations
  exact ⟨occurrences, occurrences.insertNew_iff, occurrences.length_eq,
    firstOccurrences_iff.mp occurrences, distinct_distinct⟩

/-- The second time a name is given it is not new. -/
example :
    let set := NameSet.empty.run [.insert "Point", .extend ["Feature", "Point"]]
    set.toList = ["Point", "Feature"] ∧ (set.insertNew "Point").1 = false := by
  decide

end RpcBindings
