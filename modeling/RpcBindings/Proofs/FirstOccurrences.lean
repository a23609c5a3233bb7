/-
Module: RpcBindings.Proofs.FirstOccurrences
Purpose: Lists without repetition, in the order in which their items first occur somewhere else.
Main exports: FirstOccurrences, firstOccurrences_iff, NameSet.toList_ofList_eq_distinct
-/
import Mathlib.Data.List.Induction
import Mathlib.Data.List.Nodup
import RpcBindings.NameSet

namespace RpcBindings

/-- `FirstOccurrences names listed`: the list has every name once, and of two names that one first
which is the first one to occur among `names`. -/
structure FirstOccurrences (names listed : List String) : Prop where
  mem : ∀ name, name ∈ listed ↔ name ∈ names
  ordered : listed.Pairwise fun first second => names.idxOf first < names.idxOf second

namespace FirstOccurrences

variable {names listed others : List String}

theorem nil : FirstOccurrences [] [] :=
  ⟨fun _ => Iff.rfl, .nil⟩

theorem nodup (occurrences : FirstOccurrences names listed) : listed.Nodup := by
  refine occurrences.ordered.imp fun {first second} before same => ?_
  rw [same] at before
  exact Nat.lt_irrefl _ before

/-- There is one such list. -/
theorem unique (one : FirstOccurrences names listed) (other : FirstOccurrences names others) :
    listed = others := by
  have same : listed.Perm others := by
    refine (List.perm_ext_iff_of_nodup one.nodup other.nodup).mpr fun name => ?_
    rw [one.mem, other.mem]
  exact same.eq_of_pairwise (fun _ _ _ _ before after => absurd before (Nat.lt_asymm after))
    one.ordered other.ordered

/-- Names that follow do not change the order. -/
theorem ordered_append (occurrences : FirstOccurrences names listed) (more : List String) :
    listed.Pairwise fun first second =>
      (names ++ more).idxOf first < (names ++ more).idxOf second := by
  refine occurrences.ordered.imp_of_mem fun {first second} firstListed secondListed before => ?_
  rw [List.idxOf_append_of_mem ((occurrences.mem _).mp firstListed),
    List.idxOf_append_of_mem ((occurrences.mem _).mp secondListed)]
  exact before

/-- A name that has occurred is not listed again. -/
theorem append_known (occurrences : FirstOccurrences names listed) {name : String}
    (known : name ∈ names) : FirstOccurrences (names ++ [name]) listed where
  mem other := by
    rw [occurrences.mem, List.mem_append, List.mem_singleton]
    exact ⟨Or.inl, fun found => found.elim id fun same => same ▸ known⟩
  ordered := occurrences.ordered_append [name]

/-- A name that has not occurred is listed behind all others. -/
theorem append_new (occurrences : FirstOccurrences names listed) {name : String}
    (unknown : name ∉ names) : FirstOccurrences (names ++ [name]) (listed ++ [name]) where
  mem other := by
    rw [List.mem_append, List.mem_append, occurrences.mem]
  ordered := by
    refine List.pairwise_append.mpr
      ⟨occurrences.ordered_append [name], List.pairwise_singleton _ _, ?_⟩
    intro first firstListed last lastListed
    obtain rfl := List.mem_singleton.mp lastListed
    have occurs := (occurrences.mem _).mp firstListed
    rw [List.idxOf_append_of_mem occurs, List.idxOf_append_of_notMem unknown]
    exact Nat.lt_of_lt_of_le (List.idxOf_lt_length_iff.mpr occurs) (Nat.le_add_right _ _)

end FirstOccurrences

/-- Repetitions are removed where a name occurs again. -/
theorem firstOccurrences_distinct (names : List String) :
    FirstOccurrences names (distinct names) := by
  induction names using List.reverseRecOn with
  | nil => exact .nil
  | append_singleton names name inductionHypothesis =>
      rw [distinct, List.eraseDups_append]
      by_cases known : name ∈ names
      · have removed : [name].removeAll names = [] := by simp [List.removeAll, known]
        rw [removed, List.eraseDups_nil, List.append_nil]
        exact inductionHypothesis.append_known known
      · have kept : [name].removeAll names = [name] := by simp [List.removeAll, known]
        rw [kept]
        exact inductionHypothesis.append_new known

theorem firstOccurrences_iff {names listed : List String} :
    FirstOccurrences names listed ↔ listed = distinct names := by
  constructor
  · intro occurrences
    exact occurrences.unique (firstOccurrences_distinct names)
  · intro same
    exact same ▸ firstOccurrences_distinct names

/-- One more name keeps a set in the order of first occurrences. -/
theorem FirstOccurrences.insert {names : List String} {set : NameSet}
    (occurrences : FirstOccurrences names set.toList) (name : String) :
    FirstOccurrences (names ++ [name]) (set.insert name).toList := by
  unfold NameSet.insert
  split
  · next known =>
    have listed : name ∈ set.toList := by simpa [NameSet.contains] using known
    exact occurrences.append_known ((occurrences.mem name).mp listed)
  · next unknown =>
    have absent : name ∉ set.toList := by simpa [NameSet.contains] using unknown
    exact occurrences.append_new fun occurs => absent ((occurrences.mem name).mpr occurs)

/-- A set that is made from a list has the names in the order of their first occurrences. -/
theorem NameSet.toList_ofList_eq_distinct (names : List String) :
    (ofList names).toList = distinct names := by
  rw [← firstOccurrences_iff]
  induction names using List.reverseRecOn with
  | nil => exact .nil
  | append_singleton names name inductionHypothesis =>
      rw [ofList, insertAll_append]
      exact inductionHypothesis.insert name

end RpcBindings
