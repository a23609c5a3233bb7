/-
Module: RpcBindings.Proofs.Name.ActionTypes
Purpose: Which services and methods have action types that are spelled alike.
Main exports: Name.trail, Name.actionWords, Name.Continues, Name.toList_actionType,
  Name.actionType_eq_actionType_iff
-/
import Mathlib.Data.List.Flatten
import RpcBindings.Proofs.Name.Collisions

namespace RpcBindings.Name

open Unicode

/-!
An action type is the name of a service in capitals, followed by the words of a method, each behind
an underscore.  The service's own name may hold underscores, too.  So nothing marks where the
service ends, and besides methods of the same words there is one more way for two types to meet: one
service goes on where the other one ends, with words with which the other one's method begins.
-/

/-- Some words, each behind an underscore. -/
def trail (parts : List (List Char)) : List Char :=
  parts.flatMap fun part => '_' :: part

/-- The words of a method in capitals.  A name without words counts as one empty word. -/
def actionWords (method : String) : List (List Char) :=
  match words method.toList with
  | [] => [[]]
  | first :: others => (first :: others).map fun word => (smallWord word).flatMap toUpper

/-- In capitals, the second service is the first one with some words behind it; with these words the
first method begins, and its other words are those of the second method. -/
def Continues (service method otherService otherMethod : String) : Prop :=
  ∃ front, capitals otherService = capitals service ++ String.ofList (trail front) ∧
    actionWords method = front ++ actionWords otherMethod

@[simp] theorem trail_nil : trail [] = [] := rfl

@[simp] theorem trail_cons (part : List Char) (parts : List (List Char)) :
    trail (part :: parts) = '_' :: part ++ trail parts := rfl

/-! ### Reading a trail back -/

/-- The words of a trail are read back behind the parts of what precedes it. -/
theorem splitOn_append_trail {lead : List Char} {parts : List (List Char)}
    (clear : ∀ part ∈ parts, '_' ∉ part) :
    (lead ++ trail parts).splitOn '_' = lead.splitOn '_' ++ parts := by
  induction parts generalizing lead with
  | nil => simp
  | cons part parts inductionHypothesis =>
      obtain ⟨first, others⟩ := List.forall_mem_cons.mp clear
      calc
        (lead ++ trail (part :: parts)).splitOn '_'
        _ = ((lead ++ '_' :: part) ++ trail parts).splitOn '_' := by simp
        _ = (lead ++ '_' :: part).splitOn '_' ++ parts := inductionHypothesis others
        _ = (lead.splitOn '_' ++ part.splitOn '_') ++ parts := by
          rw [List.splitOn_append_cons_self]
        _ = lead.splitOn '_' ++ part :: parts := by
          rw [List.splitOn_eq_singleton first, List.append_assoc, List.singleton_append]

theorem intercalate_cons_eq (part : List Char) (parts : List (List Char)) :
    ['_'].intercalate (part :: parts) = part ++ trail parts := by
  induction parts generalizing part with
  | nil => simp
  | cons next parts inductionHypothesis =>
      rw [List.intercalate_cons_cons, inductionHypothesis, trail_cons]
      simp

theorem intercalate_append {parts : List (List Char)} (some : parts ≠ [])
    (rest : List (List Char)) :
    ['_'].intercalate (parts ++ rest) = ['_'].intercalate parts ++ trail rest := by
  obtain ⟨part, parts, rfl⟩ := List.exists_cons_of_ne_nil some
  rw [List.cons_append, intercalate_cons_eq, intercalate_cons_eq, trail, List.flatMap_append,
    List.append_assoc]
  rfl

/-- Two texts with a trail behind each are the same if one trail begins with the words by which the
other text is longer. -/
theorem append_trail_eq_append_trail_iff {first second : List Char}
    {parts others : List (List Char)} (clear : ∀ part ∈ parts, '_' ∉ part)
    (alsoClear : ∀ part ∈ others, '_' ∉ part) :
    first ++ trail parts = second ++ trail others ↔
      (∃ front, second = first ++ trail front ∧ parts = front ++ others) ∨
        ∃ front, first = second ++ trail front ∧ others = front ++ parts := by
  -- Where one list of parts goes on with a front, so does the text that they make up.
  have longer {one other : List Char} {front : List (List Char)}
      (split : other.splitOn '_' = one.splitOn '_' ++ front) : other = one ++ trail front := by
    have joined := congrArg ['_'].intercalate split
    rwa [List.intercalate_splitOn, intercalate_append (List.splitOn_ne_nil _ _),
      List.intercalate_splitOn] at joined
  constructor
  · intro same
    have read := congrArg (List.splitOn '_') same
    rw [splitOn_append_trail clear, splitOn_append_trail alsoClear,
      List.append_eq_append_iff] at read
    rcases read with ⟨front, split, rest⟩ | ⟨front, split, rest⟩
    · exact Or.inl ⟨front, longer split, rest⟩
    · exact Or.inr ⟨front, longer split, rest⟩
  · intro meets
    rcases meets with ⟨front, rfl, rfl⟩ | ⟨front, rfl, rfl⟩
    · simp [trail]
    · simp [trail]

/-! ### Action types -/

/-- No word of a method holds the underscore that sets it apart. -/
theorem underscore_notMem_of_mem_actionWords {method : String} {part : List Char}
    (member : part ∈ actionWords method) : '_' ∉ part := by
  unfold actionWords at member
  split at member
  · rw [List.mem_singleton] at member
    rw [member]
    exact List.not_mem_nil
  · next first others found =>
    obtain ⟨word, wordMember, rfl⟩ := List.mem_map.mp member
    rw [← found] at wordMember
    have small := caseStable_isLetterlike.smallWords
      (fun _ _ => isLetterlike_of_isAlphanumeric) (smallWord word) (List.mem_map_of_mem wordMember)
    intro inside
    obtain ⟨letter, letterMember, capital⟩ := List.mem_flatMap.mp inside
    have letterlike := caseStable_isLetterlike.upper letter (small letter letterMember) '_' capital
    exact absurd letterlike (by decide)

theorem toUpper_underscore : toUpper '_' = ['_'] := by decide

/-- Words keep their places when they are put in capitals. -/
theorem flatMap_toUpper_trail (parts : List (List Char)) :
    (trail parts).flatMap toUpper = trail (parts.map fun part => part.flatMap toUpper) := by
  simp only [trail, List.flatMap_assoc, List.flatMap_cons, List.flatMap_map, toUpper_underscore,
    List.singleton_append]

/-- An action type is the service in capitals, with the words of the method behind it. -/
theorem toList_actionType (service method : String) :
    (actionType service method).toList =
      (capitals service).toList ++ trail (actionWords method) := by
  have behind : '_' :: (capitals (snake method)).toList = trail (actionWords method) := by
    rw [toList_capitals, toList_snake, separated]
    unfold actionWords
    split
    · next none =>
      rw [none]
      rfl
    · next first others found =>
      have spelled := flatMap_toUpper_trail ((first :: others).map smallWord)
      rw [List.map_map, List.map_cons, trail_cons, List.cons_append, List.flatMap_cons,
        toUpper_underscore] at spelled
      rw [found, List.map_cons, intercalate_cons_eq]
      exact spelled
  rw [actionType, String.toList_append, String.toList_append, ← behind]
  simp

/-- Two action types are the same exactly if one service and its method go on as the other ones. -/
theorem actionType_eq_actionType_iff {service method otherService otherMethod : String} :
    actionType service method = actionType otherService otherMethod ↔
      Continues service method otherService otherMethod ∨
        Continues otherService otherMethod service method := by
  rw [← String.toList_inj, toList_actionType, toList_actionType,
    append_trail_eq_append_trail_iff (fun _ => underscore_notMem_of_mem_actionWords)
      fun _ => underscore_notMem_of_mem_actionWords]
  simp only [Continues, ← String.toList_inj, String.toList_append, String.toList_ofList]

end RpcBindings.Name
