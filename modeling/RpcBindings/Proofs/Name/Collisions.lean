/-
Module: RpcBindings.Proofs.Name.Collisions
Purpose: Which names are spelled alike.
Main exports: Name.SameWords, Name.kebab_eq_kebab_iff, Name.Raised,
  Name.raiseAcronym_eq_raiseAcronym_iff, Name.SameSlot, Name.slot_eq_slot_iff
-/
import RpcBindings.Proofs.Name.Letters

namespace RpcBindings.Name

open Unicode

/-!
A spelling forgets how the words of a name were set apart, and in which case their letters were.
With a separator between the words nothing else is lost.  Where the words are run together their
ends are lost too, and the spelling of acronyms takes away what is left of the case at the end.
-/

/-! ### Words -/

/-- The names have the same words, if the case of letters does not count. -/
def SameWords (first second : String) : Prop :=
  (words first.toList).map smallWord = (words second.toList).map smallWord

instance (first second : String) : Decidable (SameWords first second) :=
  inferInstanceAs (Decidable (_ = _))

/-- No word is empty.  A word is only cut off in front of the last character that was read if that
one goes on with a run of capitals. -/
theorem ne_nil_of_mem_cutWords {mode : CaseMode} {word run : List Char}
    (capital : mode = .capital → word ≠ []) : ∀ part ∈ cutWords mode word run, part ≠ [] := by
  fun_induction cutWords mode word run with
  | case1 => exact List.forall_mem_nil _
  | case2 mode word c => simp
  | case3 mode word c d rest ends inductionHypothesis =>
      rw [List.forall_mem_cons]
      exact ⟨by simp, inductionHypothesis (by simp)⟩
  | case4 mode word c d rest ends starts inductionHypothesis =>
      rw [List.forall_mem_cons]
      refine ⟨?_, inductionHypothesis (by simp)⟩
      rw [ne_eq, List.reverse_eq_nil_iff]
      exact capital starts.1
  | case5 mode word c d rest ends starts inductionHypothesis =>
      exact inductionHypothesis fun _ => List.cons_ne_nil _ _

theorem ne_nil_of_mem_words {name word : List Char} (member : word ∈ words name) : word ≠ [] := by
  obtain ⟨run, -, inside⟩ := List.mem_flatMap.mp member
  exact ne_nil_of_mem_cutWords (by simp) word inside

theorem smallWord_ne_nil {word : List Char} (some : word ≠ []) : smallWord word ≠ [] := by
  fun_cases smallWord word with
  | case1 => exact absurd rfl some
  | case2 => exact List.cons_ne_nil _ _
  | case3 c => exact toLower_ne_nil c
  | case4 c next rest => exact List.append_ne_nil_of_left_ne_nil (toLower_ne_nil c) _

/-- Words that were joined can be told apart, if there are some in each of the two lists. -/
theorem intercalate_eq_intercalate_iff {α : Type} [DecidableEq α] {separator : α}
    {first second : List (List α)} (clear : ∀ word ∈ first, word ≠ [] ∧ separator ∉ word)
    (alsoClear : ∀ word ∈ second, word ≠ [] ∧ separator ∉ word) :
    [separator].intercalate first = [separator].intercalate second ↔ first = second := by
  have split {parts : List (List α)} (clear : ∀ word ∈ parts, word ≠ [] ∧ separator ∉ word)
      (some : parts ≠ []) : ([separator].intercalate parts).splitOn separator = parts :=
    List.splitOn_intercalate separator (fun word member => (clear word member).2) some
  have empty {parts : List (List α)} (clear : ∀ word ∈ parts, word ≠ [] ∧ separator ∉ word)
      (joined : [separator].intercalate parts = []) : parts = [] := by
    by_contra some
    have parts_eq := split clear some
    rw [joined, List.splitOn_nil] at parts_eq
    exact (clear [] (parts_eq ▸ List.mem_singleton_self _)).1 rfl
  constructor
  · intro same
    by_cases none : first = []
    · subst none
      exact (empty alsoClear same.symm).symm
    · have some : second ≠ [] := by
        intro alsoNone
        subst alsoNone
        exact none (empty clear same)
      rw [← split clear none, ← split alsoClear some, same]
  · intro same
    rw [same]

/-- Two names are spelled alike with a separator if and only if they have the same words. -/
theorem separated_eq_separated_iff {separator : Char} (apart : isLetterlike separator = false)
    {first second : String} :
    separated separator first.toList = separated separator second.toList ↔
      SameWords first second := by
  have clear (name : String) : ∀ part ∈ (words name.toList).map smallWord,
      part ≠ [] ∧ separator ∉ part := by
    intro part member
    have letterlike := caseStable_isLetterlike.smallWords
      (fun _ _ => isLetterlike_of_isAlphanumeric) part member
    obtain ⟨word, wordMember, rfl⟩ := List.mem_map.mp member
    refine ⟨smallWord_ne_nil (ne_nil_of_mem_words wordMember), fun inside => ?_⟩
    rw [letterlike separator inside] at apart
    cases apart
  exact intercalate_eq_intercalate_iff (clear first) (clear second)

theorem kebab_eq_kebab_iff {first second : String} :
    kebab first = kebab second ↔ SameWords first second := by
  rw [← String.toList_inj, toList_kebab, toList_kebab]
  exact separated_eq_separated_iff (by decide)

/-! ### Acronyms -/

/-- A name, and the same name with the acronym at its end in capitals. -/
inductive Raised : String → String → Prop where
  /-- A longer name keeps what stands in front of `Id`. -/
  | long {stem : String} (size : 4 < (stem ++ "Id").utf8ByteSize) :
      Raised (stem ++ "Id") (stem ++ "ID")
  /-- A short name that ends in `Id` or `id` is put in capitals as a whole. -/
  | short {stem ending : String} (known : ending = "Id" ∨ ending = "id")
      (size : (stem ++ ending).utf8ByteSize ≤ 4) :
      Raised (stem ++ ending) (capitals (stem ++ ending))
  | url : Raised "Url" "URL"
  | uri : Raised "Uri" "URI"

theorem Raised.letterlike {first second : String} (raised : Raised first second)
    (letterlike : Letterlike first) : Letterlike second := by
  cases raised with
  | long size =>
      rw [Letterlike, String.toList_append, List.forall_mem_append] at letterlike ⊢
      have ending : Letterlike "ID" := by decide
      exact ⟨letterlike.1, ending⟩
  | short known size => exact letterlike.capitals
  | url => decide
  | uri => decide

/-- A name in which the acronym is raised already stays. -/
theorem raiseAcronym_append_ID {stem : String} (letterlike : Letterlike (stem ++ "ID")) :
    raiseAcronym (stem ++ "ID") = stem ++ "ID" := by
  have reversed : (stem ++ "ID").toList.reverse = 'D' :: 'I' :: stem.toList.reverse := by simp
  have other {text : String} (ends : text.toList.reverse.head? ≠ some 'D') :
      stem ++ "ID" ≠ text := by
    intro same
    rw [← same, reversed] at ends
    exact ends rfl
  simp only [raiseAcronym, letterlike.trim_eq, reversed]
  rw [if_neg (other (by decide)), if_neg (other (by decide))]
  split
  · next found => exact absurd found (by simp)
  · next found => exact absurd found (by simp)
  · rfl

theorem capitals_append_ending {stem ending : String} (known : ending = "Id" ∨ ending = "id") :
    capitals (stem ++ ending) = capitals stem ++ "ID" := by
  rw [← String.toList_inj]
  rcases known with rfl | rfl
  · simp [toUpper]
  · simp [toUpper]

theorem Raised.settled {first second : String} (raised : Raised first second)
    (letterlike : Letterlike first) : raiseAcronym second = second := by
  have also := raised.letterlike letterlike
  cases raised with
  | long size => exact raiseAcronym_append_ID also
  | short known size =>
      rw [capitals_append_ending known] at also ⊢
      exact raiseAcronym_append_ID also
  | url => decide
  | uri => decide

theorem Raised.raiseAcronym_eq {first second : String} (raised : Raised first second)
    (letterlike : Letterlike first) : raiseAcronym first = second := by
  cases raised with
  | @long stem size =>
      have reversed : (stem ++ "Id").toList.reverse = 'd' :: 'I' :: stem.toList.reverse := by simp
      simp only [raiseAcronym, letterlike.trim_eq, reversed]
      rw [if_neg (Nat.not_le.mpr size), List.reverse_reverse, String.ofList_append,
        String.ofList_toList]
  | @short stem ending known size =>
      rcases known with rfl | rfl
      · have reversed : (stem ++ "Id").toList.reverse = 'd' :: 'I' :: stem.toList.reverse := by simp
        simp only [raiseAcronym, letterlike.trim_eq, reversed]
        rw [if_pos size]
      · have reversed : (stem ++ "id").toList.reverse = 'd' :: 'i' :: stem.toList.reverse := by simp
        simp only [raiseAcronym, letterlike.trim_eq, reversed]
        rw [if_pos size]
  | url => decide
  | uri => decide

/-- The spelling of acronyms leaves a name as it is or raises the acronym at its end. -/
theorem raiseAcronym_cases {name : String} (letterlike : Letterlike name) :
    raiseAcronym name = name ∨ Raised name (raiseAcronym name) := by
  have ends {stem : List Char} {c : Char} (reversed : name.toList.reverse = 'd' :: c :: stem) :
      name = String.ofList stem.reverse ++ String.ofList [c, 'd'] := by
    rw [← String.toList_inj, ← List.reverse_inj, reversed]
    simp
  simp only [raiseAcronym, letterlike.trim_eq]
  split
  · next stem reversed =>
    have parts := ends reversed
    right
    split
    · next size =>
      rw [parts] at size ⊢
      exact .short (Or.inl rfl) size
    · next size =>
      rw [String.ofList_append]
      rw [parts] at size ⊢
      exact .long (Nat.not_le.mp size)
  · next stem reversed =>
    have parts := ends reversed
    split
    · next size =>
      right
      rw [parts] at size ⊢
      exact .short (Or.inr rfl) size
    · left
      rfl
  · split
    · next url =>
      right
      rw [url]
      exact .url
    · split
      · next uri =>
        right
        rw [uri]
        exact .uri
      · left
        rfl

/-- Two names are spelled alike if they are alike, or if they differ in how the acronym at their end
is written: one is the other one with the acronym raised, or both become the same when it is. -/
theorem raiseAcronym_eq_raiseAcronym_iff {first second : String} (letterlike : Letterlike first)
    (alsoLetterlike : Letterlike second) :
    raiseAcronym first = raiseAcronym second ↔
      first = second ∨ Raised first second ∨ Raised second first ∨
        ∃ shared, Raised first shared ∧ Raised second shared := by
  constructor
  · intro same
    rcases raiseAcronym_cases letterlike with stays | raised
    · rcases raiseAcronym_cases alsoLetterlike with alsoStays | alsoRaised
      · left
        rw [← stays, same, alsoStays]
      · right; right; left
        rwa [← same, stays] at alsoRaised
    · rcases raiseAcronym_cases alsoLetterlike with alsoStays | alsoRaised
      · right; left
        rwa [same, alsoStays] at raised
      · right; right; right
        rw [← same] at alsoRaised
        exact ⟨raiseAcronym first, raised, alsoRaised⟩
  · intro alike
    rcases alike with rfl | raised | raised | ⟨shared, raised, alsoRaised⟩
    · rfl
    · rw [raised.raiseAcronym_eq letterlike, raised.settled letterlike]
    · rw [raised.raiseAcronym_eq alsoLetterlike, raised.settled alsoLetterlike]
    · rw [raised.raiseAcronym_eq letterlike, alsoRaised.raiseAcronym_eq alsoLetterlike]

/-- The names are the same when their words are run together, or differ then in how the acronym at
their end is written. -/
def SameSlot (first second : String) : Prop :=
  pascal first = pascal second ∨ Raised (pascal first) (pascal second) ∨
    Raised (pascal second) (pascal first) ∨
    ∃ shared, Raised (pascal first) shared ∧ Raised (pascal second) shared

theorem slot_eq_slot_iff {first second : String} :
    raiseAcronym (pascal first) = raiseAcronym (pascal second) ↔ SameSlot first second :=
  raiseAcronym_eq_raiseAcronym_iff (letterlike_pascal first) (letterlike_pascal second)

end RpcBindings.Name
