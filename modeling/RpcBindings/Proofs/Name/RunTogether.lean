/-
Module: RpcBindings.Proofs.Name.RunTogether
Purpose: Which names stay when their words, run together with capitals, are cut and spelled again.
Main exports: Name.beginsWord, Name.cutAtCapitals, Name.cutWords_cons, Name.SetApart,
  Name.flatMap_words_eq_iff, Name.pascal_pascal_iff
-/
import RpcBindings.Proofs.Name.Separated

namespace RpcBindings.Name

open Unicode

/-!
Where words are run together only their capitals tell them apart.  A second spelling has to find
every word again from the case of the letters around its beginning, and it does not find all of
them: `A` behind `X` reads as one word with it, and a letter behind nothing but digits reads as a
part of the number.
-/

/-! ### Words begin with capitals -/

/-- Whether a word begins with a character, told from the case of the letters in front of it and
from what follows it. -/
def beginsWord (mode : CaseMode) (c : Char) (rest : List Char) : Bool :=
  isUppercase c && (mode == .small || mode == .capital && rest.head?.any isLowercase)

/-- The words of a text, cut in front of the capitals with which they begin.  `word` holds the
characters of the current word, the latest first, and is not empty. -/
def cutAtCapitals (mode : CaseMode) (word : List Char) : List Char → List (List Char)
  | [] => [word.reverse]
  | c :: rest =>
      if beginsWord mode c rest then
        word.reverse :: cutAtCapitals (CaseMode.undecided.next c) [c] rest
      else cutAtCapitals (mode.next c) (c :: word) rest

/-- No character is a small letter and a capital. -/
theorem isUppercase_eq_false {c : Char} (alphanum : c.isAlphanum = true)
    (small : isLowercase c = true) : isUppercase c = false :=
  forall_alphanum (fun c => isLowercase c = true → isUppercase c = false) (by decide) alphanum small

theorem isLowercase_eq_false {c : Char} (alphanum : c.isAlphanum = true)
    (capital : isUppercase c = true) : isLowercase c = false :=
  forall_alphanum (fun c => isUppercase c = true → isLowercase c = false) (by decide) alphanum
    capital

theorem CaseMode.next_of_isLowercase {c : Char} (small : isLowercase c = true) (mode : CaseMode) :
    mode.next c = .small :=
  if_pos small

theorem CaseMode.next_of_isUppercase {c : Char} (alphanum : c.isAlphanum = true)
    (capital : isUppercase c = true) (mode : CaseMode) : mode.next c = .capital := by
  have noSmall : ¬ isLowercase c = true := by simp [isLowercase_eq_false alphanum capital]
  rw [CaseMode.next, if_neg noSmall, if_pos capital]

/-- The two places at which words end are one place, in front of a capital.  Only the character
that is read first is looked at by itself, as the word may end in front of it. -/
theorem cutWords_cons {mode : CaseMode} {word rest : List Char} {c : Char}
    (alphanum : ∀ d ∈ rest, d.isAlphanum = true) :
    cutWords mode word (c :: rest) =
      if mode = .capital ∧ isUppercase c = true ∧ rest.head?.any isLowercase = true then
        word.reverse :: cutAtCapitals (CaseMode.undecided.next c) [c] rest
      else cutAtCapitals (mode.next c) (c :: word) rest := by
  induction rest generalizing mode word c with
  | nil => simp [cutWords, cutAtCapitals]
  | cons d rest inductionHypothesis =>
      obtain ⟨first, others⟩ := List.forall_mem_cons.mp alphanum
      have fresh {word : List Char} : cutWords .undecided word (d :: rest) =
          cutAtCapitals (CaseMode.undecided.next d) (d :: word) rest := by
        rw [inductionHypothesis others, if_neg (by simp)]
      have head : (d :: rest).head?.any isLowercase = isLowercase d := rfl
      rw [cutWords, head]
      split
      · next ends =>
        -- A small letter is followed by a capital, which therefore begins a word.
        have noSmall : isLowercase d ≠ true := by
          intro small
          rw [isUppercase_eq_false first small] at ends
          cases ends.2
        have begins : beginsWord (mode.next c) d rest = true := by simp [beginsWord, ends]
        rw [if_neg fun starts => noSmall starts.2.2, fresh, cutAtCapitals, if_pos begins]
      · next ends =>
        split
        · next starts =>
          -- The last capital of a run begins a word, and the small letter behind it does not.
          have begins : ¬ beginsWord (CaseMode.undecided.next c) d rest = true := by
            simp [beginsWord, isUppercase_eq_false first starts.2.2]
          rw [fresh, cutAtCapitals, if_neg begins, CaseMode.next_of_isLowercase starts.2.2,
            CaseMode.next_of_isLowercase starts.2.2]
        · next starts =>
          have same : (mode.next c = .capital ∧ isUppercase d = true ∧
              rest.head?.any isLowercase = true) ↔ beginsWord (mode.next c) d rest = true := by
            rw [not_and] at ends
            cases next : mode.next c <;> simp_all [beginsWord]
          rw [inductionHypothesis others, cutAtCapitals]
          simp only [same]

/-- A text without separators is cut from its first character on. -/
theorem words_cons {c : Char} {rest : List Char} (alphanum : ∀ d ∈ c :: rest, d.isAlphanum = true) :
    words (c :: rest) = cutAtCapitals (CaseMode.undecided.next c) [c] rest := by
  have inside : ∀ d ∈ c :: rest, (fun d => !isAlphanumeric d) d = false := by
    intro d member
    simpa using isAlphanumeric_of_isAlphanum (alphanum d member)
  rw [words, List.splitOnP_eq_singleton inside, List.flatMap_singleton,
    cutWords_cons (List.forall_mem_cons.mp alphanum).2, if_neg (by simp)]

/-- The word that is being read is a part of the first word that is cut. -/
theorem exists_cutAtCapitals_eq (mode : CaseMode) (word run : List Char) :
    ∃ more others, cutAtCapitals mode word run = (word.reverse ++ more) :: others := by
  fun_induction cutAtCapitals mode word run with
  | case1 mode word => exact ⟨[], [], by simp⟩
  | case2 mode word c rest begins inductionHypothesis =>
      exact ⟨[], cutAtCapitals (CaseMode.undecided.next c) [c] rest, by simp⟩
  | case3 mode word c rest goesOn inductionHypothesis =>
      obtain ⟨more, others, cut⟩ := inductionHypothesis
      exact ⟨c :: more, others, by simp [cut]⟩

/-! ### Words that stay -/

/-- The capitals of a text begin words.  `mode` tells the case of the letters in front of it. -/
def Clear : CaseMode → List Char → Prop
  | _, [] => True
  | mode, c :: rest =>
      (isUppercase c = true → beginsWord mode c rest = true) ∧ Clear (mode.next c) rest

theorem capitalWord_append {word : List Char} (some : word ≠ [])
    (alphanum : ∀ c ∈ word, c.isAlphanum = true) (more : List Char) :
    capitalWord (word ++ more) = capitalWord word ++ smallWord more := by
  obtain ⟨c, rest, rfl⟩ := List.exists_cons_of_ne_nil some
  have others := (List.forall_mem_cons.mp alphanum).2
  rw [List.cons_append, capitalWord, capitalWord, smallWord_append others, smallWord_eq_map others,
    List.append_assoc]

/-- ASCII letters and digits change one by one. -/
theorem capitalWord_cons {c : Char} {rest : List Char}
    (alphanum : ∀ d ∈ c :: rest, d.isAlphanum = true) :
    capitalWord (c :: rest) = c.toUpper :: rest.map Char.toLower := by
  obtain ⟨first, others⟩ := List.forall_mem_cons.mp alphanum
  rw [capitalWord, toUpper_of_ascii (toNat_lt_of_isAlphanum first), smallWord_eq_map others,
    List.singleton_append]

theorem capitalWord_singleton {c : Char} (alphanum : c.isAlphanum = true)
    (noSmall : isLowercase c = false) : capitalWord [c] = [c] := by
  have same := forall_alphanum (fun c => isLowercase c = false → c.toUpper = c) (by decide) alphanum
    noSmall
  rw [capitalWord_cons (List.forall_mem_singleton.mpr alphanum), same, List.map_nil]

theorem toLower_eq_self_iff {c : Char} (alphanum : c.isAlphanum = true) :
    c.toLower = c ↔ isUppercase c = false :=
  forall_alphanum (fun c => c.toLower = c ↔ isUppercase c = false) (by decide) alphanum

/-- A text stays if and only if all capitals that are still to be read begin words.  The part of the
current word that was read already stays. -/
theorem flatMap_capitalWord_eq_iff (mode : CaseMode) {word run : List Char} (some : word ≠ [])
    (wordAlphanum : ∀ c ∈ word, c.isAlphanum = true) (alphanum : ∀ c ∈ run, c.isAlphanum = true)
    (stays : capitalWord word.reverse = word.reverse) :
    (cutAtCapitals mode word run).flatMap capitalWord = word.reverse ++ run ↔ Clear mode run := by
  fun_induction cutAtCapitals mode word run with
  | case1 mode word => simp [stays, Clear]
  | case2 mode word c rest begins inductionHypothesis =>
      obtain ⟨first, others⟩ := List.forall_mem_cons.mp alphanum
      have capital : isUppercase c = true := (Bool.and_eq_true_iff.mp begins).1
      have below := inductionHypothesis (List.cons_ne_nil c [])
        (List.forall_mem_singleton.mpr first) others
        (capitalWord_singleton first (isLowercase_eq_false first capital))
      rw [CaseMode.next_of_isUppercase first capital] at below ⊢
      rw [List.flatMap_cons, stays, List.append_cancel_left_eq, Clear,
        CaseMode.next_of_isUppercase first capital, ← below]
      simp [begins]
  | case3 mode word c rest goesOn inductionHypothesis =>
      obtain ⟨first, others⟩ := List.forall_mem_cons.mp alphanum
      have back : word.reverse ≠ [] := by simpa using some
      have backAlphanum : ∀ d ∈ word.reverse, d.isAlphanum = true := by simpa using wordAlphanum
      have lowered : smallWord [c] = [c.toLower] :=
        smallWord_eq_map (List.forall_mem_singleton.mpr first)
      cases capital : isUppercase c with
      | false =>
          have longer : capitalWord (c :: word).reverse = (c :: word).reverse := by
            rw [List.reverse_cons, capitalWord_append back backAlphanum, stays, lowered,
              (toLower_eq_self_iff first).mpr capital]
          have below := inductionHypothesis (List.cons_ne_nil c word)
            (List.forall_mem_cons.mpr ⟨first, wordAlphanum⟩) others longer
          rw [List.reverse_cons, List.append_assoc, List.singleton_append] at below
          rw [below, Clear]
          simp [capital]
      | true =>
          -- A capital that begins no word becomes small.
          obtain ⟨more, words, cut⟩ := exists_cutAtCapitals_eq (mode.next c) (c :: word) rest
          have changed : ((cutAtCapitals (mode.next c) (c :: word) rest).flatMap capitalWord) ≠
              word.reverse ++ c :: rest := by
            intro same
            rw [cut, List.flatMap_cons, List.reverse_cons, List.append_assoc,
              capitalWord_append back backAlphanum, stays,
              smallWord_append (List.forall_mem_singleton.mpr first)] at same
            have small : c.toLower = c ∧ smallWord more ++ words.flatMap capitalWord = rest := by
              simpa using same
            rw [(toLower_eq_self_iff first).mp small.1] at capital
            cases capital
          have unclear : ¬ Clear mode (c :: rest) := fun clear => goesOn (clear.1 capital)
          exact iff_of_false changed unclear

/-! ### Words of a name -/

/-- The case of the last letter of a text. -/
def caseAfter (text : List Char) : CaseMode :=
  text.foldl CaseMode.next .undecided

/-- A word that begins with a capital is set apart from the text in front of it: the last letter
there is small, or it is a capital and the second character of the word is a small letter. -/
def SetApart (before word : List Char) : Prop :=
  ∀ c ∈ word.head?, isUppercase c = true → beginsWord (caseAfter before) c word.tail = true

instance (before word : List Char) : Decidable (SetApart before word) :=
  Option.decidableForallMem word.head?

/-- Text without capitals is clear, whatever is in front of it. -/
theorem clear_append_iff {mode : CaseMode} {text rest : List Char}
    (small : ∀ c ∈ text, isUppercase c = false) :
    Clear mode (text ++ rest) ↔ Clear (text.foldl CaseMode.next mode) rest := by
  induction text generalizing mode with
  | nil => rfl
  | cons c text inductionHypothesis =>
      obtain ⟨first, others⟩ := List.forall_mem_cons.mp small
      rw [List.cons_append, Clear, inductionHypothesis others, List.foldl_cons]
      simp [first]

/-- A word as it is run together with others: no small letter begins it, and all capitals do. -/
structure Capitalized (word : List Char) : Prop where
  some : word ≠ []
  head : ∀ c ∈ word.head?, isLowercase c = false
  tail : ∀ c ∈ word.tail, isUppercase c = false

theorem capitalized_capitalWord {word : List Char} (some : word ≠ [])
    (alphanum : ∀ c ∈ word, c.isAlphanum = true) : Capitalized (capitalWord word) := by
  obtain ⟨c, rest, rfl⟩ := List.exists_cons_of_ne_nil some
  obtain ⟨first, others⟩ := List.forall_mem_cons.mp alphanum
  have head : isLowercase c.toUpper = false :=
    forall_alphanum (fun c => isLowercase c.toUpper = false) (by decide) first
  have tail : ∀ d ∈ rest, isUppercase d.toLower = false := fun d inside =>
    forall_alphanum (fun d => isUppercase d.toLower = false) (by decide) (others d inside)
  rw [capitalWord_cons alphanum]
  exact ⟨List.cons_ne_nil _ _, by simpa using head, List.forall_mem_map.mpr tail⟩

/-- What follows a word does not begin with a small letter, so whether the word is set apart can be
told without it. -/
theorem clear_capitalized_iff {before word rest : List Char} (capitalized : Capitalized word)
    (next : ∀ c ∈ rest.head?, isLowercase c = false) :
    Clear (caseAfter before) (word ++ rest) ↔
      SetApart before word ∧ Clear (caseAfter (before ++ word)) rest := by
  obtain ⟨some, -, tail⟩ := capitalized
  obtain ⟨c, word, rfl⟩ := List.exists_cons_of_ne_nil some
  have small : ∀ d ∈ word, isUppercase d = false := tail
  have second : beginsWord (caseAfter before) c (word ++ rest) =
      beginsWord (caseAfter before) c word := by
    unfold beginsWord
    congr 3
    cases word with
    | cons d word => rfl
    | nil =>
        cases rest with
        | nil => rfl
        | cons d rest => simpa using next d rfl
  have after : caseAfter (before ++ c :: word) =
      word.foldl CaseMode.next ((caseAfter before).next c) := by
    rw [caseAfter, List.foldl_append, List.foldl_cons]
    rfl
  rw [List.cons_append, Clear, second, clear_append_iff small, after, SetApart]
  simp

/-- Words that are run together are clear if each of them is set apart from those before it. -/
theorem clear_flatMap_iff {before : List Char} {parts : List (List Char)}
    (capitalized : ∀ part ∈ parts, Capitalized (capitalWord part)) :
    Clear (caseAfter before) (parts.flatMap capitalWord) ↔
      ∀ front part rest, parts = front ++ part :: rest →
        SetApart (before ++ front.flatMap capitalWord) (capitalWord part) := by
  induction parts generalizing before with
  | nil => simp [Clear]
  | cons part parts inductionHypothesis =>
      obtain ⟨first, others⟩ := List.forall_mem_cons.mp capitalized
      have next : ∀ c ∈ (parts.flatMap capitalWord).head?, isLowercase c = false := by
        cases parts with
        | nil => simp
        | cons other parts =>
            obtain ⟨some, head, -⟩ := others other (List.mem_cons_self ..)
            rwa [List.flatMap_cons, List.head?_append_of_ne_nil _ some]
      rw [List.flatMap_cons, clear_capitalized_iff first next, inductionHypothesis others]
      constructor
      · intro apart front other rest split
        rcases List.cons_eq_append_iff.mp split with ⟨rfl, same⟩ | ⟨front, rfl, same⟩
        · obtain ⟨rfl, -⟩ := List.cons.inj same
          simpa using apart.1
        · simpa using apart.2 front other rest same
      · intro apart
        refine ⟨by simpa using apart [] part parts rfl, fun front other rest split => ?_⟩
        have behind := apart (part :: front) other rest (by rw [split, List.cons_append])
        simpa using behind

/-- A text that begins with a capitalized word stays if and only if what follows the word is
clear. -/
theorem flatMap_words_eq_iff {first rest : List Char} (capitalized : Capitalized first)
    (alphanum : ∀ c ∈ first ++ rest, c.isAlphanum = true) :
    (words (first ++ rest)).flatMap capitalWord = first ++ rest ↔ Clear (caseAfter first) rest := by
  obtain ⟨some, head, tail⟩ := capitalized
  obtain ⟨c, word, rfl⟩ := List.exists_cons_of_ne_nil some
  have small : ∀ d ∈ word, isUppercase d = false := tail
  rw [List.cons_append] at alphanum ⊢
  obtain ⟨firstAlphanum, others⟩ := List.forall_mem_cons.mp alphanum
  have stays : capitalWord [c].reverse = [c].reverse :=
    capitalWord_singleton firstAlphanum (head c rfl)
  have fixed := flatMap_capitalWord_eq_iff (CaseMode.undecided.next c) (List.cons_ne_nil c [])
    (List.forall_mem_singleton.mpr firstAlphanum) others stays
  rw [List.reverse_singleton, List.singleton_append] at fixed
  rw [words_cons alphanum, fixed, clear_append_iff small]
  rfl

/-- Where the words of an ASCII name are run together with capitals, another spelling changes
nothing if and only if every word but the first one is set apart from the text before it.  A word
that does not begin with a letter always is. -/
theorem pascal_pascal_iff {name : String} (ascii : Ascii name) :
    pascal (pascal name) = pascal name ↔
      ∀ front word rest, words name.toList = front ++ word :: rest → front ≠ [] →
        SetApart (front.flatMap capitalWord) (capitalWord word) := by
  have alphanum : ∀ word ∈ words name.toList, ∀ c ∈ word, c.isAlphanum = true :=
    fun _ => isAlphanum_of_mem_words ascii
  have capitalized : ∀ word ∈ words name.toList, Capitalized (capitalWord word) :=
    fun word member => capitalized_capitalWord (ne_nil_of_mem_words member) (alphanum word member)
  have spelled : ∀ c ∈ (words name.toList).flatMap capitalWord, c.isAlphanum = true := by
    intro c inside
    obtain ⟨word, member, inside⟩ := List.mem_flatMap.mp inside
    exact caseStable_isAlphanum.capitalWord (alphanum word member) c inside
  rw [← String.toList_inj, toList_pascal, toList_pascal]
  generalize words name.toList = parts at alphanum capitalized spelled
  cases parts with
  | nil => simp [words, cutWords]
  | cons first others =>
      obtain ⟨firstCapitalized, othersCapitalized⟩ := List.forall_mem_cons.mp capitalized
      rw [List.flatMap_cons] at spelled ⊢
      rw [flatMap_words_eq_iff firstCapitalized spelled, clear_flatMap_iff othersCapitalized]
      constructor
      · intro apart front word rest split behindFirst
        rcases List.cons_eq_append_iff.mp split with ⟨rfl, -⟩ | ⟨front, rfl, same⟩
        · exact absurd rfl behindFirst
        · exact apart front word rest same
      · intro apart front word rest split
        exact apart (first :: front) word rest (by rw [split, List.cons_append])
          (List.cons_ne_nil first front)

/-- The second word of `get_feature` is set apart from the first, that of `a_b` is not. -/
theorem pascal_pascal_iff_getFeature :
    Ascii "get_feature" ∧ pascal (pascal "get_feature") = pascal "get_feature" ∧
      Ascii "a_b" ∧ pascal (pascal "a_b") ≠ pascal "a_b" := by
  have twoWords : words "get_feature".toList = ["get".toList, "feature".toList] := by decide
  refine ⟨by decide, (pascal_pascal_iff (by decide)).mpr ?_, by decide, fun same => ?_⟩
  · intro front word rest split some
    rw [twoWords] at split
    match front with
    | [] => exact absurd rfl some
    | [first] =>
        obtain ⟨rfl, rfl, rfl⟩ : "get".toList = first ∧ "feature".toList = word ∧ [] = rest := by
          simpa using split
        decide
    | first :: second :: front => simp at split
  · have apart := (pascal_pascal_iff (by decide)).mp same ["a".toList] "b".toList [] (by decide)
      (by decide)
    exact absurd apart (by decide)

/-- Two words of one letter become one word. -/
theorem pascal_of_single_letters : ¬ ∀ name, Ascii name → pascal (pascal name) = pascal name :=
  fun idempotent => absurd (idempotent "a_b" (by decide)) (by decide)

end RpcBindings.Name
