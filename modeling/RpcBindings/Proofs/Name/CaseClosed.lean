/-
Module: RpcBindings.Proofs.Name.CaseClosed
Purpose: Kinds of characters that no change of letter case leaves, and names made of them.
Main exports: Name.CaseStable, Name.CaseClosed, Name.flatten_words, Name.CaseStable.camel,
  Name.CaseStable.pascal, Name.CaseStable.separated, Name.CaseStable.decapitalize,
  Name.CaseStable.capitals
-/
import Mathlib.Data.List.Flatten
import RpcBindings.Name.Spelling

namespace RpcBindings.Name

open Unicode

/-!
What is spelled from a name has the characters of the name, some of them in the other case, and
separators between words.  A kind of characters that holds the other case of its letters therefore
holds the characters of all spellings, if it holds the separator.  For a kind of ASCII characters
the other case is the one that the standard library knows.
-/

/-- A kind of characters with whatever becomes of them in either case. -/
structure CaseStable (holds : Char → Bool) : Prop where
  lower : ∀ c, holds c = true → ∀ d ∈ toLower c, holds d = true
  upper : ∀ c, holds c = true → ∀ d ∈ toUpper c, holds d = true
  finalSigma : holds 'Σ' = true → holds 'ς' = true

/-- A kind of ASCII characters with the other case of each of its letters. -/
structure CaseClosed (holds : Char → Bool) : Prop where
  ascii : ∀ c, holds c = true → c.toNat < 0x80
  lower : ∀ c, holds c = true → holds c.toLower = true
  upper : ∀ c, holds c = true → holds c.toUpper = true

theorem CaseClosed.stable {holds : Char → Bool} (closed : CaseClosed holds) :
    CaseStable holds where
  lower c held := by
    rw [toLower_of_ascii (closed.ascii c held), List.forall_mem_singleton]
    exact closed.lower c held
  upper c held := by
    rw [toUpper_of_ascii (closed.ascii c held), List.forall_mem_singleton]
    exact closed.upper c held
  finalSigma held := absurd (closed.ascii 'Σ' held) (by decide)

/-- The ASCII characters can be gone through by their codes. -/
theorem forall_ascii (holds : Char → Prop) (codes : ∀ code < 0x80, holds (Char.ofNat code))
    {c : Char} (ascii : c.toNat < 0x80) : holds c := by
  have held := codes c.toNat ascii
  rwa [Char.ofNat_toNat] at held

/-- For a kind of ASCII characters it is enough to look at the codes. -/
theorem caseClosed_of_codes {holds : Char → Bool} (ascii : ∀ c, holds c = true → c.toNat < 0x80)
    (codes : ∀ code < 0x80, holds (Char.ofNat code) = true →
      holds (Char.ofNat code).toLower = true ∧ holds (Char.ofNat code).toUpper = true) :
    CaseClosed holds where
  ascii := ascii
  lower c held := (forall_ascii
    (fun c => holds c = true → holds c.toLower = true ∧ holds c.toUpper = true) codes
    (ascii c held) held).1
  upper c held := (forall_ascii
    (fun c => holds c = true → holds c.toLower = true ∧ holds c.toUpper = true) codes
    (ascii c held) held).2

theorem toNat_lt_of_isAlphanum {c : Char} (alphanumeric : c.isAlphanum = true) :
    c.toNat < 0x80 := by
  have kinds : ((c.isUpper || c.isLower) || c.isDigit) = true := alphanumeric
  rw [Bool.or_eq_true, Bool.or_eq_true] at kinds
  have below {last : Char} (bound : c.val ≤ last.val) (ascii : last.toNat < 0x80) :
      c.toNat < 0x80 := Nat.lt_of_le_of_lt bound ascii
  rcases kinds with (upper | lower) | digit
  · have range : c.val ≥ 'A'.val ∧ c.val ≤ 'Z'.val := of_decide_eq_true upper
    exact below range.2 (by decide)
  · exact below (of_decide_eq_true (Bool.and_eq_true_iff.mp lower).2) (by decide)
  · exact below (of_decide_eq_true (Bool.and_eq_true_iff.mp digit).2) (by decide)

/-! ### Words -/

/-- Splitting a list removes the separators and nothing else. -/
theorem flatten_splitOnP (separates : Char → Bool) (chars : List Char) :
    (chars.splitOnP separates).flatten = chars.filter fun c => !separates c := by
  induction chars with
  | nil => rfl
  | cons c chars inductionHypothesis =>
      rw [List.splitOnP_cons_eq_if_modifyHead, List.filter_cons, ← inductionHypothesis]
      cases separated : separates c with
      | true => simp
      | false =>
          obtain ⟨part, parts, split⟩ :=
            List.exists_cons_of_ne_nil (List.splitOnP_ne_nil separates chars)
          simp [split]

/-- The words of a name are made of its letters and numbers. -/
theorem flatten_words (name : List Char) :
    (words name).flatten = name.filter Unicode.isAlphanumeric := by
  have cut (part : List Char) : (cutWords .undecided [] part).flatten = part := by
    by_cases empty : part = []
    · rw [empty]
      rfl
    · exact flatten_cutWords .undecided [] part empty
  have joined (parts : List (List Char)) :
      (parts.flatMap (cutWords .undecided [])).flatten = parts.flatten := by
    induction parts with
    | nil => rfl
    | cons part parts inductionHypothesis =>
        rw [List.flatMap_cons, List.flatten_append, cut, inductionHypothesis, List.flatten_cons]
  rw [words, joined, flatten_splitOnP]
  simp

theorem holds_of_mem_words {holds : Char → Bool} {name word : List Char}
    (held : ∀ c ∈ name, isAlphanumeric c = true → holds c = true) (member : word ∈ words name) :
    ∀ c ∈ word, holds c = true := by
  intro c inside
  have kept : c ∈ (words name).flatten := List.mem_flatten.mpr ⟨word, member, inside⟩
  rw [flatten_words] at kept
  obtain ⟨ofName, alphanumeric⟩ := List.mem_filter.mp kept
  exact held c ofName alphanumeric

namespace CaseStable

variable {holds : Char → Bool} (stable : CaseStable holds)

include stable

theorem smallWord {word : List Char} (held : ∀ c ∈ word, holds c = true) :
    ∀ c ∈ Name.smallWord word, holds c = true := by
  fun_induction Name.smallWord word with
  | case1 => exact held
  | case2 =>
      rw [List.forall_mem_singleton]
      exact stable.finalSigma (held 'Σ' (List.mem_singleton_self _))
  | case3 c other => exact stable.lower c (held c (List.mem_singleton_self _))
  | case4 c next rest inductionHypothesis =>
      obtain ⟨first, others⟩ := List.forall_mem_cons.mp held
      exact List.forall_mem_append.mpr ⟨stable.lower c first, inductionHypothesis others⟩

theorem capitalWord {word : List Char} (held : ∀ c ∈ word, holds c = true) :
    ∀ c ∈ Name.capitalWord word, holds c = true := by
  cases word with
  | nil => exact held
  | cons c rest =>
      obtain ⟨first, others⟩ := List.forall_mem_cons.mp held
      exact List.forall_mem_append.mpr ⟨stable.upper c first, stable.smallWord others⟩

/-! ### Names -/

section Names

variable {name : String} (held : ∀ c ∈ name.toList, isAlphanumeric c = true → holds c = true)

include held

theorem camel : ∀ c ∈ (Name.camel name).toList, holds c = true := by
  unfold Name.camel
  split
  · exact fun c member => absurd member (by simp)
  · next first others found =>
    have each {word : List Char} (member : word ∈ first :: others) :
        ∀ c ∈ word, holds c = true :=
      holds_of_mem_words held (found ▸ member)
    rw [String.toList_ofList, List.forall_mem_append]
    refine ⟨stable.smallWord (each (List.mem_cons_self ..)), fun c member => ?_⟩
    obtain ⟨other, otherMember, inside⟩ := List.mem_flatMap.mp member
    exact stable.capitalWord (each (List.mem_cons_of_mem _ otherMember)) c inside

theorem pascal : ∀ c ∈ (Name.pascal name).toList, holds c = true := by
  rw [toList_pascal]
  intro c member
  obtain ⟨word, wordMember, inside⟩ := List.mem_flatMap.mp member
  exact stable.capitalWord (holds_of_mem_words held wordMember) c inside

theorem smallWords : ∀ part ∈ (words name.toList).map Name.smallWord, ∀ c ∈ part,
    holds c = true := by
  intro part member
  obtain ⟨word, wordMember, rfl⟩ := List.mem_map.mp member
  exact stable.smallWord (holds_of_mem_words held wordMember)

/-- Between the words stands the separator, which must be of the same kind. -/
theorem separated {separator : Char} (separates : holds separator = true) :
    ∀ c ∈ Name.separated separator name.toList, holds c = true := by
  have parts := stable.smallWords held
  unfold Name.separated
  generalize (Name.words name.toList).map Name.smallWord = words at parts
  induction words with
  | nil => simp
  | cons word words inductionHypothesis =>
      obtain ⟨first, others⟩ := List.forall_mem_cons.mp parts
      cases words with
      | nil => simpa using first
      | cons next words =>
          rw [List.intercalate_cons_cons, List.forall_mem_append, List.forall_mem_append]
          exact ⟨⟨first, by simpa using separates⟩, inductionHypothesis others⟩

end Names

theorem capitals {name : String} (held : ∀ c ∈ name.toList, holds c = true) :
    ∀ c ∈ (Unicode.capitals name).toList, holds c = true := by
  rw [toList_capitals]
  intro c member
  obtain ⟨letter, letterMember, inside⟩ := List.mem_flatMap.mp member
  exact stable.upper letter (held letter letterMember) c inside

theorem lowerRun {within : Bool} {chars : List Char} (held : ∀ c ∈ chars, holds c = true) :
    ∀ c ∈ Name.lowerRun within chars, holds c = true := by
  fun_induction Name.lowerRun within chars with
  | case1 => exact held
  | case2 within c capital => exact stable.lower c (held c (List.mem_singleton_self _))
  | case3 within c capital next rest ends => exact held
  | case4 within c capital next rest goesOn inductionHypothesis =>
      obtain ⟨first, others⟩ := List.forall_mem_cons.mp held
      exact List.forall_mem_append.mpr ⟨stable.lower c first, inductionHypothesis others⟩
  | case5 within c rest small => exact held

theorem decapitalize {name : String} (held : ∀ c ∈ name.toList, holds c = true) :
    ∀ c ∈ (Name.decapitalize name).toList, holds c = true := by
  rw [toList_decapitalize]
  exact stable.lowerRun held

end CaseStable

end RpcBindings.Name
