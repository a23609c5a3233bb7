/-
Module: RpcBindings.Proofs.Name.Letters
Purpose: The characters with which the words of names are spelled.
Main exports: Name.Letterlike, Name.caseStable_isLetterlike, Name.letterlike_pascal,
  Name.Letterlike.trim_eq
-/
import RpcBindings.Proofs.Name.CaseClosed
import RpcBindings.Proofs.Table

namespace RpcBindings.Name

open Unicode

/-!
Words are cut out of a name before their letters change case, so a spelling holds letters and
numbers, what becomes of these in the other case, and separators.  None of the former is blank or a
mark of punctuation in ASCII, and so words that were joined can be told apart again.
-/

/-- In ASCII letters and digits, and above it whatever is not blank. -/
def isLetterlike (c : Char) : Bool :=
  if c.toNat < 0x80 then c.isAlphanum else !isWhiteSpace c

def Letterlike (text : String) : Prop :=
  ∀ c ∈ text.toList, isLetterlike c = true

instance : DecidablePred Letterlike := fun text =>
  List.decidableBAll (fun c => isLetterlike c = true) text.toList

/-! ### Tables -/

/-- Two runs that do not meet. -/
def apart (first second : Span) : Bool :=
  Nat.blt first.last second.first || Nat.blt second.last first.first

theorem lt_or_lt_of_apart {first second : Span} (distinct : apart first second = true) :
    first.last < second.first ∨ second.last < first.first := by
  rwa [apart, Bool.or_eq_true, Nat.blt_eq, Nat.blt_eq] at distinct

/-- The range from a code point to another one, none of which is blank. -/
def noBlanks (low high : Nat) : Bool :=
  whiteSpaceSpans.all (apart ⟨low, high, 1⟩)

theorem covers_eq_false_of_noBlanks {low high code : Nat} (clear : noBlanks low high = true)
    (above : low ≤ code) (below : code ≤ high) : covers whiteSpaceSpans code = false := by
  rw [covers, List.any_eq_false]
  intro run member contains
  have bounds := Span.bounds_of_contains contains
  have distinct := lt_or_lt_of_apart (List.all_eq_true.mp clear run member)
  simp only at distinct
  omega

/-- Letters and numbers are not blank. -/
theorem noBlanks_alphanumericSpans :
    (alphanumericSpans.all fun span => noBlanks span.first span.last) = true := by
  decide +kernel

theorem isLetterlike_ofNat {code : Nat} (valid : code.isValidChar) (above : 0x80 ≤ code)
    (clear : covers whiteSpaceSpans code = false) : isLetterlike (Char.ofNat code) = true := by
  have same : (Char.ofNat code).toNat = code := by
    rw [Char.ofNat, dif_pos valid]
    rfl
  rw [isLetterlike, same, if_neg (Nat.not_lt.mpr above), isWhiteSpace, same, clear]
  rfl

/-- The counterparts of a run are letterlike: there is one which is, or they make up a range above
ASCII that has no blanks. -/
def staysLetterlike (shift : CaseShift) : Bool :=
  let low := ((shift.span.first : Int) + shift.distance).toNat
  let high := ((shift.span.last : Int) + shift.distance).toNat
  (Nat.beq low high && isLetterlike (Char.ofNat low)) ||
    (Nat.ble 0x80 low && (Nat.blt high 0xD800 || Nat.blt 0xDFFF low && Nat.blt high 0x110000) &&
      noBlanks low high)

theorem isLetterlike_of_shifted {table : List CaseShift}
    (stays : table.all staysLetterlike = true) {code : Nat} {c : Char}
    (found : shifted table code = some c) : isLetterlike c = true := by
  obtain ⟨shift, first, rfl⟩ := Option.map_eq_some_iff.mp found
  have contains : shift.span.contains code = true := by simpa using List.find?_some first
  have bounds := Span.bounds_of_contains contains
  have letterlike := List.all_eq_true.mp stays shift (List.mem_of_find?_eq_some first)
  simp only [staysLetterlike, Bool.or_eq_true, Bool.and_eq_true, Nat.beq_eq, Nat.ble_eq,
    Nat.blt_eq] at letterlike
  rcases letterlike with ⟨one, letterlike⟩ | ⟨⟨above, valid⟩, clear⟩
  · have only : ((code : Int) + shift.distance).toNat =
        ((shift.span.first : Int) + shift.distance).toNat := by omega
    rwa [only]
  · refine isLetterlike_ofNat ?_ (by omega) (covers_eq_false_of_noBlanks clear ?_ ?_)
    · rcases valid with below | ⟨beyond, below⟩
      · left
        omega
      · right
        constructor <;> omega
    · omega
    · omega

theorem staysLetterlike_lowerShifts : lowerShifts.all staysLetterlike = true := by
  decide +kernel

theorem staysLetterlike_upperShifts : upperShifts.all staysLetterlike = true := by
  decide +kernel

theorem isLetterlike_upperExpansions :
    ∀ entry ∈ upperExpansions, ∀ code ∈ entry.2, isLetterlike (Char.ofNat code) = true := by
  decide +kernel

/-! ### Characters -/

theorem isAlphanum_of_code :
    ∀ code < 0x80, (Char.ofNat code).isAlphanum = true →
      (Char.ofNat code).toLower.isAlphanum = true ∧
        (Char.ofNat code).toUpper.isAlphanum = true := by
  decide

theorem caseStable_isAlphanum : CaseStable Char.isAlphanum :=
  (caseClosed_of_codes (fun _ => toNat_lt_of_isAlphanum) isAlphanum_of_code).stable

theorem isLetterlike_of_isAlphanum {c : Char} (alphanumeric : c.isAlphanum = true) :
    isLetterlike c = true := by
  rw [isLetterlike, if_pos (toNat_lt_of_isAlphanum alphanumeric)]
  exact alphanumeric

theorem isAlphanum_of_ascii {c : Char} (ascii : c.toNat < 0x80)
    (letterlike : isLetterlike c = true) : c.isAlphanum = true := by
  rwa [isLetterlike, if_pos ascii] at letterlike

theorem isLetterlike_of_isAlphanumeric {c : Char} (alphanumeric : isAlphanumeric c = true) :
    isLetterlike c = true := by
  unfold isLetterlike
  unfold isAlphanumeric at alphanumeric
  split
  · next ascii => rwa [if_pos ascii] at alphanumeric
  · next above =>
    rw [if_neg above] at alphanumeric
    obtain ⟨span, member, contains⟩ := List.any_eq_true.mp alphanumeric
    have bounds := Span.bounds_of_contains contains
    have clear := List.all_eq_true.mp noBlanks_alphanumericSpans span member
    rw [isWhiteSpace, covers_eq_false_of_noBlanks clear bounds.1 bounds.2]
    rfl

theorem isWhiteSpace_eq_false {c : Char} (letterlike : isLetterlike c = true) :
    isWhiteSpace c = false := by
  by_cases ascii : c.toNat < 0x80
  · have word := isAlphanum_of_ascii ascii letterlike
    exact forall_ascii (fun c => c.isAlphanum = true → isWhiteSpace c = false) (by decide) ascii word
  · rw [isLetterlike, if_neg ascii, Bool.not_eq_true'] at letterlike
    exact letterlike

/-- Letterlike characters have letterlike counterparts, in ASCII because letters have letters, and
above it by the tables. -/
theorem caseStable_isLetterlike : CaseStable isLetterlike where
  lower c held := by
    by_cases ascii : c.toNat < 0x80
    · intro d member
      have word := isAlphanum_of_ascii ascii held
      exact isLetterlike_of_isAlphanum (caseStable_isAlphanum.lower c word d member)
    · rw [toLower, if_neg ascii]
      split
      · rw [List.forall_mem_cons, List.forall_mem_singleton]
        exact ⟨rfl, rfl⟩
      · rw [List.forall_mem_singleton]
        cases found : shifted lowerShifts c.toNat with
        | none => exact held
        | some d => exact isLetterlike_of_shifted staysLetterlike_lowerShifts found
  upper c held := by
    by_cases ascii : c.toNat < 0x80
    · intro d member
      have word := isAlphanum_of_ascii ascii held
      exact isLetterlike_of_isAlphanum (caseStable_isAlphanum.upper c word d member)
    · rw [toUpper, if_neg ascii]
      split
      · next codes expanded =>
        intro d member
        obtain ⟨code, inside, rfl⟩ := List.mem_map.mp member
        have entry := Table.mem_of_lookup expanded
        exact isLetterlike_upperExpansions (c.toNat, codes) entry code inside
      · rw [List.forall_mem_singleton]
        cases found : shifted upperShifts c.toNat with
        | none => exact held
        | some d => exact isLetterlike_of_shifted staysLetterlike_upperShifts found
  finalSigma _ := by decide

theorem letterlike_pascal (name : String) : Letterlike (pascal name) :=
  caseStable_isLetterlike.pascal fun _ _ => isLetterlike_of_isAlphanumeric

theorem Letterlike.capitals {text : String} (letterlike : Letterlike text) :
    Letterlike (Unicode.capitals text) :=
  caseStable_isLetterlike.capitals letterlike

/-- There is nothing to be trimmed. -/
theorem Letterlike.trim_eq {text : String} (letterlike : Letterlike text) :
    Text.trim text = text := by
  rw [← String.toList_inj, Text.toList_trim]
  exact Text.trimBlanks_eq_self fun c member => isWhiteSpace_eq_false (letterlike c member)

end RpcBindings.Name
