/-
Module: RpcBindings.Proofs.Layout.Brackets
Purpose: Texts whose brackets match, and layouts that write such texts.
Main exports: Layout.scan, Layout.WellBracketed, Layout.brackets, Layout.Matched,
  Layout.wellBracketed_iff, Layout.Tidy, Layout.Tidy.block, Layout.wellBracketed_renderAt
-/
import Mathlib.Data.List.Basic
import RpcBindings.Proofs.Layout.Rendering

namespace RpcBindings.Layout

/-!
A reader goes through a text once and keeps the brackets that are open, each by the one that closes
it.  Brackets in comments and in quoted text count like all others.
-/

/-! ### Scanning -/

/-- The bracket that closes an opening bracket. -/
def closerOf? : Char → Option Char
  | '(' => some ')'
  | '[' => some ']'
  | '\x7b' => some '\x7d'
  | _ => none

def isCloser (c : Char) : Bool :=
  c == ')' || c == ']' || c == '\x7d'

/-- Read one character.  `awaited` are the brackets that close those which are open, the innermost
first.  There is no result if a closing bracket is not the awaited one. -/
def readChar (awaited : List Char) (c : Char) : Option (List Char) :=
  match closerOf? c with
  | some closer => some (closer :: awaited)
  | none =>
      if isCloser c then
        match awaited with
        | [] => none
        | innermost :: outer => if c = innermost then some outer else none
      else some awaited

/-- Go through a text, with some brackets open at its beginning. -/
def scan (awaited text : List Char) : Option (List Char) :=
  text.foldlM readChar awaited

/-- Every closing bracket closes the latest one that is open, and none stays open. -/
def WellBracketed (text : String) : Prop :=
  scan [] text.toList = some []

/-- The second part of a text is read with the brackets that the first part leaves open. -/
theorem scan_append (awaited first second : List Char) :
    scan awaited (first ++ second) = (scan awaited first).bind fun left => scan left second :=
  List.foldlM_append

theorem scan_cons (awaited : List Char) (c : Char) (rest : List Char) :
    scan awaited (c :: rest) = (readChar awaited c).bind fun left => scan left rest :=
  List.foldlM_cons

/-- What is awaited further outside does not matter to a character that can be read without it. -/
theorem readChar_outer {awaited left : List Char} {c : Char} (read : readChar awaited c = some left)
    (outer : List Char) : readChar (awaited ++ outer) c = some (left ++ outer) := by
  unfold readChar at read ⊢
  cases opens : closerOf? c with
  | some closer =>
      simp only [opens] at read ⊢
      obtain rfl := Option.some.inj read
      rfl
  | none =>
      simp only [opens] at read ⊢
      by_cases closes : isCloser c
      · rw [if_pos closes] at read ⊢
        cases awaited with
        | nil => cases read
        | cons innermost others =>
            simp only [List.cons_append] at read ⊢
            split at read
            · next same =>
              obtain rfl := Option.some.inj read
              rw [if_pos same]
            · cases read
      · rw [if_neg closes] at read ⊢
        obtain rfl := Option.some.inj read
        rfl

theorem scan_outer {awaited text left : List Char} (scanned : scan awaited text = some left)
    (outer : List Char) : scan (awaited ++ outer) text = some (left ++ outer) := by
  induction text generalizing awaited with
  | nil =>
      obtain rfl := Option.some.inj scanned
      rfl
  | cons c rest inductionHypothesis =>
      rw [scan_cons, Option.bind_eq_some_iff] at scanned
      obtain ⟨next, read, scanned⟩ := scanned
      rw [scan_cons, readChar_outer read, Option.bind_some]
      exact inductionHypothesis scanned

/-! ### Brackets alone -/

def isBracket (c : Char) : Bool :=
  (closerOf? c).isSome || isCloser c

/-- The brackets of a text, in their order. -/
def brackets (text : String) : List Char :=
  text.toList.filter isBracket

/-- What is no bracket is passed over. -/
theorem scan_filter (awaited text : List Char) :
    scan awaited (text.filter isBracket) = scan awaited text := by
  induction text generalizing awaited with
  | nil => rfl
  | cons c rest inductionHypothesis =>
      by_cases bracket : isBracket c = true
      · rw [List.filter_cons_of_pos bracket, scan_cons, scan_cons]
        simp only [inductionHypothesis]
      · have plain : closerOf? c = none ∧ isCloser c = false := by simpa [isBracket] using bracket
        have passed : readChar awaited c = some awaited := by
          unfold readChar
          rw [plain.1]
          exact if_neg (by simp [plain.2])
        rw [List.filter_cons_of_neg bracket, scan_cons, passed, inductionHypothesis]
        rfl

/-- Brackets that match among themselves, whatever is open around them. -/
def Matched (word : List Char) : Prop :=
  scan [] word = some []

instance : DecidablePred Matched := fun _ =>
  inferInstanceAs (Decidable (_ = _))

theorem wellBracketed_iff {text : String} : WellBracketed text ↔ Matched (brackets text) := by
  rw [WellBracketed, Matched, brackets, scan_filter]

namespace Matched

variable {word other : List Char}

theorem nil : Matched [] := rfl

theorem scan_eq (matched : Matched word) (awaited : List Char) :
    scan awaited word = some awaited :=
  scan_outer matched awaited

theorem append (one : Matched word) (two : Matched other) : Matched (word ++ other) := by
  rw [Matched, scan_append, one.scan_eq]
  exact two

theorem flatMap {α : Type} {items : List α} {wordOf : α → List Char}
    (each : ∀ item ∈ items, Matched (wordOf item)) : Matched (items.flatMap wordOf) := by
  induction items with
  | nil => exact nil
  | cons item items inductionHypothesis =>
      obtain ⟨first, others⟩ := List.forall_mem_cons.mp each
      rw [List.flatMap_cons]
      exact first.append (inductionHypothesis others)

/-- Brackets that match may stand anywhere among brackets that match without them. -/
theorem insert {front back : List Char} (around : Matched (front ++ back))
    (inner : Matched word) : Matched (front ++ (word ++ back)) := by
  rw [Matched, scan_append] at around ⊢
  rw [← around]
  refine congrArg _ (funext fun left => ?_)
  rw [scan_append, inner.scan_eq]
  rfl

end Matched

/-! ### Texts -/

@[simp] theorem brackets_append (first second : String) :
    brackets (first ++ second) = brackets first ++ brackets second := by
  rw [brackets, String.toList_append, List.filter_append]
  rfl

/-- The brackets of a text that is written out are found without taking the text apart. -/
theorem brackets_ofList (chars : List Char) :
    brackets (String.ofList chars) = chars.filter isBracket := by
  rw [brackets, String.toList_ofList]

theorem brackets_join (texts : List String) :
    brackets (String.join texts) = texts.flatMap brackets := by
  induction texts with
  | nil => rfl
  | cons text texts inductionHypothesis =>
      rw [String.join_cons, brackets_append, inductionHypothesis, List.flatMap_cons]

namespace WellBracketed

theorem of_brackets_eq_nil {text : String} (none : brackets text = []) : WellBracketed text :=
  wellBracketed_iff.mpr (none ▸ Matched.nil)

/-- A text that is written out is checked where it stands. -/
theorem literal {chars : List Char}
    (matched : Matched (chars.filter isBracket)) :
    WellBracketed (String.ofList chars) :=
  wellBracketed_iff.mpr (brackets_ofList chars ▸ matched)

theorem append {first second : String} (one : WellBracketed first) (two : WellBracketed second) :
    WellBracketed (first ++ second) := by
  rw [wellBracketed_iff, brackets_append]
  exact (wellBracketed_iff.mp one).append (wellBracketed_iff.mp two)

theorem join {texts : List String} (each : ∀ text ∈ texts, WellBracketed text) :
    WellBracketed (String.join texts) := by
  rw [wellBracketed_iff, brackets_join]
  exact Matched.flatMap fun text member => wellBracketed_iff.mp (each text member)

/-- Texts with an empty line between each two of them. -/
theorem intercalate {texts : List String} (each : ∀ text ∈ texts, WellBracketed text) :
    WellBracketed ("\n".intercalate texts) := by
  induction texts with
  | nil => exact of_brackets_eq_nil rfl
  | cons text texts inductionHypothesis =>
      obtain ⟨first, others⟩ := List.forall_mem_cons.mp each
      cases texts with
      | nil =>
          rw [String.intercalate_singleton]
          exact first
      | cons next texts =>
          rw [String.intercalate_cons_cons]
          exact (first.append (of_brackets_eq_nil (by decide))).append (inductionHypothesis others)

/-- Commas between the items of a list do not matter. -/
theorem withCommas {items : List String} (each : ∀ item ∈ items, WellBracketed item) :
    ∀ text ∈ Layout.withCommas items, WellBracketed text := by
  intro text member
  have comma : WellBracketed "," := of_brackets_eq_nil (by decide)
  obtain ⟨item, itemMember, rfl | rfl⟩ := exists_of_mem_withCommas member
  · exact each text itemMember
  · exact (each item itemMember).append comma

end WellBracketed

/-! ### Layouts -/

/-- The brackets that a step writes, whatever its level. -/
def Step.brackets : Step → List Char
  | .line text | .enter text | .leave text | .turn text | .splice text => Layout.brackets text
  | .lines texts => texts.flatMap Layout.brackets
  | .blank | .outdent => []

theorem flatMap_brackets_block (header : String) (body : List Step) (after : String) :
    (block header body after).flatMap Step.brackets =
      brackets header ++
        ('\x7b' :: (body.flatMap Step.brackets ++ ('\x7d' :: brackets after))) := by
  have opening : brackets "\x7b" = ['\x7b'] := by decide
  have closing : brackets "\x7d" = ['\x7d'] := by decide
  simp [block, Step.brackets, opening, closing]

/-- Steps that write brackets which match among themselves. -/
def Tidy (steps : List Step) : Prop :=
  Matched (steps.flatMap Step.brackets)

namespace Tidy

variable {first second body : List Step}

theorem nil : Tidy [] := rfl

theorem blank : Tidy [.blank] := rfl

theorem append (one : Tidy first) (two : Tidy second) : Tidy (first ++ second) := by
  rw [Tidy, List.flatMap_append]
  exact Matched.append one two

theorem cons {step : Step} (one : Tidy [step]) (others : Tidy second) : Tidy (step :: second) :=
  one.append others

theorem flatMap {α : Type} {items : List α} {stepsOf : α → List Step}
    (each : ∀ item ∈ items, Tidy (stepsOf item)) : Tidy (items.flatMap stepsOf) := by
  rw [Tidy, List.flatMap_assoc]
  exact Matched.flatMap each

theorem map {α : Type} {items : List α} {stepOf : α → Step}
    (each : ∀ item ∈ items, Tidy [stepOf item]) : Tidy (items.map stepOf) := by
  rw [List.map_eq_flatMap]
  exact flatMap each

theorem line {text : String} (matched : WellBracketed text) : Tidy [.line text] := by
  rw [Tidy, List.flatMap_singleton]
  exact wellBracketed_iff.mp matched

/-- A line that is written out. -/
theorem literal {chars : List Char} (matched : Matched (chars.filter isBracket)) :
    Tidy [.line (String.ofList chars)] :=
  line (.literal matched)

theorem splice {text : String} (matched : WellBracketed text) : Tidy [.splice text] :=
  line matched

theorem lines {texts : List String} (each : ∀ text ∈ texts, WellBracketed text) :
    Tidy [.lines texts] := by
  rw [Tidy, List.flatMap_singleton]
  exact Matched.flatMap fun text member => wellBracketed_iff.mp (each text member)

/-- Brackets that match may stand between steps of which the brackets match without them. -/
theorem insert (around : Tidy (first ++ second)) (inner : Tidy body) :
    Tidy (first ++ (body ++ second)) := by
  rw [Tidy, List.flatMap_append] at around ⊢
  rw [List.flatMap_append]
  exact Matched.insert around inner

theorem block {header after : String} (opening : WellBracketed header) (inner : Tidy body)
    (closing : WellBracketed after) : Tidy (block header body after) := by
  have braces : Matched (['\x7b'] ++ '\x7d' :: []) := by decide
  have enclosed := (Matched.insert braces inner).append (wellBracketed_iff.mp closing)
  rw [Tidy, flatMap_brackets_block]
  simpa using (wellBracketed_iff.mp opening).append enclosed

end Tidy

section Layouts

variable {unit : String} (blank : Layout.brackets unit = [])

include blank

theorem brackets_lineAt (level : Nat) (text : String) :
    brackets (lineAt unit level text) = brackets text := by
  have indented : brackets (indentation unit level) = [] := by
    rw [indentation, brackets_join, List.flatMap_eq_nil_iff]
    intro part member
    rw [List.eq_of_mem_replicate member, blank]
  unfold lineAt
  split
  · next empty =>
    rw [empty]
    decide
  · have ending : brackets "\n" = [] := by decide
    rw [brackets_append, brackets_append, indented, ending, List.append_nil, List.nil_append]

theorem brackets_text (level : Nat) (step : Step) :
    brackets (step.text unit level) = step.brackets := by
  have ending : brackets "\n" = [] := by decide
  cases step with
  | line text => exact brackets_lineAt blank level text
  | enter text => exact brackets_lineAt blank level text
  | leave text => exact brackets_lineAt blank (level - 1) text
  | turn text => exact brackets_lineAt blank (level - 1) text
  | splice text => rfl
  | blank => exact ending
  | outdent => rfl
  | lines texts =>
      simp only [Step.text, Step.brackets, brackets_join, List.flatMap_map,
        brackets_lineAt blank]

/-- Indentation does not matter for brackets. -/
theorem brackets_renderAt (level : Nat) (steps : List Step) :
    brackets (renderAt unit level steps) = steps.flatMap Step.brackets := by
  induction steps generalizing level with
  | nil => rfl
  | cons step steps inductionHypothesis =>
      rw [renderAt_cons, brackets_append, brackets_text blank, inductionHypothesis,
        List.flatMap_cons]

theorem wellBracketed_renderAt {steps : List Step} (tidy : Tidy steps) (level : Nat) :
    WellBracketed (renderAt unit level steps) := by
  rw [wellBracketed_iff, brackets_renderAt blank]
  exact tidy

end Layouts

end RpcBindings.Layout
