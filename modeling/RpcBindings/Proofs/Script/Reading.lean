/-
Module: RpcBindings.Proofs.Script.Reading
Purpose: Reading from the lines of a script which names it binds at its top level.
Main exports: Script.boundNames, Script.Tells, Script.Statement.Clear.tells,
  Script.Binds.boundNames_eq
-/
import Mathlib.Data.List.TakeWhile
import RpcBindings.Proofs.Layout.Indentation
import RpcBindings.Proofs.Script.Frames
import RpcBindings.Proofs.Script.Statements

namespace RpcBindings.Script

open Layout

/-!
A reader knows the lines of a script and nothing else.  A line that binds a name begins with one of
a few texts, and the name stands behind it.  The names of an import have a line each, up to the one
with the closing brace.  All other lines lie inside a group, or they bind nothing.
-/

/-! ### The reader -/

/-- The name with which a text begins. -/
def leadingName (text : List Char) : String :=
  String.ofList (text.takeWhile Name.isPortable)

/-- What stands on a line in front of the name that it binds. -/
def openings : List String :=
  ["export type ", "export const ", "export function ", "const ", "import \x7b"]

/-- The name that a line binds. -/
def bound? (line : String) : Option String :=
  openings.findSome? fun opening => (line.toList.dropPrefix? opening.toList).map leadingName

/-- The lines above the names that are imported together. -/
def listOpenings : List String :=
  ["import \x7b", "import type \x7b"]

/-- The line above the names that are exported together.  They are bound elsewhere. -/
def exportOpening : String := "export type \x7b"

/-- The names that lines bind, given whether they go on with a list of imported names. -/
def namesIn : Bool → List String → List String
  | _, [] => []
  | true, line :: lines =>
      if line.toList.head? = some '\x7d' then namesIn false lines
      else leadingName (line.toList.dropWhile fun c => c == ' ') :: namesIn true lines
  | false, line :: lines =>
      if line ∈ listOpenings then namesIn true lines
      else if line = exportOpening then namesIn false lines
      else (bound? line).toList ++ namesIn false lines

/-- The names that a script binds at its top level. -/
def boundNames (script : String) : List String :=
  namesIn false (fullLines script)

/-! ### Single lines -/

/-- A name ends where a character cannot belong to one. -/
theorem leadingName_append {name : String} (portable : Name.Portable name) {c : Char}
    (ends : Name.isPortable c = false) (rest : List Char) :
    leadingName (name.toList ++ c :: rest) = name := by
  rw [leadingName, List.takeWhile_append_of_pos portable,
    List.takeWhile_cons_of_neg (by simp [ends]), List.append_nil, String.ofList_toList]

theorem leadingName_self {name : String} (portable : Name.Portable name) :
    leadingName name.toList = name := by
  rw [leadingName, List.takeWhile_eq_self_iff.mpr portable, String.ofList_toList]

theorem bound?_append {opening : String} (listed : opening ∈ openings) (rest : String) :
    bound? (opening ++ rest) = some (leadingName rest.toList) := by
  have taken : (opening ++ rest).toList.dropPrefix? opening.toList = some rest.toList :=
    List.dropPrefix?_eq_some_iff.mpr ⟨opening.toList, String.toList_append, by simp⟩
  -- No opening begins another one, so the search stops at the one that is there.
  simp only [openings, List.mem_cons, List.not_mem_nil, or_false] at listed
  rcases listed with rfl | rfl | rfl | rfl | rfl
  all_goals
    simp only [bound?, openings, List.findSome?_cons, taken]
    simp [List.dropPrefix?]

/-- The first letters of the lines that bind names. -/
def letters : List (Option Char) :=
  [some 'e', some 'c', some 'i']

/-- A line that does not begin like one that binds names. -/
def Quiet (line : String) : Prop :=
  line.toList.head? ∉ letters

instance : DecidablePred Quiet := fun line =>
  inferInstanceAs (Decidable (line.toList.head? ∉ letters))

theorem Quiet.ne_append {line : String} (quiet : Quiet line) {opening : List Char}
    (letter : opening.head? ∈ letters) (rest : List Char) : line.toList ≠ opening ++ rest := by
  intro same
  have some : opening ≠ [] := by
    rintro rfl
    exact absurd letter (by decide)
  rw [Quiet, same, List.head?_append_of_ne_nil _ some] at quiet
  exact quiet letter

theorem Quiet.bound?_eq {line : String} (quiet : Quiet line) : bound? line = none := by
  have begins : ∀ opening ∈ openings, opening.toList.head? ∈ letters := by decide
  refine List.findSome?_eq_none_iff.mpr fun opening listed => ?_
  rw [Option.map_eq_none_iff, Option.eq_none_iff_forall_ne_some]
  intro rest found
  obtain ⟨front, split, same⟩ := List.dropPrefix?_eq_some_iff.mp found
  rw [eq_of_beq same] at split
  exact quiet.ne_append (begins opening listed) rest split

theorem Quiet.namesIn_eq {line : String} (quiet : Quiet line) (rest : List String) :
    namesIn false (line :: rest) = namesIn false rest := by
  have begins : ∀ other ∈ exportOpening :: listOpenings, other.toList.head? ∈ letters := by
    decide
  have other {opening : String} (listed : opening ∈ exportOpening :: listOpenings) :
      line ≠ opening := by
    rintro rfl
    exact quiet.ne_append (begins _ listed) [] (List.append_nil _).symm
  have noList : line ∉ listOpenings := fun listed => other (List.mem_cons_of_mem _ listed) rfl
  rw [namesIn, if_neg noList, if_neg (other List.mem_cons_self), quiet.bound?_eq]
  rfl

theorem namesIn_quiet {lines : List String} (quiet : ∀ line ∈ lines, Quiet line)
    (rest : List String) : namesIn false (lines ++ rest) = namesIn false rest := by
  induction lines with
  | nil => rfl
  | cons line lines inductionHypothesis =>
      obtain ⟨first, others⟩ := List.forall_mem_cons.mp quiet
      rw [List.cons_append, first.namesIn_eq, inductionHypothesis others]

/-- What follows an opening is read as a name, unless a brace follows and opens a list. -/
theorem namesIn_opening {opening text : String} (listed : opening ∈ openings) {c : Char}
    (head : text.toList.head? = some c) (noBrace : c ≠ '\x7b') (lines : List String) :
    namesIn false ((opening ++ text) :: lines) =
      leadingName text.toList :: namesIn false lines := by
  obtain ⟨tail, chars⟩ : ∃ tail, text.toList = c :: tail := by
    cases split : text.toList with
    | nil => simp [split] at head
    | cons first tail =>
        rw [split] at head
        exact ⟨tail, congrArg (· :: tail) (Option.some.inj head)⟩
  have noList : opening ++ text ∉ listOpenings ∧ opening ++ text ≠ exportOpening := by
    simp only [listOpenings, exportOpening, List.mem_pair, ne_eq,
      ← String.toList_inj, String.toList_append, chars]
    simp only [openings, List.mem_cons, List.not_mem_nil, or_false] at listed
    rcases listed with rfl | rfl | rfl | rfl | rfl
    all_goals simp [noBrace]
  rw [namesIn, if_neg noList.1, if_neg noList.2, bound?_append listed]
  rfl

/-! ### Parts of scripts -/

/-- A text consists of lines that bind some names, whatever lines follow. -/
def Tells (text : String) (names : List String) : Prop :=
  ∃ lines : List String, text = String.join (lines.map (· ++ "\n")) ∧
    (∀ line ∈ lines, Unbroken line) ∧
    ∀ rest, namesIn false (lines ++ rest) = names ++ namesIn false rest

namespace Tells

theorem nil : Tells "" [] :=
  ⟨[], rfl, fun _ absent => absurd absent List.not_mem_nil, fun _ => rfl⟩

theorem append {first second : String} {names more : List String} (one : Tells first names)
    (two : Tells second more) : Tells (first ++ second) (names ++ more) := by
  obtain ⟨lines, rfl, unbroken, reads⟩ := one
  obtain ⟨others, rfl, othersUnbroken, othersRead⟩ := two
  refine ⟨lines ++ others, ?_, List.forall_mem_append.mpr ⟨unbroken, othersUnbroken⟩, ?_⟩
  · rw [List.map_append, String.join_append]
  · intro rest
    rw [List.append_assoc, reads, othersRead, List.append_assoc]

theorem line {text : String} {names : List String} (unbroken : Unbroken text)
    (reads : ∀ rest, namesIn false (text :: rest) = names ++ namesIn false rest) :
    Tells (text ++ "\n") names := by
  refine ⟨[text], ?_, List.forall_mem_singleton.mpr unbroken, reads⟩
  rw [List.map_singleton, String.join_cons, String.join_nil, String.append_empty]

theorem quiet {text : String} (unbroken : Unbroken text) (quiet : Quiet text) :
    Tells (text ++ "\n") [] :=
  line unbroken quiet.namesIn_eq

theorem join {α : Type} {items : List α} {textOf : α → String} {namesOf : α → List String}
    (each : ∀ item ∈ items, Tells (textOf item) (namesOf item)) :
    Tells (String.join (items.map textOf)) (items.flatMap namesOf) := by
  induction items with
  | nil => exact nil
  | cons item items inductionHypothesis =>
      obtain ⟨first, others⟩ := List.forall_mem_cons.mp each
      rw [List.map_cons, String.join_cons, List.flatMap_cons]
      exact first.append (inductionHypothesis others)

/-- The names of a text are read from it. -/
theorem boundNames_eq {script : String} {names : List String} (tells : Tells script names) :
    boundNames script = names := by
  obtain ⟨lines, rfl, unbroken, reads⟩ := tells
  have split := fullLines_join unbroken ""
  rw [String.append_empty] at split
  have last : namesIn false (fullLines "") = [] := by decide
  rw [boundNames, split, reads, last, List.append_nil]

end Tells

/-! ### Indented lines -/

/-- A line without its end. -/
def indented (level : Nat) (text : String) : String :=
  if text = "" then "" else indentation indentUnit level ++ text

theorem lineAt_eq_indented (level : Nat) (text : String) :
    lineAt indentUnit level text = indented level text ++ "\n" := by
  unfold lineAt indented
  split
  · rfl
  · rfl

/-- A line at the top level is written as it is. -/
theorem lineAt_zero (text : String) : lineAt indentUnit 0 text = text ++ "\n" := by
  unfold lineAt
  split
  · next empty =>
      rw [empty]
      rfl
  · rw [indentation_zero, String.empty_append]

theorem toList_indentation (level : Nat) :
    (indentation indentUnit level).toList = List.replicate (level * 2) ' ' := by
  have unit : indentUnit = String.ofList (List.replicate 2 ' ') := by decide
  rw [indentation_eq unit, String.toList_ofList]

theorem unbroken_indented {text : String} (unbroken : Unbroken text) (level : Nat) :
    Unbroken (indented level text) := by
  unfold indented
  split
  · decide
  · refine Unbroken.append ?_ unbroken
    rw [Unbroken, toList_indentation, List.mem_replicate]
    simp

/-- A line below the top level is empty or begins with a blank. -/
theorem head_indented (level : Nat) (text : String) :
    (indented (level + 1) text).toList.head? = none ∨
      (indented (level + 1) text).toList.head? = some ' ' := by
  unfold indented
  split
  · exact Or.inl rfl
  · rw [String.toList_append, toList_indentation, Nat.succ_mul, Nat.add_comm,
      List.replicate_add, List.append_assoc]
    exact Or.inr rfl

theorem quiet_indented (level : Nat) (text : String) : Quiet (indented (level + 1) text) := by
  unfold Quiet
  rcases head_indented level text with head | head
  · rw [head]
    decide
  · rw [head]
    decide

theorem quiet_empty : Quiet "" := by
  decide

theorem Closes.quiet {text : String} (closes : Closes text) : Quiet text := by
  rcases closes with round | curly
  · rw [Quiet, round]
    decide
  · rw [Quiet, curly]
    decide

theorem tells_blank : Tells "\n" [] := by
  have empty : Tells ("" ++ "\n") [] := .quiet (by decide) quiet_empty
  exact empty

/-! ### Groups -/

theorem tells_lineAt {text : String} (unbroken : Unbroken text) (level : Nat) :
    Tells (lineAt indentUnit (level + 1) text) [] := by
  rw [lineAt_eq_indented]
  exact .quiet (unbroken_indented unbroken _) (quiet_indented level text)

/-- A line that ends a group may come back to the top level. -/
theorem tells_closing {text : String} (unbroken : Unbroken text) (closes : Closes text)
    (level : Nat) : Tells (lineAt indentUnit level text) [] := by
  cases level with
  | zero =>
      rw [lineAt_zero]
      exact .quiet unbroken closes.quiet
  | succ level => exact tells_lineAt unbroken level

theorem InGroup.tells {step : Step} (inner : InGroup step) (level : Nat) :
    Tells (step.text indentUnit (level + 1)) [] := by
  cases step with
  | line text => exact tells_lineAt inner level
  | enter text => exact tells_lineAt inner level
  | leave text => exact tells_closing inner.1 inner.2 level
  | turn text => exact tells_closing inner.1 inner.2 level
  | blank => exact tells_blank
  | outdent => exact .nil
  | splice text => exact inner.elim
  | lines texts =>
      have each : ∀ text ∈ texts, Tells (lineAt indentUnit (level + 1) text) [] :=
        fun text member => tells_lineAt (inner text member) level
      have all := Tells.join each
      rwa [List.flatMap_eq_nil_iff.mpr fun _ _ => rfl] at all

/-- The lines of a group behind the first one bind nothing. -/
theorem tells_body {level : Nat} {steps : List Step} (settled : settles level steps = true)
    (inner : ∀ step ∈ steps, InGroup step) : Tells (renderAt indentUnit level steps) [] := by
  induction steps generalizing level with
  | nil => exact .nil
  | cons step steps inductionHypothesis =>
      obtain ⟨first, others⟩ := List.forall_mem_cons.mp inner
      cases level with
      | zero => cases settled
      | succ level =>
          rw [renderAt_cons]
          exact (first.tells level).append (inductionHypothesis settled others)

/-! ### Lists of names -/

/-- The blanks in front of a text are dropped. -/
theorem dropWhile_indented {text : String} (blankless : ' ' ∉ text.toList) (level : Nat) :
    (indented level text).toList.dropWhile (fun c => c == ' ') = text.toList := by
  unfold indented
  split
  · next empty =>
      rw [empty]
      rfl
  · rw [String.toList_append, toList_indentation]
    exact dropWhile_blanks _ fun first => blankless (List.mem_of_head? first)

/-- A name of a list is read from its line, whether a comma stands behind it or not. -/
theorem namesIn_listed {name text : String} (portable : Name.Portable name)
    (spelled : text = name ∨ text = name ++ ",") (lines : List String) :
    namesIn true (indented 1 text :: lines) = name :: namesIn true lines := by
  have noBlank : ' ' ∉ name.toList := fun inside => absurd (portable _ inside) (by decide)
  have goesOn : (indented 1 text).toList.head? ≠ some '\x7d' := by
    rcases head_indented 0 text with head | head
    · rw [head]
      decide
    · rw [head]
      decide
  obtain ⟨blankless, read⟩ : ' ' ∉ text.toList ∧ leadingName text.toList = name := by
    rcases spelled with rfl | rfl
    · exact ⟨noBlank, leadingName_self portable⟩
    · rw [String.toList_append, List.mem_append, not_or]
      exact ⟨⟨noBlank, by decide⟩, leadingName_append portable (by decide) []⟩
  rw [namesIn, if_neg goesOn, dropWhile_indented blankless, read]

theorem namesIn_withCommas {names : List String} (portable : ∀ name ∈ names, Name.Portable name)
    {closing : String} (closes : closing.toList.head? = some '\x7d') (lines : List String) :
    namesIn true ((withCommas names).map (indented 1) ++ closing :: lines) =
      names ++ namesIn false lines := by
  induction names with
  | nil =>
      rw [withCommas, List.map_nil, List.nil_append, namesIn, if_pos closes]
      rfl
  | cons name names inductionHypothesis =>
      obtain ⟨first, others⟩ := List.forall_mem_cons.mp portable
      cases names with
      | nil =>
          rw [withCommas, List.map_singleton, List.singleton_append,
            namesIn_listed first (.inl rfl), namesIn, if_pos closes]
          rfl
      | cons next names =>
          rw [withCommas, List.map_cons, List.cons_append, namesIn_listed first (.inr rfl),
            inductionHypothesis others]
          rfl

/-- The lines of a list of names. -/
def listLines (opening : String) (names : List String) (closing : String) : List String :=
  (opening ++ " " ++ "\x7b") :: ((withCommas names).map (indented 1) ++ ["\x7d" ++ closing, ""])

theorem nameBlock_eq_join {names : List String} (some : names ≠ []) (opening closing : String) :
    nameBlock opening names closing =
      String.join ((listLines opening names closing).map (· ++ "\n")) := by
  have items : (withCommas names).map (lineAt indentUnit 1) =
      ((withCommas names).map (indented 1)).map (· ++ "\n") := by
    rw [List.map_map]
    exact List.map_congr_left fun text _ => lineAt_eq_indented 1 text
  rw [nameBlock, if_neg some, ← withCommas_eq, items, listLines]
  simp [String.join_append, String.join_cons, String.append_assoc]

section Lists

variable {names : List String} (portable : ∀ name ∈ names, Name.Portable name)

include portable

theorem unbroken_listLines {opening closing : String} (openingUnbroken : Unbroken opening)
    (closingUnbroken : Unbroken closing) :
    ∀ line ∈ listLines opening names closing, Unbroken line := by
  have items := unbroken_withCommas fun name listed => (portable name listed).unbroken
  refine List.forall_mem_cons.mpr ⟨?_, List.forall_mem_append.mpr ⟨?_, ?_⟩⟩
  · exact (openingUnbroken.append (by decide)).append (by decide)
  · exact List.forall_mem_map.mpr fun text member => unbroken_indented (items text member) 1
  · simp only [List.forall_mem_cons, List.not_mem_nil, IsEmpty.forall_iff, implies_true, and_true]
    exact ⟨.append (by decide) closingUnbroken, by decide⟩

/-- The import of names binds each of them. -/
theorem tells_importBlock {keyword module : String} (listed : keyword ∈ ["import", "import type"])
    (unbroken : Unbroken module) : Tells (importBlock keyword names module) names := by
  by_cases none : names = []
  · rw [importBlock, nameBlock_eq_empty_iff.mpr none, none]
    exact .nil
  have opens : keyword ++ " " ++ "\x7b" ∈ listOpenings := by
    rcases List.mem_pair.mp listed with rfl | rfl
    · decide
    · decide
  have keywordUnbroken : Unbroken keyword := by
    rcases List.mem_pair.mp listed with rfl | rfl
    · decide
    · decide
  have closingUnbroken : Unbroken (" from '" ++ module ++ "'") :=
    unbroken.between (by decide) (by decide)
  rw [importBlock, nameBlock_eq_join none]
  refine ⟨_, rfl, unbroken_listLines portable keywordUnbroken closingUnbroken, fun rest => ?_⟩
  have closes : ("\x7d" ++ (" from '" ++ module ++ "'")).toList.head? = some '\x7d' := by simp
  rw [listLines, List.cons_append, List.append_assoc, namesIn, if_pos opens, List.cons_append,
    namesIn_withCommas portable closes, List.cons_append, quiet_empty.namesIn_eq, List.nil_append]

/-- The export of names binds none of them. -/
theorem tells_exportBlock : Tells (nameBlock "export type" names "") [] := by
  by_cases none : names = []
  · rw [nameBlock_eq_empty_iff.mpr none]
    exact .nil
  have quiet : ∀ line ∈ (withCommas names).map (indented 1) ++ ["\x7d" ++ "", ""], Quiet line := by
    refine List.forall_mem_append.mpr ⟨?_, by decide⟩
    exact List.forall_mem_map.mpr fun text _ => quiet_indented 0 text
  rw [nameBlock_eq_join none]
  refine ⟨_, rfl, unbroken_listLines portable (by decide) (by decide), fun rest => ?_⟩
  have noList : "export type" ++ " " ++ "\x7b" ∉ listOpenings := by decide
  have exported : "export type" ++ " " ++ "\x7b" = exportOpening := by decide
  rw [listLines, List.cons_append, namesIn, if_neg noList, if_pos exported,
    namesIn_quiet quiet, List.nil_append]

end Lists

/-! ### Statements -/

/-- A name behind an opening is read up to a character that cannot belong to it. -/
theorem namesIn_bound {opening name rest : String} (listed : opening ∈ openings)
    (portable : Name.Portable name) {c : Char} {tail : List Char} (stops : rest.toList = c :: tail)
    (ends : Name.isPortable c = false) (noBrace : c ≠ '\x7b') (lines : List String) :
    namesIn false ((opening ++ (name ++ rest)) :: lines) = name :: namesIn false lines := by
  have chars : (name ++ rest).toList = name.toList ++ c :: tail := by
    rw [String.toList_append, stops]
  obtain ⟨first, head, other⟩ :
      ∃ first, (name ++ rest).toList.head? = some first ∧ first ≠ '\x7b' := by
    rw [chars]
    cases spelled : name.toList with
    | nil => exact ⟨c, rfl, noBrace⟩
    | cons first others =>
        refine ⟨first, rfl, ?_⟩
        rintro rfl
        exact absurd (portable _ (spelled ▸ List.mem_cons_self)) (by decide)
  rw [namesIn_opening listed head other, chars, leadingName_append portable ends]

theorem namesIn_header (form : Form) {name : String} (portable : Name.Portable name)
    (rest : String) (lines : List String) :
    namesIn false ((form.header name ++ rest) :: lines) = name :: namesIn false lines := by
  have listed : form.opening ∈ openings := by
    cases form <;> decide
  obtain ⟨c, tail, closing, ends, noBrace⟩ : ∃ c tail,
      form.closing.toList = c :: tail ∧ Name.isPortable c = false ∧ c ≠ '\x7b' := by
    cases form <;> exact ⟨_, _, rfl, by decide, by decide⟩
  have stops : (form.closing ++ rest).toList = c :: (tail ++ rest.toList) := by
    rw [String.toList_append, closing, List.cons_append]
  have parts : form.header name ++ rest = form.opening ++ (name ++ (form.closing ++ rest)) := by
    simp only [Form.header, String.append_assoc]
  rw [parts, namesIn_bound listed portable stops ends noBrace]

theorem Form.unbroken_header (form : Form) {name : String} (portable : Name.Portable name) :
    Unbroken (form.header name) := by
  have opening : Unbroken form.opening := by
    cases form <;> decide
  have closing : Unbroken form.closing := by
    cases form <;> decide
  exact portable.unbroken.between opening closing

theorem tells_header {form : Form} {name rest : String} (portable : Name.Portable name)
    (unbroken : Unbroken rest) : Tells (form.header name ++ rest ++ "\n") [name] :=
  .line ((form.unbroken_header portable).append unbroken)
    (namesIn_header form portable rest)

/-- The lines of a clear statement say what it binds. -/
theorem Statement.Clear.tells {statement : Statement} (clear : statement.Clear) :
    Tells statement.text statement.bound := by
  have one (text : String) : render indentUnit [.line text] = text ++ "\n" := by
    rw [render, renderAt_cons, renderAt_nil, String.append_empty]
    exact lineAt_zero text
  cases statement with
  | comment text =>
      rw [Statement.text, Statement.steps, one]
      exact .quiet (.append (by decide) clear) (by simp [Quiet, letters])
  | remark text =>
      have unbroken : Unbroken ("/* " ++ text ++ " */") :=
        Unbroken.between clear (by decide) (by decide)
      rw [Statement.text, Statement.steps, one]
      exact .quiet unbroken (by simp [Quiet, letters])
  | gap => exact tells_blank
  | takeOne name module =>
      obtain ⟨portable, unbroken⟩ := clear
      have parts : "import \x7b" ++ name ++ "\x7d from '" ++ module ++ "'" =
          "import \x7b" ++ (name ++ ("\x7d from '" ++ module ++ "'")) := by
        simp only [String.append_assoc]
      have source : Unbroken ("\x7d from '" ++ module ++ "'") :=
        unbroken.between (by decide) (by decide)
      have stops : ("\x7d from '" ++ module ++ "'").toList =
          '\x7d' :: (" from '" ++ module ++ "'").toList := by
        simp only [String.toList_append]
        rfl
      rw [Statement.text, Statement.steps, one, parts]
      refine .line (.append (by decide) (portable.unbroken.append source)) fun rest => ?_
      exact namesIn_bound (by decide) portable stops (by decide) (by decide) rest
  | take keyword names module =>
      obtain ⟨listed, portable, unbroken⟩ := clear
      rw [Statement.text, Statement.steps, importSteps, render_nameListSteps]
      exact tells_importBlock portable listed unbroken
  | passOn names =>
      rw [Statement.text, Statement.steps, render_nameListSteps]
      exact tells_exportBlock clear
  | line form name rest =>
      rw [Statement.text, Statement.steps, one]
      exact tells_header clear.1 clear.2
  | group form name rest body closed =>
      obtain ⟨portable, unbroken, inner⟩ := clear
      rw [Statement.text, Statement.steps, render, renderAt_cons, Step.text, lineAt_zero]
      exact (tells_header portable unbroken).append (tells_body closed inner)

/-- A script of which each statement is clear binds the names that a reader finds in it, and no
others. -/
theorem Binds.boundNames_eq {clear : Prop} {script : String} {names : List String}
    (binds : Binds clear script names) (holds : clear) : boundNames script = names := by
  obtain ⟨statements, rfl, rfl, told⟩ := binds
  exact (Tells.join fun statement member => (told holds statement member).tells).boundNames_eq

end RpcBindings.Script
