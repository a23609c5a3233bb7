/-
Module: RpcBindings.Proofs.Layout.Lines
Purpose: Reading a laid out text back, line by line and then block by block.
Main exports: Layout.readLines, Layout.Writes, Layout.Step.written, Layout.Step.Readable,
  Layout.writes_renderAt, Layout.PlainLine, Layout.Block, Layout.readBlocks
-/
import Mathlib.Data.List.Basic
import RpcBindings.Proofs.Layout.Rendering

namespace RpcBindings.Layout

/-!
A reader knows nothing of layouts.  It cuts a text at the line ends and drops the blanks in front of
each line.  A line that ends in an opening brace opens a block, and a line that begins with a
closing brace ends the innermost one; what a reader knows of a block is its header, the headers of
the blocks around it, and its lines.
-/

/-! ### Lines -/

/-- The lines of a text, without the blanks in front of them.  What follows the last line end counts
as a line too. -/
def readLines (text : String) : List String :=
  (text.toList.splitOn '\n').map fun line => String.ofList (line.dropWhile fun c => c == ' ')

/-- A text that holds no line end. -/
def Unbroken (text : String) : Prop :=
  '\n' ∉ text.toList

instance : DecidablePred Unbroken := fun text =>
  inferInstanceAs (Decidable ('\n' ∉ text.toList))

theorem unbroken_append {first second : String} :
    Unbroken (first ++ second) ↔ Unbroken first ∧ Unbroken second := by
  rw [Unbroken, String.toList_append, List.mem_append, not_or]
  rfl

/-- A text that is written out is checked where it stands. -/
theorem Unbroken.literal {chars : List Char} (unbroken : '\n' ∉ chars) :
    Unbroken (String.ofList chars) := by
  rw [Unbroken, String.toList_ofList]
  exact unbroken

theorem Unbroken.append {first second : String} (one : Unbroken first) (two : Unbroken second) :
    Unbroken (first ++ second) :=
  unbroken_append.mpr ⟨one, two⟩

/-- A text between two others. -/
theorem Unbroken.between {text front back : String} (unbroken : Unbroken text)
    (before : Unbroken front) (behind : Unbroken back) : Unbroken (front ++ text ++ back) :=
  (before.append unbroken).append behind

theorem unbroken_getD {text : Option String} (unbroken : ∀ given ∈ text, Unbroken given)
    {otherwise : String} (default : Unbroken otherwise) : Unbroken (text.getD otherwise) := by
  cases text with
  | none => exact default
  | some given => exact unbroken given rfl

theorem unbroken_withCommas {items : List String} (unbroken : ∀ item ∈ items, Unbroken item) :
    ∀ text ∈ withCommas items, Unbroken text := by
  intro text member
  obtain ⟨item, listed, rfl | rfl⟩ := exists_of_mem_withCommas member
  · exact unbroken _ listed
  · exact (unbroken _ listed).append (by decide)

/-- A text that is read back from a line of its own: it holds no line end, and no blank is dropped
in front of it. -/
structure OneLine (text : String) : Prop where
  unbroken : '\n' ∉ text.toList
  unindented : text.toList.head? ≠ some ' '

/-- `Writes text lines`: the text consists of these lines, each with blanks in front of it and with
a line end. -/
inductive Writes : String → List String → Prop where
  | nil : Writes "" []
  | cons {line rest : String} {lines : List String} (blanks : Nat) (single : OneLine line)
      (others : Writes rest lines) :
      Writes (String.ofList (List.replicate blanks ' ') ++ line ++ "\n" ++ rest) (line :: lines)

theorem Writes.append {first second : String} {lines others : List String}
    (one : Writes first lines) (two : Writes second others) :
    Writes (first ++ second) (lines ++ others) := by
  induction one with
  | nil =>
      rw [String.empty_append]
      exact two
  | cons blanks single _ inductionHypothesis =>
      rw [String.append_assoc]
      exact .cons blanks single inductionHypothesis

theorem writes_line (blanks : Nat) {line : String} (single : OneLine line) :
    Writes (String.ofList (List.replicate blanks ' ') ++ line ++ "\n") [line] := by
  have written := Writes.cons blanks single .nil
  rwa [String.append_empty] at written

/-- Blanks in front of a line are dropped, and no others. -/
theorem dropWhile_blanks (blanks : Nat) {line : List Char} (first : line.head? ≠ some ' ') :
    (List.replicate blanks ' ' ++ line).dropWhile (fun c => c == ' ') = line := by
  induction blanks with
  | zero =>
      cases line with
      | nil => rfl
      | cons c rest =>
          have different : c ≠ ' ' := by simpa using first
          simp [different]
  | succ blanks inductionHypothesis =>
      rw [List.replicate_succ, List.cons_append, List.dropWhile_cons_of_pos (by simp)]
      exact inductionHypothesis

/-- Written lines are read back. -/
theorem Writes.readLines_eq {text : String} {lines : List String} (writes : Writes text lines) :
    readLines text = lines ++ [""] := by
  induction writes with
  | nil => simp [readLines]
  | @cons line rest lines blanks single _ inductionHypothesis =>
      have unbroken : '\n' ∉ List.replicate blanks ' ' ++ line.toList := by
        simpa using single.unbroken
      have chars : (String.ofList (List.replicate blanks ' ') ++ line ++ "\n" ++ rest).toList =
          (List.replicate blanks ' ' ++ line.toList) ++ '\n' :: rest.toList := by
        simp
      rw [readLines, chars, List.splitOn_append_cons_self_of_not_mem unbroken, List.map_cons,
        dropWhile_blanks blanks single.unindented, String.ofList_toList, List.cons_append]
      exact congrArg (line :: ·) inductionHypothesis

/-! ### Steps -/

/-- The lines that a step writes, whatever its level.  Text that was laid out elsewhere is read. -/
def Step.written : Step → List String
  | .line text | .enter text | .leave text | .turn text => [text]
  | .lines texts => texts
  | .blank => [""]
  | .outdent => []
  | .splice text => (readLines text).dropLast

/-- A step of which the lines can be read back. -/
def Step.Readable : Step → Prop
  | .line text | .enter text | .leave text | .turn text => OneLine text
  | .lines texts => ∀ text ∈ texts, OneLine text
  | .blank | .outdent => True
  | .splice text => ∃ lines, Writes text lines

theorem oneLine_empty : OneLine "" :=
  ⟨by simp, by simp⟩

theorem indentation_eq {unit : String} {width : Nat}
    (blank : unit = String.ofList (List.replicate width ' ')) (level : Nat) :
    indentation unit level = String.ofList (List.replicate (level * width) ' ') := by
  induction level with
  | zero => simp [indentation]
  | succ level inductionHypothesis =>
      have next : indentation unit (level + 1) = unit ++ indentation unit level := by
        simp [indentation, List.replicate_succ, String.join_cons]
      rw [next, inductionHypothesis, blank, ← String.ofList_append, List.replicate_append_replicate,
        Nat.succ_mul, Nat.add_comm]

theorem writes_lineAt {unit text : String} {width : Nat}
    (blank : unit = String.ofList (List.replicate width ' ')) (single : OneLine text)
    (level : Nat) : Writes (lineAt unit level text) [text] := by
  unfold lineAt
  split
  · next empty =>
    have written := writes_line 0 oneLine_empty
    rw [empty]
    exact written
  · rw [indentation_eq blank]
    exact writes_line _ single

/-- Where a unit of indentation consists of blanks, a step writes its lines at every level. -/
theorem writes_step {unit : String} {width : Nat}
    (blank : unit = String.ofList (List.replicate width ' ')) {step : Step}
    (readable : step.Readable) (level : Nat) : Writes (step.text unit level) step.written := by
  cases step with
  | line text => exact writes_lineAt blank readable level
  | enter text => exact writes_lineAt blank readable level
  | leave text => exact writes_lineAt blank readable (level - 1)
  | turn text => exact writes_lineAt blank readable (level - 1)
  | blank => exact writes_line 0 oneLine_empty
  | outdent => exact .nil
  | lines texts =>
      simp only [Step.text, Step.written]
      induction texts with
      | nil => exact .nil
      | cons text texts inductionHypothesis =>
          obtain ⟨first, others⟩ := List.forall_mem_cons.mp readable
          rw [List.map_cons, String.join_cons]
          exact (writes_lineAt blank first level).append (inductionHypothesis others)
  | splice text =>
      obtain ⟨lines, writes⟩ := readable
      rw [Step.text, Step.written, writes.readLines_eq, List.dropLast_concat]
      exact writes

/-- A layout writes the lines of its steps. -/
theorem writes_renderAt {unit : String} {width : Nat}
    (blank : unit = String.ofList (List.replicate width ' ')) {steps : List Step}
    (readable : ∀ step ∈ steps, step.Readable) (level : Nat) :
    Writes (renderAt unit level steps) (steps.flatMap Step.written) := by
  induction steps generalizing level with
  | nil => exact .nil
  | cons step steps inductionHypothesis =>
      obtain ⟨first, others⟩ := List.forall_mem_cons.mp readable
      rw [renderAt_cons, List.flatMap_cons]
      exact (writes_step blank first level).append (inductionHypothesis others _)

/-! ### Plain lines -/

/-- A text that can stand at the end of a line without opening a block there. -/
structure Trailing (text : String) : Prop where
  unbroken : '\n' ∉ text.toList
  ends : text.toList.getLast? ≠ some '\x7b'

/-- A line that is read back and that neither opens a block nor ends one. -/
structure PlainLine (line : String) : Prop extends OneLine line where
  begins : line.toList.head? ≠ some '\x7d'
  ends : line.toList.getLast? ≠ some '\x7b'

instance : DecidablePred Trailing := fun _ =>
  decidable_of_iff (_ ∧ _) ⟨fun both => ⟨both.1, both.2⟩, fun tail => ⟨tail.unbroken, tail.ends⟩⟩

instance : DecidablePred PlainLine := fun _ =>
  decidable_of_iff ((_ ∧ _) ∧ _ ∧ _)
    ⟨fun all => ⟨⟨all.1.1, all.1.2⟩, all.2.1, all.2.2⟩,
      fun plain => ⟨⟨plain.unbroken, plain.unindented⟩, plain.begins, plain.ends⟩⟩

/-- A text that holds no line end and no brace. -/
structure Unbraced (text : String) : Prop where
  unbroken : '\n' ∉ text.toList
  unopened : '\x7b' ∉ text.toList
  unclosed : '\x7d' ∉ text.toList

theorem PlainLine.trailing {line : String} (plain : PlainLine line) : Trailing line :=
  ⟨plain.unbroken, plain.ends⟩

theorem Unbraced.trailing {text : String} (unbraced : Unbraced text) : Trailing text :=
  ⟨unbraced.unbroken, fun last => unbraced.unopened (List.mem_of_getLast? last)⟩

theorem Trailing.append {first second : String} (one : Trailing first) (two : Trailing second) :
    Trailing (first ++ second) where
  unbroken := Unbroken.append one.unbroken two.unbroken
  ends := by
    rw [String.toList_append, List.getLast?_append]
    cases last : second.toList.getLast? with
    | none => exact one.ends
    | some c =>
        rw [Option.some_or, ← last]
        exact two.ends

/-- A plain line stays plain when something is put behind it, unless it is empty. -/
theorem PlainLine.extend {first second : String} (plain : PlainLine first) (some : first ≠ "")
    (trailing : Trailing second) : PlainLine (first ++ second) := by
  obtain ⟨unbroken, ends⟩ := plain.trailing.append trailing
  have head : (first ++ second).toList.head? = first.toList.head? := by
    rw [String.toList_append]
    exact List.head?_append_of_ne_nil _ (by simpa using some)
  exact { unbroken, ends, unindented := head ▸ plain.unindented, begins := head ▸ plain.begins }

theorem PlainLine.append {first second : String} (one : PlainLine first)
    (two : PlainLine second) : PlainLine (first ++ second) := by
  by_cases empty : first = ""
  · rw [empty, String.empty_append]
    exact two
  · exact one.extend empty two.trailing

/-! ### Blocks -/

/-- A block as it is read: the headers of the blocks around it, the outermost first, its own header,
and the lines from there to the next line that opens or ends a block. -/
structure Block where
  around : List String
  header : String
  lines : List String
deriving Repr, DecidableEq

/-- The header of the block that a line opens. -/
def opening? (line : String) : Option String :=
  (line.toList.dropSuffix? [' ', '\x7b']).map String.ofList

def closes (line : String) : Bool :=
  line.toList.head? == some '\x7d'

/-- A line that neither opens a block nor ends one. -/
def isPlain (line : String) : Bool :=
  (opening? line).isNone && !closes line

/-- The blocks that some lines form, inside the blocks `around` them. -/
def readBlocks (around : List String) : List String → List Block
  | [] => []
  | line :: rest =>
      match opening? line with
      | some header =>
          { around, header, lines := rest.takeWhile isPlain } ::
            readBlocks (around ++ [header]) rest
      | none => readBlocks (if closes line then around.dropLast else around) rest

theorem opening?_append (header : String) : opening? (header ++ " \x7b") = some header := by
  have kept : (header ++ " \x7b").toList.dropSuffix? [' ', '\x7b'] = some header.toList :=
    List.dropSuffix?_eq_some_iff.mpr ⟨[' ', '\x7b'], by simp, by simp⟩
  rw [opening?, kept, Option.map_some, String.ofList_toList]

/-- A line that does not end in an opening brace opens no block. -/
theorem opening?_eq_none {line : String} (ends : line.toList.getLast? ≠ some '\x7b') :
    opening? line = none := by
  cases found : line.toList.dropSuffix? [' ', '\x7b'] with
  | none => rw [opening?, found, Option.map_none]
  | some kept =>
      obtain ⟨suffix, split, same⟩ := List.dropSuffix?_eq_some_iff.mp found
      rw [eq_of_beq same] at split
      exact absurd (by simp [split]) ends

theorem PlainLine.isPlain_eq {line : String} (plain : PlainLine line) : isPlain line = true := by
  have noOpening : opening? line = none := opening?_eq_none plain.ends
  have noClosing : closes line = false := beq_eq_false_iff_ne.mpr plain.begins
  rw [isPlain, noOpening, noClosing]
  rfl

/-- Plain lines are passed over. -/
theorem readBlocks_plain {lines : List String} (plain : ∀ line ∈ lines, PlainLine line)
    (around rest : List String) : readBlocks around (lines ++ rest) = readBlocks around rest := by
  induction lines with
  | nil => rfl
  | cons line lines inductionHypothesis =>
      obtain ⟨first, others⟩ := List.forall_mem_cons.mp plain
      have noOpening : opening? line = none := opening?_eq_none first.ends
      have noClosing : closes line = false := beq_eq_false_iff_ne.mpr first.begins
      rw [List.cons_append, readBlocks, noOpening]
      simp only [noClosing, Bool.false_eq_true, if_false]
      exact inductionHypothesis others

section

variable {header after : String} {body : List Step}

/-- The lines of a block can be read back if those of its body can. -/
theorem readable_block (opening : OneLine (header ++ " \x7b"))
    (closing : Trailing ("\x7d" ++ after)) (readable : ∀ step ∈ body, step.Readable) :
    ∀ step ∈ block (header ++ " ") body after, step.Readable := by
  intro step member
  rw [block, List.mem_append, List.mem_append, List.mem_singleton, List.mem_singleton] at member
  rcases member with (rfl | inside) | rfl
  · have opens : header ++ " " ++ "\x7b" = header ++ " \x7b" := String.append_assoc ..
    exact opens ▸ opening
  · exact readable step inside
  · exact ⟨closing.unbroken, by simp⟩

/-- A block is read, then its body inside it, and the line that ends it. -/
theorem readBlocks_block (around rest : List String) :
    readBlocks around ((block (header ++ " ") body after).flatMap Step.written ++ rest) =
      { around, header
        lines := (body.flatMap Step.written ++ ("\x7d" ++ after) :: rest).takeWhile isPlain } ::
        readBlocks (around ++ [header])
          (body.flatMap Step.written ++ ("\x7d" ++ after) :: rest) := by
  have opens : header ++ " " ++ "\x7b" = header ++ " \x7b" := String.append_assoc ..
  have lines : (block (header ++ " ") body after).flatMap Step.written ++ rest =
      (header ++ " \x7b") :: (body.flatMap Step.written ++ ("\x7d" ++ after) :: rest) := by
    simp [block, Step.written, opens]
  rw [lines, readBlocks, opening?_append]

/-- The line that ends a block leads back to what is around it, whatever follows the brace. -/
theorem readBlocks_ending (closing : Trailing ("\x7d" ++ after)) (around rest : List String) :
    readBlocks (around ++ [header]) (("\x7d" ++ after) :: rest) = readBlocks around rest := by
  have close : closes ("\x7d" ++ after) = true := by simp [closes]
  rw [readBlocks, opening?_eq_none closing.ends]
  simp only [close, if_true, List.dropLast_concat]

end

/-- The lines of a block are read up to the next line that is not plain. -/
theorem takeWhile_isPlain {lines : List String} (plain : ∀ line ∈ lines, PlainLine line)
    {closing : String} (begins : closing.toList.head? = some '\x7d') (rest : List String) :
    (lines ++ closing :: rest).takeWhile isPlain = lines := by
  have close : closes closing = true := beq_iff_eq.mpr begins
  have stops : ¬ isPlain closing = true := by simp [isPlain, close]
  rw [List.takeWhile_append_of_pos fun line member => (plain line member).isPlain_eq,
    List.takeWhile_cons_of_neg stops, List.append_nil]

end RpcBindings.Layout
