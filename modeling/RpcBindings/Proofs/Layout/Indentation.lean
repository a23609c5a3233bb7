/-
Module: RpcBindings.Proofs.Layout.Indentation
Purpose: Texts in which every line is indented by the number of braces that are open.
Main exports: Layout.bracesAfter?, Layout.LineStart, Layout.IndentedAt, Layout.InImports,
  Layout.FollowsBraces, Layout.KeepsToBraces, Layout.FollowsBraces.keepsToBraces, Layout.Braced,
  Layout.Braced.block
-/
import Mathlib.Data.List.Basic
import RpcBindings.Proofs.Layout.Lines

namespace RpcBindings.Layout

/-!
Steps move the indentation, and braces stand in their texts; nothing ties the one to the other but
the way in which code is laid out.  A reader who counts braces can tell from a text alone how deep a
line should lie.  Here the lines of a text are compared with that count, and layouts are put
together from parts of which the lines agree with it.
-/

/-! ### Counting braces -/

/-- Read one character with some braces open.  There is no result if a brace is closed and none is
open. -/
def readBrace (opened : Nat) (c : Char) : Option Nat :=
  if c = '\x7b' then some (opened + 1)
  else if c = '\x7d' then (if opened = 0 then none else some (opened - 1))
  else some opened

/-- How many braces are open behind a text, if some are open in front of it. -/
def bracesAfter? (opened : Nat) (text : List Char) : Option Nat :=
  text.foldlM readBrace opened

theorem bracesAfter?_cons (opened : Nat) (c : Char) (rest : List Char) :
    bracesAfter? opened (c :: rest) =
      (readBrace opened c).bind fun next => bracesAfter? next rest :=
  List.foldlM_cons

theorem bracesAfter?_append (opened : Nat) (first second : List Char) :
    bracesAfter? opened (first ++ second) =
      (bracesAfter? opened first).bind fun next => bracesAfter? next second :=
  List.foldlM_append

theorem bracesAfter?_of_unbraced {text : List Char} (unopened : '\x7b' ∉ text)
    (unclosed : '\x7d' ∉ text) (opened : Nat) : bracesAfter? opened text = some opened := by
  induction text with
  | nil => rfl
  | cons c rest inductionHypothesis =>
      have noOpening : c ≠ '\x7b' := fun same => unopened (same ▸ List.mem_cons_self)
      have noClosing : c ≠ '\x7d' := fun same => unclosed (same ▸ List.mem_cons_self)
      rw [bracesAfter?_cons, readBrace, if_neg noOpening, if_neg noClosing]
      exact inductionHypothesis (fun inside => unopened (List.mem_cons_of_mem _ inside))
        fun inside => unclosed (List.mem_cons_of_mem _ inside)

theorem readBrace_add {opened next : Nat} {c : Char} (read : readBrace opened c = some next)
    (outer : Nat) : readBrace (opened + outer) c = some (next + outer) := by
  unfold readBrace at read ⊢
  grind

/-- Braces that are open further outside stay open. -/
theorem bracesAfter?_add {opened next : Nat} {text : List Char}
    (read : bracesAfter? opened text = some next) (outer : Nat) :
    bracesAfter? (opened + outer) text = some (next + outer) := by
  induction text generalizing opened with
  | nil =>
      obtain rfl := Option.some.inj read
      rfl
  | cons c rest inductionHypothesis =>
      rw [bracesAfter?_cons, Option.bind_eq_some_iff] at read
      obtain ⟨first, one, others⟩ := read
      rw [bracesAfter?_cons, readBrace_add one, Option.bind_some]
      exact inductionHypothesis others

/-! ### Parts of lines -/

/-- A part of a line that is read with some braces open and leaves some open. -/
structure LinePart (opened next : Nat) (text : String) : Prop where
  unbroken : '\n' ∉ text.toList
  braces : bracesAfter? opened text.toList = some next

/-- A text that is written out is checked where it stands. -/
theorem LinePart.literal {opened next : Nat} {chars : List Char}
    (written : '\n' ∉ chars ∧ bracesAfter? opened chars = some next) :
    LinePart opened next (String.ofList chars) where
  unbroken := by
    rw [String.toList_ofList]
    exact written.1
  braces := by
    rw [String.toList_ofList]
    exact written.2

theorem LinePart.empty {opened : Nat} : LinePart opened opened "" :=
  ⟨List.not_mem_nil, rfl⟩

theorem LinePart.append {opened next last : Nat} {first second : String}
    (one : LinePart opened next first) (two : LinePart next last second) :
    LinePart opened last (first ++ second) where
  unbroken := unbroken_append.mpr ⟨one.unbroken, two.unbroken⟩
  braces := by
    rw [String.toList_append, bracesAfter?_append, one.braces]
    exact two.braces

theorem LinePart.outside {opened next : Nat} {text : String} (part : LinePart opened next text)
    (outer : Nat) : LinePart (opened + outer) (next + outer) text :=
  ⟨part.unbroken, bracesAfter?_add part.braces outer⟩

instance : DecidablePred Unbraced := fun text =>
  decidable_of_iff ('\n' ∉ text.toList ∧ '\x7b' ∉ text.toList ∧ '\x7d' ∉ text.toList)
    ⟨fun all => ⟨all.1, all.2.1, all.2.2⟩,
      fun unbraced => ⟨unbraced.unbroken, unbraced.unopened, unbraced.unclosed⟩⟩

theorem Unbraced.linePart {text : String} (unbraced : Unbraced text) (opened : Nat) :
    LinePart opened opened text :=
  ⟨unbraced.unbroken, bracesAfter?_of_unbraced unbraced.unopened unbraced.unclosed opened⟩

/-- The text begins with a character that is neither a blank nor a closing brace. -/
def Leads (text : String) : Prop :=
  ∃ c ∈ text.toList.head?, c ≠ ' ' ∧ c ≠ '\t' ∧ c ≠ '\x7d'

theorem Leads.append {first : String} (leads : Leads first) (second : String) :
    Leads (first ++ second) := by
  obtain ⟨c, head, inked⟩ := leads
  refine ⟨c, ?_, inked⟩
  rw [Option.mem_def] at head ⊢
  rw [String.toList_append, List.head?_append, head]
  rfl

/-- The first part of a line, or all of it. -/
structure LineStart (opened next : Nat) (text : String) : Prop
    extends LinePart opened next text where
  leads : Leads text

theorem LineStart.literal {opened next : Nat} {c : Char} {rest : List Char}
    (written : (c ≠ ' ' ∧ c ≠ '\t' ∧ c ≠ '\x7d') ∧ '\n' ∉ c :: rest ∧
      bracesAfter? opened (c :: rest) = some next) :
    LineStart opened next (String.ofList (c :: rest)) :=
  ⟨.literal written.2, c, by simp, written.1⟩

theorem LineStart.append {opened next last : Nat} {first second : String}
    (one : LineStart opened next first) (two : LinePart next last second) :
    LineStart opened last (first ++ second) :=
  ⟨one.toLinePart.append two, one.leads.append second⟩

theorem LineStart.outside {opened next : Nat} {text : String} (start : LineStart opened next text)
    (outer : Nat) : LineStart (opened + outer) (next + outer) text :=
  ⟨start.toLinePart.outside outer, start.leads⟩

/-- A line that closes what it opens, or an empty line. -/
def Level (text : String) : Prop :=
  text = "" ∨ LineStart 0 0 text

/-! ### Texts -/

/-- The lines of a text as they stand.  What follows the last line end counts as a line too. -/
def fullLines (text : String) : List String :=
  (text.toList.splitOn '\n').map String.ofList

/-- How deep a line lies if some braces are open in front of it: a line that begins with a closing
brace lies one level less deep. -/
def lineLevel (opened : Nat) (text : String) : Nat :=
  if text.toList.head? = some '\x7d' then opened - 1 else opened

/-- The line begins with exactly the indentation for the braces that are open in front of it, and
something else than a blank follows. -/
def IndentedAt (unit : String) (opened : Nat) (line : String) : Prop :=
  ∃ text, line = indentation unit (lineLevel opened text) ++ text ∧
    ∃ c ∈ text.toList.head?, c ≠ ' ' ∧ c ≠ '\t'

/-- A line below the lines `front` is one of a list of imports in parentheses: such a list has begun
and not ended yet, and the line does not end it. -/
def InImports (front : List String) (line : String) : Prop :=
  line ≠ ")" ∧ ∃ before inside, front = before ++ "import (" :: inside ∧ ")" ∉ inside

/-- `FollowsBraces importing unit opened text after`: a text of whole lines, read with some braces
open, leaves `after` of them open, and each of its lines is empty or indented by the braces that are
open in front of it.  If `importing` holds, there may be lists of imports in parentheses, of which
the lines are indented without a brace. -/
inductive FollowsBraces (importing : Prop) (unit : String) : Nat → String → Nat → Prop where
  | nil (opened : Nat) : FollowsBraces importing unit opened "" opened
  | blank {opened after : Nat} {rest : String}
      (others : FollowsBraces importing unit opened rest after) :
      FollowsBraces importing unit opened ("\n" ++ rest) after
  | line {opened next after : Nat} {text rest : String}
      (begins : ∃ c ∈ text.toList.head?, c ≠ ' ' ∧ c ≠ '\t') (part : LinePart opened next text)
      (others : FollowsBraces importing unit next rest after) :
      FollowsBraces importing unit opened
        (indentation unit (lineLevel opened text) ++ text ++ "\n" ++ rest) after
  | imports {after : Nat} {lines : List String} {rest : String} (allowed : importing)
      (unbraced : ∀ line ∈ lines, Unbraced line) (inside : ")" ∉ lines)
      (others : FollowsBraces importing unit 0 rest after) :
      FollowsBraces importing unit 0
        ("import (\n" ++ String.join (lines.map (· ++ "\n")) ++ ")\n" ++ rest) after

theorem FollowsBraces.append {importing : Prop} {unit first second : String}
    {opened next after : Nat} (one : FollowsBraces importing unit opened first next)
    (two : FollowsBraces importing unit next second after) :
    FollowsBraces importing unit opened (first ++ second) after := by
  induction one with
  | nil =>
      rw [String.empty_append]
      exact two
  | blank _ inductionHypothesis =>
      rw [String.append_assoc]
      exact .blank (inductionHypothesis two)
  | line begins part _ inductionHypothesis =>
      rw [String.append_assoc]
      exact .line begins part (inductionHypothesis two)
  | imports allowed unbraced inside _ inductionHypothesis =>
      rw [String.append_assoc]
      exact .imports allowed unbraced inside (inductionHypothesis two)

theorem FollowsBraces.join {importing : Prop} {unit : String} {opened : Nat} {texts : List String}
    (each : ∀ text ∈ texts, FollowsBraces importing unit opened text opened) :
    FollowsBraces importing unit opened (String.join texts) opened := by
  induction texts with
  | nil => exact .nil opened
  | cons text texts inductionHypothesis =>
      obtain ⟨first, others⟩ := List.forall_mem_cons.mp each
      rw [String.join_cons]
      exact first.append (inductionHypothesis others)

/-- Texts with an empty line between each two of them. -/
theorem FollowsBraces.intercalate {importing : Prop} {unit : String} {opened : Nat}
    {texts : List String} (each : ∀ text ∈ texts, FollowsBraces importing unit opened text opened) :
    FollowsBraces importing unit opened ("\n".intercalate texts) opened := by
  cases texts with
  | nil => exact .nil opened
  | cons text texts =>
      obtain ⟨first, others⟩ := List.forall_mem_cons.mp each
      rw [intercalate_cons]
      exact first.append (join (List.forall_mem_map.mpr fun other member =>
        .blank (others other member)))

/-! ### Reading a text line by line -/

theorem fullLines_cons {line : String} (unbroken : '\n' ∉ line.toList) (rest : String) :
    fullLines (line ++ "\n" ++ rest) = line :: fullLines rest := by
  have chars : (line ++ "\n" ++ rest).toList = line.toList ++ '\n' :: rest.toList := by simp
  rw [fullLines, chars, List.splitOn_append_cons_self_of_not_mem unbroken, List.map_cons,
    String.ofList_toList]
  rfl

theorem fullLines_join {lines : List String} (unbroken : ∀ line ∈ lines, '\n' ∉ line.toList)
    (rest : String) :
    fullLines (String.join (lines.map (· ++ "\n")) ++ rest) = lines ++ fullLines rest := by
  induction lines with
  | nil => rfl
  | cons line lines inductionHypothesis =>
      obtain ⟨first, others⟩ := List.forall_mem_cons.mp unbroken
      rw [List.map_cons, String.join_cons, String.append_assoc, fullLines_cons first,
        inductionHypothesis others]
      rfl

/-- A list of imports is read line by line. -/
theorem fullLines_imports {lines : List String} (unbroken : ∀ line ∈ lines, '\n' ∉ line.toList)
    (rest : String) :
    fullLines ("import (\n" ++ String.join (lines.map (· ++ "\n")) ++ ")\n" ++ rest) =
      "import (" :: (lines ++ ")" :: fullLines rest) := by
  have all : ∀ line ∈ "import (" :: lines ++ [")"], '\n' ∉ line.toList :=
    List.forall_mem_append.mpr
      ⟨List.forall_mem_cons.mpr ⟨by decide, unbroken⟩, List.forall_mem_singleton.mpr (by decide)⟩
  have joined := fullLines_join all rest
  simpa [String.join_cons, String.append_assoc] using joined

/-- Where a line can stand if the text begins with a list of imports. -/
theorem place_in_imports {lines rest front back : List String} {line : String}
    (split : "import (" :: (lines ++ ")" :: rest) = front ++ line :: back) :
    (front = [] ∧ line = "import (") ∨
      (∃ above, front = "import (" :: above ∧ above ⊆ lines ∧ line ∈ lines) ∨
      (front = "import (" :: lines ∧ line = ")") ∨
      ∃ above, front = "import (" :: (lines ++ ")" :: above) ∧ rest = above ++ line :: back := by
  rcases List.cons_eq_append_iff.mp split with ⟨rfl, here⟩ | ⟨front, rfl, further⟩
  · exact Or.inl ⟨rfl, (List.cons.inj here).1⟩
  rcases List.append_eq_append_iff.mp further with ⟨beyond, rfl, behind⟩ | ⟨listed, rfl, ahead⟩
  · rcases List.cons_eq_append_iff.mp behind with ⟨rfl, here⟩ | ⟨above, rfl, below⟩
    · rw [List.append_nil]
      exact Or.inr (Or.inr (Or.inl ⟨rfl, (List.cons.inj here).1⟩))
    · exact Or.inr (Or.inr (Or.inr ⟨above, rfl, below⟩))
  · rcases List.cons_eq_append_iff.mp ahead with ⟨rfl, here⟩ | ⟨listed, rfl, -⟩
    · rw [List.append_nil]
      exact Or.inr (Or.inr (Or.inl ⟨rfl, (List.cons.inj here).1.symm⟩))
    · exact Or.inr (Or.inl ⟨front, rfl, List.subset_append_left .., by simp⟩)

/-- Lines further above do not end a list of imports. -/
theorem InImports.append {front : List String} {line : String} (inImports : InImports front line)
    (above : List String) : InImports (above ++ front) line := by
  obtain ⟨other, before, inside, rfl, notEnded⟩ := inImports
  exact ⟨other, above ++ before, inside, (List.append_assoc ..).symm, notEnded⟩

/-- Indentation by blanks is neither broken nor counted. -/
theorem unbraced_indentation {unit : String} (blank : ∀ c ∈ unit.toList, c = ' ' ∨ c = '\t')
    (level : Nat) : Unbraced (indentation unit level) := by
  have all : ∀ c ∈ (indentation unit level).toList, c = ' ' ∨ c = '\t' := by
    intro c member
    rw [indentation, String.toList_join, List.mem_flatMap] at member
    obtain ⟨part, partMember, inside⟩ := member
    rw [List.eq_of_mem_replicate partMember] at inside
    exact blank c inside
  have absent {c : Char} (ink : c ≠ ' ' ∧ c ≠ '\t') : c ∉ (indentation unit level).toList :=
    fun member => (all c member).elim ink.1 ink.2
  exact ⟨absent (by decide), absent (by decide), absent (by decide)⟩

theorem bracesAfter?_flatMap_of_unbraced {lines : List String}
    (unbraced : ∀ line ∈ lines, Unbraced line) (opened : Nat) :
    bracesAfter? opened (lines.flatMap String.toList) = some opened := by
  refine bracesAfter?_of_unbraced (fun inside => ?_) (fun inside => ?_) opened
  · obtain ⟨line, member, inLine⟩ := List.mem_flatMap.mp inside
    exact (unbraced line member).unopened inLine
  · obtain ⟨line, member, inLine⟩ := List.mem_flatMap.mp inside
    exact (unbraced line member).unclosed inLine

/-- A line end neither opens nor closes a brace. -/
theorem bracesAfter?_lineEnd (opened : Nat) (line rest : String) :
    bracesAfter? opened (line ++ "\n" ++ rest).toList =
      bracesAfter? opened (line.toList ++ rest.toList) := by
  rw [String.toList_append, String.toList_append, List.append_assoc, bracesAfter?_append,
    bracesAfter?_append opened line.toList]
  rfl

theorem bracesAfter?_join (opened : Nat) (lines : List String) (rest : String) :
    bracesAfter? opened (String.join (lines.map (· ++ "\n")) ++ rest).toList =
      bracesAfter? opened (lines.flatMap String.toList ++ rest.toList) := by
  induction lines generalizing opened with
  | nil => simp
  | cons line lines inductionHypothesis =>
      rw [List.map_cons, String.join_cons, String.append_assoc, bracesAfter?_lineEnd,
        List.flatMap_cons, List.append_assoc, bracesAfter?_append,
        bracesAfter?_append opened line.toList]
      exact congrArg _ (funext fun next => inductionHypothesis next)

section

variable {importing : Prop} {unit : String} (blank : ∀ c ∈ unit.toList, c = ' ' ∨ c = '\t')
  {opened after : Nat} {text : String} (follows : FollowsBraces importing unit opened text after)

include blank follows

/-- A text leaves as many braces open as are said to be. -/
theorem FollowsBraces.bracesAfter?_eq : bracesAfter? opened text.toList = some after := by
  induction follows with
  | nil opened => rfl
  | @blank opened after rest _ inductionHypothesis =>
      rw [← String.empty_append (s := "\n"), bracesAfter?_lineEnd]
      exact inductionHypothesis
  | @line opened next after text rest begins part _ inductionHypothesis =>
      have indented := (unbraced_indentation blank (lineLevel opened text)).linePart opened
      rw [bracesAfter?_lineEnd, bracesAfter?_append, (indented.append part).braces]
      exact inductionHypothesis
  | @imports after lines rest allowed unbraced inside _ inductionHypothesis =>
      have ending : bracesAfter? 0 (")\n" ++ rest).toList = some after := by
        rw [String.toList_append, bracesAfter?_append]
        exact inductionHypothesis
      rw [String.append_assoc, String.append_assoc, String.toList_append, bracesAfter?_append]
      refine (bracesAfter?_join 0 lines (")\n" ++ rest)).trans ?_
      rw [bracesAfter?_append, bracesAfter?_flatMap_of_unbraced unbraced]
      exact ending

/-- Each line of such a text that is not empty, and that does not lie in a list of imports, is
indented by the braces that are open behind the lines above it. -/
theorem FollowsBraces.at_line {front back : List String} {line : String}
    (split : fullLines text = front ++ line :: back) (some : line ≠ "")
    (outside : ¬ (importing ∧ InImports front line)) :
    ∃ now, bracesAfter? opened (front.flatMap String.toList) = .some now ∧
      IndentedAt unit now line := by
  -- The text begins with a line or with a list of imports.  Either the line in question is found
  -- there, or it is one of the text that follows.
  induction follows generalizing front with
  | nil opened =>
      have empty : line ∈ [""] := by
        rw [show [""] = front ++ line :: back from split]
        simp
      exact absurd (List.mem_singleton.mp empty) some
  | @blank opened after rest _ inductionHypothesis =>
      rw [← String.empty_append (s := "\n"), fullLines_cons (by simp)] at split
      rcases List.cons_eq_append_iff.mp split with ⟨rfl, here⟩ | ⟨front, rfl, further⟩
      · exact absurd (List.cons.inj here).1 some
      · obtain ⟨now, braces, atLine⟩ := inductionHypothesis further fun inside =>
          outside ⟨inside.1, inside.2.append [""]⟩
        exact ⟨now, braces, atLine⟩
  | @line opened next after text rest begins part _ inductionHypothesis =>
      have indented := (unbraced_indentation blank (lineLevel opened text)).linePart opened
      rw [fullLines_cons (indented.append part).unbroken] at split
      rcases List.cons_eq_append_iff.mp split with ⟨rfl, here⟩ | ⟨front, rfl, further⟩
      · obtain ⟨rfl, rfl⟩ := List.cons.inj here
        exact ⟨opened, rfl, text, rfl, begins⟩
      · obtain ⟨now, braces, atLine⟩ := inductionHypothesis further fun inside =>
          outside ⟨inside.1, inside.2.append [_]⟩
        refine ⟨now, ?_, atLine⟩
        rw [List.flatMap_cons, bracesAfter?_append, (indented.append part).braces]
        exact braces
  | @imports after lines rest allowed unbraced notEnded _ inductionHypothesis =>
      -- No line of a list of imports opens a brace: its first and its last line lie at level zero.
      have unindented {text : String} (begins : ∃ c ∈ text.toList.head?, c ≠ ' ' ∧ c ≠ '\t') :
          IndentedAt unit 0 text :=
        ⟨text, by simp [lineLevel], begins⟩
      have begun {inside : List String} (kept : inside ⊆ lines) :
          bracesAfter? 0 (("import (" :: inside).flatMap String.toList) = .some 0 := by
        rw [List.flatMap_cons, bracesAfter?_append]
        exact bracesAfter?_flatMap_of_unbraced (fun line member => unbraced line (kept member)) 0
      rw [fullLines_imports fun line member => (unbraced line member).unbroken] at split
      rcases place_in_imports split with ⟨rfl, rfl⟩ | ⟨above, rfl, kept, listed⟩ | ⟨rfl, rfl⟩ |
        ⟨above, rfl, below⟩
      · exact ⟨0, rfl, unindented ⟨'i', rfl, by decide⟩⟩
      · refine absurd ⟨allowed, ?_, [], above, rfl, fun ended => notEnded (kept ended)⟩ outside
        exact fun ends => notEnded (ends ▸ listed)
      · exact ⟨0, begun (List.Subset.refl lines), unindented ⟨')', rfl, by decide⟩⟩
      · have split (above : List String) :
            "import (" :: (lines ++ ")" :: above) = ("import (" :: lines ++ [")"]) ++ above := by
          simp
        rw [split] at outside ⊢
        obtain ⟨now, braces, atLine⟩ := inductionHypothesis below fun inside =>
          outside ⟨inside.1, inside.2.append _⟩
        refine ⟨now, ?_, atLine⟩
        rw [List.flatMap_append, List.flatMap_append, bracesAfter?_append, bracesAfter?_append,
          begun (List.Subset.refl lines)]
        exact braces

end

/-- A text in which every line that is not empty is indented by the braces that are open behind the
lines above it, and in which no brace stays open.  If `importing` holds, the lines of a list of
imports are left out of account. -/
structure KeepsToBraces (importing : Prop) (unit content : String) : Prop where
  indented {front back : List String} {line : String}
    (split : fullLines content = front ++ line :: back) (some : line ≠ "")
    (outside : ¬ (importing ∧ InImports front line)) :
    ∃ opened, bracesAfter? 0 (front.flatMap String.toList) = .some opened ∧
      IndentedAt unit opened line
  closed : bracesAfter? 0 content.toList = .some 0

theorem FollowsBraces.keepsToBraces {importing : Prop} {unit content : String}
    (blank : ∀ c ∈ unit.toList, c = ' ' ∨ c = '\t')
    (follows : FollowsBraces importing unit 0 content 0) : KeepsToBraces importing unit content :=
  ⟨follows.at_line blank, follows.bracesAfter?_eq blank⟩

/-! ### Layouts -/

section

variable {importing : Prop} {unit : String} {level : Nat}

/-- A line is indented by the braces that are open in front of it. -/
theorem FollowsBraces.ofLine {next : Nat} {text : String} (start : LineStart level next text) :
    FollowsBraces importing unit level (lineAt unit level text) next := by
  obtain ⟨c, head, ink⟩ := start.leads
  have some : text ≠ "" := by
    rintro rfl
    cases head
  have here : lineLevel level text = level :=
    if_neg fun closes => ink.2.2 (Option.some.inj (head.symm.trans closes))
  have follows : FollowsBraces importing unit level _ next :=
    .line ⟨c, head, ink.1, ink.2.1⟩ start.toLinePart (.nil next)
  rw [here, String.append_empty] at follows
  rw [lineAt_eq unit some]
  exact follows

/-- A line that begins with a closing brace lies outside the block that the brace closes. -/
theorem FollowsBraces.ofFooter {footer : String} (closes : footer.toList.head? = some '\x7d')
    (closing : LinePart 1 0 footer) :
    FollowsBraces importing unit (level + 1) (lineAt unit level footer) level := by
  have some : footer ≠ "" := by
    rintro rfl
    cases closes
  have here : lineLevel (level + 1) footer = level := if_pos closes
  have outside := closing.outside level
  rw [Nat.add_comm, Nat.zero_add] at outside
  have follows : FollowsBraces importing unit (level + 1) _ level :=
    .line ⟨'\x7d', closes, by decide⟩ outside (.nil level)
  rw [here, String.append_empty] at follows
  rw [lineAt_eq unit some]
  exact follows

/-- Steps at a level that is the number of open braces: their text keeps to the braces, and both the
level and the braces are the same behind them. -/
structure Braced (importing : Prop) (unit : String) (level : Nat) (steps : List Step) : Prop where
  follows : FollowsBraces importing unit level (renderAt unit level steps) level
  returns : levelAfter level steps = level

namespace Braced

variable {first second body : List Step}

theorem nil : Braced importing unit level [] := ⟨.nil level, rfl⟩

theorem blank : Braced importing unit level [.blank] := ⟨.blank (.nil level), rfl⟩

theorem append (one : Braced importing unit level first)
    (two : Braced importing unit level second) :
    Braced importing unit level (first ++ second) where
  follows := by
    rw [renderAt_append, one.returns]
    exact one.follows.append two.follows
  returns := by
    rw [levelAfter_append, one.returns, two.returns]

theorem cons {step : Step} (one : Braced importing unit level [step])
    (others : Braced importing unit level second) :
    Braced importing unit level (step :: second) :=
  one.append others

theorem flatMap {α : Type} {items : List α} {stepsOf : α → List Step}
    (each : ∀ item ∈ items, Braced importing unit level (stepsOf item)) :
    Braced importing unit level (items.flatMap stepsOf) := by
  induction items with
  | nil => exact nil
  | cons item items inductionHypothesis =>
      obtain ⟨first, others⟩ := List.forall_mem_cons.mp each
      rw [List.flatMap_cons]
      exact first.append (inductionHypothesis others)

theorem map {α : Type} {items : List α} {stepOf : α → Step}
    (each : ∀ item ∈ items, Braced importing unit level [stepOf item]) :
    Braced importing unit level (items.map stepOf) := by
  rw [List.map_eq_flatMap]
  exact flatMap each

/-- Text from elsewhere must have been laid out at the level where it goes in. -/
theorem splice {text : String} (follows : FollowsBraces importing unit level text level) :
    Braced importing unit level [.splice text] where
  follows := by
    rw [renderAt_cons, Step.text]
    exact follows.append (.nil level)
  returns := rfl

theorem lines {texts : List String} (each : ∀ text ∈ texts, Level text) :
    Braced importing unit level [.lines texts] where
  follows := by
    rw [renderAt_cons, Step.text]
    refine .append (.join (List.forall_mem_map.mpr fun text member => ?_)) (.nil level)
    rcases each text member with rfl | start
    · exact .blank (.nil level)
    · exact .ofLine (by simpa using start.outside level)
  returns := rfl

theorem line {text : String} (start : LineStart 0 0 text) :
    Braced importing unit level [.line text] where
  follows := by
    rw [renderAt_cons, Step.text]
    exact .append (.ofLine (by simpa using start.outside level)) (.nil level)
  returns := rfl

/-- A line that is written out. -/
theorem literal {c : Char} {rest : List Char}
    (written : (c ≠ ' ' ∧ c ≠ '\t' ∧ c ≠ '\x7d') ∧ '\n' ∉ c :: rest ∧
      bracesAfter? 0 (c :: rest) = some 0) :
    Braced importing unit level [.line (String.ofList (c :: rest))] :=
  line (.literal written)

/-- A line that opens a brace, what lies one level deeper, and the line that closes the brace.  The
two lines may open and close parentheses as well. -/
theorem enclosed {header footer : String} (opening : LineStart 0 1 header)
    (inner : Braced importing unit (level + 1) body)
    (closes : footer.toList.head? = some '\x7d') (closing : LinePart 1 0 footer) :
    Braced importing unit level ([.enter header] ++ body ++ [.leave footer]) where
  follows := by
    have opened : LineStart level (level + 1) header := by
      simpa [Nat.add_comm] using opening.outside level
    -- The header's brace is open where the body begins, one level deeper.
    rw [renderAt_append, renderAt_append, levelAfter_append, levelAfter_cons, levelAfter_nil,
      Step.levelAfter, inner.returns, renderAt_cons, renderAt_cons]
    exact .append (.append (.append (.ofLine opened) (.nil _)) inner.follows)
      (.append (.ofFooter closes closing) (.nil level))
  returns := by
    have last : levelAfter level ([.enter header] ++ body) = level + 1 := inner.returns
    rw [levelAfter_append, last]
    rfl

theorem block {header after : String} (opening : LineStart 0 0 header)
    (inner : Braced importing unit (level + 1) body) (closing : LinePart 0 0 after) :
    Braced importing unit level (block header body after) := by
  have brace : LinePart 0 1 "\x7b" := .literal (by decide)
  have endBrace : LinePart 1 0 "\x7d" := .literal (by decide)
  refine .enclosed (opening.append brace) inner ?_ (endBrace.append closing)
  rw [String.toList_append]
  rfl

end Braced

end

/-- A comma behind the items of a list does not matter. -/
theorem Level.withCommas {items : List String} (each : ∀ item ∈ items, Level item) :
    ∀ text ∈ Layout.withCommas items, Level text := by
  intro text member
  have comma : LineStart 0 0 "," := .literal (by decide)
  obtain ⟨item, itemMember, rfl | rfl⟩ := exists_of_mem_withCommas member
  · exact each text itemMember
  · rcases each item itemMember with rfl | start
    · exact .inr comma
    · exact .inr (start.append comma.toLinePart)

end RpcBindings.Layout
