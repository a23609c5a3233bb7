/-
Module: RpcBindings.Proofs.Script.Statements
Purpose: The statements of which a script consists, and the names that they bind at its top level.
Main exports: Script.Form, Script.Statement, Script.Statement.Clear, Script.Binds,
  Script.Binds.intercalate, Script.LaysOut, Script.Nested, Script.LaysOut.block
-/
import Mathlib.Data.List.Forall2
import RpcBindings.Proofs.Layout.Lines
import RpcBindings.Proofs.Name.Portable
import RpcBindings.Target.Script

namespace RpcBindings.Script

open Layout

/-!
A script is read as a list of statements.  A statement that binds a name spells it behind a fixed
text, and what follows belongs to the statement up to the line that comes back to the top level.
Names may hold any characters, so that a script is taken apart as it was written.  Where names are
portable and no text holds a line end, each statement can be told from its lines, and then the
finished text alone says which names are bound.
-/

/-! ### Lines of groups -/

/-- A text begins with a closing bracket. -/
def Closes (text : String) : Prop :=
  text.toList.head? = some ')' ∨ text.toList.head? = some '\x7d'

/-- A text that is written out is checked where it stands. -/
theorem Closes.literal {chars : List Char}
    (closes : chars.head? = some ')' ∨ chars.head? = some '\x7d') :
    Closes (String.ofList chars) := by
  rw [Closes, String.toList_ofList]
  exact closes

theorem Closes.append {first : String} (closes : Closes first) (second : String) :
    Closes (first ++ second) := by
  unfold Closes at closes ⊢
  rw [String.toList_append, List.head?_append]
  rcases closes with round | curly
  · exact Or.inl (by rw [round, Option.some_or])
  · exact Or.inr (by rw [curly, Option.some_or])

/-- A step inside a group of which every line can be told to lie in the group: no text holds a line
end, and a line that lies less deep than those around it begins with a closing bracket. -/
def InGroup : Step → Prop
  | .line text | .enter text => Unbroken text
  | .lines texts => ∀ text ∈ texts, Unbroken text
  | .leave text | .turn text => Unbroken text ∧ Closes text
  | .blank | .outdent => True
  | .splice _ => False

theorem forall_inGroup_block {header after : String} {body : List Step} :
    (∀ step ∈ Layout.block header body after, InGroup step) ↔
      Unbroken header ∧ (∀ step ∈ body, InGroup step) ∧ Unbroken after := by
  have opening : Unbroken "\x7b" := by decide
  have closing : Unbroken "\x7d" := by decide
  have closes : Closes ("\x7d" ++ after) := Closes.append (Or.inr rfl) after
  simp only [Layout.block, List.forall_mem_append, List.forall_mem_singleton, InGroup,
    unbroken_append, opening, closing, closes, and_true, true_and, and_assoc]

/-! ### Statements -/

/-- The ways in which one name is bound. -/
inductive Form where
  | exportedType
  | exportedConstant
  | exportedTypedConstant
  | exportedFunction
  | constant
  | typedConstant
deriving Repr, DecidableEq

/-- What stands before the name. -/
def Form.opening : Form → String
  | .exportedType => "export type "
  | .exportedConstant | .exportedTypedConstant => "export const "
  | .exportedFunction => "export function "
  | .constant | .typedConstant => "const "

/-- What stands behind the name. -/
def Form.closing : Form → String
  | .exportedType | .exportedConstant | .constant => " = "
  | .exportedTypedConstant | .typedConstant => ": "
  | .exportedFunction => "("

/-- How a binding of a name begins. -/
def Form.header (form : Form) (name : String) : String :=
  form.opening ++ name ++ form.closing

/-- A text begins like the binding of a name. -/
def Form.Begins (form : Form) (name text : String) : Prop :=
  ∃ rest, text = form.header name ++ rest

/-- Whether steps that begin inside a group leave it at their end, and not before. -/
def settles : Nat → List Step → Bool
  | 0, steps => steps.isEmpty
  | _ + 1, [] => false
  | level + 1, step :: rest => settles (step.levelAfter (level + 1)) rest

inductive Statement where
  | comment (text : String)
  | remark (text : String)
  | gap
  /-- The import of one name, on one line. -/
  | takeOne (name module : String)
  /-- The import of any number of names. -/
  | take (keyword : String) (names : List String) (module : String)
  /-- The export of names that are bound elsewhere. -/
  | passOn (names : List String)
  | line (form : Form) (name rest : String)
  /-- A binding that goes on over several lines.  Only the last of them comes back to the top
  level. -/
  | group (form : Form) (name rest : String) (body : List Step) (closed : settles 1 body = true)

namespace Statement

def steps : Statement → List Step
  | comment text => [.line ("// " ++ text)]
  | remark text => [.line ("/* " ++ text ++ " */")]
  | gap => [.blank]
  | takeOne name module => [.line ("import \x7b" ++ name ++ "\x7d from '" ++ module ++ "'")]
  | take keyword names module => importSteps keyword names module
  | passOn names => nameListSteps "export type" names ""
  | line form name rest => [.line (form.header name ++ rest)]
  | group form name rest body _ => .enter (form.header name ++ rest) :: body

def text (statement : Statement) : String :=
  render indentUnit statement.steps

/-- The names that a statement binds for the script. -/
def bound : Statement → List String
  | comment _ | remark _ | gap | passOn _ => []
  | takeOne name _ | line _ name _ | group _ name _ _ _ => [name]
  | take _ names _ => names

/-- A statement that can be told from its lines alone: names are portable, and no other text holds a
line end. -/
def Clear : Statement → Prop
  | comment text | remark text => Unbroken text
  | gap => True
  | takeOne name module => Name.Portable name ∧ Unbroken module
  | take keyword names module =>
      keyword ∈ ["import", "import type"] ∧ (∀ name ∈ names, Name.Portable name) ∧ Unbroken module
  | passOn names => ∀ name ∈ names, Name.Portable name
  | line _ name rest => Name.Portable name ∧ Unbroken rest
  | group _ name rest body _ => Name.Portable name ∧ Unbroken rest ∧ ∀ step ∈ body, InGroup step

end Statement

/-- A script consists of statements that bind some names, in this order.  If `clear` holds, each of
the statements can be told from its lines. -/
def Binds (clear : Prop) (script : String) (names : List String) : Prop :=
  ∃ statements : List Statement,
    script = String.join (statements.map Statement.text) ∧
      names = statements.flatMap Statement.bound ∧
      (clear → ∀ statement ∈ statements, statement.Clear)

variable {clear : Prop}

namespace Binds

theorem nil : Binds clear "" [] :=
  ⟨[], rfl, rfl, fun _ _ absent => absurd absent List.not_mem_nil⟩

theorem statement (statement : Statement) (told : clear → statement.Clear) :
    Binds clear statement.text statement.bound := by
  refine ⟨[statement], ?_, ?_, ?_⟩
  · simp [String.join_cons]
  · simp
  · exact fun holds => List.forall_mem_singleton.mpr (told holds)

theorem append {first second : String} {names more : List String} (one : Binds clear first names)
    (two : Binds clear second more) : Binds clear (first ++ second) (names ++ more) := by
  obtain ⟨statements, rfl, rfl, told⟩ := one
  obtain ⟨others, rfl, rfl, othersTold⟩ := two
  refine ⟨statements ++ others, ?_, ?_, ?_⟩
  · rw [List.map_append, String.join_append]
  · rw [List.flatMap_append]
  · exact fun holds => List.forall_mem_append.mpr ⟨told holds, othersTold holds⟩

/-- Scripts with an empty line between each two of them bind the names of all. -/
theorem intercalate {scripts : List String} {names : List (List String)}
    (each : List.Forall₂ (Binds clear) scripts names) :
    Binds clear ("\n".intercalate scripts) names.flatten := by
  induction each with
  | nil => exact nil
  | @cons script name scripts names one others inductionHypothesis =>
      cases others with
      | nil =>
          rw [List.flatten_cons, List.flatten_nil, List.append_nil, String.intercalate_singleton]
          exact one
      | cons next others =>
          rw [String.intercalate_cons_cons, List.flatten_cons]
          have gap : Binds clear "\n" [] := statement .gap fun _ => trivial
          have ended : Binds clear (script ++ "\n") name := List.append_nil name ▸ one.append gap
          exact ended.append inductionHypothesis

end Binds

/-! ### Beginnings -/

namespace Form

theorem begins_header (form : Form) (name : String) : form.Begins name (form.header name) :=
  ⟨"", String.append_empty.symm⟩

/-- What follows the name may go on behind the closing text of the form. -/
theorem begins_closing (form : Form) (name rest : String) :
    form.Begins name (form.opening ++ name ++ (form.closing ++ rest)) :=
  ⟨rest, String.append_assoc.symm⟩

theorem Begins.append {form : Form} {name text : String} (begins : form.Begins name text)
    (more : String) : form.Begins name (text ++ more) := by
  obtain ⟨rest, rfl⟩ := begins
  exact ⟨rest ++ more, String.append_assoc ..⟩

end Form

/-! ### Groups -/

theorem levelAfter_of_settles {level : Nat} {steps : List Step}
    (settled : settles level steps = true) : levelAfter level steps = 0 := by
  induction steps generalizing level with
  | nil =>
      cases level with
      | zero => rfl
      | succ level => cases settled
  | cons step steps inductionHypothesis =>
      cases level with
      | zero => cases settled
      | succ level => exact inductionHypothesis settled

/-- Steps inside a group that stay inside, at whatever depth they begin. -/
def Nested (steps : List Step) : Prop :=
  ∀ level rest, settles (level + 1) (steps ++ rest) = settles (level + 1) rest

theorem nested_nil : Nested [] := fun _ _ => rfl

theorem Nested.append {first second : List Step} (one : Nested first) (two : Nested second) :
    Nested (first ++ second) := by
  intro level rest
  rw [List.append_assoc, one, two]

theorem Nested.flatMap {α : Type} {items : List α} {stepsOf : α → List Step}
    (each : ∀ item ∈ items, Nested (stepsOf item)) : Nested (items.flatMap stepsOf) := by
  induction items with
  | nil => exact nested_nil
  | cons item items inductionHypothesis =>
      obtain ⟨first, others⟩ := List.forall_mem_cons.mp each
      rw [List.flatMap_cons]
      exact first.append (inductionHypothesis others)

theorem Nested.block {body : List Step} (inner : Nested body) (header after : String) :
    Nested (Layout.block header body after) := by
  intro level rest
  simp only [Layout.block, List.cons_append, List.nil_append, List.append_assoc, settles,
    Step.levelAfter, inner (level + 1), Nat.add_sub_cancel]

/-- A body that stays inside its group and the line that ends the group. -/
theorem Nested.settles_leave {body : List Step} (inner : Nested body) (footer : String) :
    settles 1 (body ++ [.leave footer]) = true := by
  rw [inner]
  rfl

/-! ### Layouts -/

/-- Each statement comes back to the top level. -/
theorem Statement.levelAfter_steps (statement : Statement) :
    levelAfter 0 statement.steps = 0 := by
  have listed (opening : String) (names : List String) (closing : String) :
      levelAfter 0 (nameListSteps opening names closing) = 0 := by
    unfold nameListSteps
    split
    · rfl
    · rfl
  cases statement with
  | comment text => rfl
  | remark text => rfl
  | gap => rfl
  | takeOne name module => rfl
  | take keyword names module => exact listed _ _ _
  | passOn names => exact listed _ _ _
  | line form name rest => rfl
  | group form name rest body closed =>
      have inside : levelAfter 1 body = 0 := levelAfter_of_settles closed
      exact inside

/-- Steps that write a script which binds some names, and that come back to the top level. -/
structure LaysOut (clear : Prop) (steps : List Step) (names : List String) : Prop where
  settled : levelAfter 0 steps = 0
  binds : Binds clear (render indentUnit steps) names

namespace LaysOut

theorem nil : LaysOut clear [] [] :=
  ⟨rfl, Binds.nil⟩

theorem statement (statement : Statement) (told : clear → statement.Clear) :
    LaysOut clear statement.steps statement.bound :=
  ⟨statement.levelAfter_steps, Binds.statement statement told⟩

theorem gap : LaysOut clear [.blank] [] :=
  statement .gap fun _ => trivial

theorem append {first second : List Step} {names more : List String}
    (one : LaysOut clear first names) (two : LaysOut clear second more) :
    LaysOut clear (first ++ second) (names ++ more) where
  settled := by rw [levelAfter_append, one.settled, two.settled]
  binds := by
    rw [render, renderAt_append, one.settled]
    exact one.binds.append two.binds

theorem flatMap {α : Type} {items : List α} {stepsOf : α → List Step}
    {namesOf : α → List String}
    (each : ∀ item ∈ items, LaysOut clear (stepsOf item) (namesOf item)) :
    LaysOut clear (items.flatMap stepsOf) (items.flatMap namesOf) := by
  induction items with
  | nil => exact nil
  | cons item items inductionHypothesis =>
      obtain ⟨first, others⟩ := List.forall_mem_cons.mp each
      exact first.append (inductionHypothesis others)

/-- A script that was laid out elsewhere. -/
theorem splice {script : String} {names : List String} (binds : Binds clear script names) :
    LaysOut clear [.splice script] names where
  settled := rfl
  binds := by
    rw [render, renderAt_splice]
    exact binds

theorem comment {rest text : String} (spelled : text = "// " ++ rest)
    (told : clear → Unbroken rest) : LaysOut clear [.line text] [] := by
  subst spelled
  exact statement (.comment rest) told

/-- A line that begins like the binding of a name. -/
theorem line {form : Form} {name text : String} (begins : form.Begins name text)
    (told : clear → Name.Portable name ∧ Unbroken text) : LaysOut clear [.line text] [name] := by
  obtain ⟨rest, rfl⟩ := begins
  exact statement (.line form name rest) fun holds =>
    ⟨(told holds).1, (unbroken_append.mp (told holds).2).2⟩

/-- A group of which the first line begins like the binding of a name. -/
theorem group {form : Form} {name header : String} {body : List Step}
    (begins : form.Begins name header) (closed : settles 1 body = true)
    (told : clear → Name.Portable name ∧ ∀ step ∈ .enter header :: body, InGroup step) :
    LaysOut clear (.enter header :: body) [name] := by
  obtain ⟨rest, rfl⟩ := begins
  refine statement (.group form name rest body closed) fun holds => ?_
  obtain ⟨portable, inner⟩ := told holds
  obtain ⟨first, others⟩ := List.forall_mem_cons.mp inner
  exact ⟨portable, (unbroken_append.mp first).2, others⟩

theorem block {form : Form} {name header : String} {body : List Step}
    (begins : form.Begins name header) (inner : Nested body)
    (told : clear → Name.Portable name ∧ ∀ step ∈ Layout.block header body "", InGroup step) :
    LaysOut clear (Layout.block header body "") [name] :=
  group (begins.append _) (inner.settles_leave _) told

end LaysOut

end RpcBindings.Script
