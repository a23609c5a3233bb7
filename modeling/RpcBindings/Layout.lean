/-
Module: RpcBindings.Layout
Purpose: Indented text, described by steps that write lines and move the indentation.
Main exports: Layout.Step, Layout.levelAfter, Layout.render, Layout.block, Layout.withCommas
-/

namespace RpcBindings.Layout

/-!
Generated code is a list of steps.  A run of the steps begins at a level of indentation, counted in
units such as two spaces or a tab; each step writes some text and says at which level the next one
begins.  The level never falls below zero.  An empty line is written without indentation, so that no
line ends in blanks.
-/

/-- One step of a layout. -/
inductive Step where
  | line (text : String)
  | lines (texts : List String)
  | blank
  /-- A line that begins a block: what follows lies one level deeper. -/
  | enter (header : String)
  /-- A line that ends a block: it and what follows lie one level less deep. -/
  | leave (footer : String)
  /-- A line that ends a block and begins the next one. -/
  | turn (text : String)
  /-- The end of a block that has no closing line. -/
  | outdent
  /-- Text that was laid out elsewhere, taken over as it is. -/
  | splice (text : String)
deriving Repr, DecidableEq, Inhabited

/-- The blanks in front of a line. -/
def indentation (unit : String) (level : Nat) : String :=
  String.join (List.replicate level unit)

/-- A line with its indentation and its end.  A line without text has no indentation. -/
def lineAt (unit : String) (level : Nat) (text : String) : String :=
  if text = "" then "\n" else indentation unit level ++ text ++ "\n"

/-- The text that a step writes at a level. -/
def Step.text (unit : String) (level : Nat) : Step → String
  | .line text => lineAt unit level text
  | .lines texts => String.join (texts.map (lineAt unit level))
  | .blank => "\n"
  | .enter header => lineAt unit level header
  | .leave footer => lineAt unit (level - 1) footer
  | .turn text => lineAt unit (level - 1) text
  | .outdent => ""
  | .splice text => text

/-- The level at which the next step begins. -/
def Step.levelAfter (level : Nat) : Step → Nat
  | .line _ | .lines _ | .blank | .splice _ => level
  | .enter _ => level + 1
  | .leave _ | .outdent => level - 1
  | .turn _ => level - 1 + 1

/-- What each step writes, in order. -/
def pieces (unit : String) (level : Nat) : List Step → List String
  | [] => []
  | step :: rest => step.text unit level :: pieces unit (step.levelAfter level) rest

/-- The level after all steps. -/
def levelAfter (level : Nat) (steps : List Step) : Nat :=
  steps.foldl Step.levelAfter level

/-- The whole text of the steps, begun at a level. -/
def renderAt (unit : String) (level : Nat) (steps : List Step) : String :=
  String.join (pieces unit level steps)

/-- The whole text of the steps, begun without indentation. -/
def render (unit : String) (steps : List Step) : String :=
  renderAt unit 0 steps

/-- A block in braces.  `header` stands before the opening brace and `after` behind the closing
one. -/
def block (header : String) (body : List Step) (after : String) : List Step :=
  [.enter (header ++ "\x7b")] ++ body ++ [.leave ("\x7d" ++ after)]

/-- The items of a list, each but the last followed by a comma. -/
def withCommas : List String → List String
  | [] => []
  | [item] => [item]
  | item :: next :: rest => (item ++ ",") :: withCommas (next :: rest)

@[simp] theorem pieces_nil (unit : String) (level : Nat) : pieces unit level [] = [] := rfl

@[simp] theorem pieces_cons (unit : String) (level : Nat) (step : Step) (rest : List Step) :
    pieces unit level (step :: rest) =
      step.text unit level :: pieces unit (step.levelAfter level) rest := rfl

@[simp] theorem levelAfter_nil (level : Nat) : levelAfter level [] = level := rfl

@[simp] theorem levelAfter_cons (level : Nat) (step : Step) (rest : List Step) :
    levelAfter level (step :: rest) = levelAfter (step.levelAfter level) rest := rfl

theorem levelAfter_append (level : Nat) (first second : List Step) :
    levelAfter level (first ++ second) = levelAfter (levelAfter level first) second := by
  simp [levelAfter]

/-- The second part of a list of steps is written from the level where the first part ends. -/
theorem pieces_append (unit : String) (level : Nat) (first second : List Step) :
    pieces unit level (first ++ second) =
      pieces unit level first ++ pieces unit (levelAfter level first) second := by
  induction first generalizing level with
  | nil => rfl
  | cons step rest inductionHypothesis => simp [inductionHypothesis]

end RpcBindings.Layout
