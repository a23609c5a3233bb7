/-
Module: RpcBindings.Proofs.Layout.Buffers
Purpose: Text that is written step by step into a buffer, apart or in place, at one level or another.
Main exports: Layout.Buffer, Layout.Buffer.writeAll_eq, Layout.writtenBy, Layout.NeverBelow,
  Layout.NeverSinks, Layout.renderAt_deeper, Layout.Buffer.writeAll_outcome
-/
import RpcBindings.Proofs.Layout.Rendering

namespace RpcBindings.Layout

/-!
Code is laid out in buffers.  A part of it may be laid out in a buffer of its own and then taken over
as it is, which is safe for two reasons: what steps write into a buffer depends on its unit and on its
level, but not on what is in it already; and a level more means one more unit in front of every line
and nothing else.  The second holds only as long as no block is ended that the steps did not begin,
since at level zero a line that ends a block is not written less deep.
-/

/-! ### Buffers -/

/-- A text in the making, and the level at which the next step begins. -/
structure Buffer where
  unit : String
  level : Nat
  output : String
deriving Repr, DecidableEq

namespace Buffer

/-- An empty buffer that begins at a level. -/
def atLevel (unit : String) (level : Nat) : Buffer :=
  { unit, level, output := "" }

/-- The same buffer, one level deeper. -/
def deeper (buffer : Buffer) : Buffer :=
  { buffer with level := buffer.level + 1 }

def write (buffer : Buffer) (step : Step) : Buffer :=
  { buffer with
    level := step.levelAfter buffer.level
    output := buffer.output ++ step.text buffer.unit buffer.level }

def writeAll (buffer : Buffer) (steps : List Step) : Buffer :=
  steps.foldl write buffer

/-- Steps add their layout to a buffer, which is then at the level that they reach. -/
theorem writeAll_eq (buffer : Buffer) (steps : List Step) :
    buffer.writeAll steps =
      { buffer with
        level := levelAfter buffer.level steps
        output := buffer.output ++ renderAt buffer.unit buffer.level steps } := by
  induction steps generalizing buffer with
  | nil => simp [writeAll]
  | cons step steps inductionHypothesis =>
      have next := inductionHypothesis (buffer.write step)
      simp only [writeAll, write, List.foldl_cons] at next ⊢
      rw [next, renderAt_cons, levelAfter_cons, String.append_assoc]

theorem output_writeAll_atLevel (unit : String) (level : Nat) (steps : List Step) :
    ((atLevel unit level).writeAll steps).output = renderAt unit level steps := by
  rw [writeAll_eq]
  exact String.empty_append

theorem level_writeAll (buffer : Buffer) (steps : List Step) :
    (buffer.writeAll steps).level = levelAfter buffer.level steps := by
  rw [writeAll_eq]

end Buffer

/-! ### Lines -/

/-- What a step writes if its lines are written by `write`, from the level of a line and its text. -/
def Step.writtenBy (write : Nat → String → String) (level : Nat) : Step → String
  | .line text | .enter text => write level text
  | .lines texts => String.join (texts.map (write level))
  | .blank => "\n"
  | .leave text | .turn text => write (level - 1) text
  | .outdent => ""
  | .splice text => text

/-- What steps write if the lines of `line`, `lines`, `enter`, `leave` and `turn` are written by
`write`, and all else as ever. -/
def writtenBy (write : Nat → String → String) (level : Nat) : List Step → String
  | [] => ""
  | step :: rest => step.writtenBy write level ++ writtenBy write (step.levelAfter level) rest

/-- A line with one more unit in front of it.  A line without text has no indentation, here
either. -/
def deeperLineAt (unit : String) (level : Nat) (text : String) : String :=
  if text = "" then lineAt unit level text else unit ++ lineAt unit level text

theorem Step.text_eq_writtenBy (unit : String) (level : Nat) (step : Step) :
    step.text unit level = step.writtenBy (lineAt unit) level := by
  cases step <;> rfl

/-- A layout is what its steps write with lines of the usual form. -/
theorem renderAt_eq_writtenBy (unit : String) (level : Nat) (steps : List Step) :
    renderAt unit level steps = writtenBy (lineAt unit) level steps := by
  induction steps generalizing level with
  | nil => rfl
  | cons step steps inductionHypothesis =>
      rw [renderAt_cons, inductionHypothesis, Step.text_eq_writtenBy]
      rfl

theorem indentation_succ (unit : String) (level : Nat) :
    indentation unit (level + 1) = unit ++ indentation unit level := by
  rw [indentation, List.replicate_succ, String.join_cons]
  rfl

/-- One level more is one unit more in front of a line. -/
theorem lineAt_succ (unit : String) (level : Nat) :
    lineAt unit (level + 1) = deeperLineAt unit level := by
  funext text
  unfold deeperLineAt lineAt
  split
  · rfl
  · rw [indentation_succ, String.append_assoc, String.append_assoc, String.append_assoc]

/-! ### Levels -/

/-- The lowest level that a step reaches.  A line between two blocks ends one of them. -/
def Step.lowest (level : Nat) : Step → Nat
  | .leave _ | .turn _ | .outdent => level - 1
  | .line _ | .lines _ | .blank | .enter _ | .splice _ => level

/-- From some level on the steps never reach a level below the floor. -/
def NeverBelow (floor level : Nat) : List Step → Prop
  | [] => True
  | step :: rest => floor ≤ step.lowest level ∧ NeverBelow floor (step.levelAfter level) rest

instance decidableNeverBelow (floor level : Nat) :
    (steps : List Step) → Decidable (NeverBelow floor level steps)
  | [] => .isTrue trivial
  | step :: rest =>
      @instDecidableAnd _ _ (inferInstanceAs (Decidable (_ ≤ _)))
        (decidableNeverBelow floor (step.levelAfter level) rest)

/-- The steps never go below the level at which they start, whichever it is. -/
def NeverSinks (steps : List Step) : Prop :=
  ∀ start, NeverBelow start start steps

theorem neverBelow_zero (level : Nat) (steps : List Step) : NeverBelow 0 level steps := by
  induction steps generalizing level with
  | nil => trivial
  | cons step steps inductionHypothesis => exact ⟨Nat.zero_le _, inductionHypothesis _⟩

/-- A higher start lifts all levels alike, as long as level zero is not reached from above. -/
theorem neverBelow_add_iff {floor level : Nat} (positive : 0 < floor) (more : Nat)
    (steps : List Step) :
    NeverBelow (floor + more) (level + more) steps ↔ NeverBelow floor level steps := by
  induction steps generalizing level with
  | nil => exact Iff.rfl
  | cons step steps inductionHypothesis =>
      have lowest : floor + more ≤ step.lowest (level + more) ↔ floor ≤ step.lowest level := by
        cases step <;> simp only [Step.lowest] <;> omega
      have next (reached : floor ≤ step.lowest level) :
          step.levelAfter (level + more) = step.levelAfter level + more := by
        cases step <;> simp only [Step.lowest, Step.levelAfter] at reached ⊢ <;> omega
      rw [NeverBelow, NeverBelow, lowest]
      refine and_congr_right fun reached => ?_
      rw [next reached, inductionHypothesis]

/-- Whether steps sink can be seen from any start above level zero.  Below level zero there is
nothing, and so a start there does not show it. -/
theorem neverSinks_iff {start : Nat} (positive : 0 < start) (steps : List Step) :
    NeverSinks steps ↔ NeverBelow start start steps := by
  have lifted (more : Nat) : NeverBelow (more + 1) (more + 1) steps ↔ NeverBelow 1 1 steps := by
    rw [Nat.add_comm]
    exact neverBelow_add_iff Nat.one_pos more steps
  obtain ⟨start, rfl⟩ := Nat.exists_eq_add_one.mpr positive
  constructor
  · exact fun never => never (start + 1)
  · intro never other
    cases other with
    | zero => exact neverBelow_zero 0 steps
    | succ other => exact (lifted other).mpr ((lifted start).mp never)

instance : DecidablePred NeverSinks := fun steps =>
  decidable_of_iff _ (neverSinks_iff Nat.one_pos steps).symm

/-- Steps that stay above level zero when they begin one level deeper write each line there with one
unit more in front of it, and end one level deeper. -/
theorem renderAt_deeper {floor level : Nat} {steps : List Step} (positive : 0 < floor)
    (never : NeverBelow floor (level + 1) steps) (unit : String) :
    renderAt unit (level + 1) steps = writtenBy (deeperLineAt unit) level steps ∧
      levelAfter (level + 1) steps = levelAfter level steps + 1 := by
  induction steps generalizing level with
  | nil => exact ⟨rfl, rfl⟩
  | cons step steps inductionHypothesis =>
      obtain ⟨reached, never⟩ := never
      have next : step.levelAfter (level + 1) = step.levelAfter level + 1 := by
        cases step <;> simp only [Step.lowest, Step.levelAfter] at reached ⊢ <;> omega
      have text : step.text unit (level + 1) = step.writtenBy (deeperLineAt unit) level := by
        rw [Step.text_eq_writtenBy]
        cases step with
        | line text | enter text | lines texts => simp only [Step.writtenBy, lineAt_succ]
        | leave text | turn text =>
            have above : level + 1 - 1 = level - 1 + 1 := by
              simp only [Step.lowest] at reached
              omega
            simp only [Step.writtenBy, above, lineAt_succ]
        | blank | outdent | splice text => rfl
      rw [next] at never
      obtain ⟨rest, last⟩ := inductionHypothesis never
      rw [renderAt_cons, levelAfter_cons, text, next, rest, last]
      exact ⟨rfl, rfl⟩

/-! ### In place and apart -/

/-- What steps add to a buffer is the whole output of a buffer that is empty before and begins at the
same level, and both are at one level in the end.  If that is the level at the beginning, it makes no
difference whether the steps are taken in the buffer, or elsewhere and their text is taken over.
Steps that never go below the level at which they start write the same one level deeper, but for one
more unit in front of each line with some text. -/
theorem Buffer.writeAll_outcome (buffer : Buffer) (steps : List Step) :
    let fresh := (atLevel buffer.unit buffer.level).writeAll steps
    (buffer.writeAll steps).output = buffer.output ++ fresh.output ∧
    (buffer.writeAll steps).level = fresh.level ∧
    fresh.output = renderAt buffer.unit buffer.level steps ∧
    (fresh.level = buffer.level →
      buffer.write (.splice fresh.output) = buffer.writeAll steps) ∧
    (NeverSinks steps →
      (buffer.writeAll steps).output =
        buffer.output ++ writtenBy (lineAt buffer.unit) buffer.level steps ∧
      (buffer.deeper.writeAll steps).output =
        buffer.output ++ writtenBy (deeperLineAt buffer.unit) buffer.level steps ∧
      (buffer.deeper.writeAll steps).level = (buffer.writeAll steps).level + 1) := by
  intro fresh
  have output : fresh.output = renderAt buffer.unit buffer.level steps :=
    output_writeAll_atLevel buffer.unit buffer.level steps
  have level : fresh.level = levelAfter buffer.level steps :=
    level_writeAll (atLevel buffer.unit buffer.level) steps
  refine ⟨?appended, ?levels, output, fun returns => ?spliced, fun never => ?deeper⟩
  case appended => rw [writeAll_eq, output]
  case levels => rw [writeAll_eq, level]
  case spliced =>
    rw [level] at returns
    rw [writeAll_eq, output, returns]
    rfl
  case deeper =>
    have above : 0 < buffer.level + 1 := Nat.succ_pos _
    obtain ⟨text, last⟩ := renderAt_deeper above (never (buffer.level + 1)) buffer.unit
    refine ⟨?_, ?_, ?_⟩
    · rw [writeAll_eq, renderAt_eq_writtenBy]
    · rw [writeAll_eq, ← text]
      rfl
    · rw [level_writeAll, level_writeAll]
      exact last

/-- A block with two branches, one of which holds an empty line. -/
def branchSteps : List Step :=
  [.enter "if (a) \x7b", .line "x()", .turn "\x7d else \x7b", .line "", .leave "\x7d"]

/-- The block inside another one that has been begun, and once more one level deeper. -/
theorem Buffer.writeAll_outcome_branchSteps :
    let buffer : Buffer := { unit := "  ", level := 1, output := "f() \x7b\n" }
    NeverSinks branchSteps ∧
    buffer.write (.splice (renderAt "  " 1 branchSteps)) = buffer.writeAll branchSteps ∧
    (buffer.deeper.writeAll branchSteps).output =
      "f() \x7b\n" ++ "    if (a) \x7b\n" ++ "      x()\n" ++ "    \x7d else \x7b\n" ++ "\n" ++
        "    \x7d\n" := by
  intro buffer
  have never : NeverSinks branchSteps := by decide
  obtain ⟨-, -, output, spliced, deeper⟩ := buffer.writeAll_outcome branchSteps
  refine ⟨never, ?_, (deeper never).2.1.trans (by decide)⟩
  rw [← spliced (by decide), output]

end RpcBindings.Layout
