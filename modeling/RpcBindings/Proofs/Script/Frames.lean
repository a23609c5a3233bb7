/-
Module: RpcBindings.Proofs.Script.Frames
Purpose: The text of a list of names, and what a script has around the lists of its types.
Main exports: Script.nameBlock, Script.importBlock, Script.render_nameListSteps, Script.Frame,
  Script.Frame.around, Script.Frame.render_eq
-/
import RpcBindings.Proofs.Layout.Rendering
import RpcBindings.Target.Script

namespace RpcBindings.Script

open Layout

/-!
A script that uses types of other modules has lists of them at its top.  Above the lists stand
comments and imports of values, and below them the code; neither depends on how types are listed.
-/

/-! ### Lists of names -/

/-- Names between braces, one to a line, with a comma behind each but the last.  There is nothing if
there are no names. -/
def nameBlock (opening : String) (names : List String) (closing : String) : String :=
  if names = [] then ""
  else
    opening ++ " " ++ "\x7b" ++ "\n" ++
      String.join ((names.dropLast.map (· ++ ",") ++ names.getLast?.toList).map
        (lineAt indentUnit 1)) ++
      "\x7d" ++ closing ++ "\n" ++ "\n"

/-- The import of some names from a module. -/
def importBlock (keyword : String) (names : List String) (module : String) : String :=
  nameBlock keyword names (" from '" ++ module ++ "'")

theorem balanced_nameListSteps (opening : String) (names : List String) (closing : String) :
    Balanced (nameListSteps opening names closing) := by
  unfold nameListSteps
  split
  · exact balanced_nil
  · exact (Balanced.block (balanced_singleton fun _ => rfl) _ _).append
      (balanced_singleton fun _ => rfl)

theorem render_nameListSteps (opening : String) (names : List String) (closing : String) :
    render indentUnit (nameListSteps opening names closing) = nameBlock opening names closing := by
  unfold nameListSteps nameBlock
  by_cases none : names = []
  · rw [if_pos (by simp [none]), if_pos none]
    rfl
  · rw [if_neg (by simp [none]), if_neg none]
    have listed : Balanced [.lines (withCommas names)] := fun _ => rfl
    rw [render, renderAt_append_of_balanced _ (listed.block _ _), renderAt_block _ listed,
      lineAt_eq _ (by simp), lineAt_eq _ (by simp)]
    simp only [renderAt_cons, renderAt_nil, Step.text, withCommas_eq, indentation_zero,
      String.empty_append, String.append_empty, String.append_assoc]

/-- The block is missing exactly when there is nothing to list. -/
theorem nameBlock_eq_empty_iff {opening : String} {names : List String} {closing : String} :
    nameBlock opening names closing = "" ↔ names = [] := by
  unfold nameBlock
  by_cases none : names = []
  · exact iff_of_true (if_pos none) none
  · rw [if_neg none]
    exact iff_of_false (by simp) none

/-! ### Frames -/

/-- Code that was laid out elsewhere stands behind the lines above it. -/
theorem render_append_splice {above : List Step} (balanced : Balanced above) (code : String) :
    render indentUnit (above ++ [.splice code]) = render indentUnit above ++ code := by
  rw [render, renderAt_append_of_balanced _ balanced, renderAt_splice]
  rfl

/-- What a script has around the lists of its types. -/
structure Frame where
  above : FileContext → List Step
  below : FileContext → List Step
  /-- The lists begin at the top level. -/
  balanced : ∀ context, Balanced (above context)

namespace Frame

variable (frame : Frame) (context : FileContext)

/-- A script in its frame. -/
def around (lists : String) : String :=
  render indentUnit (frame.above context) ++ lists ++ render indentUnit (frame.below context)

theorem render_eq {lists : List Step} (balanced : Balanced lists) :
    render indentUnit (frame.above context ++ lists ++ frame.below context) =
      frame.around context (render indentUnit lists) := by
  have above := frame.balanced context
  rw [render, renderAt_append_of_balanced _ (above.append balanced),
    renderAt_append_of_balanced _ above]
  rfl

end Frame

end RpcBindings.Script
