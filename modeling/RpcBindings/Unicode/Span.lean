/-
Module: RpcBindings.Unicode.Span
Purpose: Runs of code points, the form in which the tables of character properties are written.
Main exports: Span, Span.contains, covers
-/

namespace RpcBindings.Unicode

/-!
A property of characters is a set of code points.  The sets used here have long stretches in which
every code point belongs, and long stretches in which every second one does (capital and small
letters often take turns), so a table is a list of arithmetic runs.  All tables state version 17 of
Unicode.
-/

/-- The code points `first`, `first + step`, `first + 2 * step` and so on, none beyond `last`. -/
structure Span where
  first : Nat
  last : Nat
  step : Nat
deriving Repr, DecidableEq, Inhabited

/-- Whether a code point belongs to the run. -/
def Span.contains (span : Span) (code : Nat) : Bool :=
  decide (span.first ≤ code) && decide (code ≤ span.last) &&
    (code - span.first) % span.step == 0

/-- Whether a code point belongs to one of the runs of a table. -/
def covers (table : List Span) (code : Nat) : Bool :=
  table.any fun span => span.contains code

/-- Only code points inside the bounds belong to a run. -/
theorem Span.bounds_of_contains {span : Span} {code : Nat} (member : span.contains code = true) :
    span.first ≤ code ∧ code ≤ span.last := by
  simp only [Span.contains, Bool.and_eq_true, decide_eq_true_eq] at member
  exact member.1

end RpcBindings.Unicode
