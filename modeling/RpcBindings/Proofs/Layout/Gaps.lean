/-
Module: RpcBindings.Proofs.Layout.Gaps
Purpose: Texts with gaps, into which other texts are put, each of them once and in order.
Main exports: Layout.Part, Layout.gapCount, Layout.fillGaps, Layout.graft, Layout.TakesOver,
  Layout.TakesOver.nested
-/
import Mathlib.Data.List.Forall2
import RpcBindings.Proofs.Layout.Rendering

namespace RpcBindings.Layout

/-!
Code that was laid out elsewhere is taken over into a file as it is.  To say that nothing of it is
dropped, repeated or moved it is not enough to find it in the file, as one piece of code may contain
another one.  The file is therefore taken as a function of these texts: one template, whatever they
are, with one gap for each of them.
-/

/-- A part of a template. -/
inductive Part where
  | fixed (text : String)
  | gap
deriving Repr, DecidableEq

/-- How many texts a template takes. -/
def gapCount (template : List Part) : Nat :=
  template.count .gap

/-- A template with texts in its gaps, the first text in the first gap.  A gap for which there is no
text is closed. -/
def fillGaps : List Part → List String → String
  | [], _ => ""
  | .fixed text :: template, texts => text ++ fillGaps template texts
  | .gap :: template, text :: texts => text ++ fillGaps template texts
  | .gap :: template, [] => fillGaps template []

@[simp] theorem gapCount_nil : gapCount [] = 0 := rfl

@[simp] theorem gapCount_fixed (text : String) (template : List Part) :
    gapCount (.fixed text :: template) = gapCount template := by
  simp [gapCount]

@[simp] theorem gapCount_gap (template : List Part) :
    gapCount (.gap :: template) = gapCount template + 1 := by
  simp [gapCount]

theorem gapCount_append (first second : List Part) :
    gapCount (first ++ second) = gapCount first + gapCount second :=
  List.count_append

/-- The first texts fill the template in front, and the others the one behind it. -/
theorem fillGaps_append {first : List Part} {texts : List String}
    (fits : gapCount first = texts.length) (second : List Part) (others : List String) :
    fillGaps (first ++ second) (texts ++ others) =
      fillGaps first texts ++ fillGaps second others := by
  induction first generalizing texts with
  | nil =>
      obtain rfl := List.eq_nil_of_length_eq_zero fits.symm
      simp [fillGaps]
  | cons part template inductionHypothesis =>
      cases part with
      | fixed text =>
          rw [gapCount_fixed] at fits
          rw [List.cons_append, fillGaps, fillGaps, inductionHypothesis fits, String.append_assoc]
      | gap =>
          rw [gapCount_gap] at fits
          obtain ⟨text, texts, rfl⟩ := List.exists_cons_of_length_eq_add_one fits.symm
          rw [List.length_cons, Nat.add_right_cancel_iff] at fits
          rw [List.cons_append, List.cons_append, fillGaps, fillGaps, inductionHypothesis fits,
            String.append_assoc]

/-! ### Templates in templates -/

/-- A template with templates in its gaps. -/
def graft : List Part → List (List Part) → List Part
  | [], _ => []
  | .fixed text :: outer, inners => .fixed text :: graft outer inners
  | .gap :: outer, inner :: inners => inner ++ graft outer inners
  | .gap :: outer, [] => graft outer []

theorem gapCount_graft {outer : List Part} {inners : List (List Part)}
    (fits : gapCount outer = inners.length) :
    gapCount (graft outer inners) = gapCount inners.flatten := by
  fun_induction graft outer inners with
  | case1 inners =>
      obtain rfl := List.eq_nil_of_length_eq_zero fits.symm
      rfl
  | case2 text outer inners inductionHypothesis =>
      rw [gapCount_fixed] at fits ⊢
      exact inductionHypothesis fits
  | case3 outer inner inners inductionHypothesis =>
      rw [gapCount_gap, List.length_cons, Nat.add_right_cancel_iff] at fits
      rw [gapCount_append, inductionHypothesis fits, List.flatten_cons, gapCount_append]
  | case4 outer inductionHypothesis =>
      rw [gapCount_gap, List.length_nil] at fits
      exact absurd fits (Nat.succ_ne_zero _)

/-- Templates have as many gaps as there are texts for all of them. -/
theorem gapCount_flatten {inners : List (List Part)} {texts : List (List String)}
    (fit : List.Forall₂ (fun inner texts => gapCount inner = texts.length) inners texts) :
    gapCount inners.flatten = texts.flatten.length := by
  induction fit with
  | nil => rfl
  | cons first _ inductionHypothesis =>
      rw [List.flatten_cons, List.flatten_cons, gapCount_append, List.length_append, first,
        inductionHypothesis]

/-- To fill the inner templates and put the results into the outer one is to fill the template that
is made of all of them. -/
theorem fillGaps_graft {inners : List (List Part)} {texts : List (List String)}
    (fit : List.Forall₂ (fun inner texts => gapCount inner = texts.length) inners texts)
    (outer : List Part) :
    fillGaps (graft outer inners) texts.flatten =
      fillGaps outer (List.zipWith fillGaps inners texts) := by
  fun_induction graft outer inners generalizing texts with
  | case1 inners => rfl
  | case2 text outer inners inductionHypothesis =>
      rw [fillGaps, fillGaps, inductionHypothesis fit]
  | case3 outer inner inners inductionHypothesis =>
      obtain ⟨first, others, fitsFirst, fitOthers, rfl⟩ := List.forall₂_cons_left_iff.mp fit
      rw [List.flatten_cons, fillGaps_append fitsFirst, inductionHypothesis fitOthers,
        List.zipWith_cons_cons, fillGaps]
  | case4 outer inductionHypothesis =>
      obtain rfl := List.forall₂_nil_left_iff.mp fit
      exact inductionHypothesis .nil

/-! ### Texts that are taken over -/

/-- What is written of some texts is one template, whatever they are, with a gap for each. -/
def TakesOver (count : Nat) (write : List String → String) : Prop :=
  ∃ template, gapCount template = count ∧
    ∀ texts : List String, texts.length = count → write texts = fillGaps template texts

namespace TakesOver

variable {count : Nat} {write : List String → String}

theorem congr {other : List String → String} (takes : TakesOver count write)
    (same : ∀ texts : List String, texts.length = count → other texts = write texts) :
    TakesOver count other := by
  obtain ⟨template, gaps, written⟩ := takes
  exact ⟨template, gaps, fun texts enough => (same texts enough).trans (written texts enough)⟩

/-- Fixed text may stand on both sides. -/
theorem around (takes : TakesOver count write) (before after : String) :
    TakesOver count fun texts => before ++ write texts ++ after := by
  obtain ⟨template, gaps, written⟩ := takes
  refine ⟨.fixed before :: (template ++ [.fixed after]), ?_, fun texts enough => ?_⟩
  · rw [gapCount_fixed, gapCount_append, gaps]
    rfl
  · have filled := fillGaps_append (gaps.trans enough.symm) [.fixed after] []
    rw [List.append_nil] at filled
    simp [fillGaps, filled, written texts enough, String.append_assoc]

/-- One more text may stand in front. -/
theorem cons (takes : TakesOver count write) :
    TakesOver (count + 1) fun texts => texts.headD "" ++ write texts.tail := by
  obtain ⟨template, gaps, written⟩ := takes
  refine ⟨.gap :: template, by rw [gapCount_gap, gaps], fun texts enough => ?_⟩
  obtain ⟨text, texts, rfl⟩ := List.exists_cons_of_length_eq_add_one enough
  rw [List.length_cons, Nat.add_right_cancel_iff] at enough
  simp [fillGaps, written texts enough]

/-- Texts one behind the other, each between the same fixed texts. -/
theorem join (count : Nat) (before after : String) :
    TakesOver count fun texts => String.join (texts.map fun text => before ++ text ++ after) := by
  induction count with
  | zero =>
      refine ⟨[], rfl, fun texts none => ?_⟩
      obtain rfl := List.eq_nil_of_length_eq_zero none
      rfl
  | succ count inductionHypothesis =>
      -- The fixed text behind the first one belongs to what is written of the others.
      refine ((inductionHypothesis.around after "").cons.around before "").congr
        fun texts enough => ?_
      obtain ⟨text, texts, rfl⟩ := List.exists_cons_of_length_eq_add_one enough
      simp [String.join_cons, String.append_assoc]

theorem intercalate (count : Nat) (separator : String) (front : List String) :
    TakesOver count fun texts => separator.intercalate (front ++ texts) := by
  cases front with
  | cons first front =>
      refine ((join count separator "").around
        (first ++ String.join (front.map (separator ++ ·))) "").congr fun texts _ => ?_
      simp [intercalate_cons, String.join_append, String.append_assoc]
  | nil =>
      cases count with
      | zero =>
          refine (join 0 "" "").congr fun texts none => ?_
          obtain rfl := List.eq_nil_of_length_eq_zero none
          rfl
      | succ count =>
          refine (join count separator "").cons.congr fun texts enough => ?_
          obtain ⟨text, texts, rfl⟩ := List.exists_cons_of_length_eq_add_one enough
          simp [intercalate_cons]

/-- Parts that take texts over have templates, and what is written of all parts fills these. -/
theorem exists_templates {α : Type} {items : List α} {sizeOf : α → Nat}
    {part : α → List String → String}
    (inner : ∀ item ∈ items, TakesOver (sizeOf item) (part item)) :
    ∃ templates : List (List Part), templates.length = items.length ∧
      ∀ texts : List (List String),
        List.Forall₂ (fun item texts => texts.length = sizeOf item) items texts →
          List.Forall₂ (fun template texts => gapCount template = texts.length) templates texts ∧
            List.zipWith part items texts = List.zipWith fillGaps templates texts := by
  induction items with
  | nil =>
      refine ⟨[], rfl, fun texts none => ?_⟩
      obtain rfl := List.forall₂_nil_left_iff.mp none
      exact ⟨.nil, rfl⟩
  | cons item items inductionHypothesis =>
      obtain ⟨first, others⟩ := List.forall_mem_cons.mp inner
      obtain ⟨template, gaps, written⟩ := first
      obtain ⟨templates, count, fill⟩ := inductionHypothesis others
      refine ⟨template :: templates, by rw [List.length_cons, count, List.length_cons], ?_⟩
      intro texts enough
      obtain ⟨firstTexts, otherTexts, enoughFirst, enoughOthers, rfl⟩ :=
        List.forall₂_cons_left_iff.mp enough
      obtain ⟨fit, same⟩ := fill otherTexts enoughOthers
      refine ⟨.cons (gaps.trans enoughFirst.symm) fit, ?_⟩
      rw [List.zipWith_cons_cons, List.zipWith_cons_cons, same, written firstTexts enoughFirst]

/-- If texts are taken over into parts, and the parts into a whole, the texts are taken over into
the whole: those of the first part first. -/
theorem nested {α : Type} {items : List α} {sizeOf : α → Nat} {part : α → List String → String}
    (outer : TakesOver items.length write)
    (inner : ∀ item ∈ items, TakesOver (sizeOf item) (part item)) :
    ∃ template, ∀ texts : List (List String),
      List.Forall₂ (fun item texts => texts.length = sizeOf item) items texts →
        gapCount template = texts.flatten.length ∧
          write (List.zipWith part items texts) = fillGaps template texts.flatten := by
  obtain ⟨whole, gaps, written⟩ := outer
  obtain ⟨templates, count, fill⟩ := exists_templates inner
  refine ⟨graft whole templates, fun texts enough => ?_⟩
  obtain ⟨fit, same⟩ := fill texts enough
  have all : (List.zipWith part items texts).length = items.length := by
    rw [List.length_zipWith, ← enough.length_eq, Nat.min_self]
  refine ⟨?_, by rw [written _ all, same, fillGaps_graft fit]⟩
  rw [gapCount_graft (gaps.trans count.symm), gapCount_flatten fit]

end TakesOver

end RpcBindings.Layout
