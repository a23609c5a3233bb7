/-
Module: RpcBindings.Name.Words
Purpose: The words of an identifier.
Main exports: CaseMode, cutWords, words
-/
import RpcBindings.Unicode.Alphanumeric
import RpcBindings.Unicode.Case

namespace RpcBindings.Name

open Unicode

/-!
Characters that are neither letters nor numbers separate words and belong to none.  Between two
separators a word ends in two places: where a small letter is followed by a capital (`get|Feature`),
and before the last capital of a run when a small letter follows it (`HTTP|Server`).  Characters
without case, such as digits, go on with the case of the letters before them.
-/

/-- The case of the letters of the current word, as far as it matters for where the word ends. -/
inductive CaseMode where
  | undecided
  | small
  | capital
deriving Repr, DecidableEq, Inhabited

/-- The mode after one more character. -/
def CaseMode.next (mode : CaseMode) (c : Char) : CaseMode :=
  if isLowercase c then .small else if isUppercase c then .capital else mode

/-- Cut a run of letters and numbers into words.  `word` holds the characters of the current word
that were read already, the latest first. -/
def cutWords (mode : CaseMode) (word : List Char) : List Char → List (List Char)
  | [] => []
  | [c] => [(c :: word).reverse]
  | c :: d :: rest =>
      if mode.next c = .small ∧ isUppercase d then
        (c :: word).reverse :: cutWords .undecided [] (d :: rest)
      else if mode = .capital ∧ isUppercase c ∧ isLowercase d then
        word.reverse :: cutWords .undecided [c] (d :: rest)
      else
        cutWords (mode.next c) (c :: word) (d :: rest)

/-- The words of an identifier, from left to right. -/
def words (name : List Char) : List (List Char) :=
  (name.splitOnP fun c => !isAlphanumeric c).flatMap (cutWords .undecided [])

/-- Cutting loses no character and changes no order: the words put together again are the run they
were cut from. -/
theorem flatten_cutWords (mode : CaseMode) (word run : List Char) (some : run ≠ []) :
    (cutWords mode word run).flatten = word.reverse ++ run := by
  fun_induction cutWords mode word run with
  | case1 => exact absurd rfl some
  | case2 => simp
  | case3 mode word c d rest ends ih => simp [ih]
  | case4 mode word c d rest ends starts ih => simp [ih]
  | case5 mode word c d rest ends starts ih => simp [ih]

end RpcBindings.Name
