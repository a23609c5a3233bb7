/-
Module: RpcBindings.Text.Trim
Purpose: Text without the blanks around it.
Main exports: trimBlanks, trim
-/
import RpcBindings.Unicode.WhiteSpace

namespace RpcBindings.Text

open Unicode

/-- The characters from the first to the last one that is not blank. -/
def trimBlanks (text : List Char) : List Char :=
  ((text.dropWhile isWhiteSpace).reverse.dropWhile isWhiteSpace).reverse

/-- A text without the blanks at its start and at its end. -/
def trim (text : String) : String :=
  String.ofList (trimBlanks text.toList)

@[simp] theorem trimBlanks_nil : trimBlanks [] = [] := rfl

@[simp] theorem toList_trim (text : String) : (trim text).toList = trimBlanks text.toList := by
  simp [trim]

private theorem dropWhile_eq_self {p : Char → Bool} {text : List Char}
    (clear : ∀ c ∈ text, p c = false) : text.dropWhile p = text := by
  cases text with
  | nil => rfl
  | cons c rest => simp [clear c (by simp)]

/-- A text that holds no blank is left alone. -/
theorem trimBlanks_eq_self {text : List Char} (clear : ∀ c ∈ text, isWhiteSpace c = false) :
    trimBlanks text = text := by
  have reversed : ∀ c ∈ text.reverse, isWhiteSpace c = false := by
    intro c member
    exact clear c (List.mem_reverse.mp member)
  simp [trimBlanks, dropWhile_eq_self clear, dropWhile_eq_self reversed]

end RpcBindings.Text
