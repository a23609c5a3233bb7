/-
Module: RpcBindings.Unicode.Case
Purpose: Letter case of single characters, and text in capitals.
Main exports: isUppercase, isLowercase, toLower, toUpper, capitals
-/
import RpcBindings.Unicode.CaseTables

namespace RpcBindings.Unicode

/-!
A character may have several characters as its counterpart (`ß` has `SS`), so both mappings give
lists.  Neither looks at the text around the character.  ASCII characters are answered by the
standard library, and the tables hold what lies above.
-/

/-- Whether a character is a capital letter. -/
def isUppercase (c : Char) : Bool :=
  if c.toNat < 0x80 then c.isUpper else covers uppercaseSpans c.toNat

/-- Whether a character is a small letter. -/
def isLowercase (c : Char) : Bool :=
  if c.toNat < 0x80 then c.isLower else covers lowercaseSpans c.toNat

/-- The small counterpart of a character.  The dotted capital `İ` is the only one that takes two
characters, an `i` and a combining dot. -/
def toLower (c : Char) : List Char :=
  if c.toNat < 0x80 then [c.toLower]
  else if c.toNat = 0x130 then ['i', Char.ofNat 0x307]
  else [(shifted lowerShifts c.toNat).getD c]

/-- The capital counterpart of a character. -/
def toUpper (c : Char) : List Char :=
  if c.toNat < 0x80 then [c.toUpper]
  else match upperExpansions.lookup c.toNat with
    | some codes => codes.map Char.ofNat
    | none => [(shifted upperShifts c.toNat).getD c]

/-- A text with every character replaced by its capital counterpart. -/
def capitals (text : String) : String :=
  String.ofList (text.toList.flatMap toUpper)

theorem toLower_of_ascii {c : Char} (ascii : c.toNat < 0x80) :
    toLower c = [c.toLower] := by
  simp [toLower, ascii]

theorem toUpper_of_ascii {c : Char} (ascii : c.toNat < 0x80) :
    toUpper c = [c.toUpper] := by
  simp [toUpper, ascii]

/-- No character disappears when it is put in small letters. -/
theorem toLower_ne_nil (c : Char) : toLower c ≠ [] := by
  unfold toLower
  split
  · simp
  · split <;> simp

@[simp] theorem toList_capitals (text : String) :
    (capitals text).toList = text.toList.flatMap toUpper := by
  simp [capitals]

end RpcBindings.Unicode
