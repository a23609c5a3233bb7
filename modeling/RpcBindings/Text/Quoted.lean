/-
Module: RpcBindings.Text.Quoted
Purpose: Text between double quotes, the form in which error messages show what they were given.
Main exports: escaped, quoted
-/
import RpcBindings.Unicode.Visible

namespace RpcBindings.Text

open Unicode

/-!
Inside the quotes every character stands for itself as far as it can be seen.  The quote and the
backslash are marked with a backslash, four control characters have a letter or digit of their own,
and anything else that does not show alone is given by its code point.
-/

/-- The digits of a code point, hexadecimal in small letters and without leading zeros. -/
def codePointDigits (c : Char) : List Char :=
  Nat.toDigits 16 c.toNat

/-- What stands for a character inside the quotes. -/
def escaped (c : Char) : List Char :=
  match c with
  | '"' => ['\\', '"']
  | '\\' => ['\\', '\\']
  | '\n' => ['\\', 'n']
  | '\t' => ['\\', 't']
  | '\r' => ['\\', 'r']
  | '\x00' => ['\\', '0']
  | _ => if isVisible c then [c] else ['\\', 'u', '{'] ++ codePointDigits c ++ ['}']

/-- A text in double quotes. -/
def quoted (text : String) : String :=
  String.ofList (['"'] ++ text.toList.flatMap escaped ++ ['"'])

end RpcBindings.Text
