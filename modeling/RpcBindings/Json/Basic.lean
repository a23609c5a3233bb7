/-
Module: RpcBindings.Json.Basic
Purpose: JSON values as they are written: members in order and repeated, numbers as literals.
Main exports: Json, Json.text?, Json.bool?, Json.int32?
-/

namespace RpcBindings

/-!
Reading a descriptor depends on details that most representations of JSON lose: a member that is
written twice is an error, and a number must be written as an integer.  So an object keeps all its
members in order, and a number keeps its literal.
-/

/-- What a string literal spells.  There is no text (`none`) when an escape names half of a
surrogate pair; such a literal is well formed, but no Unicode text has that spelling. -/
abbrev Spelling := Option String

inductive Json where
  | null
  | bool (value : Bool)
  | number (literal : String)
  | string (spelling : Spelling)
  | array (items : List Json)
  | object (members : List (Spelling × Json))
deriving Repr, Inhabited, BEq

namespace Json

def ofText (text : String) : Json := .string (some text)

def ofMembers (members : List (String × Json)) : Json :=
  .object (members.map fun (name, value) => (some name, value))

def ofInt (value : Int) : Json :=
  .number (toString value)

def text? : Json → Option String
  | .string spelling => spelling
  | _ => none

def bool? : Json → Option Bool
  | .bool value => some value
  | _ => none

/-- The digits of an integer literal, and whether a minus stands before them. -/
def integerParts (literal : List Char) : Bool × List Char :=
  match literal with
  | '-' :: digits => (true, digits)
  | digits => (false, digits)

/-- The integer that a literal spells.  Only digits may follow the sign, so `1.0` and `1e2` are no
integers, and the literal `-0` is none either. -/
def integer? (literal : String) : Option Int :=
  let (negative, digits) := integerParts literal.toList
  if digits.isEmpty || !digits.all Char.isDigit then none
  else
    let magnitude := Nat.ofDigitChars 10 digits 0
    if negative then (if magnitude = 0 then none else some (-(magnitude : Int)))
    else some magnitude

def int32? : Json → Option Int32
  | .number literal => do
      let value ← integer? literal
      if Int32.minValue.toInt ≤ value ∧ value ≤ Int32.maxValue.toInt then
        some (Int32.ofInt value)
      else none
  | _ => none

@[simp] theorem text?_ofText (text : String) : (ofText text).text? = some text := rfl

@[simp] theorem bool?_bool (value : Bool) : (Json.bool value).bool? = some value := rfl

end Json

end RpcBindings
