/-
Module: RpcBindings.Json.Printer
Purpose: JSON values written as text, on one line and without blanks.
Main exports: Json.render
-/
import RpcBindings.Json.Basic

namespace RpcBindings.Json

/-- The two hexadecimal digits of a number below 256. -/
def hexPair (code : Nat) : List Char :=
  [Nat.digitChar (code / 16), Nat.digitChar (code % 16)]

/-- What stands for a character in a string literal. -/
def literalChar (c : Char) : List Char :=
  if c = '"' then ['\\', '"']
  else if c = '\\' then ['\\', '\\']
  else if c.toNat < 0x20 then ['\\', 'u', '0', '0'] ++ hexPair c.toNat
  else [c]

/-- A string literal.  One that spells no text is written with a lone surrogate. -/
def renderSpelling : Spelling → String
  | some text => String.ofList (['"'] ++ text.toList.flatMap literalChar ++ ['"'])
  | none => "\"\\ud800\""

mutual

def render : Json → String
  | .null => "null"
  | .bool true => "true"
  | .bool false => "false"
  | .number literal => literal
  | .string spelling => renderSpelling spelling
  | .array items => "[" ++ ",".intercalate (renderItems items) ++ "]"
  | .object members => "\x7b" ++ ",".intercalate (renderMembers members) ++ "\x7d"

def renderItems : List Json → List String
  | [] => []
  | item :: items => render item :: renderItems items

def renderMembers : List (Spelling × Json) → List String
  | [] => []
  | (key, value) :: members =>
      (renderSpelling key ++ ":" ++ render value) :: renderMembers members

end

end RpcBindings.Json
