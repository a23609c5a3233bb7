/-
Module: RpcBindings.Json.Reader
Purpose: JSON values read from text.
Main exports: Json.parse
-/
import RpcBindings.Json.Token

namespace RpcBindings.Json

/-!
The reader takes the tokens one by one.  What it has still to finish is a stack of arrays and
objects, the innermost first, so text of any depth is read.
-/

/-- An array or object of which a value is being read.  What it holds already is kept with the
latest first. -/
inductive Frame where
  | item (items : List Json)
  | member (members : List (Spelling × Json)) (key : Spelling)
deriving Repr, Inhabited

/-- What may follow. -/
inductive Expecting where
  | awaitValue (stack : List Frame)
  | awaitFirstItem (stack : List Frame)
  | awaitFirstKey (stack : List Frame)
  | awaitKey (members : List (Spelling × Json)) (stack : List Frame)
  | awaitColon (members : List (Spelling × Json)) (key : Spelling) (stack : List Frame)
  /-- What comes behind a value. -/
  | complete (value : Json) (stack : List Frame)
deriving Repr, Inhabited

/-- Take the first token of a value. -/
def beginValue (stack : List Frame) : Token → Option Expecting
  | .null => some (.complete .null stack)
  | .bool value => some (.complete (.bool value) stack)
  | .number literal => some (.complete (.number literal) stack)
  | .string spelling => some (.complete (.string spelling) stack)
  | .openArray => some (.awaitFirstItem stack)
  | .openObject => some (.awaitFirstKey stack)
  | _ => none

/-- Take the token behind a value that is part of an array or object. -/
def continueFrame (value : Json) (stack : List Frame) : Frame → Token → Option Expecting
  | .item items, .comma => some (.awaitValue (.item (value :: items) :: stack))
  | .item items, .closeArray => some (.complete (.array (value :: items).reverse) stack)
  | .member members key, .comma => some (.awaitKey ((key, value) :: members) stack)
  | .member members key, .closeObject =>
      some (.complete (.object ((key, value) :: members).reverse) stack)
  | _, _ => none

/-- Take one token. -/
def Expecting.step : Expecting → Token → Option Expecting
  | .awaitValue stack, token => beginValue stack token
  | .awaitFirstItem stack, .closeArray => some (.complete (.array []) stack)
  | .awaitFirstItem stack, token => beginValue (.item [] :: stack) token
  | .awaitFirstKey stack, .closeObject => some (.complete (.object []) stack)
  | .awaitFirstKey stack, .string key => some (.awaitColon [] key stack)
  | .awaitKey members stack, .string key => some (.awaitColon members key stack)
  | .awaitColon members key stack, .colon => some (.awaitValue (.member members key :: stack))
  | .complete value (frame :: stack), token => continueFrame value stack frame token
  | _, _ => none

/-- The value that the tokens make up. -/
def ofTokens? (tokens : List Token) : Option Json :=
  match tokens.foldlM Expecting.step (.awaitValue []) with
  | some (.complete value []) => some value
  | _ => none

/-- The value that a text spells: one value, with nothing but blanks around it. -/
def parse (text : String) : Option Json :=
  (tokens text).bind ofTokens?

end RpcBindings.Json
