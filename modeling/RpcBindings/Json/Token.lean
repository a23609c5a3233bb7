/-
Module: RpcBindings.Json.Token
Purpose: The tokens of JSON text.
Main exports: Json.Token, Json.tokens
-/
import RpcBindings.Json.Basic

namespace RpcBindings.Json

inductive Token where
  | openArray
  | closeArray
  | openObject
  | closeObject
  | comma
  | colon
  | null
  | bool (value : Bool)
  | number (literal : String)
  | string (spelling : Spelling)
deriving Repr, DecidableEq, Inhabited

/-! ### Strings -/

/-- What one part of a string literal stands for: a character, or a unit of UTF-16 that an escape
gives in hexadecimal. -/
inductive Piece where
  | char (value : Char)
  | unit (code : Nat)
deriving Repr, DecidableEq, Inhabited

def hexDigit? (c : Char) : Option Nat :=
  if '0' ≤ c ∧ c ≤ '9' then some (c.toNat - '0'.toNat)
  else if 'a' ≤ c ∧ c ≤ 'f' then some (c.toNat - 'a'.toNat + 10)
  else if 'A' ≤ c ∧ c ≤ 'F' then some (c.toNat - 'A'.toNat + 10)
  else none

def hexUnit? (a b c d : Char) : Option Nat := do
  let first ← hexDigit? a
  let second ← hexDigit? b
  let third ← hexDigit? c
  let fourth ← hexDigit? d
  pure (((first * 16 + second) * 16 + third) * 16 + fourth)

/-- The character that a mark after a backslash stands for. -/
def escapedChar? : Char → Option Char
  | '"' => some '"'
  | '\\' => some '\\'
  | '/' => some '/'
  | 'b' => some '\x08'
  | 'f' => some '\x0c'
  | 'n' => some '\n'
  | 'r' => some '\r'
  | 't' => some '\t'
  | _ => none

/-- Read a string literal from behind its opening quote: its parts, after those in `read` (the
latest first), and the text behind the closing quote.  Control characters must be escaped. -/
def readString (read : List Piece) : List Char → Option (List Piece × List Char)
  | [] => none
  | '"' :: rest => some (read.reverse, rest)
  | '\\' :: 'u' :: a :: b :: c :: d :: rest =>
      match hexUnit? a b c d with
      | some code => readString (.unit code :: read) rest
      | none => none
  | '\\' :: mark :: rest =>
      match escapedChar? mark with
      | some c => readString (.char c :: read) rest
      | none => none
  | c :: rest =>
      if c.toNat < 0x20 ∨ c = '\\' then none else readString (.char c :: read) rest

def isHighSurrogate (code : Nat) : Bool := decide (0xD800 ≤ code) && decide (code < 0xDC00)

def isLowSurrogate (code : Nat) : Bool := decide (0xDC00 ≤ code) && decide (code < 0xE000)

/-- The text of the parts of a literal, after the characters in `read` (the latest first).  Two
escapes that form a surrogate pair give one character, and half of a pair gives none. -/
def spell (read : List Char) : List Piece → Spelling
  | [] => some (String.ofList read.reverse)
  | .char c :: rest => spell (c :: read) rest
  | .unit high :: .unit low :: rest =>
      if isHighSurrogate high then
        if isLowSurrogate low then
          spell (Char.ofNat (0x10000 + (high - 0xD800) * 0x400 + (low - 0xDC00)) :: read) rest
        else none
      else if isLowSurrogate high then none
      else spell (Char.ofNat high :: read) (.unit low :: rest)
  | .unit code :: rest =>
      if isHighSurrogate code || isLowSurrogate code then none
      else spell (Char.ofNat code :: read) rest

/-! ### Bare words -/

/-- The characters of numbers and of the words `null`, `true` and `false`. -/
def isBare (c : Char) : Bool :=
  c.isAlphanum || c == '-' || c == '+' || c == '.'

/-- What follows one or more digits. -/
def afterDigits? : List Char → Option (List Char)
  | c :: rest => if c.isDigit then some (rest.dropWhile Char.isDigit) else none
  | [] => none

/-- What follows the integer part of a number: a zero alone, or digits that do not begin with
zero. -/
def afterInteger? : List Char → Option (List Char)
  | '0' :: rest => some rest
  | text => afterDigits? text

/-- What follows the fraction of a number, if it has one. -/
def afterFraction? : List Char → Option (List Char)
  | '.' :: rest => afterDigits? rest
  | text => some text

/-- What follows the exponent of a number, if it has one. -/
def afterExponent? : List Char → Option (List Char)
  | e :: rest =>
      if e = 'e' ∨ e = 'E' then
        match rest with
        | '+' :: digits => afterDigits? digits
        | '-' :: digits => afterDigits? digits
        | digits => afterDigits? digits
      else some (e :: rest)
  | [] => some []

/-- Whether a bare word is a number. -/
def isNumber (word : List Char) : Bool :=
  let unsigned := match word with
    | '-' :: rest => rest
    | rest => rest
  ((afterInteger? unsigned).bind afterFraction?).bind afterExponent? == some []

/-- The token that a bare word is. -/
def bareToken? (word : List Char) : Option Token :=
  if word = ['n', 'u', 'l', 'l'] then some .null
  else if word = ['t', 'r', 'u', 'e'] then some (.bool true)
  else if word = ['f', 'a', 'l', 's', 'e'] then some (.bool false)
  else if isNumber word then some (.number (String.ofList word))
  else none

/-! ### Text -/

def isBlank (c : Char) : Bool :=
  c == ' ' || c == '\t' || c == '\n' || c == '\r'

/-- The token that begins with the character `c`, and the text behind it. -/
def nextToken? (c : Char) (rest : List Char) : Option (Token × List Char) :=
  match c with
  | '[' => some (.openArray, rest)
  | ']' => some (.closeArray, rest)
  | '{' => some (.openObject, rest)
  | '}' => some (.closeObject, rest)
  | ',' => some (.comma, rest)
  | ':' => some (.colon, rest)
  | '"' => do
      let (pieces, after) ← readString [] rest
      pure (.string (spell [] pieces), after)
  | _ => do
      let token ← bareToken? (c :: rest.takeWhile isBare)
      pure (token, rest.dropWhile isBare)

/-- A string literal is no longer than the text it is read from. -/
theorem length_readString {read pieces : List Piece} {text after : List Char}
    (found : readString read text = some (pieces, after)) : after.length ≤ text.length := by
  fun_induction readString read text with
  | case1 => simp at found
  | case2 read rest =>
      simp only [Option.some.injEq, Prod.mk.injEq] at found
      simp [← found.2]
  | case3 read a b c d rest code unit inductionHypothesis =>
      have bound := inductionHypothesis found
      simp only [List.length_cons]
      omega
  | case4 => simp at found
  | case5 read mark rest notUnit c escape inductionHypothesis =>
      have bound := inductionHypothesis found
      simp only [List.length_cons]
      omega
  | case6 => simp at found
  | case7 => simp at found
  | case8 read c rest _ _ _ plain inductionHypothesis =>
      have bound := inductionHypothesis found
      simp only [List.length_cons]
      omega

private theorem length_dropWhile_le (p : Char → Bool) (text : List Char) :
    (text.dropWhile p).length ≤ text.length :=
  (List.dropWhile_sublist p).length_le

/-- A token takes at least the character it begins with. -/
theorem length_nextToken? {c : Char} {rest after : List Char} {token : Token}
    (found : nextToken? c rest = some (token, after)) : after.length ≤ rest.length := by
  unfold nextToken? at found
  split at found
  case h_7 =>
    cases reading : readString [] rest with
    | none => simp [reading] at found
    | some result =>
        simp [reading] at found
        rw [← found.2]
        exact length_readString reading
  case h_8 =>
    cases word : bareToken? (c :: rest.takeWhile isBare) with
    | none => simp [word] at found
    | some bare =>
        simp [word] at found
        rw [← found.2]
        exact length_dropWhile_le isBare rest
  all_goals
    simp at found
    simp [found.2]

/-- The tokens of a text, after those in `read` (the latest first). -/
def readTokens (read : List Token) (text : List Char) : Option (List Token) :=
  match text with
  | [] => some read.reverse
  | c :: rest =>
      if isBlank c then readTokens read rest
      else
        match _found : nextToken? c rest with
        | some (token, after) => readTokens (token :: read) after
        | none => none
termination_by text.length
decreasing_by
  · simp
  · have bound := length_nextToken? _found
    simp only [List.length_cons]
    omega

def tokens (text : String) : Option (List Token) :=
  readTokens [] text.toList

end RpcBindings.Json
