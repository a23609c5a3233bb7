/-
Module: RpcBindings.Name.Casing
Purpose: The four ways in which generated code writes the words of a name.
Main exports: kebab, snake, camel, pascal
-/
import RpcBindings.Name.Words

namespace RpcBindings.Name

open Unicode

/-- A word in small letters.  A sigma at its end takes the form used there. -/
def smallWord : List Char → List Char
  | [] => []
  | [c] => if c = 'Σ' then ['ς'] else toLower c
  | c :: d :: rest => toLower c ++ smallWord (d :: rest)

/-- A word with a capital first letter and small letters after it. -/
def capitalWord : List Char → List Char
  | [] => []
  | c :: rest => toUpper c ++ smallWord rest

/-- The words in small letters with one character between them. -/
def separated (separator : Char) (name : List Char) : List Char :=
  [separator].intercalate ((words name).map smallWord)

/-- The name as flags and commands spell it: `GetFeature` becomes `get-feature`. -/
def kebab (name : String) : String :=
  String.ofList (separated '-' name.toList)

/-- The name with underscores: `GetFeature` becomes `get_feature`. -/
def snake (name : String) : String :=
  String.ofList (separated '_' name.toList)

/-- The words run together, each with a capital: `group_id` becomes `GroupId`. -/
def pascal (name : String) : String :=
  String.ofList ((words name.toList).flatMap capitalWord)

/-- The words run together, each but the first with a capital: `page_number` becomes
`pageNumber`. -/
def camel (name : String) : String :=
  match words name.toList with
  | [] => ""
  | first :: others => String.ofList (smallWord first ++ others.flatMap capitalWord)

@[simp] theorem toList_kebab (name : String) :
    (kebab name).toList = separated '-' name.toList := by
  simp [kebab]

@[simp] theorem toList_snake (name : String) :
    (snake name).toList = separated '_' name.toList := by
  simp [snake]

@[simp] theorem toList_pascal (name : String) :
    (pascal name).toList = (words name.toList).flatMap capitalWord := by
  simp [pascal]

end RpcBindings.Name
