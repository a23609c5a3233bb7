/-
Module: RpcBindings.Name.Spelling
Purpose: Adjustments of a name to the habits of a target: acronyms, exported identifiers, action types.
Main exports: raiseAcronym, decapitalize, actionType
-/
import RpcBindings.Name.Casing
import RpcBindings.Text.Trim

namespace RpcBindings.Name

open Unicode

/-- Put the acronyms that message fields commonly end in into capitals, as Go spells them.

A name that ends in `Id` gets a trailing `ID`, and is all capitals if it takes at most four bytes; a
name of at most four bytes that ends in `id` is all capitals; `Url` and `Uri` are `URL` and `URI`.
Any other name stays, without the blanks around it. -/
def raiseAcronym (name : String) : String :=
  let bare := Text.trim name
  match bare.toList.reverse with
  | 'd' :: 'I' :: stem =>
      if bare.utf8ByteSize ≤ 4 then capitals bare
      else String.ofList (stem.reverse ++ ['I', 'D'])
  | 'd' :: 'i' :: _ => if bare.utf8ByteSize ≤ 4 then capitals bare else bare
  | _ => if bare = "Url" then "URL" else if bare = "Uri" then "URI" else bare

/-- Put a leading run of capitals into small letters.  `within` says that a capital of the run has
been read already: the last capital of a longer run begins the next word when something follows it,
and so it stays. -/
def lowerRun (within : Bool) : List Char → List Char
  | [] => []
  | c :: rest =>
      if isUppercase c then
        match rest with
        | [] => toLower c
        | d :: _ =>
            if within && !isUppercase d then c :: rest
            else toLower c ++ lowerRun true rest
      else c :: rest

/-- The name as an exported value: `GetFeature` becomes `getFeature`, `FOOBar` becomes `fooBar` and
`ID` becomes `id`. -/
def decapitalize (name : String) : String :=
  String.ofList (lowerRun false name.toList)

/-- The action type that stands for a method of a service: `RouteGuide` and `getFeature` give
`ROUTEGUIDE_GET_FEATURE`. -/
def actionType (service method : String) : String :=
  capitals service ++ "_" ++ capitals (snake method)

@[simp] theorem toList_decapitalize (name : String) :
    (decapitalize name).toList = lowerRun false name.toList := by
  simp [decapitalize]

/-- A name that does not begin with a capital is left alone. -/
theorem lowerRun_of_not_isUppercase {within : Bool} {c : Char} {rest : List Char}
    (small : isUppercase c = false) : lowerRun within (c :: rest) = c :: rest := by
  cases rest <;> simp [lowerRun, small]

end RpcBindings.Name
