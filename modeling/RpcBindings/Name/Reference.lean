/-
Module: RpcBindings.Name.Reference
Purpose: References to declared types: dotted paths, written with or without a leading dot.
Main exports: lastSegment, withoutLeadingDot, qualified, packagePrefix, member, localName?
-/

namespace RpcBindings.Name

/-!
Methods and fields refer to a type by its package, the messages around it and its own name, joined
by dots and with a dot in front: `.routeguide.Outer.Inner`.  A reference without the leading dot
means the same.
-/

/-- The part of a reference after its last dot: the type's own name. -/
def lastSegment (ref : String) : String :=
  String.ofList (ref.toList.reverse.takeWhile fun c => c != '.').reverse

def withoutLeadingDot (ref : String) : String :=
  match ref.toList with
  | '.' :: rest => String.ofList rest
  | _ => ref

/-- The reference with the dot in front, under which declared types are filed. -/
def qualified (ref : String) : String :=
  match ref.toList with
  | '.' :: _ => ref
  | _ => "." ++ ref

/-- What precedes the dot before a package's types: nothing for the unnamed package. -/
def packagePrefix (package : String) : String :=
  if package = "" then "" else "." ++ package

/-- The reference of what is declared inside a scope.  The scope of a file is its package prefix, and
the scope of a message is the message's own reference. -/
def member (scope name : String) : String :=
  scope ++ "." ++ name

/-- The part of a reference behind the package and the dot after it, if the reference lies in the
package. -/
def localName? (package ref : String) : Option String :=
  ((packagePrefix package ++ ".").toList.isPrefixOf? ref.toList).map String.ofList

/-- A reference that begins with a dot is in the filed form already. -/
theorem qualified_eq_self {ref : String} {rest : List Char} (dotted : ref.toList = '.' :: rest) :
    qualified ref = ref := by
  simp [qualified, dotted]

/-- The filed form begins with a dot. -/
theorem exists_toList_qualified (ref : String) :
    ∃ rest, (qualified ref).toList = '.' :: rest := by
  unfold qualified
  split
  · next rest dotted => exact ⟨rest, dotted⟩
  · exact ⟨ref.toList, by simp⟩

/-- The form under which types are filed is settled by the first step. -/
theorem qualified_qualified (ref : String) : qualified (qualified ref) = qualified ref := by
  obtain ⟨rest, dotted⟩ := exists_toList_qualified ref
  exact qualified_eq_self dotted

end RpcBindings.Name
