/-
Module: RpcBindings.Json.Record
Purpose: Records with named fields, read from JSON values.
Main exports: Json.Record, Json.Record.ofJson?, Json.Record.required, Json.Record.withDefault,
  Json.deeper, Json.listOf?
-/
import RpcBindings.Json.Basic

namespace RpcBindings.Json

/-!
A record is written as an object, or as an array that gives its fields in their order.  An object
may have members that the record does not know; they are passed over, whatever they hold.  A field
written twice is an error, and so are more values in an array than there are fields.

Arrays and objects may be nested to a limited depth, so the readers carry the number of levels that
are left.  Values that are passed over do not count.
-/

/-- The fields of a record that were given, with their values. -/
structure Record where
  given : List (String × Json)

namespace Record

/-- The members of an object that are fields of the record, or nothing if a key has no text. -/
def knownMembers? (names : List String) : List (Spelling × Json) → Option (List (String × Json))
  | [] => some []
  | (none, _) :: _ => none
  | (some key, value) :: members => do
      let others ← knownMembers? names members
      pure (if names.contains key then (key, value) :: others else others)

def ofJson? (names : List String) : Json → Option Record
  | .array items =>
      if items.length ≤ names.length then some ⟨names.zip items⟩ else none
  | .object members => do
      let known ← knownMembers? names members
      if (known.map Prod.fst).Nodup then some ⟨known⟩ else none
  | _ => none

variable {α : Type}

def required (record : Record) (name : String) (read : Json → Option α) : Option α := do
  let value ← record.given.lookup name
  read value

def withDefault (record : Record) (name : String) (read : Json → Option α) (default : α) :
    Option α :=
  match record.given.lookup name with
  | some value => read value
  | none => some default

/-- The text of a field that may be absent, which can also be written as `null`. -/
def optionalText (record : Record) (name : String) : Option (Option String) :=
  match record.given.lookup name with
  | some .null => some none
  | some value => value.text?.map some
  | none => some none

end Record

variable {α : Type}

/-- Go one level deeper, if a level is left. -/
def deeper (levels : Nat) (read : Nat → Option α) : Option α :=
  match levels with
  | 0 => none
  | inner + 1 => read inner

/-- Read an array of which every item is read in one way. -/
def listOf? (item : Nat → Json → Option α) (levels : Nat) (json : Json) : Option (List α) :=
  deeper levels fun inner =>
    match json with
    | .array items => items.mapM (item inner)
    | _ => none

end RpcBindings.Json
