/-
Module: RpcBindings.Descriptor.FieldKind
Purpose: The kinds of values that a message field holds, and how often it holds one.
Main exports: FieldKind, FieldKind.all, FieldKind.ofWord?, FieldKind.isScalar, Label
-/

namespace RpcBindings

/-- The kind of a field's value, as it is encoded on the wire. -/
inductive FieldKind where
  | double
  | float
  | int64
  | uint64
  | int32
  | fixed64
  | fixed32
  | bool
  | string
  | group
  | message
  | bytes
  | uint32
  | enum
  | sfixed32
  | sfixed64
  | sint32
  | sint64
deriving Repr, DecidableEq, Inhabited

namespace FieldKind

def all : List FieldKind :=
  [.double, .float, .int64, .uint64, .int32, .fixed64, .fixed32, .bool, .string, .group, .message,
   .bytes, .uint32, .enum, .sfixed32, .sfixed64, .sint32, .sint64]

def word : FieldKind → String
  | .double => "double"
  | .float => "float"
  | .int64 => "int64"
  | .uint64 => "uint64"
  | .int32 => "int32"
  | .fixed64 => "fixed64"
  | .fixed32 => "fixed32"
  | .bool => "bool"
  | .string => "string"
  | .group => "group"
  | .message => "message"
  | .bytes => "bytes"
  | .uint32 => "uint32"
  | .enum => "enum"
  | .sfixed32 => "sfixed32"
  | .sfixed64 => "sfixed64"
  | .sint32 => "sint32"
  | .sint64 => "sint64"

def ofWord? (word : String) : Option FieldKind :=
  all.find? fun kind => kind.word == word

theorem ofWord?_word (kind : FieldKind) : ofWord? kind.word = some kind := by
  cases kind <;> decide

/-- Whether a value of the kind is a number, a truth value or a text: something that fits in one
flag of a command. -/
def isScalar : FieldKind → Bool
  | .group | .message | .bytes | .enum => false
  | _ => true

end FieldKind

/-- How often a field occurs in a message. -/
inductive Label where
  | optional
  | required
  | repeated
deriving Repr, DecidableEq, Inhabited

namespace Label

def all : List Label := [.optional, .required, .repeated]

def word : Label → String
  | .optional => "optional"
  | .required => "required"
  | .repeated => "repeated"

def ofWord? (word : String) : Option Label :=
  all.find? fun label => label.word == word

theorem ofWord?_word (label : Label) : ofWord? label.word = some label := by
  cases label <;> decide

end Label

end RpcBindings
