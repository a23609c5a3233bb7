/-
Module: RpcBindings.Unicode.WhiteSpace
Purpose: The characters that count as blank when text is trimmed.
Main exports: isWhiteSpace
-/
import RpcBindings.Unicode.Span

namespace RpcBindings.Unicode

/-- The code points with the property `White_Space`. -/
def whiteSpaceSpans : List Span :=
  [⟨0x9, 0xD, 1⟩, ⟨0x20, 0x20, 1⟩, ⟨0x85, 0x85, 1⟩, ⟨0xA0, 0xA0, 1⟩, ⟨0x1680, 0x1680, 1⟩,
   ⟨0x2000, 0x200A, 1⟩, ⟨0x2028, 0x2029, 1⟩, ⟨0x202F, 0x202F, 1⟩, ⟨0x205F, 0x205F, 1⟩,
   ⟨0x3000, 0x3000, 1⟩]

/-- Whether a character is blank: tabs, line ends, and the spaces of every width. -/
def isWhiteSpace (c : Char) : Bool :=
  covers whiteSpaceSpans c.toNat

end RpcBindings.Unicode
