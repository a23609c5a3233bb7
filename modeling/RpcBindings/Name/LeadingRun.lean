/-
Module: RpcBindings.Name.LeadingRun
Purpose: The leading capitals of a name, put in small letters by a scan that keeps byte offsets.
Main exports: cutAt?, LoweredRun, scanCapitals?, scanned?
-/
import RpcBindings.Unicode.Case

namespace RpcBindings.Name

open Unicode

/-!
The scan writes small letters for one capital after the other.  When it meets the end of a longer
run with something behind it, it takes the letters of the last capital back and copies the name from
there on.  It therefore keeps two places: where the last capital begins in the name, and where its
small letters begin in what was written.  The two drift apart, as a small letter may take more bytes
than its capital or fewer.
-/

/-- The parts of a text in front of a byte and from it on.  There are none where the byte lies
inside a character or behind the end. -/
def cutAt? (text : String) (offset : String.Pos.Raw) : Option (String × String) :=
  if boundary : offset.IsValid text then
    some ((text.sliceTo (text.pos offset boundary)).copy,
      (text.sliceFrom (text.pos offset boundary)).copy)
  else none

/-- What the scan knows behind some capitals. -/
structure LoweredRun where
  lower : String := ""
  count : Nat := 0
  /-- Where the last capital begins in the name. -/
  inName : String.Pos.Raw := 0
  /-- Where the small letters of the last capital begin in `lower`. -/
  inLower : String.Pos.Raw := 0
deriving DecidableEq

/-- One more capital, which begins at a byte of the name. -/
def LoweredRun.read (run : LoweredRun) (offset : String.Pos.Raw) (c : Char) : LoweredRun :=
  { lower := run.lower ++ String.ofList (toLower c)
    count := run.count + 1
    inName := offset
    inLower := run.lower.rawEndPos }

/-- The result where a character that is no capital begins at a byte of the name. -/
def LoweredRun.finish? (run : LoweredRun) (name : String) (offset : String.Pos.Raw) :
    Option String :=
  if 1 < run.count then do
    let (kept, _) ← cutAt? run.lower run.inLower
    let (_, rest) ← cutAt? name run.inName
    pure (kept ++ rest)
  else do
    let (_, rest) ← cutAt? name offset
    pure (run.lower ++ rest)

/-- The scan from a byte of the name on, where the given characters are still to be read.  It fails
if a text has to be cut at a byte that is no boundary of characters. -/
def scanCapitals? (name : String) (offset : String.Pos.Raw) (run : LoweredRun) :
    List Char → Option String
  | [] => some run.lower
  | c :: unread =>
      if isUppercase c then scanCapitals? name (offset + c) (run.read offset c) unread
      else run.finish? name offset

/-- The name with its leading capitals in small letters, as the scan finds it. -/
def scanned? (name : String) : Option String :=
  scanCapitals? name 0 {} name.toList

/-- A text is cut where one of its parts ends. -/
theorem cutAt?_append (front back : String) :
    cutAt? (front ++ back) front.rawEndPos = some (front, back) := by
  have boundary : front.rawEndPos.IsValid (front ++ back) :=
    String.Pos.Raw.isValid_rawEndPos.append_right back
  have splits : ((front ++ back).pos front.rawEndPos boundary).Splits front back :=
    String.Pos.splits_append_rawEndPos
  rw [cutAt?, dif_pos boundary, splits.copy_sliceTo_eq, splits.copy_sliceFrom_eq]

end RpcBindings.Name
