/-
Module: RpcBindings.Path
Purpose: Names of input files and what is derived from them: stems and module specifiers.
Main exports: Path.stem, Path.declarationModule
-/

namespace RpcBindings.Path

/-!
A path is split at its slashes.  The extension of a path is the part of its last segment from the
last dot on; a segment that only begins with a dot has no extension.
-/

/-- The last segment of a path, read from its end. -/
def lastSegmentReversed (path : List Char) : List Char :=
  path.reverse.takeWhile fun c => c != '/'

/-- What precedes the last segment of a path, read from its end. -/
def directoryReversed (path : List Char) : List Char :=
  path.reverse.dropWhile fun c => c != '/'

/-- A path without its extension. -/
def stemChars (path : List Char) : List Char :=
  match (lastSegmentReversed path).dropWhile fun c => c != '.' with
  | '.' :: c :: rest => (c :: rest ++ directoryReversed path).reverse
  | _ => path

/-- A path without its extension: `a/b.proto` becomes `a/b`. -/
def stem (path : String) : String :=
  String.ofList (stemChars path.toList)

/-- The module that declares the types of a file, as a module specifier. -/
def declarationModule (fileName : String) : String :=
  "./" ++ stem fileName ++ ".d"

@[simp] theorem toList_stem (path : String) : (stem path).toList = stemChars path.toList := by
  simp [stem]

/-- A path is its directory and its last segment. -/
theorem reverse_segments (path : List Char) :
    (lastSegmentReversed path ++ directoryReversed path).reverse = path := by
  simp [lastSegmentReversed, directoryReversed]

/-- A stem is a part of the path. -/
theorem mem_of_mem_stem {path : String} {c : Char} (member : c ∈ (stem path).toList) :
    c ∈ path.toList := by
  rw [toList_stem, stemChars] at member
  split at member
  · next first rest kept =>
    have suffix : first :: rest <:+ lastSegmentReversed path.toList :=
      (List.suffix_cons _ _).trans (kept ▸ List.dropWhile_suffix _)
    rw [List.mem_reverse, List.mem_append] at member
    rw [← reverse_segments path.toList, List.mem_reverse, List.mem_append]
    exact member.imp_left fun inside => suffix.mem inside
  · exact member

end RpcBindings.Path
