/-
Module: RpcBindings.Proofs.Path.Resolution
Purpose: Where paths lead, and what a relative specifier means in the file that imports it.
Main exports: Path.Place, Path.Place.follow, Path.directory, Path.resolve, Path.Place.follow_eq,
  Path.Reaches, Path.resolve_declarationModule_eq_iff, Path.reaches_iff_of_descending
-/
import Mathlib.Data.List.Induction
import RpcBindings.Path

namespace RpcBindings.Path

/-!
A path is followed segment by segment.  A place is where one gets: some directories above the place
where the path began, and then down through names.  Two dots go up, out of the innermost name if
there is one; above the root of all directories there is nothing.
-/

/-- Where a path leads: `up` directories above the beginning, or above the root if it is `rooted`,
and from there down through names, of which the innermost stands first. -/
structure Place where
  rooted : Bool
  up : Nat := 0
  inner : List String := []
deriving Repr, DecidableEq

namespace Place

/-- One segment further. -/
def enter (place : Place) (segment : String) : Place :=
  if segment = "" ∨ segment = "." then place
  else if segment = ".." then
    match place.inner with
    | _ :: outer => { place with inner := outer }
    | [] => if place.rooted then place else { place with up := place.up + 1 }
  else { place with inner := segment :: place.inner }

def follow (place : Place) (segments : List String) : Place :=
  segments.foldl enter place

/-- A relative place, seen from another one. -/
def within (place relative : Place) : Place :=
  { rooted := place.rooted
    up := if place.rooted then place.up else place.up + (relative.up - place.inner.length)
    inner := relative.inner ++ place.inner.drop relative.up }

end Place

/-- The parts of a path between its slashes. -/
def segments (path : String) : List String :=
  (path.toList.splitOn '/').map String.ofList

/-- Where a path begins: at the root if it begins with a slash. -/
def start (path : String) : Place :=
  { rooted := path.toList.head? == some '/' }

def place (path : String) : Place :=
  (start path).follow (segments path)

/-- The directory in which a file lies. -/
def directory (path : String) : Place :=
  (start path).follow (segments path).dropLast

/-- What a relative specifier means in a file. -/
def resolve (importer specifier : String) : Place :=
  (directory importer).follow (segments specifier)

namespace Place

theorem follow_append (place : Place) (first second : List String) :
    place.follow (first ++ second) = (place.follow first).follow second :=
  List.foldl_append

theorem follow_cons (place : Place) (segment : String) (segments : List String) :
    place.follow (segment :: segments) = (place.enter segment).follow segments := rfl

@[simp] theorem rooted_enter (place : Place) (segment : String) :
    (place.enter segment).rooted = place.rooted := by
  unfold enter
  split
  · rfl
  · split
    · cases place.inner with
      | nil =>
          simp only
          split
          · rfl
          · rfl
      | cons name outer => rfl
    · rfl

@[simp] theorem rooted_follow (place : Place) (segments : List String) :
    (place.follow segments).rooted = place.rooted := by
  induction segments generalizing place with
  | nil => rfl
  | cons segment segments inductionHypothesis =>
      rw [follow_cons, inductionHypothesis, rooted_enter]

/-- From the root one does not get above it. -/
theorem up_enter_of_rooted {place : Place} (rooted : place.rooted = true) (segment : String) :
    (place.enter segment).up = place.up := by
  unfold enter
  split
  · rfl
  · split
    · cases place.inner with
      | nil => rfl
      | cons name outer => rfl
    · rfl

theorem up_follow_of_rooted {place : Place} (rooted : place.rooted = true)
    (segments : List String) : (place.follow segments).up = place.up := by
  induction segments generalizing place with
  | nil => rfl
  | cons segment segments inductionHypothesis =>
      rw [follow_cons, inductionHypothesis ((rooted_enter place segment).trans rooted),
        up_enter_of_rooted rooted]

/-- Without two dots one does not get further up. -/
theorem up_follow_of_descending (place : Place) {segments : List String}
    (descending : ".." ∉ segments) : (place.follow segments).up = place.up := by
  induction segments generalizing place with
  | nil => rfl
  | cons segment segments inductionHypothesis =>
      obtain ⟨different, others⟩ := not_or.mp (mt List.mem_cons.mpr descending)
      have same : (place.enter segment).up = place.up := by
        unfold enter
        split
        · rfl
        · rw [if_neg (Ne.symm different)]
      rw [follow_cons, inductionHypothesis _ others, same]

/-- One segment further from a relative place is one segment further from where it is seen. -/
theorem within_enter (place : Place) {relative : Place} (unrooted : relative.rooted = false)
    (segment : String) :
    place.within (relative.enter segment) = (place.within relative).enter segment := by
  by_cases skipped : segment = "" ∨ segment = "."
  · simp only [enter, if_pos skipped]
  · by_cases parent : segment = ".."
    · cases names : relative.inner with
      | cons name outer => simp [enter, within, parent, names]
      | nil =>
          -- The relative place goes up, out of the innermost name of the other one if there is any.
          cases left : place.inner.drop relative.up with
          | nil =>
              have short : place.inner.length ≤ relative.up := List.drop_eq_nil_iff.mp left
              have further : place.inner.drop (relative.up + 1) = [] :=
                List.drop_eq_nil_iff.mpr (Nat.le_succ_of_le short)
              have up : place.up + (relative.up + 1 - place.inner.length) =
                  place.up + (relative.up - place.inner.length) + 1 := by omega
              cases rooted : place.rooted <;>
                simp [enter, within, parent, names, unrooted, rooted, left, further, up]
          | cons name outer =>
              have long : relative.up < place.inner.length := by
                by_contra short
                rw [List.drop_eq_nil_of_le (Nat.not_lt.mp short)] at left
                cases left
              have further : place.inner.drop (relative.up + 1) = outer := by
                rw [← List.tail_drop, left, List.tail_cons]
              have up : relative.up + 1 - place.inner.length =
                  relative.up - place.inner.length := by omega
              simp [enter, within, parent, names, unrooted, left, further, up]
    · simp [enter, within, skipped, parent]

/-- Following segments leads to the place to which they lead by themselves, seen from the place
where one begins. -/
theorem follow_eq (place : Place) (segments : List String) :
    place.follow segments = place.within (Place.follow { rooted := false } segments) := by
  induction segments using List.reverseRecOn with
  | nil => simp [follow, within]
  | append_singleton segments segment inductionHypothesis =>
      rw [follow_append, follow_append, inductionHypothesis]
      exact (within_enter place (rooted_follow _ _) segment).symm

/-- The same segments lead from a place where they lead from the top exactly when they go up far
enough to leave all names of the place, and when these are the ways by which the place was left
before. -/
theorem follow_eq_follow_iff (place : Place) (rooted : Bool) (segments : List String)
    (bounded : place.rooted = true → place.up = 0) :
    place.follow segments = Place.follow { rooted } segments ↔
      place.rooted = rooted ∧ place.inner.length ≤ (Place.follow { rooted := false } segments).up ∧
        (rooted = false → place.up = place.inner.length) := by
  rw [follow_eq place, follow_eq { rooted }]
  generalize Place.follow { rooted := false } segments = relative
  have left_iff : relative.inner ++ place.inner.drop relative.up = relative.inner ++ [] ↔
      place.inner.length ≤ relative.up := by
    rw [List.append_cancel_left_eq, List.drop_eq_nil_iff]
  have within_top : Place.within { rooted } relative =
      { rooted, up := if rooted then 0 else relative.up, inner := relative.inner ++ [] } := by
    simp [within]
  rw [within_top, within, Place.mk.injEq, left_iff]
  refine and_congr_right fun same => ?_
  rw [and_comm]
  refine and_congr_right fun far => ?_
  rw [same] at bounded ⊢
  cases rooted with
  | true => simp [bounded rfl]
  | false =>
      simp only [Bool.false_eq_true, if_false, forall_const]
      omega

end Place

/-- A directory is as many levels above the beginning as the path to it says, or none above the
root. -/
theorem up_directory_of_rooted {path : String} (rooted : (directory path).rooted = true) :
    (directory path).up = 0 := by
  have begins : (start path).rooted = true := by
    rwa [directory, Place.rooted_follow] at rooted
  exact Place.up_follow_of_rooted begins _

/-- The specifier of a declaration file leads, from the directory of an importing file, along the
path of the declaration file. -/
theorem resolve_declarationModule (importer fileName : String) :
    resolve importer (declarationModule fileName) =
      (directory importer).follow (segments (stem fileName ++ ".d")) := by
  have chars : (declarationModule fileName).toList =
      ['.'] ++ '/' :: (stem fileName ++ ".d").toList := by simp [declarationModule]
  have split : segments (declarationModule fileName) = "." :: segments (stem fileName ++ ".d") := by
    rw [segments, chars, List.splitOn_append_cons_self_of_not_mem (by decide), List.map_cons]
    rfl
  rw [resolve, split, Place.follow_cons]
  rfl

/-- A path leads from a directory where it leads from the top: both begin at the root or neither
does, the path goes up at least as far as the directory goes down, and, unless at the root, the
directory goes down as far as it went up before. -/
structure Reaches (directory : Place) (path : String) : Prop where
  rooted : directory.rooted = (start path).rooted
  climbs : directory.inner.length ≤ (Place.follow { rooted := false } (segments path)).up
  level : (start path).rooted = false → directory.up = directory.inner.length

/-- The specifier of a declaration file means that file exactly when the path of the declaration
file leads there from the directory of the importing file. -/
theorem resolve_declarationModule_eq_iff (importer fileName : String) :
    resolve importer (declarationModule fileName) = place (stem fileName ++ ".d") ↔
      Reaches (directory importer) (stem fileName ++ ".d") := by
  rw [resolve_declarationModule, place, start,
    Place.follow_eq_follow_iff _ _ _ up_directory_of_rooted]
  constructor
  · intro conditions
    exact ⟨conditions.1, conditions.2.1, conditions.2.2⟩
  · intro reaches
    exact ⟨reaches.rooted, reaches.climbs, reaches.level⟩

/-- A path that never goes up leads from a directory where it leads from the top only if the
directory is the top. -/
theorem reaches_iff_of_descending {path : String} (descending : ".." ∉ segments path)
    {directory : Place} (bounded : directory.rooted = true → directory.up = 0) :
    Reaches directory path ↔ directory = start path := by
  have stays : (Place.follow { rooted := false } (segments path)).up = 0 :=
    Place.up_follow_of_descending { rooted := false } descending
  constructor
  · intro reaches
    have bare : directory.inner = [] := by
      have climbs := reaches.climbs
      rw [stays] at climbs
      exact List.length_eq_zero_iff.mp (Nat.le_zero.mp climbs)
    have up : directory.up = 0 := by
      cases rooted : directory.rooted with
      | true => exact bounded rooted
      | false =>
          rw [reaches.level (reaches.rooted.symm.trans rooted), bare]
          rfl
    obtain ⟨rooted, climbed, inner⟩ := directory
    obtain rfl : climbed = 0 := up
    obtain rfl : inner = [] := bare
    exact congrArg (fun rooted => ({ rooted } : Place)) reaches.rooted
  · intro top
    rw [top]
    exact ⟨rfl, Nat.zero_le _, fun _ => rfl⟩

end RpcBindings.Path
