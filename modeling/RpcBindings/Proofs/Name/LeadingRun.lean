/-
Module: RpcBindings.Proofs.Name.LeadingRun
Purpose: What becomes of the capitals at the front of a name, and the byte offsets of their scan.
Main exports: Name.LoweredRun.after, Name.Scans, Name.Scans.state_eq, Name.Scans.scanCapitals?_eq,
  Name.decapitalize_outcome
-/
import Mathlib.Data.List.Infix
import Mathlib.Data.List.TakeWhile
import RpcBindings.Name.LeadingRun
import RpcBindings.Name.Spelling

namespace RpcBindings.Name

open Unicode

/-!
A name is its longest run of leading capitals and a rest.  All places that the scan keeps are ends
of texts which are known in full: of some capitals in the name, and of what these became in the
result.
-/

/-! ### Runs of capitals -/

/-- A name of capitals is put in small letters as a whole. -/
theorem lowerRun_of_capitals {within : Bool} {capitals : List Char}
    (run : ∀ c ∈ capitals, isUppercase c = true) :
    lowerRun within capitals = capitals.flatMap toLower := by
  fun_induction lowerRun within capitals with
  | case1 => rfl
  | case2 within c capital => simp
  | case3 within c capital d rest ends =>
      rw [Bool.and_eq_true, Bool.not_eq_true'] at ends
      have also := run d (List.mem_cons_of_mem _ (List.mem_cons_self ..))
      rw [ends.2] at also
      cases also
  | case4 within c capital d rest goesOn inductionHypothesis =>
      rw [inductionHypothesis (List.forall_mem_cons.mp run).2, ← List.flatMap_cons]
  | case5 within c rest small => exact absurd (run c (List.mem_cons_self ..)) small

/-- A single capital is put in small letters. -/
theorem lowerRun_singleton {c : Char} {rest : List Char} (capital : isUppercase c = true)
    (ends : ∀ d ∈ rest.head?, isUppercase d = false) :
    lowerRun false (c :: rest) = toLower c ++ rest := by
  cases rest with
  | nil => simp [lowerRun, capital]
  | cons d rest =>
      have small : isUppercase d = false := ends d rfl
      rw [lowerRun, if_pos capital, Bool.false_and, if_neg Bool.false_ne_true,
        lowerRun_of_not_isUppercase small]

/-- The last capital of a longer run stays, with what is behind it. -/
theorem lowerRun_append {within : Bool} {others : List Char} {last d : Char} {rest : List Char}
    (longer : within = true ∨ others ≠ []) (run : ∀ c ∈ others, isUppercase c = true)
    (capital : isUppercase last = true) (small : isUppercase d = false) :
    lowerRun within (others ++ last :: d :: rest) =
      others.flatMap toLower ++ last :: d :: rest := by
  induction others generalizing within with
  | nil =>
      obtain rfl : within = true := longer.resolve_right (by simp)
      simp [lowerRun, capital, small]
  | cons c others inductionHypothesis =>
      obtain ⟨first, run⟩ := List.forall_mem_cons.mp run
      have below := inductionHypothesis (Or.inl rfl) run
      obtain ⟨next, behind, split⟩ :
          ∃ next behind, others ++ last :: d :: rest = next :: behind :=
        List.exists_cons_of_ne_nil (by simp)
      have goesOn : isUppercase next = true := by
        cases others with
        | nil =>
            obtain ⟨rfl, -⟩ := List.cons.inj split
            exact capital
        | cons other others =>
            obtain ⟨rfl, -⟩ := List.cons.inj split
            exact run _ (List.mem_cons_self ..)
      rw [List.flatMap_cons, List.append_assoc, ← below, List.cons_append, split]
      simp [lowerRun, first, goesOn]

/-! ### The scan -/

/-- The state of the scan behind some capitals at the front of a name. -/
def LoweredRun.after (front : List Char) : LoweredRun :=
  { lower := String.ofList (front.flatMap toLower)
    count := front.length
    inName := (String.ofList front.dropLast).rawEndPos
    inLower := (String.ofList (front.dropLast.flatMap toLower)).rawEndPos }

/-- `Scans name offset run unread`: the scan of the name comes to a byte with this state and with
these characters still to be read. -/
inductive Scans (name : String) : String.Pos.Raw → LoweredRun → List Char → Prop where
  | start : Scans name 0 {} name.toList
  | capital {offset : String.Pos.Raw} {run : LoweredRun} {c : Char} {unread : List Char}
      (before : Scans name offset run (c :: unread)) (capital : isUppercase c = true) :
      Scans name (offset + c) (run.read offset c) unread

theorem rawEndPos_append_singleton (front : List Char) (c : Char) :
    (String.ofList (front ++ [c])).rawEndPos = (String.ofList front).rawEndPos + c := by
  rw [← String.rawEndPos_push, String.ofList_append]
  rfl

/-- One step of the scan: the place of the capital is where the capitals before it end. -/
theorem LoweredRun.read_after (front : List Char) (c : Char) :
    (after front).read (String.ofList front).rawEndPos c = after (front ++ [c]) := by
  simp [LoweredRun.read, after]

/-- Wherever the scan comes, it has read capitals, and its state is the one behind them. -/
theorem Scans.state_eq {name : String} {offset : String.Pos.Raw} {run : LoweredRun}
    {unread : List Char} (scans : Scans name offset run unread) :
    ∃ front, (∀ c ∈ front, isUppercase c = true) ∧ name.toList = front ++ unread ∧
      offset = (String.ofList front).rawEndPos ∧ run = .after front := by
  induction scans with
  | start => exact ⟨[], List.forall_mem_nil _, rfl, rfl, rfl⟩
  | @capital offset run c unread before capital inductionHypothesis =>
      obtain ⟨front, capitals, split, rfl, rfl⟩ := inductionHypothesis
      refine ⟨front ++ [c], ?_, ?_, ?_, LoweredRun.read_after front c⟩
      · exact List.forall_mem_append.mpr ⟨capitals, List.forall_mem_singleton.mpr capital⟩
      · rw [split, List.append_assoc, List.singleton_append]
      · exact (rawEndPos_append_singleton front c).symm

/-- At the end of a run the scan finds the name with small letters.  It cuts both texts only where
parts of them end. -/
theorem LoweredRun.finish?_after {front rest : List Char} {c : Char}
    (capitals : ∀ d ∈ front, isUppercase d = true) (small : isUppercase c = false) :
    (after front).finish? (String.ofList (front ++ c :: rest)) (String.ofList front).rawEndPos =
      some (String.ofList (lowerRun false (front ++ c :: rest))) := by
  have whole : cutAt? (String.ofList (front ++ c :: rest)) (String.ofList front).rawEndPos =
      some (String.ofList front, String.ofList (c :: rest)) := by
    rw [String.ofList_append, cutAt?_append]
  rcases List.eq_nil_or_concat front with rfl | ⟨others, last, rfl⟩
  · have none : ¬ 1 < (after []).count := by simp [after]
    rw [finish?, if_neg none, whole, List.nil_append, lowerRun_of_not_isUppercase small]
    simp [after]
  · rw [List.concat_eq_append] at capitals whole ⊢
    obtain ⟨run, capital⟩ := List.forall_mem_append.mp capitals
    rw [List.forall_mem_singleton] at capital
    by_cases single : others = []
    · subst single
      have one : ¬ 1 < (after [last]).count := by simp [after]
      rw [List.nil_append] at whole ⊢
      rw [finish?, if_neg one, whole, List.singleton_append,
        lowerRun_singleton capital (by simpa using small)]
      simp [after]
    · have two : 1 < (after (others ++ [last])).count := by
        simpa [after] using List.length_pos_iff.mpr single
      have kept : cutAt? (after (others ++ [last])).lower (after (others ++ [last])).inLower =
          some (String.ofList (others.flatMap toLower), String.ofList (toLower last)) := by
        simp only [after, List.dropLast_concat, List.flatMap_append, List.flatMap_singleton,
          String.ofList_append, cutAt?_append]
      have behind : cutAt? (String.ofList (others ++ [last] ++ c :: rest))
          (after (others ++ [last])).inName =
            some (String.ofList others, String.ofList (last :: c :: rest)) := by
        simp only [after, List.dropLast_concat, List.append_assoc, List.singleton_append,
          String.ofList_append, cutAt?_append]
      rw [finish?, if_pos two, kept, behind, List.append_assoc, List.singleton_append,
        lowerRun_append (Or.inr single) run capital small]
      simp

/-- From the state behind some capitals on, the scan finds the name with its leading capitals in
small letters. -/
theorem scanCapitals?_after {front : List Char} (capitals : ∀ c ∈ front, isUppercase c = true)
    (unread : List Char) :
    scanCapitals? (String.ofList (front ++ unread)) (String.ofList front).rawEndPos (.after front)
      unread = some (String.ofList (lowerRun false (front ++ unread))) := by
  induction unread generalizing front with
  | nil =>
      rw [List.append_nil, lowerRun_of_capitals capitals]
      rfl
  | cons c unread inductionHypothesis =>
      cases capital : isUppercase c with
      | true =>
          have further : ∀ d ∈ front ++ [c], isUppercase d = true :=
            List.forall_mem_append.mpr ⟨capitals, List.forall_mem_singleton.mpr capital⟩
          have rest := inductionHypothesis further
          rw [List.append_assoc, List.singleton_append] at rest
          rw [scanCapitals?, if_pos capital, LoweredRun.read_after, ← rawEndPos_append_singleton,
            rest]
      | false =>
          rw [scanCapitals?, capital, if_neg Bool.false_ne_true]
          exact LoweredRun.finish?_after capitals capital

theorem Scans.scanCapitals?_eq {name : String} {offset : String.Pos.Raw} {run : LoweredRun}
    {unread : List Char} (scans : Scans name offset run unread) :
    scanCapitals? name offset run unread = some (decapitalize name) := by
  obtain ⟨front, capitals, split, rfl, rfl⟩ := scans.state_eq
  have scanned := scanCapitals?_after capitals unread
  rwa [← split, String.ofList_toList] at scanned

/-- Wherever the scan comes, the places that it keeps are boundaries of characters. -/
theorem Scans.isValid {name : String} {offset : String.Pos.Raw} {run : LoweredRun}
    {unread : List Char} (scans : Scans name offset run unread) :
    offset.IsValid name ∧ run.inName.IsValid name ∧ run.inLower.IsValid run.lower := by
  obtain ⟨front, -, split, rfl, rfl⟩ := scans.state_eq
  have ends {part text : List Char} (inside : part <+: text) :
      (String.ofList part).rawEndPos.IsValid (String.ofList text) := by
    obtain ⟨back, rfl⟩ := inside
    rw [String.ofList_append]
    exact String.Pos.Raw.isValid_rawEndPos.append_right _
  have read : front <+: name.toList := ⟨unread, split.symm⟩
  have dropped : front.dropLast <+: front := List.dropLast_prefix front
  have place := ends read
  have inName := ends (dropped.trans read)
  rw [String.ofList_toList] at place inName
  exact ⟨place, inName, ends (dropped.flatMap toLower)⟩

/-- What becomes of a name, told from its longest run of leading capitals.  A name of capitals is
put in small letters, and one without leading capitals stays; a single capital is put in small
letters, and of two or more the last one stays with the rest of the name.  The scan finds the same.
The places that it keeps in the name and in what it wrote are boundaries of characters at every
step, whatever the sizes of the letters are, and so neither text is ever cut inside a character. -/
theorem decapitalize_outcome (name : String) :
    let capitals := name.toList.takeWhile isUppercase
    let rest := name.toList.dropWhile isUppercase
    (rest = [] → decapitalize name = String.ofList (capitals.flatMap toLower)) ∧
    (capitals = [] → decapitalize name = name) ∧
    (∀ c, capitals = [c] → decapitalize name = String.ofList (toLower c ++ rest)) ∧
    (∀ others last, others ≠ [] → capitals = others ++ [last] → rest ≠ [] →
      decapitalize name = String.ofList (others.flatMap toLower ++ last :: rest)) ∧
    scanned? name = some (decapitalize name) ∧
    ∀ offset run unread, Scans name offset run unread →
      offset.IsValid name ∧ run.inName.IsValid name ∧ run.inLower.IsValid run.lower ∧
        scanCapitals? name offset run unread = some (decapitalize name) := by
  intro capitals rest
  have split : name.toList = capitals ++ rest := List.takeWhile_append_dropWhile.symm
  have run : ∀ c ∈ capitals, isUppercase c = true := fun c => List.mem_takeWhile_imp
  have ends : ∀ c ∈ rest.head?, isUppercase c = false := by
    intro c first
    have small := List.head?_dropWhile_not isUppercase name.toList
    rwa [Option.mem_def.mp first] at small
  refine ⟨?_, ?_, ?_, ?_, Scans.start.scanCapitals?_eq, ?_⟩
  · intro none
    rw [decapitalize, split, none, List.append_nil, lowerRun_of_capitals run]
  · intro none
    rw [none, List.nil_append] at split
    have stays : lowerRun false rest = rest := by
      cases rest_eq : rest with
      | nil => rfl
      | cons c behind => exact lowerRun_of_not_isUppercase (ends c (by rw [rest_eq]; rfl))
    rw [decapitalize, split, stays, ← split, String.ofList_toList]
  · intro c single
    rw [single] at run
    rw [decapitalize, split, single, List.singleton_append,
      lowerRun_singleton (run c (List.mem_singleton_self c)) ends]
  · intro others last longer several some
    obtain ⟨d, behind, rest_eq⟩ := List.exists_cons_of_ne_nil some
    rw [several, List.forall_mem_append, List.forall_mem_singleton] at run
    rw [decapitalize, split, several, rest_eq, List.append_assoc, List.singleton_append,
      lowerRun_append (Or.inr longer) run.1 run.2 (ends d (by rw [rest_eq]; rfl))]
  · intro offset state unread scans
    obtain ⟨place, inName, inLower⟩ := scans.isValid
    exact ⟨place, inName, inLower, scans.scanCapitals?_eq⟩

/-- The first of these capitals takes two bytes, and its small letters take three. -/
example : decapitalize "İIx" = "i\u0307Ix" := by decide

end RpcBindings.Name
