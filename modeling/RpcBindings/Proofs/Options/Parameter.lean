/-
Module: RpcBindings.Proofs.Options.Parameter
Purpose: What a parameter text means: its entries, the first fault in them, and the options that
  they set.
Main exports: Text.Trimmed, Options.EntriesOf, Options.ReadsAs, Options.Fault, Options.FirstFault,
  Options.LastValue, Options.shown, Options.ofParameter_outcome
-/
import Mathlib.Data.List.Forall2
import Mathlib.Data.List.TakeWhile
import RpcBindings.Options.Parameter
import RpcBindings.Proofs.Traversal

namespace RpcBindings

open Unicode

/-! ### Blanks -/

namespace Text

/-- What is left of a text without the blanks around it: nothing but blanks was taken away, and
there is none at either end. -/
structure Trimmed (text bare : List Char) : Prop where
  within : ∃ before after, text = before ++ bare ++ after ∧
    (∀ c ∈ before, isWhiteSpace c = true) ∧ ∀ c ∈ after, isWhiteSpace c = true
  first : ∀ c ∈ bare.head?, isWhiteSpace c = false
  last : ∀ c ∈ bare.getLast?, isWhiteSpace c = false

/-- Blanks in front of a text that begins with another character are passed over. -/
theorem dropWhile_append_eq {holds : Char → Bool} {blanks rest : List Char}
    (blank : ∀ c ∈ blanks, holds c = true) (first : ∀ c ∈ rest.head?, holds c = false) :
    (blanks ++ rest).dropWhile holds = rest := by
  rw [List.dropWhile_append_of_pos blank]
  cases rest with
  | nil => rfl
  | cons c rest => exact List.dropWhile_cons_of_neg (by simp [first c rfl])

/-- What is passed over are blanks, up to another character. -/
theorem exists_blanks (holds : Char → Bool) (text : List Char) :
    ∃ blanks, text = blanks ++ text.dropWhile holds ∧ (∀ c ∈ blanks, holds c = true) ∧
      ∀ c ∈ (text.dropWhile holds).head?, holds c = false := by
  refine ⟨text.takeWhile holds, List.takeWhile_append_dropWhile.symm,
    fun c member => List.mem_takeWhile_imp member, fun c head => ?_⟩
  have notHead := List.head?_dropWhile_not holds text
  rw [Option.mem_def.mp head] at notHead
  simpa using notHead

theorem trimmed_trimBlanks (text : List Char) : Trimmed text (trimBlanks text) := by
  obtain ⟨before, split, blankBefore, first⟩ := exists_blanks isWhiteSpace text
  obtain ⟨after, splitAfter, blankAfter, last⟩ :=
    exists_blanks isWhiteSpace (text.dropWhile isWhiteSpace).reverse
  have behind : text.dropWhile isWhiteSpace = trimBlanks text ++ after.reverse := by
    rw [← List.reverse_inj, splitAfter]
    simp [trimBlanks]
  refine ⟨⟨before, after.reverse, ?_, blankBefore, ?_⟩, fun c head => ?_, fun c head => ?_⟩
  · rw [List.append_assoc, ← behind]
    exact split
  · exact fun c member => blankAfter c (List.mem_reverse.mp member)
  · rw [behind] at first
    exact first c (List.mem_head?_append_of_mem_head? head)
  · rw [trimBlanks, List.getLast?_reverse] at head
    exact last c head

/-- There is one bare text only. -/
theorem Trimmed.eq_trimBlanks {text bare : List Char} (trimmed : Trimmed text bare) :
    bare = trimBlanks text := by
  obtain ⟨⟨before, after, rfl, blankBefore, blankAfter⟩, first, last⟩ := trimmed
  by_cases none : bare = []
  · subst none
    have blank : ∀ c ∈ before ++ [] ++ after, isWhiteSpace c = true := by
      rw [List.append_nil, List.forall_mem_append]
      exact ⟨blankBefore, blankAfter⟩
    rw [trimBlanks, List.dropWhile_eq_nil_iff.mpr blank]
    rfl
  · have front : (before ++ bare ++ after).dropWhile isWhiteSpace = bare ++ after := by
      rw [List.append_assoc]
      refine dropWhile_append_eq blankBefore ?_
      rwa [List.head?_append_of_ne_nil _ none]
    have back : (bare ++ after).reverse.dropWhile isWhiteSpace = bare.reverse := by
      rw [List.reverse_append]
      refine dropWhile_append_eq (fun c member => blankAfter c (List.mem_reverse.mp member)) ?_
      rwa [List.head?_reverse]
    rw [trimBlanks, front, back, List.reverse_reverse]

theorem trimmed_iff {text bare : List Char} : Trimmed text bare ↔ bare = trimBlanks text := by
  constructor
  · exact Trimmed.eq_trimBlanks
  · rintro rfl
    exact trimmed_trimBlanks text

end Text

namespace Options

open Text

/-! ### Entries -/

/-- The entries of a parameter: the texts between its commas, without the blanks around them and
without those of which nothing is left. -/
def EntriesOf (parameter : String) (entries : List (List Char)) : Prop :=
  ∃ parts bares, parts ≠ [] ∧ (∀ part ∈ parts, ',' ∉ part) ∧
    [','].intercalate parts = parameter.toList ∧ List.Forall₂ Trimmed parts bares ∧
    entries = bares.filter fun bare => bare ≠ []

/-- An entry has a key in front of its first equals sign, in which a dash stands for an underscore,
and a value behind it. -/
def ReadsAs (entry : List Char) (key value : String) : Prop :=
  ∃ before behind bare, entry = before ++ '=' :: behind ∧ '=' ∉ before ∧
    Trimmed before bare ∧ key = String.ofList (bare.map fun c => if c = '-' then '_' else c) ∧
    Trimmed behind value.toList

/-- The options that are either on or off. -/
def flagKeys : List String :=
  ["async_iterators", "camel_case_names"]

/-- What is wrong with an entry. -/
inductive Fault (entry : List Char) : ParameterFault → Prop where
  | notKeyValue (unassigned : '=' ∉ entry) : Fault entry (.notKeyValue (String.ofList entry))
  | emptyValue {key : String} (reads : ReadsAs entry key "") : Fault entry (.emptyValue key)
  | notFlag {key value : String} (reads : ReadsAs entry key value) (some : value ≠ "")
      (flag : key ∈ flagKeys) (other : value ≠ "true" ∧ value ≠ "false") :
      Fault entry (.notFlag key value)

/-- The fault of the first entry that has one. -/
def FirstFault (entries : List (List Char)) (fault : ParameterFault) : Prop :=
  ∃ front entry rest, entries = front ++ entry :: rest ∧
    (∀ earlier ∈ front, ∀ other, ¬ Fault earlier other) ∧ Fault entry fault

/-- The value of the last entry with a key, if there is one. -/
inductive LastValue (key : String) : List (List Char) → Option String → Prop where
  | absent {entries : List (List Char)}
      (unused : ∀ entry ∈ entries, ∀ value, ¬ ReadsAs entry key value) :
      LastValue key entries none
  | given {front rest : List (List Char)} {entry : List Char} {value : String}
      (reads : ReadsAs entry key value)
      (last : ∀ later ∈ rest, ∀ other, ¬ ReadsAs later key other) :
      LastValue key (front ++ entry :: rest) (some value)

/-- The keys that name options. -/
def keys : List String :=
  ["input_id", "types_import", "client_import", "go_package"] ++ flagKeys

def flagText (value : Bool) : String :=
  if value then "true" else "false"

/-- The value of an option under its key, as a parameter gives it. -/
def shown (options : Options) : String → Option String
  | "input_id" => options.inputId
  | "types_import" => options.typesImport
  | "client_import" => options.clientImport
  | "go_package" => options.goPackage
  | "async_iterators" => some (flagText options.asyncIterators)
  | "camel_case_names" => some (flagText options.camelCaseNames)
  | _ => none

/-- Each option has the value of the last entry with its key, or else its default. -/
def SetBy (options : Options) (entries : List (List Char)) : Prop :=
  ∀ key ∈ keys, ∃ value, LastValue key entries value ∧
    options.shown key = value.or (({} : Options).shown key)

/-! ### The entries of a parameter -/

/-- No part of a text that is split holds the separator. -/
theorem notMem_of_mem_splitOn {separator : Char} {text part : List Char}
    (member : part ∈ text.splitOn separator) : separator ∉ part := by
  induction text generalizing part with
  | nil =>
      rw [List.splitOn_nil, List.mem_singleton] at member
      rw [member]
      exact List.not_mem_nil
  | cons c text inductionHypothesis =>
      obtain ⟨first, others, split⟩ :=
        List.exists_cons_of_ne_nil (List.splitOn_ne_nil separator text)
      rw [List.splitOn_cons_eq_if_modifyHead, split] at member
      rw [split] at inductionHypothesis
      split at member
      · rcases List.mem_cons.mp member with rfl | later
        · exact List.not_mem_nil
        · exact inductionHypothesis later
      · next other =>
        rcases List.mem_cons.mp member with rfl | later
        · rw [List.mem_cons, not_or]
          exact ⟨fun same => other (beq_iff_eq.mpr same.symm),
            inductionHypothesis List.mem_cons_self⟩
        · exact inductionHypothesis (List.mem_cons_of_mem _ later)

theorem forall₂_trimmed_iff {parts bares : List (List Char)} :
    List.Forall₂ Trimmed parts bares ↔ bares = parts.map trimBlanks := by
  have same : List.Forall₂ Trimmed parts bares ↔
      List.Forall₂ (fun part bare => trimBlanks part = bare) parts bares := by
    refine ⟨fun all => all.imp ?_, fun all => all.imp ?_⟩
    · exact fun part bare trimmed => (trimmed_iff.mp trimmed).symm
    · exact fun part bare equal => trimmed_iff.mpr equal.symm
  rw [same, ← List.forall₂_map_left_iff (f := trimBlanks), List.forall₂_eq_eq_eq, eq_comm]

/-- A parameter can be split in one way only. -/
theorem entriesOf_iff {parameter : String} {entries : List (List Char)} :
    EntriesOf parameter entries ↔ entries = parameterEntries parameter := by
  have kept (bares : List (List Char)) :
      (bares.filter fun bare => bare ≠ []) = bares.filter fun bare => !bare.isEmpty := by
    refine List.filter_congr fun bare _ => ?_
    cases bare <;> rfl
  constructor
  · rintro ⟨parts, bares, some, clear, joined, bare, rfl⟩
    rw [parameterEntries, ← joined, List.splitOn_intercalate ',' clear some, kept,
      forall₂_trimmed_iff.mp bare]
  · rintro rfl
    refine ⟨parameter.toList.splitOn ',', _, List.splitOn_ne_nil _ _, ?_,
      List.intercalate_splitOn .., forall₂_trimmed_iff.mpr rfl, (kept _).symm⟩
    exact fun part member => notMem_of_mem_splitOn member

/-! ### One entry -/

/-- An entry with an equals sign has a key and a value. -/
theorem exists_readsAs {entry : List Char} (assigned : '=' ∈ entry) :
    ∃ key value, ReadsAs entry key value := by
  obtain ⟨before, behind, split, clear⟩ := List.eq_append_cons_of_mem assigned
  refine ⟨_, String.ofList (trimBlanks behind), before, behind, _, split, clear,
    trimmed_trimBlanks before, rfl, ?_⟩
  rw [String.toList_ofList]
  exact trimmed_trimBlanks behind

theorem ofEntry_of_notMem {entry : List Char} (unassigned : '=' ∉ entry) :
    Setting.ofEntry entry = .error (.notKeyValue (String.ofList entry)) := by
  have none : (entry.dropWhile fun c => c != '=') = [] := by
    refine List.dropWhile_eq_nil_iff.mpr fun c member => ?_
    exact bne_iff_ne.mpr (ne_of_mem_of_not_mem member unassigned)
  rw [Setting.ofEntry, none]

/-- An entry is a setting, if its value is not empty. -/
theorem ReadsAs.ofEntry_eq {entry : List Char} {key value : String}
    (reads : ReadsAs entry key value) :
    Setting.ofEntry entry = if value = "" then .error (.emptyValue key) else .ok ⟨key, value⟩ := by
  obtain ⟨before, behind, bare, rfl, clear, ofKey, rfl, ofValue⟩ := reads
  have front : ∀ c ∈ before, (c != '=') = true :=
    fun c member => bne_iff_ne.mpr (ne_of_mem_of_not_mem member clear)
  have rest : ((before ++ '=' :: behind).dropWhile fun c => c != '=') = '=' :: behind :=
    dropWhile_append_eq front (by simp)
  have lead : ((before ++ '=' :: behind).takeWhile fun c => c != '=') = before := by
    rw [List.takeWhile_append_of_pos front, List.takeWhile_cons_of_neg (by simp), List.append_nil]
  rw [Setting.ofEntry, rest, lead]
  simp only [Setting.normalKey, ← trimmed_iff.mp ofKey, ← trimmed_iff.mp ofValue,
    List.isEmpty_iff, String.ofList_toList, String.toList_eq_nil_iff]

/-- An entry has one key and one value. -/
theorem ReadsAs.unique {entry : List Char} {key value other otherValue : String}
    (reads : ReadsAs entry key value) (also : ReadsAs entry other otherValue) :
    key = other ∧ value = otherValue := by
  have same := reads.ofEntry_eq.symm.trans also.ofEntry_eq
  by_cases empty : value = ""
  · by_cases otherEmpty : otherValue = ""
    · rw [if_pos empty, if_pos otherEmpty] at same
      exact ⟨by simpa using same, empty.trans otherEmpty.symm⟩
    · simp [empty, otherEmpty] at same
  · by_cases otherEmpty : otherValue = ""
    · simp [empty, otherEmpty] at same
    · simpa [empty, otherEmpty] using same

theorem flag_eq_ok_iff {setting : Setting} {value : Bool} :
    setting.flag = .ok value ↔ setting.value = flagText value := by
  unfold Setting.flag
  split
  · next on => cases value <;> simp [on, flagText]
  · next notOn =>
    split
    · next off => cases value <;> simp [off, flagText]
    · next notOff => cases value <;> simp [notOn, notOff, flagText]

theorem flag_eq_error_iff {setting : Setting} {fault : ParameterFault} :
    setting.flag = .error fault ↔
      (setting.value ≠ "true" ∧ setting.value ≠ "false") ∧
        fault = .notFlag setting.key setting.value := by
  unfold Setting.flag
  split
  · next on => simp [on]
  · next notOn =>
    split
    · next off => simp [off]
    · next notOff => simp [notOn, notOff, eq_comm]

/-- A setting is refused only if it gives a flag another value than `true` or `false`. -/
theorem apply_eq_error_iff {options : Options} {setting : Setting} {fault : ParameterFault} :
    options.apply setting = .error fault ↔
      setting.key ∈ flagKeys ∧ (setting.value ≠ "true" ∧ setting.value ≠ "false") ∧
        fault = .notFlag setting.key setting.value := by
  unfold apply
  split
  case h_5 named | h_6 named =>
    have flag : setting.key ∈ flagKeys := by simp [named, flagKeys]
    simp only [Traversal.bind_eq_error_iff, flag_eq_error_iff, flag, true_and]
    simp [pure, Except.pure]
  case h_7 async camel =>
    have unknown : setting.key ∉ flagKeys := by
      simp only [flagKeys, List.mem_cons, List.not_mem_nil, or_false, not_or]
      exact ⟨async, camel⟩
    simp [unknown]
  all_goals
    next named => simp [named, flagKeys]

/-- A setting changes the option that its key names, and no other one. -/
theorem shown_of_apply {options next : Options} {setting : Setting}
    (applied : options.apply setting = .ok next) {key : String} (known : key ∈ keys) :
    next.shown key = if setting.key = key then some setting.value else options.shown key := by
  simp only [keys, flagKeys, List.cons_append, List.nil_append, List.mem_cons, List.not_mem_nil,
    or_false] at known
  unfold apply at applied
  split at applied
  case h_5 named | h_6 named =>
    obtain ⟨value, given, changed⟩ := Traversal.bind_eq_ok_iff.mp applied
    obtain rfl := Except.ok.inj changed
    have spelled := flag_eq_ok_iff.mp given
    rcases known with rfl | rfl | rfl | rfl | rfl | rfl <;> simp [shown, named, spelled]
  case h_7 =>
    obtain rfl := Except.ok.inj applied
    have other : setting.key ≠ key := by
      rintro rfl
      simp_all
    rw [if_neg other]
  all_goals
    next named =>
    obtain rfl := Except.ok.inj applied
    rcases known with rfl | rfl | rfl | rfl | rfl | rfl <;> simp [shown, named]

/-- The options after one more entry. -/
def readEntry (options : Options) (entry : List Char) : Except ParameterFault Options := do
  let setting ← Setting.ofEntry entry
  options.apply setting

/-- Whether an entry is refused does not depend on the entries before it. -/
theorem readEntry_eq_error_iff {options : Options} {entry : List Char} {fault : ParameterFault} :
    options.readEntry entry = .error fault ↔ Fault entry fault := by
  by_cases assigned : '=' ∈ entry
  · obtain ⟨key, value, reads⟩ := exists_readsAs assigned
    by_cases empty : value = ""
    · subst empty
      have refused : options.readEntry entry = .error (.emptyValue key) := by
        rw [readEntry, reads.ofEntry_eq, if_pos rfl]
        rfl
      rw [refused, Except.error.injEq]
      constructor
      · rintro rfl
        exact .emptyValue reads
      · intro faulty
        cases faulty with
        | notKeyValue unassigned => exact absurd assigned unassigned
        | emptyValue also => rw [(reads.unique also).1]
        | notFlag also some => exact absurd (reads.unique also).2.symm some
    · have applied : options.readEntry entry = options.apply ⟨key, value⟩ := by
        rw [readEntry, reads.ofEntry_eq, if_neg empty]
        rfl
      rw [applied, apply_eq_error_iff]
      constructor
      · rintro ⟨flag, other, rfl⟩
        exact .notFlag reads empty flag other
      · intro faulty
        cases faulty with
        | notKeyValue unassigned => exact absurd assigned unassigned
        | emptyValue also => exact absurd (reads.unique also).2 empty
        | notFlag also some flag other =>
            obtain ⟨rfl, rfl⟩ := reads.unique also
            exact ⟨flag, other, rfl⟩
  · have refused : options.readEntry entry = .error (.notKeyValue (String.ofList entry)) := by
      rw [readEntry, ofEntry_of_notMem assigned]
      rfl
    rw [refused, Except.error.injEq]
    constructor
    · rintro rfl
      exact .notKeyValue assigned
    · intro faulty
      have unread {key value : String} : ¬ ReadsAs entry key value := by
        rintro ⟨before, behind, bare, rfl, -⟩
        exact assigned (by simp)
      cases faulty with
      | notKeyValue => rfl
      | emptyValue reads => exact absurd reads unread
      | notFlag reads => exact absurd reads unread

/-- An entry that is accepted changes the option that its key names, and no other one. -/
theorem shown_of_readEntry {options next : Options} {entry : List Char}
    (read : options.readEntry entry = .ok next) {key : String} (known : key ∈ keys) :
    ∃ name value, ReadsAs entry name value ∧
      next.shown key = if name = key then some value else options.shown key := by
  obtain ⟨setting, ofEntry, applied⟩ := Traversal.bind_eq_ok_iff.mp read
  have assigned : '=' ∈ entry := by
    by_contra unassigned
    rw [ofEntry_of_notMem unassigned] at ofEntry
    cases ofEntry
  obtain ⟨name, value, reads⟩ := exists_readsAs assigned
  rw [reads.ofEntry_eq] at ofEntry
  split at ofEntry
  · cases ofEntry
  · obtain rfl := Except.ok.inj ofEntry
    exact ⟨name, value, reads, shown_of_apply applied known⟩

/-! ### All entries -/

/-- Of two places in a list one comes behind the other one, unless they are the same. -/
theorem eq_or_mem_of_append_cons_eq {α : Type} {front rest otherFront otherRest : List α}
    {item other : α} (same : front ++ item :: rest = otherFront ++ other :: otherRest) :
    item = other ∨ other ∈ rest ∨ item ∈ otherRest := by
  rcases List.append_eq_append_iff.mp same with ⟨between, -, split⟩ | ⟨between, -, split⟩
  · cases between with
    | nil => exact Or.inl (List.cons.inj split).1
    | cons first between =>
        obtain ⟨-, rfl⟩ := List.cons.inj split
        exact Or.inr (Or.inl (by simp))
  · cases between with
    | nil => exact Or.inl (List.cons.inj split).1.symm
    | cons first between =>
        obtain ⟨-, rfl⟩ := List.cons.inj split
        exact Or.inr (Or.inr (by simp))

/-- The last entry with a key has one value. -/
theorem LastValue.unique {key : String} {entries : List (List Char)} {value other : Option String}
    (one : LastValue key entries value) (two : LastValue key entries other) : value = other := by
  have within {front rest : List (List Char)} {entry : List Char} :
      entry ∈ front ++ entry :: rest := List.mem_append_right _ List.mem_cons_self
  cases one with
  | absent unused =>
      cases two with
      | absent => rfl
      | given reads => exact absurd reads (unused _ within _)
  | @given front rest entry value reads last =>
      generalize whole : front ++ entry :: rest = entries at two
      cases two with
      | absent unused => exact absurd reads (unused entry (whole ▸ within) value)
      | given otherReads otherLast =>
          rcases eq_or_mem_of_append_cons_eq whole with rfl | later | later
          · rw [(reads.unique otherReads).2]
          · exact absurd otherReads (last _ later _)
          · exact absurd reads (otherLast _ later _)

/-- Entries are accepted together if each of them is. -/
theorem exists_foldlM_eq_ok_iff {entries : List (List Char)} {start : Options} :
    (∃ result, entries.foldlM readEntry start = .ok result) ↔
      ∀ entry ∈ entries, ∀ fault, ¬ Fault entry fault := by
  induction entries generalizing start with
  | nil => exact ⟨fun _ => List.forall_mem_nil _, fun _ => ⟨start, rfl⟩⟩
  | cons entry entries inductionHypothesis =>
      rw [List.foldlM_cons, List.forall_mem_cons]
      cases read : start.readEntry entry with
      | error fault =>
          have faulty := readEntry_eq_error_iff.mp read
          constructor
          · rintro ⟨result, accepted⟩
            cases accepted
          · exact fun sound => absurd faulty (sound.1 fault)
      | ok next =>
          have sound (fault : ParameterFault) : ¬ Fault entry fault := by
            intro faulty
            rw [readEntry_eq_error_iff.mpr faulty] at read
            cases read
          rw [and_iff_right sound]
          exact inductionHypothesis

/-- After some entries each option has the value of the last one with its key, or else the value
that it had before them. -/
theorem shown_of_foldlM {entries : List (List Char)} {start result : Options}
    (read : entries.foldlM readEntry start = .ok result) {key : String} (known : key ∈ keys) :
    ∃ value, LastValue key entries value ∧ result.shown key = value.or (start.shown key) := by
  induction entries generalizing start with
  | nil =>
      obtain rfl := Except.ok.inj read
      exact ⟨none, .absent (List.forall_mem_nil _), rfl⟩
  | cons entry entries inductionHypothesis =>
      rw [List.foldlM_cons] at read
      obtain ⟨next, first, rest⟩ := Traversal.bind_eq_ok_iff.mp read
      obtain ⟨name, value, reads, changed⟩ := shown_of_readEntry first known
      obtain ⟨later, last, shows⟩ := inductionHypothesis rest
      cases last with
      | @given front after other value reads last =>
          have extended : LastValue key ((entry :: front) ++ other :: after) (some value) :=
            .given reads last
          exact ⟨some value, extended, shows⟩
      | absent unused =>
          by_cases named : name = key
          · subst named
            rw [if_pos rfl] at changed
            have alone : LastValue name ([] ++ entry :: entries) (some value) :=
              .given reads unused
            exact ⟨some value, alone, by simp [shows, changed]⟩
          · rw [if_neg named] at changed
            have unnamed : ∀ other, ¬ ReadsAs entry key other :=
              fun other also => named (reads.unique also).1
            exact ⟨none, .absent (List.forall_mem_cons.mpr ⟨unnamed, unused⟩), by
              rw [shows, changed]⟩

/-- Options that show the same values are the same. -/
theorem eq_of_shown {options other : Options}
    (same : ∀ key ∈ keys, options.shown key = other.shown key) : options = other := by
  have flags (one two : Bool) : flagText one = flagText two ↔ one = two := by
    revert one two
    decide
  cases options with
  | mk inputId typesImport clientImport goPackage asyncIterators camelCaseNames =>
      simp only [keys, flagKeys, List.cons_append, List.nil_append, List.mem_cons, List.not_mem_nil,
        or_false, shown, forall_eq_or_imp, Option.some.injEq, flags, forall_eq] at same
      obtain ⟨rfl, rfl, rfl, rfl, rfl, rfl⟩ := same
      rfl

theorem SetBy.unique {options other : Options} {entries : List (List Char)}
    (one : options.SetBy entries) (two : other.SetBy entries) : options = other := by
  refine eq_of_shown fun key known => ?_
  obtain ⟨value, last, shows⟩ := one key known
  obtain ⟨otherValue, otherLast, otherShows⟩ := two key known
  rw [shows, otherShows, last.unique otherLast]

/-- A parameter is refused for the first entry that has a fault.  If none has, each option has the
value of the last entry with its key, or else its default. -/
theorem ofParameter_outcome (parameter : String) :
    (∀ entries, EntriesOf parameter entries ↔ entries = parameterEntries parameter) ∧
    (∀ fault, ofParameter parameter = .error fault ↔
      FirstFault (parameterEntries parameter) fault) ∧
    ∀ options, ofParameter parameter = .ok options ↔
      (∀ entry ∈ parameterEntries parameter, ∀ fault, ¬ Fault entry fault) ∧
        options.SetBy (parameterEntries parameter) := by
  let entries := parameterEntries parameter
  have folded : ofParameter parameter = entries.foldlM readEntry {} := rfl
  have setBy {options : Options} (read : entries.foldlM readEntry {} = .ok options) :
      options.SetBy entries := fun key known => shown_of_foldlM read known
  refine ⟨fun _ => entriesOf_iff, fun fault => ?refused, fun options => ?accepted⟩
  case refused =>
    rw [folded, Traversal.foldlM_eq_error_iff]
    constructor
    · rintro ⟨front, entry, rest, reached, split, read, refused⟩
      exact ⟨front, entry, rest, split, exists_foldlM_eq_ok_iff.mp ⟨reached, read⟩,
        readEntry_eq_error_iff.mp refused⟩
    · rintro ⟨front, entry, rest, split, sound, faulty⟩
      obtain ⟨reached, read⟩ := exists_foldlM_eq_ok_iff.mpr sound
      exact ⟨front, entry, rest, reached, split, read, readEntry_eq_error_iff.mpr faulty⟩
  case accepted =>
    rw [folded]
    constructor
    · intro read
      exact ⟨exists_foldlM_eq_ok_iff.mp ⟨options, read⟩, setBy read⟩
    · rintro ⟨sound, set⟩
      obtain ⟨result, read⟩ := exists_foldlM_eq_ok_iff.mpr sound
      rw [read, (setBy read).unique set]

example :
    ofParameter " go-package = one ,, paths=x, go_package=two" =
      .ok { goPackage := some "two" } := by
  decide

/-- The first fault counts, also where the key names no option. -/
example : ofParameter "paths=,camel_case_names=yes" = .error (.emptyValue "paths") := by
  decide

end Options

end RpcBindings
