/-
Module: RpcBindings.Proofs.Json.Levels
Purpose: How deep arrays and objects of a JSON value lie in each other, and readers that count it.
Main exports: Json.levels, Json.levels_array_le_iff, Json.levels_ofMembers_le_iff,
  Json.listOf?_eq_some_iff, Json.Record.ofJson?_ofMembers, Json.int32?_ofInt
-/
import Mathlib.Data.List.Forall2
import RpcBindings.Json.Record

namespace RpcBindings.Json

/-!
The readers of descriptions are given the number of levels that arrays and objects may still be
nested.  How many levels a value has is said here apart from any reader.
-/

/-! ### Levels -/

mutual

/-- How many arrays and objects of a value lie one in the other. -/
def levels : Json → Nat
  | .array items => levelsOfItems items + 1
  | .object members => levelsOfMembers members + 1
  | .null | .bool _ | .number _ | .string _ => 0

def levelsOfItems : List Json → Nat
  | [] => 0
  | item :: items => max item.levels (levelsOfItems items)

def levelsOfMembers : List (Spelling × Json) → Nat
  | [] => 0
  | (_, value) :: members => max value.levels (levelsOfMembers members)

end

theorem levelsOfItems_le_iff {items : List Json} {bound : Nat} :
    levelsOfItems items ≤ bound ↔ ∀ item ∈ items, item.levels ≤ bound := by
  induction items with
  | nil => simp [levelsOfItems]
  | cons item items inductionHypothesis =>
      rw [levelsOfItems, Nat.max_le, inductionHypothesis, List.forall_mem_cons]

theorem levelsOfMembers_le_iff {members : List (Spelling × Json)} {bound : Nat} :
    levelsOfMembers members ≤ bound ↔ ∀ member ∈ members, member.2.levels ≤ bound := by
  induction members with
  | nil => simp [levelsOfMembers]
  | cons member members inductionHypothesis =>
      rw [levelsOfMembers, Nat.max_le, inductionHypothesis, List.forall_mem_cons]

@[simp] theorem levels_ofText (text : String) : (ofText text).levels = 0 := rfl

@[simp] theorem levels_ofInt (value : Int) : (ofInt value).levels = 0 := rfl

@[simp] theorem levels_bool (value : Bool) : (Json.bool value).levels = 0 := rfl

/-- An array takes one level, and its items have what is left. -/
theorem levels_array_le_iff {items : List Json} {bound : Nat} :
    (Json.array items).levels ≤ bound ↔
      ∃ inner, bound = inner + 1 ∧ ∀ item ∈ items, item.levels ≤ inner := by
  rw [levels]
  cases bound with
  | zero => simp
  | succ inner => simp [levelsOfItems_le_iff]

/-- An object takes one level, and the values of its members have what is left. -/
theorem levels_ofMembers_le_iff {members : List (String × Json)} {bound : Nat} :
    (ofMembers members).levels ≤ bound ↔
      ∃ inner, bound = inner + 1 ∧ ∀ member ∈ members, member.2.levels ≤ inner := by
  rw [ofMembers, levels]
  cases bound with
  | zero => simp
  | succ inner =>
      rw [Nat.add_le_add_iff_right, levelsOfMembers_le_iff, List.forall_mem_map]
      simp

/-! ### Lists -/

section Lists

variable {α : Type} {read : Nat → Json → Option α} {write : α → Json}

theorem mapM_eq_some_iff {β : Type} {f : β → Option α} {items : List β} {results : List α} :
    items.mapM f = some results ↔
      List.Forall₂ (fun item result => f item = some result) items results := by
  induction items generalizing results with
  | nil => simp [eq_comm]
  | cons item items inductionHypothesis =>
      rw [List.mapM_cons, List.forall₂_cons_left_iff]
      simp only [Option.bind_eq_bind, Option.bind_eq_some_iff, inductionHypothesis]
      constructor
      · intro success
        obtain ⟨result, first, others, rest, same⟩ := success
        exact ⟨result, others, first, rest, (Option.some.inj same).symm⟩
      · intro pointwise
        obtain ⟨result, others, first, rest, rfl⟩ := pointwise
        exact ⟨result, first, others, rest, rfl⟩

/-- Lists are read from arrays, item by item and one level deeper. -/
theorem listOf?_eq_some_iff {bound : Nat} {json : Json} {values : List α} :
    listOf? read bound json = some values ↔
      ∃ inner items, bound = inner + 1 ∧ json = .array items ∧
        List.Forall₂ (fun item value => read inner item = some value) items values := by
  cases bound with
  | zero => simp [listOf?, deeper]
  | succ inner =>
      cases json with
      | array items => simp [listOf?, deeper, mapM_eq_some_iff]
      | _ => simp [listOf?, deeper]

variable (read) in
/-- A list of written values is read back if its values are. -/
theorem listOf?_array_map {bound : Nat} {values : List α}
    (fits : (Json.array (values.map write)).levels ≤ bound)
    (each : ∀ inner, ∀ value ∈ values, (write value).levels ≤ inner →
      read inner (write value) = some value) :
    listOf? read bound (.array (values.map write)) = some values := by
  obtain ⟨inner, rfl, itemsFit⟩ := Iff.mp levels_array_le_iff fits
  refine Iff.mpr listOf?_eq_some_iff ⟨inner, _, rfl, rfl, ?_⟩
  rw [List.forall₂_map_left_iff, List.forall₂_same]
  intro value member
  exact each inner value member (itemsFit _ (List.mem_map_of_mem member))

/-- A list that was read fits when it is written, if its values do. -/
theorem levels_le_of_listOf? {inner : Nat} {json : Json} {values : List α}
    (found : listOf? read (inner + 1) json = some values)
    (each : ∀ json value, read inner json = some value → (write value).levels ≤ inner) :
    (Json.array (values.map write)).levels ≤ inner + 1 := by
  obtain ⟨_, items, same, -, pointwise⟩ := Iff.mp listOf?_eq_some_iff found
  obtain rfl := Nat.succ.inj same
  refine Iff.mpr levels_array_le_iff ⟨inner, rfl, List.forall_mem_map.mpr ?_⟩
  clear found
  induction pointwise with
  | nil => simp
  | cons first _ inductionHypothesis =>
      exact List.forall_mem_cons.mpr ⟨each _ _ first, inductionHypothesis⟩

end Lists

/-! ### Records -/

namespace Record

variable {α : Type} {record : Record} {name : String}

/-- A record that was written with known fields, each once, is read as these fields. -/
theorem ofJson?_ofMembers {names : List String} {members : List (String × Json)}
    (known : ∀ member ∈ members, member.1 ∈ names) (distinct : (members.map Prod.fst).Nodup) :
    ofJson? names (ofMembers members) = some ⟨members⟩ := by
  have written : ofMembers members =
      .object (members.map fun member => (some member.1, member.2)) := rfl
  have kept : knownMembers? names (members.map fun member => (some member.1, member.2)) =
      some members := by
    clear distinct written
    induction members with
    | nil => rfl
    | cons member members inductionHypothesis =>
        obtain ⟨first, others⟩ := List.forall_mem_cons.mp known
        rw [List.map_cons, knownMembers?, inductionHypothesis others]
        simp [first]
  rw [written, ofJson?, kept, Option.bind_eq_bind, Option.bind_some, if_pos distinct]

/-- A field with a default was read, or left out. -/
theorem withDefault_eq_some {read : Json → Option α} {default value : α}
    (found : record.withDefault name read default = some value) :
    (∃ json, read json = some value) ∨ value = default := by
  unfold withDefault at found
  split at found
  · next json _ => exact Or.inl ⟨json, found⟩
  · exact Or.inr (Option.some.inj found).symm

/-- A list that was read, or left out, fits when it is written, if there is a level for it. -/
theorem levels_list_le {read : Nat → Json → Option α} {write : α → Json} {inner : Nat}
    {values : List α}
    (found : record.withDefault name (listOf? read (inner + 1)) [] = some values)
    (each : ∀ json value, read inner json = some value → (write value).levels ≤ inner) :
    (Json.array (values.map write)).levels ≤ inner + 1 := by
  rcases withDefault_eq_some found with ⟨json, listed⟩ | rfl
  · exact levels_le_of_listOf? listed each
  · exact Iff.mpr levels_array_le_iff ⟨inner, rfl, by simp⟩

end Record

/-! ### Integers -/

/-- A number is spelled by its digits, which are at least one. -/
theorem toDigits_spells (magnitude : Nat) :
    (Nat.toDigits 10 magnitude).isEmpty = false ∧
      (Nat.toDigits 10 magnitude).all Char.isDigit = true ∧
      Nat.ofDigitChars 10 (Nat.toDigits 10 magnitude) 0 = magnitude := by
  refine ⟨by simp [Nat.toDigits_ne_nil], ?_, Nat.ofDigitChars_toDigits (by decide) (by decide)⟩
  exact List.all_eq_true.mpr fun _ => Nat.isDigit_of_mem_toDigits (by decide) (by decide)

/-- Every integer is read back from the literal that is written for it. -/
theorem integer?_toString (value : Int) : integer? (toString value) = some value := by
  have digits (magnitude : Nat) : (Nat.repr magnitude).toList = Nat.toDigits 10 magnitude := by
    simp [Nat.repr]
  cases value with
  | ofNat magnitude =>
      obtain ⟨some, all, spelled⟩ := toDigits_spells magnitude
      have literal : (toString (Int.ofNat magnitude)).toList = Nat.toDigits 10 magnitude :=
        digits magnitude
      have unsigned : integerParts (Nat.toDigits 10 magnitude) =
          (false, Nat.toDigits 10 magnitude) := by
        unfold integerParts
        split
        · next rest minus =>
          rw [minus] at all
          cases all
        · rfl
      rw [integer?, literal, unsigned]
      simp only [some, all, spelled, Bool.not_true, Bool.or_self, Bool.false_eq_true, if_false]
      rfl
  | negSucc magnitude =>
      obtain ⟨some, all, spelled⟩ := toDigits_spells (magnitude + 1)
      have literal : (toString (Int.negSucc magnitude)).toList =
          '-' :: Nat.toDigits 10 (magnitude + 1) := by
        have signed : toString (Int.negSucc magnitude) = "-" ++ Nat.repr (magnitude + 1) := rfl
        rw [signed, String.toList_append, digits]
        rfl
      rw [integer?, literal, integerParts]
      simp only [some, all, spelled, Bool.not_true, Bool.or_self, Bool.false_eq_true, if_false,
        if_true, Nat.add_one_ne_zero]
      rfl

/-- An integer within 32 bits is read back from its literal. -/
theorem int32?_ofInt (value : Int32) : (ofInt value.toInt).int32? = some value := by
  have bounds : Int32.minValue.toInt ≤ value.toInt ∧ value.toInt ≤ Int32.maxValue.toInt :=
    ⟨Int32.minValue_le_toInt value, Int32.toInt_le value⟩
  rw [ofInt, int32?, integer?_toString, Option.bind_eq_bind, Option.bind_some, if_pos bounds,
    Int32.ofInt_toInt]

end RpcBindings.Json
