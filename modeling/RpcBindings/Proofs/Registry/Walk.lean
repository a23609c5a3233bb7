/-
Module: RpcBindings.Proofs.Registry.Walk
Purpose: Walks through declared messages, and the declarations that they reach.
Main exports: Walk, File.refOf, File.Declares, Walk.messageAt?, File.mem_declaredMessages_iff,
  File.mem_declaredEnums_iff, File.mem_declaredRefs_iff
-/
import RpcBindings.Registry.Declarations

namespace RpcBindings

/-!
What a file declares is said here without the order in which declarations are collected: a walk
goes down from message to message by index, and the reference of what it reaches is spelled from the
names on the way.
-/

/-- `Walk messages path names message`: the first index of `path` counts among `messages` and each
further one among what is nested in the message before.  `names` are the names on the way, and
`message` is reached at the end. -/
inductive Walk : List Message → List Nat → List String → Message → Prop where
  | here {messages : List Message} {index : Nat} {message : Message}
      (found : messages[index]? = some message) :
      Walk messages [index] [message.name] message
  | inside {messages : List Message} {index : Nat} {outer message : Message}
      {path : List Nat} {names : List String}
      (found : messages[index]? = some outer)
      (rest : Walk outer.nested path names message) :
      Walk messages (index :: path) (outer.name :: names) message

def Name.below (scope : String) (names : List String) : String :=
  scope ++ String.join (names.map fun name => "." ++ name)

/-- The reference that is spelled `.package.Outer.Name` from the names on the way to a type. -/
def File.refOf (file : File) (names : List String) : String :=
  Name.below file.scope names

/-- What a file declares, at any depth, by reference. -/
inductive File.Declares (file : File) : String → Prop where
  | message {path : List Nat} {names : List String} {message : Message}
      (walk : Walk file.messages path names message) :
      File.Declares file (file.refOf names)
  | enum {enum : Enum} (member : enum ∈ file.enums) :
      File.Declares file (file.refOf [enum.name])
  | nestedEnum {path : List Nat} {names : List String} {message : Message} {enum : Enum}
      (walk : Walk file.messages path names message) (member : enum ∈ message.enums) :
      File.Declares file (file.refOf (names ++ [enum.name]))

/-! ### Names below a scope -/

@[simp] theorem Name.below_nil (scope : String) : Name.below scope [] = scope := by
  simp [Name.below]

@[simp] theorem Name.below_cons (scope name : String) (names : List String) :
    Name.below scope (name :: names) = Name.below (Name.member scope name) names := by
  simp [Name.below, Name.member, String.append_assoc]

/-! ### Walks -/

namespace Walk

theorem path_ne_nil {messages : List Message} {path : List Nat} {names : List String}
    {message : Message} (walk : Walk messages path names message) : path ≠ [] := by
  cases walk <;> simp

/-- The names on the way are settled by the index path. -/
theorem names_eq {messages : List Message} {path : List Nat} {names others : List String}
    {message found : Message} (walk : Walk messages path names message)
    (other : Walk messages path others found) : names = others := by
  induction walk generalizing others with
  | here reached =>
      cases other with
      | here again =>
          rw [reached] at again
          cases again
          rfl
      | inside again rest => exact absurd rfl rest.path_ne_nil
  | inside reached rest inductionHypothesis =>
      cases other with
      | here again => exact absurd rfl rest.path_ne_nil
      | inside again otherRest =>
          rw [reached] at again
          cases again
          rw [inductionHypothesis otherRest]

/-- Going on among further messages in front only moves the first index. -/
theorem cons_index {first : Message} {messages : List Message} {index : Nat} {path : List Nat}
    {names : List String} {message : Message} :
    Walk (first :: messages) ((index + 1) :: path) names message ↔
      Walk messages (index :: path) names message := by
  constructor
  · intro walk
    cases walk with
    | here found => exact .here (by simpa using found)
    | inside found rest => exact .inside (by simpa using found) rest
  · intro walk
    cases walk with
    | here found => exact .here (by simpa using found)
    | inside found rest => exact .inside (by simpa using found) rest

/-- A walk that begins with the first message ends there or goes on inside it. -/
theorem cons_zero {first : Message} {messages : List Message} {path : List Nat}
    {names : List String} {message : Message} :
    Walk (first :: messages) (0 :: path) names message ↔
      (path = [] ∧ names = [first.name] ∧ message = first) ∨
        ∃ inner, names = first.name :: inner ∧ Walk first.nested path inner message := by
  constructor
  · intro walk
    cases walk with
    | here found =>
        have same : first = message := by simpa using found
        subst same
        exact Or.inl ⟨rfl, rfl, rfl⟩
    | @inside _ _ outer _ _ _ found rest =>
        have same : first = outer := by simpa using found
        subst same
        exact Or.inr ⟨_, rfl, rest⟩
  · intro below
    rcases below with ⟨rfl, rfl, rfl⟩ | ⟨inner, rfl, rest⟩
    · exact .here rfl
    · exact .inside rfl rest

/-- Where a message is reached, the index path finds it. -/
theorem nestedAt? {outer message : Message} {path : List Nat} {names : List String}
    (walk : Walk outer.nested path names message) : outer.nestedAt? path = some message := by
  generalize reached : outer.nested = messages at walk
  induction walk generalizing outer with
  | here found => simp [Message.nestedAt?, reached, found]
  | inside found rest inductionHypothesis =>
      simp [Message.nestedAt?, reached, found, inductionHypothesis rfl]

theorem messageAt? {file : File} {path : List Nat} {names : List String} {message : Message}
    (walk : Walk file.messages path names message) : file.messageAt? path = some message := by
  cases walk with
  | here found => simp [File.messageAt?, Message.nestedAt?, found]
  | inside found rest => simp [File.messageAt?, found, rest.nestedAt?]

end Walk

/-! ### Collected messages -/

mutual

/-- The messages collected from a message are itself and what walks inside it reach. -/
theorem Message.mem_declaredMessages_iff :
    ∀ (message : Message) {scope ref : String} {base path : List Nat},
      (ref, path) ∈ message.declaredMessages scope base ↔
        (ref = Name.member scope message.name ∧ path = base) ∨
          ∃ tail names inner, Walk message.nested tail names inner ∧ path = base ++ tail ∧
            ref = Name.below (Name.member scope message.name) names
  | { name, fields, nested, enums, mapEntry }, scope, ref, base, path => by
      rw [Message.declaredMessages, List.mem_append,
        Message.mem_declaredMessagesIn_iff nested, List.mem_singleton, Prod.mk.injEq, or_comm]
      refine or_congr Iff.rfl ⟨?_, ?_⟩
      · intro reached
        rcases reached with ⟨index, tail, names, inner, walk, rfl, rfl⟩
        exact ⟨index :: tail, names, inner, walk, by simp, rfl⟩
      · intro reached
        rcases reached with ⟨tail, names, inner, walk, rfl, rfl⟩
        obtain ⟨index, tail, rfl⟩ := List.exists_cons_of_ne_nil walk.path_ne_nil
        exact ⟨index, tail, names, inner, walk, by simp, rfl⟩

/-- The messages collected from a list are what walks through the list reach.  Their index paths lie
below `base`, where the first message of the list has the index `start`. -/
theorem Message.mem_declaredMessagesIn_iff :
    ∀ (messages : List Message) {scope ref : String} {base path : List Nat} {start : Nat},
      (ref, path) ∈ Message.declaredMessagesIn scope base start messages ↔
        ∃ index tail names inner, Walk messages (index :: tail) names inner ∧
          path = base ++ (start + index) :: tail ∧ ref = Name.below scope names
  | [], scope, ref, base, path, start => by
      constructor
      · intro member
        simp [Message.declaredMessagesIn] at member
      · intro reached
        rcases reached with ⟨index, tail, names, inner, walk, -, -⟩
        cases walk with
        | here found => simp at found
        | inside found _ => simp at found
  | message :: messages, scope, ref, base, path, start => by
      rw [Message.declaredMessagesIn, List.mem_append, Message.mem_declaredMessages_iff message,
        Message.mem_declaredMessagesIn_iff messages]
      constructor
      · intro collected
        rcases collected with (⟨rfl, rfl⟩ | ⟨tail, names, inner, walk, rfl, rfl⟩) |
          ⟨index, tail, names, inner, walk, rfl, rfl⟩
        · exact ⟨0, [], [message.name], message, .here rfl, by simp, by simp⟩
        · exact ⟨0, tail, message.name :: names, inner, .inside rfl walk, by simp, by simp⟩
        · exact ⟨index + 1, tail, names, inner, Walk.cons_index.mpr walk,
            by simp [Nat.add_assoc, Nat.add_comm 1], rfl⟩
      · intro reached
        rcases reached with ⟨index, tail, names, inner, walk, rfl, rfl⟩
        cases index with
        | zero =>
            rcases Walk.cons_zero.mp walk with ⟨rfl, rfl, rfl⟩ | ⟨below, rfl, rest⟩
            · exact Or.inl (Or.inl ⟨by simp, by simp⟩)
            · exact Or.inl (Or.inr ⟨tail, below, inner, rest, by simp, by simp⟩)
        | succ index =>
            exact Or.inr ⟨index, tail, names, inner, Walk.cons_index.mp walk,
              by simp [Nat.add_assoc, Nat.add_comm 1], rfl⟩

end

theorem File.mem_declaredMessages_iff {file : File} {ref : String} {path : List Nat} :
    (ref, path) ∈ file.declaredMessages ↔
      ∃ names message, Walk file.messages path names message ∧ ref = file.refOf names := by
  rw [File.declaredMessages, Message.mem_declaredMessagesIn_iff]
  constructor
  · intro collected
    rcases collected with ⟨index, tail, names, message, walk, rfl, rfl⟩
    exact ⟨names, message, by simpa using walk, rfl⟩
  · intro reached
    rcases reached with ⟨names, message, walk, rfl⟩
    obtain ⟨index, tail, rfl⟩ := List.exists_cons_of_ne_nil walk.path_ne_nil
    exact ⟨index, tail, names, message, walk, by simp, rfl⟩

/-! ### Collected enums -/

mutual

/-- The enums collected from a message are its own and those of the messages inside it. -/
theorem Message.mem_declaredEnums_iff :
    ∀ (message : Message) {scope ref : String},
      ref ∈ message.declaredEnums scope ↔
        (∃ enum ∈ message.enums,
          ref = Name.member (Name.member scope message.name) enum.name) ∨
          ∃ path names inner, Walk message.nested path names inner ∧ ∃ enum ∈ inner.enums,
            ref = Name.below (Name.member scope message.name) (names ++ [enum.name])
  | { name, fields, nested, enums, mapEntry }, scope, ref => by
      rw [Message.declaredEnums, List.mem_append, Message.mem_declaredEnumsIn_iff nested]
      refine or_congr ?_ Iff.rfl
      simp [eq_comm]

/-- The enums collected from a list are those of the messages that walks through the list reach. -/
theorem Message.mem_declaredEnumsIn_iff :
    ∀ (messages : List Message) {scope ref : String},
      ref ∈ Message.declaredEnumsIn scope messages ↔
        ∃ path names inner, Walk messages path names inner ∧ ∃ enum ∈ inner.enums,
          ref = Name.below scope (names ++ [enum.name])
  | [], scope, ref => by
      constructor
      · intro member
        simp [Message.declaredEnumsIn] at member
      · intro reached
        rcases reached with ⟨path, names, inner, walk, -⟩
        cases walk with
        | here found => simp at found
        | inside found _ => simp at found
  | message :: messages, scope, ref => by
      rw [Message.declaredEnumsIn, List.mem_append, Message.mem_declaredEnums_iff message,
        Message.mem_declaredEnumsIn_iff messages]
      constructor
      · intro collected
        rcases collected with
          (⟨enum, member, rfl⟩ | ⟨path, names, inner, walk, enum, member, rfl⟩) |
            ⟨path, names, inner, walk, enum, member, rfl⟩
        · exact ⟨[0], [message.name], message, .here rfl, enum, member, by simp⟩
        · exact ⟨0 :: path, message.name :: names, inner, .inside rfl walk, enum, member, by simp⟩
        · obtain ⟨index, tail, rfl⟩ := List.exists_cons_of_ne_nil walk.path_ne_nil
          exact ⟨(index + 1) :: tail, names, inner, Walk.cons_index.mpr walk, enum, member, rfl⟩
      · intro reached
        rcases reached with ⟨path, names, inner, walk, enum, member, rfl⟩
        obtain ⟨index, tail, rfl⟩ := List.exists_cons_of_ne_nil walk.path_ne_nil
        cases index with
        | zero =>
            rcases Walk.cons_zero.mp walk with ⟨rfl, rfl, rfl⟩ | ⟨below, rfl, rest⟩
            · exact Or.inl (Or.inl ⟨enum, member, by simp⟩)
            · exact Or.inl (Or.inr ⟨tail, below, inner, rest, enum, member, by simp⟩)
        | succ index =>
            exact Or.inr ⟨index :: tail, names, inner, Walk.cons_index.mp walk, enum, member, rfl⟩

end

/-- The enums collected from a file are its own and those of the messages that walks reach. -/
theorem File.mem_declaredEnums_iff {file : File} {ref : String} :
    ref ∈ file.declaredEnums ↔
      (∃ enum ∈ file.enums, ref = file.refOf [enum.name]) ∨
        ∃ path names message, Walk file.messages path names message ∧ ∃ enum ∈ message.enums,
          ref = file.refOf (names ++ [enum.name]) := by
  rw [File.declaredEnums, List.mem_append, Message.mem_declaredEnumsIn_iff]
  refine or_congr ?_ Iff.rfl
  simp [File.refOf, eq_comm]

/-- The collected references of a file are those that it declares. -/
theorem File.mem_declaredRefs_iff {file : File} {ref : String} :
    ref ∈ file.declaredRefs ↔ file.Declares ref := by
  rw [File.declaredRefs, List.mem_append, File.mem_declaredEnums_iff]
  constructor
  · intro collected
    rcases collected with collected | ⟨enum, member, rfl⟩ |
      ⟨path, names, message, walk, enum, member, rfl⟩
    · obtain ⟨⟨found, path⟩, member, rfl⟩ := List.mem_map.mp collected
      obtain ⟨names, message, walk, rfl⟩ := File.mem_declaredMessages_iff.mp member
      exact .message walk
    · exact .enum member
    · exact .nestedEnum walk member
  · intro declared
    cases declared with
    | message walk =>
        have collected := File.mem_declaredMessages_iff.mpr ⟨_, _, walk, rfl⟩
        exact Or.inl (List.mem_map_of_mem collected)
    | enum member => exact Or.inr (Or.inl ⟨_, member, rfl⟩)
    | nestedEnum walk member => exact Or.inr (Or.inr ⟨_, _, _, walk, _, member, rfl⟩)

end RpcBindings
