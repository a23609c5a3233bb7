/-
Module: RpcBindings.Proofs.Commands.Names
Purpose: When commands, flags and the parts of requests have names of their own.
Main exports: Commands.generate_repeats_names_iff, Commands.names_of_distinct_fields_repeat
-/
import RpcBindings.Proofs.Commands.Flags
import RpcBindings.Proofs.Name.Collisions

namespace RpcBindings.Commands

open Layout

/-!
Commands and flags are named after methods and fields, spelled in the way of command lines, and
slots after fields, spelled in the way of Go.  Nothing checks that the spellings of different names
differ, and so they are repeated just where the spelling takes away what the names differ in.
-/

/-- Items have names of their own if no two of them are spelled alike. -/
theorem nodup_map_iff {α : Type} {spell : α → String} {alike : α → α → Prop}
    (same : ∀ {first second}, spell first = spell second ↔ alike first second) (items : List α) :
    (items.map spell).Nodup ↔ items.Pairwise fun first second => ¬ alike first second := by
  rw [List.Nodup, List.pairwise_map]
  simp only [ne_eq, same]

theorem nodup_flags_iff (method : Method) (request : Message) :
    (Command.ofRequest method request).flags.Nodup ↔
      request.flagged.Pairwise fun first second => ¬ Name.SameWords first.name second.name :=
  nodup_map_iff Name.kebab_eq_kebab_iff request.flagged

theorem nodup_slots_iff (method : Method) (request : Message) :
    ((Command.ofRequest method request).filled.map Prod.fst).Nodup ↔
      request.flagged.Pairwise fun first second => ¬ Name.SameSlot first.name second.name := by
  have slots : (Command.ofRequest method request).filled.map Prod.fst =
      request.flagged.map fun field => Name.raiseAcronym (Name.pascal field.name) := by
    simp only [Command.ofRequest, List.map_map, Function.comp_def]
  rw [slots]
  exact nodup_map_iff Name.slot_eq_slot_iff request.flagged

/-- Methods have commands of their own if no two of them have names of the same words, in whatever
order they are visited. -/
theorem nodup_commandNames_iff (service : Service) :
    ((dialect.orderedMethods service).map fun method => Name.kebab method.name).Nodup ↔
      service.methods.Pairwise fun first second => ¬ Name.SameWords first.name second.name := by
  have visited := (Dialect.visits_orderedMethods dialect service).perm
  rw [(visited.map fun method => Name.kebab method.name).nodup_iff]
  exact nodup_map_iff Name.kebab_eq_kebab_iff service.methods

/-- Commands that are written for methods and their requests. -/
theorem exists_entries {registry : Registry} {methods : List Method} {layouts : List (List Step)}
    (written : List.Forall₂
      (fun method steps => ∃ request, registry.message? method.inputType = .ok request ∧
        (Command.ofRequest method request).WrittenAs method steps)
      methods layouts) :
    ∃ entries : List (Command × List Step), entries.map Prod.snd = layouts ∧
      List.Forall₂
        (fun method entry => ∃ request, registry.message? method.inputType = .ok request ∧
          entry.1 = Command.ofRequest method request ∧ entry.1.WrittenAs method entry.2)
        methods entries := by
  induction written with
  | nil => exact ⟨[], rfl, .nil⟩
  | @cons method steps methods layouts first _ inductionHypothesis =>
      obtain ⟨request, known, written⟩ := first
      obtain ⟨entries, rfl, others⟩ := inductionHypothesis
      exact ⟨(Command.ofRequest method request, steps) :: entries, rfl,
        .cons ⟨request, known, rfl, written⟩ others⟩

/-- The commands of a file have different names exactly if no two methods have names of the same
words.  The flags of a command have different names exactly if no two fields that have a flag do.
The slots of its request are different exactly if the names of no two such fields are the same when
they are run together, or differ then only in how the acronym at the end is written. -/
theorem generate_repeats_names_iff {registry : Registry} {fileName : String} {options : Options}
    {output : GeneratedFile}
    (generated : generate registry fileName dialect options = .ok output) :
    ∃ file service, ∃ entries : List (Command × List Step),
      registry.file? fileName = .ok file ∧ file.services = [service] ∧
      ListsCommands output.content service (entries.map Prod.snd) ∧
      ((entries.map fun entry => entry.1.name).Nodup ↔
        service.methods.Pairwise fun first second =>
          ¬ Name.SameWords first.name second.name) ∧
      List.Forall₂
        (fun method entry => ∃ request, registry.message? method.inputType = .ok request ∧
          entry.1.WrittenAs method entry.2 ∧
          (entry.1.flags.Nodup ↔ request.flagged.Pairwise fun first second =>
            ¬ Name.SameWords first.name second.name) ∧
          ((entry.1.filled.map Prod.fst).Nodup ↔ request.flagged.Pairwise fun first second =>
            ¬ Name.SameSlot first.name second.name))
        (dialect.orderedMethods service) entries := by
  obtain ⟨file, service, layouts, known, one, lists, written⟩ := exists_listed generated
  obtain ⟨entries, rfl, each⟩ := exists_entries written
  refine ⟨file, service, entries, known, one, lists, ?names, ?commands⟩
  case names =>
    have names : (entries.map fun entry => entry.1.name) =
        (dialect.orderedMethods service).map fun method => Name.kebab method.name := by
      symm
      apply Traversal.map_eq_map_of_forall₂
      apply each.imp
      intro method entry command
      obtain ⟨request, -, same, -⟩ := command
      rw [same, Command.ofRequest]
    rw [names]
    exact nodup_commandNames_iff service
  case commands =>
    apply each.imp
    intro method entry command
    obtain ⟨request, found, same, written⟩ := command
    refine ⟨request, found, written, ?_, ?_⟩
    · rw [same]
      exact nodup_flags_iff method request
    · rw [same]
      exact nodup_slots_iff method request

/-- The commands of both methods, and the flags and slots of each, have names of their own. -/
theorem generate_repeats_names_iff_accountFile :
    ∃ output, ∃ entries : List (Command × List Step),
      generate (Registry.assembled [accountFile]) "accounts.proto" dialect {} = .ok output ∧
      ListsCommands output.content accounts (entries.map Prod.snd) ∧
      (entries.map fun entry => entry.1.name).Nodup ∧
      ∀ entry ∈ entries, entry.1.flags.Nodup ∧ (entry.1.filled.map Prod.fst).Nodup := by
  let registry := Registry.assembled [accountFile]
  have known : registry.file? "accounts.proto" = .ok accountFile := rfl
  obtain ⟨output, generated⟩ := exists_generated_accountFile
  obtain ⟨file, service, entries, found, one, lists, names, commands⟩ :=
    generate_repeats_names_iff generated
  obtain rfl := Except.ok.inj (found.symm.trans known)
  obtain rfl : accounts = service := by simpa [accountFile] using one
  refine ⟨output, entries, generated, lists, names.mpr (by decide), ?_⟩
  intro entry member
  obtain ⟨method, visited, request, isRequest, -, flags, slots⟩ :=
    Traversal.exists_of_mem_results commands member
  have flagged : userRequest.flagged =
      [{ name := "id", kind := .int64 },
       { name := "home_tags", kind := .string, label := .repeated }] := by decide
  have slotsDiffer : ¬ Name.SameSlot "id" "home_tags" := by
    rw [← Name.slot_eq_slot_iff]
    decide
  have known : request = userRequest ∨ request = { name := "Empty" } := by
    have declared := (Dialect.mem_orderedMethods_iff dialect).mp visited
    simp only [accounts, List.mem_cons, List.not_mem_nil, or_false] at declared
    rcases declared with rfl | rfl
    · exact Or.inr (Except.ok.inj isRequest).symm
    · exact Or.inl (Except.ok.inj isRequest).symm
  rcases known with rfl | rfl
  · refine ⟨flags.mpr (by decide), slots.mpr ?_⟩
    rw [flagged, List.pairwise_pair]
    exact slotsDiffer
  · exact ⟨flags.mpr (by decide), slots.mpr .nil⟩

def query : Message :=
  { name := "Query", fields := [{ name := "a", kind := .string }, { name := "A", kind := .bool }] }

/-- Two methods, and two fields of their request, whose names differ in nothing but their case. -/
def queries : Service :=
  { name := "Queries"
    methods := [Method.unary "Get" ".Query" ".Query", Method.unary "get" ".Query" ".Query"] }

def queryFile : File :=
  { name := "query.proto", messages := [query], services := [queries] }

/-- Different names of methods and fields are not enough: two commands of one name are generated,
each with two flags of one name that fill the same slot. -/
theorem names_of_distinct_fields_repeat :
    (queries.methods.map Method.name).Nodup ∧ (query.fields.map Field.name).Nodup ∧
    ∃ output first second,
      generate (Registry.assembled [queryFile]) "query.proto" dialect {} = .ok output ∧
      ListsCommands output.content queries [first, second] ∧
      ∀ steps ∈ [first, second], ∃ method ∈ queries.methods,
        Command.WrittenAs
          { name := "get", flags := ["a", "a"], filled := [("A", "a"), ("A", "a")] }
          method steps := by
  let registry := Registry.assembled [queryFile]
  have known : registry.file? "query.proto" = .ok queryFile := rfl
  have found : registry.message? ".Query" = .ok query := rfl
  have resolve : ∀ method ∈ queries.methods, method.Resolves registry := by
    simp only [queries, List.forall_mem_cons, List.not_mem_nil, false_imp_iff, implies_true,
      and_true]
    exact ⟨⟨⟨_, found⟩, ⟨_, found⟩⟩, ⟨⟨_, found⟩, ⟨_, found⟩⟩⟩
  obtain ⟨output, generated⟩ := exists_generated {} known rfl resolve
  obtain ⟨file, service, commands, isFile, one, lists, written⟩ := exists_listed generated
  obtain rfl := Except.ok.inj (isFile.symm.trans known)
  obtain rfl : queries = service := by simpa [queryFile] using one
  have two : (dialect.orderedMethods queries).length = 2 :=
    (Dialect.visits_orderedMethods dialect queries).perm.length_eq
  obtain ⟨first, second, rfl⟩ := List.length_eq_two.mp (written.length_eq.symm.trans two)
  refine ⟨by decide, by decide, output, first, second, generated, lists, fun steps member => ?_⟩
  obtain ⟨method, visited, request, isRequest, writtenAs⟩ :=
    Traversal.exists_of_mem_results written member
  have declared := (Dialect.mem_orderedMethods_iff dialect).mp visited
  refine ⟨method, declared, ?_⟩
  simp only [queries, List.mem_cons, List.not_mem_nil, or_false] at declared
  rcases declared with rfl | rfl
  · obtain rfl := Except.ok.inj (isRequest.symm.trans found)
    exact writtenAs
  · obtain rfl := Except.ok.inj (isRequest.symm.trans found)
    exact writtenAs

end RpcBindings.Commands
