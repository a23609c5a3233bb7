/-
Module: RpcBindings.Proofs.Commands.Flags
Purpose: The flags of commands, and the parts of requests that are filled from them.
Main exports: Field.FitsFlag, Commands.Command, Commands.Command.WrittenAs,
  Commands.ListsCommands, Commands.fileLayout, Commands.exists_layout,
  Commands.generate_lists_flags
-/
import RpcBindings.Proofs.Generation.Outcome
import RpcBindings.Proofs.Layout.Rendering

namespace RpcBindings

/-!
A command names a flag in two places: where the flag is declared, and where the request is filled
from it.  The two are written by one function for each field but laid out by different ones, so they
are read here line by line, each for itself.  Names of methods and types may hold any characters,
and so the lines are those of the layout, as it was before it became a text.
-/

/-- One flag can hold what the field holds: any number of texts, or a single value that is neither a
message nor one of an enumeration nor bytes. -/
def Field.FitsFlag (field : Field) : Prop :=
  (field.isRepeated = true ∧ field.kind = .string) ∨
    (field.isRepeated = false ∧ field.kind ∉ [.message, .enum, .bytes, .group])

instance : DecidablePred Field.FitsFlag := fun field =>
  inferInstanceAs (Decidable
    ((field.isRepeated = true ∧ field.kind = .string) ∨
      (field.isRepeated = false ∧ field.kind ∉ [.message, .enum, .bytes, .group])))

/-- The fields of a request that have a flag, in declared order. -/
def Message.flagged (request : Message) : List Field :=
  request.fields.filter fun field => field.FitsFlag

namespace Commands

open Layout

/-! ### Lines -/

/-- Letters and digits. -/
def Word (text : String) : Prop :=
  ∀ c ∈ text.toList, c.isAlphanum = true

instance : DecidablePred Word := fun text =>
  List.decidableBAll (fun c : Char => c.isAlphanum = true) text.toList

/-- A line that declares a flag of some type under a name. -/
def DeclaresFlag (line name : String) : Prop :=
  ∃ flagType, Word flagType ∧
    line = "cli." ++ flagType ++ "\x7bName: \"" ++ name ++ "\"\x7d,"

/-- A line that fills a slot of a request with the value of the flag of a name, either as it is read
or converted to some type. -/
def FillsSlot (line slot name : String) : Prop :=
  ∃ getter, Word getter ∧
    let read := "c." ++ getter ++ "(\"" ++ name ++ "\")"
    line = slot ++ ": " ++ read ++ "," ∨
      ∃ goType, Word goType ∧ line = slot ++ ": " ++ (goType ++ "(" ++ read ++ ")") ++ ","

/-- A list in braces with one line for each item, and without a line break if there are none. -/
def listing (header : String) (lines : List String) (after : String) : List Step :=
  match lines with
  | [] => [.line (header ++ "\x7b\x7d" ++ after)]
  | line :: lines => block header [.lines (line :: lines)] after

/-- What is to be read in the lines of a command. -/
structure Command where
  name : String
  /-- The names of the flags that are declared. -/
  flags : List String
  /-- The slots of the request, each with the name of the flag that fills it. -/
  filled : List (String × String)
deriving Repr, DecidableEq, Inhabited

/-- What an action does with its request. -/
def callSteps (method : Method) : List Step :=
  if method.isDuplex then streamAction method.name else unaryAction method.name

/-- The command with given lines for its flags and for its request. -/
def commandWith (method : Method) (name : String) (declarations assignments : List String) :
    List Step :=
  block "cli.Command"
    ([.line ("Name: \"" ++ name ++ "\",")] ++
      listing "Flags: []cli.Flag" declarations "," ++
      block "Action: func(c *cli.Context) error "
        (listing ("req := &" ++ Name.lastSegment method.inputType) assignments "" ++
          callSteps method)
        ",")
    ","

/-- The steps write the command: one line declares each of its flags, and one line fills each of its
slots. -/
def Command.WrittenAs (command : Command) (method : Method) (steps : List Step) : Prop :=
  ∃ declarations assignments,
    List.Forall₂ DeclaresFlag declarations command.flags ∧
    List.Forall₂ (fun line entry => FillsSlot line entry.1 entry.2) assignments command.filled ∧
    steps = commandWith method command.name declarations assignments

/-- A text that ends in a list of commands, each laid out as its steps say. -/
def ListsCommands (content : String) (service : Service) (commands : List (List Step)) : Prop :=
  ∃ heading, .enter "cli.Command\x7b" ∉ heading ∧
    content = render "\t" (heading ++
      block ("func Commands(clientFn func() " ++ (service.name ++ "Client") ++ ") []cli.Command ")
        (block "return []cli.Command" commands.flatten "") "")

/-! ### Flags -/

/-- The fields with a flag are those that one flag can hold. -/
theorem isSome_ofField?_iff {field : Field} :
    (FlagKind.ofField? field).isSome = true ↔ field.FitsFlag := by
  unfold FlagKind.ofField? Field.FitsFlag
  cases field.isRepeated with
  | true => cases field.kind <;> decide
  | false => cases field.kind <;> decide

/-- The texts that a kind of flag is written with. -/
def FlagKind.texts (kind : FlagKind) : List String :=
  [kind.flagType, kind.getter] ++ kind.conversion.toList

theorem FlagKind.word_ofField? {field : Field} {kind : FlagKind}
    (found : ofField? field = some kind) : ∀ text ∈ kind.texts, Word text := by
  have single (fieldKind : FieldKind) :
      ∀ kind ∈ single? fieldKind, ∀ text ∈ kind.texts, Word text := by
    cases fieldKind <;> decide
  have several (fieldKind : FieldKind) :
      ∀ kind ∈ several? fieldKind, ∀ text ∈ kind.texts, Word text := by
    cases fieldKind <;> decide
  unfold ofField? at found
  split at found
  · exact several _ kind found
  · exact single _ kind found

/-- The two lines that a field gets name the same flag. -/
theorem reads_mapField {field : Field} (fits : field.FitsFlag) :
    DeclaresFlag (mapField field).declaration (Name.kebab field.name) ∧
      FillsSlot (mapField field).accessor (Name.raiseAcronym (Name.pascal field.name))
        (Name.kebab field.name) := by
  obtain ⟨kind, found⟩ := Option.isSome_iff_exists.mp (isSome_ofField?_iff.mpr fits)
  have words := FlagKind.word_ofField? found
  have bound : mapField field = Flag.binding
      ⟨kind, Name.kebab field.name, Name.raiseAcronym (Name.pascal field.name)⟩ := by
    simp only [mapField, Flag.ofField?, found, Option.map_some, Flag.nameOf, Flag.slotOf]
  rw [bound]
  constructor
  · exact ⟨kind.flagType, words _ (by simp [FlagKind.texts]), rfl⟩
  · refine ⟨kind.getter, words _ (by simp [FlagKind.texts]), ?_⟩
    cases converted : kind.conversion with
    | none =>
        left
        simp only [Flag.binding, Flag.assignment, Flag.value, converted]
    | some goType =>
        right
        refine ⟨goType, words _ (by simp [FlagKind.texts, converted]), ?_⟩
        simp only [Flag.binding, Flag.assignment, Flag.value, converted]

theorem mapField_eq_none {field : Field} (unfit : ¬ field.FitsFlag) :
    mapField field = FieldBinding.none := by
  have absent : FlagKind.ofField? field = none := by
    rw [← Option.not_isSome_iff_eq_none, isSome_ofField?_iff]
    exact unfit
  simp only [mapField, Flag.ofField?, absent, Option.map_none]

/-- A field that has a flag is bound to something, as its slot is filled. -/
theorem isEmpty_mapField_iff {field : Field} :
    (mapField field).isEmpty = false ↔ field.FitsFlag := by
  constructor
  · intro filled
    by_contra unfit
    rw [mapField_eq_none unfit, FieldBinding.isEmpty_none] at filled
    cases filled
  · intro fits
    obtain ⟨flagType, -, declared⟩ := (reads_mapField fits).1
    have some : (mapField field).declaration ≠ "" := by
      rw [declared]
      simp [← String.toList_inj]
    simp [FieldBinding.isEmpty, some]

/-- The fields that are bound are those with a flag. -/
theorem bindFields_eq (request : Message) :
    dialect.bindFields request = request.flagged.map mapField := by
  rw [Dialect.bindFields, Message.flagged, List.filter_map]
  congr 1
  refine List.filter_congr fun field _ => ?_
  rw [Bool.eq_iff_iff]
  simp [dialect, isEmpty_mapField_iff]

/-! ### Commands -/

theorem flagSteps_eq (fields : List FieldBinding) :
    flagSteps fields = listing "Flags: []cli.Flag" (fields.map FieldBinding.declaration) "," := by
  cases fields with
  | nil => rfl
  | cons field fields => rfl

theorem requestSteps_eq (requestType : String) (fields : List FieldBinding) :
    requestSteps requestType fields =
      listing ("req := &" ++ requestType) (fields.map FieldBinding.accessor) "" := by
  cases fields with
  | nil => simp [requestSteps, listing, String.append_assoc]
  | cons field fields => rfl

/-- The command of a method, as it is to be read when the method takes a request. -/
def Command.ofRequest (method : Method) (request : Message) : Command :=
  { name := Name.kebab method.name
    flags := request.flagged.map fun field => Name.kebab field.name
    filled := request.flagged.map fun field =>
      (Name.raiseAcronym (Name.pascal field.name), Name.kebab field.name) }

theorem writtenAs_commandSteps (context : MethodContext)
    (requestType : context.requestType = Name.lastSegment context.method.inputType)
    (fields : context.fields = dialect.bindFields context.request) :
    (Command.ofRequest context.method context.request).WrittenAs context.method
      (commandSteps context) := by
  have fits : ∀ field ∈ context.request.flagged, field.FitsFlag := by
    intro field member
    simpa using (List.mem_filter.mp member).2
  rw [bindFields_eq] at fields
  refine ⟨context.fields.map FieldBinding.declaration, context.fields.map FieldBinding.accessor,
    ?flags, ?filled, ?steps⟩
  case flags =>
    rw [fields, List.map_map, Command.ofRequest, List.forall₂_map_left_iff,
      List.forall₂_map_right_iff, List.forall₂_same]
    intro field member
    exact (reads_mapField (fits field member)).1
  case filled =>
    rw [fields, List.map_map, Command.ofRequest, List.forall₂_map_left_iff,
      List.forall₂_map_right_iff, List.forall₂_same]
    intro field member
    dsimp only [Function.comp_apply]
    exact (reads_mapField (fits field member)).2
  case steps =>
    simp only [commandSteps, flagSteps_eq, requestSteps_eq, requestType, commandWith, callSteps,
      Command.ofRequest]

/-! ### Files -/

theorem balanced_listing (header : String) (lines : List String) (after : String) :
    Balanced (listing header lines after) := by
  cases lines with
  | nil => exact balanced_singleton fun _ => rfl
  | cons line lines => exact Balanced.block (balanced_singleton fun _ => rfl) _ _

theorem balanced_callSteps (method : Method) : Balanced (callSteps method) := by
  intro level
  unfold callSteps
  split
  · rfl
  · rfl

theorem balanced_commandWith (method : Method) (name : String)
    (declarations assignments : List String) :
    Balanced (commandWith method name declarations assignments) := by
  have action := (balanced_listing ("req := &" ++ Name.lastSegment method.inputType) assignments
    "").append (balanced_callSteps method)
  refine Balanced.block (.append (.append ?_ (balanced_listing _ _ _)) (action.block _ _)) _ _
  exact balanced_singleton fun _ => rfl

theorem Command.WrittenAs.balanced {command : Command} {method : Method} {steps : List Step}
    (written : command.WrittenAs method steps) : Balanced steps := by
  obtain ⟨declarations, assignments, -, -, rfl⟩ := written
  exact balanced_commandWith _ _ _ _

/-- What stands in front of the function that lists the commands. -/
def headingSteps (context : FileContext) : List Step :=
  [.line ("// Code initially generated by " ++ plugin),
   .line ("// InputID: " ++ context.inputId),
   .blank,
   .line ("package " ++ context.options.goPackageName),
   .blank] ++
  importSteps context.streaming ++
  [.blank,
   .line ("// Commands are autogenerated cli commands generated by " ++ plugin)]

/-- A file in which the commands of a service are laid out where they stand. -/
def fileLayout (context : FileContext) (service : Service) (commands : List (List Step)) :
    List Step :=
  headingSteps context ++
    block ("func Commands(clientFn func() " ++ (service.name ++ "Client") ++ ") []cli.Command ")
      (block "return []cli.Command" commands.flatten "") ""

theorem levelAfter_headingSteps (context : FileContext) :
    levelAfter 0 (headingSteps context) = 0 := by
  cases streaming : context.streaming <;> simp only [headingSteps, streaming] <;> rfl

/-- No command begins in front of the function that lists the commands. -/
theorem command_not_mem_headingSteps (context : FileContext) :
    .enter "cli.Command\x7b" ∉ headingSteps context := by
  cases streaming : context.streaming <;> simp [headingSteps, importSteps, streaming]

/-- The steps of the commands of some methods, from which their code was laid out. -/
theorem exists_commands {registry : Registry} {options : Options} {file : File} {service : Service}
    {methods : List Method} {bindings : List Binding}
    (bound : List.Forall₂
      (fun method binding => dialect.bind registry options file service method = .ok binding)
      methods bindings) :
    ∃ commands,
      List.Forall₂
        (fun method steps => ∃ request, registry.message? method.inputType = .ok request ∧
          (Command.ofRequest method request).WrittenAs method steps)
        methods commands ∧
      bindings.map Binding.fragment = commands.map (renderAt "\t" commandLevel) := by
  induction bound with
  | nil => exact ⟨[], .nil, rfl⟩
  | @cons method binding methods bindings first _ inductionHypothesis =>
      obtain ⟨request, known, -, rfl⟩ := Dialect.bind_eq_ok_iff.mp first
      obtain ⟨commands, written, fragments⟩ := inductionHypothesis
      let context : MethodContext :=
        { registry, file, service, method, request
          requestType := dialect.typeName method.inputType
          responseType := dialect.typeName method.outputType
          fields := dialect.bindFields request
          options }
      have steps := writtenAs_commandSteps context rfl rfl
      refine ⟨commandSteps context :: commands, .cons ⟨request, known, steps⟩ written, ?_⟩
      rw [List.map_cons, List.map_cons, fragments]
      rfl

/-- Nothing but the fixed lines is left of the lists of a command without flags. -/
theorem Command.WrittenAs.of_no_flags {command : Command} {method : Method} {steps : List Step}
    (written : command.WrittenAs method steps) (flags : command.flags = [])
    (filled : command.filled = []) :
    .line "Flags: []cli.Flag\x7b\x7d," ∈ steps ∧
      .line ("req := &" ++ Name.lastSegment method.inputType ++ "\x7b\x7d") ∈ steps := by
  obtain ⟨declarations, assignments, declared, fills, rfl⟩ := written
  rw [flags, List.forall₂_nil_right_iff] at declared
  rw [filled, List.forall₂_nil_right_iff] at fills
  subst declared fills
  simp [commandWith, listing, block]

/-- Commands that were laid out one by one stand in the file as if they had been laid out there. -/
theorem renderFile_eq (context : FileContext) {service : Service} {commands : List (List Step)}
    (one : context.file.services = [service])
    (rendered : context.services = [String.join (commands.map (renderAt "\t" commandLevel))])
    (balanced : ∀ steps ∈ commands, Balanced steps) :
    dialect.renderFile context = render "\t" (fileLayout context service commands) := by
  have client : clientType context.file = service.name ++ "Client" := by
    rw [clientType, one]
  have spliced : Balanced (context.services.map Step.splice) :=
    Balanced.map fun _ _ => balanced_singleton fun _ => rfl
  have flat : Balanced commands.flatten := by
    rw [← List.flatMap_id]
    exact Balanced.flatMap balanced
  have same : renderAt "\t" (0 + 1 + 1) (context.services.map Step.splice) =
      renderAt "\t" (0 + 1 + 1) commands.flatten := by
    rw [renderAt_flatten "\t" balanced, rendered]
    exact renderAt_splice ..
  have parts : fileSteps context = headingSteps context ++
      block ("func Commands(clientFn func() " ++ clientType context.file ++ ") []cli.Command ")
        (block "return []cli.Command" (context.services.map .splice) "") "" := rfl
  simp only [dialect, render, fileLayout]
  rw [parts, client, renderAt_append, renderAt_append, levelAfter_headingSteps,
    renderAt_block _ (spliced.block _ _), renderAt_block _ spliced, same,
    renderAt_block _ (flat.block _ _), renderAt_block _ flat]

/-- Commands are generated for every file with one service if the types of its methods are known. -/
theorem exists_generated {registry : Registry} {fileName : String} {file : File}
    {service : Service} (options : Options) (known : registry.file? fileName = .ok file)
    (one : file.services = [service])
    (resolve : ∀ method ∈ service.methods, method.Resolves registry) :
    ∃ output, generate registry fileName dialect options = .ok output := by
  obtain ⟨context, bound⟩ :=
    (Dialect.exists_bindService_eq_ok_iff dialect options file).mpr resolve
  have accepted : dialect.AcceptsCount file := by
    intro _
    rw [one, List.length_singleton]
  refine ⟨_, generate_eq_ok_iff.mpr ⟨file, [context], known, accepted, ?_, rfl⟩⟩
  rw [one]
  exact .cons bound .nil

/-- A file of commands has one service, and for each of its methods the command that is made of the
method and of its request. -/
theorem exists_layout {registry : Registry} {fileName : String} {options : Options}
    {output : GeneratedFile}
    (generated : generate registry fileName dialect options = .ok output) :
    ∃ context service commands, ContextFor registry fileName dialect options context ∧
      context.file.services = [service] ∧
      output.content = render "\t" (fileLayout context service commands) ∧
      List.Forall₂
        (fun method steps => ∃ request, registry.message? method.inputType = .ok request ∧
          (Command.ofRequest method request).WrittenAs method steps)
        (dialect.orderedMethods service) commands := by
  obtain ⟨file, contexts, known, accepted, bound, rfl⟩ := generate_eq_ok_iff.mp generated
  have made : ContextFor registry fileName dialect options
      (dialect.fileContext registry options file contexts) := ⟨known, contexts, bound, rfl⟩
  obtain ⟨service, one⟩ := List.length_eq_one_iff.mp (accepted rfl)
  rw [one] at bound
  obtain ⟨context, others, serviceBound, none, rfl⟩ := List.forall₂_cons_left_iff.mp bound
  obtain rfl := List.forall₂_nil_left_iff.mp none
  obtain ⟨bindings, methodsBound, rfl⟩ := Dialect.bindService_eq_ok_iff.mp serviceBound
  obtain ⟨commands, written, fragments⟩ := exists_commands methodsBound
  have balanced : ∀ steps ∈ commands, Balanced steps := by
    intro steps member
    obtain ⟨method, -, request, -, written⟩ := Traversal.exists_of_mem_results written member
    exact written.balanced
  have rendered : [dialect.renderService { file, service, bindings }] =
      [String.join (commands.map (renderAt "\t" commandLevel))] := by
    rw [← fragments]
    rfl
  refine ⟨_, service, commands, made, one, ?_, written⟩
  dsimp only
  exact renderFile_eq (dialect.fileContext registry options file _) one rendered balanced

theorem exists_listed {registry : Registry} {fileName : String} {options : Options}
    {output : GeneratedFile}
    (generated : generate registry fileName dialect options = .ok output) :
    ∃ file service commands, registry.file? fileName = .ok file ∧ file.services = [service] ∧
      ListsCommands output.content service commands ∧
      List.Forall₂
        (fun method steps => ∃ request, registry.message? method.inputType = .ok request ∧
          (Command.ofRequest method request).WrittenAs method steps)
        (dialect.orderedMethods service) commands := by
  obtain ⟨context, service, commands, made, one, content, written⟩ := exists_layout generated
  exact ⟨context.file, service, commands, made.known, one,
    ⟨headingSteps context, command_not_mem_headingSteps context, content⟩, written⟩

/-- Every method of the service has one command.  It declares a flag for every field of the request
that one flag can hold, in declared order, and fills the field's slot from the flag of that name; no
other flags are declared and no other slots filled.  If there is no such field, the lists of flags
and of slots are empty and take a line each. -/
theorem generate_lists_flags {registry : Registry} {fileName : String} {options : Options}
    {output : GeneratedFile}
    (generated : generate registry fileName dialect options = .ok output) :
    ∃ file service commands, registry.file? fileName = .ok file ∧ file.services = [service] ∧
      (dialect.orderedMethods service).Perm service.methods ∧
      ListsCommands output.content service commands ∧
      List.Forall₂
        (fun method steps => ∃ request, registry.message? method.inputType = .ok request ∧
          (Command.ofRequest method request).WrittenAs method steps ∧
          (request.flagged = [] →
            .line "Flags: []cli.Flag\x7b\x7d," ∈ steps ∧
              .line ("req := &" ++ Name.lastSegment method.inputType ++ "\x7b\x7d") ∈ steps))
        (dialect.orderedMethods service) commands := by
  obtain ⟨file, service, commands, known, one, lists, written⟩ := exists_listed generated
  refine ⟨file, service, commands, known, one,
    (Dialect.visits_orderedMethods dialect service).perm, lists,
    written.imp fun method steps read => ?_⟩
  obtain ⟨request, found, written⟩ := read
  refine ⟨request, found, written, fun unfit => written.of_no_flags ?_ ?_⟩
  · simp only [Command.ofRequest, unfit, List.map_nil]
  · simp only [Command.ofRequest, unfit, List.map_nil]

def userRequest : Message :=
  { name := "UserRequest"
    fields :=
      [{ name := "id", kind := .int64 }, { name := "avatar", kind := .bytes },
       { name := "home_tags", kind := .string, label := .repeated }] }

/-- A service of which one method takes a request that has a field without a flag, and the other one
that has no fields. -/
def accounts : Service :=
  { name := "Accounts"
    methods :=
      [Method.unary "Ping" ".Empty" ".Empty", Method.unary "GetUser" ".UserRequest" ".Empty"] }

def accountFile : File :=
  { name := "accounts.proto"
    messages := [userRequest, { name := "Empty" }]
    services := [accounts] }

theorem exists_generated_accountFile :
    ∃ output, generate (Registry.assembled [accountFile]) "accounts.proto" dialect {} =
      .ok output := by
  have empty : (Registry.assembled [accountFile]).message? ".Empty" = .ok { name := "Empty" } := rfl
  refine exists_generated {} (rfl : Registry.file? _ _ = .ok accountFile) rfl ?_
  simp only [accounts, List.forall_mem_cons, List.not_mem_nil, false_imp_iff, implies_true,
    and_true]
  exact ⟨⟨⟨_, empty⟩, ⟨_, empty⟩⟩, ⟨⟨userRequest, rfl⟩, ⟨_, empty⟩⟩⟩

/-- The flags of both commands, in the order of the commands. -/
theorem generate_lists_flags_accountFile :
    ∃ output commands,
      generate (Registry.assembled [accountFile]) "accounts.proto" dialect {} = .ok output ∧
      ListsCommands output.content accounts commands ∧
      List.Forall₂ (fun command steps => ∃ method, Command.WrittenAs command method steps)
        [{ name := "get-user", flags := ["id", "home-tags"]
           filled := [("ID", "id"), ("HomeTags", "home-tags")] },
         { name := "ping", flags := [], filled := [] }]
        commands := by
  let registry := Registry.assembled [accountFile]
  let ping := Method.unary "Ping" ".Empty" ".Empty"
  let getUser := Method.unary "GetUser" ".UserRequest" ".Empty"
  have known : registry.file? "accounts.proto" = .ok accountFile := rfl
  have user : registry.message? ".UserRequest" = .ok userRequest := rfl
  have empty : registry.message? ".Empty" = .ok { name := "Empty" } := rfl
  have later : ¬ Dialect.nameBytes "Ping" ≤ Dialect.nameBytes "GetUser" := by decide
  have visited : dialect.orderedMethods accounts = [getUser, ping] := by
    simp [Dialect.orderedMethods, dialect, accounts, ping, getUser, Method.unary, List.mergeSort,
      List.MergeSort.Internal.splitInTwo, later]
  obtain ⟨output, generated⟩ := exists_generated_accountFile
  obtain ⟨file, service, commands, found, one, -, lists, written⟩ :=
    generate_lists_flags generated
  obtain rfl := Except.ok.inj (found.symm.trans known)
  obtain rfl : accounts = service := by simpa [accountFile] using one
  rw [visited] at written
  obtain ⟨first, _, ⟨request, isUser, writtenUser, -⟩, others, rfl⟩ :=
    List.forall₂_cons_left_iff.mp written
  obtain ⟨second, _, ⟨other, isEmpty, writtenPing, -⟩, none, rfl⟩ :=
    List.forall₂_cons_left_iff.mp others
  obtain rfl := List.forall₂_nil_left_iff.mp none
  obtain rfl := Except.ok.inj (isUser.symm.trans user)
  obtain rfl := Except.ok.inj (isEmpty.symm.trans empty)
  have ofUser : Command.ofRequest getUser userRequest =
      { name := "get-user", flags := ["id", "home-tags"]
        filled := [("ID", "id"), ("HomeTags", "home-tags")] } := by decide
  have ofPing : Command.ofRequest ping { name := "Empty" } =
      { name := "ping", flags := [], filled := [] } := by decide
  rw [ofUser] at writtenUser
  rw [ofPing] at writtenPing
  exact ⟨output, _, generated, lists, .cons ⟨getUser, writtenUser⟩ (.cons ⟨ping, writtenPing⟩ .nil)⟩

end Commands

end RpcBindings
