/-
Module: RpcBindings.Proofs.Commands.Packages
Purpose: The packages that a file of commands imports, and the commands that use them.
Main exports: Commands.importedPackages, Commands.Uses, Commands.StreamShaped,
  Commands.generate_imports_io_iff, Commands.generate_uses_imports_iff
-/
import Mathlib.Data.List.Chain
import RpcBindings.Proofs.Commands.Flags
import RpcBindings.Proofs.Layout.Lines
import RpcBindings.Proofs.Store.Reading

namespace RpcBindings.Commands

open Layout
open Store (between? between?_append isLeave plainLines)

/-!
In Go a package must be imported to be used and used to be imported.  The imports are written at the
top of a file, from what is known about the services as they are declared; the uses are written in
the actions of the commands, when the methods are bound.  Imports and uses are read here from the
layout of the file, each for itself.
-/

/-! ### Reading packages -/

/-- The packages that are imported: what stands between quotes in the lines of the import block. -/
def importedPackages (layout : List Step) : List String :=
  let importBlock := (layout.dropWhile (· != .enter "import (")).takeWhile fun step => !isLeave step
  (plainLines importBlock).filterMap (between? "\"" "\"")

/-- The name by which code refers to a package: the last segment of its path. -/
def packageName (path : String) : String :=
  String.ofList (Path.lastSegmentReversed path.toList).reverse

/-- A line of code refers to something that a package exports: the name of the package stands at the
start of the line, or behind a blank or an opening bracket, and a dot and a name with a capital
follow it. -/
def RefersTo (line path : String) : Prop :=
  ∃ front member, line = front ++ packageName path ++ "." ++ member ∧
    (∀ c ∈ front.toList.getLast?, c = ' ' ∨ c = '(') ∧
    ∃ initial ∈ member.toList.head?, initial.isUpper = true

/-- Some line of the code refers to something that a package exports. -/
def Uses (steps : List Step) (path : String) : Prop :=
  ∃ line ∈ steps.flatMap Step.written, RefersTo line path

/-- The action of a command that calls a method as a stream is part of the code. -/
def StreamShaped (method : String) (steps : List Step) : Prop :=
  streamAction method <:+: steps

/-- The code asks whether a stream has come to its end. -/
def AsksForEnd (steps : List Step) : Prop :=
  .enter "if err == io.EOF \x7b" ∈ steps

/-! ### Imports -/

/-- The packages of a file are those that every action needs, that of streams if there are any, and
that of the commands themselves. -/
theorem importedPackages_fileLayout (context : FileContext) (service : Service)
    (commands : List (List Step)) :
    importedPackages (fileLayout context service commands) =
      ["context", "encoding/json", "fmt"] ++ (if context.streaming then ["io"] else []) ++
        ["github.com/urfave/cli"] := by
  let above : List Step :=
    [.line ("// Code initially generated by " ++ plugin),
     .line ("// InputID: " ++ context.inputId),
     .blank,
     .line ("package " ++ context.options.goPackageName),
     .blank]
  let listed : List Step :=
    [.enter "import (", .line "\"context\"", .line "\"encoding/json\"", .line "\"fmt\""] ++
      (if context.streaming then [.line "\"io\""] else []) ++
      [.blank, .line "\"github.com/urfave/cli\""]
  let below : List Step :=
    [.blank, .line ("// Commands are autogenerated cli commands generated by " ++ plugin)] ++
      block ("func Commands(clientFn func() " ++ (service.name ++ "Client") ++ ") []cli.Command ")
        (block "return []cli.Command" commands.flatten "") ""
  have parts : fileLayout context service commands =
      above ++ (listed ++ .leave ")" :: below) := by
    simp only [fileLayout, headingSteps, importSteps, above, listed, below, List.append_assoc,
      List.cons_append, List.nil_append]
  have apart : ∀ step ∈ above, (step != .enter "import (") = true := by
    simp [above]
  have inside : ∀ step ∈ listed, (!isLeave step) = true := by
    cases streaming : context.streaming <;> simp [listed, streaming, isLeave]
  have begins : (listed ++ .leave ")" :: below).dropWhile (· != .enter "import (") =
      listed ++ .leave ")" :: below := by
    cases streaming : context.streaming <;> simp [listed]
  rw [importedPackages, parts, List.dropWhile_append_of_pos apart, begins,
    List.takeWhile_append_of_pos inside, List.takeWhile_cons_of_neg (by simp [isLeave]),
    List.append_nil]
  cases streaming : context.streaming <;> simp only [listed, streaming] <;> decide

/-- A file is written with streams exactly if some method of its services has both sides stream. -/
theorem streaming_iff {registry : Registry} {fileName : String} {options : Options}
    {context : FileContext} (made : ContextFor registry fileName dialect options context)
    {service : Service} (one : context.file.services = [service]) :
    context.streaming = true ↔ ∃ method ∈ service.methods, method.isDuplex = true := by
  obtain ⟨services, -, given⟩ := made.bound
  have streaming : context.streaming =
      context.file.services.any fun service => service.methods.any Method.isDuplex := by
    rw [given]
    rfl
  rw [streaming, one]
  simp

/-! ### Uses -/

/-- A line of the code refers to a package if a capital follows the package's name and the dot, and
if nothing stands in front of the name, or a blank or a bracket does. -/
theorem uses_of_mem {steps : List Step} {step : Step} {path : String} (front member : String)
    {last : Option Char} {initial : Char} (found : step ∈ steps)
    (written : step.written = [front ++ packageName path ++ "." ++ member])
    (ends : front.toList.getLast? = last) (behind : last ∈ [none, some ' ', some '('])
    (begins : member.toList.head? = some initial) (exported : initial.isUpper = true) :
    Uses steps path := by
  have apart : ∀ c ∈ front.toList.getLast?, c = ' ' ∨ c = '(' := by
    rw [ends]
    intro c same
    rw [Option.mem_def] at same
    simpa [same] using behind
  refine ⟨_, List.mem_flatMap.mpr ⟨step, found, ?_⟩, front, member, rfl, apart, initial, begins,
    exported⟩
  rw [written]
  exact List.mem_singleton_self _

theorem Uses.of_subset {steps code : List Step} {path : String} (uses : Uses steps path)
    (within : steps ⊆ code) : Uses code path := by
  obtain ⟨line, member, refers⟩ := uses
  obtain ⟨step, stepMember, written⟩ := List.mem_flatMap.mp member
  exact ⟨line, List.mem_flatMap.mpr ⟨step, within stepMember, written⟩, refers⟩

/-! ### Actions -/

theorem callSteps_infix_commandWith (method : Method) (name : String)
    (declarations assignments : List String) :
    callSteps method <:+: commandWith method name declarations assignments := by
  refine ⟨[.enter "cli.Command\x7b", .line ("Name: \"" ++ name ++ "\",")] ++
      listing "Flags: []cli.Flag" declarations "," ++
      [.enter "Action: func(c *cli.Context) error \x7b"] ++
      listing ("req := &" ++ Name.lastSegment method.inputType) assignments "",
    [.leave "\x7d,", .leave "\x7d,"], ?_⟩
  simp [commandWith, block]

/-- Both actions print a response. -/
theorem printResponse_subset_callSteps (method : Method) : printResponse ⊆ callSteps method := by
  intro step member
  unfold callSteps
  split
  · simp [streamAction, block, member]
  · simp [unaryAction, member]

/-- An action calls its method in a context, and prints what it answers with. -/
theorem uses_callSteps (method : Method) {path : String}
    (needed : path ∈ ["context", "encoding/json", "fmt"]) : Uses (callSteps method) path := by
  have bracket (text : String) : (text ++ "(").toList.getLast? = some '(' := by simp
  have name : packageName "context" = "context" := by decide
  simp only [List.mem_cons, List.not_mem_nil, or_false] at needed
  rcases needed with rfl | rfl | rfl
  · unfold callSteps
    split
    · refine uses_of_mem _ "TODO())" (List.mem_cons_self ..) ?_
        (bracket ("stream, err := clientFn()." ++ method.name)) (by decide) rfl (by decide)
      simp [Step.written, name, String.append_assoc]
    · refine uses_of_mem _ "TODO(), req)" (List.mem_cons_self ..) ?_
        (bracket ("resp, err := clientFn()." ++ method.name)) (by decide) rfl (by decide)
      simp [Step.written, name, String.append_assoc]
  · refine Uses.of_subset ?_ (printResponse_subset_callSteps method)
    exact uses_of_mem "s, marshalErr := " "MarshalIndent(resp, \"\", \"  \")"
      (List.mem_cons_self ..) (by decide) rfl (by decide) rfl (by decide)
  · refine Uses.of_subset ?_ (printResponse_subset_callSteps method)
    exact uses_of_mem "" "Printf(\"%s\\n\", s)" (List.mem_concat_self ..) (by decide) rfl
      (by decide) rfl (by decide)

theorem StreamShaped.asksForEnd {method : String} {steps : List Step}
    (shaped : StreamShaped method steps) : AsksForEnd steps :=
  shaped.subset (by simp [streamAction, block])

theorem AsksForEnd.uses_io {steps : List Step} (asks : AsksForEnd steps) : Uses steps "io" :=
  uses_of_mem "if err == " "EOF \x7b" asks (by decide) rfl (by decide) rfl (by decide)

/-- A list opens no block but its own. -/
theorem eq_of_enter_mem_listing {header after text : String} {lines : List String}
    (member : .enter text ∈ listing header lines after) : text = header ++ "\x7b" := by
  cases lines with
  | nil => simp [listing] at member
  | cons line lines => simpa [listing, block] using member

/-- A command asks for the end of a stream only if its method is called as a stream. -/
theorem isDuplex_of_asksForEnd {method : Method} {name : String}
    {declarations assignments : List String}
    (asks : AsksForEnd (commandWith method name declarations assignments)) :
    method.isDuplex = true := by
  by_contra unary
  have flags : .enter "if err == io.EOF \x7b" ∉ listing "Flags: []cli.Flag" declarations "," :=
    fun found => absurd (eq_of_enter_mem_listing found) (by decide)
  have request : .enter "if err == io.EOF \x7b" ∉
      listing ("req := &" ++ Name.lastSegment method.inputType) assignments "" := by
    intro found
    have begins := congrArg (fun text => text.toList.head?) (eq_of_enter_mem_listing found)
    simp at begins
  have action : .enter "if err == io.EOF \x7b" ∉ callSteps method := by
    rw [callSteps, if_neg unary]
    simp [unaryAction, printResponse, returnOn, block]
  simp [AsksForEnd, commandWith, block, flags, request, action] at asks

section Written

variable {command : Command} {method : Method} {steps : List Step}
  (written : command.WrittenAs method steps)

include written

theorem Command.WrittenAs.callSteps_infix : callSteps method <:+: steps := by
  obtain ⟨declarations, assignments, -, -, rfl⟩ := written
  exact callSteps_infix_commandWith method command.name declarations assignments

theorem Command.WrittenAs.streamShaped (duplex : method.isDuplex = true) :
    StreamShaped method.name steps := by
  have action := written.callSteps_infix
  rwa [callSteps, if_pos duplex] at action

theorem Command.WrittenAs.asksForEnd_iff : AsksForEnd steps ↔ method.isDuplex = true := by
  refine ⟨fun asks => ?_, fun duplex => (written.streamShaped duplex).asksForEnd⟩
  obtain ⟨declarations, assignments, -, -, rfl⟩ := written
  exact isDuplex_of_asksForEnd asks

/-- No action but that of a stream asks for an end. -/
theorem Command.WrittenAs.streamShaped_iff :
    StreamShaped method.name steps ↔ AsksForEnd steps :=
  ⟨StreamShaped.asksForEnd, fun asks => written.streamShaped (written.asksForEnd_iff.mp asks)⟩

end Written

/-- Some command asks for an end exactly if both sides of some method send streams. -/
theorem exists_asksForEnd_iff {registry : Registry} {methods : List Method}
    {commands : List (List Step)}
    (written : List.Forall₂
      (fun method steps => ∃ request, registry.message? method.inputType = .ok request ∧
        (Command.ofRequest method request).WrittenAs method steps)
      methods commands) :
    (∃ method ∈ methods, method.isDuplex = true) ↔ ∃ steps ∈ commands, AsksForEnd steps := by
  induction written with
  | nil => simp
  | cons first _ inductionHypothesis =>
      obtain ⟨request, -, writtenAs⟩ := first
      rw [List.exists_mem_cons_iff, List.exists_mem_cons_iff, inductionHypothesis,
        writtenAs.asksForEnd_iff]

/-! ### Files -/

/-- The only places of a file that ask for the end of a stream are its commands. -/
theorem asksForEnd_fileLayout_iff {context : FileContext} {service : Service}
    {commands : List (List Step)} :
    AsksForEnd (fileLayout context service commands) ↔ ∃ steps ∈ commands, AsksForEnd steps := by
  have heading : .enter "if err == io.EOF \x7b" ∉ headingSteps context := by
    cases streaming : context.streaming <;> simp [headingSteps, importSteps, streaming]
  have header (client : String) : "if err == io.EOF \x7b" ≠
      "func Commands(clientFn func() " ++ client ++ ") []cli.Command " ++ "\x7b" := by
    intro same
    have begins := congrArg (fun text => text.toList[1]?) same
    simp at begins
  simp [AsksForEnd, fileLayout, block, heading, header]

/-- The package of streams is imported exactly if the file asks somewhere for the end of a stream.
It does so exactly if it has a command that calls its method as a stream, and nowhere else; and such
a command there is exactly if both sides of some method send streams. -/
theorem generate_imports_io_iff {registry : Registry} {fileName : String} {options : Options}
    {output : GeneratedFile}
    (generated : generate registry fileName dialect options = .ok output) :
    ∃ context service commands,
      ContextFor registry fileName dialect options context ∧ context.file.services = [service] ∧
      output.content = render "\t" (fileLayout context service commands) ∧
      List.Forall₂
        (fun method steps =>
          (∃ command : Command, command.WrittenAs method steps) ∧
          (StreamShaped method.name steps ↔ AsksForEnd steps) ∧
          (StreamShaped method.name steps → Uses steps "io"))
        (dialect.orderedMethods service) commands ∧
      ("io" ∈ importedPackages (fileLayout context service commands) ↔
        AsksForEnd (fileLayout context service commands)) ∧
      (AsksForEnd (fileLayout context service commands) ↔
        ∃ steps ∈ commands, ∃ method, StreamShaped method steps) ∧
      ((∃ steps ∈ commands, ∃ method, StreamShaped method steps) ↔
        ∃ method ∈ service.methods,
          method.clientStreaming = true ∧ method.serverStreaming = true) := by
  obtain ⟨context, service, commands, made, one, content, written⟩ := exists_layout generated
  have asks : (∃ steps ∈ commands, AsksForEnd steps) ↔
      ∃ method ∈ service.methods, method.isDuplex = true := by
    rw [← exists_asksForEnd_iff written]
    simp only [Dialect.mem_orderedMethods_iff]
  have shaped : (∃ steps ∈ commands, ∃ method, StreamShaped method steps) ↔
      ∃ steps ∈ commands, AsksForEnd steps := by
    constructor
    · intro stream
      obtain ⟨steps, member, method, shaped⟩ := stream
      exact ⟨steps, member, shaped.asksForEnd⟩
    · intro asks
      obtain ⟨steps, member, asks⟩ := asks
      obtain ⟨method, -, request, -, writtenAs⟩ := Traversal.exists_of_mem_results written member
      exact ⟨steps, member, method.name, writtenAs.streamShaped_iff.mpr asks⟩
  refine ⟨context, service, commands, made, one, content, ?shapes, ?imports, ?asks, ?streams⟩
  case shapes =>
    refine written.imp fun method steps command => ?_
    obtain ⟨request, -, writtenAs⟩ := command
    exact ⟨⟨_, writtenAs⟩, writtenAs.streamShaped_iff, fun shaped => shaped.asksForEnd.uses_io⟩
  case imports =>
    rw [asksForEnd_fileLayout_iff, asks, ← streaming_iff made one, importedPackages_fileLayout]
    cases context.streaming <;> decide
  case asks => rw [asksForEnd_fileLayout_iff, shaped]
  case streams =>
    rw [shaped, asks]
    simp only [Method.isDuplex, Bool.and_eq_true]

def chat : Service :=
  { name := "Chat"
    methods := [Method.duplex "Talk" ".Line" ".Line", Method.unary "Ask" ".Line" ".Line"] }

/-- A service of which one method has streams on both sides. -/
def chatFile : File :=
  { name := "chat.proto", messages := [{ name := "Line" }], services := [chat] }

theorem exists_generated_chatFile :
    ∃ output, generate (Registry.assembled [chatFile]) "chat.proto" dialect {} = .ok output := by
  have line : (Registry.assembled [chatFile]).message? ".Line" = .ok { name := "Line" } := rfl
  refine exists_generated {} (rfl : Registry.file? _ _ = .ok chatFile) rfl ?_
  simp only [chat, List.forall_mem_cons, List.not_mem_nil, false_imp_iff, implies_true, and_true]
  exact ⟨⟨⟨_, line⟩, ⟨_, line⟩⟩, ⟨⟨_, line⟩, ⟨_, line⟩⟩⟩

/-- The package of streams is imported for one of two methods, whose command uses it. -/
theorem generate_imports_io_iff_chatFile :
    ∃ output context commands,
      generate (Registry.assembled [chatFile]) "chat.proto" dialect {} = .ok output ∧
      output.content = render "\t" (fileLayout context chat commands) ∧
      "io" ∈ importedPackages (fileLayout context chat commands) ∧
      ∃ steps ∈ commands, Uses steps "io" := by
  obtain ⟨output, generated⟩ := exists_generated_chatFile
  obtain ⟨context, service, commands, made, one, content, -, imports, asks, streams⟩ :=
    generate_imports_io_iff generated
  have of : context.file = chatFile := (Except.ok.inj made.known).symm
  obtain rfl : chat = service := by simpa [of, chatFile] using one
  have shaped := streams.mpr ⟨Method.duplex "Talk" ".Line" ".Line", by decide, rfl, rfl⟩
  refine ⟨output, context, commands, generated, content, imports.mpr (asks.mpr shaped), ?_⟩
  obtain ⟨steps, member, method, shaped⟩ := shaped
  exact ⟨steps, member, shaped.asksForEnd.uses_io⟩

/-- The packages that every action needs are imported into every file and used by every command, so
that they are used exactly if there is a command, which is to say exactly if the service has a
method. -/
theorem generate_uses_imports_iff {registry : Registry} {fileName : String} {options : Options}
    {output : GeneratedFile}
    (generated : generate registry fileName dialect options = .ok output) :
    ∃ context service commands,
      ContextFor registry fileName dialect options context ∧ context.file.services = [service] ∧
      output.content = render "\t" (fileLayout context service commands) ∧
      List.Forall₂
        (fun method steps => ∃ command : Command, command.WrittenAs method steps)
        (dialect.orderedMethods service) commands ∧
      ∀ path ∈ ["context", "encoding/json", "fmt"],
        path ∈ importedPackages (fileLayout context service commands) ∧
        (∀ steps ∈ commands, Uses steps path) ∧
        ((∃ steps ∈ commands, Uses steps path) ↔ service.methods ≠ []) := by
  obtain ⟨context, service, commands, made, one, content, written⟩ := exists_layout generated
  refine ⟨context, service, commands, made, one, content, ?written, fun path needed => ?_⟩
  case written =>
    refine written.imp fun method steps command => ?_
    obtain ⟨request, -, writtenAs⟩ := command
    exact ⟨_, writtenAs⟩
  have used : ∀ steps ∈ commands, Uses steps path := by
    intro steps member
    obtain ⟨method, -, request, -, writtenAs⟩ := Traversal.exists_of_mem_results written member
    exact (uses_callSteps method needed).of_subset writtenAs.callSteps_infix.subset
  have count : commands.length = service.methods.length :=
    written.length_eq.symm.trans (Dialect.visits_orderedMethods dialect service).perm.length_eq
  refine ⟨?imported, used, ?iff⟩
  case imported =>
    rw [importedPackages_fileLayout, List.append_assoc]
    exact List.mem_append_left _ needed
  case iff =>
    rw [← List.length_pos_iff, ← count, List.length_pos_iff_exists_mem]
    constructor
    · intro uses
      obtain ⟨steps, member, -⟩ := uses
      exact ⟨steps, member⟩
    · intro some
      obtain ⟨steps, member⟩ := some
      exact ⟨steps, member, used steps member⟩

/-- Both commands use the packages that their file imports. -/
theorem generate_uses_imports_iff_chatFile :
    ∃ output context commands,
      generate (Registry.assembled [chatFile]) "chat.proto" dialect {} = .ok output ∧
      output.content = render "\t" (fileLayout context chat commands) ∧ commands.length = 2 ∧
      ∀ path ∈ ["context", "encoding/json", "fmt"], ∀ steps ∈ commands, Uses steps path := by
  obtain ⟨output, generated⟩ := exists_generated_chatFile
  obtain ⟨context, service, commands, made, one, content, written, used⟩ :=
    generate_uses_imports_iff generated
  have of : context.file = chatFile := (Except.ok.inj made.known).symm
  obtain rfl : chat = service := by simpa [of, chatFile] using one
  refine ⟨output, context, commands, generated, content, ?_, fun path needed => ?_⟩
  · exact written.length_eq.symm.trans (Dialect.visits_orderedMethods dialect chat).perm.length_eq
  · exact (used path needed).2.1

def idle : Service := { name := "Idle" }

/-- A service without methods. -/
def idleFile : File :=
  { name := "idle.proto", services := [idle] }

/-- The output for this file. -/
def idleContent : String :=
  "// Code initially generated by protoc-gen-gocli\n// InputID: idle.proto\n\n" ++
  "package proto\n\n" ++
  "import (\n\t\"context\"\n\t\"encoding/json\"\n\t\"fmt\"\n\n\t\"github.com/urfave/cli\"\n)\n\n" ++
  "// Commands are autogenerated cli commands generated by protoc-gen-gocli\n" ++
  "func Commands(clientFn func() IdleClient) []cli.Command \x7b\n" ++
  "\treturn []cli.Command\x7b\n\t\x7d\n\x7d\n"

/-- A line in which no dot follows the last letter of a package's name does not refer to it. -/
theorem not_refersTo {line path : String} {last : Char}
    (ends : (packageName path).toList.getLast? = some last)
    (apart : line.toList.IsChain fun c next => ¬ (c = last ∧ next = '.')) :
    ¬ RefersTo line path := by
  intro refers
  obtain ⟨front, member, rfl, -, -⟩ := refers
  obtain ⟨stem, name⟩ := List.getLast?_eq_some_iff.mp ends
  have within : [last, '.'] <:+: (front ++ packageName path ++ "." ++ member).toList :=
    ⟨front.toList ++ stem, member.toList, by simp [name]⟩
  have pair := apart.infix within
  simp at pair

/-- Packages are imported although there is no command, and the file does not refer to them. -/
theorem imports_of_idle_service_unused :
    ∃ output context,
      generate (Registry.assembled [idleFile]) "idle.proto" dialect {} = .ok output ∧
      output.content = idleContent ∧
      output.content = render "\t" (fileLayout context idle []) ∧
      ∀ path ∈ ["context", "encoding/json", "fmt"],
        path ∈ importedPackages (fileLayout context idle []) ∧
        ¬ Uses (fileLayout context idle []) path := by
  have known : (Registry.assembled [idleFile]).file? "idle.proto" = .ok idleFile := rfl
  obtain ⟨output, generated⟩ := exists_generated {} known rfl (by simp [idle])
  obtain ⟨context, service, commands, made, one, content, written⟩ := exists_layout generated
  have of : context.file = idleFile := Except.ok.inj (made.known.symm.trans known)
  obtain rfl : idle = service := by simpa [of, idleFile] using one
  have none : dialect.orderedMethods idle = [] :=
    (Dialect.visits_orderedMethods dialect idle).perm.eq_nil
  rw [none, List.forall₂_nil_left_iff] at written
  subst written
  -- The context differs from this one in nothing that the layout shows.
  let shown : FileContext :=
    { registry := {}, file := idleFile, inputId := "idle.proto", types := {}, services := []
      streaming := false, options := {} }
  have streaming : context.streaming = false := by
    rw [Bool.eq_false_iff, ne_eq, streaming_iff made one]
    simp [idle]
  have inputId : context.inputId = "idle.proto" := by
    obtain ⟨services, -, given⟩ := made.bound
    rw [given, of]
    rfl
  have layout : fileLayout context idle [] = fileLayout shown idle [] := by
    simp only [fileLayout, headingSteps, inputId, streaming, made.options_eq, shown]
  rw [layout] at content
  have shownContent : render "\t" (fileLayout shown idle []) = idleContent := by decide +kernel
  refine ⟨output, shown, generated, content.trans shownContent, content, fun path needed => ?_⟩
  refine ⟨?imported, ?unused⟩
  case imported =>
    rw [importedPackages_fileLayout, List.append_assoc]
    exact List.mem_append_left _ needed
  case unused =>
    intro uses
    obtain ⟨line, member, refers⟩ := uses
    have apart : ∀ line ∈ (fileLayout shown idle []).flatMap Step.written,
        line.toList.IsChain fun c next => next = '.' → c ≠ 't' ∧ c ≠ 'n' := by
      decide +kernel
    have ending : ∀ path ∈ ["context", "encoding/json", "fmt"],
        (packageName path).toList.getLast? = some 't' ∨
          (packageName path).toList.getLast? = some 'n' := by
      decide
    rcases ending path needed with ends | ends
    · refine not_refersTo ends ((apart line member).imp fun c next behind same => ?_) refers
      exact (behind same.2).1 same.1
    · refine not_refersTo ends ((apart line member).imp fun c next behind same => ?_) refers
      exact (behind same.2).2 same.1

end RpcBindings.Commands
