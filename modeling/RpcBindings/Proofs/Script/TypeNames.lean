/-
Module: RpcBindings.Proofs.Script.TypeNames
Purpose: How many names a script imports for the messages that its methods take and answer with.
Main exports: Registry.messagePlace?, Script.methodMessages, Script.size_types_le,
  Script.size_types_eq_iff, Script.generate_imports_messages_iff
-/
import Mathlib.Data.Finset.Card
import Mathlib.Data.Finset.Image
import RpcBindings.Proofs.Script.Statements
import RpcBindings.Proofs.Script.TypeLists

namespace RpcBindings

/-- Where the message that a reference means is declared.  Two references mean the same message when
they lead to the same place, whatever the messages contain. -/
def Registry.messagePlace? (registry : Registry) (ref : String) : Option MessageEntry :=
  registry.messages.lookup (Name.qualified ref)

theorem Registry.Resolves.exists_messagePlace? {registry : Registry} {ref : String}
    (resolves : registry.Resolves ref) : ∃ entry, registry.messagePlace? ref = some entry := by
  obtain ⟨message, found⟩ := resolves
  cases filed : registry.messages.lookup (Name.qualified ref) with
  | none => simp [Registry.message?, filed] at found
  | some entry => exact ⟨entry, filed⟩

namespace Script

/-!
A script spells a message by the last segment of its reference, and the set of its types keeps one
of several equal spellings.  Each message has one spelling, but a spelling is that of every message
with the segment, in whichever package, file or message it is declared.
-/

/-- The messages that the methods of a file take and answer with. -/
def methodMessages (registry : Registry) (file : File) : Finset MessageEntry :=
  (file.methodRefs.filterMap registry.messagePlace?).toFinset

/-- The references of these messages, all with the dot in front. -/
def qualifiedRefs (file : File) : Finset String :=
  (file.methodRefs.map Name.qualified).toFinset

theorem mem_qualifiedRefs_iff {file : File} {qualified : String} :
    qualified ∈ qualifiedRefs file ↔ ∃ ref ∈ file.methodRefs, Name.qualified ref = qualified := by
  simp [qualifiedRefs]

theorem mem_methodMessages_iff {registry : Registry} {file : File} {entry : MessageEntry} :
    entry ∈ methodMessages registry file ↔
      ∃ ref ∈ file.methodRefs, registry.messagePlace? ref = some entry := by
  simp [methodMessages]

section Counting

variable {dialect : Dialect} {files : List File} {fileName : String} {options : Options}
  {context : FileContext}

/-- A reference of a method leads to a message. -/
theorem exists_messagePlace?_of_mem_methodRefs {registry : Registry}
    (made : ContextFor registry fileName dialect options context) :
    ∀ ref ∈ context.file.methodRefs, ∃ entry, registry.messagePlace? ref = some entry := by
  intro ref used
  obtain ⟨contexts, bound, -⟩ := made.bound
  exact (bound.resolves used).exists_messagePlace?

/-- There are as many messages as references, since no two references mean one message. -/
theorem card_methodMessages (names : (files.map File.name).Nodup)
    (made : ContextFor (Registry.assembled files) fileName dialect options context) :
    (methodMessages (Registry.assembled files) context.file).card =
      (qualifiedRefs context.file).card := by
  let lookup := fun qualified => (Registry.assembled files).messages.lookup qualified
  have images : (methodMessages (Registry.assembled files) context.file).image some =
      (qualifiedRefs context.file).image lookup := by
    ext found
    simp only [Finset.mem_image, mem_methodMessages_iff, mem_qualifiedRefs_iff]
    constructor
    · intro listed
      obtain ⟨entry, ⟨ref, used, filed⟩, rfl⟩ := listed
      exact ⟨_, ⟨ref, used, rfl⟩, filed⟩
    · intro listed
      obtain ⟨_, ⟨ref, used, rfl⟩, rfl⟩ := listed
      obtain ⟨entry, filed⟩ := exists_messagePlace?_of_mem_methodRefs made ref used
      exact ⟨entry, ⟨ref, used, filed⟩, filed.symm⟩
  have injective : Set.InjOn lookup (qualifiedRefs context.file) := by
    intro one listed other otherListed same
    obtain ⟨ref, used, rfl⟩ := mem_qualifiedRefs_iff.mp listed
    obtain ⟨entry, filed⟩ := exists_messagePlace?_of_mem_methodRefs made ref used
    exact Registry.lookup_injective names filed (same.symm.trans filed)
  calc (methodMessages (Registry.assembled files) context.file).card
      = ((methodMessages (Registry.assembled files) context.file).image some).card :=
        (Finset.card_image_of_injective _ (Option.some_injective _)).symm
    _ = ((qualifiedRefs context.file).image lookup).card := by rw [images]
    _ = (qualifiedRefs context.file).card := Finset.card_image_of_injOn injective

/-- There are as many imported names as last segments of references. -/
theorem size_types_eq (exporting : MethodExporting dialect) {registry : Registry}
    (made : ContextFor registry fileName dialect options context) :
    context.types.size = ((qualifiedRefs context.file).image Name.lastSegment).card := by
  have spelled_iff (name : String) : name ∈ context.types.toList ↔
      ∃ ref ∈ context.file.methodRefs, name = Name.lastSegment ref := exporting.mem_types_iff made
  have listed : context.types.toList.toFinset =
      (qualifiedRefs context.file).image Name.lastSegment := by
    ext name
    simp only [List.mem_toFinset, spelled_iff, Finset.mem_image, mem_qualifiedRefs_iff]
    constructor
    · intro spelled
      obtain ⟨ref, used, rfl⟩ := spelled
      exact ⟨_, ⟨ref, used, rfl⟩, Name.lastSegment_qualified ref⟩
    · intro spelled
      obtain ⟨_, ⟨ref, used, rfl⟩, rfl⟩ := spelled
      exact ⟨ref, used, Name.lastSegment_qualified ref⟩
  rw [← listed, List.toFinset_card_of_nodup (exporting.nodup_types made)]
  rfl

theorem size_types_le (exporting : MethodExporting dialect) (names : (files.map File.name).Nodup)
    (made : ContextFor (Registry.assembled files) fileName dialect options context) :
    context.types.size ≤ (methodMessages (Registry.assembled files) context.file).card := by
  rw [size_types_eq exporting made, card_methodMessages names made]
  exact Finset.card_image_le

/-- A name is imported for each message exactly when references with one last segment mean one
message. -/
theorem size_types_eq_iff (exporting : MethodExporting dialect)
    (names : (files.map File.name).Nodup)
    (made : ContextFor (Registry.assembled files) fileName dialect options context) :
    context.types.size = (methodMessages (Registry.assembled files) context.file).card ↔
      ∀ ref ∈ context.file.methodRefs, ∀ other ∈ context.file.methodRefs,
        Name.lastSegment ref = Name.lastSegment other →
          (Registry.assembled files).messagePlace? ref =
            (Registry.assembled files).messagePlace? other := by
  rw [size_types_eq exporting made, card_methodMessages names made, Finset.card_image_iff]
  constructor
  · intro injective ref used other otherUsed same
    rw [← Name.lastSegment_qualified ref, ← Name.lastSegment_qualified other] at same
    have qualified := injective (mem_qualifiedRefs_iff.mpr ⟨ref, used, rfl⟩)
      (mem_qualifiedRefs_iff.mpr ⟨other, otherUsed, rfl⟩) same
    rw [Registry.messagePlace?, Registry.messagePlace?, qualified]
  · intro apart one listed two otherListed same
    obtain ⟨ref, used, rfl⟩ := mem_qualifiedRefs_iff.mp listed
    obtain ⟨other, otherUsed, rfl⟩ := mem_qualifiedRefs_iff.mp otherListed
    rw [Name.lastSegment_qualified, Name.lastSegment_qualified] at same
    obtain ⟨entry, filed⟩ := exists_messagePlace?_of_mem_methodRefs made ref used
    have also := (apart ref used other otherUsed same).symm.trans filed
    exact Registry.lookup_injective names filed also

/-- A message has one spelling, with or without the dot in front of its reference. -/
theorem lastSegment_eq_of_messagePlace?_eq (names : (files.map File.name).Nodup)
    (made : ContextFor (Registry.assembled files) fileName dialect options context) {ref : String}
    (used : ref ∈ context.file.methodRefs) {other : String}
    (same : (Registry.assembled files).messagePlace? ref =
      (Registry.assembled files).messagePlace? other) :
    Name.lastSegment ref = Name.lastSegment other := by
  obtain ⟨entry, filed⟩ := exists_messagePlace?_of_mem_methodRefs made ref used
  have qualified := Registry.lookup_injective names filed (same.symm.trans filed)
  rw [← Name.lastSegment_qualified ref, qualified, Name.lastSegment_qualified]

/-- The code of a method spells its types by the last segments of their references. -/
theorem exists_bind_spelled (exporting : MethodExporting dialect) {registry : Registry}
    (made : ContextFor registry fileName dialect options context) {service : Service}
    (ofFile : service ∈ context.file.services) {method : Method}
    (ofService : method ∈ service.methods) :
    ∃ binding, dialect.bind registry options context.file service method = .ok binding ∧
      binding.referencedTypes = method.typeRefs.map Name.lastSegment := by
  obtain ⟨contexts, bound, -⟩ := made.bound
  have resolves (ref : String) (written : ref ∈ method.typeRefs) : registry.Resolves ref :=
    bound.resolves (List.mem_flatMap.mpr
      ⟨service, ofFile, List.mem_flatMap.mpr ⟨method, ofService, written⟩⟩)
  obtain ⟨binding, methodBound⟩ :=
    (Dialect.exists_bind_eq_ok_iff dialect options context.file service).mpr
      ⟨resolves _ (List.mem_cons_self ..),
        resolves _ (List.mem_cons_of_mem _ (List.mem_cons_self ..))⟩
  refine ⟨binding, methodBound, ?_⟩
  obtain ⟨request, -, -, rfl⟩ := Dialect.bind_eq_ok_iff.mp methodBound
  rw [exporting.referencedTypes_eq, exporting.typeName_eq]
  rfl

end Counting

/-! ### Imports and messages -/

/-- What is generated from loaded files imports its types in one statement, each name once.  The
code of a method spells a type by the last segment of its reference, so that a message has one
spelling.  No more names are imported than there are messages which the methods take and answer
with.  There are as many exactly when no two of these messages have references with one last
segment. -/
theorem generate_imports_messages_iff {dialect : Dialect} {files : List File}
    {registry : Registry} {fileName : String} {options : Options} {output : GeneratedFile}
    (exporting : MethodExporting dialect)
    (loaded : Registry.ofFiles files = .ok registry)
    (generated : generate registry fileName dialect options = .ok output) :
    ∃ context, ContextFor registry fileName dialect options context ∧
      (∃ front keyword module back, output.content =
        front ++ (Statement.take keyword context.types.toList module).text ++ back) ∧
      context.types.toList.Nodup ∧
      (∀ name, name ∈ context.types.toList ↔
        ∃ ref ∈ context.file.methodRefs, name = Name.lastSegment ref) ∧
      (∀ service ∈ context.file.services, ∀ method ∈ service.methods, ∃ binding,
        dialect.bind registry options context.file service method = .ok binding ∧
          binding.referencedTypes = method.typeRefs.map Name.lastSegment) ∧
      (∀ ref ∈ context.file.methodRefs, ∃ entry, registry.messagePlace? ref = some entry) ∧
      (∀ ref ∈ context.file.methodRefs, ∀ other ∈ context.file.methodRefs,
        registry.messagePlace? ref = registry.messagePlace? other →
          Name.lastSegment ref = Name.lastSegment other) ∧
      context.types.size ≤ (methodMessages registry context.file).card ∧
      (context.types.size = (methodMessages registry context.file).card ↔
        ∀ ref ∈ context.file.methodRefs, ∀ other ∈ context.file.methodRefs,
          Name.lastSegment ref = Name.lastSegment other →
            registry.messagePlace? ref = registry.messagePlace? other) := by
  obtain ⟨compatible, rfl⟩ := Registry.ofFiles_eq_ok_iff.mp loaded
  obtain ⟨context, made, rfl⟩ := exists_contextFor generated
  obtain ⟨listing, lists⟩ := exporting.exists_lists
  have names := compatible.names
  refine ⟨context, made, ?_, exporting.nodup_types made, fun name => exporting.mem_types_iff made,
    ?_, exists_messagePlace?_of_mem_methodRefs made, ?_, size_types_le exporting names made,
    size_types_eq_iff exporting names made⟩
  · have taken : (Statement.take listing.keyword context.types.toList
        (listing.module context)).text = listing.imports context := render_nameListSteps _ _ _
    refine ⟨Layout.render indentUnit (listing.frame.above context), listing.keyword,
      listing.module context,
      listing.exports context ++ Layout.render indentUnit (listing.frame.below context), ?_⟩
    rw [taken, lists.renderFile_eq]
    simp only [Listing.script, Frame.around, String.append_assoc]
  · intro service ofFile method ofService
    exact exists_bind_spelled exporting made ofFile ofService
  · intro ref used other _ same
    exact lastSegment_eq_of_messagePlace?_eq names made used same

/-- A service whose methods use messages of two packages, one of them inside another message. -/
def drawingFile : File :=
  { name := "draw.proto", package := "draw", messages := [{ name := "Canvas" }]
    services :=
      [{ name := "Drawing"
         methods := [Method.unary "Draw" ".geo.Shape.Line" ".draw.Canvas",
           Method.unary "Find" "draw.Canvas" ".geo.Point"] }] }

def drawingSamples : List File :=
  [{ name := "geo.proto", package := "geo"
     messages := [{ name := "Point" }, { name := "Shape", nested := [{ name := "Line" }] }] },
   drawingFile]

/-- Three messages, one of them written with and without a dot, are imported under three names. -/
theorem generate_imports_messages_drawingSamples :
    ∃ registry output context, Registry.ofFiles drawingSamples = .ok registry ∧
      generate registry "draw.proto" Store.Flow.dialect {} = .ok output ∧
      ContextFor registry "draw.proto" Store.Flow.dialect {} context ∧
      (methodMessages registry context.file).card = 3 ∧
      context.types.size = (methodMessages registry context.file).card := by
  have loaded : Registry.ofFiles drawingSamples = .ok (Registry.assembled drawingSamples) := rfl
  obtain ⟨output, generated⟩ : ∃ output,
      generate (Registry.assembled drawingSamples) "draw.proto" Store.Flow.dialect {} =
        .ok output := ⟨_, rfl⟩
  obtain ⟨context, made, -, -, -, -, -, -, -, every⟩ :=
    generate_imports_messages_iff .flowStore loaded generated
  have of : context.file = drawingFile := (Except.ok.inj made.known).symm
  have three :
      (methodMessages (Registry.assembled drawingSamples) context.file).card = 3 := by
    rw [of]
    decide
  have apart : ∀ ref ∈ drawingFile.methodRefs, ∀ other ∈ drawingFile.methodRefs,
      Name.lastSegment ref = Name.lastSegment other →
        (Registry.assembled drawingSamples).messagePlace? ref =
          (Registry.assembled drawingSamples).messagePlace? other := by
    decide
  exact ⟨_, output, context, loaded, generated, made, three, every.mpr (of ▸ apart)⟩

/-- Two messages of one name, in different packages, on the two sides of a method. -/
def homonymFile : File :=
  { name := "main.proto"
    services :=
      [{ name := "Main", methods := [Method.unary "Move" ".first.Point" ".second.Point"] }] }

def homonymSamples : List File :=
  [homonymFile,
   { name := "first.proto", package := "first", messages := [{ name := "Point" }] },
   { name := "second.proto", package := "second", messages := [{ name := "Point" }] }]

/-- Different messages may be spelled alike, and then a name is imported for both. -/
theorem names_of_different_messages_repeat :
    (¬ ∀ (dialect : Dialect) (files : List File) (registry : Registry) (options : Options)
      (file : File) (output : GeneratedFile), MethodExporting dialect →
      Registry.ofFiles files = .ok registry → file ∈ files →
      generate registry file.name dialect options = .ok output →
      ∀ ref ∈ file.methodRefs, ∀ other ∈ file.methodRefs,
        registry.messagePlace? ref ≠ registry.messagePlace? other →
          dialect.typeName ref ≠ dialect.typeName other) ∧
    ¬ ∀ (dialect : Dialect) (files : List File) (registry : Registry) (options : Options)
      (file : File) (output : GeneratedFile), MethodExporting dialect →
      Registry.ofFiles files = .ok registry → file ∈ files →
      generate registry file.name dialect options = .ok output →
      ∀ context, ContextFor registry file.name dialect options context →
        context.types.size = (methodMessages registry context.file).card := by
  have loaded : Registry.ofFiles homonymSamples = .ok (Registry.assembled homonymSamples) := rfl
  have member : homonymFile ∈ homonymSamples := List.mem_cons_self ..
  obtain ⟨output, generated⟩ : ∃ output, generate (Registry.assembled homonymSamples)
      homonymFile.name Bridge.dialect {} = .ok output := ⟨_, rfl⟩
  have first : ".first.Point" ∈ homonymFile.methodRefs := by decide
  have second : ".second.Point" ∈ homonymFile.methodRefs := by decide
  have different : (Registry.assembled homonymSamples).messagePlace? ".first.Point" ≠
      (Registry.assembled homonymSamples).messagePlace? ".second.Point" := by decide
  have alike : Name.lastSegment ".first.Point" = Name.lastSegment ".second.Point" := by decide
  constructor
  · intro apart
    exact apart _ _ _ {} _ _ .bridge loaded member generated _ first _ second different alike
  · intro counts
    obtain ⟨context, made, rfl⟩ := exists_contextFor generated
    have of : context.file = homonymFile := (Except.ok.inj made.known).symm
    have count := counts _ _ _ _ _ _ .bridge loaded member generated context made
    rw [size_types_eq_iff .bridge (by decide) made, of] at count
    exact different (count _ first _ second alike)

end Script

end RpcBindings
