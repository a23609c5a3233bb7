/-
Module: RpcBindings.Proofs.Brackets.Commands
Purpose: The brackets of command line clients match.
Main exports: Commands.tidy_dialect
-/
import RpcBindings.Proofs.Brackets.Dialects
import RpcBindings.Proofs.Commands.Flags

namespace RpcBindings.Commands

open Layout
open Name (AllPortable)

/-!
The code of a command is put together from that of its flags, which was written when the fields of
the request were bound, and from one of two actions.
-/

/-! ### Flags -/

theorem Word.portable {text : String} (word : Word text) : Name.Portable text := by
  intro c member
  rw [Name.isPortable, Name.isWordChar, word c member]
  rfl

theorem FlagKind.portable_ofField? {field : Field} {kind : FlagKind}
    (found : ofField? field = some kind) : AllPortable kind.texts :=
  fun text member => (FlagKind.word_ofField? found text member).portable

theorem Flag.tidy_binding {kind : FlagKind} {name slot : String} (known : AllPortable kind.texts)
    (namePortable : Name.Portable name) (slotPortable : Name.Portable slot) :
    (Flag.mk kind name slot).binding.Tidy where
  declaration := by
    have flagType := known.left.head
    rw [wellBracketed_iff]
    simp only [binding, declaration, brackets_append, flagType.brackets_eq,
      namePortable.brackets_eq]
    repeat rw [brackets_ofList]
    decide
  accessor := by
    have getter := known.left.tail.head
    rw [wellBracketed_iff]
    cases converted : kind.conversion with
    | none =>
        simp only [binding, assignment, value, converted, brackets_append, getter.brackets_eq,
          namePortable.brackets_eq, slotPortable.brackets_eq]
        repeat rw [brackets_ofList]
        decide
    | some goType =>
        have typePortable := known.right goType (by simp [converted])
        simp only [binding, assignment, value, converted, brackets_append, getter.brackets_eq,
          namePortable.brackets_eq, slotPortable.brackets_eq, typePortable.brackets_eq]
        repeat rw [brackets_ofList]
        decide

theorem tidy_mapField {field : Field} (portable : AllPortable field.texts) :
    (mapField field).Tidy := by
  have name := Field.portable_name portable
  unfold mapField
  split
  · next flag found =>
    obtain ⟨kind, known, rfl⟩ := Option.map_eq_some_iff.mp found
    exact Flag.tidy_binding (FlagKind.portable_ofField? known) name.kebab name.pascal.raiseAcronym
  · exact FieldBinding.tidy_none

/-! ### Commands -/

section Actions

variable {method : String} (portable : Name.Portable method)

include portable

theorem tidy_unaryAction : Tidy (unaryAction method) := by
  -- Once the name is passed over, the brackets of the fixed texts are left.
  simp only [Tidy, unaryAction, returnOn, printResponse, flatMap_brackets_block,
    List.flatMap_append, List.flatMap_cons, List.flatMap_nil, Step.brackets, brackets_append,
    portable.brackets_eq]
  repeat rw [brackets_ofList]
  decide

theorem tidy_streamAction : Tidy (streamAction method) := by
  simp only [Tidy, streamAction, attempt, returnOn, printResponse, flatMap_brackets_block,
    List.flatMap_append, List.flatMap_cons, List.flatMap_nil, Step.brackets, brackets_append,
    portable.brackets_eq]
  repeat rw [brackets_ofList]
  decide

end Actions

section Fields

variable {fields : List FieldBinding} (tidy : ∀ field ∈ fields, field.Tidy)

include tidy

theorem tidy_flagSteps : Tidy (flagSteps fields) := by
  unfold flagSteps
  split
  · exact .literal rfl
  · refine .block (.literal rfl) (.lines fun text member => ?_) (.literal rfl)
    obtain ⟨field, fieldMember, rfl⟩ := List.mem_map.mp member
    exact (tidy field fieldMember).declaration

theorem tidy_requestSteps {requestType : String} (portable : Name.Portable requestType) :
    Tidy (requestSteps requestType fields) := by
  have request : WellBracketed ("req := &" ++ requestType) :=
    .append (.literal rfl) portable.wellBracketed
  unfold requestSteps
  split
  · exact .line (.append request (.literal rfl))
  · refine .block request (.lines fun text member => ?_) (.literal rfl)
    obtain ⟨field, fieldMember, rfl⟩ := List.mem_map.mp member
    exact (tidy field fieldMember).accessor

end Fields

theorem tidy_commandSteps {context : MethodContext} (portable : context.Portable) :
    Tidy (commandSteps context) := by
  have method := Method.portable_name portable.method
  have name : WellBracketed ("Name: \"" ++ Name.kebab context.method.name ++ "\",") :=
    method.kebab.between (.literal rfl) (.literal rfl)
  have action : Tidy (if context.method.isDuplex then streamAction context.method.name
      else unaryAction context.method.name) := by
    split
    · exact tidy_streamAction method
    · exact tidy_unaryAction method
  have body := (tidy_requestSteps portable.fields portable.requestType).append action
  refine .block (.literal rfl) ?_ (.literal rfl)
  refine .append (.append (.line name) (tidy_flagSteps portable.fields)) ?_
  exact .block (.literal rfl) body (.literal rfl)

theorem brackets_tab : Layout.brackets "\t" = [] := by
  decide

theorem tidy_bindMethod {context : MethodContext} (portable : context.Portable) :
    (bindMethod context).Tidy where
  exported := Method.portable_name portable.method
  requestType := portable.requestType
  responseType := portable.responseType
  fragment := wellBracketed_renderAt brackets_tab (tidy_commandSteps portable) _

/-! ### Files -/

theorem portable_clientType {file : File} (portable : AllPortable file.texts) :
    Name.Portable (clientType file) := by
  have client : Name.Portable "Client" := by decide
  unfold clientType
  split
  · next service rest services =>
    have declared : service ∈ file.services := by simp [services]
    exact (Service.portable_name (File.portable_services portable service declared)).append client
  · decide

theorem tidy_importSteps (streaming : Bool) : Tidy (importSteps streaming) := by
  have ioStep : Tidy (if streaming then [.line "\"io\""] else []) := by
    split
    · exact .literal rfl
    · exact .nil
  have front : Tidy
      ([.enter "import (", .line "\"context\"", .line "\"encoding/json\"", .line "\"fmt\""] ++
        [.blank, .line "\"github.com/urfave/cli\"", .leave ")"]) := by
    simp only [Tidy, List.flatMap_append, List.flatMap_cons, List.flatMap_nil, Step.brackets]
    repeat rw [brackets_ofList]
    decide
  exact front.insert ioStep

theorem tidy_fileSteps {context : FileContext} (portable : context.Portable) :
    Tidy (fileSteps context) := by
  have client := portable_clientType portable.file
  have package := Options.portable_goPackageName portable.options
  have commands : Tidy (block "return []cli.Command" (context.services.map .splice) "") :=
    .block (.literal rfl)
      (.map fun service member => .splice (portable.services service member)) (.literal rfl)
  have heading : Tidy
      [.line ("// Code initially generated by " ++ plugin),
       .line ("// InputID: " ++ context.inputId),
       .blank,
       .line ("package " ++ context.options.goPackageName),
       .blank] :=
    .cons (.line (.append (.literal rfl) (.literal rfl)))
      (.cons (.line (.append (.literal rfl) portable.inputId.wellBracketed))
        (.cons .blank (.cons (.line (.append (.literal rfl) package.wellBracketed)) .blank)))
  have comment : Tidy
      [.blank,
       .line ("// Commands are autogenerated cli commands generated by " ++ plugin)] :=
    .cons .blank (.line (.append (.literal rfl) (.literal rfl)))
  have function : WellBracketed
      ("func Commands(clientFn func() " ++ clientType context.file ++ ") []cli.Command ") := by
    simp only [wellBracketed_iff, brackets_append, client.brackets_eq]
    repeat rw [brackets_ofList]
    decide
  exact ((heading.append (tidy_importSteps _)).append comment).append
    (.block function commands (.literal rfl))

theorem tidy_dialect : dialect.Tidy where
  typeName portable := portable.lastSegment
  mapField portable := tidy_mapField portable
  bindMethod portable := tidy_bindMethod portable
  renderService portable := by
    refine .join fun fragment member => ?_
    obtain ⟨binding, bindingMember, rfl⟩ := List.mem_map.mp member
    exact (portable.bindings binding bindingMember).fragment
  renderFile portable := by
    simp only [dialect, render]
    exact wellBracketed_renderAt brackets_tab (tidy_fileSteps portable) 0

end RpcBindings.Commands
