/-
Module: RpcBindings.Proofs.Indentation.Commands
Purpose: Command line clients are indented by their braces.
Main exports: Commands.braced_commandSteps, Commands.follows_importSteps, Commands.aligned_dialect
-/
import RpcBindings.Proofs.Brackets.Commands
import RpcBindings.Proofs.Indentation.Dialects

namespace RpcBindings.Commands

open Layout
open Name (AllPortable)

/-!
Commands are laid out two levels deep, and in the file they stand in a list that a function returns.
The list of imports is the one part of a file that is indented without a brace.
-/

/-! ### Flags -/

theorem Flag.level_binding {kind : FlagKind} {name slot : String} (known : AllPortable kind.texts)
    (namePortable : Name.Portable name) (slotPortable : Name.Portable slot) :
    (Flag.mk kind name slot).binding.Level where
  declaration := by
    have flagType : LineStart 0 1 ("cli." ++ kind.flagType ++ "\x7bName: \"") :=
      known.left.head.within 0 (.literal (by decide)) (.literal (by decide))
    exact .inr (namePortable.within 1 flagType (.literal (by decide)))
  accessor := by
    have getter : LineStart 0 0 ("c." ++ kind.getter ++ "(\"") :=
      known.left.tail.head.within 0 (.literal (by decide)) (.literal (by decide))
    have read : LineStart 0 0 ("c." ++ kind.getter ++ "(\"" ++ name ++ "\")") :=
      namePortable.within 0 getter (.literal (by decide))
    have value : LinePart 0 0 (Flag.mk kind name slot).value := by
      cases converted : kind.conversion with
      | none =>
          simp only [Flag.value, converted]
          exact read.toLinePart
      | some goType =>
          have typePortable := known.right goType (by simp [converted])
          have opening : LinePart 0 0 "(" := .literal (by decide)
          simp only [Flag.value, converted]
          have converted := ((typePortable.linePart 0).append opening).append read.toLinePart
          exact converted.append (.literal (by decide))
    have slotBegins : LineStart 0 0 (slot ++ ": ") := slotPortable.lineStart (.literal (by decide))
    exact .inr ((slotBegins.append value).append (.literal (by decide)))

theorem level_mapField {field : Field} (portable : AllPortable field.texts) :
    (mapField field).Level := by
  have name := Field.portable_name portable
  unfold mapField
  split
  · next flag found =>
    obtain ⟨kind, known, rfl⟩ := Option.map_eq_some_iff.mp found
    exact Flag.level_binding (FlagKind.portable_ofField? known) name.kebab name.pascal.raiseAcronym
  · exact FieldBinding.level_none

/-! ### Commands -/

section Steps

variable {importing : Prop} {unit : String} {level : Nat}

theorem braced_returnOn {error : String} (portable : Name.Portable error) :
    Braced importing unit level (returnOn error) := by
  have header : LineStart 0 0 ("if " ++ error ++ " != nil ") :=
    portable.within 0 (.literal (by decide)) (.literal (by decide))
  exact .block header (.line (.append (.literal (by decide)) (portable.linePart 0))) .empty

theorem braced_returnErr : Braced importing unit level (returnOn "err") :=
  braced_returnOn (by decide)

theorem braced_printResponse : Braced importing unit level printResponse :=
  .append (.append (.literal (by decide)) (braced_returnOn (by decide))) (.literal (by decide))

theorem braced_attempt {call : String} (part : LinePart 0 0 call) :
    Braced importing unit level (attempt call) := by
  have header : LineStart 0 0 ("if err := " ++ call ++ "; err != nil ") :=
    .append (.append (.literal (by decide)) part) (.literal (by decide))
  exact .block header (.literal (by decide)) .empty

section Actions

variable {method : String} (portable : Name.Portable method)

include portable

theorem braced_unaryAction : Braced importing unit level (unaryAction method) := by
  have call : LineStart 0 0 ("resp, err := clientFn()." ++ method ++ "(context.TODO(), req)") :=
    portable.within 0 (.literal (by decide)) (.literal (by decide))
  have called : Braced importing unit level _ := .append (.line call) braced_returnErr
  exact (called.append braced_printResponse).append (.literal (by decide))

theorem braced_streamAction : Braced importing unit level (streamAction method) := by
  have call : LineStart 0 0 ("stream, err := clientFn()." ++ method ++ "(context.TODO())") :=
    portable.within 0 (.literal (by decide)) (.literal (by decide))
  have called : Braced importing unit level _ := .append (.line call) braced_returnErr
  have send : Braced importing unit level (attempt "stream.Send(req)") :=
    braced_attempt (.literal (by decide))
  have close : Braced importing unit level (attempt "stream.CloseSend()") :=
    braced_attempt (.literal (by decide))
  have ending : Braced importing unit (level + 1)
      ([.line "resp, err := stream.Recv()"] ++
        block "if err == io.EOF " [.line "return nil"] "") :=
    .append (.literal (by decide)) (.block (.literal (by decide)) (.literal (by decide)) .empty)
  have received := (ending.append braced_returnErr).append braced_printResponse
  exact ((called.append send).append close).append (.block (.literal (by decide)) received .empty)

end Actions

section Fields

variable {fields : List FieldBinding} (each : ∀ field ∈ fields, field.Level)

include each

theorem braced_flagSteps : Braced importing unit level (flagSteps fields) := by
  unfold flagSteps
  split
  · exact .literal (by decide)
  · exact .block (.literal (by decide))
      (.lines (List.forall_mem_map.mpr fun field member => (each field member).declaration))
      (.literal (by decide))

theorem braced_requestSteps {requestType : String} (portable : Name.Portable requestType) :
    Braced importing unit level (requestSteps requestType fields) := by
  have request : LineStart 0 0 ("req := &" ++ requestType) :=
    .append (.literal (by decide)) (portable.linePart 0)
  unfold requestSteps
  split
  · exact .line (request.append (.literal (by decide)))
  · exact .block request
      (.lines (List.forall_mem_map.mpr fun field member => (each field member).accessor))
      .empty

end Fields

theorem braced_commandSteps {context : MethodContext} (portable : context.Portable)
    (fields : ∀ field ∈ context.fields, field.Level) :
    Braced importing unit level (commandSteps context) := by
  have method := Method.portable_name portable.method
  have name : LineStart 0 0 ("Name: \"" ++ Name.kebab context.method.name ++ "\",") :=
    method.kebab.within 0 (.literal (by decide)) (.literal (by decide))
  have action : Braced importing unit (level + 1 + 1)
      (if context.method.isDuplex then streamAction context.method.name
        else unaryAction context.method.name) := by
    split
    · exact braced_streamAction method
    · exact braced_unaryAction method
  have body := (braced_requestSteps fields portable.requestType).append action
  exact .block (.literal (by decide))
    (.append (.append (.line name) (braced_flagSteps fields))
      (.block (.literal (by decide)) body (.literal (by decide))))
    (.literal (by decide))

/-! ### Files -/

/-- The lines of the list of imports. -/
def importLines (streaming : Bool) : List String :=
  ["\t\"context\"", "\t\"encoding/json\"", "\t\"fmt\""] ++
    (if streaming then ["\t\"io\""] else []) ++ ["", "\t\"github.com/urfave/cli\""]

/-- The imports are indented although no brace is open. -/
theorem follows_importSteps (allowed : importing) (streaming : Bool) :
    FollowsBraces importing "\t" 0 (render "\t" (importSteps streaming)) 0 := by
  have written : render "\t" (importSteps streaming) =
      "import (\n" ++ String.join ((importLines streaming).map (· ++ "\n")) ++ ")\n" ++ "" := by
    cases streaming <;> rfl
  have unbraced : ∀ line ∈ importLines streaming, Unbraced line := by
    cases streaming <;> decide
  have notEnded : ")" ∉ importLines streaming := by
    cases streaming <;> decide
  rw [written]
  exact .imports allowed unbraced notEnded (.nil 0)

theorem braced_importSteps (allowed : importing) (streaming : Bool) :
    Braced importing "\t" 0 (importSteps streaming) where
  follows := follows_importSteps allowed streaming
  returns := by
    cases streaming <;> rfl

theorem braced_fileSteps {context : FileContext} (allowed : importing)
    (portable : context.Portable)
    (services : ∀ service ∈ context.services, FollowsBraces importing "\t" 2 service 2) :
    Braced importing "\t" 0 (fileSteps context) := by
  have author : Name.Portable plugin := by decide
  have client := portable_clientType portable.file
  have package := Options.portable_goPackageName portable.options
  have heading : Braced importing "\t" 0
      [.line ("// Code initially generated by " ++ plugin),
       .line ("// InputID: " ++ context.inputId),
       .blank,
       .line ("package " ++ context.options.goPackageName),
       .blank] :=
    .cons (.line (.append (.literal (by decide)) (author.linePart 0)))
      (.cons (.line (.append (.literal (by decide)) (portable.inputId.linePart 0)))
        (.cons .blank (.cons (.line (.append (.literal (by decide)) (package.linePart 0))) .blank)))
  have comment : Braced importing "\t" 0
      [.blank,
       .line ("// Commands are autogenerated cli commands generated by " ++ plugin)] :=
    .cons .blank (.line (.append (.literal (by decide)) (author.linePart 0)))
  have function : LineStart 0 0
      ("func Commands(clientFn func() " ++ clientType context.file ++ ") []cli.Command ") :=
    client.within 0 (.literal (by decide)) (.literal (by decide))
  have commands : Braced importing "\t" 1
      (block "return []cli.Command" (context.services.map .splice) "") :=
    .block (.literal (by decide)) (.map fun service member => .splice (services service member))
      .empty
  exact .append (.append (.append heading (braced_importSteps allowed _)) comment)
    (.block function commands .empty)

end Steps

theorem aligned_dialect {importing : Prop} (allowed : importing) :
    dialect.Aligned importing "\t" (fun _ => commandLevel) (fun _ => commandLevel) where
  tidy := tidy_dialect
  mapField portable := level_mapField portable
  bindMethod portable fields := by
    simp only [dialect, bindMethod]
    exact (braced_commandSteps portable fields).follows
  renderService portable methods := by
    exact .join (List.forall_mem_map.mpr methods)
  renderFile portable named services := by
    simp only [dialect, render]
    exact (braced_fileSteps allowed portable services).follows

end RpcBindings.Commands
