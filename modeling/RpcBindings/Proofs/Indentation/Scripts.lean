/-
Module: RpcBindings.Proofs.Indentation.Scripts
Purpose: Promise classes are indented by their braces, and so are headings and imports.
Main exports: Script.braced_headingSteps, TypeImports.braced_steps, Promises.aligned_dialect
-/
import RpcBindings.Proofs.Brackets.Scripts
import RpcBindings.Proofs.Indentation.Dialects

namespace RpcBindings

open Layout

/-!
A method of a promise class lies one level deep, in the class.  Two of its lines end in a brace that
stands behind parentheses, and the lines that close those braces close the parentheses too.
-/

variable {importing : Prop} {unit : String} {level : Nat}

/-! ### What the JavaScript family shares -/

namespace Script

theorem braced_headingSteps {plugin inputId : String} (pluginPortable : Name.Portable plugin)
    (inputPortable : Name.Portable inputId) :
    Braced importing unit level (headingSteps plugin inputId) :=
  .cons (.line (pluginPortable.within 0 (.literal (by decide)) (.literal (by decide))))
    (.line (.append (.literal (by decide)) (inputPortable.linePart 0)))

/-- Every name of a list has its own line. -/
theorem braced_nameListSteps {names : List String} {opening closing : String}
    (portable : ∀ name ∈ names, Name.Portable name) (begins : LineStart 0 0 opening)
    (closes : LinePart 0 0 closing) :
    Braced importing unit level (nameListSteps opening names closing) := by
  have listed : Braced importing unit (level + 1) [.lines (withCommas names)] :=
    .lines (Level.withCommas fun name member => (portable name member).level)
  unfold nameListSteps
  split
  · exact .nil
  · exact .append (.block (begins.append (.literal (by decide))) listed closes) .blank

theorem braced_importSteps {names : List String} {keyword module : String}
    (portable : ∀ name ∈ names, Name.Portable name) (begins : LineStart 0 0 keyword)
    (modulePortable : Name.Portable module) :
    Braced importing unit level (importSteps keyword names module) := by
  have source : LinePart 0 0 (" from '" ++ module ++ "'") :=
    .append (.append (.literal (by decide)) (modulePortable.linePart 0)) (.literal (by decide))
  exact braced_nameListSteps portable begins source

end Script

theorem TypeImports.braced_steps {imports : TypeImports} (portable : imports.Portable) :
    Braced importing unit level imports.steps := by
  unfold steps
  refine .append (.append (.map fun entry member => ?_) ?_) (.flatMap fun entry member => ?_)
  · obtain ⟨root, module⟩ := portable.namespaces entry member
    have bound : LineStart 0 0 ("import * as " ++ entry.1 ++ " from '") :=
      root.within 0 (.literal (by decide)) (.literal (by decide))
    exact .line (module.within 0 bound (.literal (by decide)))
  · split
    · exact .blank
    · exact .nil
  · obtain ⟨module, names⟩ := portable.named entry member
    exact Script.braced_importSteps names (.literal (by decide)) module

/-! ### Promises -/

namespace Promises

/-- The last line of a callback ends the call as well. -/
theorem braced_callback {header : String} {body : List Step} (opening : LineStart 0 1 header)
    (inner : Braced importing unit (level + 1) body) :
    Braced importing unit level ([.enter header] ++ body ++ [.leave "\x7d)"]) :=
  .enclosed opening inner (by decide) (.literal (by decide))

section Method

variable {context : MethodContext} (portable : context.Portable)

include portable

theorem braced_streamSteps : Braced importing unit level (streamSteps context) := by
  have name := Method.portable_name portable.method
  have request : LineStart 0 0
      (context.method.name ++ "(): ClientDuplexStream<" ++ context.requestType ++ ", ") :=
    portable.requestType.within 0 (name.lineStart (.literal (by decide))) (.literal (by decide))
  have header : LineStart 0 0
      (context.method.name ++ "(): ClientDuplexStream<" ++ context.requestType ++ ", " ++
        context.responseType ++ "> ") :=
    portable.responseType.within 0 request (.literal (by decide))
  have answer : LineStart 0 0 ("return this.service." ++ context.method.name ++ "()") :=
    name.within 0 (.literal (by decide)) (.literal (by decide))
  exact .block header (.line answer) .empty

theorem braced_unarySteps : Braced importing unit level (unarySteps context) := by
  have name := Method.portable_name portable.method
  have response := portable.responseType
  have request : LineStart 0 0
      (context.method.name ++ "(req: " ++ context.requestType ++ "): Promise<") :=
    portable.requestType.within 0 (name.lineStart (.literal (by decide))) (.literal (by decide))
  have header : LineStart 0 0
      (context.method.name ++ "(req: " ++ context.requestType ++ "): Promise<" ++
        context.responseType ++ "> ") :=
    response.within 0 request (.literal (by decide))
  have promise : LineStart 0 1
      ("return new Promise<" ++ context.responseType ++ ">((resolve, reject) => \x7b") :=
    response.within 0 (.literal (by decide)) (.literal (by decide))
  have sent : LineStart 0 0
      ("this.service." ++ context.method.name ++ "(req, (err: RPCError | null, resp: ") :=
    name.within 0 (.literal (by decide)) (.literal (by decide))
  have call : LineStart 0 1
      ("this.service." ++ context.method.name ++ "(req, (err: RPCError | null, resp: " ++
        context.responseType ++ ") => \x7b") :=
    response.within 0 sent (.literal (by decide))
  have failed : Braced importing unit (level + 1 + 1 + 1)
      (block "if (err) " [.line "reject(err)", .line "return"] "") :=
    .block (.literal (by decide)) (.cons (.literal (by decide)) (.literal (by decide))) .empty
  have answered : Braced importing unit (level + 1 + 1 + 1)
      (block "if (err) " [.line "reject(err)", .line "return"] "" ++ [.line "resolve(resp)"]) :=
    failed.append (.literal (by decide))
  -- The promise is made by one callback, and inside it another one takes the answer.
  exact .block header (braced_callback promise (braced_callback call answered)) .empty

end Method

theorem braced_serviceSteps {context : ServiceContext} (portable : context.Portable)
    (methods : ∀ binding ∈ context.bindings,
      FollowsBraces importing unit (level + 1) binding.fragment (level + 1)) :
    Braced importing unit level (serviceSteps context) := by
  have header : LineStart 0 0 ("export class " ++ context.service.name ++ "Service ") :=
    (Service.portable_name portable.service).within 0 (.literal (by decide)) (.literal (by decide))
  have members : Braced importing unit (level + 1) [.line "service: ServiceClient", .blank] :=
    .cons (.literal (by decide)) .blank
  have constructor : Braced importing unit (level + 1)
      (block "constructor(service: ServiceClient) " [.line "this.service = service"] "") :=
    .block (.literal (by decide)) (.literal (by decide)) .empty
  have fragments : Braced importing unit (level + 1)
      (context.bindings.flatMap fun binding => [.blank, .splice binding.fragment]) :=
    .flatMap fun binding member => .cons .blank (.splice (methods binding member))
  exact .block header (.append (members.append constructor) fragments) .empty

theorem braced_headingSteps {context : FileContext} (portable : context.Portable) :
    Braced importing unit level (headingSteps context) := by
  have heading : Braced importing unit level (Script.headingSteps plugin context.inputId) :=
    Script.braced_headingSteps (by decide) portable.inputId
  have modules : Braced importing unit level
      [.blank,
       .line "import \x7bServiceClient\x7d from '@grpc/grpc-js/build/src/make-client'",
       .line "import \x7bClientDuplexStream\x7d from '@grpc/grpc-js/build/src/call'"] :=
    .cons .blank (.cons (.literal (by decide)) (.literal (by decide)))
  have gap : Braced importing unit level
      (if (typeImports context).hasNamespaces then [] else [.blank]) := by
    split
    · exact .nil
    · exact .blank
  exact (heading.append modules).append gap

theorem braced_errorSteps : Braced importing unit level errorSteps := by
  have type : Braced importing unit level
      (block "export type RPCError = "
        [.line "name: string", .line "message: string", .line "code: number",
         .line "details: string"] "") :=
    .block (.literal (by decide))
      (.cons (.literal (by decide)) (.cons (.literal (by decide))
        (.cons (.literal (by decide)) (.literal (by decide)))))
      .empty
  exact type.append .blank

theorem braced_fileSteps {context : FileContext} (portable : context.Portable)
    (services : ∀ service ∈ context.services,
      FollowsBraces importing unit level service level) :
    Braced importing unit level (fileSteps context) := by
  have types : Braced importing unit level (typeImports context).steps :=
    TypeImports.braced_steps (portable_typeImports portable)
  have classes : Braced importing unit level [.splice ("\n".intercalate context.services)] :=
    .splice (.intercalate services)
  exact (((braced_headingSteps portable).append types).append braced_errorSteps).append classes

theorem aligned_dialect :
    dialect.Aligned importing Script.indentUnit (fun _ => 1) (fun _ => 0) where
  tidy := tidy_dialect
  mapField _ := FieldBinding.level_none
  bindMethod portable _ := by
    simp only [dialect, bindMethod]
    split
    · exact (braced_streamSteps portable).follows
    · exact (braced_unarySteps portable).follows
  renderService portable methods := by
    simp only [dialect, render]
    exact (braced_serviceSteps portable methods).follows
  renderFile portable _ services := by
    simp only [dialect, render]
    exact (braced_fileSteps portable services).follows

end Promises

end RpcBindings
