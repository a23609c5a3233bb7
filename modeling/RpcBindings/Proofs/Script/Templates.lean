/-
Module: RpcBindings.Proofs.Script.Templates
Purpose: The code of a method as a text with places for the names of its types.
Main exports: Script.Hole, Script.fill, Script.Uniform, Script.UniformSteps,
  Script.MethodExporting.exists_template
-/
import RpcBindings.Proofs.Layout.Rendering
import RpcBindings.Proofs.Script.ExportNames
import RpcBindings.Proofs.Store.Agreement

namespace RpcBindings.Script

open Layout

/-!
The code of a method names two types, the one that the method takes and the one that it answers
with.  What the code says of other types would stand in it whatever these two are, so that the code
is taken as a function of the two names: a fixed text with places where one of them is put in.
-/

/-! ### Texts -/

/-- A part of a template. -/
inductive Hole where
  | fixed (text : String)
  | request
  | response
deriving Repr, DecidableEq

def Hole.text (requestType responseType : String) : Hole → String
  | fixed text => text
  | request => requestType
  | response => responseType

/-- A template with the names of types in their places. -/
def fill (requestType responseType : String) (template : List Hole) : String :=
  String.join (template.map (Hole.text requestType responseType))

/-- A text that is written by a template from the names of two types. -/
def Uniform (write : String → String → String) : Prop :=
  ∃ template, ∀ requestType responseType,
    write requestType responseType = fill requestType responseType template

namespace Uniform

theorem fixed (text : String) : Uniform fun _ _ => text :=
  ⟨[.fixed text], fun _ _ => by simp [fill, Hole.text, String.join_cons]⟩

theorem request : Uniform fun requestType _ => requestType :=
  ⟨[.request], fun _ _ => by simp [fill, Hole.text, String.join_cons]⟩

theorem response : Uniform fun _ responseType => responseType :=
  ⟨[.response], fun _ _ => by simp [fill, Hole.text, String.join_cons]⟩

theorem append {first second : String → String → String} (one : Uniform first)
    (two : Uniform second) :
    Uniform fun requestType responseType =>
      first requestType responseType ++ second requestType responseType := by
  obtain ⟨template, written⟩ := one
  obtain ⟨more, writtenBehind⟩ := two
  refine ⟨template ++ more, fun requestType responseType => ?_⟩
  simp only [written, writtenBehind, fill, List.map_append, String.join_append]

/-- Whether a line is empty must not depend on the types, as an empty line is not indented. -/
theorem lineAt {text : String → String → String} (uniform : Uniform text)
    (some : ∀ requestType responseType, text requestType responseType ≠ "") (unit : String)
    (level : Nat) :
    Uniform fun requestType responseType =>
      Layout.lineAt unit level (text requestType responseType) := by
  have line : (fun requestType responseType =>
      Layout.lineAt unit level (text requestType responseType)) =
        fun requestType responseType =>
          indentation unit level ++ text requestType responseType ++ "\n" := by
    funext requestType responseType
    exact lineAt_eq unit (some requestType responseType)
  rw [line]
  exact ((fixed _).append uniform).append (fixed _)

end Uniform

/-! ### Steps -/

/-- Steps that are written by a template at every level, and that reach a level which does not
depend on the types. -/
structure UniformSteps (steps : String → String → List Step) : Prop where
  written : ∀ unit level, Uniform fun requestType responseType =>
    renderAt unit level (steps requestType responseType)
  reached : ∀ level, ∃ next, ∀ requestType responseType,
    levelAfter level (steps requestType responseType) = next

namespace UniformSteps

theorem fixed (steps : List Step) : UniformSteps fun _ _ => steps :=
  ⟨fun _ _ => Uniform.fixed _, fun _ => ⟨_, fun _ _ => rfl⟩⟩

theorem append {first second : String → String → List Step} (one : UniformSteps first)
    (two : UniformSteps second) :
    UniformSteps fun requestType responseType =>
      first requestType responseType ++ second requestType responseType where
  written unit level := by
    obtain ⟨next, reached⟩ := one.reached level
    simp only [renderAt_append, reached]
    exact (one.written unit level).append (two.written unit next)
  reached level := by
    obtain ⟨next, reached⟩ := one.reached level
    obtain ⟨last, reachedBehind⟩ := two.reached next
    refine ⟨last, fun requestType responseType => ?_⟩
    rw [levelAfter_append, reached, reachedBehind]

theorem cons {first : String → String → Step} {rest : String → String → List Step}
    (one : UniformSteps fun requestType responseType => [first requestType responseType])
    (others : UniformSteps rest) :
    UniformSteps fun requestType responseType =>
      first requestType responseType :: rest requestType responseType :=
  one.append others

section Lines

variable {text : String → String → String} (uniform : Uniform text)
  (some : ∀ requestType responseType, text requestType responseType ≠ "")

include uniform some

theorem line : UniformSteps fun requestType responseType =>
    [.line (text requestType responseType)] where
  written unit level := by
    simp only [renderAt_cons, renderAt_nil, String.append_empty, Step.text]
    exact uniform.lineAt some unit level
  reached _ := ⟨_, fun _ _ => rfl⟩

theorem enter : UniformSteps fun requestType responseType =>
    [.enter (text requestType responseType)] where
  written unit level := by
    simp only [renderAt_cons, renderAt_nil, String.append_empty, Step.text]
    exact uniform.lineAt some unit level
  reached _ := ⟨_, fun _ _ => rfl⟩

theorem turn : UniformSteps fun requestType responseType =>
    [.turn (text requestType responseType)] where
  written unit level := by
    simp only [renderAt_cons, renderAt_nil, String.append_empty, Step.text]
    exact uniform.lineAt some unit (level - 1)
  reached _ := ⟨_, fun _ _ => rfl⟩

end Lines

theorem block {header : String → String → String} {body : String → String → List Step}
    (uniform : Uniform header) (inner : UniformSteps body) (after : String) :
    UniformSteps fun requestType responseType =>
      Layout.block (header requestType responseType) (body requestType responseType) after :=
  ((enter (uniform.append (Uniform.fixed "\x7b")) fun _ _ => by simp).append inner).append
    (fixed [.leave ("\x7d" ++ after)])

end UniformSteps

/-! ### Stores -/

section Stores

open Store

/-- The thunk with other types. -/
def withTypes (thunk : Thunk) (requestType responseType : String) : Thunk :=
  { thunk with requestType, responseType }

variable (thunk : Thunk)

theorem uniformSteps_typeScript :
    UniformSteps fun requestType responseType =>
      TypeScript.thunkSteps (withTypes thunk requestType responseType) := by
  have header : Uniform fun requestType responseType =>
      "export const " ++ thunk.exported ++ " = (req: " ++ requestType ++
        ", respFn: ((resp: " ++ responseType ++
        ") => void) | void, errFn: ErrFn | void) => async (dispatch: (action: any) => void, " ++
        "getState: () => any, config: RPCConfig | void) => " :=
    (((((Uniform.fixed _).append .request).append (.fixed _)).append .response).append
      (.fixed _)).append (.fixed _)
  have call : Uniform fun _ responseType =>
      "cl." ++ thunk.call ++ "(req, (err: RPCError | void, resp: " ++ responseType ++
        " | void) => \x7b" :=
    ((Uniform.fixed _).append .response).append (.fixed _)
  have calls := (UniformSteps.fixed [.line "const cl = await client()"]).append
    (UniformSteps.enter call fun _ _ => by simp)
  have opening := (UniformSteps.fixed thunk.dispatchRequest).append calls
  have failure := UniformSteps.fixed (block "if (err) " (TypeScript.errorSteps thunk) "")
  have success := UniformSteps.fixed thunk.dispatchResponse
  exact .block header
    (((opening.append failure).append success).append (.fixed [.leave "\x7d)"])) ""

theorem uniformSteps_flow :
    UniformSteps fun requestType responseType =>
      Flow.thunkSteps (withTypes thunk requestType responseType) := by
  have header : Uniform fun requestType responseType =>
      "export const " ++ thunk.exported ++ " = (req: " ++ requestType ++
        ", respFn: ?(resp: " ++ responseType ++
        ") => void, errFn: ?(err: RPCError) => void) => " ++
        "async (dispatch: (action: any) => void) => " :=
    (((((Uniform.fixed _).append .request).append (.fixed _)).append .response).append
      (.fixed _)).append (.fixed _)
  have call : Uniform fun _ responseType =>
      "cl." ++ thunk.call ++ "(req, (err: ?RPCError, resp: ?" ++ responseType ++ ") => \x7b" :=
    ((Uniform.fixed _).append .response).append (.fixed _)
  have calls := (UniformSteps.fixed [.line "let cl = await client()"]).append
    (UniformSteps.enter call fun _ _ => by simp)
  have opening := (UniformSteps.fixed thunk.dispatchRequest).append calls
  have unhandled := UniformSteps.fixed
    (block "if (err && !errFn) " (thunk.dispatchError ++ [.line "return"]) "")
  have handled := UniformSteps.fixed
    (block "if (err && errFn) " [.line "console.error(err)", .line "errFn(err)"] "")
  have success := UniformSteps.fixed thunk.dispatchResponse
  exact .block header
    ((((opening.append unhandled).append handled).append success).append
      (.fixed [.leave "\x7d)"])) ""

end Stores

/-! ### Bridges -/

section Bridges

open Bridge

variable (context : MethodContext) (exported : String)

/-- The context of a method with other types. -/
def contextWithTypes (requestType responseType : String) : MethodContext :=
  { context with requestType, responseType }

theorem uniformSteps_unary :
    UniformSteps fun requestType responseType =>
      unarySteps (contextWithTypes context requestType responseType) exported := by
  have header : Uniform fun requestType _ =>
      "export const " ++ exported ++ " = (req: " ++ requestType ++
        ", errHandler: ErrHandler = ignoreErr) => " :=
    ((Uniform.fixed _).append .request).append (.fixed _)
  have promise : Uniform fun _ responseType =>
      "return new Promise<" ++ responseType ++ ">((resolve, reject) => \x7b" :=
    ((Uniform.fixed _).append .response).append (.fixed _)
  simp only [unarySteps, contextWithTypes, MethodContext.fullName]
  refine .block header (.append (.append (.cons (.enter promise fun _ _ => ?_) ?_) ?_) ?_) ""
  · simp
  · exact .fixed _
  · exact .fixed _
  · exact .fixed _

theorem uniformSteps_stream :
    UniformSteps fun requestType responseType =>
      streamSteps (contextWithTypes context requestType responseType) exported := by
  let event := eventName context.file context.service context.method
  have eventType : Uniform fun _ responseType =>
      "export type " ++ event ++ " = \x7berr?: RPCErr, res?: " ++ responseType ++
        ", done: boolean\x7d" :=
    ((Uniform.fixed _).append .response).append (.fixed _)
  have sender : Uniform fun requestType _ =>
      "): ((req?: " ++ requestType ++ ", end?: boolean) => void) => \x7b" :=
    ((Uniform.fixed _).append .request).append (.fixed _)
  have reply : Uniform fun requestType _ =>
      "return (req?: " ++ requestType ++ ", end?: boolean) => " :=
    ((Uniform.fixed _).append .request).append (.fixed _)
  have signature := UniformSteps.cons (.turn sender fun _ _ => by simp)
    (.fixed [replyStep context.fullName, .enter "ipcRenderer.on(reply, (event, arg) => \x7b"])
  have listener := UniformSteps.cons (.line eventType fun _ _ => by simp)
    (((UniformSteps.fixed
      [.blank, .enter ("export const " ++ exported ++ " = ("),
        .line ("f: (res: " ++ event ++ ") => void,"),
        .line "errHandler: ErrHandler = ignoreErr,"])).append signature)
  simp only [streamSteps, contextWithTypes, MethodContext.fullName]
  refine .append (.append (.append (.append (.append listener ?_) ?_) ?_) (.block reply ?_ "")) ?_
  · exact .fixed _
  · exact .fixed _
  · exact .fixed _
  · exact .fixed _
  · exact .fixed _

end Bridges

/-! ### Methods -/

/-- The code of a method is written by a template from the names of its types.  The template depends
on the method only through its name and on whether both sides send streams. -/
theorem MethodExporting.exists_template {dialect : Dialect} (exporting : MethodExporting dialect)
    (file : File) (service : Service) (name : String) (duplex : Bool) :
    ∃ template, ∀ context : MethodContext, context.file = file → context.service = service →
      context.method.name = name → context.method.isDuplex = duplex →
        (dialect.bindMethod context).fragment =
          fill context.requestType context.responseType template := by
  -- A method of this name that has no types takes the place of all others.
  let method : Method := Method.mk name "" "" duplex duplex
  let thunk : Store.Thunk := Store.thunkOf file service method
  have thunk_eq (context : MethodContext) (ofFile : context.file = file)
      (ofService : context.service = service) (named : context.method.name = name) :
      Store.Thunk.ofMethod context = withTypes thunk context.requestType context.responseType := by
    subst ofFile ofService named
    rfl
  cases exporting with
  | typeScriptStore =>
      obtain ⟨template, written⟩ := (uniformSteps_typeScript thunk).written indentUnit 0
      refine ⟨template, fun context ofFile ofService named _ => ?_⟩
      simp only [← written, ← thunk_eq context ofFile ofService named]
      rfl
  | flowStore =>
      obtain ⟨template, written⟩ := (uniformSteps_flow thunk).written indentUnit 0
      refine ⟨template, fun context ofFile ofService named _ => ?_⟩
      simp only [← written, ← thunk_eq context ofFile ofService named]
      rfl
  | bridge =>
      let base : MethodContext :=
        { registry := {}, file, service, method, request := { name := "" }, requestType := ""
          responseType := "", fields := [], options := {} }
      let exported := exportName file service method
      cases duplex with
      | true =>
          obtain ⟨template, written⟩ := (uniformSteps_stream base exported).written indentUnit 0
          refine ⟨template, fun context ofFile ofService named streams => ?_⟩
          subst ofFile ofService named
          rw [← written]
          simp only [Bridge.dialect, Bridge.bindMethod, streams, if_true]
          rfl
      | false =>
          obtain ⟨template, written⟩ := (uniformSteps_unary base exported).written indentUnit 0
          refine ⟨template, fun context ofFile ofService named streams => ?_⟩
          subst ofFile ofService named
          rw [← written]
          simp only [Bridge.dialect, Bridge.bindMethod, streams, Bool.false_eq_true, if_false]
          rfl

end RpcBindings.Script
