/-
Module: RpcBindings.Options.Parameter
Purpose: Options from the parameter text of a compiler plugin, `key=value,key=value`.
Main exports: ParameterFault, Options.ofParameter
-/
import RpcBindings.Options.Basic
import RpcBindings.Text.Quoted
import RpcBindings.Text.Trim

namespace RpcBindings

/-!
A parameter is a list of entries with commas between them.  Blanks around entries, keys and values
do not count, entries without text are passed over, and a dash in a key is read as an underscore.
Keys that name no option have no effect, but their entries must have a value like all others.
-/

/-- What is wrong with an entry of a parameter. -/
inductive ParameterFault where
  /-- There is no equals sign. -/
  | notKeyValue (entry : String)
  /-- There is nothing behind the equals sign. -/
  | emptyValue (key : String)
  /-- The value of a flag is neither `true` nor `false`. -/
  | notFlag (key value : String)
deriving Repr, DecidableEq, Inhabited

def ParameterFault.message : ParameterFault → String
  | .notKeyValue entry => "expected key=value, got " ++ Text.quoted entry
  | .emptyValue key => "empty value for " ++ key
  | .notFlag key value => key ++ " expects true or false, got " ++ Text.quoted value

structure Setting where
  key : String
  value : String
deriving Repr, DecidableEq, Inhabited

namespace Setting

/-- The key under which a text names an option. -/
def normalKey (key : List Char) : String :=
  String.ofList ((Text.trimBlanks key).map fun c => if c = '-' then '_' else c)

/-- Read an entry, which is split at its first equals sign. -/
def ofEntry (entry : List Char) : Except ParameterFault Setting :=
  match entry.dropWhile fun c => c != '=' with
  | [] => .error (.notKeyValue (String.ofList entry))
  | _ :: behind =>
      let key := normalKey (entry.takeWhile fun c => c != '=')
      let value := Text.trimBlanks behind
      if value.isEmpty then .error (.emptyValue key) else .ok ⟨key, String.ofList value⟩

def flag (setting : Setting) : Except ParameterFault Bool :=
  if setting.value = "true" then .ok true
  else if setting.value = "false" then .ok false
  else .error (.notFlag setting.key setting.value)

end Setting

namespace Options

/-- The options after one entry. -/
def apply (options : Options) (setting : Setting) : Except ParameterFault Options :=
  match setting.key with
  | "input_id" => .ok { options with inputId := some setting.value }
  | "types_import" => .ok { options with typesImport := some setting.value }
  | "client_import" => .ok { options with clientImport := some setting.value }
  | "go_package" => .ok { options with goPackage := some setting.value }
  | "async_iterators" => do
      let value ← setting.flag
      pure { options with asyncIterators := value }
  | "camel_case_names" => do
      let value ← setting.flag
      pure { options with camelCaseNames := value }
  | _ => .ok options

/-- The entries of a parameter. -/
def parameterEntries (parameter : String) : List (List Char) :=
  ((parameter.toList.splitOn ',').map Text.trimBlanks).filter fun entry => !entry.isEmpty

/-- The options that a parameter gives.  The first entry with a fault decides the error; where two
entries set one option, the later one counts. -/
def ofParameter (parameter : String) : Except ParameterFault Options :=
  (parameterEntries parameter).foldlM
    (fun options entry => do
      let setting ← Setting.ofEntry entry
      options.apply setting)
    {}

end Options

end RpcBindings
