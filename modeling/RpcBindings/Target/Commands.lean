/-
Module: RpcBindings.Target.Commands
Purpose: Command line clients in Go: one command for each method, with flags for its request.
Main exports: Commands.Flag, Commands.dialect
-/
import RpcBindings.Dialect.Basic
import RpcBindings.Layout
import RpcBindings.Name.Spelling

namespace RpcBindings.Commands

open Layout

/-!
A command has a flag for every field of the request that one flag can hold: a single number, truth
value or text, or any number of texts.  Its action fills the request from the flags, calls the method
and prints every response as JSON.  Fields of other kinds are left out of both the flags and the
request.
-/

def plugin : String := "protoc-gen-gocli"

/-! ### Flags -/

/-- A kind of flag, and how its value is read. -/
structure FlagKind where
  flagType : String
  /-- The function that reads the flag's value. -/
  getter : String
  /-- The type of the field, if the value must be converted to it. -/
  conversion : Option String := none
deriving Repr, DecidableEq, Inhabited

/-- The flag for a single value of a kind.  Kinds with one type in Go share a flag. -/
def FlagKind.single? : FieldKind → Option FlagKind
  | .double => some ⟨"Float64Flag", "Float64", none⟩
  | .float => some ⟨"Float64Flag", "Float64", some "float32"⟩
  | .int32 | .sint32 | .sfixed32 => some ⟨"IntFlag", "Int", some "int32"⟩
  | .uint32 | .fixed32 => some ⟨"UintFlag", "Uint", some "uint32"⟩
  | .int64 | .sint64 | .sfixed64 => some ⟨"Int64Flag", "Int64", none⟩
  | .uint64 | .fixed64 => some ⟨"Uint64Flag", "Uint64", none⟩
  | .bool => some ⟨"BoolFlag", "Bool", none⟩
  | .string => some ⟨"StringFlag", "String", none⟩
  | .message | .enum | .bytes | .group => none

/-- The flag for any number of values of a kind. -/
def FlagKind.several? : FieldKind → Option FlagKind
  | .string => some ⟨"StringSliceFlag", "StringSlice", none⟩
  | _ => none

/-- The flag for a field. -/
def FlagKind.ofField? (field : Field) : Option FlagKind :=
  if field.isRepeated then several? field.kind else single? field.kind

/-- A flag, and the part of the request that it fills. -/
structure Flag where
  kind : FlagKind
  name : String
  /-- The name of the request's part. -/
  slot : String
deriving Repr, DecidableEq, Inhabited

namespace Flag

/-- The name of a field's flag. -/
def nameOf (field : Field) : String :=
  Name.kebab field.name

/-- The part of the request that belongs to a field. -/
def slotOf (field : Field) : String :=
  Name.raiseAcronym (Name.pascal field.name)

/-- The flag for a field, if one flag can hold it. -/
def ofField? (field : Field) : Option Flag :=
  (FlagKind.ofField? field).map fun kind => ⟨kind, nameOf field, slotOf field⟩

/-- The declaration of a flag. -/
def declaration (flag : Flag) : String :=
  "cli." ++ flag.kind.flagType ++ "\x7bName: \"" ++ flag.name ++ "\"\x7d,"

/-- The expression for the value of a flag. -/
def value (flag : Flag) : String :=
  let read := "c." ++ flag.kind.getter ++ "(\"" ++ flag.name ++ "\")"
  match flag.kind.conversion with
  | some goType => goType ++ "(" ++ read ++ ")"
  | none => read

/-- The line of the request that a flag fills. -/
def assignment (flag : Flag) : String :=
  flag.slot ++ ": " ++ flag.value ++ ","

def binding (flag : Flag) : FieldBinding :=
  ⟨flag.declaration, flag.assignment⟩

end Flag

def mapField (field : Field) : FieldBinding :=
  match Flag.ofField? field with
  | some flag => flag.binding
  | none => .none

/-! ### Commands -/

/-- Leave the action if an error has occurred. -/
def returnOn (error : String) : List Step :=
  block ("if " ++ error ++ " != nil ") [.line ("return " ++ error)] ""

def printResponse : List Step :=
  [.line "s, marshalErr := json.MarshalIndent(resp, \"\", \"  \")"] ++
  returnOn "marshalErr" ++
  [.line "fmt.Printf(\"%s\\n\", s)"]

/-- Call a method and print its response. -/
def unaryAction (method : String) : List Step :=
  [.line ("resp, err := clientFn()." ++ method ++ "(context.TODO(), req)")] ++
  returnOn "err" ++
  printResponse ++
  [.line "return nil"]

/-- Do something that may fail, and leave the action if it does. -/
def attempt (call : String) : List Step :=
  block ("if err := " ++ call ++ "; err != nil ") [.line "return err"] ""

/-- Send the request once, then print every response until the other side ends the stream. -/
def streamAction (method : String) : List Step :=
  [.line ("stream, err := clientFn()." ++ method ++ "(context.TODO())")] ++
  returnOn "err" ++
  attempt "stream.Send(req)" ++
  attempt "stream.CloseSend()" ++
  block "for "
    ([.line "resp, err := stream.Recv()"] ++
      block "if err == io.EOF " [.line "return nil"] "" ++
      returnOn "err" ++
      printResponse)
    ""

def flagSteps (fields : List FieldBinding) : List Step :=
  if fields.isEmpty then [.line "Flags: []cli.Flag\x7b\x7d,"]
  else block "Flags: []cli.Flag" [.lines (fields.map FieldBinding.declaration)] ","

/-- The request, filled from the flags. -/
def requestSteps (requestType : String) (fields : List FieldBinding) : List Step :=
  if fields.isEmpty then [.line ("req := &" ++ requestType ++ "\x7b\x7d")]
  else block ("req := &" ++ requestType) [.lines (fields.map FieldBinding.accessor)] ""

def commandSteps (context : MethodContext) : List Step :=
  let method := context.method.name
  block "cli.Command"
    ([.line ("Name: \"" ++ Name.kebab method ++ "\",")] ++
      flagSteps context.fields ++
      block "Action: func(c *cli.Context) error "
        (requestSteps context.requestType context.fields ++
          if context.method.isDuplex then streamAction method else unaryAction method)
        ",")
    ","

/-- How deep commands lie in the file: in a function, and in the list that it returns. -/
def commandLevel : Nat := 2

def bindMethod (context : MethodContext) : Binding :=
  { exported := context.method.name
    requestType := context.requestType
    responseType := context.responseType
    fragment := renderAt "\t" commandLevel (commandSteps context) }

/-- The commands of a service, one behind the other. -/
def renderService (context : ServiceContext) : String :=
  String.join (context.bindings.map Binding.fragment)

/-! ### Files -/

/-- The type of the client: that of the first service. -/
def clientType (file : File) : String :=
  match file.services with
  | service :: _ => service.name ++ "Client"
  | [] => ""

/-- The packages that commands use. -/
def importSteps (streaming : Bool) : List Step :=
  [.enter "import (",
   .line "\"context\"",
   .line "\"encoding/json\"",
   .line "\"fmt\""] ++
  (if streaming then [.line "\"io\""] else []) ++
  [.blank,
   .line "\"github.com/urfave/cli\"",
   .leave ")"]

def fileSteps (context : FileContext) : List Step :=
  [.line ("// Code initially generated by " ++ plugin),
   .line ("// InputID: " ++ context.inputId),
   .blank,
   .line ("package " ++ context.options.goPackageName),
   .blank] ++
  importSteps context.streaming ++
  [.blank,
   .line ("// Commands are autogenerated cli commands generated by " ++ plugin)] ++
  block ("func Commands(clientFn func() " ++ clientType context.file ++ ") []cli.Command ")
    (block "return []cli.Command" (context.services.map .splice) "")
    ""

/-- Commands in Go.  They are listed by name, so that the help text of a client is in order, and
there is one service to a file, as a client has one constructor. -/
def dialect : Dialect where
  name := "go-cli"
  plugin := plugin
  language := "go"
  suffix := "cli.go"
  methodOrder := .byName
  servicesPerFile := .exactlyOne
  mapField := mapField
  bindMethod := bindMethod
  renderService := renderService
  renderFile := fun context => render "\t" (fileSteps context)

end RpcBindings.Commands
