/-
Module: RpcBindings.Registry.Basic
Purpose: A set of files, with every declared type filed under its reference.
Main exports: Registry, Registry.ofFiles, Registry.parse, Registry.file?, Registry.message?,
  Registry.locate, LoadError, LookupError
-/
import RpcBindings.Descriptor.Codec
import RpcBindings.Registry.Declarations

namespace RpcBindings

/-! ### Errors -/

/-- Why a set of files cannot be loaded. -/
inductive LoadError where
  | malformed
  | duplicateFile (name : String)
  /-- A file declares a type that an earlier file has declared. -/
  | duplicateType (ref : String)
deriving Repr, DecidableEq, Inhabited

def LoadError.message : LoadError → String
  | .malformed => "invalid descriptor JSON"
  | .duplicateFile name => "duplicate file: " ++ name
  | .duplicateType ref => "duplicate type: " ++ ref

/-- What a registry was asked for and does not have, as it was written. -/
inductive LookupError where
  | fileNotFound (name : String)
  | messageNotFound (ref : String)
  | typeNotFound (ref : String)
deriving Repr, DecidableEq, Inhabited

def LookupError.message : LookupError → String
  | .fileNotFound name => "file not found: " ++ name
  | .messageNotFound ref => "message type not found: " ++ ref
  | .typeNotFound ref => "type not found: " ++ ref

/-! ### Registries -/

/-- Where a type is declared: in which file, and under which name inside the file's package. -/
structure Location where
  file : File
  localName : String
deriving Repr, Inhabited, BEq

/-- Where a declared message is found: the name of its file, and the index path in it. -/
structure MessageEntry where
  file : String
  path : List Nat
deriving Repr, DecidableEq, Inhabited

/-- A set of files.  The types that they declare are filed under their references, which begin with a
dot: a message with its place, an enum with the name of its file.  In both tables a later entry stands
before an earlier one. -/
structure Registry where
  files : List File := []
  messages : List (String × MessageEntry) := []
  enums : List (String × String) := []
deriving Repr, Inhabited

namespace Registry

def empty : Registry := {}

def fileNamed? (registry : Registry) (name : String) : Option File :=
  registry.files.find? fun file => file.name == name

/-- Whether a type is filed under a reference. -/
def declares (registry : Registry) (ref : String) : Bool :=
  (registry.messages.lookup ref).isSome || (registry.enums.lookup ref).isSome

def messageEntries (file : File) : List (String × MessageEntry) :=
  file.declaredMessages.map fun (ref, path) => (ref, ⟨file.name, path⟩)

def enumEntries (file : File) : List (String × String) :=
  file.declaredEnums.map fun ref => (ref, file.name)

/-- The registry with one more file.  Neither the file's name nor the reference of one of its types
may be taken by an earlier file.  Types of one file are not compared with each other: of two that
share a reference the one declared later is found. -/
def insert (registry : Registry) (file : File) : Except LoadError Registry :=
  if (registry.fileNamed? file.name).isSome then
    .error (.duplicateFile file.name)
  else
    match file.declaredRefs.find? registry.declares with
    | some ref => .error (.duplicateType ref)
    | none =>
        .ok
          { files := registry.files ++ [file]
            messages := (messageEntries file).reverse ++ registry.messages
            enums := (enumEntries file).reverse ++ registry.enums }

/-- The registry of some files, loaded one after the other. -/
def ofFiles (files : List File) : Except LoadError Registry :=
  files.foldlM insert empty

/-- The registry of the files that a text describes. -/
def parse (text : String) : Except LoadError Registry :=
  match Descriptor.parseFiles text with
  | some files => ofFiles files
  | none => .error .malformed

/-! ### Lookups -/

def file? (registry : Registry) (name : String) : Except LookupError File :=
  match registry.fileNamed? name with
  | some file => .ok file
  | none => .error (.fileNotFound name)

/-- The message that a reference means.  The entry under the reference names a file and leads to a
message in it. -/
def message? (registry : Registry) (ref : String) : Except LookupError Message :=
  match registry.messages.lookup (Name.qualified ref) with
  | none => .error (.messageNotFound ref)
  | some entry =>
      match registry.fileNamed? entry.file with
      | none => .error (.messageNotFound ref)
      | some file =>
          match file.messageAt? entry.path with
          | none => .error (.messageNotFound ref)
          | some message => .ok message

/-- The name of the file that declares the message or enum filed under a reference. -/
def fileNameOf? (registry : Registry) (ref : String) : Option String :=
  match registry.messages.lookup ref with
  | some entry => some entry.file
  | none => registry.enums.lookup ref

/-- The place where the message or enum that a reference means is declared. -/
def locate (registry : Registry) (ref : String) : Except LookupError Location :=
  match registry.fileNameOf? (Name.qualified ref) with
  | none => .error (.typeNotFound ref)
  | some fileName =>
      match registry.fileNamed? fileName with
      | none => .error (.typeNotFound ref)
      | some file =>
          match Name.localName? file.package (Name.qualified ref) with
          | none => .error (.typeNotFound ref)
          | some localName => .ok ⟨file, localName⟩

end Registry

end RpcBindings
