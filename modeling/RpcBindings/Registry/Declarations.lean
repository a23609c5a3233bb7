/-
Module: RpcBindings.Registry.Declarations
Purpose: The types that a file declares, at every depth, with their references.
Main exports: Message.declaredMessages, Message.declaredEnums, File.declaredMessages,
  File.declaredEnums, File.declaredRefs, File.messageAt?
-/
import RpcBindings.Descriptor.Basic
import RpcBindings.Name.Reference

namespace RpcBindings

/-!
The reference of a declared type is made of the scope around it and its own name.  A message is found
again by its index path: the first index counts the messages of the file, and each further one the
messages inside the message that was reached.
-/

/-! ### References -/

mutual

/-- The messages that a message declares, itself included: their references, and their index paths.
`path` leads to the message itself.  What is declared inside a message comes before it. -/
def Message.declaredMessages (scope : String) (path : List Nat) :
    Message → List (String × List Nat)
  | { name, fields := _, nested, enums := _, mapEntry := _ } =>
      Message.declaredMessagesIn (Name.member scope name) path 0 nested ++
        [(Name.member scope name, path)]

/-- The messages that several messages declare, themselves included.  `path` leads to what is around
them, where the first of them has the given index. -/
def Message.declaredMessagesIn (scope : String) (path : List Nat) (index : Nat) :
    List Message → List (String × List Nat)
  | [] => []
  | message :: messages =>
      message.declaredMessages scope (path ++ [index]) ++
        Message.declaredMessagesIn scope path (index + 1) messages

end

mutual

/-- The references of the enums declared inside a message.  Its own come before those of the messages
inside it. -/
def Message.declaredEnums (scope : String) : Message → List String
  | { name, fields := _, nested, enums, mapEntry := _ } =>
      enums.map (fun enum => Name.member (Name.member scope name) enum.name) ++
        Message.declaredEnumsIn (Name.member scope name) nested

/-- The references of the enums declared inside several messages. -/
def Message.declaredEnumsIn (scope : String) : List Message → List String
  | [] => []
  | message :: messages =>
      message.declaredEnums scope ++ Message.declaredEnumsIn scope messages

end

/-- The scope of what a file declares outside its messages. -/
def File.scope (file : File) : String :=
  Name.packagePrefix file.package

/-- The messages that a file declares: their references, and their index paths. -/
def File.declaredMessages (file : File) : List (String × List Nat) :=
  Message.declaredMessagesIn file.scope [] 0 file.messages

/-- The references of the enums that a file declares. -/
def File.declaredEnums (file : File) : List String :=
  file.enums.map (fun enum => Name.member file.scope enum.name) ++
    Message.declaredEnumsIn file.scope file.messages

/-- The references of all types of the file, messages first. -/
def File.declaredRefs (file : File) : List String :=
  file.declaredMessages.map Prod.fst ++ file.declaredEnums

/-! ### Index paths -/

/-- The message to which an index path leads from a message. -/
def Message.nestedAt? : List Nat → Message → Option Message
  | [], message => some message
  | index :: path, message => message.nested[index]?.bind (Message.nestedAt? path)

/-- The message of a file to which an index path leads. -/
def File.messageAt? (file : File) : List Nat → Option Message
  | [] => none
  | index :: path => file.messages[index]?.bind (Message.nestedAt? path)

end RpcBindings
