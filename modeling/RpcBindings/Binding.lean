/-
Module: RpcBindings.Binding
Purpose: What a dialect makes of a request field and of a method.
Main exports: FieldBinding, Binding
-/

namespace RpcBindings

/-- How a target declares a field, and how it reads the field's value back into the request. -/
structure FieldBinding where
  declaration : String := ""
  accessor : String := ""
deriving Repr, DecidableEq, Inhabited

namespace FieldBinding

/-- What a dialect gives for a field that it cannot express. -/
def none : FieldBinding := {}

/-- Whether there is nothing to declare and nothing to read. -/
def isEmpty (binding : FieldBinding) : Bool :=
  binding.declaration.isEmpty && binding.accessor.isEmpty

@[simp] theorem isEmpty_none : none.isEmpty = true := by decide

end FieldBinding

/-- The code for one method. -/
structure Binding where
  /-- The identifier that the code exports. -/
  exported : String
  requestType : String
  responseType : String
  /-- The code, which refers to nothing that another binding defines. -/
  fragment : String
deriving Repr, DecidableEq, Inhabited

/-- The types that the code refers to: the request's, then the response's. -/
def Binding.referencedTypes (binding : Binding) : List String :=
  [binding.requestType, binding.responseType]

end RpcBindings
