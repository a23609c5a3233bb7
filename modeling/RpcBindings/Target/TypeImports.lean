/-
Module: RpcBindings.Target.TypeImports
Purpose: The imports that bring types of other modules into scope, as they are spelled.
Main exports: TypeImports, TypeImports.add, TypeImports.steps
-/
import RpcBindings.Target.Script

namespace RpcBindings

open Layout

/-!
A type with a package is spelled from the package's first segment, its root, and the root is
imported as a namespace.  Of a type without a package the outermost name is imported.
-/

/-- The types that a module imports. -/
structure TypeImports where
  /-- The roots, each with the module that binds it, in the order of their first use. -/
  namespaces : List (String × String) := []
  /-- The modules with the names that are taken from them, in the order of their first use. -/
  named : List (String × NameSet) := []
deriving Repr, DecidableEq, Inhabited

namespace TypeImports

/-- What precedes the first dot of a dotted path. -/
def firstSegment (path : String) : String :=
  String.ofList (path.toList.takeWhile fun c => c != '.')

/-- Bind a root to a module, unless it is bound. -/
def bindRoot (namespaces : List (String × String)) (root module : String) :
    List (String × String) :=
  if (namespaces.lookup root).isSome then namespaces else namespaces ++ [(root, module)]

def takeName (named : List (String × NameSet)) (module name : String) :
    List (String × NameSet) :=
  match named with
  | [] => [(module, NameSet.ofList [name])]
  | (other, names) :: rest =>
      if other = module then (other, names.insert name) :: rest
      else (other, names) :: takeName rest module name

/-- The imports with one more type, which a module declares.  The first module that is seen for a
root binds it. -/
def add (imports : TypeImports) (location : Location) (module : String) : TypeImports :=
  let root := firstSegment location.file.package
  if root = "" then
    { imports with named := takeName imports.named module (firstSegment location.localName) }
  else { imports with namespaces := bindRoot imports.namespaces root module }

/-- Whether some type has a package. -/
def hasNamespaces (imports : TypeImports) : Bool :=
  !imports.namespaces.isEmpty

def namespaceStep : String × String → Step
  | (root, module) => .line ("import * as " ++ root ++ " from '" ++ module ++ "'")

/-- The imports as code: those of roots and those of names, an empty line after each group. -/
def steps (imports : TypeImports) : List Step :=
  imports.namespaces.map namespaceStep ++
  (if imports.hasNamespaces then [.blank] else []) ++
  imports.named.flatMap fun (module, names) => Script.importSteps "import" names.toList module

/-- The imports for some references, in order.  `wanted` tells which of the types found are
imported, and `moduleOf` from where. -/
def ofRefs (registry : Registry) (wanted : File → Bool) (moduleOf : File → String)
    (refs : List String) : TypeImports :=
  refs.foldl
    (fun imports ref =>
      match registry.locate ref with
      | .ok location =>
          if wanted location.file then imports.add location (moduleOf location.file) else imports
      | .error _ => imports)
    {}

end TypeImports

end RpcBindings
