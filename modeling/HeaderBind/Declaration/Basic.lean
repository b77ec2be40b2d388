/-
# HeaderBind.Declaration.Basic — what C files declare

A declaration has a base type and declarators.  The type of a declarator has an
open slot where the base type belongs; a declarator without a type of its own
declares the base type itself.
-/
import HeaderBind.CType.Basic

namespace HeaderBind

set_option autoImplicit false

structure Declarator where
  name : String
  type : TypeRef
deriving DecidableEq, Repr, Inhabited

/-- What stands outside all function bodies. -/
inductive ExternalDeclaration where
  | declaration (base : TypeRef) (declarators : List Declarator) (isTypedef : Bool)
  /-- A function with its body. -/
  | functionBody (name : String) (function : TypeRef)
deriving DecidableEq, Repr, Inhabited

/-- The declarations of a list of files, in order. -/
abbrev FileTable := List (String × List ExternalDeclaration)

/-- The headers to make bindings for, and what the files that were read declare. -/
structure HeaderLibrary where
  headers : List String
  files : FileTable
deriving DecidableEq, Repr, Inhabited

namespace HeaderLibrary

/-- What a file declares; a file that was not read declares nothing. -/
def declarations (library : HeaderLibrary) (file : String) : List ExternalDeclaration :=
  (library.files.lookup file).getD []

end HeaderLibrary

end HeaderBind
