/-
# HeaderBind.Ffi.Type — types of the foreign-function interface

A type of the interface is a scalar symbol, a record passed by value, or an
enumeration.
-/
namespace HeaderBind

set_option autoImplicit false

inductive FfiType where
  | scalar (symbol : String)
  | byValue (record : String)
  | enum (name : String)
deriving DecidableEq, Repr, Inhabited

namespace FfiType

def string : FfiType := .scalar "string"
def pointer : FfiType := .scalar "pointer"

/-- The rest of a variadic argument list. -/
def varargs : FfiType := .scalar "varargs"

/-- How Ruby code spells a type of the interface. -/
def spelling : FfiType → String
  | .scalar symbol => ":" ++ symbol
  | .byValue record => record ++ ".by_value"
  | .enum name => name

end FfiType

end HeaderBind
