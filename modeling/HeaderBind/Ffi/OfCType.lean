/-
# HeaderBind.Ffi.OfCType — the interface type of a C type

On the way to its interface type, a C type demands the tagged types it passes.
What a demand does is given from outside: for a callable, it makes the types
needed; for the members of a record it does nothing, because by then every type
is known to be needed.
-/
import HeaderBind.Ffi.Builtin
import HeaderBind.Ffi.Type
import HeaderBind.Identifier.Case
import HeaderBind.Need.Collection

namespace HeaderBind

set_option autoImplicit false

/-- What is done with a type that is passed, behind a pointer or by value. -/
abbrev Demand := TypeRef → Bool → Run Unit

namespace Demand

/-- The type is needed by a user. -/
def needing (scope : Scope) (user : String) : Demand :=
  fun type viaPointer => scope.need type user viaPointer

/-- Nothing is done. -/
def nothing : Demand := fun _ _ => pure ()

end Demand

/-- The type is the built-in `const char`. -/
def TypeGraph.isConstChar (graph : TypeGraph) (type : TypeRef) : Bool :=
  match graph.at? type with
  | some (.builtin spelling) => Ffi.isConstCharSpelling spelling
  | _ => false

namespace Scope

/-- A pointer is a string if it points to constant characters.  It demands what it
points to only if that is a pointer or a tagged type itself. -/
def ffiPointer (scope : Scope) (demand : Demand) (pointee : TypeRef) : Run FfiType := do
  if scope.graph.isConstChar pointee then
    return .string
  else
    match scope.graph.at? pointee with
    | some (.pointer _) => demand pointee true
    | some (.tagged _) => demand pointee true
    | _ => pure ()
    return .pointer

/-- The interface type of what a typedef name may stand for in the end. -/
def ffiMeaning (scope : Scope) (demand : Demand) (type : TypeRef) (user : String) :
    Run FfiType := do
  match type with
  | none => throw (.unsupported none user)
  | some id =>
      match scope.graph.node? id with
      | none => throw (.unsupported none user)
      | some (.typedefName _) => return .varargs
      | some (.pointer pointee) => scope.ffiPointer demand pointee
      | some (.tagged tagged) => do
          demand type false
          let name := Identifier.camelCase (← scope.nameFor id)
          return if tagged.isRecord then .byValue name else .enum name
      | some (.builtin spelling) => return .scalar (Ffi.builtinSymbol spelling)
      | some (.function _) => throw (.unsupported type user)
      | some (.uncovered _) => throw (.unsupported type user)

/-- The interface type of a C type.  A typedef name has that of what it stands for. -/
def ffiType (scope : Scope) (demand : Demand) (type : TypeRef) (user : String) :
    Run FfiType := do
  match scope.graph.at? type with
  | some (.typedefName name) =>
      if name = scope.typedefs.marker then
        return .varargs
      else
        match ← Run.ofExcept (scope.finalMeaning name) with
        | .variadic => return .varargs
        | .type meaning => scope.ffiMeaning demand meaning user
  | _ => scope.ffiMeaning demand type user

/-- The interface type of a C type that a user needs with all it uses. -/
def neededFfiType (scope : Scope) (type : TypeRef) (user : String) : Run FfiType :=
  scope.ffiType (.needing scope user) type user

/-- The interface type of a C type whose needs are known. -/
def knownFfiType (scope : Scope) (type : TypeRef) (user : String) : Run FfiType :=
  scope.ffiType .nothing type user

end Scope

end HeaderBind
