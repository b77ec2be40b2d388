/-
# HeaderBind.Binding.Basic — what the bindings of a library are made of

Enumerations and records are bound once for the whole library, callbacks and
functions header by header.  Every enumeration and record tells its users.
-/
import HeaderBind.Ffi.Type

namespace HeaderBind

set_option autoImplicit false

/-- A constant of an enumeration, with its value as it is written. -/
structure EnumEntry where
  name : String
  value : Option String
deriving DecidableEq, Repr, Inhabited

structure EnumBinding where
  name : String
  cName : String
  entries : List EnumEntry
  users : List String
  order : Nat
deriving DecidableEq, Repr, Inhabited

structure RecordField where
  name : String
  type : FfiType
deriving DecidableEq, Repr, Inhabited

/-- A structure or union.  One that is only declared is opaque and has no fields. -/
structure RecordBinding where
  name : String
  cName : String
  isUnion : Bool
  isOpaque : Bool
  fields : List RecordField
  users : List String
  order : Nat
deriving DecidableEq, Repr, Inhabited

/-- A function or callback with its interface types. -/
structure CallableBinding where
  name : String
  params : List FfiType
  result : FfiType
  isCallback : Bool
  order : Int
deriving DecidableEq, Repr, Inhabited

/-- The callables of a header, in modules nested by its path. -/
structure HeaderBindings where
  header : String
  modules : List String
  callbacks : List CallableBinding
  functions : List CallableBinding
deriving DecidableEq, Repr, Inhabited

structure Bindings where
  enums : List EnumBinding
  records : List RecordBinding
  headers : List HeaderBindings
deriving DecidableEq, Repr, Inhabited

end HeaderBind
