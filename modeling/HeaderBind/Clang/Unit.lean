/-
# HeaderBind.Clang.Unit — a unit of C source as the parser gives it

A unit is a table of cursors, which refer to one another by place and may do so
in circles, and the list of those at the top level.  Types stand inside cursors
and refer to the cursors that declare them.
-/
namespace HeaderBind.Clang

set_option autoImplicit false

/-- The place of a cursor in its unit. -/
structure CursorId where
  index : Nat
deriving DecidableEq, Repr, Inhabited

inductive CursorKind where
  | structDecl
  | unionDecl
  | enumDecl
  | functionDecl
  | typedefDecl
  | varDecl
  | fieldDecl
  | enumConstantDecl
  | other (name : String)
deriving DecidableEq, Repr, Inhabited

namespace CursorKind

/-- The parser's word for a kind. -/
def name : CursorKind → String
  | structDecl => "STRUCT_DECL"
  | unionDecl => "UNION_DECL"
  | enumDecl => "ENUM_DECL"
  | functionDecl => "FUNCTION_DECL"
  | typedefDecl => "TYPEDEF_DECL"
  | varDecl => "VAR_DECL"
  | fieldDecl => "FIELD_DECL"
  | enumConstantDecl => "ENUM_CONSTANT_DECL"
  | other name => name

/-- The kind that a word of the parser means. -/
def ofName (name : String) : CursorKind :=
  ([structDecl, unionDecl, enumDecl, functionDecl, typedefDecl, varDecl, fieldDecl,
    enumConstantDecl].find? (·.name = name)).getD (.other name)

end CursorKind

/-- A type as it is written in the source.  A type of any kind may have a cursor that
declares it. -/
inductive SourceType where
  /-- A type that only says how another is written. -/
  | elaborated (named : SourceType)
  | pointer (pointee : SourceType) (declaration : Option CursorId)
  | typedefName (declaration : Option CursorId)
  /-- A structure, union or enumeration. -/
  | tagged (declaration : Option CursorId)
  | prototype (params : List SourceType) (result : SourceType) (variadic : Bool)
      (declaration : Option CursorId)
  /-- A function type that says nothing about its parameters. -/
  | noPrototype (result : SourceType) (declaration : Option CursorId)
  /-- Any other type, by the parser's word for its kind. -/
  | leaf (kind spelling : String) (declaration : Option CursorId)
deriving Inhabited

namespace SourceType

/-- The type without the layers that only say how it is written. -/
def stripped : SourceType → SourceType
  | .elaborated named => named.stripped
  | type => type

/-- The cursor that declares a type, seen through those layers. -/
def declaration? : SourceType → Option CursorId
  | .elaborated named => named.declaration?
  | .pointer _ declaration => declaration
  | .typedefName declaration => declaration
  | .tagged declaration => declaration
  | .prototype _ _ _ declaration => declaration
  | .noPrototype _ declaration => declaration
  | .leaf _ _ declaration => declaration

end SourceType

/-- The kinds of the built-in types. -/
def builtinKinds : List String := [
  "VOID", "BOOL", "CHAR_U", "UCHAR", "CHAR16", "CHAR32", "USHORT", "UINT", "ULONG", "ULONGLONG",
  "UINT128", "CHAR_S", "SCHAR", "WCHAR", "SHORT", "INT", "LONG", "LONGLONG", "INT128", "FLOAT",
  "DOUBLE", "LONGDOUBLE"]

structure Cursor where
  kind : CursorKind
  spelling : String
  /-- The file the cursor is in; what the parser itself provides is in none. -/
  file : Option String
  /-- What identifies a declaration across the unit, if not empty. -/
  usr : String
  hash : Int
  type : SourceType
  resultType : SourceType
  underlying : SourceType
  arguments : List CursorId
  children : List CursorId
  definition : Option CursorId
  isDefinition : Bool
  enumValue : Int
  tokens : List String
deriving Inhabited

/-- A type that is not there. -/
def SourceType.missing : SourceType := .leaf "INVALID" "" none

/-- A cursor of which only the kind is known. -/
def Cursor.bare (kind : CursorKind) : Cursor where
  kind := kind
  spelling := ""
  file := none
  usr := ""
  hash := 0
  type := .missing
  resultType := .missing
  underlying := .missing
  arguments := []
  children := []
  definition := none
  isDefinition := false
  enumValue := 0
  tokens := []

/-- The cursor that stands for a declaration that is not there. -/
def Cursor.missing : Cursor := .bare (.other "NO_DECL_FOUND")

structure Diagnostic where
  severity : Int
  spelling : String
  file : Option String
deriving DecidableEq, Repr, Inhabited

structure SourceUnit where
  cursors : Array Cursor
  top : List CursorId
  diagnostics : List Diagnostic
deriving Inhabited

namespace SourceUnit

/-- The cursor at a place. -/
def cursor? (unit : SourceUnit) (id : CursorId) : Option Cursor := unit.cursors[id.index]?

/-- The cursors at a list of places. -/
def cursorsAt (unit : SourceUnit) (ids : List CursorId) : List Cursor :=
  ids.filterMap unit.cursor?

/-- The cursor that declares something. -/
def declaration (unit : SourceUnit) (id : Option CursorId) : Cursor :=
  (id.bind unit.cursor?).getD .missing

/-- The definition that a declaration leads to. -/
def definition? (unit : SourceUnit) (cursor : Cursor) : Option Cursor :=
  cursor.definition.bind unit.cursor?

end SourceUnit

end HeaderBind.Clang
