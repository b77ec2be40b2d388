/-
# HeaderBind.Clang.Declaration — the declarations of a unit

Functions, typedefs, tagged types and variables are declarations; other cursors
declare nothing that bindings need.  A typedef of a function type, or of a pointer
to one, keeps the result type as the base type of its declaration.  As in the
conversion of types, the nodes of tagged types are left to whoever reads the unit.
-/
import HeaderBind.Clang.Tagged
import HeaderBind.Declaration.Basic

namespace HeaderBind.Clang

set_option autoImplicit false

/-! ## Function types -/

/-- What a function type is made of. -/
structure FunctionParts where
  params : List SourceType
  result : SourceType
  variadic : Bool
deriving Inhabited

namespace SourceType

/-- The parts of a function type.  Without a prototype it has no parameters. -/
def functionParts? : SourceType → Option FunctionParts
  | .prototype params result variadic _ => some ⟨params, result, variadic⟩
  | .noPrototype result _ => some ⟨[], result, false⟩
  | _ => none

/-- The parts of the function type that a pointer type leads to. -/
def pointedParts? : SourceType → Option FunctionParts
  | .pointer pointee _ => pointee.stripped.functionParts?
  | _ => none

/-- Only a prototype can be variadic. -/
def isVariadic : SourceType → Bool
  | .prototype _ _ variadic _ => variadic
  | _ => false

end SourceType

/-- The function type of a declarator, its result left open. -/
def openFunction (params : List Parameter) (variadic : Bool) : Convert TypeRef :=
  Convert.addType (.function ⟨params, none, variadic⟩)

/-! ## Declarations -/

section Readers

variable (unit : SourceUnit) (tagged : Cursor → Convert NodeId)

/-- The declaration of a typedef that a function type goes into. -/
def functionTypedef (name : String) (parts : FunctionParts)
    (declaratorType : TypeRef → Convert TypeRef) : Convert ExternalDeclaration := do
  let base ← typeNode unit tagged parts.result
  let params ← typeNodes unit tagged parts.params
  let function ← openFunction (params.map fun type => ⟨none, type⟩) parts.variadic
  let type ← declaratorType function
  return .declaration base [⟨name, type⟩] true

def typedefDeclaration (cursor : Cursor) : Convert ExternalDeclaration := do
  let underlying := cursor.underlying.stripped
  match underlying.pointedParts? with
  | some parts =>
      functionTypedef unit tagged cursor.spelling parts fun function =>
        Convert.addType (.pointer function)
  | none =>
      match underlying.functionParts? with
      | some parts => functionTypedef unit tagged cursor.spelling parts pure
      | none =>
          let base ← typeNode unit tagged cursor.underlying
          return .declaration base [⟨cursor.spelling, none⟩] true

/-- The parameters of a declared function, with their names. -/
def argumentParams (arguments : List CursorId) : Convert (List Parameter) :=
  (unit.cursorsAt arguments).mapM fun argument => do
    let type ← typeNode unit tagged argument.type
    return ⟨Identifier.nonempty? argument.spelling, type⟩

def functionDeclaration (cursor : Cursor) : Convert ExternalDeclaration := do
  let params ← argumentParams unit tagged cursor.arguments
  let variadic := cursor.type.isVariadic
  let result ← typeNode unit tagged cursor.resultType
  if cursor.isDefinition then
    let function ← Convert.addType (.function ⟨params, result, variadic⟩)
    return .functionBody cursor.spelling function
  else
    let function ← openFunction params variadic
    return .declaration result [⟨cursor.spelling, function⟩] false

def variableDeclaration (cursor : Cursor) : Convert ExternalDeclaration := do
  let base ← typeNode unit tagged cursor.type
  return .declaration base [⟨cursor.spelling, none⟩] false

end Readers

def taggedDeclaration (tagged : Cursor → Convert NodeId) (cursor : Cursor) :
    Convert ExternalDeclaration := do
  let node ← tagged cursor
  return .declaration node [] false

/-- How the declarations of a unit are read, given the nodes of the tagged types. -/
abbrev DeclarationReader :=
  SourceUnit → (Cursor → Convert NodeId) → Cursor → Convert ExternalDeclaration

/-- How a kind of cursor is read, if it is a declaration. -/
def declarationReader? : CursorKind → Option DeclarationReader
  | .functionDecl => some functionDeclaration
  | .typedefDecl => some typedefDeclaration
  | .varDecl => some variableDeclaration
  | .structDecl => some fun _ => taggedDeclaration
  | .unionDecl => some fun _ => taggedDeclaration
  | .enumDecl => some fun _ => taggedDeclaration
  | _ => none

end HeaderBind.Clang
