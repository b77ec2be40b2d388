/-
# HeaderBind.Clang.Tagged — structures, unions and enumerations of a unit

Every declaration of a tagged type has a key, and all declarations of one key are
one type node.  Its members or constants come from the first definition that is
met; while they are read, the node is already there for references back to it.
-/
import HeaderBind.Clang.Conversion
import HeaderBind.Text.Search

namespace HeaderBind.Clang

set_option autoImplicit false

/-! ## Names and keys -/

/-- A spelling that stands for no name: parsers describe unnamed types in brackets. -/
def isUnnamed (spelling : String) : Bool :=
  spelling.isEmpty || Text.occursIn "(unnamed".toList spelling.toList ||
    Text.occursIn "(anonymous".toList spelling.toList

namespace CursorKind

/-- The tag that a kind of cursor declares. -/
def tag? : CursorKind → Option Tag
  | .structDecl => some .struct
  | .unionDecl => some .union
  | .enumDecl => some .enum
  | _ => none

end CursorKind

namespace Cursor

/-- What tells the declarations of one tagged type from all others. -/
def key (cursor : Cursor) : String :=
  if cursor.usr = "" then cursor.kind.name ++ ":" ++ toString cursor.hash else cursor.usr

end Cursor

/-! ## Members and constants -/

/-- The text of what follows a constant, or its value where that text is not known. -/
def valueText? (unit : SourceUnit) (constant : Cursor) : Option String :=
  match unit.cursorsAt constant.children with
  | [] => none
  | first :: _ =>
      let text := String.intercalate " " first.tokens
      some (if text = "" then toString constant.enumValue else text)

/-- The constants of an enumeration. -/
def constantsOf (unit : SourceUnit) (definition : Cursor) : List Constant :=
  ((unit.cursorsAt definition.children).filter fun child => child.kind = .enumConstantDecl).map
    fun child => ⟨child.spelling, valueText? unit child⟩

/-- The identifications of the tagged types that are themselves the types of fields. -/
def fieldTypes (unit : SourceUnit) (children : List Cursor) : List String :=
  (children.filter fun child => child.kind = .fieldDecl).filterMap fun child =>
    let declaration := unit.declaration child.type.declaration?
    if declaration.kind.tag?.isSome then some declaration.usr else none

/-- A record without a name that no field has as its type is a member itself. -/
def isAnonymousMember (named : List String) (child : Cursor) : Bool :=
  (child.kind = .structDecl || child.kind = .unionDecl) && isUnnamed child.spelling &&
    !named.contains child.usr

/-- The member that a child of a record declares. -/
def memberOf? (unit : SourceUnit) (tagged : Cursor → Convert NodeId) (named : List String)
    (child : Cursor) : Convert (Option Member) := do
  if child.kind = .fieldDecl then
    let type ← typeNode unit tagged child.type
    return some ⟨Identifier.nonempty? child.spelling, type⟩
  else if isAnonymousMember named child then
    return some ⟨none, some (← tagged child)⟩
  else return none

/-- The members of a structure or union, in the order of its children. -/
def membersOf (unit : SourceUnit) (tagged : Cursor → Convert NodeId)
    (definition : Cursor) : Convert (List Member) := do
  let children := unit.cursorsAt definition.children
  let members ← children.mapM (memberOf? unit tagged (fieldTypes unit children))
  return members.filterMap id

/-! ## Nodes -/

/-- The node of a declaration; its key gets one if it has none. -/
def bareNode (cursor : Cursor) : Convert NodeId := do
  match (← get).nodes.lookup cursor.key with
  | some id => return id
  | none =>
      match cursor.kind.tag? with
      | none => throw (.untaggedDeclaration cursor.kind)
      | some tag =>
          let name := if isUnnamed cursor.spelling then none else some cursor.spelling
          let id ← Convert.addNode (.tagged ⟨tag, name, none, []⟩)
          modify fun state => { state with nodes := (cursor.key, id) :: state.nodes }
          return id

/-- Reads a definition into its node. -/
def fillNode (unit : SourceUnit) (tagged : Cursor → Convert NodeId) (id : NodeId)
    (definition : Cursor) : Convert Unit := do
  match (← get).graph.tagged? id with
  | none => return
  | some type =>
      Convert.note ("Found " ++ type.tag.keyword ++ ": " ++ type.name.getD "None")
      let filled ←
        if type.isRecord then do
          let members ← membersOf unit tagged definition
          pure { type with members := some members }
        else pure { type with constants := constantsOf unit definition }
      modify fun state => { state with graph := state.graph.set id (.tagged filled) }

/-- The node of a declaration, its definition read unless one was met before.  What the
definition refers to is left to `tagged`. -/
def taggedLevel (unit : SourceUnit) (tagged : Cursor → Convert NodeId) (cursor : Cursor) :
    Convert NodeId := do
  let id ← bareNode cursor
  if cursor.key ∈ (← get).defined then
    return id
  else
    match unit.definition? cursor with
    | none => return id
    | some definition =>
        modify fun state => state.mark cursor.key
        fillNode unit tagged id definition
        return id

/-- Each level reads the definition of another key, `fuel` keys at most. -/
def taggedNodeWithin (unit : SourceUnit) : Nat → Cursor → Convert NodeId
  | 0 => bareNode
  | fuel + 1 => taggedLevel unit (taggedNodeWithin unit fuel)

/-- The node of a structure, union or enumeration. -/
def taggedNode (unit : SourceUnit) (cursor : Cursor) : Convert NodeId :=
  taggedNodeWithin unit (unit.cursors.size + 1) cursor

end HeaderBind.Clang
