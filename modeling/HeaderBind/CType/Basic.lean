/-
# HeaderBind.CType.Basic — C types as a graph of nodes

C types refer to one another, and two unnamed structures with the same members
are still two types.  So a type is a node of a graph and is told apart by its
place there.  A `TypeRef` leads to a node, or to nothing: the null reference
marks a slot that a declarator leaves open for the base type of its declaration.
-/
import HeaderBind.Identifier.Numbered

namespace HeaderBind

set_option autoImplicit false

/-- The identity of a type node: its place in the graph. -/
structure NodeId where
  index : Nat
deriving DecidableEq, Repr, Inhabited

/-- A reference to a type node, or to nothing. -/
abbrev TypeRef := Option NodeId

/-- The three kinds of tagged types. -/
inductive Tag where
  | struct
  | union
  | enum
deriving DecidableEq, Repr, Inhabited

namespace Tag

/-- The C keyword of a tag. -/
def keyword : Tag → String
  | .struct => "struct"
  | .union => "union"
  | .enum => "enum"

/-- Structures and unions are records: they hold members. -/
def isRecord : Tag → Bool
  | .enum => false
  | _ => true

end Tag

/-- A member of a structure or union. -/
structure Member where
  name : Option String
  type : TypeRef
deriving DecidableEq, Repr, Inhabited

namespace Member

/-- What the member at position `index` is called. -/
def label (member : Member) (index : Nat) : String := Identifier.labelOr member.name index

end Member

/-- An enumeration constant with the text of its initializer, if it has one. -/
structure Constant where
  name : String
  value : Option String
deriving DecidableEq, Repr, Inhabited

/-- A parameter of a function type. -/
structure Parameter where
  name : Option String
  type : TypeRef
deriving DecidableEq, Repr, Inhabited

/-- A structure, union or enumeration.  Without a member list it is only declared. -/
structure TaggedType where
  tag : Tag
  name : Option String
  members : Option (List Member)
  constants : List Constant
deriving DecidableEq, Repr, Inhabited

namespace TaggedType

/-- The type is a structure or union. -/
def isRecord (type : TaggedType) : Bool := type.tag.isRecord

/-- The name written in the C source, if there is one. -/
def ownName? (type : TaggedType) : Option String := Identifier.proper? type.name

end TaggedType

/-- What a function type takes and gives. -/
structure Prototype where
  params : List Parameter
  result : TypeRef
  variadic : Bool
deriving DecidableEq, Repr, Inhabited

/-- A node of the type graph. -/
inductive CType where
  /-- A built-in type by its full spelling, qualifiers included. -/
  | builtin (spelling : String)
  | typedefName (name : String)
  /-- A construct that bindings do not cover: arrays, vectors, complex numbers. -/
  | uncovered (spelling : String)
  | pointer (pointee : TypeRef)
  | function (prototype : Prototype)
  | tagged (type : TaggedType)
deriving DecidableEq, Repr, Inhabited

/-- The nodes of all types, in the order they were made. -/
structure TypeGraph where
  nodes : Array CType
deriving Inhabited

namespace TypeGraph

def empty : TypeGraph := ⟨#[]⟩

def size (graph : TypeGraph) : Nat := graph.nodes.size

/-- The node of an identity. -/
def node? (graph : TypeGraph) (id : NodeId) : Option CType := graph.nodes[id.index]?

/-- The node a reference leads to. -/
def at? (graph : TypeGraph) (ref : TypeRef) : Option CType := ref.bind graph.node?

/-- The tagged type of an identity. -/
def tagged? (graph : TypeGraph) (id : NodeId) : Option TaggedType :=
  match graph.node? id with
  | some (.tagged type) => some type
  | _ => none

/-- The identity is that of a structure or union. -/
def isRecord (graph : TypeGraph) (id : NodeId) : Bool :=
  (graph.tagged? id).any TaggedType.isRecord

/-- The identity is that of an enumeration. -/
def isEnum (graph : TypeGraph) (id : NodeId) : Bool :=
  (graph.tagged? id).any fun type => !type.isRecord

/-- The members of a structure or union, if it is defined. -/
def members? (graph : TypeGraph) (id : NodeId) : Option (List Member) :=
  (graph.tagged? id).bind TaggedType.members

/-- A new node, and its identity. -/
def add (graph : TypeGraph) (type : CType) : NodeId × TypeGraph :=
  (⟨graph.size⟩, ⟨graph.nodes.push type⟩)

/-- The graph with another content for one node. -/
def set (graph : TypeGraph) (id : NodeId) (type : CType) : TypeGraph :=
  ⟨graph.nodes.setIfInBounds id.index type⟩

@[simp] theorem size_set (graph : TypeGraph) (id : NodeId) (type : CType) :
    (graph.set id type).size = graph.size := by
  simp [size, set]

theorem node?_set_self {graph : TypeGraph} {id : NodeId} {old : CType}
    (h : graph.node? id = some old) (type : CType) : (graph.set id type).node? id = some type := by
  have hlt : id.index < graph.nodes.size := by
    have := Array.getElem?_eq_some_iff.1 h
    exact this.1
  simp [node?, set, hlt]

theorem node?_set_ne (graph : TypeGraph) {id other : NodeId} (h : other ≠ id) (type : CType) :
    (graph.set id type).node? other = graph.node? other := by
  have hne : id.index ≠ other.index := fun e => h (by cases id; cases other; simp_all)
  simp [node?, set, Array.getElem?_setIfInBounds_ne hne]

theorem node?_add_of_lt (graph : TypeGraph) (type : CType) {id : NodeId}
    (h : id.index < graph.size) : (graph.add type).2.node? id = graph.node? id := by
  simp only [size] at h
  simp [node?, add, Array.getElem?_push, Nat.ne_of_lt h]

theorem node?_add_self (graph : TypeGraph) (type : CType) :
    (graph.add type).2.node? (graph.add type).1 = some type := by
  simp [node?, add, size]

end TypeGraph

end HeaderBind
