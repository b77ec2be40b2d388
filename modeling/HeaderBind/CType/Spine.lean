/-
# HeaderBind.CType.Spine — putting the base type of a declaration in its place

A C declaration `int *f(void)` comes in two parts: the declarator, a function
that gives a pointer to nothing yet, and the base type `int`.  The spine of a
declarator leads through results of functions and through what pointers point
to; the first open slot on it is where the base type belongs.  `assemble` fills
that slot and no other, and changes nothing when there is none.
-/
import HeaderBind.CType.Basic

namespace HeaderBind

set_option autoImplicit false

namespace CType

/-- The slot of a node that the spine leads through. -/
def spineSlot : CType → Option TypeRef
  | .pointer pointee => some pointee
  | .function prototype => some prototype.result
  | _ => none

/-- The node with its spine slot filled. -/
def fillSlot (base : TypeRef) : CType → CType
  | .pointer _ => .pointer base
  | .function prototype => .function { prototype with result := base }
  | type => type

end CType

namespace TypeGraph

/-- The node whose slot is the first open one on the spine, within `fuel` nodes. -/
def openNode? (graph : TypeGraph) : Nat → NodeId → Option NodeId
  | 0, _ => none
  | fuel + 1, id =>
      match (graph.node? id).bind CType.spineSlot with
      | none => none
      | some none => some id
      | some (some next) => graph.openNode? fuel next

/-- The graph with the first open slot on the spine of `start` filled. -/
def fillSpine (graph : TypeGraph) (start : NodeId) (base : TypeRef) : TypeGraph :=
  match graph.openNode? graph.size start with
  | none => graph
  | some id =>
      match graph.node? id with
      | none => graph
      | some type => graph.set id (type.fillSlot base)

/-- The declared type: the declarator's with the base type put in, or the base type
itself where there is no declarator.  A spine without an end has no open slot. -/
def assemble (graph : TypeGraph) (declarator base : TypeRef) : TypeRef × TypeGraph :=
  match declarator with
  | none => (base, graph)
  | some start => (some start, graph.fillSpine start base)

@[simp] theorem size_fillSpine (graph : TypeGraph) (start : NodeId) (base : TypeRef) :
    (graph.fillSpine start base).size = graph.size := by
  unfold fillSpine
  split
  · rfl
  · split <;> simp

end TypeGraph

end HeaderBind
