/-
# HeaderBind.Need.Expansion — what the members of a record use

A member uses a type by value when it is a typedef name or a tagged type; a
pointer or a built-in type uses nothing.  A tagged type without a name of its own
is written in place: it is named after its parent, and if it is a record it is
expanded there and then.  Members that are functions or that bindings do not
cover end the expansion.
-/
import HeaderBind.Walk

namespace HeaderBind

set_option autoImplicit false

/-- What happens, in order, when a record is expanded. -/
inductive ExpansionStep where
  /-- The members of a record come next. -/
  | enter (record : NodeId)
  /-- A record that is only declared has nothing to expand. -/
  | declaredOnly (record : NodeId)
  /-- An unnamed type written in place is named after its parent and its label. -/
  | nameInPlace (child parent : NodeId) (label : String)
  /-- A type is used by value. -/
  | use (type : TypeRef)
deriving DecidableEq, Repr

namespace TypeGraph

/-- The steps for one member, given those of a record written in place. -/
def memberSteps (graph : TypeGraph) (user : String) (inPlace : NodeId → Walk ExpansionStep)
    (parent : NodeId) (member : Member) (index : Nat) : Walk ExpansionStep :=
  match member.type with
  | none => .empty
  | some id =>
      match graph.node? id with
      | some (.typedefName _) => .single (.use id)
      | some (.tagged type) =>
          match type.ownName? with
          | some _ => .single (.use id)
          | none =>
              .cons (.nameInPlace id parent (member.label index))
                (if type.isRecord then inPlace id else .single (.use id))
      | some (.function _) => .stop (.unsupported id user)
      | some (.uncovered _) => .stop (.unsupported id user)
      | some (.builtin _) => .empty
      | some (.pointer _) => .empty
      | none => .empty

/-- The steps of a record whose unnamed records nest less than `fuel` deep. -/
def expansionWithin (graph : TypeGraph) (user : String) : Nat → NodeId → Walk ExpansionStep
  | 0, _ => .stop .endless
  | fuel + 1, record =>
      match graph.members? record with
      | none => .single (.declaredOnly record)
      | some members =>
          .cons (.enter record) <| .concatMap
            (fun (member, index) =>
              graph.memberSteps user (graph.expansionWithin user fuel) record member index)
            members.zipIdx

/-- The steps of expanding a record.  Records that nest deeper than there are types are
written inside themselves. -/
def expansion (graph : TypeGraph) (user : String) (record : NodeId) : Walk ExpansionStep :=
  graph.expansionWithin user (graph.size + 1) record

end TypeGraph

end HeaderBind
