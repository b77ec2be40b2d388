/-
# HeaderBind.Binding.Held — the records that a record holds by value

A record holds the records that its members are, directly or by a typedef name,
and those that an unnamed record written in place holds.
-/
import HeaderBind.Run

namespace HeaderBind

set_option autoImplicit false

namespace Scope

/-- The records one member brings in, given those of a record written in place. -/
def heldByMember (scope : Scope) (inPlace : NodeId → Walk NodeId) (member : Member) :
    Walk NodeId :=
  match member.type with
  | none => .empty
  | some id =>
      match scope.graph.node? id with
      | some (.typedefName name) =>
          if name = scope.typedefs.marker then .empty
          else
            match scope.finalMeaning name with
            | .error fault => .stop fault
            | .ok (.type (some meaning)) =>
                if scope.graph.isRecord meaning then .single meaning else .empty
            | .ok _ => .empty
      | some (.tagged type) =>
          if !type.isRecord then .empty
          else if type.ownName?.isSome then .single id
          else inPlace id
      | _ => .empty

/-- What a record holds whose unnamed records nest less than `fuel` deep. -/
def heldWithin (scope : Scope) : Nat → NodeId → Walk NodeId
  | 0, _ => .stop .endless
  | fuel + 1, record =>
      .concatMap (scope.heldByMember (scope.heldWithin fuel))
        ((scope.graph.members? record).getD [])

/-- The records that a record holds by value, in the order of its members. -/
def held (scope : Scope) (record : NodeId) : Walk NodeId :=
  scope.heldWithin (scope.graph.size + 1) record

end Scope

end HeaderBind
