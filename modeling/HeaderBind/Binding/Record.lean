/-
# HeaderBind.Binding.Record — the needed structures and unions

Records come out after those they hold by value.  An unnamed record that is
written in place is bound right before its parent.
-/
import HeaderBind.Binding.Basic
import HeaderBind.Binding.Order
import HeaderBind.Ffi.OfCType

namespace HeaderBind

set_option autoImplicit false

namespace TypeGraph

/-- The unnamed record that a type is, if it is one. -/
def inPlaceRecord? (graph : TypeGraph) (type : TypeRef) : Option NodeId :=
  type.filter fun id =>
    (graph.tagged? id).any fun tagged => tagged.isRecord && tagged.ownName?.isNone

/-- The type is a union. -/
def isUnion (graph : TypeGraph) (id : NodeId) : Bool :=
  (graph.tagged? id).any fun tagged => tagged.tag = .union

end TypeGraph

namespace Scope

/-- The bindings that come before a member's parent, and the member as a field. -/
def bindMember (scope : Scope) (inPlace : NodeId → Run (List RecordBinding))
    (parentName : String) (member : Member) (index : Nat) :
    Run (List RecordBinding × RecordField) := do
  let nested ←
    match scope.graph.inPlaceRecord? member.type with
    | some child => inPlace child
    | none => pure []
  let type ← scope.knownFfiType member.type parentName
  return (nested, ⟨member.label index, type⟩)

/-- The bindings of a record and of the unnamed ones in it, which nest less than `fuel`
deep. -/
def bindRecordWithin (scope : Scope) (users : List String) :
    Nat → NodeId → Run (List RecordBinding)
  | 0, _ => throw .endless
  | fuel + 1, id => do
      let cName ← scope.nameFor id
      let binding : RecordBinding := {
        name := Identifier.camelCase cName
        cName
        isUnion := scope.graph.isUnion id
        isOpaque := (scope.graph.members? id).isNone
        fields := []
        users
        order := 0 }
      match scope.graph.members? id with
      | none =>
          Run.note .debug .definitions ("Emitting placeholder for opaque " ++ cName)
          return [binding]
      | some members =>
          let parts ← members.zipIdx.mapM fun (member, index) =>
            scope.bindMember (scope.bindRecordWithin users fuel) cName member index
          return parts.flatMap (·.1) ++ [{ binding with fields := parts.map (·.2) }]

/-- The binding of a record, after those of the unnamed ones in it. -/
def bindRecord (scope : Scope) (id : NodeId) (users : List String) : Run (List RecordBinding) :=
  scope.bindRecordWithin users (scope.graph.size + 1) id

/-- Bindings numbered by their position. -/
def numbered (bindings : List RecordBinding) : List RecordBinding :=
  bindings.zipIdx.map fun (binding, order) => { binding with order }

/-- The bindings of all needed records. -/
def bindRecords (scope : Scope) : Run (List RecordBinding) := do
  let needs := (← get).needs
  let ordered ← scope.holdingOrder (needs.types.filter scope.graph.isRecord)
  let parts ← ordered.mapM fun id => scope.bindRecord id (needs.users id)
  return numbered parts.flatten

end Scope

end HeaderBind
