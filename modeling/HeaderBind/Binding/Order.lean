/-
# HeaderBind.Binding.Order — records after those they hold

A depth-first search puts every record after the wanted records that it holds by
value, and otherwise keeps the given order.  To come back to a record whose own
records are still being visited is a cycle.
-/
import HeaderBind.Binding.Held

namespace HeaderBind

set_option autoImplicit false

namespace Scope

/-- Adds a record to the ordered ones, after those it holds.  `path` holds the records
being visited, outermost first. -/
def visitWithin (scope : Scope) (wanted : List NodeId) :
    Nat → List NodeId → List NodeId → NodeId → Run (List NodeId)
  | 0, _, _, _ => throw .endless
  | fuel + 1, path, ordered, id => do
      if id ∈ ordered then
        return ordered
      else if id ∈ path then
        throw (← scope.cycleThrough path id)
      else
        let walk := scope.held id
        let before := walk.items.filter fun record => record ∈ wanted
        let ordered ← before.foldlM (scope.visitWithin wanted fuel (path ++ [id])) ordered
        match walk.fault with
        | none => return ordered ++ [id]
        | some fault => throw fault

/-- The wanted records, each after those it holds. -/
def holdingOrder (scope : Scope) (wanted : List NodeId) : Run (List NodeId) :=
  wanted.foldlM (scope.visitWithin wanted (scope.graph.size + 1) []) []

end Scope

end HeaderBind
