/-
# HeaderBind.Binding.Enum — the needed enumerations

Enumerations are bound in the order in which they were first needed.
-/
import HeaderBind.Binding.Basic
import HeaderBind.Identifier.Case
import HeaderBind.Run

namespace HeaderBind

set_option autoImplicit false

/-- The constants of an enumeration. -/
def TypeGraph.constants (graph : TypeGraph) (id : NodeId) : List Constant :=
  ((graph.tagged? id).map TaggedType.constants).getD []

namespace Scope

/-- The binding of one enumeration. -/
def bindEnum (scope : Scope) (id : NodeId) (users : List String) (order : Nat) :
    Run EnumBinding := do
  let cName ← scope.nameFor id
  return {
    name := Identifier.camelCase cName
    cName
    entries := (scope.graph.constants id).map fun constant => ⟨constant.name, constant.value⟩
    users
    order }

/-- The bindings of all needed enumerations. -/
def bindEnums (scope : Scope) : Run (List EnumBinding) := do
  let enums := (← get).needs.entries.filter fun entry => scope.graph.isEnum entry.1
  enums.zipIdx.mapM fun ((id, users), order) => scope.bindEnum id users order

end Scope

end HeaderBind
