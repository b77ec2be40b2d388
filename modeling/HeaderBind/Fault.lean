/-
# HeaderBind.Fault — why a type cannot be bound

The causes that stop a signature or a definition, and the text that reports each.
-/
import HeaderBind.CType.Display

namespace HeaderBind

set_option autoImplicit false

inductive Fault where
  /-- A typedef name that no typedef declares. -/
  | unknownTypedef (name : String)
  /-- A type without a counterpart, and the callable or record that uses it. -/
  | unsupported (type : TypeRef) (user : String)
  /-- Typedef names or records that lead back to one of themselves. -/
  | cycle (chain : List String)
  /-- Pointers and typedef names, or unnamed records, that lead on for ever. -/
  | endless
deriving DecidableEq, Repr, Inhabited

namespace Fault

/-- The report of a fault about types of the graph. -/
def message (graph : TypeGraph) : Fault → String
  | .unknownTypedef name => "Unknown typedef name: '" ++ name ++ "'"
  | .unsupported type user =>
      "Unsupported type " ++ graph.display type ++
        (if user = "" then "" else " in '" ++ user ++ "'")
  | .cycle chain => "Cyclic type expansion: " ++ String.intercalate " -> " chain
  | .endless => "maximum recursion depth exceeded"

end Fault

end HeaderBind
