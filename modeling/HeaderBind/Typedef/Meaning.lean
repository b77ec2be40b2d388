/-
# HeaderBind.Typedef.Meaning — following typedef names to what they name

A typedef name may stand for another typedef name.  `finalMeaning` follows such
a chain to the first type that is not a typedef name, or to the variadic marker.
A name that no typedef declares ends the chain with a fault, and so does a name
that is already on it.
-/
import HeaderBind.Fault
import HeaderBind.Typedef.Table

namespace HeaderBind

set_option autoImplicit false

namespace TypedefTable

/-- What a name stands for by its own typedef. -/
def meaning (table : TypedefTable) (name : String) : Except Fault Meaning :=
  match table.lookup name with
  | some meaning => .ok meaning
  | none => .error (.unknownTypedef name)

/-- The typedef name, other than the marker, that a meaning is. -/
def nextName? (table : TypedefTable) (graph : TypeGraph) : Meaning → Option String
  | .variadic => none
  | .type ref =>
      match graph.at? ref with
      | some (.typedefName name) => if name = table.marker then none else some name
      | _ => none

/-- Follows a chain of names from its last one, `name`, for at most `fuel` names. -/
def follow (table : TypedefTable) (graph : TypeGraph) :
    Nat → List String → String → Except Fault Meaning
  | 0, chain, _ => .error (.cycle chain)
  | fuel + 1, chain, name =>
      match table.meaning name with
      | .error fault => .error fault
      | .ok meaning =>
          match table.nextName? graph meaning with
          | none => .ok meaning
          | some next =>
              if next ∈ chain then .error (.cycle (chain ++ [next]))
              else table.follow graph fuel (chain ++ [next]) next

/-- What a name stands for in the end.  Names on a chain are distinct and, but for
the last, declared, so no chain has more names than there are typedefs, and one. -/
def finalMeaning (table : TypedefTable) (graph : TypeGraph) (name : String) :
    Except Fault Meaning :=
  table.follow graph (table.entries.length + 1) [name] name

end TypedefTable

end HeaderBind
