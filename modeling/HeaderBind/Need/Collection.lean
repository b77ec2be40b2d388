/-
# HeaderBind.Need.Collection — recording every type that a callable needs

To need a type is to follow pointers and typedef names to a tagged type and to
record it, after what its members use.  The records being expanded are kept in a
list: to meet one of them again behind a pointer is fine, to meet it again by
value is a cycle.
-/
import HeaderBind.Need.Expansion
import HeaderBind.Run

namespace HeaderBind

set_option autoImplicit false

/-- A tagged type, and whether a pointer was passed on the way to it. -/
structure Arrival where
  type : NodeId
  viaPointer : Bool
deriving DecidableEq, Repr

namespace Scope

/-! ## The way to a tagged type -/

/-- Where a type leads through pointers and typedef names, within `fuel` nodes. -/
def arrivalWithin (scope : Scope) (user : String) :
    Nat → Bool → TypeRef → Except Fault (Option Arrival)
  | 0, _, _ => .error .endless
  | fuel + 1, viaPointer, type =>
      match type with
      | none => .error (.unsupported type user)
      | some id =>
          match scope.graph.node? id with
          | none => .error (.unsupported none user)
          | some (.pointer pointee) =>
              match scope.graph.at? pointee with
              | none => .ok none
              | some _ => scope.arrivalWithin user fuel true pointee
          | some (.typedefName name) =>
              if name = scope.typedefs.marker then .ok none
              else
                match scope.finalMeaning name with
                | .error fault => .error fault
                | .ok .variadic => .ok none
                | .ok (.type meaning) => scope.arrivalWithin user fuel viaPointer meaning
          | some (.tagged _) => .ok (some ⟨id, viaPointer⟩)
          | some (.builtin _) => .ok none
          | some (.function _) => .ok none
          | some (.uncovered _) =>
              if viaPointer then .ok none else .error (.unsupported type user)

/-- Where a type leads.  A way that passes more nodes than there are never ends. -/
def arrival (scope : Scope) (user : String) (viaPointer : Bool) (type : TypeRef) :
    Except Fault (Option Arrival) :=
  scope.arrivalWithin user (scope.graph.size + 1) viaPointer type

/-! ## The members of a tagged type -/

/-- Collects where a type leads, if it leads to a tagged type. -/
def collectArrival (scope : Scope) (user : String) (collect : Arrival → Run Unit)
    (viaPointer : Bool) (type : TypeRef) : Run Unit := do
  match ← Run.ofExcept (scope.arrival user viaPointer type) with
  | none => return
  | some arrival => collect arrival

/-- One step of an expansion. -/
def performStep (scope : Scope) (user : String) (collect : Arrival → Run Unit) :
    ExpansionStep → Run Unit
  | .enter record => do
      let _ ← scope.nameFor record
  | .declaredOnly record => do
      let name ← scope.nameFor record
      Run.note .debug .needs ("Opaque container: " ++ name)
  | .nameInPlace child parent label => do
      let parentName ← scope.nameFor parent
      let _ ← Run.giveName child (parentName ++ "_" ++ label)
  | .use type => scope.collectArrival user collect false type

/-- Collects what the members of a record use. -/
def expandWith (scope : Scope) (user : String) (collect : Arrival → Run Unit)
    (record : NodeId) : Run Unit :=
  Run.followWalk (scope.graph.expansion user record) (scope.performStep user collect)

/-- Records a tagged type after what its members use.  `path` holds the records being
expanded, outermost first. -/
def collectWithin (scope : Scope) (user : String) : Nat → List NodeId → Arrival → Run Unit
  | 0, _, _ => throw .endless
  | fuel + 1, path, arrival => do
      let id := arrival.type
      if scope.graph.isEnum id then
        Run.addNeed id user
      else if id ∈ path then
        if arrival.viaPointer then Run.addNeed id user
        else throw (← scope.cycleThrough path id)
      else
        scope.expandWith user (scope.collectWithin user fuel (path ++ [id])) id
        Run.addNeed id user

/-- Records a tagged type, with nothing being expanded.  Records on a path are distinct,
so no path is longer than the graph. -/
def collect (scope : Scope) (user : String) (arrival : Arrival) : Run Unit :=
  scope.collectWithin user (scope.graph.size + 1) [] arrival

/-! ## Needs -/

/-- A type is needed by a user. -/
def need (scope : Scope) (type : TypeRef) (user : String) (viaPointer : Bool) : Run Unit :=
  scope.collectArrival user (scope.collect user) viaPointer type

/-- What the members of a record use is needed, but not the record itself. -/
def needMembers (scope : Scope) (record : NodeId) (user : String) : Run Unit :=
  scope.expandWith user (scope.collect user) record

end Scope

end HeaderBind
