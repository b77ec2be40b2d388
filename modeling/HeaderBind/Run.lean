/-
# HeaderBind.Run — computations that name types and record what is needed

What such a computation reads and never changes is its `Scope`: the type graph
and the typedefs.  What it changes is the `Ledger`: names given, types needed,
callables skipped and notices.  A fault ends it, and what it did to the ledger
until then stays.
-/
import HeaderBind.Journal
import HeaderBind.Need.Table
import HeaderBind.TypeName.Table
import HeaderBind.Typedef.Meaning
import HeaderBind.Walk

namespace HeaderBind

set_option autoImplicit false

/-- The types and typedefs that a computation reads. -/
structure Scope where
  graph : TypeGraph
  typedefs : TypedefTable
deriving Inhabited

/-- What a run has done so far. -/
structure Ledger where
  names : NameTable
  needs : NeedTable
  skipped : List String
  journal : Journal
deriving Inhabited

namespace Ledger

def empty : Ledger := ⟨.empty, .empty, [], #[]⟩

end Ledger

/-- A computation on a ledger that may end with a fault. -/
abbrev Run := EStateM Fault Ledger

namespace Run

def note (level : Level) (reporter : Reporter) (text : String) : Run Unit :=
  modify fun ledger => { ledger with journal := ledger.journal.push ⟨level, reporter, text⟩ }

/-- The value of a result, or its fault. -/
def ofExcept {α : Type} : Except Fault α → Run α
  | .ok value => pure value
  | .error fault => throw fault

/-- Gives a type a name unless it was given one before; the name that holds. -/
def giveName (id : NodeId) (name : String) : Run String :=
  modifyGet fun ledger =>
    let (held, names) := ledger.names.give id name
    (held, { ledger with names })

/-- Records that a type has a user. -/
def addNeed (id : NodeId) (user : String) : Run Unit :=
  modify fun ledger => { ledger with needs := ledger.needs.add id user }

/-- Follows a walk, and ends with its fault if it has one. -/
def followWalk {α : Type} (walk : Walk α) (perform : α → Run Unit) : Run Unit := do
  walk.items.forM perform
  match walk.fault with
  | none => return
  | some fault => throw fault

end Run

namespace Scope

/-- The name of a tagged type; what is no tagged type has the empty name. -/
def nameFor (scope : Scope) (id : NodeId) : Run String :=
  match scope.graph.tagged? id with
  | none => pure ""
  | some type =>
      modifyGet fun ledger =>
        let (name, names) := ledger.names.nameFor id type
        (name, { ledger with names })

/-- What a typedef name stands for in the end. -/
def finalMeaning (scope : Scope) (name : String) : Except Fault Meaning :=
  scope.typedefs.finalMeaning scope.graph name

/-- The fault of records that lead back to `id` along `path`. -/
def cycleThrough (scope : Scope) (path : List NodeId) (id : NodeId) : Run Fault := do
  let names ← path.mapM scope.nameFor
  let last ← scope.nameFor id
  return .cycle (names ++ [last])

end Scope

end HeaderBind
