/-
# HeaderBind.Workspace — the state of one run, types and typedefs included

Reading declarations assembles types and declares typedefs; making bindings only
uses them.  A `Work` may do both.
-/
import HeaderBind.CType.Spine
import HeaderBind.Declaration.Basic
import HeaderBind.Run

namespace HeaderBind

set_option autoImplicit false

structure Workspace where
  scope : Scope
  ledger : Ledger
deriving Inhabited

namespace Workspace

/-- A fresh run over the types of a graph. -/
def start (graph : TypeGraph) (marker : String) : Workspace :=
  ⟨⟨graph, .seeded marker⟩, .empty⟩

def note (workspace : Workspace) (level : Level) (reporter : Reporter) (text : String) :
    Workspace :=
  { workspace with
    ledger := { workspace.ledger with
      journal := workspace.ledger.journal.push ⟨level, reporter, text⟩ } }

def withGraph (workspace : Workspace) (graph : TypeGraph) : Workspace :=
  { workspace with scope := { workspace.scope with graph } }

/-! ## Typedefs -/

/-- A type without a name of its own takes the name of a typedef of it. -/
def nameByTypedef (workspace : Workspace) (name : String) (type : TypeRef) : Workspace :=
  match type with
  | none => workspace
  | some id =>
      if (workspace.scope.graph.tagged? id).any fun tagged => tagged.ownName?.isNone then
        { workspace with
          ledger := { workspace.ledger with
            names := (workspace.ledger.names.give id name).2 } }
      else workspace

def withTypedef (workspace : Workspace) (name : String) (type : TypeRef) : Workspace :=
  { workspace with
    scope := { workspace.scope with typedefs := workspace.scope.typedefs.declare name type } }

/-- Declares a typedef.  The variadic marker cannot be declared anew. -/
def declareTypedef (workspace : Workspace) (name : String) (type : TypeRef) : Workspace :=
  if name = workspace.scope.typedefs.marker then
    workspace.note .debug .typedefs ("Keeping seeded variadic marker '" ++ name ++ "'")
  else
    ((workspace.nameByTypedef name type).withTypedef name type).note .debug .typedefs
      ("Found typedef: " ++ name)

/-- Declares the typedef of a declarator, its type assembled. -/
def readDeclarator (base : TypeRef) (workspace : Workspace) (declarator : Declarator) :
    Workspace :=
  let (type, graph) := workspace.scope.graph.assemble declarator.type base
  (workspace.withGraph graph).declareTypedef declarator.name type

/-- Declares the typedefs of one declaration. -/
def readExternal (workspace : Workspace) : ExternalDeclaration → Workspace
  | .declaration base declarators true => declarators.foldl (readDeclarator base) workspace
  | .declaration _ _ false => workspace
  | .functionBody _ _ => workspace

/-- Declares the typedefs of a file. -/
def readTypedefs (workspace : Workspace) (declarations : List ExternalDeclaration) : Workspace :=
  declarations.foldl readExternal workspace

end Workspace

/-- A computation on a workspace that may end with a fault. -/
abbrev Work := EStateM Fault Workspace

namespace Work

/-- A computation on the ledger, in the scope as it is. -/
def inScope {α : Type} (computation : Scope → Run α) : Work α := fun workspace =>
  match (computation workspace.scope).run workspace.ledger with
  | .ok value ledger => .ok value { workspace with ledger }
  | .error fault ledger => .error fault { workspace with ledger }

end Work

end HeaderBind
