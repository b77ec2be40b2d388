/-
# HeaderBind.Binding.Library — the bindings of a whole library

First every typedef is read.  Then, header by header, the callbacks and the
functions are bound, which tells the types they need.  Last, the needed types
are bound.
-/
import HeaderBind.Binding.Callable
import HeaderBind.Binding.Enum
import HeaderBind.Binding.Header
import HeaderBind.Binding.Record
import HeaderBind.Workspace

namespace HeaderBind

set_option autoImplicit false

/-- The callables of one header, bound but not yet put into modules. -/
structure BoundHeader where
  header : String
  callbacks : List CallableBinding
  functions : List CallableBinding
deriving Inhabited

namespace BoundHeader

def toBindings (bound : BoundHeader) : HeaderBindings :=
  .ofCallables bound.header bound.callbacks bound.functions

end BoundHeader

namespace Workspace

/-- The workspace after the callables of a header are found. -/
def afterScan (workspace : Workspace) (header : String) (scan : CallableScan) : Workspace :=
  let noted : Workspace :=
    { workspace with
      ledger := { workspace.ledger with journal := workspace.ledger.journal ++ scan.journal } }
  (noted.withGraph scan.graph).note .info .run
    (header ++ ": " ++ toString scan.functions.length ++ " functions, " ++
      toString scan.callbacks.length ++ " callbacks")

end Workspace

namespace HeaderLibrary

/-- The workspace with the typedefs of all files. -/
def readTypedefs (library : HeaderLibrary) (workspace : Workspace) : Workspace :=
  library.files.foldl (fun state file => state.readTypedefs file.2) workspace

/-- Binds the callables of one header, callbacks first. -/
def bindHeader (library : HeaderLibrary) (skipUnsupported : Bool) (header : String) :
    Work BoundHeader := do
  let scan := (← get).scope.graph.scanCallables (library.declarations header)
  modify fun workspace => workspace.afterScan header scan
  let callbacks ← Work.inScope fun scope => scope.bindAll skipUnsupported scan.callbacks
  let functions ← Work.inScope fun scope => scope.bindAll skipUnsupported scan.functions
  return ⟨header, callbacks, functions⟩

/-- Binds the callables of all headers, after all typedefs are read. -/
def bindHeaders (library : HeaderLibrary) (skipUnsupported : Bool) : Work (List BoundHeader) := do
  modify library.readTypedefs
  library.headers.mapM (library.bindHeader skipUnsupported)

/-- Makes the bindings of a library. -/
def bind (library : HeaderLibrary) (skipUnsupported : Bool) : Work Bindings := do
  let bound ← library.bindHeaders skipUnsupported
  let enums ← Work.inScope Scope.bindEnums
  let records ← Work.inScope Scope.bindRecords
  return ⟨enums, records, bound.map BoundHeader.toBindings⟩

end HeaderLibrary

end HeaderBind
