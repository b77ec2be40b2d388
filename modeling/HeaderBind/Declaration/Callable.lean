/-
# HeaderBind.Declaration.Callable — the functions and callbacks of a file

A declarator that is a function declares one; a typedef of a pointer to a
function declares a callback.  Functions with a body, variables, typedefs of
function types and variables that point to functions declare neither.  A sole
parameter `void` means that there are none.
-/
import HeaderBind.CType.Spine
import HeaderBind.Declaration.Basic
import HeaderBind.Journal
import HeaderBind.Text.Blank

namespace HeaderBind

set_option autoImplicit false

/-- A function or callback as it is declared. -/
structure Callable where
  name : String
  params : List TypeRef
  result : TypeRef
  /-- More arguments may follow the parameters. -/
  variadic : Bool
  isCallback : Bool
deriving DecidableEq, Repr, Inhabited

namespace TypeGraph

/-- The type is the built-in `void`. -/
def isVoid (graph : TypeGraph) (type : TypeRef) : Bool :=
  match graph.at? type with
  | some (.builtin spelling) => Text.words spelling.toList == ["void".toList]
  | _ => false

/-- The types of the parameters that a prototype stands for. -/
def paramTypes (graph : TypeGraph) (prototype : Prototype) : List TypeRef :=
  match prototype.params with
  | [only] => if graph.isVoid only.type then [] else [only.type]
  | params => params.map Parameter.type

/-- The prototype of a function type. -/
def prototype? (graph : TypeGraph) (type : TypeRef) : Option Prototype :=
  match graph.at? type with
  | some (.function prototype) => some prototype
  | _ => none

/-- The function type that a pointer type leads to. -/
def pointedFunction? (graph : TypeGraph) (type : TypeRef) : Option TypeRef :=
  match graph.at? type with
  | some (.pointer pointee) => if (graph.prototype? pointee).isSome then some pointee else none
  | _ => none

/-- The callable that a function type makes under a name. -/
def callable? (graph : TypeGraph) (name : String) (function : TypeRef) (isCallback : Bool) :
    Option Callable :=
  (graph.prototype? function).map fun prototype => {
    name
    params := graph.paramTypes prototype
    result := prototype.result
    variadic := prototype.variadic
    isCallback }

end TypeGraph

/-- The callables found so far, and the graph with the types of their declarators
assembled. -/
structure CallableScan where
  graph : TypeGraph
  functions : List Callable
  callbacks : List Callable
  journal : Journal
deriving Inhabited

namespace CallableScan

/-- Nothing is found yet. -/
def start (graph : TypeGraph) : CallableScan := ⟨graph, [], [], #[]⟩

def note (scan : CallableScan) (text : String) : CallableScan :=
  { scan with journal := scan.journal.push ⟨.debug, .callables, text⟩ }

/-- Takes the function that a declarator declares. -/
def addFunction (scan : CallableScan) (base : TypeRef) (declarator : Declarator) :
    CallableScan :=
  let graph := (scan.graph.assemble declarator.type base).2
  let found := graph.callable? declarator.name declarator.type false
  { scan.note ("Found function: " ++ declarator.name) with
    graph
    functions := scan.functions ++ found.toList }

/-- Takes the callback that a declarator of a pointer to `function` declares. -/
def addCallback (scan : CallableScan) (base : TypeRef) (declarator : Declarator)
    (function : TypeRef) : CallableScan :=
  let graph := (scan.graph.assemble declarator.type base).2
  let found := graph.callable? declarator.name function true
  { scan.note ("Found callback: " ++ declarator.name) with
    graph
    callbacks := scan.callbacks ++ found.toList }

/-- Takes what one declarator declares. -/
def addDeclarator (base : TypeRef) (isTypedef : Bool) (scan : CallableScan)
    (declarator : Declarator) : CallableScan :=
  if (scan.graph.prototype? declarator.type).isSome then
    if isTypedef then scan else scan.addFunction base declarator
  else
    match scan.graph.pointedFunction? declarator.type with
    | some function => if isTypedef then scan.addCallback base declarator function else scan
    | none => scan

/-- Takes what stands outside all function bodies. -/
def addExternal (scan : CallableScan) : ExternalDeclaration → CallableScan
  | .functionBody _ _ => scan
  | .declaration base declarators isTypedef =>
      declarators.foldl (addDeclarator base isTypedef) scan

end CallableScan

namespace TypeGraph

/-- The functions and callbacks that a file declares, in order. -/
def scanCallables (graph : TypeGraph) (declarations : List ExternalDeclaration) : CallableScan :=
  declarations.foldl CallableScan.addExternal (.start graph)

end TypeGraph

end HeaderBind
