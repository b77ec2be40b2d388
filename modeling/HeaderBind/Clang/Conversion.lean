/-
# HeaderBind.Clang.Conversion — types of a unit as nodes of a type graph

A conversion makes type nodes as it goes through a unit.  Tagged types are left to
whoever converts a type: they are shared, and a unit may refer to them in circles.
-/
import HeaderBind.CType.Basic
import HeaderBind.Clang.Unit
import HeaderBind.Journal

namespace HeaderBind.Clang

set_option autoImplicit false

/-- What keeps the declarations of a unit from being read. -/
inductive ReadFault where
  | headerNotFound (header : String)
  /-- The parser rejected a file. -/
  | rejected (file content message : String)
  /-- A tagged type whose declaration declares none. -/
  | untaggedDeclaration (kind : CursorKind)
deriving DecidableEq, Repr, Inhabited

namespace ReadFault

def message : ReadFault → String
  | .headerNotFound header => "Header file not found: " ++ header
  | .rejected file content message =>
      "Failed to parse " ++ file ++ ": " ++ message ++ "\nContent:\n" ++ content
  | .untaggedDeclaration kind => kind.name

end ReadFault

/-- The types made so far, the node of each key, and the keys whose definition has been
met. -/
structure Conversion where
  graph : TypeGraph
  nodes : List (String × NodeId)
  defined : List String
  journal : Journal
deriving Inhabited

namespace Conversion

def start (journal : Journal) : Conversion := ⟨.empty, [], [], journal⟩

/-- The key is one whose definition has been met. -/
def mark (state : Conversion) (key : String) : Conversion :=
  { state with defined := key :: state.defined }

end Conversion

/-- A step of reading a unit. -/
abbrev Convert := EStateM ReadFault Conversion

namespace Convert

def note (text : String) : Convert Unit :=
  modify fun state => { state with journal := state.journal.push ⟨.debug, .frontEnd, text⟩ }

/-- A new type node. -/
def addNode (type : CType) : Convert NodeId :=
  modifyGet fun state =>
    let (id, graph) := state.graph.add type
    (id, { state with graph })

/-- A reference to a new type node. -/
def addType (type : CType) : Convert TypeRef := do return some (← addNode type)

end Convert

/-! ## Types -/

mutual

/-- The node of a type, given those of the tagged types it refers to. -/
def typeNode (unit : SourceUnit) (tagged : Cursor → Convert NodeId) :
    SourceType → Convert TypeRef
  | .elaborated named => typeNode unit tagged named
  | .pointer pointee _ => do
      let pointee ← typeNode unit tagged pointee
      Convert.addType (.pointer pointee)
  | .typedefName declaration =>
      Convert.addType (.typedefName (unit.declaration declaration).spelling)
  | .tagged declaration => do return some (← tagged (unit.declaration declaration))
  | .prototype params result variadic _ => do
      let params ← typeNodes unit tagged params
      let result ← typeNode unit tagged result
      Convert.addType (.function ⟨params.map fun type => ⟨none, type⟩, result, variadic⟩)
  | .noPrototype result _ => do
      let result ← typeNode unit tagged result
      Convert.addType (.function ⟨[], result, false⟩)
  | .leaf kind spelling _ =>
      if kind ∈ builtinKinds then Convert.addType (.builtin spelling)
      else do
        Convert.note ("Unrecognized type: " ++ spelling ++ " (kind: TypeKind." ++ kind ++ ")")
        Convert.addType (.uncovered spelling)

/-- The nodes of a list of types, in order. -/
def typeNodes (unit : SourceUnit) (tagged : Cursor → Convert NodeId) :
    List SourceType → Convert (List TypeRef)
  | [] => return []
  | type :: rest => do
      let type ← typeNode unit tagged type
      let rest ← typeNodes unit tagged rest
      return type :: rest

end

end HeaderBind.Clang
