/-
# HeaderBind.CType.Display — the text of a type in messages

A type is shown with all it refers to, fields by name in brackets.  A node that
is met again while it is being shown is written `...`, so every text is finite.
-/
import HeaderBind.CType.Basic
import HeaderBind.Text.Quoted

namespace HeaderBind

set_option autoImplicit false

namespace CType.Display

def option (name : Option String) : String :=
  match name with
  | none => "None"
  | some text => Text.quote text

def flag (value : Bool) : String := if value then "True" else "False"

def list (items : List String) : String := "[" ++ String.intercalate ", " items ++ "]"

def tag (tag : Tag) : String :=
  "<TagKind." ++ tag.keyword.map Char.toUpper ++ ": " ++ Text.quote tag.keyword ++ ">"

def constant (constant : Constant) : String :=
  "EnumConstant(name=" ++ Text.quote constant.name ++ ", value=" ++ option constant.value ++ ")"

/-- A node, given how the references in it are shown. -/
def node (type : TypeRef → String) : CType → String
  | .builtin spelling => "Primitive(name=" ++ Text.quote spelling ++ ")"
  | .typedefName name => "Alias(name=" ++ Text.quote name ++ ")"
  | .uncovered spelling => "Unrecognized(spelling=" ++ Text.quote spelling ++ ")"
  | .pointer pointee => "Pointer(pointee=" ++ type pointee ++ ")"
  | .function prototype =>
      "Function(params=" ++
        list (prototype.params.map fun param =>
          "Parameter(name=" ++ option param.name ++ ", type=" ++ type param.type ++ ")") ++
        ", return_type=" ++ type prototype.result ++
        ", variadic=" ++ flag prototype.variadic ++ ")"
  | .tagged t =>
      "Named(tag=" ++ tag t.tag ++ ", name=" ++ option t.name ++
        ", members=" ++
        (match t.members with
          | none => "None"
          | some members => list (members.map fun member =>
              "Member(name=" ++ option member.name ++ ", type=" ++ type member.type ++ ")")) ++
        ", constants=" ++ list (t.constants.map constant) ++ ")"

/-- The text of a reference below the nodes of `path`. -/
def ref (graph : TypeGraph) : Nat → List NodeId → TypeRef → String
  | _, _, none => "None"
  | 0, _, some _ => "..."
  | fuel + 1, path, some id =>
      if id ∈ path then "..."
      else
        match graph.node? id with
        | none => "None"
        | some type => node (ref graph fuel (id :: path)) type

end CType.Display

/-- The text of a type in messages. -/
def TypeGraph.display (graph : TypeGraph) (type : TypeRef) : String :=
  CType.Display.ref graph (graph.size + 1) [] type

end HeaderBind
