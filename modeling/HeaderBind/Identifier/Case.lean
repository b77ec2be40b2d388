/-
# HeaderBind.Identifier.Case — snake case and camel case

`snakeCase` opens the words of a camel-case name with underscores and makes it
small: `HTTPServer` is `http_server`.  `camelCase` closes them up with capitals:
`my_point` is `MyPoint`.  A slash in the argument of `camelCase` separates
segments, which come out joined by `::`.
-/
import HeaderBind.Text.Digit
import HeaderBind.Text.Lower
import HeaderBind.Text.Upper

namespace HeaderBind.Identifier

set_option autoImplicit false

/-! ## Snake case -/

/-- A capital opens a word after a small letter or a digit, and as the last of
several capitals when a small letter follows. -/
def opensWord (before : Option Char) (c : Char) (next : Option Char) : Bool :=
  match before with
  | none => false
  | some b => c.isUpper && (b.isLower || Text.isDecimal b || (b.isUpper && next.any Char.isLower))

/-- An underscore in front of every capital that opens a word. -/
def separateFrom (before : Option Char) : List Char → List Char
  | [] => []
  | c :: rest =>
      (if opensWord before c rest.head? then ['_', c] else [c]) ++ separateFrom (some c) rest

def snakeCaseChars (cs : List Char) : List Char :=
  Text.lower ((separateFrom none cs).map fun c => if c = '-' then '_' else c)

/-- The snake-case form of a name. -/
def snakeCase (name : String) : String := String.ofList (snakeCaseChars name.toList)

/-! ## Camel case -/

/-- The first character in its capital form, the others as they are. -/
def capitalize : List Char → List Char
  | [] => []
  | c :: rest => Text.upper c ++ rest

/-- The words between underscores, each with a capital, run together. -/
def camelCaseSegment (cs : List Char) : List Char := (cs.splitOn '_').flatMap capitalize

/-- The camel-case forms of the segments between slashes. -/
def camelSegments (cs : List Char) : List (List Char) :=
  (cs.splitOn '/').map camelCaseSegment

def camelCaseChars (cs : List Char) : List Char := List.intercalate [':', ':'] (camelSegments cs)

/-- The camel-case form of a name, with `::` for each slash. -/
def camelCase (name : String) : String := String.ofList (camelCaseChars name.toList)

end HeaderBind.Identifier
