/-
# HeaderBind.Identifier.Numbered — names for what has none

A type that nothing ever names is numbered, its number spelled out:
`anonymous_struct_one`.  A member without a name is labelled by its position.
-/
import HeaderBind.Numeral.English

namespace HeaderBind.Identifier

set_option autoImplicit false

def numberedFromWords (kind : String) (words : List String) : String :=
  "anonymous_" ++ kind ++ "_" ++ String.intercalate "_" words

/-- The name of the `count`-th type without a name. -/
def numberedName (kind : String) (count : Nat) : String :=
  numberedFromWords kind (Numeral.English.spell count)

/-- The name for any integer that can be spelled. -/
def numberedName? (kind : String) (count : Int) : Option String :=
  (Numeral.English.spellInt? count).map (numberedFromWords kind)

/-- The empty text is no name. -/
def nonempty? (text : String) : Option String := if text = "" then none else some text

/-- A name that is there and not empty. -/
def proper? (name : Option String) : Option String := name.bind nonempty?

/-- A name that is there, or a label made from a position. -/
def labelOr (name : Option String) (index : Int) : String :=
  (proper? name).getD ("anonymous_" ++ toString index)

end HeaderBind.Identifier
