/-
# HeaderBind.Text.Search — whether one text stands inside another
-/
namespace HeaderBind.Text

set_option autoImplicit false

/-- The part stands somewhere in the text. -/
def occursIn (part : List Char) : List Char → Bool
  | [] => part.isEmpty
  | c :: rest => part.isPrefixOf (c :: rest) || occursIn part rest

end HeaderBind.Text
