/-
# HeaderBind.Text.Blank — white space and words

`isBlank` is the widest of the usual notions of white space: the controls from
tab to return and from U+001C to U+001F, the next-line and no-break characters
and all spaces of fixed width.  The zero-width space is not blank.  `words` cuts
a text at runs of blanks and never gives an empty word.
-/
import HeaderBind.Text.CodeRange

namespace HeaderBind.Text

set_option autoImplicit false

/-- White space from U+0080 on. -/
def blankRanges : List CodeRange := [
  (0x85, 0x85), (0xA0, 0xA0), (0x1680, 0x1680), (0x2000, 0x200A), (0x2028, 0x2029),
  (0x202F, 0x202F), (0x205F, 0x205F), (0x3000, 0x3000)]

def isBlank : Char → Bool :=
  inClass (fun c => (0x09 ≤ c.toNat && c.toNat ≤ 0x0D) || (0x1C ≤ c.toNat && c.toNat ≤ 0x20))
    blankRanges

/-- The maximal runs of characters that are not blank. -/
def words (cs : List Char) : List (List Char) :=
  (cs.splitOnP isBlank).filter fun word => !word.isEmpty

end HeaderBind.Text
