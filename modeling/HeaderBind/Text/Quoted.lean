/-
# HeaderBind.Text.Quoted — texts in quotation marks

A text is shown between single quotes, or between double quotes when it holds a
single quote and no double one.  The backslash, the quote in use and the controls
`\n`, `\r`, `\t` are escaped by name, every other character that is not printable
by its code point in two, four or eight hexadecimal digits.
-/
import HeaderBind.Text.Printable

namespace HeaderBind.Text

set_option autoImplicit false

/-- The last `width` hexadecimal digits of a number. -/
def hexDigits : Nat → Nat → List Char
  | 0, _ => []
  | width + 1, n => hexDigits width (n / 16) ++ [Nat.digitChar (n % 16)]

/-- A code point written with the shortest of the three numeric escapes. -/
def codeEscape (code : Nat) : List Char :=
  if code < 0x100 then '\\' :: 'x' :: hexDigits 2 code
  else if code < 0x10000 then '\\' :: 'u' :: hexDigits 4 code
  else '\\' :: 'U' :: hexDigits 8 code

/-- The quotation mark a text is shown between. -/
def quoteMark (cs : List Char) : Char :=
  if cs.contains '\'' && !cs.contains '"' then '"' else '\''

/-- One character between the given quotation marks. -/
def quoteChar (mark c : Char) : List Char :=
  if c = mark || c = '\\' then ['\\', c]
  else if c = '\n' then ['\\', 'n']
  else if c = '\r' then ['\\', 'r']
  else if c = '\t' then ['\\', 't']
  else if isPrintable c then [c]
  else codeEscape c.toNat

def quoteChars (cs : List Char) : List Char :=
  let mark := quoteMark cs
  mark :: cs.flatMap (quoteChar mark) ++ [mark]

/-- A text in quotation marks. -/
def quote (text : String) : String := String.ofList (quoteChars text.toList)

end HeaderBind.Text
