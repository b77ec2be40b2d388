/-
# HeaderBind.Ffi.Builtin — scalar symbols for built-in types

A built-in type is spelled in words.  Qualifiers are dropped, `unsigned` becomes
a `u` in front of what follows, a last `int` after another word goes, and the
rest is joined by underscores: `const unsigned long int` is `ulong`.
-/
import HeaderBind.Text.Alphanumeric
import HeaderBind.Text.Blank

namespace HeaderBind.Ffi

set_option autoImplicit false

/-- Words that say how a value may be used, not what it is. -/
def qualifiers : List (List Char) :=
  ["const".toList, "restrict".toList, "volatile".toList, "__restrict".toList,
    "__restrict__".toList, "__const".toList, "__volatile__".toList]

/-- The words of a spelling that are no qualifiers. -/
def plainWords (spelling : List Char) : List (List Char) :=
  (Text.words spelling).filter fun word => !qualifiers.contains word

/-- A lone `unsigned` means `unsigned int`. -/
def withImpliedInt (words : List (List Char)) : List (List Char) :=
  if words = ["unsigned".toList] then ["unsigned".toList, "int".toList] else words

/-- What `unsigned ` is at a place where a word begins. -/
def unsignedLead : List Char := "unsigned ".toList

/-- Every `unsigned ` that begins a word becomes `u`; `skip` characters of one that
was found are still to be passed over, and `inWord` tells whether the character
before was a word character. -/
def fuseFrom : Nat → Bool → List Char → List Char
  | _, _, [] => []
  | skip + 1, _, c :: rest => fuseFrom skip (Text.isWordChar c) rest
  | 0, inWord, c :: rest =>
      if !inWord && unsignedLead.isPrefixOf (c :: rest) then
        'u' :: fuseFrom (unsignedLead.length - 1) (Text.isWordChar c) rest
      else c :: fuseFrom 0 (Text.isWordChar c) rest

/-- A text less the given ending, if it has it. -/
def dropEnding (ending text : List Char) : List Char :=
  if ending.isSuffixOf text then text.take (text.length - ending.length) else text

/-- The scalar symbol of a built-in type. -/
def builtinSymbolChars (spelling : List Char) : List Char :=
  let joined := List.intercalate [' '] (withImpliedInt (plainWords spelling))
  let shortened := dropEnding " int".toList (fuseFrom 0 false joined)
  let symbol := shortened.map fun c => if c = ' ' then '_' else c
  if symbol = "_Bool".toList then "bool".toList else symbol

/-- The scalar symbol of a built-in type. -/
def builtinSymbol (spelling : String) : String :=
  String.ofList (builtinSymbolChars spelling.toList)

/-- The spelling says `const char`, its two words in either order. -/
def isConstCharSpelling (spelling : String) : Bool :=
  let words := Text.words spelling.toList
  words == ["const".toList, "char".toList] || words == ["char".toList, "const".toList]

end HeaderBind.Ffi
