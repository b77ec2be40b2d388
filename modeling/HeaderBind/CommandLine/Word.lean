/-
# HeaderBind.CommandLine.Word — which words of a command line are options

A word that begins with a dash is an option if it spells one, abbreviates exactly
one long one, or holds a short one with its value attached.  A value may be
attached after an equals sign.  Other words with a dash are unknown options,
except a single dash, negative numbers and what has a space in it.  After the
word `--` there are no options.
-/
import HeaderBind.CommandLine.Setting
import HeaderBind.Text.Digit

namespace HeaderBind.CommandLine

set_option autoImplicit false

/-- The reading of a word. -/
inductive Word where
  | argument
  /-- The word that ends the options. -/
  | separator
  | unknownOption
  /-- An option, with what is attached to it; a short one takes up one letter. -/
  | option (option : CommandOption) (isShort : Bool) (attached : Option (List Char))
deriving DecidableEq, Repr

/-- A word cut at its first equals sign. -/
def cutAtEquals (word : List Char) : List Char × Option (List Char) :=
  let name := word.takeWhile fun c => c ≠ '='
  match word.dropWhile fun c => c ≠ '=' with
  | [] => (name, none)
  | _ :: value => (name, some value)

def isLong (spelling : List Char) : Bool := ['-', '-'].isPrefixOf spelling

/-- The long options that begin like a text. -/
def abbreviated (start : List Char) : List (String × CommandOption) :=
  CommandOption.table.filter fun entry => start.isPrefixOf entry.1.toList

/-- A dash with digits, or with digits around one point that has some after it. -/
def isNegativeNumber (word : List Char) : Bool :=
  match word with
  | '-' :: rest =>
      let digits := if rest.getLast? = some '\n' then rest.dropLast else rest
      match digits.dropWhile Text.isDecimal with
      | [] => !digits.isEmpty
      | '.' :: fraction => !fraction.isEmpty && fraction.all Text.isDecimal
      | _ => false
  | _ => false

/-- The reading of a word with a dash that spells no option. -/
def readUnspelled (word : List Char) : Word :=
  if isNegativeNumber word || word.contains ' ' then .argument else .unknownOption

/-- The reading of a long option that may be abbreviated. -/
def readLong (word : List Char) : Except UsageError Word :=
  let (start, value) := cutAtEquals word
  match abbreviated start with
  | [] => .ok (readUnspelled word)
  | [(_, option)] => .ok (.option option false value)
  | several => .error (.ambiguous (String.ofList word) (several.map (·.1)))

/-- The reading of a short option with something attached. -/
def readShort (word : List Char) : Word :=
  match CommandOption.ofSpelling? (String.ofList (word.take 2)) with
  | some option => .option option true (some (word.drop 2))
  | none => readUnspelled word

/-- The reading of one word before the separator. -/
def readWord (text : String) : Except UsageError Word :=
  let word := text.toList
  match word with
  | '-' :: _ :: _ =>
      match CommandOption.ofSpelling? text with
      | some option => .ok (.option option (!isLong word) none)
      | none =>
          let (name, value) := cutAtEquals word
          match value, CommandOption.ofSpelling? (String.ofList name) with
          | some value, some option => .ok (.option option (!isLong word) (some value))
          | _, _ => if isLong word then readLong word else .ok (readShort word)
  | _ => .ok .argument

/-- The readings of all words. -/
def readWords : List String → Except UsageError (List (String × Word))
  | [] => .ok []
  | text :: rest =>
      if text = separator then
        .ok ((text, .separator) :: rest.map fun argument => (argument, .argument))
      else
        match readWord text with
        | .error error => .error error
        | .ok word =>
            match readWords rest with
            | .error error => .error error
            | .ok words => .ok ((text, word) :: words)

end HeaderBind.CommandLine
