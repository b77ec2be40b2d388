/-
# HeaderBind.Identifier.HeaderModules — the nested modules of a header

The path of a header, less the directories that system headers are installed
under and less its extension, gives the names of the nested modules that hold
its declarations: `/usr/include/sys/stat.h` gives `Sys` and `Stat`.
-/
import HeaderBind.Identifier.Case
import HeaderBind.Text.Alphanumeric

namespace HeaderBind.Identifier

set_option autoImplicit false

/-! ## Identifiers -/

/-- Every character that is not alphanumeric, an underscore or a slash becomes an
underscore. -/
def cleanChars (cs : List Char) : List Char :=
  cs.map fun c => if Text.isAlphanumeric c || c == '_' || c == '/' then c else '_'

/-- An underscore guards a leading digit. -/
def guardDigit : List Char → List Char
  | [] => []
  | c :: rest => if Text.isDigit c then '_' :: c :: rest else c :: rest

def toIdentifierChars (cs : List Char) : List Char := guardDigit (cleanChars cs)

/-- A text made into an identifier, its slashes kept. -/
def toIdentifier (text : String) : String := String.ofList (toIdentifierChars text.toList)

/-! ## Paths -/

/-- The directories that headers are installed under. -/
def installDirectories : List (List Char) :=
  ["usr".toList, "local".toList, "lib".toList, "include".toList, "Library".toList, "opt".toList]

/-- Drops the leading install directories, as long as another segment follows. -/
def dropInstall : List (List Char) → List (List Char)
  | segment :: next :: more =>
      if installDirectories.contains segment then dropInstall (next :: more)
      else segment :: next :: more
  | segments => segments

/-- The path of a header relative to where headers are installed; a path that is
not absolute is kept. -/
def relativeToInstall : List Char → List Char
  | '/' :: rest => List.intercalate ['/'] (dropInstall (rest.splitOn '/'))
  | path => path

/-- A last dot with word characters after it, and nothing else, is an extension. -/
def dropExtensionOf (path : List Char) : List Char :=
  let reversed := path.reverse
  match reversed.dropWhile Text.isWordChar with
  | '.' :: stem => if (reversed.takeWhile Text.isWordChar).isEmpty then path else stem.reverse
  | _ => path

/-- A path without its extension; one line end after the extension stays. -/
def dropExtension (path : List Char) : List Char :=
  if path.getLast? = some '\n' then dropExtensionOf path.dropLast ++ ['\n']
  else dropExtensionOf path

/-- Both kinds of path separators as slashes. -/
def withSlashes (path : List Char) : List Char :=
  path.map fun c => if c = '\\' then '/' else c

def headerModulesChars (path : List Char) : List (List Char) :=
  let stem := dropExtension (relativeToInstall (withSlashes path))
  (camelSegments (toIdentifierChars (snakeCaseChars stem))).filter fun name => !name.isEmpty

/-- The names of the nested modules of a header, outermost first. -/
def headerModules (header : String) : List String :=
  (headerModulesChars header.toList).map String.ofList

end HeaderBind.Identifier
