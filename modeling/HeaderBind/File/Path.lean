/-
# HeaderBind.File.Path — absolute paths and the files they name

A path is a text with slashes.  A path that does not begin with one is relative
to the working directory; the absolute form of a path has no empty, `.` or `..`
segments left that could be taken away.
-/
namespace HeaderBind.File

set_option autoImplicit false

/-! ## Normal forms -/

/-- The slashes that an absolute path keeps in front: two if there are exactly two,
else one. -/
def rootOf : List Char → List Char
  | '/' :: '/' :: '/' :: _ => ['/']
  | '/' :: '/' :: _ => ['/', '/']
  | '/' :: _ => ['/']
  | _ => []

/-- Takes one more segment; `kept` holds those before it, the last one first.  A `..`
takes the last segment away, but for another `..` and above a relative start. -/
def takeSegment (isRooted : Bool) (kept : List (List Char)) (segment : List Char) :
    List (List Char) :=
  if segment = [] || segment = ['.'] then kept
  else if segment = ['.', '.'] then
    match kept with
    | [] => if isRooted then [] else [segment]
    | last :: before => if last = ['.', '.'] then segment :: kept else before
  else segment :: kept

/-- The segments of a path in normal form. -/
def normalSegments (path : List Char) : List (List Char) :=
  ((path.splitOn '/').foldl (takeSegment (!(rootOf path).isEmpty)) []).reverse

def normalizeChars (path : List Char) : List Char :=
  let normal := rootOf path ++ List.intercalate ['/'] (normalSegments path)
  if normal = [] then ['.'] else normal

/-- A path seen from a directory. -/
def joinChars (directory path : List Char) : List Char :=
  if path.head? = some '/' then path
  else if directory = [] || directory.getLast? = some '/' then directory ++ path
  else directory ++ '/' :: path

/-- What follows the last slash of a path. -/
def baseName (path : String) : String :=
  String.ofList (path.toList.reverse.takeWhile fun c => c ≠ '/').reverse

/-! ## Files -/

/-- The working directory and the texts of the files, by absolute path. -/
structure Store where
  directory : String
  files : List (String × String)
deriving Repr, Inhabited

namespace Store

/-- The absolute form of a path. -/
def absolute (store : Store) (path : String) : String :=
  String.ofList (normalizeChars (joinChars store.directory.toList path.toList))

/-- The text of the file at a path. -/
def read? (store : Store) (path : String) : Option String :=
  store.files.lookup (store.absolute path)

def contains (store : Store) (path : String) : Bool := (store.read? path).isSome

end Store

end HeaderBind.File
