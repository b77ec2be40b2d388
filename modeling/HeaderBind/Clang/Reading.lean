/-
# HeaderBind.Clang.Reading — the declarations of a list of headers

All headers are parsed together, as one source that includes each of them.  An
error that the parser reports ends the reading.  Otherwise every declaration is
listed under the file it stands in, and what stands in no file is left out.
-/
import HeaderBind.Clang.Declaration
import HeaderBind.File.Path
import HeaderBind.Text.Quoted

namespace HeaderBind.Clang

set_option autoImplicit false

/-- The name of the source that includes the headers. -/
def includerName : String := "__ffigen_includer__.h"

/-- What the parser is asked to read. -/
structure ParserCall where
  arguments : List String
  source : String
deriving DecidableEq, Repr, Inhabited

inductive ParserAnswer where
  | unit (unit : SourceUnit)
  /-- There is no unit at all. -/
  | failure (message : String)
deriving Inhabited

/-- A C parser, seen from outside. -/
abbrev Parser := ParserCall → ParserAnswer

/-- The declarations of a library, with the graph of their types. -/
structure ReadLibrary where
  library : HeaderLibrary
  graph : TypeGraph
deriving Inhabited

/-- What reading headers gives: the calls of the parser, the notices, and the library
or what kept it from being read. -/
structure Reading where
  calls : List ParserCall
  journal : Journal
  outcome : Except ReadFault ReadLibrary

/-- From here on a diagnostic is an error. -/
def errorSeverity : Int := 3

/-- The first error among the diagnostics, as a fault. -/
def firstError? (store : File.Store) (source : String) (diagnostics : List Diagnostic) :
    Option ReadFault :=
  (diagnostics.find? fun diagnostic => errorSeverity ≤ diagnostic.severity).map fun diagnostic =>
    let file := diagnostic.file.getD includerName
    let content := if file = includerName then source else (store.read? file).getD ""
    .rejected file content diagnostic.spelling

/-- The files with one more declaration, in a new file if it is the first there. -/
def addDeclaration (file : String) (declaration : ExternalDeclaration) : FileTable → FileTable
  | [] => [(file, [declaration])]
  | (name, declarations) :: rest =>
      if name = file then (name, declarations ++ [declaration]) :: rest
      else (name, declarations) :: addDeclaration file declaration rest

/-- The files with one more file, unless it is there. -/
def addFile (files : FileTable) (file : String) : FileTable :=
  if (files.lookup file).isSome then files else files ++ [(file, [])]

/-- Takes a top-level cursor into the files, if it is a declaration and stands in a
file. -/
def addCursor (unit : SourceUnit) (tagged : Cursor → Convert NodeId) (files : FileTable)
    (cursor : Cursor) : Convert FileTable := do
  match cursor.file, declarationReader? cursor.kind with
  | some file, some reader =>
      let declaration ← reader unit tagged cursor
      return addDeclaration file declaration files
  | _, _ => return files

/-- The declarations of a unit by file, the requested headers first, given the nodes of
the tagged types. -/
def unitLibraryWith (unit : SourceUnit) (tagged : Cursor → Convert NodeId)
    (headers : List String) : Convert HeaderLibrary := do
  let files ← (unit.cursorsAt unit.top).foldlM (addCursor unit tagged) (headers.foldl addFile [])
  return ⟨headers, files⟩

/-- The declarations of a unit by file. -/
def unitLibrary (unit : SourceUnit) (headers : List String) : Convert HeaderLibrary :=
  unitLibraryWith unit (taggedNode unit) headers

/-- The arguments that the parser is given. -/
def parserArguments (options : List String) : List String := ["-x", "c-header"] ++ options

def parsingNotice (arguments : List String) : Notice :=
  ⟨.debug, .frontEnd,
    "Parsing with args: [" ++ String.intercalate ", " (arguments.map Text.quote) ++ "]"⟩

/-- Reads the declarations of a unit, after the parser was called. -/
def readUnit (store : File.Store) (call : ParserCall) (headers : List String)
    (answer : ParserAnswer) : Reading :=
  let journal := #[parsingNotice call.arguments]
  match answer with
  | .failure message => ⟨[call], journal, .error (.rejected includerName call.source message)⟩
  | .unit unit =>
      match firstError? store call.source unit.diagnostics with
      | some fault => ⟨[call], journal, .error fault⟩
      | none =>
          match (unitLibrary unit headers).run (.start journal) with
          | .ok library state => ⟨[call], state.journal, .ok ⟨library, state.graph⟩⟩
          | .error fault state => ⟨[call], state.journal, .error fault⟩

/-- Reads a source; `headers` tells which files bindings are wanted for. -/
def readSource (store : File.Store) (parser : Parser) (options : List String) (source : String)
    (headers : List String) : Reading :=
  let call : ParserCall := ⟨parserArguments options, source⟩
  readUnit store call headers (parser call)

/-- The source that includes each of the headers. -/
def includerSource (paths : List String) : String :=
  String.join (paths.map fun path => "#include \"" ++ path ++ "\"\n")

/-- Reads headers by their paths.  A header that does not exist ends the reading before
the parser is called. -/
def readHeaders (store : File.Store) (parser : Parser) (options headers : List String) :
    Reading :=
  match headers.find? fun header => !store.contains header with
  | some missing => ⟨[], #[], .error (.headerNotFound missing)⟩
  | none =>
      let paths := headers.map store.absolute
      readSource store parser options (includerSource paths) paths

end HeaderBind.Clang
