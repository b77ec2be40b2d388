/-
# HeaderBind.CommandLine.Setting — what the command can be told

The options of the command line with their spellings, the settings they make, and
the texts that explain them.
-/
namespace HeaderBind.CommandLine

set_option autoImplicit false

/-- An option of the command line. -/
inductive CommandOption where
  | help
  | output
  | includeDirectory
  | define
  | moduleName
  | nativeLibrary
  | skipUnsupported
  | verbose
deriving DecidableEq, Repr, Inhabited

namespace CommandOption

/-- The spellings of an option, a short one first. -/
def spellings : CommandOption → List String
  | help => ["-h", "--help"]
  | output => ["-o", "--output"]
  | includeDirectory => ["-I"]
  | define => ["-D"]
  | moduleName => ["--module"]
  | nativeLibrary => ["--ffi-lib"]
  | skipUnsupported => ["--skip-unsupported"]
  | verbose => ["-v", "--verbose"]

/-- The option is followed by a value. -/
def takesValue : CommandOption → Bool
  | output => true
  | includeDirectory => true
  | define => true
  | moduleName => true
  | nativeLibrary => true
  | _ => false

/-- All options, in the order in which they are explained. -/
def all : List CommandOption :=
  [help, output, includeDirectory, define, moduleName, nativeLibrary, skipUnsupported, verbose]

/-- Every spelling with its option. -/
def table : List (String × CommandOption) :=
  all.flatMap fun option => option.spellings.map fun spelling => (spelling, option)

/-- The option of an exact spelling. -/
def ofSpelling? (spelling : String) : Option CommandOption := table.lookup spelling

/-- What an option is called in messages. -/
def title (option : CommandOption) : String := String.intercalate "/" option.spellings

end CommandOption

/-- The word that ends the options. -/
def separator : String := "--"

/-- The value that a text gives to an option.  The separator is taken off even where it
is attached to an option, and nothing is left. -/
def valueOf (text : String) : Option String := if text = separator then none else some text

/-- What a command line asks for. -/
structure Settings where
  headers : List String
  /-- The path of the output, if it has one. -/
  output : Option String
  includeDirectories : List String
  defines : List String
  moduleName : Option String
  nativeLibrary : Option String
  skipUnsupported : Bool
  verbosity : Nat
deriving DecidableEq, Repr, Inhabited

namespace Settings

/-- What holds where the command line says nothing. -/
def standard : Settings := ⟨[], some "bindings.rb", [], [], none, none, false, 0⟩

/-- A value as the parser is told of it: what is not there is written as an empty list. -/
def listed (value : Option String) : String := value.getD "[]"

/-- The settings with one more option and its value, if it has one. -/
def apply (settings : Settings) (option : CommandOption) (value : Option String) : Settings :=
  match option with
  | .help => settings
  | .output => { settings with output := value }
  | .includeDirectory =>
      { settings with includeDirectories := settings.includeDirectories ++ [listed value] }
  | .define => { settings with defines := settings.defines ++ [listed value] }
  | .moduleName => { settings with moduleName := value }
  | .nativeLibrary => { settings with nativeLibrary := value }
  | .skipUnsupported => { settings with skipUnsupported := true }
  | .verbose => { settings with verbosity := settings.verbosity + 1 }

end Settings

/-- What is wrong with a command line. -/
inductive UsageError where
  /-- An abbreviation that several options could be meant by. -/
  | ambiguous (word : String) (candidates : List String)
  | missingValue (option : CommandOption)
  /-- A value for an option that takes none. -/
  | unwantedValue (option : CommandOption) (quoted : String)
  | missingHeaders
  | unrecognized (words : List String)
deriving DecidableEq, Repr, Inhabited

namespace UsageError

def message : UsageError → String
  | ambiguous word candidates =>
      "ambiguous option: " ++ word ++ " could match " ++ String.intercalate ", " candidates
  | missingValue option => "argument " ++ option.title ++ ": expected one argument"
  | unwantedValue option quoted =>
      "argument " ++ option.title ++ ": ignored explicit argument " ++ quoted
  | missingHeaders => "the following arguments are required: headers"
  | unrecognized words => "unrecognized arguments: " ++ String.intercalate " " words

end UsageError

/-! ## Texts -/

/-- The name of the command. -/
def programName : String := "ffigen"

/-- Every line is ended by a line end. -/
def textOfLines (lines : List String) : String := String.join (lines.map (· ++ "\n"))

def usageLines : List String := [
  "usage: ffigen [-h] [-o OUTPUT] [-I INCLUDE_DIRS] [-D DEFINES]",
  "              [--module MODULE] [--ffi-lib FFI_LIB] [--skip-unsupported] [-v]",
  "              headers [headers ...]"]

def helpLines : List String := usageLines ++ [
  "",
  "Generate Ruby FFI bindings from C header files.",
  "",
  "positional arguments:",
  "  headers               C header files to bind.",
  "",
  "options:",
  "  -h, --help            show this help message and exit",
  "  -o OUTPUT, --output OUTPUT",
  "                        Path to the output Ruby file (default: bindings.rb).",
  "  -I INCLUDE_DIRS       Add a directory to the Clang include path (e.g.,",
  "                        -I/usr/include).",
  "  -D DEFINES            Define a preprocessor macro (e.g., -DNDEBUG).",
  "  --module MODULE       Name of the generated Ruby module (default: from the",
  "                        first header).",
  "  --ffi-lib FFI_LIB     Library name passed to ffi_lib (default: module name,",
  "                        lower-cased).",
  "  --skip-unsupported    Skip declarations using unsupported types instead of",
  "                        failing.",
  "  -v, --verbose"]

def usageText : String := textOfLines usageLines

def helpText : String := textOfLines helpLines

end HeaderBind.CommandLine
