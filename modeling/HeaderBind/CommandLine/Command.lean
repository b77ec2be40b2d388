/-
# HeaderBind.CommandLine.Command — what the command does

The command reads headers, makes their bindings, sums up on standard output what
it made and writes the Ruby source.  Notices go to standard error, as many as the
verbosity asks for.  Nothing is written when a fault ends the run.
-/
import HeaderBind.Binding.Library
import HeaderBind.Clang.Reading
import HeaderBind.CommandLine.Parse
import HeaderBind.Ruby

namespace HeaderBind.CommandLine

set_option autoImplicit false

/-! ## Settings that depend on the headers -/

namespace Settings

/-- The options for the parser. -/
def parserOptions (settings : Settings) : List String :=
  settings.includeDirectories.map ("-I" ++ ·) ++ settings.defines.map ("-D" ++ ·)

/-- The innermost module of the first header, for a library that is given no name. -/
def headerModule (settings : Settings) : String :=
  (Identifier.headerModules (File.baseName (settings.headers.headD ""))).getLastD "Bindings"

/-- The name of the module that holds the bindings. -/
def rubyModule (settings : Settings) : String :=
  (Identifier.proper? settings.moduleName).getD settings.headerModule

/-- The native library that the bindings load. -/
def rubyLibrary (settings : Settings) : String :=
  (Identifier.proper? settings.nativeLibrary).getD
    (String.ofList (Text.lower settings.rubyModule.toList))

/-- The least level that is shown. -/
def threshold (settings : Settings) : Level :=
  match settings.verbosity with
  | 0 => .warning
  | 1 => .info
  | _ => .debug

end Settings

/-! ## Texts -/

/-- The notices of a journal that are shown, a line each. -/
def shownNotices (threshold : Level) (journal : Journal) : String :=
  String.join <|
    (journal.toList.filter fun notice => threshold.weight ≤ notice.level.weight).map fun notice =>
      notice.line ++ "\n"

def summary (bindings : Bindings) (skipped : Nat) : String :=
  let count (size : HeaderBindings → Nat) : String :=
    toString ((bindings.headers.map size).foldl (· + ·) 0)
  "\n--- Generation Summary ---\n" ++
    "Enums: " ++ toString bindings.enums.length ++
    ", Structs/Unions: " ++ toString bindings.records.length ++ "\n" ++
    "Callbacks: " ++ count (·.callbacks.length) ++
    ", Functions: " ++ count (·.functions.length) ++
    ", Skipped: " ++ toString skipped ++ "\n" ++
    "--------------------------\n"

def successText (output : String) : String :=
  "\nSuccessfully generated Ruby FFI bindings at: " ++ output ++ "\n"

def errorText (message : String) : String := "An error occurred: " ++ message ++ "\n"

def usageErrorText (error : UsageError) : String :=
  usageText ++ programName ++ ": error: " ++ error.message ++ "\n"

/-! ## The command -/

/-- How the command ends. -/
inductive Ending where
  | exit (code : Nat)
  /-- A unit that no C parser makes. -/
  | broken (fault : Clang.ReadFault)
  /-- An output without a path. -/
  | noOutput
deriving DecidableEq, Repr

/-- All that a run of the command leaves behind. -/
structure Outcome where
  ending : Ending
  stdout : String
  stderr : String
  written : List (String × String)
  calls : List Clang.ParserCall
deriving Repr

/-- The end of a run whose headers were read. -/
def bindFrom (settings : Settings) (read : Clang.ReadLibrary)
    (calls : List Clang.ParserCall) (notices : String) : Outcome :=
  let shown (workspace : Workspace) : String :=
    notices ++ shownNotices settings.threshold workspace.ledger.journal
  match (read.library.bind settings.skipUnsupported).run
      (.start read.graph TypedefTable.standardMarker) with
  | .error fault workspace =>
      let message := fault.message workspace.scope.graph
      ⟨.exit 1, "", shown workspace ++ errorText message, [], calls⟩
  | .ok bindings workspace =>
      let summary := summary bindings workspace.ledger.skipped.length
      match settings.output with
      | none => ⟨.noOutput, summary, shown workspace, [], calls⟩
      | some path =>
          ⟨.exit 0, summary ++ successText path, shown workspace,
            [(path, Ruby.source bindings settings.rubyModule settings.rubyLibrary)], calls⟩

/-- A run with the given settings. -/
def runWith (settings : Settings) (store : File.Store) (parser : Clang.Parser) : Outcome :=
  let reading := Clang.readHeaders store parser settings.parserOptions settings.headers
  let notices := shownNotices settings.threshold reading.journal
  match reading.outcome with
  | .ok read => bindFrom settings read reading.calls notices
  | .error (.untaggedDeclaration kind) =>
      ⟨.broken (.untaggedDeclaration kind), "", notices, [], reading.calls⟩
  | .error fault => ⟨.exit 1, "", notices ++ errorText fault.message, [], reading.calls⟩

/-- A run of the command with the words of its command line. -/
def run (words : List String) (store : File.Store) (parser : Clang.Parser) : Outcome :=
  match parse words with
  | .error .help => ⟨.exit 0, helpText, "", [], []⟩
  | .error (.usage error) => ⟨.exit 2, "", usageErrorText error, [], []⟩
  | .ok settings => runWith settings store parser

end HeaderBind.CommandLine
