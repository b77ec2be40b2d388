/-
# HeaderBind.Main — the command on the real file system

The words of the command line and the files they name are handed to
`CommandLine.run`, and what it leaves behind is printed and written.  This build
has no C parser linked to it, so reading headers ends with the report that there
is no parser.
-/
import HeaderBind.CommandLine.Command

namespace HeaderBind

set_option autoImplicit false

/-- The parser of a build without one. -/
def absentParser : Clang.Parser := fun _ => .failure "no C parser is linked to this build"

/-- The files that words of a command line name, with their texts. -/
def filesNamed (directory : String) (words : List String) : IO File.Store := do
  let mut files : List (String × String) := []
  for word in words do
    match ← (IO.FS.readFile word).toBaseIO with
    | .ok text =>
        files := ((⟨directory, []⟩ : File.Store).absolute word, text) :: files
    | .error _ => pure ()
  return ⟨directory, files⟩

/-- Carries out what a run of the command leaves behind. -/
def carryOut (outcome : CommandLine.Outcome) : IO UInt32 := do
  (← IO.getStderr).putStr outcome.stderr
  for (path, text) in outcome.written do
    match ← (IO.FS.writeFile path text).toBaseIO with
    | .ok _ => pure ()
    | .error error =>
        (← IO.getStderr).putStr (CommandLine.errorText error.toString)
        return 1
  (← IO.getStdout).putStr outcome.stdout
  match outcome.ending with
  | .exit code => return code.toUInt32
  | .broken fault =>
      (← IO.getStderr).putStr (fault.message ++ "\n")
      return 1
  | .noOutput =>
      (← IO.getStderr).putStr "the output has no path\n"
      return 1

end HeaderBind

/-- Makes Ruby bindings for C headers. -/
def main (words : List String) : IO UInt32 := do
  let store ← HeaderBind.filesNamed (← IO.currentDir).toString words
  HeaderBind.carryOut (HeaderBind.CommandLine.run words store HeaderBind.absentParser)
