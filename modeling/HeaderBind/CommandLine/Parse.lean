/-
# HeaderBind.CommandLine.Parse — the settings that a command line makes

Words are read from the left.  The first run of arguments between options is the
list of headers, and later runs are not recognized.  An option that takes a value
takes what is attached to it, else the next word, which must be an argument.
What is attached to a short option without a value must be more short options.
-/
import HeaderBind.CommandLine.Word
import HeaderBind.Text.Quoted

namespace HeaderBind.CommandLine

set_option autoImplicit false

/-- Why no settings are made. -/
inductive Stop where
  /-- Help was asked for. -/
  | help
  | usage (error : UsageError)
deriving DecidableEq, Repr

/-! ## Options that share a word -/

/-- What one word with options asks for. -/
structure Cluster where
  /-- Options that stand without a value. -/
  flags : List CommandOption
  /-- A last option that takes a value, and the text of the value if it is attached. -/
  valued : Option (CommandOption × Option String)
deriving DecidableEq, Repr

namespace Cluster

/-- A single option with nothing attached. -/
def single (option : CommandOption) : Cluster :=
  if option.takesValue then ⟨[], some (option, none)⟩ else ⟨[option], none⟩

/-- An option that takes a value, with the value attached. -/
def withValue (option : CommandOption) (value : List Char) : Cluster :=
  ⟨[], some (option, some (String.ofList value))⟩

def withFlag (option : CommandOption) (cluster : Cluster) : Cluster :=
  { cluster with flags := option :: cluster.flags }

/-- The option that a letter stands for. -/
def ofLetter? (letter : Char) : Option CommandOption :=
  CommandOption.ofSpelling? (String.ofList ['-', letter])

def unwanted {α : Type} (option : CommandOption) (value : List Char) : Except UsageError α :=
  .error (.unwantedValue option (Text.quote (String.ofList value)))

/-- What a short option with a text attached asks for.  A flag takes no value: what is
attached to it, directly or after an equals sign, are more options. -/
def ofShort (option : CommandOption) : List Char → Except UsageError Cluster
  | [] => if option.takesValue then .ok (withValue option []) else unwanted option []
  | letter :: more =>
      if option.takesValue then .ok (withValue option (letter :: more))
      else
        match ofLetter? letter with
        | none => unwanted option (letter :: more)
        | some next =>
            match more with
            | [] => .ok (withFlag option (single next))
            | c :: rest => (ofShort next (c :: rest)).map (withFlag option)

/-- What a long option with a value attached asks for. -/
def ofLong (option : CommandOption) (value : List Char) : Except UsageError Cluster :=
  if option.takesValue then .ok (withValue option value) else unwanted option value

/-- What the word of an option asks for. -/
def ofWord (option : CommandOption) (isShort : Bool) :
    Option (List Char) → Except UsageError Cluster
  | none => .ok (single option)
  | some attached => if isShort then ofShort option attached else ofLong option attached

end Cluster

/-! ## The whole line -/

/-- What has been read of a command line. -/
structure Progress where
  settings : Settings
  /-- The headers have been met. -/
  hasHeaders : Bool
  /-- The run of words since the last option, and whether there is an argument in it. -/
  run : List String
  runHasArgument : Bool
  unrecognized : List String
deriving DecidableEq, Repr

namespace Progress

def start : Progress := ⟨.standard, false, [], false, []⟩

def addToRun (progress : Progress) (text : String) (isArgument : Bool) : Progress :=
  { progress with
    run := progress.run ++ [text]
    runHasArgument := progress.runHasArgument || isArgument }

/-- Ends a run of words: the first one with an argument in it is the list of headers,
less the separator. -/
def endRun (progress : Progress) : Progress :=
  let ended := { progress with run := [], runHasArgument := false }
  if progress.runHasArgument && !progress.hasHeaders then
    { ended with
      hasHeaders := true
      settings := { progress.settings with headers := progress.run.erase separator } }
  else { ended with unrecognized := progress.unrecognized ++ progress.run }

def addUnrecognized (progress : Progress) (text : String) : Progress :=
  { progress with unrecognized := progress.unrecognized ++ [text] }

/-- Applies one option. -/
def applyOption (progress : Progress) (option : CommandOption) (value : Option String) :
    Except Stop Progress :=
  if option = .help then .error .help
  else .ok { progress with settings := progress.settings.apply option value }

/-- Applies what a word with options asks for, given the text that follows it. -/
def applyCluster (progress : Progress) (cluster : Cluster) (following : String) :
    Except Stop Progress := do
  let progress ← cluster.flags.foldlM (fun state flag => state.applyOption flag none) progress
  match cluster.valued with
  | none => return progress
  | some (option, attached) => progress.applyOption option (valueOf (attached.getD following))

/-- Reads the rest of the words. -/
def readAll (progress : Progress) : List (String × Word) → Except Stop Progress
  | [] => .ok progress.endRun
  | (text, .argument) :: rest => (progress.addToRun text true).readAll rest
  | (text, .separator) :: rest => (progress.addToRun text false).readAll rest
  | (text, .unknownOption) :: rest => (progress.endRun.addUnrecognized text).readAll rest
  | (_, .option option isShort attached) :: rest =>
      match Cluster.ofWord option isShort attached with
      | .error error => .error (.usage error)
      | .ok cluster =>
          match cluster.valued with
          | some (valued, none) =>
              match rest with
              | (value, .argument) :: rest =>
                  match progress.endRun.applyCluster cluster value with
                  | .error stop => .error stop
                  | .ok progress => progress.readAll rest
              | _ => .error (.usage (.missingValue valued))
          | _ =>
              match progress.endRun.applyCluster cluster "" with
              | .error stop => .error stop
              | .ok progress => progress.readAll rest

/-- The settings, if there are headers and every word was recognized. -/
def finish (progress : Progress) : Except Stop Settings :=
  if !progress.hasHeaders then .error (.usage .missingHeaders)
  else if progress.unrecognized ≠ [] then .error (.usage (.unrecognized progress.unrecognized))
  else .ok progress.settings

end Progress

/-- The settings that a command line makes. -/
def parse (words : List String) : Except Stop Settings :=
  match readWords words with
  | .error error => .error (.usage error)
  | .ok words =>
      match Progress.start.readAll words with
      | .error stop => .error stop
      | .ok progress => progress.finish

end HeaderBind.CommandLine
