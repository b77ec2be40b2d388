/-
# HeaderBind.Journal — what is reported while bindings are made

A notice has a level and the part of the program that reports it.
-/
namespace HeaderBind

set_option autoImplicit false

inductive Level where
  | debug
  | info
  | warning
deriving DecidableEq, Repr, Inhabited

namespace Level

def name : Level → String
  | .debug => "DEBUG"
  | .info => "INFO"
  | .warning => "WARNING"

/-- How urgent a level is. -/
def weight : Level → Nat
  | .debug => 0
  | .info => 1
  | .warning => 2

end Level

/-- The parts of the program that report. -/
inductive Reporter where
  /-- The typedefs that are read. -/
  | typedefs
  /-- The types that are needed. -/
  | needs
  /-- The functions and callbacks that are found. -/
  | callables
  /-- The definitions that are made. -/
  | definitions
  /-- The run as a whole. -/
  | run
  /-- What is read from the C parser. -/
  | frontEnd
deriving DecidableEq, Repr, Inhabited

namespace Reporter

def name : Reporter → String
  | .typedefs => "type_catalog"
  | .needs => "dependencies"
  | .callables => "gatherer"
  | .definitions => "emitter"
  | .run => "main"
  | .frontEnd => "clang_frontend"

end Reporter

structure Notice where
  level : Level
  reporter : Reporter
  text : String
deriving DecidableEq, Repr, Inhabited

namespace Notice

/-- The line that shows a notice. -/
def line (notice : Notice) : String :=
  notice.level.name ++ " " ++ notice.reporter.name ++ ": " ++ notice.text

end Notice

/-- Notices in the order they were given. -/
abbrev Journal := Array Notice

end HeaderBind
