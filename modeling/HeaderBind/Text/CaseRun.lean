/-
# HeaderBind.Text.CaseRun — tables of case pairs

Case pairs come in runs: characters at a fixed step whose partners lie at a
fixed distance.  A table of such runs maps a character to its partner.
-/
import HeaderBind.Text.CodeRange

namespace HeaderBind.Text

set_option autoImplicit false

/-- Every `step`-th character from `first` to `last` has its partner `shift`
code points away. -/
structure CaseRun where
  first : Nat
  last : Nat
  step : Nat
  shift : Int
deriving DecidableEq, Repr

namespace CaseRun

def holds (run : CaseRun) (code : Nat) : Bool :=
  run.first ≤ code && code ≤ run.last && (code - run.first) % run.step == 0

def partner (run : CaseRun) (code : Nat) : Nat := (code + run.shift).toNat

end CaseRun

/-- The partner of a character in a table of runs, if it has one there. -/
def casePartner? (table : List CaseRun) (c : Char) : Option Char :=
  (table.find? (·.holds c.toNat)).map fun run => Char.ofNat (run.partner c.toNat)

end HeaderBind.Text
