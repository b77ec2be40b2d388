/-
# HeaderBind.Binding.Header — the callables of one header

Bindings are sorted by their order; those of equal order stay as they are.
-/
import HeaderBind.Binding.Basic
import HeaderBind.Identifier.HeaderModules

namespace HeaderBind

set_option autoImplicit false

namespace CallableBinding

/-- Puts a binding before the first that does not precede it in order. -/
def insertByOrder (binding : CallableBinding) : List CallableBinding → List CallableBinding
  | [] => [binding]
  | first :: rest =>
      if binding.order ≤ first.order then binding :: first :: rest
      else first :: insertByOrder binding rest

/-- Bindings by ascending order. -/
def sortByOrder (bindings : List CallableBinding) : List CallableBinding :=
  bindings.foldr insertByOrder []

end CallableBinding

namespace HeaderBindings

/-- The modules of a header with its callbacks and functions. -/
def ofCallables (header : String) (callbacks functions : List CallableBinding) :
    HeaderBindings where
  header := header
  modules := Identifier.headerModules header
  callbacks := CallableBinding.sortByOrder callbacks
  functions := CallableBinding.sortByOrder functions

end HeaderBindings

end HeaderBind
