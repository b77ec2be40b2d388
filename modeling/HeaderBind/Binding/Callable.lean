/-
# HeaderBind.Binding.Callable — functions and callbacks with their interface types

To bind a callable is to need every type it uses.  A callable that uses an
unsupported type either ends the run or is skipped; what was needed only since it
was begun is then no longer needed.
-/
import HeaderBind.Binding.Basic
import HeaderBind.Declaration.Callable
import HeaderBind.Ffi.OfCType

namespace HeaderBind

set_option autoImplicit false

namespace Scope

/-- The binding of a callable: parameters first, then the result. -/
def bindCallable (scope : Scope) (callable : Callable) (order : Int) : Run CallableBinding := do
  let params ← callable.params.mapM fun param => scope.neededFfiType param callable.name
  let result ← scope.neededFfiType callable.result callable.name
  return {
    name := callable.name
    params := if callable.variadic then params ++ [.varargs] else params
    result
    isCallback := callable.isCallback
    order }

/-- Leaves a callable out, with the needs as they were before it. -/
def skip (scope : Scope) (needs : NeedTable) (callable : Callable) (fault : Fault) :
    Run Unit := do
  modify fun ledger => { ledger with needs, skipped := ledger.skipped ++ [callable.name] }
  Run.note .warning .run ("Skipping " ++ callable.name ++ ": " ++ fault.message scope.graph)

/-- The binding of a callable; none if it uses an unsupported type and such are skipped. -/
def bindOrSkip (scope : Scope) (skipUnsupported : Bool) (callable : Callable) (order : Int) :
    Run (Option CallableBinding) := fun ledger =>
  match (scope.bindCallable callable order).run ledger with
  | .ok binding after => .ok (some binding) after
  | .error fault after =>
      match fault, skipUnsupported with
      | .unsupported _ _, true =>
          (do scope.skip ledger.needs callable fault; return none : Run _).run after
      | _, _ => .error fault after

/-- The bindings of a list of callables, ordered by their places in it. -/
def bindAll (scope : Scope) (skipUnsupported : Bool) (callables : List Callable) :
    Run (List CallableBinding) := do
  let bindings ← callables.zipIdx.mapM fun (callable, order) =>
    scope.bindOrSkip skipUnsupported callable order
  return bindings.filterMap id

end Scope

end HeaderBind
