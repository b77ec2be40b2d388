/-
# HeaderBind.Proofs.Binding.Skips — the skips of a run

A run that skips callables does so one at a time, at certain ledgers.  `HeaderLibrary.skips`
goes through the run once more and lists its skips, each with the ledger before the callable
was begun and the one after it was left out.  They are those callables that have no binding
in the end, in order (`HeaderLibrary.skips_of_bind`).
-/
import HeaderBind.Proofs.Need.Attribution

namespace HeaderBind

set_option autoImplicit false

open Outcome

/-- A callable that a run skips, and the ledgers before and after. -/
structure Skip where
  use : ScopedCallable
  before : Ledger
  after : Ledger

/-- The callable gave no name before it was left out. -/
def Skip.Silent (skip : Skip) : Prop := skip.after.names = skip.before.names

instance : DecidablePred Skip.Silent := fun _ => inferInstanceAs (Decidable (_ = _))

/-! ## Callables -/

namespace Scope

variable (scope : Scope) (skipUnsupported : Bool)

/-- The skips while callables are bound at their places.  After a fault nothing is bound. -/
def skips : List (Callable × Nat) → Ledger → List Skip
  | [], _ => []
  | place :: rest, ledger =>
      match (scope.bindOrSkip skipUnsupported place.1 place.2).run ledger with
      | .ok (some _) after => skips rest after
      | .ok none after => ⟨⟨scope, place.1⟩, ledger, after⟩ :: skips rest after
      | .error _ _ => []

variable {scope skipUnsupported} {place : Callable × Nat} {list : List (Callable × Nat)}
  {ledger after : Ledger}

theorem skips_cons_of_bound {binding : CallableBinding}
    (one : (scope.bindOrSkip skipUnsupported place.1 place.2).run ledger =
      .ok (some binding) after) :
    scope.skips skipUnsupported (place :: list) ledger =
      scope.skips skipUnsupported list after := by
  rw [skips, one]

theorem skips_cons_of_skipped
    (one : (scope.bindOrSkip skipUnsupported place.1 place.2).run ledger = .ok none after) :
    scope.skips skipUnsupported (place :: list) ledger =
      ⟨⟨scope, place.1⟩, ledger, after⟩ :: scope.skips skipUnsupported list after := by
  rw [skips, one]

/-- Callables whose places are told apart: those without a binding were skipped. -/
theorem skips_of_bindPlaces {found : List (Option CallableBinding)}
    (apart : (list.map (·.2)).Nodup)
    (done : (list.mapM fun place =>
      scope.bindOrSkip skipUnsupported place.1 place.2).run ledger = .ok found after) :
    (scope.skips skipUnsupported list ledger).map Skip.use =
      (CallableBinding.places (found.filterMap id) false list).map fun place =>
        ⟨scope, place.1⟩ := by
  induction list generalizing ledger found with
  | nil => rfl
  | cons place list ih =>
    obtain ⟨one?, rest, middle, one, others, rfl⟩ := mapM_cons_ok_iff.1 done
    obtain ⟨fresh, apart⟩ := List.nodup_cons.1 apart
    rcases bindOrSkip_accounts one with ⟨binding, rfl, order, -⟩ | ⟨rfl, -⟩
    · have isBound := CallableBinding.boundAt_cons_self order (rest.filterMap id)
      rw [skips_cons_of_bound one, ih apart others, found_some,
        CallableBinding.places_cons_of_ne (by rw [isBound]; decide),
        CallableBinding.places_cons_binding order fresh]
    · have leftOut := CallableBinding.boundAt_eq_false (bindPlaces_accounts apart others).1 fresh
      rw [skips_cons_of_skipped one, List.map_cons, ih apart others, found_none,
        CallableBinding.places_cons_of_eq leftOut, List.map_cons]

theorem skips_of_bindAll {callables : List Callable} {bindings : List CallableBinding}
    (done : (scope.bindAll skipUnsupported callables).run ledger = .ok bindings after) :
    (scope.skips skipUnsupported callables.zipIdx ledger).map Skip.use =
      (CallableBinding.selected bindings false callables).map (⟨scope, ·⟩) := by
  obtain ⟨found, rfl, each⟩ := bindAll_ok done
  rw [skips_of_bindPlaces (List.nodup_zipIdx_map_snd callables) each, CallableBinding.selected,
    List.map_map]
  rfl

end Scope

/-! ## Headers -/

namespace HeaderLibrary

variable (library : HeaderLibrary) (skipUnsupported : Bool)

/-- The skips while the callables of one header are bound, callbacks first. -/
def headerSkips (header : String) (workspace : Workspace) : List Skip :=
  let scan := library.scan workspace.scope header
  let scope := library.scanScope workspace.scope header
  let scanned := (workspace.afterScan header scan).ledger
  scope.skips skipUnsupported scan.callbacks.zipIdx scanned ++
    match (scope.bindAll skipUnsupported scan.callbacks).run scanned with
    | .ok _ middle => scope.skips skipUnsupported scan.functions.zipIdx middle
    | .error _ _ => []

/-- The skips while headers are bound. -/
def skipsFrom : List String → Workspace → List Skip
  | [], _ => []
  | header :: headers, workspace =>
      library.headerSkips skipUnsupported header workspace ++
        match (library.bindHeader skipUnsupported header).run workspace with
        | .ok _ after => skipsFrom headers after
        | .error _ _ => []

/-- The skips of a fresh run. -/
def skips (graph : TypeGraph) (marker : String) : List Skip :=
  library.skipsFrom skipUnsupported library.headers (library.readTypedefs (.start graph marker))

variable {library skipUnsupported} {workspace after : Workspace}

theorem headerSkips_of_callbacks {header : String} {middle : Ledger}
    {bindings : List CallableBinding}
    (callbacks : ((library.scanScope workspace.scope header).bindAll skipUnsupported
      (library.scan workspace.scope header).callbacks).run
        (workspace.afterScan header (library.scan workspace.scope header)).ledger =
          .ok bindings middle) :
    library.headerSkips skipUnsupported header workspace =
      (library.scanScope workspace.scope header).skips skipUnsupported
          (library.scan workspace.scope header).callbacks.zipIdx
          (workspace.afterScan header (library.scan workspace.scope header)).ledger ++
        (library.scanScope workspace.scope header).skips skipUnsupported
          (library.scan workspace.scope header).functions.zipIdx middle := by
  unfold headerSkips
  dsimp only
  rw [callbacks]

theorem skipsFrom_cons {header : String} {headers : List String} {bound : BoundHeader}
    (one : (library.bindHeader skipUnsupported header).run workspace = .ok bound after) :
    library.skipsFrom skipUnsupported (header :: headers) workspace =
      library.headerSkips skipUnsupported header workspace ++
        library.skipsFrom skipUnsupported headers after := by
  rw [skipsFrom, one]

theorem headerSkips_of_bindHeader {header : String} {bound : BoundHeader}
    (done : (library.bindHeader skipUnsupported header).run workspace = .ok bound after) :
    (library.headerSkips skipUnsupported header workspace).map Skip.use =
      (bound.toBindings.callables false (library.scan workspace.scope header)).map
        (⟨library.scanScope workspace.scope header, ·⟩) := by
  obtain ⟨middle, callbacks, functions, -⟩ := bindHeader_ok done
  unfold HeaderBindings.callables BoundHeader.toBindings HeaderBindings.ofCallables
  simp only [CallableBinding.selected_sortByOrder]
  rw [headerSkips_of_callbacks callbacks, List.map_append, List.map_append,
    Scope.skips_of_bindAll callbacks, Scope.skips_of_bindAll functions]

theorem skipsFrom_of_bindHeaders {headers : List String} {bound : List BoundHeader}
    (done : (headers.mapM (library.bindHeader skipUnsupported)).run workspace = .ok bound after) :
    (library.skipsFrom skipUnsupported headers workspace).map Skip.use =
      library.callablesFrom false workspace.scope headers (bound.map BoundHeader.toBindings) := by
  induction headers generalizing workspace bound with
  | nil =>
    obtain ⟨rfl, -⟩ := mapM_nil_ok_iff.1 done
    rfl
  | cons header headers ih =>
    obtain ⟨first, rest, middle, one, others, rfl⟩ := mapM_cons_ok_iff.1 done
    obtain ⟨-, -, -, scope, -⟩ := bindHeader_ok one
    rw [skipsFrom_cons one, List.map_append, headerSkips_of_bindHeader one, ih others, scope,
      List.map_cons, callablesFrom]

/-- **The skips of a run are its callables without a binding.** -/
theorem skips_of_bind {graph : TypeGraph} {marker : String} {bindings : Bindings}
    (done : (library.bind skipUnsupported).run (.start graph marker) = .ok bindings after) :
    (library.skips skipUnsupported graph marker).map Skip.use =
      library.callables graph marker bindings false := by
  obtain ⟨bound, middle, ledger, headers, -, -, same⟩ := bind_ok done
  rw [skips, skipsFrom_of_bindHeaders (bindHeaders_ok headers), callables, same]

end HeaderLibrary

end HeaderBind
