/-
# HeaderBind.Proofs.Binding.Described — what the binding of a callable tells

The binding of a callable has its name, an interface type for each parameter and for the
result, and `varargs` last if more arguments may follow (`bindCallable_describes`).  Where
a library is bound, the bindings of each header are those of the callables found in it,
without the skipped ones, in their order and at their places (`described_of_bind`).
-/
import HeaderBind.Proofs.Binding.Skipped

namespace HeaderBind

set_option autoImplicit false

open Outcome

/-! ## Callables -/

namespace Scope

/-- The binding is that of the callable: each of its types names what the C type is, by a
name in the table. -/
structure DescribesCallable (scope : Scope) (names : NameTable) (callable : Callable)
    (binding : CallableBinding) : Prop where
  name : binding.name = callable.name
  isCallback : binding.isCallback = callable.isCallback
  params : ∃ types,
    binding.params = (if callable.variadic then types ++ [.varargs] else types) ∧
    List.Forall₂ (fun param type =>
      scope.Refers names (fun target => scope.LeadsTo param false target) type)
      callable.params types
  result : scope.Refers names (fun target => scope.LeadsTo callable.result false target)
    binding.result

variable {scope : Scope}

theorem DescribesCallable.kept {earlier later : NameTable} (kept : earlier.KeptIn later)
    {callable : Callable} {binding : CallableBinding}
    (h : scope.DescribesCallable earlier callable binding) :
    scope.DescribesCallable later callable binding := by
  obtain ⟨types, same, each⟩ := h.params
  refine ⟨h.name, h.isCallback, ⟨types, same, ?_⟩, h.result.mono kept fun _ leads => leads⟩
  exact each.imp fun _ _ refers => refers.mono kept fun _ leads => leads

theorem SameShape.refersTo {first second : Scope} (same : first.SameShape second)
    {names : NameTable} {type : TypeRef} {ffi : FfiType}
    (h : first.Refers names (fun target => first.LeadsTo type false target) ffi) :
    second.Refers names (fun target => second.LeadsTo type false target) ffi :=
  (same.refers h).mono (.refl names) fun _ leads => same.leadsTo rfl leads

theorem SameShape.describesCallable {first second : Scope} (same : first.SameShape second)
    {names : NameTable} {callable : Callable} {binding : CallableBinding}
    (h : first.DescribesCallable names callable binding) :
    second.DescribesCallable names callable binding := by
  obtain ⟨types, shown, each⟩ := h.params
  refine ⟨h.name, h.isCallback, ⟨types, shown, ?_⟩, same.refersTo h.result⟩
  exact each.imp fun _ _ refers => same.refersTo refers

theorem bindCallable_describes {callable : Callable} {order : Int} {ledger after : Ledger}
    {binding : CallableBinding}
    (done : (scope.bindCallable callable order).run ledger = .ok binding after) :
    scope.DescribesCallable after.names callable binding := by
  obtain ⟨types, middle, params, rest⟩ := bind_ok_iff.1 done
  obtain ⟨result, later, one, last⟩ := bind_ok_iff.1 rest
  obtain ⟨rfl, rfl⟩ := pure_ok_iff.1 last
  have grown := (scope.neededFfiType_grows callable.result callable.name).ok one
  refine ⟨rfl, rfl, ⟨types, rfl, ?_⟩, ffiType_refers one⟩
  refine (mapM_ok_between (fun param => scope.neededFfiType_grows param callable.name) params).imp
    fun param type between => ?_
  obtain ⟨start, stop, -, run, after⟩ := between
  exact (ffiType_refers run).mono (after.names.trans grown.names) fun _ leads => leads

/-- The bindings are those of the callables at the places, in order. -/
def DescribesPlaces (scope : Scope) (names : NameTable) (places : List (Callable × Nat))
    (bindings : List CallableBinding) : Prop :=
  List.Forall₂ (fun place binding =>
    binding.order = (place.2 : Int) ∧ scope.DescribesCallable names place.1 binding)
    places bindings

theorem DescribesPlaces.kept {earlier later : NameTable} (kept : earlier.KeptIn later)
    {places : List (Callable × Nat)} {bindings : List CallableBinding}
    (h : scope.DescribesPlaces earlier places bindings) :
    scope.DescribesPlaces later places bindings :=
  h.imp fun _ _ both => ⟨both.1, both.2.kept kept⟩

theorem SameShape.describesPlaces {first second : Scope} (same : first.SameShape second)
    {names : NameTable} {places : List (Callable × Nat)} {bindings : List CallableBinding}
    (h : first.DescribesPlaces names places bindings) :
    second.DescribesPlaces names places bindings :=
  h.imp fun _ _ both => ⟨both.1, same.describesCallable both.2⟩

/-- Callables whose places are told apart: the bindings are those of the places that have
one. -/
theorem bindPlaces_describes {skipUnsupported : Bool} {list : List (Callable × Nat)}
    {ledger after : Ledger} {found : List (Option CallableBinding)}
    (apart : (list.map (·.2)).Nodup)
    (done : (list.mapM fun place =>
      scope.bindOrSkip skipUnsupported place.1 place.2).run ledger = .ok found after) :
    scope.DescribesPlaces after.names
      (CallableBinding.places (found.filterMap id) true list) (found.filterMap id) := by
  induction list generalizing ledger found with
  | nil =>
    obtain ⟨rfl, -⟩ := mapM_nil_ok_iff.1 done
    exact .nil
  | cons first list ih =>
    obtain ⟨one?, rest, middle, one, others, rfl⟩ := mapM_cons_ok_iff.1 done
    obtain ⟨fresh, distinct⟩ := List.nodup_cons.1 apart
    have later : middle.Extends after := (Keeps.mapM fun place _ =>
      scope.bindOrSkip_extends skipUnsupported place.1 place.2).ok others
    rcases bindOrSkip_ok one with ⟨binding, rfl, bound⟩ | ⟨rfl, -⟩
    · obtain ⟨_, _, -, -, -, order⟩ := bindCallable_ok bound
      have here := CallableBinding.boundAt_cons_self order (rest.filterMap id)
      rw [found_some, CallableBinding.places_cons_of_eq here,
        CallableBinding.places_cons_binding order fresh]
      exact .cons ⟨order, (bindCallable_describes bound).kept later.names⟩ (ih distinct others)
    · have here := CallableBinding.boundAt_eq_false (bindPlaces_accounts distinct others).1 fresh
      rw [found_none, CallableBinding.places_cons_of_ne (by rw [here]; decide)]
      exact ih distinct others

theorem bindAll_describes {skipUnsupported : Bool} {callables : List Callable}
    {ledger after : Ledger} {bindings : List CallableBinding}
    (done : (scope.bindAll skipUnsupported callables).run ledger = .ok bindings after) :
    scope.DescribesPlaces after.names
      (CallableBinding.places bindings true callables.zipIdx) bindings := by
  obtain ⟨found, rfl, each⟩ := bindAll_ok done
  exact bindPlaces_describes (List.nodup_zipIdx_map_snd callables) each

end Scope

/-! ## Headers -/

/-- A header, what was found in it, and the scope in which its callables are bound. -/
structure ScannedHeader where
  header : String
  scan : CallableScan
  scope : Scope

namespace HeaderLibrary

variable (library : HeaderLibrary)

/-- The headers as they are scanned one after the other, beginning in a scope. -/
def scannedFrom : Scope → List String → List ScannedHeader
  | _, [] => []
  | scope, header :: headers =>
      ⟨header, library.scan scope header, library.scanScope scope header⟩ ::
        scannedFrom (library.scanScope scope header) headers

/-- The headers of a library as they are scanned in a fresh run. -/
def scanned (graph : TypeGraph) (marker : String) : List ScannedHeader :=
  library.scannedFrom (library.readTypedefs (.start graph marker)).scope library.headers

end HeaderLibrary

/-- The bindings of a header are those of the callables found in it, without the skipped
ones; their types name what the C types are, by the names of the workspace. -/
structure Workspace.DescribesHeader (workspace : Workspace) (scanned : ScannedHeader)
    (made : HeaderBindings) : Prop where
  header : made.header = scanned.header
  modules : made.modules = Identifier.headerModules scanned.header
  callbacks : workspace.scope.DescribesPlaces workspace.ledger.names
    (CallableBinding.places made.callbacks true scanned.scan.callbacks.zipIdx) made.callbacks
  functions : workspace.scope.DescribesPlaces workspace.ledger.names
    (CallableBinding.places made.functions true scanned.scan.functions.zipIdx) made.functions

theorem Workspace.DescribesHeader.kept {earlier later : Workspace} {scanned : ScannedHeader}
    {made : HeaderBindings} (same : earlier.scope.SameShape later.scope)
    (kept : earlier.ledger.names.KeptIn later.ledger.names)
    (h : earlier.DescribesHeader scanned made) : later.DescribesHeader scanned made :=
  ⟨h.header, h.modules, same.describesPlaces (h.callbacks.kept kept),
    same.describesPlaces (h.functions.kept kept)⟩

namespace HeaderLibrary

variable {library : HeaderLibrary} {skipUnsupported : Bool}

theorem bindHeader_describes {header : String} {workspace after : Workspace} {bound : BoundHeader}
    (done : (library.bindHeader skipUnsupported header).run workspace = .ok bound after) :
    after.DescribesHeader
      ⟨header, library.scan workspace.scope header, library.scanScope workspace.scope header⟩
      bound.toBindings := by
  obtain ⟨middle, callbacks, functions, scope, rfl⟩ := bindHeader_ok done
  obtain ⟨second, -⟩ := Scope.bindAll_backed functions
  rw [BoundHeader.toBindings, HeaderBindings.ofCallables,
    Scope.sortByOrder_of_bindAll callbacks, Scope.sortByOrder_of_bindAll functions]
  refine ⟨rfl, rfl, ?_, ?_⟩
  · rw [scope]
    exact (Scope.bindAll_describes callbacks).kept second.names
  · rw [scope]
    exact Scope.bindAll_describes functions

theorem bindHeadersFrom_describes {headers : List String} {workspace after : Workspace}
    {bound : List BoundHeader}
    (done : (headers.mapM (library.bindHeader skipUnsupported)).run workspace = .ok bound after) :
    List.Forall₂ after.DescribesHeader (library.scannedFrom workspace.scope headers)
      (bound.map BoundHeader.toBindings) := by
  induction headers generalizing workspace bound with
  | nil =>
    obtain ⟨rfl, -⟩ := mapM_nil_ok_iff.1 done
    exact .nil
  | cons header headers ih =>
    obtain ⟨first, rest, middle, one, others, rfl⟩ := mapM_cons_ok_iff.1 done
    obtain ⟨-, -, -, scope, -⟩ := bindHeader_ok one
    have later := (bindHeadersFrom_backed others).1
    have here := (bindHeader_describes one).kept later.scope later.ledger.names
    rw [scannedFrom, List.map_cons, ← scope]
    rw [← scope] at here
    exact .cons here (ih others)

/-- **The bindings of a library are those of what was found in its headers**, header by
header and in order. -/
theorem described_of_bind {graph : TypeGraph} {marker : String} {bindings : Bindings}
    {after : Workspace}
    (done : (library.bind skipUnsupported).run (.start graph marker) = .ok bindings after) :
    List.Forall₂ after.DescribesHeader (library.scanned graph marker) bindings.headers := by
  obtain ⟨bound, middle, ledger, headers, enums, records, same, scope⟩ := bind_stages done
  have named := middle.scope.bindEnums_onlyNames.ok enums
  have last := middle.scope.bindRecords_onlyNames.ok records
  rw [same]
  refine (bindHeadersFrom_describes (bindHeaders_ok headers)).imp fun scanned made describes => ?_
  exact describes.kept (scope ▸ .refl _) (named.names.trans last.names)

end HeaderLibrary

end HeaderBind
