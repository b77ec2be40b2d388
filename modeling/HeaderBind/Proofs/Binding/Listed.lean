/-
# HeaderBind.Proofs.Binding.Listed — the bindings of a header list what it declares

Where a library is bound, each of its headers has the bindings of the functions and
callbacks that it declares, in their order, but for those that use an unsupported type, and
these are the skipped ones (`listed_of_bind`).  A binding has the name of its callable, a
type for every parameter and one more for further arguments, and its place as its order.
-/
import HeaderBind.Proofs.Binding.Described
import HeaderBind.Proofs.Binding.Selected
import HeaderBind.Proofs.Declaration.Found

namespace HeaderBind

set_option autoImplicit false

open Outcome

/-! ## Bindings at their places -/

/-- The binding shows the callable and its place. -/
structure CallableBinding.Shows (binding : CallableBinding) (place : Callable × Nat) : Prop where
  name : binding.name = place.1.name
  isCallback : binding.isCallback = place.1.isCallback
  order : binding.order = place.2
  /-- One type for each parameter, and one more if further arguments may follow. -/
  params : binding.params.length = place.1.params.length + if place.1.variadic then 1 else 0
  varargs : place.1.variadic = true → binding.params.getLast? = some .varargs

namespace Scope

variable {scope : Scope} {names : NameTable}

theorem DescribesCallable.shows {place : Callable × Nat} {binding : CallableBinding}
    (h : scope.DescribesCallable names place.1 binding) (order : binding.order = place.2) :
    binding.Shows place := by
  obtain ⟨types, params, each⟩ := h.params
  refine ⟨h.name, h.isCallback, order, ?_, fun variadic => ?_⟩
  · rw [params, each.length_eq]
    cases place.1.variadic
    · rfl
    · exact List.length_append
  · rw [params, if_pos variadic]
    exact List.getLast?_concat

/-- Bindings that stand for places are in the order of the places. -/
theorem DescribesPlaces.orders {places : List (Callable × Nat)} {bindings : List CallableBinding}
    (h : scope.DescribesPlaces names places bindings) :
    bindings.map CallableBinding.order = places.map fun place => (place.2 : Int) := by
  induction h with
  | nil => rfl
  | cons first _ ih => rw [List.map_cons, List.map_cons, ih, first.1]

end Scope

/-- Places that are chosen from a numbered list are numbered upwards. -/
theorem ascending_of_sublist {callables : List Callable} {places : List (Callable × Nat)}
    (chosen : places.Sublist callables.zipIdx) :
    (places.map fun place => (place.2 : Int)).Pairwise (· < ·) := by
  have numbers : (places.map Prod.snd).Pairwise (· < ·) := by
    have sub := chosen.map Prod.snd
    rw [List.zipIdx_map_snd] at sub
    exact List.Pairwise.sublist sub (List.pairwise_lt_range' _)
  rw [List.pairwise_map] at numbers ⊢
  exact numbers.imp fun less => Int.ofNat_lt.2 less

/-! ## What is left out -/

section Unsupported

open Classical

namespace ScannedHeader

/-- The places of the callables that use no unsupported type. -/
noncomputable def supported (scanned : ScannedHeader) (callables : List Callable) :
    List (Callable × Nat) :=
  callables.zipIdx.filter fun place => ¬ scanned.scope.Unsupported place.1

/-- The callables found in the header that use an unsupported type: callbacks, then
functions. -/
noncomputable def unsupported (scanned : ScannedHeader) : List Callable :=
  (scanned.scan.callbacks ++ scanned.scan.functions).filter fun callable =>
    scanned.scope.Unsupported callable

/-- The callables without a binding are those that use an unsupported type. -/
structure Selects (scanned : ScannedHeader) (made : HeaderBindings) : Prop where
  callbacks : CallableBinding.places made.callbacks true scanned.scan.callbacks.zipIdx =
    scanned.supported scanned.scan.callbacks
  functions : CallableBinding.places made.functions true scanned.scan.functions.zipIdx =
    scanned.supported scanned.scan.functions
  leftOut : made.callables false scanned.scan = scanned.unsupported

end ScannedHeader

theorem Scope.supported_of_bindAll {scope : Scope} {skipUnsupported : Bool}
    {callables : List Callable} {ledger after : Ledger} {bindings : List CallableBinding}
    (done : (scope.bindAll skipUnsupported callables).run ledger = .ok bindings after) :
    CallableBinding.places bindings true callables.zipIdx =
      callables.zipIdx.filter fun place => ¬ scope.Unsupported place.1 := by
  refine List.filter_congr fun place member => ?_
  have told := bindAll_told done place member
  split at told
  · rename_i here
    have fine : ¬ scope.Unsupported place.1 := fun unsupported => unsupported.not_binds told
    rw [here, decide_eq_true fine]
    rfl
  · rename_i free
    rw [Bool.eq_false_of_not_eq_true free, decide_eq_false (not_not.2 told.1)]
    rfl

namespace HeaderLibrary

variable {library : HeaderLibrary} {skipUnsupported : Bool}

theorem bindHeader_selects {header : String} {workspace after : Workspace} {bound : BoundHeader}
    (done : (library.bindHeader skipUnsupported header).run workspace = .ok bound after) :
    ScannedHeader.Selects
      ⟨header, library.scan workspace.scope header, library.scanScope workspace.scope header⟩
      bound.toBindings := by
  obtain ⟨middle, callbacks, functions, -, -⟩ := bindHeader_ok done
  rw [BoundHeader.toBindings, HeaderBindings.ofCallables,
    Scope.sortByOrder_of_bindAll callbacks, Scope.sortByOrder_of_bindAll functions]
  refine ⟨Scope.supported_of_bindAll callbacks, Scope.supported_of_bindAll functions, ?_⟩
  rw [HeaderBindings.callables, ScannedHeader.unsupported, List.filter_append,
    Scope.skipped_of_bindAll callbacks, Scope.skipped_of_bindAll functions]

theorem bindHeadersFrom_selects {headers : List String} {workspace after : Workspace}
    {bound : List BoundHeader}
    (done : (headers.mapM (library.bindHeader skipUnsupported)).run workspace = .ok bound after) :
    List.Forall₂ ScannedHeader.Selects (library.scannedFrom workspace.scope headers)
      (bound.map BoundHeader.toBindings) := by
  induction headers generalizing workspace bound with
  | nil =>
    obtain ⟨rfl, -⟩ := mapM_nil_ok_iff.1 done
    exact .nil
  | cons header headers ih =>
    obtain ⟨first, rest, middle, one, others, rfl⟩ := mapM_cons_ok_iff.1 done
    obtain ⟨-, -, -, scope, -⟩ := bindHeader_ok one
    have later := ih others
    rw [scope] at later
    exact .cons (bindHeader_selects one) later

/-- The callables without a binding, header by header. -/
theorem callablesFrom_eq_of_selects {scope : Scope} {headers : List String}
    {made : List HeaderBindings}
    (h : List.Forall₂ ScannedHeader.Selects (library.scannedFrom scope headers) made) :
    (library.callablesFrom false scope headers made).map (fun use => use.callable) =
      (library.scannedFrom scope headers).flatMap ScannedHeader.unsupported := by
  induction headers generalizing scope made with
  | nil =>
    cases h
    rfl
  | cons header headers ih =>
    cases h with
    | cons first rest =>
      rw [callablesFrom, scannedFrom, List.flatMap_cons, List.map_append, ih rest, List.map_map]
      refine congrArg (· ++ _) (Eq.trans ?_ first.leftOut)
      exact List.map_id _

theorem header_scannedFrom (scope : Scope) (headers : List String) :
    (library.scannedFrom scope headers).map ScannedHeader.header = headers := by
  induction headers generalizing scope with
  | nil => rfl
  | cons header headers ih => rw [scannedFrom, List.map_cons, ih]

/-- Where every typedef has a base type, its own slot is filled once typedefs are read. -/
theorem slot?_readTypedefs {base : TypeRef} {declarators : List Declarator}
    {declarator : Declarator}
    (isTypedef : .declaration base declarators true ∈ library.allDeclarations)
    (isDeclarator : declarator ∈ declarators) (based : base ≠ none) {id : NodeId}
    (isType : declarator.type = some id) (workspace : Workspace) :
    (library.readTypedefs workspace).graph.slot? id ≠ some none := by
  obtain ⟨before, -, later⟩ := assembled_of_readTypedefs isTypedef isDeclarator workspace
  obtain ⟨type, rfl⟩ := Option.ne_none_iff_exists'.1 based
  rw [isType] at later
  have filled : (before.assemble (some id) (some type)).2.slot? id ≠ some none := by
    intro isOpen
    obtain ⟨next, other⟩ := TypeGraph.slot?_assemble_self isOpen
    cases other
  have same := later.filled.kept id filled
  unfold TypeGraph.slot? at filled ⊢
  rwa [same]

theorem scannedFrom_assembled {scope : Scope} {headers : List String} {scanned : ScannedHeader}
    (member : scanned ∈ library.scannedFrom scope headers) :
    ∃ earlier : Scope, TypeGraph.Assembled library.assemblies scope.graph earlier.graph ∧
      scanned.scan = library.scan earlier scanned.header := by
  induction headers generalizing scope with
  | nil => cases member
  | cons header headers ih =>
    rcases List.mem_cons.1 member with rfl | member
    · exact ⟨scope, .refl _, rfl⟩
    · obtain ⟨earlier, reached, same⟩ := ih member
      exact ⟨earlier, (library.scan_assembled scope header).trans reached, same⟩

end HeaderLibrary

/-! ## Libraries -/

/-- The bindings of a header list what it declares in a graph, but for the callables that use
an unsupported type. -/
structure HeaderBindings.Lists (made : HeaderBindings) (graph : TypeGraph)
    (declarations : List ExternalDeclaration) (scanned : ScannedHeader) : Prop where
  header : made.header = scanned.header
  modules : made.modules = Identifier.headerModules scanned.header
  /-- What is found is what is declared. -/
  foundCallbacks : List.Forall₂ (Callable.MadeOf graph true)
    (graph.declaredCallbacks declarations) scanned.scan.callbacks
  foundFunctions : List.Forall₂ (Callable.MadeOf graph false)
    (graph.declaredFunctions declarations) scanned.scan.functions
  /-- What is found and supported is bound, at its place. -/
  callbacks : List.Forall₂ (fun place binding => binding.Shows place)
    (scanned.supported scanned.scan.callbacks) made.callbacks
  functions : List.Forall₂ (fun place binding => binding.Shows place)
    (scanned.supported scanned.scan.functions) made.functions
  callbackOrders : (made.callbacks.map CallableBinding.order).Pairwise (· < ·)
  functionOrders : (made.functions.map CallableBinding.order).Pairwise (· < ·)

namespace HeaderLibrary

variable {library : HeaderLibrary} {skipUnsupported : Bool} {graph : TypeGraph} {marker : String}

/-- **No callable is lost, bound twice or moved.**  Where every typedef has a base type, the
bindings of a library are those of its headers, in their order.  Each header has a binding for
every function and callback that it declares once the typedefs are read, in the order of the
declarations, but for those that use an unsupported type: their names are the skipped ones, in
the order in which they would have been bound. -/
theorem listed_of_bind {bindings : Bindings} {after : Workspace}
    (based : ∀ base declarators,
      .declaration base declarators true ∈ library.allDeclarations → base ≠ none)
    (done : (library.bind skipUnsupported).run (.start graph marker) = .ok bindings after) :
    (library.scanned graph marker).map ScannedHeader.header = library.headers ∧
    List.Forall₂ (fun scanned made => made.Lists
        (library.readTypedefs (.start graph marker)).graph
        (library.declarations scanned.header) scanned)
      (library.scanned graph marker) bindings.headers ∧
    after.ledger.skipped = ((library.scanned graph marker).flatMap
      ScannedHeader.unsupported).map Callable.name := by
  obtain ⟨bound, middle, ledger, headers, -, -, same⟩ := bind_ok done
  have selects := bindHeadersFrom_selects (bindHeaders_ok headers)
  rw [← same] at selects
  refine ⟨header_scannedFrom _ _, ?_, ?_⟩
  · have both := List.Forall₂.mp (fun _ _ => And.intro) (described_of_bind done) selects
    refine forall₂_imp_of_mem both fun scanned member made told => ?_
    obtain ⟨describes, selects⟩ := told
    obtain ⟨earlier, reached, isScan⟩ := scannedFrom_assembled member
    have finds := TypeGraph.finds_scanCallables reached.filled (library.declarations scanned.header)
      fun base declarators isTypedef declarator isDeclarator id isType =>
        slot?_readTypedefs (declarations_subset _ isTypedef) isDeclarator
          (based base declarators (declarations_subset _ isTypedef)) isType _
    have isFound : scanned.scan =
        earlier.graph.scanCallables (library.declarations scanned.header) := isScan
    rw [← isFound] at finds
    have callbacks := describes.callbacks
    have functions := describes.functions
    rw [selects.callbacks] at callbacks
    rw [selects.functions] at functions
    refine ⟨describes.header, describes.modules, finds.callbacks, finds.functions,
      callbacks.imp fun place binding both => both.2.shows both.1,
      functions.imp fun place binding both => both.2.shows both.1, ?_, ?_⟩
    · rw [callbacks.orders]
      exact ascending_of_sublist List.filter_sublist
    · rw [functions.orders]
      exact ascending_of_sublist List.filter_sublist
  · rw [(needs_of_bind done).2, scanned, ← callablesFrom_eq_of_selects selects, List.map_map]
    rfl

end HeaderLibrary

end Unsupported

/-- The types of a callback and of three functions: one without parameters, one that takes an
array, and one with further arguments. -/
def menuTypes : TypeGraph := ⟨#[
  .builtin "int",
  .builtin "void",
  .function ⟨[⟨none, some ⟨1⟩⟩], none, false⟩,
  .uncovered "int[4]",
  .function ⟨[⟨none, some ⟨3⟩⟩], none, false⟩,
  .function ⟨[⟨none, some ⟨0⟩⟩], none, true⟩,
  .function ⟨[⟨none, some ⟨0⟩⟩], none, false⟩,
  .pointer (some ⟨6⟩),
  .pointer none]⟩

/-- A typedef of a callback, three functions, a variable and a function with its body. -/
def menuLibrary : HeaderLibrary where
  headers := ["menu.h"]
  files := [("menu.h", [
    .declaration (some ⟨0⟩) [⟨"handler", some ⟨7⟩⟩] true,
    .declaration (some ⟨0⟩) [⟨"poll", some ⟨2⟩⟩, ⟨"fill", some ⟨4⟩⟩, ⟨"log", some ⟨5⟩⟩] false,
    .declaration (some ⟨0⟩) [⟨"cursor", some ⟨8⟩⟩] false,
    .functionBody "main" (some ⟨2⟩)])]

/-- The function that takes an array is skipped, and the last one keeps its place. -/
theorem listed_of_bind_menu : ∃ bindings after,
    (menuLibrary.bind true).run (.start menuTypes "va") = .ok bindings after ∧
      (menuLibrary.scanned menuTypes "va").map ScannedHeader.header = menuLibrary.headers ∧
      List.Forall₂ (fun scanned made => made.Lists
          (menuLibrary.readTypedefs (.start menuTypes "va")).graph
          (menuLibrary.declarations scanned.header) scanned)
        (menuLibrary.scanned menuTypes "va") bindings.headers ∧
      after.ledger.skipped = ((menuLibrary.scanned menuTypes "va").flatMap
        ScannedHeader.unsupported).map Callable.name ∧
      after.ledger.skipped = ["fill"] ∧
      bindings.headers = [⟨"menu.h", ["Menu"],
        [⟨"handler", [.scalar "int"], .scalar "int", true, 0⟩],
        [⟨"poll", [], .scalar "int", false, 0⟩,
          ⟨"log", [.scalar "int", .varargs], .scalar "int", false, 2⟩]⟩] := by
  have tested : gives (fun bindings after => decide (after.ledger.skipped = ["fill"] ∧
      bindings.headers = [⟨"menu.h", ["Menu"],
        [⟨"handler", [.scalar "int"], .scalar "int", true, 0⟩],
        [⟨"poll", [], .scalar "int", false, 0⟩,
          ⟨"log", [.scalar "int", .varargs], .scalar "int", false, 2⟩]⟩]))
      ((menuLibrary.bind true).run (.start menuTypes "va")) = true := by decide +kernel
  obtain ⟨bindings, after, done, shown⟩ := exists_of_gives tested
  have based : ∀ base declarators,
      .declaration base declarators true ∈ menuLibrary.allDeclarations → base ≠ none := by
    intro base declarators isTypedef
    simp only [menuLibrary, HeaderLibrary.allDeclarations, List.flatMap_cons, List.flatMap_nil,
      List.append_nil, List.mem_cons, List.not_mem_nil, or_false,
      ExternalDeclaration.declaration.injEq] at isTypedef
    rcases isTypedef with ⟨rfl, -⟩ | ⟨-, -, other⟩ | ⟨-, -, other⟩ | other
    · exact Option.some_ne_none _
    · cases other
    · cases other
    · cases other
  obtain ⟨headers, listed, skipped⟩ := HeaderLibrary.listed_of_bind based done
  obtain ⟨fill, here⟩ := of_decide_eq_true shown
  exact ⟨bindings, after, done, headers, listed, skipped, fill, here⟩

end HeaderBind
