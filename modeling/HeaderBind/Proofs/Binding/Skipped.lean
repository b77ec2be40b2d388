/-
# HeaderBind.Proofs.Binding.Skipped — what a skipped callable leaves behind

A run that skips callables is compared with a second run over the same library, in which
they are not among the callables to be bound (`rebind`).  A skipped callable takes back
what it needed, but not the names it gave.  So the second run gives bindings too, and
they are the same but for the order of callables and for names of types that have no name
of their own and none by a typedef (`rebind_alike`).  Where no skip of the first run leaves
a name behind, the bindings are the same but for the order.
-/
import HeaderBind.Proofs.Binding.Closed
import HeaderBind.Proofs.Binding.Follows
import HeaderBind.Proofs.Binding.Skips

namespace HeaderBind

set_option autoImplicit false

open Outcome

/-! ## A second run -/

namespace HeaderLibrary

variable (library : HeaderLibrary)

/-- Binds those callables of one header that are chosen from the found ones, callbacks
first. -/
def bindChosen (callbacks functions : List Callable → List Callable) (skipUnsupported : Bool)
    (header : String) : Work BoundHeader := do
  let scan := library.scan (← get).scope header
  modify fun workspace => workspace.afterScan header scan
  let boundCallbacks ← Work.inScope fun scope =>
    scope.bindAll skipUnsupported (callbacks scan.callbacks)
  let boundFunctions ← Work.inScope fun scope =>
    scope.bindAll skipUnsupported (functions scan.functions)
  return ⟨header, boundCallbacks, boundFunctions⟩

/-- To choose all callables is to bind the header. -/
theorem bindChosen_all (skipUnsupported : Bool) (header : String) :
    library.bindChosen id id skipUnsupported header =
      library.bindHeader skipUnsupported header := rfl

/-- Binds those callables of one header that have a binding. -/
def rebindHeader (skipUnsupported : Bool) (bindings : HeaderBindings) (header : String) :
    Work BoundHeader :=
  library.bindChosen (CallableBinding.selected bindings.callbacks true)
    (CallableBinding.selected bindings.functions true) skipUnsupported header

/-- Makes the bindings of a library from those callables alone that have a binding. -/
def rebind (skipUnsupported : Bool) (bindings : Bindings) : Work Bindings := do
  modify library.readTypedefs
  let bound ← (library.headers.zip bindings.headers).mapM fun place =>
    library.rebindHeader skipUnsupported place.2 place.1
  let enums ← Work.inScope Scope.bindEnums
  let records ← Work.inScope Scope.bindRecords
  return ⟨enums, records, bound.map BoundHeader.toBindings⟩

end HeaderLibrary

/-! ## Sorted bindings -/

namespace CallableBinding

theorem sortByOrder_of_ascending {bindings : List CallableBinding}
    (ascending : (bindings.map order).Pairwise (· ≤ ·)) : sortByOrder bindings = bindings := by
  induction bindings with
  | nil => rfl
  | cons binding rest ih =>
    rw [List.map_cons, List.pairwise_cons] at ascending
    show binding.insertByOrder (sortByOrder rest) = binding :: rest
    rw [ih ascending.2]
    cases rest with
    | nil => rfl
    | cons first rest => exact if_pos (ascending.1 first.order (by simp))

end CallableBinding

namespace Scope

variable {scope : Scope}

/-- The orders of bindings are among the places, in their order. -/
theorem bindPlaces_orders {skipUnsupported : Bool} {list : List (Callable × Nat)}
    {ledger after : Ledger} {found : List (Option CallableBinding)}
    (done : (list.mapM fun place =>
      scope.bindOrSkip skipUnsupported place.1 place.2).run ledger = .ok found after) :
    ((found.filterMap id).map CallableBinding.order).Sublist
      (list.map fun place => (place.2 : Int)) := by
  induction list generalizing ledger found with
  | nil =>
    obtain ⟨rfl, rfl⟩ := mapM_nil_ok_iff.1 done
    exact .slnil
  | cons place list ih =>
    obtain ⟨first, rest, middle, one, others, rfl⟩ := mapM_cons_ok_iff.1 done
    rcases bindOrSkip_accounts one with ⟨binding, rfl, order, -⟩ | ⟨rfl, -⟩
    · rw [found_some, List.map_cons, List.map_cons, order]
      exact (ih others).cons_cons _
    · rw [found_none, List.map_cons]
      exact (ih others).cons _

/-- Callables are bound in order, so to sort their bindings changes nothing. -/
theorem sortByOrder_of_bindAll {skipUnsupported : Bool} {callables : List Callable}
    {ledger after : Ledger} {bindings : List CallableBinding}
    (done : (scope.bindAll skipUnsupported callables).run ledger = .ok bindings after) :
    CallableBinding.sortByOrder bindings = bindings := by
  obtain ⟨found, rfl, each⟩ := bindAll_ok done
  refine CallableBinding.sortByOrder_of_ascending (.sublist (bindPlaces_orders each) ?_)
  have places : (callables.zipIdx.map fun place => (place.2 : Int)) =
      (List.range' 0 callables.length).map Int.ofNat := by
    rw [← List.zipIdx_map_snd, List.map_map]
    rfl
  rw [places, List.pairwise_map]
  exact List.pairwise_le_range'.imp fun le => Int.ofNat_le.2 le

end Scope

/-! ## Callables -/

namespace Scope

variable {scope : Scope} {base : NameTable} {strict : Prop}

/-- A callable that was bound is bound again, at any place. -/
theorem bindOrSkip_again {callable : Callable} {order : Int} {first second after : Ledger}
    {binding : CallableBinding} (again : Bool) (place : Int)
    (done : (scope.bindCallable callable order).run first = .ok binding after)
    (parallel : Ledger.Parallel base strict first second) :
    ∃ other last,
      (scope.bindOrSkip again callable place).run second = .ok (some other) last ∧
      Ledger.Abreast base strict first second after last ∧
      binding.Alike (scope.Renamed base after.names last.names) other := by
  obtain ⟨other, last, run, abreast, alike, -⟩ :=
    scope.bindCallable_follows callable order place first second binding after parallel done
  refine ⟨other, last, ?_, abreast, alike⟩
  show scope.bindOrSkip again callable place second = _
  rw [bindOrSkip, run]

/-- A callable that was skipped leaves nothing behind but the names that it gave. -/
theorem abreast_of_skipped {skipUnsupported : Bool} {callable : Callable} {order : Int}
    {first second after : Ledger}
    (done : (scope.bindOrSkip skipUnsupported callable order).run first = .ok none after)
    (parallel : Ledger.Parallel base strict first second)
    (silent : strict → after.names = first.names) :
    Ledger.Abreast base strict first second after second := by
  rcases bindOrSkip_ok done with ⟨binding, found, -⟩ | ⟨-, skipped⟩
  · cases found
  · refine ⟨⟨?_, parallel.left.trans skipped.names, parallel.right, fun isStrict => ?_⟩,
      skipped.names, .refl _⟩
    · exact parallel.needs.trans skipped.needs.symm
    · rw [silent isStrict, parallel.names isStrict]

/-- Callables whose places are told apart: those that were bound are bound again, at places
of their own. -/
theorem bindPlaces_again {skipUnsupported : Bool} {list : List (Callable × Nat)}
    {first second after : Ledger} {found : List (Option CallableBinding)} (again : Bool)
    (apart : (list.map (·.2)).Nodup)
    (done : (list.mapM fun place =>
      scope.bindOrSkip skipUnsupported place.1 place.2).run first = .ok found after)
    (parallel : Ledger.Parallel base strict first second)
    (silent : strict → ∀ skip ∈ scope.skips skipUnsupported list first, skip.Silent)
    (start : Nat) :
    ∃ others last,
      ((((CallableBinding.places (found.filterMap id) true list).map (·.1)).zipIdx start).mapM
        fun place => scope.bindOrSkip again place.1 place.2).run second = .ok others last ∧
      Ledger.Abreast base strict first second after last ∧
      List.Forall₂ (CallableBinding.Alike (scope.Renamed base after.names last.names))
        (found.filterMap id) (others.filterMap id) := by
  induction list generalizing first second found start with
  | nil =>
    obtain ⟨rfl, rfl⟩ := mapM_nil_ok_iff.1 done
    exact ⟨[], second, rfl, .refl parallel, .nil⟩
  | cons place list ih =>
    obtain ⟨one?, rest, middle, one, others, rfl⟩ := mapM_cons_ok_iff.1 done
    obtain ⟨fresh, apart⟩ := List.nodup_cons.1 apart
    rcases bindOrSkip_ok one with ⟨binding, rfl, bound⟩ | ⟨rfl, -⟩
    · obtain ⟨_, _, -, -, -, order⟩ := bindCallable_ok bound
      have isBound := CallableBinding.boundAt_cons_self order (rest.filterMap id)
      rw [skips_cons_of_bound one] at silent
      rw [found_some, CallableBinding.places_cons_of_eq isBound,
        CallableBinding.places_cons_binding order fresh]
      obtain ⟨other, between, run, here, alike⟩ := bindOrSkip_again again start bound parallel
      obtain ⟨more, last, runs, later, all⟩ := ih apart others here.parallel silent (start + 1)
      refine ⟨some other :: more, last, ?_, here.trans later, ?_⟩
      · exact mapM_cons_ok_iff.2 ⟨some other, more, between, run, runs, rfl⟩
      · rw [found_some]
        exact .cons (alike.mono fun _ _ same => same.kept later.left later.right) all
    · have leftOut := CallableBinding.boundAt_eq_false (bindPlaces_accounts apart others).1 fresh
      rw [skips_cons_of_skipped one] at silent
      rw [found_none, CallableBinding.places_cons_of_ne (by rw [leftOut]; decide)]
      have silentParts := fun isStrict => List.forall_mem_cons.1 (silent isStrict)
      have here := abreast_of_skipped one parallel fun isStrict => (silentParts isStrict).1
      obtain ⟨more, last, runs, later, all⟩ :=
        ih apart others here.parallel (fun isStrict => (silentParts isStrict).2) start
      exact ⟨more, last, runs, here.trans later, all⟩

theorem bindAll_again {skipUnsupported : Bool} {callables : List Callable}
    {first second after : Ledger} {bindings : List CallableBinding} (again : Bool)
    (done : (scope.bindAll skipUnsupported callables).run first = .ok bindings after)
    (parallel : Ledger.Parallel base strict first second)
    (silent : strict → ∀ skip ∈ scope.skips skipUnsupported callables.zipIdx first,
      skip.Silent) :
    ∃ others last,
      (scope.bindAll again (CallableBinding.selected bindings true callables)).run second =
        .ok others last ∧
      Ledger.Abreast base strict first second after last ∧
      List.Forall₂ (CallableBinding.Alike (scope.Renamed base after.names last.names))
        bindings others := by
  obtain ⟨found, rfl, each⟩ := bindAll_ok done
  have apart := List.nodup_zipIdx_map_snd callables
  obtain ⟨others, last, run, rest⟩ := bindPlaces_again again apart each parallel silent 0
  exact ⟨others.filterMap id, last, bind_ok_iff.2 ⟨others, last, run, rfl⟩, rest⟩

end Scope

/-! ## Headers -/

/-- The workspaces have the same scope, and parallel ledgers. -/
structure Workspace.Parallel (base : NameTable) (strict : Prop) (first second : Workspace) :
    Prop where
  scope : second.scope = first.scope
  ledger : Ledger.Parallel base strict first.ledger second.ledger

/-- To find the callables of a header gives no names and needs nothing. -/
theorem Workspace.Parallel.afterScan {base : NameTable} {strict : Prop}
    {first second : Workspace} (parallel : first.Parallel base strict second) (header : String)
    (scan : CallableScan) :
    Ledger.Abreast base strict first.ledger second.ledger
      (first.afterScan header scan).ledger (second.afterScan header scan).ledger :=
  ⟨⟨parallel.ledger.needs, parallel.ledger.left, parallel.ledger.right, parallel.ledger.names⟩,
    .refl _, .refl _⟩

namespace Scope

variable {scope : Scope} {base : NameTable}

theorem SameShape.renamed {other : Scope} (same : scope.SameShape other) {n m : NameTable}
    {name renamed : String} (h : scope.Renamed base n m name renamed) :
    other.Renamed base n m name renamed := by
  obtain ⟨id, one, two, alike⟩ := h
  refine ⟨id, (same.settledName?_eq n id).trans one, (same.settledName?_eq m id).trans two, ?_⟩
  rwa [same.settledName?_eq]

end Scope

namespace HeaderLibrary

variable {library : HeaderLibrary} {base : NameTable} {strict : Prop}

theorem bindChosen_ok {skipUnsupported : Bool} {header : String} {workspace : Workspace}
    {middle last : Ledger} {bound : BoundHeader}
    (callbacks functions : List Callable → List Callable)
    (one : ((library.scanScope workspace.scope header).bindAll skipUnsupported
      (callbacks (library.scan workspace.scope header).callbacks)).run
        (workspace.afterScan header (library.scan workspace.scope header)).ledger =
          .ok bound.callbacks middle)
    (two : ((library.scanScope workspace.scope header).bindAll skipUnsupported
      (functions (library.scan workspace.scope header).functions)).run middle =
        .ok bound.functions last) (isHeader : bound.header = header) :
    (library.bindChosen callbacks functions skipUnsupported header).run workspace =
      .ok bound ⟨library.scanScope workspace.scope header, last⟩ := by
  subst isHeader
  unfold bindChosen
  refine bind_ok_iff.2 ⟨workspace, workspace, rfl, ?_⟩
  refine bind_ok_iff.2 ⟨⟨⟩, _, rfl, ?_⟩
  refine bind_ok_iff.2 ⟨bound.callbacks, _, Work.inScope_ok_iff.2 ⟨middle, one, rfl⟩, ?_⟩
  exact bind_ok_iff.2 ⟨bound.functions, _, Work.inScope_ok_iff.2 ⟨last, two, rfl⟩, rfl⟩

theorem bindHeader_again {skipUnsupported : Bool} {header : String}
    {first second after : Workspace} {bound : BoundHeader} (again : Bool)
    (done : (library.bindHeader skipUnsupported header).run first = .ok bound after)
    (parallel : first.Parallel base strict second)
    (silent : strict → ∀ skip ∈ library.headerSkips skipUnsupported header first,
      skip.Silent) :
    ∃ other last,
      (library.rebindHeader again bound.toBindings header).run second = .ok other last ∧
      last.scope = after.scope ∧
      Ledger.Abreast base strict first.ledger second.ledger after.ledger last.ledger ∧
      bound.toBindings.Alike (after.scope.Renamed base after.ledger.names last.ledger.names)
        other.toBindings := by
  obtain ⟨middle, callbacks, functions, scope, rfl⟩ := bindHeader_ok done
  have sorted := Scope.sortByOrder_of_bindAll callbacks
  have sorted' := Scope.sortByOrder_of_bindAll functions
  rw [headerSkips_of_callbacks callbacks] at silent
  rw [BoundHeader.toBindings, HeaderBindings.ofCallables, sorted, sorted']
  have scanned := parallel.afterScan bound.header (library.scan first.scope bound.header)
  have silentParts := fun isStrict => List.forall_mem_append.1 (silent isStrict)
  obtain ⟨others, between, one, here, alike⟩ :=
    Scope.bindAll_again again callbacks scanned.parallel fun isStrict => (silentParts isStrict).1
  obtain ⟨others', last, two, later, alike'⟩ :=
    Scope.bindAll_again again functions here.parallel fun isStrict => (silentParts isStrict).2
  have sortedAgain := Scope.sortByOrder_of_bindAll one
  have sortedAgain' := Scope.sortByOrder_of_bindAll two
  rw [← parallel.scope] at one two
  refine ⟨⟨bound.header, others, others'⟩, _, bindChosen_ok _ _ one two rfl, ?_,
    (scanned.trans here).trans later, ?_⟩
  · rw [scope, parallel.scope]
  · rw [scope, BoundHeader.toBindings, HeaderBindings.ofCallables, sortedAgain, sortedAgain']
    refine .of_callables (alike.imp fun _ _ same => same.mono ?_) alike'
    exact fun _ _ renamed => renamed.kept later.left later.right

theorem bindHeadersFrom_again {skipUnsupported : Bool} {headers : List String}
    {first second after : Workspace} {bound : List BoundHeader} (again : Bool)
    (done : (headers.mapM (library.bindHeader skipUnsupported)).run first = .ok bound after)
    (parallel : first.Parallel base strict second)
    (silent : strict → ∀ skip ∈ library.skipsFrom skipUnsupported headers first,
      skip.Silent) :
    ∃ others last,
      ((headers.zip (bound.map BoundHeader.toBindings)).mapM fun place =>
        library.rebindHeader again place.2 place.1).run second = .ok others last ∧
      last.scope = after.scope ∧
      Ledger.Abreast base strict first.ledger second.ledger after.ledger last.ledger ∧
      List.Forall₂
        (HeaderBindings.Alike (after.scope.Renamed base after.ledger.names last.ledger.names))
        (bound.map BoundHeader.toBindings) (others.map BoundHeader.toBindings) := by
  induction headers generalizing first second bound with
  | nil =>
    obtain ⟨rfl, rfl⟩ := mapM_nil_ok_iff.1 done
    exact ⟨[], second, rfl, parallel.scope, .refl parallel.ledger, .nil⟩
  | cons header headers ih =>
    obtain ⟨one, rest, middle, bindOne, bindOthers, rfl⟩ := mapM_cons_ok_iff.1 done
    rw [skipsFrom_cons bindOne] at silent
    rw [List.map_cons]
    have silentParts := fun isStrict => List.forall_mem_append.1 (silent isStrict)
    obtain ⟨other, between, runOne, scope, here, alike⟩ :=
      bindHeader_again again bindOne parallel fun isStrict => (silentParts isStrict).1
    obtain ⟨others, last, runOthers, scope', later, all⟩ :=
      ih bindOthers ⟨scope, here.parallel⟩ fun isStrict => (silentParts isStrict).2
    refine ⟨other :: others, last, ?_, scope', here.trans later, .cons (alike.mono ?_) all⟩
    · exact mapM_cons_ok_iff.2 ⟨other, others, between, runOne, runOthers, rfl⟩
    · have same := (bindHeadersFrom_backed bindOthers).1.scope
      exact fun _ _ renamed => same.renamed (renamed.kept later.left later.right)

/-- The names that types have by typedefs, before any callable is bound. -/
def typedefNames (library : HeaderLibrary) (graph : TypeGraph) (marker : String) : NameTable :=
  (library.readTypedefs (.start graph marker)).ledger.names

theorem rebind_ok {skipUnsupported : Bool} {bindings : Bindings} {workspace middle : Workspace}
    {others : List BoundHeader} {enums : List EnumBinding} {records : List RecordBinding}
    {between last : Ledger}
    (headers : ((library.headers.zip bindings.headers).mapM fun place =>
      library.rebindHeader skipUnsupported place.2 place.1).run
        (library.readTypedefs workspace) = .ok others middle)
    (one : middle.scope.bindEnums.run middle.ledger = .ok enums between)
    (two : middle.scope.bindRecords.run between = .ok records last) :
    (library.rebind skipUnsupported bindings).run workspace =
      .ok ⟨enums, records, others.map BoundHeader.toBindings⟩ ⟨middle.scope, last⟩ := by
  refine bind_ok_iff.2 ⟨⟨⟩, _, rfl, bind_ok_iff.2 ⟨others, middle, headers, ?_⟩⟩
  refine bind_ok_iff.2 ⟨enums, _, Work.inScope_ok_iff.2 ⟨between, one, rfl⟩, ?_⟩
  exact bind_ok_iff.2 ⟨records, _, Work.inScope_ok_iff.2 ⟨last, two, rfl⟩, rfl⟩

/-- **A skipped callable leaves nothing behind but names.**  After a run that gives
bindings, the callables that were bound are bound again without the skipped ones.  That
gives bindings too, and they are the same but for the order of callables and for names of
types that had none, neither their own nor one by a typedef.  If no name was given while
the first run came to skip a callable, the bindings are the same but for the order of
callables. -/
theorem rebind_alike {graph : TypeGraph} {marker : String} {skipUnsupported : Bool}
    {bindings : Bindings} {after : Workspace}
    (done : (library.bind skipUnsupported).run (.start graph marker) = .ok bindings after)
    (again : Bool) :
    ∃ second last,
      (library.rebind again bindings).run (.start graph marker) = .ok second last ∧
      bindings.Alike (after.scope.Renamed (library.typedefNames graph marker)
        after.ledger.names last.ledger.names) second ∧
      (library.skips skipUnsupported graph marker).map Skip.use =
        library.callables graph marker bindings false ∧
      ((∀ skip ∈ library.skips skipUnsupported graph marker, skip.Silent) →
        second.unordered = bindings.unordered) := by
  obtain ⟨bound, middle, ledger, headers, enums, records, same, scope⟩ := bind_stages done
  have start : Workspace.Parallel (library.typedefNames graph marker)
      (∀ skip ∈ library.skips skipUnsupported graph marker, skip.Silent)
      (library.readTypedefs (.start graph marker)) (library.readTypedefs (.start graph marker)) :=
    ⟨rfl, rfl, .refl _, .refl _, fun _ => rfl⟩
  obtain ⟨others, between, runHeaders, sameScope, one, alikeHeaders⟩ :=
    bindHeadersFrom_again again (bindHeaders_ok headers) start fun silent => silent
  rw [← same] at runHeaders alikeHeaders
  obtain ⟨enums', named, runEnums, two, alikeEnums⟩ :=
    middle.scope.bindEnums_follows _ _ _ _ one.parallel enums
  obtain ⟨records', last, runRecords, three, alikeRecords⟩ :=
    Scope.bindRecords_follows _ _ _ _ two.parallel records
  rw [← sameScope] at runEnums runRecords
  have alike : bindings.Alike (after.scope.Renamed (library.typedefNames graph marker)
      after.ledger.names last.names)
      ⟨enums', records', others.map BoundHeader.toBindings⟩ := by
    have later := two.trans three
    rw [scope]
    refine ⟨alikeEnums.imp fun _ _ one => one.mono ?_, alikeRecords,
      alikeHeaders.imp fun _ _ one => one.mono ?_⟩
    · exact fun _ _ renamed => renamed.kept three.left three.right
    · exact fun _ _ renamed => renamed.kept later.left later.right
  refine ⟨_, _, rebind_ok runHeaders runEnums runRecords, alike, skips_of_bind done,
    fun silent => ?_⟩
  rw [three.parallel.names silent] at alike
  exact alike.eq fun _ _ renamed => renamed.eq

end HeaderLibrary

/-- The types of sounds.  `mix` takes an unnamed structure and a complex number, and `play`
another unnamed structure.  `blend` and `start` take a `handle` of the first structure, the
one with a complex number and the other alone, and `tune` takes a complex number alone. -/
def soundTypes : TypeGraph := ⟨#[
  .builtin "int",
  .tagged ⟨.struct, none, some [⟨"gain", some ⟨0⟩⟩], []⟩,
  .tagged ⟨.struct, none, some [⟨"rate", some ⟨0⟩⟩], []⟩,
  .pointer (some ⟨1⟩),
  .pointer (some ⟨2⟩),
  .uncovered "_Complex double",
  .function ⟨[⟨none, some ⟨3⟩⟩, ⟨none, some ⟨5⟩⟩], none, false⟩,
  .function ⟨[⟨none, some ⟨4⟩⟩], none, false⟩,
  .typedefName "handle",
  .function ⟨[⟨none, some ⟨8⟩⟩, ⟨none, some ⟨5⟩⟩], none, false⟩,
  .function ⟨[⟨none, some ⟨8⟩⟩], none, false⟩,
  .function ⟨[⟨none, some ⟨5⟩⟩], none, false⟩]⟩

/-- The structure of a `handle` has its name from `start` when `blend` is skipped. -/
def handleLibrary : HeaderLibrary where
  headers := ["sound.h"]
  files := [("sound.h", [
    .declaration (some ⟨3⟩) [⟨"handle", none⟩] true,
    .declaration (some ⟨0⟩) [⟨"start", some ⟨10⟩⟩, ⟨"blend", some ⟨9⟩⟩, ⟨"tune", some ⟨11⟩⟩,
      ⟨"play", some ⟨7⟩⟩] false])]

def mixLibrary : HeaderLibrary where
  headers := ["sound.h"]
  files := [("sound.h", [
    .declaration (some ⟨0⟩) [⟨"mix", some ⟨6⟩⟩, ⟨"play", some ⟨7⟩⟩] false])]

/-- The skipped `blend` and `tune` give no names, the one because the structure that it
reaches has a name, and without them the bindings are the same. -/
theorem rebind_alike_handle : ∃ bindings after,
    (handleLibrary.bind true).run (.start soundTypes "va") = .ok bindings after ∧
      after.ledger.skipped = ["blend", "tune"] ∧
      bindings.records.map RecordBinding.cName =
        ["anonymous_struct_one", "anonymous_struct_two"] ∧
      (∀ skip ∈ handleLibrary.skips true soundTypes "va", skip.Silent) ∧
      ∃ second last,
        (handleLibrary.rebind true bindings).run (.start soundTypes "va") = .ok second last ∧
        bindings.Alike (after.scope.Renamed (handleLibrary.typedefNames soundTypes "va")
          after.ledger.names last.ledger.names) second ∧
        (handleLibrary.skips true soundTypes "va").map Skip.use =
          handleLibrary.callables soundTypes "va" bindings false ∧
        second.unordered = bindings.unordered := by
  have tested : gives (fun bindings after => decide (after.ledger.skipped = ["blend", "tune"] ∧
      bindings.records.map RecordBinding.cName =
        ["anonymous_struct_one", "anonymous_struct_two"]))
      ((handleLibrary.bind true).run (.start soundTypes "va")) = true := by decide +kernel
  have silent : ∀ skip ∈ handleLibrary.skips true soundTypes "va", skip.Silent := by
    decide +kernel
  obtain ⟨bindings, after, done, shown⟩ := exists_of_gives tested
  obtain ⟨skipped, names⟩ := of_decide_eq_true shown
  obtain ⟨second, last, run, alike, leftOut, same⟩ := HeaderLibrary.rebind_alike done true
  exact ⟨bindings, after, done, skipped, names, silent, second, last, run, alike, leftOut,
    same silent⟩

/-- The skipped `mix` takes the first numbered name away from the structure of `play`. -/
theorem mix_leaves_names : ∃ bindings after second last,
    (mixLibrary.bind true).run (.start soundTypes "va") = .ok bindings after ∧
      after.ledger.skipped = ["mix"] ∧
      (mixLibrary.rebind true bindings).run (.start soundTypes "va") = .ok second last ∧
      bindings.records.map RecordBinding.cName = ["anonymous_struct_two"] ∧
      second.records.map RecordBinding.cName = ["anonymous_struct_one"] ∧
      second.unordered ≠ bindings.unordered := by
  have tested : gives (fun bindings after => after.ledger.skipped = ["mix"] &&
      gives (fun second _ => decide (
        bindings.records.map RecordBinding.cName = ["anonymous_struct_two"] ∧
        second.records.map RecordBinding.cName = ["anonymous_struct_one"] ∧
        second.unordered ≠ bindings.unordered))
        ((mixLibrary.rebind true bindings).run (.start soundTypes "va")))
      ((mixLibrary.bind true).run (.start soundTypes "va")) = true := by decide +kernel
  obtain ⟨bindings, after, done, shown⟩ := exists_of_gives tested
  obtain ⟨skipped, again⟩ := Bool.and_eq_true_iff.1 shown
  obtain ⟨second, last, run, differ⟩ := exists_of_gives again
  exact ⟨bindings, after, second, last, done, of_decide_eq_true skipped, run,
    of_decide_eq_true differ⟩

end HeaderBind
