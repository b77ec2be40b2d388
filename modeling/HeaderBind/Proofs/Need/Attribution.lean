/-
# HeaderBind.Proofs.Need.Attribution — every needed type tells exactly its users

In the end a tagged type is needed if and only if some callable that was bound
reaches it, and its users are the names of those callables in the order in which
they were bound, each once.  A skipped callable leaves no trace in the needs.

A callable reaches what it reaches in the scope in which it is bound, which is that of
the scan of its header: a later header may still assemble types.
-/
import HeaderBind.Proofs.Binding.Stages
import HeaderBind.Proofs.Need.Recorded
import Mathlib.Data.List.Induction
import Mathlib.Data.List.Sigma

namespace HeaderBind

set_option autoImplicit false

open Outcome

/-! ## Users of a type -/

namespace NeedTable

/-- The users of a type after more of them were added. -/
def withUsers (found : Option (List String)) (users : List String) : Option (List String) :=
  users.foldl (fun found user => some (addUser (found.getD []) user)) found

theorem withUsers_append (found : Option (List String)) (first second : List String) :
    withUsers found (first ++ second) = withUsers (withUsers found first) second :=
  List.foldl_append

theorem addUser_eraseDups (users : List String) (user : String) :
    addUser users.eraseDups user = (users ++ [user]).eraseDups := by
  rw [List.eraseDups_append, addUser]
  by_cases met : user ∈ users <;> simp [met, List.removeAll, List.eraseDups_cons]

/-- A type that nothing used has as users those that were added, each once. -/
theorem withUsers_none (users : List String) :
    withUsers none users = if users = [] then none else some users.eraseDups := by
  induction users using List.reverseRecOn with
  | nil => rfl
  | append_singleton users user ih =>
    rw [withUsers_append, ih, if_neg (List.append_ne_nil_of_right_ne_nil _ (List.cons_ne_nil _ _)),
      ← addUser_eraseDups]
    by_cases unused : users = []
    · subst unused
      rfl
    · rw [if_neg unused]
      rfl

end NeedTable

/-! ## Callables -/

/-- A callable, and the scope in which it is bound. -/
structure ScopedCallable where
  scope : Scope
  callable : Callable

namespace ScopedCallable

def Reaches (use : ScopedCallable) (id : NodeId) : Prop := use.scope.Reaches use.callable id

open Classical in
/-- The names of the callables that reach the tagged type, in order. -/
noncomputable def usersOf (uses : List ScopedCallable) (id : NodeId) : List String :=
  (uses.filter fun use => use.Reaches id).map fun use => use.callable.name

theorem usersOf_append (first second : List ScopedCallable) (id : NodeId) :
    usersOf (first ++ second) id = usersOf first id ++ usersOf second id := by
  simp [usersOf]

theorem usersOf_eq_nil_iff {uses : List ScopedCallable} {id : NodeId} :
    usersOf uses id = [] ↔ ¬ ∃ use ∈ uses, use.Reaches id := by
  simp [usersOf]

end ScopedCallable

/-- The callables were bound and the names were skipped, and nothing else was done that
the needs tell. -/
structure Ledger.Accounts (uses : List ScopedCallable) (leftOut : List String)
    (earlier later : Ledger) : Prop where
  needs : ∀ id, later.needs.find? id =
    NeedTable.withUsers (earlier.needs.find? id) (ScopedCallable.usersOf uses id)
  skipped : later.skipped = earlier.skipped ++ leftOut

namespace Ledger.Accounts

variable {first second third : Ledger} {uses more : List ScopedCallable}
  {leftOut others : List String}

theorem nothing (needs : second.needs = first.needs) (skipped : second.skipped = first.skipped) :
    Accounts [] [] first second :=
  ⟨fun id => by rw [needs]; rfl, by rw [skipped, List.append_nil]⟩

theorem append (one : Accounts uses leftOut first second)
    (two : Accounts more others second third) :
    Accounts (uses ++ more) (leftOut ++ others) first third := by
  refine ⟨fun id => ?_, ?_⟩
  · rw [two.needs, one.needs, ScopedCallable.usersOf_append, NeedTable.withUsers_append]
  · rw [two.skipped, one.skipped, List.append_assoc]

/-- Where nothing was needed before, what is needed is what the callables reach. -/
theorem contains_iff (h : Accounts uses leftOut first second)
    (fresh : ∀ id, first.needs.find? id = none) (id : NodeId) :
    second.needs.contains id = true ↔ ∃ use ∈ uses, use.Reaches id := by
  rw [NeedTable.contains, h.needs, fresh, NeedTable.withUsers_none]
  by_cases unused : ScopedCallable.usersOf uses id = []
  · rw [if_pos unused]
    simpa using ScopedCallable.usersOf_eq_nil_iff.1 unused
  · rw [if_neg unused]
    simpa [ScopedCallable.usersOf_eq_nil_iff] using unused

theorem users_eq (h : Accounts uses leftOut first second)
    (fresh : ∀ id, first.needs.find? id = none) (id : NodeId) :
    second.needs.users id = (ScopedCallable.usersOf uses id).eraseDups := by
  rw [NeedTable.users, h.needs, fresh, NeedTable.withUsers_none]
  split
  · rename_i unused
    rw [unused]
    rfl
  · rfl

end Ledger.Accounts

namespace CallableBinding

/-- Some binding is that of the callable at the place. -/
def boundAt (bindings : List CallableBinding) (place : Nat) : Bool :=
  bindings.any fun binding => binding.order = place

/-- The places that have a binding, or those that have none. -/
def places (bindings : List CallableBinding) (bound : Bool) (list : List (Callable × Nat)) :
    List (Callable × Nat) :=
  list.filter fun place => boundAt bindings place.2 == bound

theorem boundAt_cons_self {binding : CallableBinding} {place : Nat}
    (order : binding.order = place) (bindings : List CallableBinding) :
    boundAt (binding :: bindings) place = true := by
  simp [boundAt, order]

theorem boundAt_cons_ne {binding : CallableBinding} {place other : Nat}
    (order : binding.order = place) (differ : other ≠ place) (bindings : List CallableBinding) :
    boundAt (binding :: bindings) other = boundAt bindings other := by
  have apart : ¬ (place : Int) = other := by omega
  simp [boundAt, order, apart]

theorem boundAt_eq_false {bindings : List CallableBinding} {list : List (Callable × Nat)}
    {place : Nat} (orders : ∀ binding ∈ bindings, ∃ other ∈ list, binding.order = other.2)
    (fresh : place ∉ list.map (·.2)) : boundAt bindings place = false := by
  refine List.any_eq_false.2 fun binding member same => fresh ?_
  obtain ⟨other, isPlace, order⟩ := orders binding member
  have here : other.2 = place := by
    have := of_decide_eq_true same
    omega
  exact List.mem_map.2 ⟨other, isPlace, here⟩

theorem places_cons_of_eq {bindings : List CallableBinding} {bound : Bool}
    {place : Callable × Nat} (here : boundAt bindings place.2 = bound)
    (list : List (Callable × Nat)) :
    places bindings bound (place :: list) = place :: places bindings bound list :=
  List.filter_cons_of_pos (by simpa using here)

theorem places_cons_of_ne {bindings : List CallableBinding} {bound : Bool}
    {place : Callable × Nat} (here : boundAt bindings place.2 ≠ bound)
    (list : List (Callable × Nat)) :
    places bindings bound (place :: list) = places bindings bound list :=
  List.filter_cons_of_neg (by simpa using here)

/-- A binding of another place tells nothing about these. -/
theorem places_cons_binding {binding : CallableBinding} {place : Nat}
    (order : binding.order = place) {list : List (Callable × Nat)}
    (fresh : place ∉ list.map (·.2)) (bindings : List CallableBinding) (bound : Bool) :
    places (binding :: bindings) bound list = places bindings bound list := by
  refine List.filter_congr fun other member => ?_
  have differ : other.2 ≠ place := fun same => fresh (List.mem_map.2 ⟨other, member, same⟩)
  rw [boundAt_cons_ne order differ]

/-- The callables that have a binding, or those that have none. -/
def selected (bindings : List CallableBinding) (bound : Bool) (callables : List Callable) :
    List Callable :=
  (places bindings bound callables.zipIdx).map (·.1)

theorem perm_insertByOrder (binding : CallableBinding) (bindings : List CallableBinding) :
    (binding.insertByOrder bindings).Perm (binding :: bindings) := by
  induction bindings with
  | nil => exact .refl _
  | cons first rest ih =>
    rw [insertByOrder]
    split
    · exact .refl _
    · exact (ih.cons first).trans (.swap binding first rest)

theorem perm_sortByOrder (bindings : List CallableBinding) :
    (sortByOrder bindings).Perm bindings := by
  induction bindings with
  | nil => exact .refl _
  | cons binding rest ih =>
    exact (perm_insertByOrder binding (sortByOrder rest)).trans (ih.cons binding)

theorem selected_sortByOrder (bindings : List CallableBinding) (bound : Bool)
    (callables : List Callable) :
    selected (sortByOrder bindings) bound callables = selected bindings bound callables := by
  have same : boundAt (sortByOrder bindings) = boundAt bindings := by
    funext place
    exact (perm_sortByOrder bindings).any_eq
  rw [selected, selected, places, places, same]

end CallableBinding

namespace Scope

variable {scope : Scope}

theorem bindCallable_accounts {callable : Callable} {order : Int} {ledger after : Ledger}
    {binding : CallableBinding}
    (done : (scope.bindCallable callable order).run ledger = .ok binding after) :
    Ledger.Accounts [⟨scope, callable⟩] [] ledger after := by
  obtain ⟨visited, exactly, added⟩ := bindCallable_records callable order ledger binding after done
  refine ⟨fun id => ?_, ?_⟩
  · rw [added, NeedTable.find?_addAll]
    by_cases reached : scope.Reaches callable id
    · have isUser : ScopedCallable.usersOf [⟨scope, callable⟩] id = [callable.name] := by
        simp [ScopedCallable.usersOf, ScopedCallable.Reaches, reached]
      rw [if_pos ((exactly id).2 reached), isUser]
      rfl
    · have noUser : ScopedCallable.usersOf [⟨scope, callable⟩] id = [] := by
        simp [ScopedCallable.usersOf, ScopedCallable.Reaches, reached]
      rw [if_neg fun member => reached ((exactly id).1 member), noUser]
      rfl
  · rw [((scope.bindCallable_grows callable order).ok done).skipped, List.append_nil]

/-- A callable is bound, or it is skipped and all that was needed for it is not. -/
theorem bindOrSkip_accounts {skipUnsupported : Bool} {callable : Callable} {order : Int}
    {ledger after : Ledger} {found : Option CallableBinding}
    (done : (scope.bindOrSkip skipUnsupported callable order).run ledger = .ok found after) :
    (∃ binding, found = some binding ∧ binding.order = order ∧
        Ledger.Accounts [⟨scope, callable⟩] [] ledger after) ∨
      (found = none ∧ Ledger.Accounts [] [callable.name] ledger after) := by
  rcases bindOrSkip_ok done with ⟨binding, rfl, bound⟩ | ⟨rfl, skipped⟩
  · obtain ⟨_, _, -, -, -, order⟩ := bindCallable_ok bound
    exact .inl ⟨binding, rfl, order, bindCallable_accounts bound⟩
  · refine .inr ⟨rfl, fun id => ?_, skipped.skipped⟩
    rw [skipped.needs]
    rfl

/-- Callables whose places are told apart: the bindings tell which of them were bound. -/
theorem bindPlaces_accounts {skipUnsupported : Bool} {list : List (Callable × Nat)}
    {ledger after : Ledger} {found : List (Option CallableBinding)}
    (apart : (list.map (·.2)).Nodup)
    (done : (list.mapM fun place =>
      scope.bindOrSkip skipUnsupported place.1 place.2).run ledger = .ok found after) :
    (∀ binding ∈ found.filterMap id, ∃ place ∈ list, binding.order = place.2) ∧
      Ledger.Accounts
        ((CallableBinding.places (found.filterMap id) true list).map fun place =>
          ⟨scope, place.1⟩)
        ((CallableBinding.places (found.filterMap id) false list).map fun place => place.1.name)
        ledger after := by
  induction list generalizing ledger found with
  | nil =>
    obtain ⟨rfl, rfl⟩ := mapM_nil_ok_iff.1 done
    exact ⟨by simp, .nothing rfl rfl⟩
  | cons place list ih =>
    obtain ⟨first, rest, middle, one, others, rfl⟩ := mapM_cons_ok_iff.1 done
    obtain ⟨fresh, apart⟩ := List.nodup_cons.1 apart
    obtain ⟨orders, accounts⟩ := ih apart others
    rcases bindOrSkip_accounts one with ⟨binding, rfl, order, bound⟩ | ⟨rfl, skipped⟩
    · rw [found_some]
      refine ⟨fun other member => ?_, ?_⟩
      · rcases List.mem_cons.1 member with rfl | member
        · exact ⟨place, List.mem_cons_self, order⟩
        · obtain ⟨at_, isPlace, same⟩ := orders other member
          exact ⟨at_, List.mem_cons_of_mem place isPlace, same⟩
      · have here := CallableBinding.boundAt_cons_self order (rest.filterMap id)
        rw [CallableBinding.places_cons_of_eq here,
          CallableBinding.places_cons_of_ne (by rw [here]; decide),
          CallableBinding.places_cons_binding order fresh,
          CallableBinding.places_cons_binding order fresh]
        exact bound.append accounts
    · rw [found_none]
      refine ⟨fun other member => ?_, ?_⟩
      · obtain ⟨at_, isPlace, same⟩ := orders other member
        exact ⟨at_, List.mem_cons_of_mem place isPlace, same⟩
      · have here := CallableBinding.boundAt_eq_false orders fresh
        rw [CallableBinding.places_cons_of_ne (by rw [here]; decide),
          CallableBinding.places_cons_of_eq here]
        exact skipped.append accounts

theorem bindAll_accounts {skipUnsupported : Bool} {callables : List Callable}
    {ledger after : Ledger} {bindings : List CallableBinding}
    (done : (scope.bindAll skipUnsupported callables).run ledger = .ok bindings after) :
    Ledger.Accounts
      ((CallableBinding.selected bindings true callables).map (⟨scope, ·⟩))
      ((CallableBinding.selected bindings false callables).map Callable.name) ledger after := by
  obtain ⟨found, rfl, each⟩ := bindAll_ok done
  have accounts := (bindPlaces_accounts (List.nodup_zipIdx_map_snd callables) each).2
  rw [CallableBinding.selected, CallableBinding.selected, List.map_map, List.map_map]
  exact accounts

end Scope

/-! ## Headers -/

/-- The callables of a header that have a binding, or those that have none: callbacks,
then functions. -/
def HeaderBindings.callables (bindings : HeaderBindings) (bound : Bool) (scan : CallableScan) :
    List Callable :=
  CallableBinding.selected bindings.callbacks bound scan.callbacks ++
    CallableBinding.selected bindings.functions bound scan.functions

namespace HeaderLibrary

variable (library : HeaderLibrary)

/-- The callables of the headers that have a binding, or those that have none, in the
order in which they are bound. -/
def callablesFrom (bound : Bool) : Scope → List String → List HeaderBindings →
    List ScopedCallable
  | scope, header :: headers, bindings :: rest =>
      (bindings.callables bound (library.scan scope header)).map
          (⟨library.scanScope scope header, ·⟩) ++
        callablesFrom bound (library.scanScope scope header) headers rest
  | _, _, _ => []

/-- The callables of a library that have a binding, or those that have none. -/
def callables (graph : TypeGraph) (marker : String) (bindings : Bindings) (bound : Bool) :
    List ScopedCallable :=
  library.callablesFrom bound (library.readTypedefs (.start graph marker)).scope
    library.headers bindings.headers

variable {library}

theorem bindHeader_accounts {skipUnsupported : Bool} {header : String}
    {workspace after : Workspace} {bound : BoundHeader}
    (done : (library.bindHeader skipUnsupported header).run workspace = .ok bound after) :
    Ledger.Accounts
      ((bound.toBindings.callables true (library.scan workspace.scope header)).map
        (⟨library.scanScope workspace.scope header, ·⟩))
      ((bound.toBindings.callables false (library.scan workspace.scope header)).map Callable.name)
      workspace.ledger after.ledger := by
  obtain ⟨middle, callbacks, functions, -⟩ := bindHeader_ok done
  have both := (Scope.bindAll_accounts callbacks).append (Scope.bindAll_accounts functions)
  rw [← List.map_append, ← List.map_append] at both
  unfold HeaderBindings.callables BoundHeader.toBindings HeaderBindings.ofCallables
  simp only [CallableBinding.selected_sortByOrder]
  exact ⟨both.needs, both.skipped⟩

theorem bindHeadersFrom_accounts {skipUnsupported : Bool} {headers : List String}
    {workspace after : Workspace} {bound : List BoundHeader}
    (done : (headers.mapM (library.bindHeader skipUnsupported)).run workspace = .ok bound after) :
    Ledger.Accounts
      (library.callablesFrom true workspace.scope headers (bound.map BoundHeader.toBindings))
      ((library.callablesFrom false workspace.scope headers
        (bound.map BoundHeader.toBindings)).map fun use => use.callable.name)
      workspace.ledger after.ledger := by
  induction headers generalizing workspace bound with
  | nil =>
    obtain ⟨rfl, rfl⟩ := mapM_nil_ok_iff.1 done
    exact .nothing rfl rfl
  | cons header headers ih =>
    obtain ⟨first, rest, middle, one, others, rfl⟩ := mapM_cons_ok_iff.1 done
    obtain ⟨-, -, -, scope, -⟩ := bindHeader_ok one
    have later := ih others
    rw [scope] at later
    have both := (bindHeader_accounts one).append later
    simp only [callablesFrom, List.map_cons, List.map_append, List.map_map]
    exact both

/-- A fresh run over all headers. -/
theorem bindHeaders_accounts {graph : TypeGraph} {marker : String} {skipUnsupported : Bool}
    {after : Workspace} {bound : List BoundHeader}
    (done : (library.bindHeaders skipUnsupported).run (.start graph marker) = .ok bound after) :
    Ledger.Accounts
      (library.callablesFrom true (library.readTypedefs (.start graph marker)).scope
        library.headers (bound.map BoundHeader.toBindings))
      ((library.callablesFrom false (library.readTypedefs (.start graph marker)).scope
        library.headers (bound.map BoundHeader.toBindings)).map fun use => use.callable.name)
      .empty after.ledger := by
  have accounts := bindHeadersFrom_accounts (bindHeaders_ok done)
  have read := library.readTypedefs_onlyNames (.start graph marker)
  refine ⟨fun id => ?_, ?_⟩
  · rw [accounts.needs, read.needs]
    rfl
  · rw [accounts.skipped, read.skipped]
    rfl

/-- **Every needed type tells exactly its users.**  After a run that gives bindings, a
tagged type is needed if and only if a bound callable reaches it, and its users are the
names of the bound callables that reach it, in order and each once.  The callables that
are not bound are the skipped ones. -/
theorem needs_of_bind {library : HeaderLibrary} {graph : TypeGraph} {marker : String}
    {skipUnsupported : Bool} {bindings : Bindings} {after : Workspace}
    (done : (library.bind skipUnsupported).run (.start graph marker) = .ok bindings after) :
    (∀ id, (after.ledger.needs.contains id = true ↔
        ∃ use ∈ library.callables graph marker bindings true, use.Reaches id) ∧
      after.ledger.needs.users id =
        (ScopedCallable.usersOf (library.callables graph marker bindings true) id).eraseDups) ∧
    after.ledger.skipped =
      (library.callables graph marker bindings false).map fun use => use.callable.name := by
  obtain ⟨bound, middle, ledger, headers, enums, records, same⟩ := bind_ok done
  have accounts := bindHeaders_accounts headers
  rw [← same] at accounts
  have emitted := middle.scope.bindEnums_onlyNames.ok enums
  have last := middle.scope.bindRecords_onlyNames.ok records
  have needs : after.ledger.needs = middle.ledger.needs := last.needs.trans emitted.needs
  have skipped : after.ledger.skipped = middle.ledger.skipped := last.skipped.trans emitted.skipped
  rw [needs, skipped]
  exact ⟨fun id => ⟨accounts.contains_iff (fun _ => rfl) id, accounts.users_eq (fun _ => rfl) id⟩,
    accounts.skipped⟩

end HeaderLibrary

/-! ## Sprites and pixels -/

/-- The types of four functions.  `draw` takes a sprite by a typedef of a pointer, `plot` a
point by a typedef of a typedef and an array, `trace` a pointer to a typedef of a pointer, and
`tint` a color by a typedef and further arguments.  A sprite holds a point and a color by
typedefs, and leads by one to another sprite. -/
def canvasTypes : TypeGraph := ⟨#[
  .builtin "int",
  .tagged ⟨.enum, "color", none, []⟩,
  .tagged ⟨.struct, "point", some [⟨"x", some ⟨0⟩⟩], []⟩,
  .typedefName "point_t",
  .typedefName "spot",
  .typedefName "color_t",
  .tagged ⟨.struct, "sprite",
    some [⟨"at", some ⟨4⟩⟩, ⟨"color", some ⟨5⟩⟩, ⟨"next", some ⟨8⟩⟩], []⟩,
  .pointer (some ⟨6⟩),
  .typedefName "sprite_ref",
  .function ⟨[⟨none, some ⟨8⟩⟩], none, false⟩,
  .uncovered "int[4]",
  .function ⟨[⟨none, some ⟨4⟩⟩, ⟨none, some ⟨10⟩⟩], none, false⟩,
  .pointer (some ⟨8⟩),
  .function ⟨[⟨none, some ⟨12⟩⟩], none, false⟩,
  .typedefName "va",
  .function ⟨[⟨none, some ⟨5⟩⟩, ⟨none, some ⟨14⟩⟩], none, false⟩]⟩

def canvasLibrary : HeaderLibrary where
  headers := ["canvas.h"]
  files := [("canvas.h", [
    .declaration (some ⟨2⟩) [⟨"point_t", none⟩] true,
    .declaration (some ⟨3⟩) [⟨"spot", none⟩] true,
    .declaration (some ⟨1⟩) [⟨"color_t", none⟩] true,
    .declaration (some ⟨7⟩) [⟨"sprite_ref", none⟩] true,
    .declaration (some ⟨0⟩) [⟨"draw", some ⟨9⟩⟩] false,
    .declaration (some ⟨0⟩) [⟨"plot", some ⟨11⟩⟩] false,
    .declaration (some ⟨0⟩) [⟨"trace", some ⟨13⟩⟩] false,
    .declaration (some ⟨0⟩) [⟨"tint", some ⟨15⟩⟩] false])]

/-- The skipped `plot` leaves no trace, so that the point is needed for `draw` alone; the color
is needed for `tint` as well, and `trace` needs nothing. -/
theorem needs_of_bind_canvas : ∃ bindings after,
    (canvasLibrary.bind true).run (.start canvasTypes "va") = .ok bindings after ∧
      ((∀ id, (after.ledger.needs.contains id = true ↔
          ∃ use ∈ canvasLibrary.callables canvasTypes "va" bindings true, use.Reaches id) ∧
        after.ledger.needs.users id = (ScopedCallable.usersOf
          (canvasLibrary.callables canvasTypes "va" bindings true) id).eraseDups) ∧
      after.ledger.skipped =
        (canvasLibrary.callables canvasTypes "va" bindings false).map fun use =>
          use.callable.name) ∧
      after.ledger.needs.entries =
        [(⟨2⟩, ["draw"]), (⟨1⟩, ["draw", "tint"]), (⟨6⟩, ["draw"])] ∧
      after.ledger.skipped = ["plot"] := by
  have tested : gives (fun _ after => decide (after.ledger.needs.entries =
        [(⟨2⟩, ["draw"]), (⟨1⟩, ["draw", "tint"]), (⟨6⟩, ["draw"])] ∧
      after.ledger.skipped = ["plot"]))
      ((canvasLibrary.bind true).run (.start canvasTypes "va")) = true := by decide +kernel
  obtain ⟨bindings, after, done, shown⟩ := exists_of_gives tested
  exact ⟨bindings, after, done, HeaderLibrary.needs_of_bind done, of_decide_eq_true shown⟩

/-- The types of `draw`, which takes a pixel, and of `plot`, which takes a point and an
array.  A pixel holds a point and a color, none of them by a typedef. -/
def pixelTypes : TypeGraph := ⟨#[
  .builtin "int",
  .tagged ⟨.enum, "color", none, []⟩,
  .tagged ⟨.struct, "point", some [⟨"x", some ⟨0⟩⟩], []⟩,
  .tagged ⟨.struct, "pixel", some [⟨"at", some ⟨2⟩⟩, ⟨"color", some ⟨1⟩⟩], []⟩,
  .function ⟨[⟨none, some ⟨3⟩⟩], none, false⟩,
  .uncovered "int[4]",
  .function ⟨[⟨none, some ⟨2⟩⟩, ⟨none, some ⟨5⟩⟩], none, false⟩]⟩

def pixelLibrary : HeaderLibrary where
  headers := ["pixel.h"]
  files := [("pixel.h", [
    .declaration (some ⟨0⟩) [⟨"draw", some ⟨4⟩⟩] false,
    .declaration (some ⟨0⟩) [⟨"plot", some ⟨6⟩⟩] false])]

end HeaderBind
