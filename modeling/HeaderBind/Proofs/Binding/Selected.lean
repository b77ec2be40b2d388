/-
# HeaderBind.Proofs.Binding.Selected — which callables of a list are bound

A callable is bound or it uses an unsupported type, or else it ends the run; which of the
three happens is told by the types and typedefs, not by what was done before
(`binds_of_run`, `unsupported_of_run`).  So where a list of callables is bound, the ones
that have a binding are those that can be bound, the skipped ones are those that use an
unsupported type, and each keeps its place (`places_of_bindAll`, `skipped_of_bindAll`).
-/
import HeaderBind.Proofs.Need.Attribution
import HeaderBind.Proofs.Run.Steady

namespace HeaderBind.Scope

set_option autoImplicit false

open Outcome

/-- The callable is bound, whatever was done before and wherever it stands. -/
def Binds (scope : Scope) (callable : Callable) : Prop :=
  ∀ order ledger, ∃ binding after,
    (scope.bindCallable callable order).run ledger = .ok binding after

/-- To bind the callable ends with an unsupported type, whatever was done before and
wherever it stands. -/
def Unsupported (scope : Scope) (callable : Callable) : Prop :=
  ∀ order ledger, ∃ type user after,
    (scope.bindCallable callable order).run ledger = .error (.unsupported type user) after

variable {scope : Scope}

/-- A callable that is bound once is bound always. -/
theorem binds_of_run {callable : Callable} {order : Int} {ledger after : Ledger}
    {binding : CallableBinding}
    (done : (scope.bindCallable callable order).run ledger = .ok binding after) :
    scope.Binds callable := by
  intro place other
  have same := scope.bindCallable_endAlike callable place order other ledger
  rw [Run.ending_eq_none_iff.2 ⟨binding, after, done⟩] at same
  exact Run.ending_eq_none_iff.1 same

/-- A callable that uses an unsupported type once does so always. -/
theorem unsupported_of_run {callable : Callable} {order : Int} {ledger after : Ledger}
    {type : TypeRef} {user : String}
    (failed : (scope.bindCallable callable order).run ledger =
      .error (.unsupported type user) after) : scope.Unsupported callable := by
  intro place other
  have same := scope.bindCallable_endAlike callable place order other ledger
  rw [Run.ending_eq_unsupported_iff.2 ⟨after, failed⟩] at same
  exact ⟨type, user, Run.ending_eq_unsupported_iff.1 same⟩

theorem Unsupported.not_binds {callable : Callable} (h : scope.Unsupported callable) :
    ¬ scope.Binds callable := by
  intro binds
  obtain ⟨binding, after, done⟩ := binds 0 .empty
  obtain ⟨type, user, last, failed⟩ := h 0 .empty
  cases done.symm.trans failed

/-! ## One callable -/

theorem bindOrSkip_told {skipUnsupported : Bool} {callable : Callable} {order : Int}
    {ledger after : Ledger} {found : Option CallableBinding}
    (done : (scope.bindOrSkip skipUnsupported callable order).run ledger = .ok found after) :
    if found.isSome then scope.Binds callable
    else scope.Unsupported callable ∧ skipUnsupported = true := by
  have run : scope.bindOrSkip skipUnsupported callable order ledger = .ok found after := done
  unfold bindOrSkip at run
  split at run
  · rename_i bound
    cases run
    exact binds_of_run bound
  · rename_i failed
    split at run
    · cases run
      exact ⟨unsupported_of_run failed, rfl⟩
    · cases run

/-- Where unsupported types are skipped, only another fault ends the run. -/
theorem bindOrSkip_succeeds {callable : Callable}
    (h : scope.Binds callable ∨ scope.Unsupported callable) (order : Int) :
    Succeeds (scope.bindOrSkip true callable order) := by
  intro ledger
  show ∃ found after, scope.bindOrSkip true callable order ledger = .ok found after
  unfold bindOrSkip
  rcases h with binds | unsupported
  · obtain ⟨binding, after, done⟩ := binds order ledger
    rw [done]
    exact ⟨some binding, after, rfl⟩
  · obtain ⟨type, user, after, failed⟩ := unsupported order ledger
    rw [failed]
    exact ⟨none, _, rfl⟩

/-! ## Lists of callables -/

/-- Callables whose places are told apart: the places of the bindings are those of the
callables that can be bound. -/
theorem bindPlaces_told {skipUnsupported : Bool} {list : List (Callable × Nat)}
    {ledger after : Ledger} {found : List (Option CallableBinding)}
    (apart : (list.map (·.2)).Nodup)
    (done : (list.mapM fun place =>
      scope.bindOrSkip skipUnsupported place.1 place.2).run ledger = .ok found after) :
    ∀ place ∈ list,
      if CallableBinding.boundAt (found.filterMap id) place.2 then scope.Binds place.1
      else scope.Unsupported place.1 ∧ skipUnsupported = true := by
  induction list generalizing ledger found with
  | nil =>
    intro place member
    cases member
  | cons first list ih =>
    obtain ⟨one?, rest, middle, one, others, rfl⟩ := mapM_cons_ok_iff.1 done
    obtain ⟨fresh, distinct⟩ := List.nodup_cons.1 apart
    have told := bindOrSkip_told one
    intro place member
    rcases bindOrSkip_ok one with ⟨binding, rfl, bound⟩ | ⟨rfl, -⟩
    · obtain ⟨_, _, -, -, -, order⟩ := bindCallable_ok bound
      rw [found_some]
      rcases List.mem_cons.1 member with rfl | member
      · rw [CallableBinding.boundAt_cons_self order]
        exact told
      · have differ : place.2 ≠ first.2 := fun same =>
          fresh (List.mem_map.2 ⟨place, member, same⟩)
        rw [CallableBinding.boundAt_cons_ne order differ]
        exact ih distinct others place member
    · rw [found_none]
      rcases List.mem_cons.1 member with rfl | member
      · rw [CallableBinding.boundAt_eq_false (bindPlaces_accounts distinct others).1 fresh]
        exact told
      · exact ih distinct others place member

theorem bindAll_told {skipUnsupported : Bool} {callables : List Callable}
    {ledger after : Ledger} {bindings : List CallableBinding}
    (done : (scope.bindAll skipUnsupported callables).run ledger = .ok bindings after) :
    ∀ place ∈ callables.zipIdx,
      if CallableBinding.boundAt bindings place.2 then scope.Binds place.1
      else scope.Unsupported place.1 ∧ skipUnsupported = true := by
  obtain ⟨found, rfl, each⟩ := bindAll_ok done
  exact bindPlaces_told (List.nodup_zipIdx_map_snd callables) each

/-- **Where unsupported types are skipped, a list of callables is bound if and only if each
of them can be bound or uses an unsupported type.** -/
theorem bindAll_gives_iff {callables : List Callable} {ledger : Ledger} :
    (∃ bindings after, (scope.bindAll true callables).run ledger = .ok bindings after) ↔
      ∀ callable ∈ callables, scope.Binds callable ∨ scope.Unsupported callable := by
  constructor
  · rintro ⟨bindings, after, done⟩ callable member
    obtain ⟨index, found⟩ := List.getElem?_of_mem member
    have told := bindAll_told done (callable, index) (List.mk_mem_zipIdx_iff_getElem?.2 found)
    split at told
    · exact .inl told
    · exact .inr told.1
  · intro each
    have succeeds : Succeeds (scope.bindAll true callables) := by
      refine Succeeds.bind (Succeeds.mapM fun place member => ?_) fun _ => Succeeds.pure _
      exact bindOrSkip_succeeds (each place.1 (List.fst_mem_of_mem_zipIdx member)) place.2
    exact succeeds ledger

section Places

open Classical

/-- The places that have a binding are those of the callables that can be bound, and the
others are those of the callables that cannot. -/
theorem places_of_bindAll {skipUnsupported : Bool} {callables : List Callable}
    {ledger after : Ledger} {bindings : List CallableBinding}
    (done : (scope.bindAll skipUnsupported callables).run ledger = .ok bindings after)
    (bound : Bool) :
    CallableBinding.places bindings bound callables.zipIdx =
      callables.zipIdx.filter fun place => decide (scope.Binds place.1) == bound := by
  refine List.filter_congr fun place member => ?_
  have told := bindAll_told done place member
  split at told
  · rename_i here
    rw [here, decide_eq_true told]
  · rename_i free
    rw [decide_eq_false told.1.not_binds, Bool.eq_false_of_not_eq_true free]

theorem selected_of_bindAll {skipUnsupported : Bool} {callables : List Callable}
    {ledger after : Ledger} {bindings : List CallableBinding}
    (done : (scope.bindAll skipUnsupported callables).run ledger = .ok bindings after)
    (bound : Bool) :
    CallableBinding.selected bindings bound callables =
      callables.filter fun callable => decide (scope.Binds callable) == bound := by
  rw [CallableBinding.selected, places_of_bindAll done]
  conv_rhs => rw [← List.zipIdx_map_fst 0 callables, List.filter_map]
  rfl

/-- The skipped callables are those that use an unsupported type. -/
theorem skipped_of_bindAll {skipUnsupported : Bool} {callables : List Callable}
    {ledger after : Ledger} {bindings : List CallableBinding}
    (done : (scope.bindAll skipUnsupported callables).run ledger = .ok bindings after) :
    CallableBinding.selected bindings false callables =
      callables.filter fun callable => decide (scope.Unsupported callable) := by
  rw [selected_of_bindAll done]
  refine List.filter_congr fun callable member => ?_
  obtain ⟨index, found⟩ := List.getElem?_of_mem member
  have told := bindAll_told done (callable, index) (List.mk_mem_zipIdx_iff_getElem?.2 found)
  split at told
  · have supported : ¬ scope.Unsupported callable := fun unsupported => unsupported.not_binds told
    rw [decide_eq_true told, decide_eq_false supported]
    rfl
  · rw [decide_eq_false told.1.not_binds, decide_eq_true told.1]
    rfl

end Places

end HeaderBind.Scope
