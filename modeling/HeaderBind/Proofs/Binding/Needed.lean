/-
# HeaderBind.Proofs.Binding.Needed — the needed records can be bound

A callable that is bound has collected all that its parameters and its result demand
(`collected_of_bindCallable`), and what was collected to the end is bindable.  A callable
that is skipped adds nothing to what is needed.  So when the callables of all headers are
bound or skipped, every needed record is bindable (`bindHeaders_bindable`).
-/
import HeaderBind.Proofs.Binding.Stages
import HeaderBind.Proofs.Need.Bindable
import HeaderBind.Proofs.Need.Recorded

namespace HeaderBind

set_option autoImplicit false

open Outcome

namespace Scope

variable {scope : Scope} {user : String}

/-! ## What a callable that was bound has collected -/

/-- The tagged type was recorded by a collection that ended. -/
def Collected (scope : Scope) (user : String) (id : NodeId) : Prop :=
  ∃ type viaPointer ledger after,
    (scope.need type user viaPointer).run ledger = .ok () after ∧ scope.Needs type id

theorem Collected.bindable {id : NodeId} (typed : scope.MembersTyped)
    (h : scope.Collected user id) (isRecord : scope.graph.isRecord id = true) :
    scope.Bindable id := by
  obtain ⟨type, viaPointer, ledger, after, done, needs⟩ := h
  exact bindable_of_need typed done needs isRecord

theorem collected_of_ffiPointer {pointee : TypeRef} {id : NodeId} {ledger after : Ledger}
    {ffi : FfiType}
    (kind : (∃ inner, scope.graph.at? pointee = some (.pointer inner)) ∨
      ∃ tagged, scope.graph.at? pointee = some (.tagged tagged))
    (needs : scope.Needs pointee id)
    (done : (scope.ffiPointer (.needing scope user) pointee).run ledger = .ok ffi after) :
    scope.Collected user id := by
  have plain : scope.graph.isConstChar pointee = false := by
    rcases kind with ⟨inner, there⟩ | ⟨tagged, there⟩ <;> simp [TypeGraph.isConstChar, there]
  unfold ffiPointer at done
  rw [plain] at done
  rcases kind with ⟨inner, there⟩ | ⟨tagged, there⟩
  · simp only [there] at done
    obtain ⟨⟨⟩, middle, collected, -⟩ := bind_ok_iff.1 done
    exact ⟨pointee, true, ledger, middle, collected, needs⟩
  · simp only [there] at done
    obtain ⟨⟨⟩, middle, collected, -⟩ := bind_ok_iff.1 done
    exact ⟨pointee, true, ledger, middle, collected, needs⟩

theorem collected_of_ffiMeaning {type : TypeRef} {id : NodeId} {ledger after : Ledger}
    {ffi : FfiType} (final : scope.typedefs.nextName? scope.graph (.type type) = none)
    (demands : scope.Demands type id)
    (done : (scope.ffiMeaning (.needing scope user) type user).run ledger = .ok ffi after) :
    scope.Collected user id := by
  unfold ffiMeaning at done
  cases demands with
  | typedefName node other _ _ =>
    simp [TypedefTable.nextName?, TypeGraph.at?, node, other] at final
  | tagged node needs =>
    simp only [node] at done
    obtain ⟨⟨⟩, middle, collected, -⟩ := bind_ok_iff.1 done
    exact ⟨_, false, ledger, middle, collected, needs⟩
  | pointerToPointer node inner needs =>
    simp only [node] at done
    refine collected_of_ffiPointer ?_ needs done
    exact .inl ⟨_, inner⟩
  | pointerToTagged node inner needs =>
    simp only [node] at done
    refine collected_of_ffiPointer ?_ needs done
    exact .inr ⟨_, inner⟩

/-- What the type of a parameter or result demands was collected to the end. -/
theorem collected_of_neededFfiType {type : TypeRef} {id : NodeId} {ledger after : Ledger}
    {ffi : FfiType} (demands : scope.Demands type id)
    (done : (scope.neededFfiType type user).run ledger = .ok ffi after) :
    scope.Collected user id := by
  unfold neededFfiType ffiType at done
  split at done
  · rename_i name there
    obtain ⟨typedef, rfl, node⟩ := Option.bind_eq_some_iff.1 there
    obtain ⟨other, meaning, means, demands⟩ :
        name ≠ scope.typedefs.marker ∧ ∃ meaning,
          scope.finalMeaning name = .ok (.type meaning) ∧ scope.Demands meaning id := by
      simpa using (demands_typedefName_iff node).1 demands
    rw [if_neg other, means] at done
    exact collected_of_ffiMeaning (TypedefTable.nextName?_of_finalMeaning means) demands done
  · rename_i noTypedef
    refine collected_of_ffiMeaning ?_ demands done
    cases there : scope.graph.at? type with
    | none => simp [TypedefTable.nextName?, there]
    | some node =>
      cases node with
      | typedefName name => exact absurd there (noTypedef name)
      | _ => simp [TypedefTable.nextName?, there]

theorem collected_of_bindCallable {callable : Callable} {order : Int} {id : NodeId}
    {ledger after : Ledger} {binding : CallableBinding} (reaches : scope.Reaches callable id)
    (done : (scope.bindCallable callable order).run ledger = .ok binding after) :
    scope.Collected callable.name id := by
  obtain ⟨params, middle, first, result, -, -⟩ := bindCallable_ok done
  rcases reaches with ⟨param, isParam, demands⟩ | demands
  · obtain ⟨ffi, -, start, last, -, one, -⟩ :=
      mapM_ok_of_mem (fun param => scope.neededFfiType_grows param callable.name) first isParam
    exact collected_of_neededFfiType demands one
  · exact collected_of_neededFfiType demands result

/-! ## Needed records are bindable -/

/-- Every needed record can be bound. -/
def NeedsBindable (scope : Scope) (ledger : Ledger) : Prop :=
  ∀ id, ledger.needs.contains id = true → scope.graph.isRecord id = true → scope.Bindable id

theorem NeedsBindable.of_needs {earlier later : Ledger} (h : scope.NeedsBindable earlier)
    (same : later.needs = earlier.needs) : scope.NeedsBindable later :=
  fun id needed => h id (same ▸ needed)

theorem SameShape.needsBindable {first second : Scope} (same : first.SameShape second)
    {ledger : Ledger} (h : first.NeedsBindable ledger) : second.NeedsBindable ledger :=
  fun id needed isRecord =>
    same.bindable (h id needed ((same.symm.graph.isRecord_eq id).trans isRecord))

theorem bindCallable_bindable (typed : scope.MembersTyped) {callable : Callable} {order : Int}
    {ledger after : Ledger} {binding : CallableBinding} (before : scope.NeedsBindable ledger)
    (done : (scope.bindCallable callable order).run ledger = .ok binding after) :
    scope.NeedsBindable after := by
  obtain ⟨visited, exactly, added⟩ := bindCallable_records callable order ledger binding after done
  intro id needed isRecord
  rw [NeedTable.contains, added, NeedTable.find?_addAll] at needed
  by_cases reached : id ∈ visited
  · exact (collected_of_bindCallable ((exactly id).1 reached) done).bindable typed isRecord
  · rw [if_neg reached] at needed
    exact before id needed isRecord

theorem bindOrSkip_bindable (typed : scope.MembersTyped) {skipUnsupported : Bool}
    {callable : Callable} {order : Int} {ledger after : Ledger}
    {found : Option CallableBinding} (before : scope.NeedsBindable ledger)
    (done : (scope.bindOrSkip skipUnsupported callable order).run ledger = .ok found after) :
    scope.NeedsBindable after := by
  rcases bindOrSkip_ok done with ⟨binding, -, bound⟩ | ⟨-, skipped⟩
  · exact bindCallable_bindable typed before bound
  · exact before.of_needs skipped.needs

theorem bindAll_bindable (typed : scope.MembersTyped) {skipUnsupported : Bool}
    {callables : List Callable} {ledger after : Ledger} {bindings : List CallableBinding}
    (before : scope.NeedsBindable ledger)
    (done : (scope.bindAll skipUnsupported callables).run ledger = .ok bindings after) :
    scope.NeedsBindable after := by
  obtain ⟨found, -, each⟩ := bindAll_ok done
  exact mapM_ok_preserves (fun place _ start value last => bindOrSkip_bindable typed) before each

end Scope

/-! ## Libraries -/

/-- The members are typed, and every needed record can be bound. -/
structure Workspace.Bindable (workspace : Workspace) : Prop where
  typed : workspace.scope.MembersTyped
  needs : workspace.scope.NeedsBindable workspace.ledger

namespace HeaderLibrary

variable {library : HeaderLibrary} {skipUnsupported : Bool}

theorem bindHeader_bindable {header : String} {workspace after : Workspace} {bound : BoundHeader}
    (before : workspace.Bindable)
    (done : (library.bindHeader skipUnsupported header).run workspace = .ok bound after) :
    after.Bindable := by
  obtain ⟨middle, callbacks, functions, scope, -⟩ := bindHeader_ok done
  have same := library.sameShape_scanScope workspace.scope header
  rw [← scope] at same callbacks functions
  have typed := same.membersTyped before.typed
  have scanned : after.scope.NeedsBindable
      (workspace.afterScan header (library.scan workspace.scope header)).ledger :=
    (same.needsBindable before.needs).of_needs rfl
  have first := Scope.bindAll_bindable typed scanned callbacks
  exact ⟨typed, Scope.bindAll_bindable typed first functions⟩

theorem bindHeaders_bindable {graph : TypeGraph} {marker : String} {bound : List BoundHeader}
    {after : Workspace}
    (typed : (library.readTypedefs (.start graph marker)).scope.MembersTyped)
    (done : (library.bindHeaders skipUnsupported).run (.start graph marker) = .ok bound after) :
    after.Bindable := by
  refine mapM_ok_preserves (fun header _ start value last => bindHeader_bindable) ⟨typed, ?_⟩
    (bindHeaders_ok done)
  intro id needed
  rw [(library.readTypedefs_onlyNames (.start graph marker)).needs] at needed
  cases needed

end HeaderLibrary

end HeaderBind
