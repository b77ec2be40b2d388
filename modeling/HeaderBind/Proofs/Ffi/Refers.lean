/-
# HeaderBind.Proofs.Ffi.Refers — the tagged types that interface types name

An interface type that names a record or an enumeration names one to which the C type
leads without a pointer, by the name that it has for good (`ffiType_refers`).  The type
of a parameter or result names one that is needed from then on
(`neededFfiType_backed`).
-/
import HeaderBind.Proofs.Binding.Kept
import HeaderBind.Proofs.Need.Recorded

namespace HeaderBind

set_option autoImplicit false

open Outcome

namespace Scope

/-- The name that the binding of a tagged type has for good, if it has one yet. -/
def bindingName? (scope : Scope) (names : NameTable) (id : NodeId) : Option String :=
  (scope.settledName? names id).map Identifier.camelCase

/-- The interface type names one of the tagged types, if it names any. -/
def Refers (scope : Scope) (names : NameTable) (targets : NodeId → Prop) : FfiType → Prop
  | .scalar _ => True
  | .byValue name => ∃ id, targets id ∧ scope.graph.isRecord id = true ∧
      scope.bindingName? names id = some name
  | .enum name => ∃ id, targets id ∧ scope.graph.isEnum id = true ∧
      scope.bindingName? names id = some name

variable {scope : Scope}

theorem bindingName?_kept {earlier later : NameTable} (kept : earlier.KeptIn later) {id : NodeId}
    {name : String} (named : scope.bindingName? earlier id = some name) :
    scope.bindingName? later id = some name := by
  obtain ⟨settled, found, rfl⟩ := Option.map_eq_some_iff.1 named
  rw [bindingName?, scope.settledName?_kept kept found, Option.map_some]

theorem nameFor_bindingName {id : NodeId} {type : TaggedType} {name : String}
    {ledger after : Ledger} (node : scope.graph.node? id = some (.tagged type))
    (run : (scope.nameFor id).run ledger = .ok name after) :
    scope.bindingName? after.names id = some (Identifier.camelCase name) := by
  rw [bindingName?, scope.nameFor_settles (TypeGraph.tagged?_eq_some_iff.2 node) run,
    Option.map_some]

theorem Refers.mono {earlier later : NameTable} {targets others : NodeId → Prop}
    (kept : earlier.KeptIn later) (among : ∀ id, targets id → others id) {type : FfiType}
    (h : scope.Refers earlier targets type) : scope.Refers later others type := by
  cases type with
  | scalar symbol => trivial
  | byValue name =>
    obtain ⟨id, isTarget, isRecord, named⟩ := h
    exact ⟨id, among id isTarget, isRecord, bindingName?_kept kept named⟩
  | enum name =>
    obtain ⟨id, isTarget, isEnum, named⟩ := h
    exact ⟨id, among id isTarget, isEnum, bindingName?_kept kept named⟩

theorem SameShape.settledName?_eq {first second : Scope} (same : first.SameShape second)
    (names : NameTable) (id : NodeId) :
    second.settledName? names id = first.settledName? names id := by
  rw [settledName?, settledName?, same.graph.tagged?_eq]

theorem SameShape.refers {first second : Scope} (same : first.SameShape second)
    {names : NameTable} {targets : NodeId → Prop} {type : FfiType}
    (h : first.Refers names targets type) : second.Refers names targets type := by
  have settled : second.bindingName? names = first.bindingName? names := by
    funext id
    rw [bindingName?, bindingName?, same.settledName?_eq]
  cases type with
  | scalar symbol => trivial
  | byValue name =>
    obtain ⟨id, isTarget, isRecord, named⟩ := h
    exact ⟨id, isTarget, (same.graph.isRecord_eq id).trans isRecord, settled ▸ named⟩
  | enum name =>
    obtain ⟨id, isTarget, isEnum, named⟩ := h
    exact ⟨id, isTarget, (same.graph.isEnum_eq id).trans isEnum, settled ▸ named⟩

/-! ## Interface types -/

theorem ffiPointer_scalar {demand : Demand} {pointee : TypeRef} {ledger after : Ledger}
    {ffi : FfiType} (done : (scope.ffiPointer demand pointee).run ledger = .ok ffi after) :
    ∃ symbol, ffi = .scalar symbol := by
  unfold ffiPointer at done
  split at done
  · obtain ⟨rfl, -⟩ := pure_ok_iff.1 done
    exact ⟨_, rfl⟩
  · split at done
    · obtain ⟨⟨⟩, middle, -, last⟩ := bind_ok_iff.1 done
      obtain ⟨rfl, -⟩ := pure_ok_iff.1 last
      exact ⟨_, rfl⟩
    · obtain ⟨⟨⟩, middle, -, last⟩ := bind_ok_iff.1 done
      obtain ⟨rfl, -⟩ := pure_ok_iff.1 last
      exact ⟨_, rfl⟩
    · obtain ⟨rfl, -⟩ := pure_ok_iff.1 done
      exact ⟨_, rfl⟩

theorem ffiMeaning_refers {demand : Demand} {type : TypeRef} {user : String}
    {ledger after : Ledger} {ffi : FfiType}
    (done : (scope.ffiMeaning demand type user).run ledger = .ok ffi after) :
    scope.Refers after.names (fun id => scope.LeadsTo type false id) ffi := by
  unfold ffiMeaning at done
  cases type with
  | none => cases done
  | some id =>
    dsimp only at done
    split at done
    · cases done
    · obtain ⟨rfl, -⟩ := pure_ok_iff.1 done
      trivial
    · obtain ⟨symbol, rfl⟩ := ffiPointer_scalar done
      trivial
    · rename_i tagged node
      obtain ⟨⟨⟩, demanded, -, rest⟩ := bind_ok_iff.1 done
      obtain ⟨name, middle, named, last⟩ := bind_ok_iff.1 rest
      obtain ⟨rfl, rfl⟩ := pure_ok_iff.1 last
      have settled := nameFor_bindingName node named
      split
      · rename_i isRecord
        exact ⟨id, .tagged node, TypeGraph.isRecord_iff.2 ⟨tagged, node, isRecord⟩, settled⟩
      · rename_i notRecord
        have isEnum := Bool.eq_false_iff.2 notRecord
        exact ⟨id, .tagged node, TypeGraph.isEnum_iff.2 ⟨tagged, node, isEnum⟩, settled⟩
    · obtain ⟨rfl, -⟩ := pure_ok_iff.1 done
      trivial
    · cases done
    · cases done

/-- **An interface type names what its C type is**, by a name that stays. -/
theorem ffiType_refers {demand : Demand} {type : TypeRef} {user : String}
    {ledger after : Ledger} {ffi : FfiType}
    (done : (scope.ffiType demand type user).run ledger = .ok ffi after) :
    scope.Refers after.names (fun id => scope.LeadsTo type false id) ffi := by
  unfold ffiType at done
  split at done
  · rename_i name there
    split at done
    · obtain ⟨rfl, -⟩ := pure_ok_iff.1 done
      trivial
    · rename_i notMarker
      obtain ⟨id, rfl, node⟩ := Option.bind_eq_some_iff.1 there
      obtain ⟨meaning, middle, asked, rest⟩ := bind_ok_iff.1 done
      obtain ⟨means, rfl⟩ := Run.ofExcept_ok_iff.1 asked
      cases meaning with
      | variadic =>
        obtain ⟨rfl, -⟩ := pure_ok_iff.1 rest
        trivial
      | type meaning =>
        exact (ffiMeaning_refers rest).mono (.refl _) fun target leads =>
          .typedefName node notMarker means leads
  · exact ffiMeaning_refers done

/-- What a type leads to without a pointer, it demands. -/
theorem Demands.of_leadsTo {type : TypeRef} {viaPointer : Bool} {id : NodeId}
    (direct : viaPointer = false) (leads : scope.LeadsTo type viaPointer id) :
    scope.Demands type id := by
  induction leads with
  | tagged node => exact .tagged node (.self node)
  | pointer _ _ _ => cases direct
  | typedefName node other means _ ih => exact .typedefName node other means (ih direct)

/-- What the interface type names is needed. -/
def Backed (scope : Scope) (ledger : Ledger) (type : FfiType) : Prop :=
  scope.Refers ledger.names (fun id => ledger.needs.contains id = true) type

theorem Backed.extends {earlier later : Ledger} (grown : earlier.Extends later) {type : FfiType}
    (h : scope.Backed earlier type) : scope.Backed later type :=
  h.mono grown.names grown.needs

/-- What the type of a parameter or result names is needed from then on. -/
theorem neededFfiType_backed {type : TypeRef} {user : String} {ledger after : Ledger}
    {ffi : FfiType} (done : (scope.neededFfiType type user).run ledger = .ok ffi after) :
    scope.Backed after ffi := by
  obtain ⟨visited, exactly, added⟩ := neededFfiType_records type ledger ffi after done
  refine (ffiType_refers done).mono (.refl _) fun id leads => ?_
  rw [NeedTable.contains, added, NeedTable.find?_addAll,
    if_pos ((exactly id).2 (.of_leadsTo rfl leads))]
  rfl

end Scope

end HeaderBind
