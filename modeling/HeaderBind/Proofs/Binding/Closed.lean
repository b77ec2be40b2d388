/-
# HeaderBind.Proofs.Binding.Closed — bindings name only what is bound

The bindings of a library are closed and in order (`closed_of_bind`).  What a bound
callable names is needed when it is bound, and stays needed and named, because neither
a skipped callable nor the binding of the needed types takes anything back
(`bindHeaders_backed`).  The needed types are closed under what their members use
(`needs_closed_of_bindHeaders`), and all of them are bound (`bindEnums_named`,
`bindRecords_supplied`).
-/
import HeaderBind.Proofs.Binding.Record
import HeaderBind.Proofs.Need.Attribution

namespace HeaderBind

set_option autoImplicit false

open Outcome

namespace CallableBinding

/-- The types of the parameters and of the result. -/
def types (binding : CallableBinding) : List FfiType := binding.params ++ [binding.result]

end CallableBinding

/-- Bindings name only what is bound, and fields what comes before them. -/
structure Bindings.Closed (bindings : Bindings) : Prop where
  /-- A record that a field holds by value comes earlier than the record of the field. -/
  fields : ∀ (i : Nat) (record : RecordBinding), bindings.records[i]? = some record →
    ∀ field ∈ record.fields, field.type.Known
      ((bindings.records.take i).map (·.name)) (bindings.enums.map (·.name))
  callables : ∀ header ∈ bindings.headers, ∀ binding ∈ header.callbacks ++ header.functions,
    ∀ type ∈ binding.types, type.Known
      (bindings.records.map (·.name)) (bindings.enums.map (·.name))

namespace Scope

variable {scope : Scope}

/-! ## Enumerations -/

/-- Every needed enumeration is bound. -/
theorem bindEnums_named {enums : List EnumBinding} {ledger after : Ledger} {id : NodeId}
    (done : scope.bindEnums.run ledger = .ok enums after)
    (needed : ledger.needs.contains id = true) (isEnum : scope.graph.isEnum id = true) :
    ∃ name ∈ enums.map (·.name), scope.bindingName? after.names id = some name := by
  obtain ⟨same, start, read, rest⟩ := bind_ok_iff.1 done
  cases read
  obtain ⟨entry, isEntry, rfl⟩ := List.mem_map.1 (NeedTable.mem_types_iff.2 needed)
  have listed : entry ∈ ledger.needs.entries.filter fun entry => scope.graph.isEnum entry.1 :=
    List.mem_filter.2 ⟨isEntry, isEnum⟩
  obtain ⟨order, at_⟩ := List.getElem?_of_mem listed
  obtain ⟨binding, isBinding, first, last, -, bound, kept⟩ :=
    mapM_ok_of_mem (fun place => scope.bindEnum_onlyNames _ _ _) rest
      (List.mk_mem_zipIdx_iff_getElem?.2 at_)
  obtain ⟨cName, named, asked, done⟩ := bind_ok_iff.1 bound
  obtain ⟨rfl, rfl⟩ := pure_ok_iff.1 done
  obtain ⟨type, node, -⟩ := TypeGraph.isEnum_iff.1 isEnum
  exact ⟨_, List.mem_map_of_mem isBinding,
    bindingName?_kept kept.names (nameFor_bindingName node asked)⟩

/-! ## Callables -/

theorem bindCallable_backed {callable : Callable} {order : Int} {ledger after : Ledger}
    {binding : CallableBinding}
    (done : (scope.bindCallable callable order).run ledger = .ok binding after) :
    ∀ type ∈ binding.types, scope.Backed after type := by
  obtain ⟨params, middle, first, result, same, -⟩ := bindCallable_ok done
  have grown := (scope.neededFfiType_grows callable.result callable.name).ok result
  have named : ∀ type ∈ params, scope.Backed after type := by
    intro type member
    obtain ⟨param, -, start, last, -, one, later⟩ :=
      mapM_ok_of_mem_values (fun param => scope.neededFfiType_grows param callable.name)
        first member
    exact (neededFfiType_backed one).extends (later.toExtends.trans grown.toExtends)
  intro type member
  rcases List.mem_append.1 member with member | member
  · rw [same] at member
    split at member
    · rcases List.mem_append.1 member with member | member
      · exact named type member
      · rw [List.mem_singleton.1 member]
        trivial
    · exact named type member
  · rw [List.mem_singleton.1 member]
    exact neededFfiType_backed result

theorem bindOrSkip_extends (scope : Scope) (skipUnsupported : Bool) (callable : Callable)
    (order : Int) : Keeps Ledger.Extends (scope.bindOrSkip skipUnsupported callable order) := by
  have grows := scope.bindCallable_grows callable order
  intro ledger
  cases run : (scope.bindOrSkip skipUnsupported callable order).run ledger with
  | ok found after =>
    rcases bindOrSkip_ok run with ⟨binding, -, bound⟩ | ⟨-, skipped⟩
    · exact (grows.ok bound).toExtends
    · exact skipped.extends
  | error fault after => exact (grows.error (bindOrSkip_error run)).toExtends

theorem bindAll_backed {skipUnsupported : Bool} {callables : List Callable}
    {ledger after : Ledger} {bindings : List CallableBinding}
    (done : (scope.bindAll skipUnsupported callables).run ledger = .ok bindings after) :
    ledger.Extends after ∧
      ∀ binding ∈ bindings, ∀ type ∈ binding.types, scope.Backed after type := by
  obtain ⟨found, rfl, each⟩ := bindAll_ok done
  have keeps := fun place : Callable × Nat =>
    scope.bindOrSkip_extends skipUnsupported place.1 place.2
  refine ⟨(Keeps.mapM fun place _ => keeps place).ok each, fun binding member => ?_⟩
  obtain ⟨one, isFound, rfl⟩ := List.mem_filterMap.1 member
  obtain ⟨place, -, start, last, -, ran, later⟩ := mapM_ok_of_mem_values keeps each isFound
  rcases bindOrSkip_ok ran with ⟨other, same, bound⟩ | ⟨none, -⟩
  · cases same
    exact fun type isType => (bindCallable_backed bound type isType).extends later
  · cases none

end Scope

/-! ## Headers -/

/-- The types have the same shape, and the ledger has grown. -/
structure Workspace.Extends (earlier later : Workspace) : Prop where
  scope : earlier.scope.SameShape later.scope
  ledger : earlier.ledger.Extends later.ledger

theorem Workspace.Extends.backed {earlier later : Workspace} (h : earlier.Extends later)
    {type : FfiType} (backed : earlier.scope.Backed earlier.ledger type) :
    later.scope.Backed later.ledger type :=
  Scope.Backed.extends h.ledger (h.scope.refers backed)

namespace BoundHeader

/-- What the callables of the header name is needed. -/
def Backed (bound : BoundHeader) (workspace : Workspace) : Prop :=
  ∀ binding ∈ bound.callbacks ++ bound.functions, ∀ type ∈ binding.types,
    workspace.scope.Backed workspace.ledger type

theorem Backed.extends {bound : BoundHeader} {earlier later : Workspace}
    (grown : earlier.Extends later) (h : bound.Backed earlier) : bound.Backed later :=
  fun binding member type isType => grown.backed (h binding member type isType)

end BoundHeader

namespace HeaderLibrary

variable {library : HeaderLibrary} {skipUnsupported : Bool}

theorem bindHeader_backed {header : String} {workspace after : Workspace} {bound : BoundHeader}
    (done : (library.bindHeader skipUnsupported header).run workspace = .ok bound after) :
    workspace.Extends after ∧ bound.Backed after := by
  obtain ⟨middle, callbacks, functions, scope, -⟩ := bindHeader_ok done
  obtain ⟨first, backedCallbacks⟩ := Scope.bindAll_backed callbacks
  obtain ⟨second, backedFunctions⟩ := Scope.bindAll_backed functions
  have same := library.sameShape_scanScope workspace.scope header
  rw [← scope] at same backedCallbacks backedFunctions
  refine ⟨⟨same, Ledger.Extends.trans ⟨first.names, first.needs⟩ second⟩, ?_⟩
  intro binding member type isType
  rcases List.mem_append.1 member with member | member
  · exact (backedCallbacks binding member type isType).extends second
  · exact backedFunctions binding member type isType

theorem bindHeadersFrom_backed {headers : List String} {workspace after : Workspace}
    {bound : List BoundHeader}
    (done : (headers.mapM (library.bindHeader skipUnsupported)).run workspace = .ok bound after) :
    workspace.Extends after ∧ ∀ header ∈ bound, header.Backed after := by
  induction headers generalizing workspace bound with
  | nil =>
    obtain ⟨rfl, rfl⟩ := mapM_nil_ok_iff.1 done
    exact ⟨⟨.refl _, .refl _⟩, by simp⟩
  | cons header headers ih =>
    obtain ⟨first, rest, middle, one, others, rfl⟩ := mapM_cons_ok_iff.1 done
    obtain ⟨grown, backed⟩ := bindHeader_backed one
    obtain ⟨later, all⟩ := ih others
    refine ⟨⟨grown.scope.trans later.scope, grown.ledger.trans later.ledger⟩, ?_⟩
    intro other member
    rcases List.mem_cons.1 member with rfl | member
    · exact backed.extends later
    · exact all other member

theorem sameShape_callablesFrom {bound : Bool} {scope : Scope} {headers : List String}
    {bindings : List HeaderBindings} {use : ScopedCallable}
    (member : use ∈ library.callablesFrom bound scope headers bindings) :
    scope.SameShape use.scope := by
  induction headers generalizing scope bindings with
  | nil => cases member
  | cons header headers ih =>
    cases bindings with
    | nil => cases member
    | cons first rest =>
      have scanned := library.sameShape_scanScope scope header
      rcases List.mem_append.1 member with member | member
      · obtain ⟨callable, -, rfl⟩ := List.mem_map.1 member
        exact scanned
      · exact scanned.trans (ih member)

/-- What a needed record meets by value is needed. -/
theorem needs_closed_of_bindHeaders {graph : TypeGraph} {marker : String} {after : Workspace}
    {bound : List BoundHeader}
    (done : (library.bindHeaders skipUnsupported).run (.start graph marker) = .ok bound after)
    {id target : NodeId} (needed : after.ledger.needs.contains id = true)
    (meets : after.scope.Meets id false target) :
    after.ledger.needs.contains target = true := by
  have accounts := bindHeaders_accounts done
  have grown := (bindHeadersFrom_backed (bindHeaders_ok done)).1
  obtain ⟨use, isUse, reaches⟩ := (accounts.contains_iff (fun _ => rfl) id).1 needed
  have same := grown.scope.symm.trans (sameShape_callablesFrom isUse)
  have next : use.scope.Next id target := ⟨false, same.meets meets⟩
  exact (accounts.contains_iff (fun _ => rfl) target).2 ⟨use, isUse, reaches.tail next⟩

/-- **Bindings are closed and in order.**  Whatever the types and whether or not
unsupported callables are skipped, a record that a field holds by value comes before the
record of the field, and all records and enumerations that fields and callables name are
bound. -/
theorem closed_of_bind {graph : TypeGraph} {marker : String} {bindings : Bindings}
    {after : Workspace}
    (done : (library.bind skipUnsupported).run (.start graph marker) = .ok bindings after) :
    bindings.Closed := by
  obtain ⟨bound, middle, ledger, headers, enums, records, same⟩ := bind_ok done
  have named := middle.scope.bindEnums_onlyNames.ok enums
  have last := middle.scope.bindRecords_onlyNames.ok records
  have enumsBound : ∀ id, middle.ledger.needs.contains id = true →
      middle.scope.graph.isEnum id = true → ∃ name ∈ bindings.enums.map (·.name),
        middle.scope.bindingName? after.ledger.names id = some name := by
    intro id needed isEnum
    obtain ⟨name, member, settled⟩ := Scope.bindEnums_named enums needed isEnum
    exact ⟨name, member, Scope.bindingName?_kept last.names settled⟩
  have closed : ∀ id, ledger.needs.contains id = true → ∀ target,
      middle.scope.Meets id false target → ledger.needs.contains target = true ∧
        (middle.scope.graph.isEnum target = true → ∃ name ∈ bindings.enums.map (·.name),
          middle.scope.bindingName? after.ledger.names target = some name) := by
    intro id needed target meets
    rw [named.needs] at needed ⊢
    have reached := needs_closed_of_bindHeaders headers needed meets
    exact ⟨reached, enumsBound target reached⟩
  obtain ⟨fields, recordsBound⟩ := Scope.bindRecords_supplied closed records
  refine ⟨fields, fun header isHeader binding isBinding type isType => ?_⟩
  rw [same] at isHeader
  obtain ⟨boundHeader, isBound, rfl⟩ := List.mem_map.1 isHeader
  have isCallable : binding ∈ boundHeader.callbacks ++ boundHeader.functions := by
    have sorted := List.mem_append.1 isBinding
    rw [BoundHeader.toBindings, HeaderBindings.ofCallables,
      (CallableBinding.perm_sortByOrder _).mem_iff,
      (CallableBinding.perm_sortByOrder _).mem_iff] at sorted
    exact List.mem_append.2 sorted
  have backed := (bindHeadersFrom_backed (bindHeaders_ok headers)).2 boundHeader isBound binding
    isCallable type isType
  have kept := named.names.trans last.names
  refine Scope.known_of_refers (backed.mono kept fun _ needed => needed) ?_
  intro id needed
  exact ⟨fun isRecord => recordsBound id (by rw [named.needs]; exact needed) isRecord,
    enumsBound id needed⟩

end HeaderLibrary

/-- A library in which a pixel holds a point: the bindings of its records and of `draw`. -/
theorem closed_of_bind_pixels : ∃ bindings after,
    (pixelLibrary.bind true).run (.start pixelTypes "va") = .ok bindings after ∧
      bindings.Closed ∧
      bindings.records.map (fun record => record.fields.map RecordField.type) =
        [[.scalar "int"], [.byValue "Point", .enum "Color"]] ∧
      bindings.enums.map EnumBinding.name = ["Color"] ∧
      bindings.headers.map (fun header => header.functions.map CallableBinding.params) =
        [[[.byValue "Pixel"]]] := by
  have tested : gives (fun bindings _ => decide (
      bindings.records.map (fun record => record.fields.map RecordField.type) =
        [[.scalar "int"], [.byValue "Point", .enum "Color"]] ∧
      bindings.enums.map EnumBinding.name = ["Color"] ∧
      bindings.headers.map (fun header => header.functions.map CallableBinding.params) =
        [[[.byValue "Pixel"]]]))
      ((pixelLibrary.bind true).run (.start pixelTypes "va")) = true := by decide +kernel
  obtain ⟨bindings, after, done, shown⟩ := exists_of_gives tested
  exact ⟨bindings, after, done, HeaderLibrary.closed_of_bind done, of_decide_eq_true shown⟩

end HeaderBind
