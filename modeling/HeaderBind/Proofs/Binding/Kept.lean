/-
# HeaderBind.Proofs.Binding.Kept — what binding leaves as it is

Binding a callable gives names and records needs (`bindCallable_grows`).  Binding the
needed enumerations and records gives names and no more: by then nothing is needed
any more, and no callable is skipped (`bindEnums_onlyNames`, `bindRecords_onlyNames`).
-/
import HeaderBind.Binding.Callable
import HeaderBind.Binding.Enum
import HeaderBind.Binding.Record
import HeaderBind.Proofs.Need.Collection

namespace HeaderBind.Scope

set_option autoImplicit false

open Outcome

variable (scope : Scope)

/-! ## Interface types -/

section FfiType

variable {R : Ledger → Ledger → Prop} [Std.Refl R] [IsTrans Ledger R] {demand : Demand}
  (demands : ∀ type viaPointer, Keeps R (demand type viaPointer))

include demands

theorem ffiPointer_keeps (pointee : TypeRef) : Keeps R (scope.ffiPointer demand pointee) := by
  unfold ffiPointer
  split
  · exact Keeps.pure _
  · split
    · exact (demands pointee true).bind fun _ => Keeps.pure _
    · exact (demands pointee true).bind fun _ => Keeps.pure _
    · exact (Keeps.pure ()).bind fun _ => Keeps.pure _

variable (names : ∀ id, Keeps R (scope.nameFor id))

include names

theorem ffiMeaning_keeps (type : TypeRef) (user : String) :
    Keeps R (scope.ffiMeaning demand type user) := by
  unfold ffiMeaning
  cases type with
  | none => exact Keeps.throw _
  | some id =>
    dsimp only
    split
    · exact Keeps.throw _
    · exact Keeps.pure _
    · exact scope.ffiPointer_keeps demands _
    · exact (demands (some id) false).bind fun _ => (names id).bind fun _ => Keeps.pure _
    · exact Keeps.pure _
    · exact Keeps.throw _
    · exact Keeps.throw _

/-- An interface type keeps what its demands and the names it asks for keep. -/
theorem ffiType_keeps (type : TypeRef) (user : String) :
    Keeps R (scope.ffiType demand type user) := by
  unfold ffiType
  split
  · split
    · exact Keeps.pure _
    · refine (Run.ofExcept_keeps _).bind fun meaning => ?_
      cases meaning with
      | variadic => exact Keeps.pure _
      | type meaning => exact scope.ffiMeaning_keeps demands names meaning user
  · exact scope.ffiMeaning_keeps demands names type user

end FfiType

section Collecting

variable {scope} {R : Ledger → Ledger → Prop} [Std.Refl R] [IsTrans Ledger R]
  (keeps : scope.CollectingKeeps R)

include keeps

theorem CollectingKeeps.neededFfiType (type : TypeRef) (user : String) :
    Keeps R (scope.neededFfiType type user) :=
  scope.ffiType_keeps (keeps.need user) keeps.nameFor type user

/-! ## Callables -/

theorem CollectingKeeps.bindCallable (callable : Callable) (order : Int) :
    Keeps R (scope.bindCallable callable order) := by
  refine (Keeps.mapM fun param _ => keeps.neededFfiType param _).bind fun params => ?_
  exact (keeps.neededFfiType callable.result _).bind fun _ => Keeps.pure _

end Collecting

theorem neededFfiType_grows (type : TypeRef) (user : String) :
    Keeps Ledger.Grows (scope.neededFfiType type user) :=
  scope.collecting_grows.neededFfiType type user

/-- Binding a callable gives names and records needs. -/
theorem bindCallable_grows (callable : Callable) (order : Int) :
    Keeps Ledger.Grows (scope.bindCallable callable order) :=
  scope.collecting_grows.bindCallable callable order

namespace NamingKeeps

variable {scope} {R : Ledger → Ledger → Prop} [Std.Refl R] [IsTrans Ledger R]
  (keeps : scope.NamingKeeps R)

include keeps

theorem knownFfiType (type : TypeRef) (user : String) :
    Keeps R (scope.knownFfiType type user) :=
  scope.ffiType_keeps (fun _ _ => Keeps.pure ()) keeps.nameFor type user

/-! ## Enumerations -/

theorem bindEnum (id : NodeId) (users : List String) (order : Nat) :
    Keeps R (scope.bindEnum id users order) :=
  (keeps.nameFor id).bind fun _ => Keeps.pure _

theorem bindEnums : Keeps R scope.bindEnums := by
  refine Keeps.get.bind fun ledger => ?_
  exact Keeps.mapM fun place _ => keeps.bindEnum _ _ _

/-! ## Records -/

theorem visitWithin (wanted : List NodeId) (fuel : Nat) (path ordered : List NodeId)
    (id : NodeId) : Keeps R (scope.visitWithin wanted fuel path ordered id) := by
  induction fuel generalizing path ordered id with
  | zero => exact Keeps.throw _
  | succ fuel ih =>
    rw [Scope.visitWithin]
    split
    · exact Keeps.pure _
    · split
      · exact (keeps.cycleThrough path id).bind fun _ => Keeps.throw _
      · refine (Keeps.foldlM (fun ordered other _ => ih _ ordered other) ordered).bind fun _ => ?_
        cases (scope.held id).fault with
        | none => exact Keeps.pure _
        | some fault => exact Keeps.throw fault

theorem holdingOrder (wanted : List NodeId) : Keeps R (scope.holdingOrder wanted) :=
  Keeps.foldlM (fun ordered id _ => keeps.visitWithin wanted _ [] ordered id) []

theorem bindMember {inPlace : NodeId → Run (List RecordBinding)}
    (each : ∀ id, Keeps R (inPlace id)) (parentName : String) (member : Member)
    (index : Nat) : Keeps R (scope.bindMember inPlace parentName member index) := by
  have field : ∀ nested : List RecordBinding, Keeps R (do
      let type ← scope.knownFfiType member.type parentName
      return (nested, (⟨member.label index, type⟩ : RecordField))) := fun nested =>
    (keeps.knownFfiType member.type parentName).bind fun _ => Keeps.pure _
  unfold Scope.bindMember
  split
  · exact (each _).bind field
  · exact (Keeps.pure _).bind field

theorem bindRecordWithin (users : List String) (fuel : Nat) (id : NodeId) :
    Keeps R (scope.bindRecordWithin users fuel id) := by
  induction fuel generalizing id with
  | zero => exact Keeps.throw _
  | succ fuel ih =>
    rw [Scope.bindRecordWithin]
    refine (keeps.nameFor id).bind fun cName => ?_
    cases scope.graph.members? id with
    | none => exact (keeps.note _ _ _).bind fun _ => Keeps.pure _
    | some members =>
      refine (Keeps.mapM fun place _ => ?_).bind fun _ => Keeps.pure _
      exact keeps.bindMember ih cName place.1 place.2

theorem bindRecords : Keeps R scope.bindRecords := by
  refine Keeps.get.bind fun ledger => ?_
  refine (keeps.holdingOrder _).bind fun ordered => ?_
  exact (Keeps.mapM fun id _ => keeps.bindRecordWithin _ _ id).bind fun _ => Keeps.pure _

end NamingKeeps

/-! ## Binding needed types gives names and no more -/

theorem knownFfiType_onlyNames (type : TypeRef) (user : String) :
    Keeps Ledger.OnlyNames (scope.knownFfiType type user) :=
  scope.naming_onlyNames.knownFfiType type user

theorem bindEnum_onlyNames (id : NodeId) (users : List String) (order : Nat) :
    Keeps Ledger.OnlyNames (scope.bindEnum id users order) :=
  scope.naming_onlyNames.bindEnum id users order

theorem bindEnums_onlyNames : Keeps Ledger.OnlyNames scope.bindEnums :=
  scope.naming_onlyNames.bindEnums

theorem bindMember_onlyNames {inPlace : NodeId → Run (List RecordBinding)}
    (each : ∀ id, Keeps Ledger.OnlyNames (inPlace id)) (parentName : String) (member : Member)
    (index : Nat) : Keeps Ledger.OnlyNames (scope.bindMember inPlace parentName member index) :=
  scope.naming_onlyNames.bindMember each parentName member index

theorem bindRecordWithin_onlyNames (users : List String) (fuel : Nat) (id : NodeId) :
    Keeps Ledger.OnlyNames (scope.bindRecordWithin users fuel id) :=
  scope.naming_onlyNames.bindRecordWithin users fuel id

theorem bindRecords_onlyNames : Keeps Ledger.OnlyNames scope.bindRecords :=
  scope.naming_onlyNames.bindRecords

end HeaderBind.Scope
