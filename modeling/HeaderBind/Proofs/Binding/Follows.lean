/-
# HeaderBind.Proofs.Binding.Follows — what is bound from parallel ledgers

From parallel ledgers, the same computation gives what is alike: the same is needed
(`need_follows`), and interface types (`ffiType_follows`) and the bindings of callables,
enumerations and records differ only where a type is named that has no name yet in the
common table.
-/
import HeaderBind.Binding.Library
import HeaderBind.Proofs.Binding.Alike
import HeaderBind.Proofs.Binding.Record
import HeaderBind.Proofs.Run.Follows

namespace HeaderBind

set_option autoImplicit false

open Outcome

namespace Scope

variable (scope : Scope) {base : NameTable} {strict : Prop} {user : String}

open Run

/-! ## What is needed -/

section Collect

variable {collect : Arrival → Run Unit}
  (each : ∀ arrival, Follows base strict Same (collect arrival) (collect arrival))

include each

theorem collectArrival_follows (passed : Bool) (type : TypeRef) :
    Follows base strict Same (scope.collectArrival user collect passed type)
      (scope.collectArrival user collect passed type) := by
  refine (ofExcept_follows _).bind_same fun found => ?_
  cases found with
  | none => exact .same ()
  | some arrival => exact each arrival

theorem performStep_follows (step : ExpansionStep) :
    Follows base strict Same (scope.performStep user collect step)
      (scope.performStep user collect step) := by
  cases step with
  | enter record =>
    exact (scope.nameFor_follows record).bind fun _ _ _ _ _ => .pure fun _ _ _ _ => rfl
  | declaredOnly record =>
    refine (scope.nameFor_follows record).bind fun _ _ _ _ _ => ?_
    exact (note_follows _ _ _ _).mono fun _ _ _ _ isSame _ _ => isSame
  | nameInPlace child parent label =>
    refine (scope.nameFor_follows parent).bind fun name other _ _ agree => ?_
    have given : Follows base strict (fun _ _ _ _ => True)
        (giveName child (name ++ "_" ++ label)) (giveName child (other ++ "_" ++ label)) :=
      giveName_follows child fun isStrict => by rw [agree.1 isStrict]
    exact given.bind fun _ _ _ _ _ => .pure fun _ _ _ _ _ _ => rfl
  | use type => exact scope.collectArrival_follows each false type

theorem expandWith_follows (record : NodeId) :
    Follows base strict Same (scope.expandWith user collect record)
      (scope.expandWith user collect record) :=
  followWalk_follows fun step _ => scope.performStep_follows each step

end Collect

theorem collectWithin_follows (fuel : Nat) (path : List NodeId) (arrival : Arrival) :
    Follows base strict Same (scope.collectWithin user fuel path arrival)
      (scope.collectWithin user fuel path arrival) := by
  induction fuel generalizing path arrival with
  | zero => exact .throw _
  | succ fuel ih =>
    rw [collectWithin]
    split
    · exact addNeed_follows _ user
    · split
      · split
        · exact addNeed_follows _ user
        · refine .of_never fun ledger value after done => ?_
          obtain ⟨fault, middle, -, thrown⟩ := bind_ok_iff.1 done
          cases thrown
      · refine (scope.expandWith_follows (ih _) arrival.type).bind_same fun _ => ?_
        exact addNeed_follows _ user

/-- What is needed does not depend on names. -/
theorem need_follows (type : TypeRef) (viaPointer : Bool) :
    Follows base strict Same (scope.need type user viaPointer)
      (scope.need type user viaPointer) :=
  scope.collectArrival_follows (scope.collectWithin_follows _ _) viaPointer type

/-! ## Interface types -/

/-- The types are alike by the names that tagged types have in the two tables. -/
def TypesAlike (base : NameTable) (n m : NameTable) (type other : FfiType) : Prop :=
  type.Alike (scope.Renamed base n m) other

variable {scope}

theorem TypesAlike.kept {n m n' m' : NameTable} {type other : FfiType} (kept : n.KeptIn n')
    (kept' : m.KeptIn m') (h : scope.TypesAlike base n m type other) :
    scope.TypesAlike base n' m' type other :=
  h.mono fun _ _ same => same.kept kept kept'

variable (scope)

section FfiType

variable {demand : Demand} (demands : ∀ type viaPointer,
  Follows base strict Same (demand type viaPointer) (demand type viaPointer))

include demands

theorem ffiPointer_follows (pointee : TypeRef) :
    Follows base strict (scope.TypesAlike base) (scope.ffiPointer demand pointee)
      (scope.ffiPointer demand pointee) := by
  have done : Follows base strict (scope.TypesAlike base) (pure .pointer : Run FfiType)
      (pure .pointer) := .pure fun _ _ => .scalar _
  unfold ffiPointer
  split
  · exact .pure fun _ _ => .scalar _
  · split
    · exact (demands pointee true).bind_same fun _ => done
    · exact (demands pointee true).bind_same fun _ => done
    · exact done

theorem ffiMeaning_follows (type : TypeRef) (user user' : String) :
    Follows base strict (scope.TypesAlike base) (scope.ffiMeaning demand type user)
      (scope.ffiMeaning demand type user') := by
  unfold ffiMeaning
  cases type with
  | none => exact .throw _
  | some id =>
    dsimp only
    split
    · exact .throw _
    · exact .pure fun _ _ => .scalar _
    · exact scope.ffiPointer_follows demands _
    · rename_i tagged node
      refine (demands (some id) false).bind_same fun _ => ?_
      refine (scope.nameFor_follows id).bind fun name other n m related => ?_
      have renamed := related.2 ⟨tagged, TypeGraph.tagged?_eq_some_iff.2 node⟩
      refine .pure fun n' m' kept kept' => TypesAlike.kept kept kept' ?_
      split
      · exact .byValue renamed
      · exact .enum renamed
    · exact .pure fun _ _ => .scalar _
    · exact .throw _
    · exact .throw _

/-- An interface type depends on names only where it names a type, and on its user not at
all. -/
theorem ffiType_follows (type : TypeRef) (user user' : String) :
    Follows base strict (scope.TypesAlike base) (scope.ffiType demand type user)
      (scope.ffiType demand type user') := by
  unfold ffiType
  split
  · split
    · exact .pure fun _ _ => .scalar _
    · refine (ofExcept_follows _).bind_same fun meaning => ?_
      cases meaning with
      | variadic => exact .pure fun _ _ => .scalar _
      | type meaning => exact scope.ffiMeaning_follows demands meaning user user'
  · exact scope.ffiMeaning_follows demands type user user'

end FfiType

theorem neededFfiType_follows (type : TypeRef) (user : String) :
    Follows base strict (scope.TypesAlike base) (scope.neededFfiType type user)
      (scope.neededFfiType type user) :=
  scope.ffiType_follows (fun type viaPointer => scope.need_follows type viaPointer) type user user

theorem knownFfiType_follows (type : TypeRef) (user user' : String) :
    Follows base strict (scope.TypesAlike base) (scope.knownFfiType type user)
      (scope.knownFfiType type user') :=
  scope.ffiType_follows (fun _ _ => .same ()) type user user'

/-! ## Callables -/

theorem bindCallable_follows (callable : Callable) (order order' : Int) :
    Follows base strict
      (fun n m binding other => binding.Alike (scope.Renamed base n m) other ∧
        other.order = order')
      (scope.bindCallable callable order) (scope.bindCallable callable order') := by
  have params : Follows base strict
      (fun n m => List.Forall₂ (scope.TypesAlike base n m))
      (callable.params.mapM fun param => scope.neededFfiType param callable.name)
      (callable.params.mapM fun param => scope.neededFfiType param callable.name) :=
    Follows.mapM (fun _ _ _ _ _ _ kept kept' alike => TypesAlike.kept kept kept' alike)
      fun param _ => scope.neededFfiType_follows param callable.name
  refine params.bind fun params others n m alike => ?_
  refine (scope.neededFfiType_follows callable.result callable.name).bind fun result other n' m'
    sameResult => .pure fun n'' m'' kept kept' more more' => ?_
  have sameParams : List.Forall₂ (FfiType.Alike (scope.Renamed base n'' m'')) params others :=
    alike.imp fun _ _ same => TypesAlike.kept more more' same
  refine ⟨⟨?_, TypesAlike.kept kept kept' sameResult, rfl⟩, rfl⟩
  dsimp only
  split
  · exact List.rel_append sameParams (.cons (.scalar _) .nil)
  · exact sameParams

/-! ## Enumerations -/

theorem bindEnum_follows {id : NodeId} (isEnum : scope.graph.isEnum id = true)
    (users : List String) (order : Nat) :
    Follows base strict (fun n m binding other => binding.Alike (scope.Renamed base n m) other)
      (scope.bindEnum id users order) (scope.bindEnum id users order) := by
  obtain ⟨type, node, -⟩ := TypeGraph.isEnum_iff.1 isEnum
  refine (scope.nameFor_follows id).bind fun name other n m related => ?_
  have renamed := related.2 ⟨type, TypeGraph.tagged?_eq_some_iff.2 node⟩
  exact .pure fun n' m' kept kept' => ⟨renamed.kept kept kept', rfl, rfl⟩

theorem bindEnums_follows :
    Follows base strict (fun n m => List.Forall₂ (EnumBinding.Alike (scope.Renamed base n m)))
      scope.bindEnums scope.bindEnums := by
  refine needs_follows.bind fun ledger ledger' n m same => ?_
  rw [same]
  refine Follows.mono ?_ fun _ _ _ _ alike _ _ => alike
  refine Follows.mapM (fun n m n' m' binding other kept kept' alike => ?_) fun place member => ?_
  · exact alike.mono fun _ _ renamed => renamed.kept kept kept'
  · obtain ⟨⟨id, users⟩, order⟩ := place
    have listed := List.mem_filter.1 (List.fst_mem_of_mem_zipIdx member)
    exact scope.bindEnum_follows listed.2 users order

/-! ## Records -/

theorem visitWithin_follows (wanted : List NodeId) (fuel : Nat) (path ordered : List NodeId)
    (id : NodeId) :
    Follows base strict Same (scope.visitWithin wanted fuel path ordered id)
      (scope.visitWithin wanted fuel path ordered id) := by
  induction fuel generalizing path ordered id with
  | zero => exact .throw _
  | succ fuel ih =>
    rw [visitWithin]
    split
    · exact .same ordered
    · split
      · refine .of_never fun ledger value after done => ?_
        obtain ⟨fault, middle, -, thrown⟩ := bind_ok_iff.1 done
        cases thrown
      · refine (Follows.foldlM (fun ordered other _ => ih _ ordered other) ordered).bind_same
          fun before => ?_
        cases (scope.held id).fault with
        | none => exact .same _
        | some fault => exact .throw fault

/-- The order of records does not depend on names. -/
theorem holdingOrder_follows (wanted : List NodeId) :
    Follows base strict Same (scope.holdingOrder wanted) (scope.holdingOrder wanted) :=
  Follows.foldlM (fun ordered id _ => scope.visitWithin_follows wanted _ [] ordered id) []

/-- The lists of bindings are alike by the names that tagged types have in the two tables. -/
def RecordsAlike (base n m : NameTable) : List RecordBinding → List RecordBinding → Prop :=
  List.Forall₂ (RecordBinding.Alike (scope.Renamed base n m))

variable {scope}

theorem RecordsAlike.kept {n m n' m' : NameTable} {bindings others : List RecordBinding}
    (kept : n.KeptIn n') (kept' : m.KeptIn m') (h : scope.RecordsAlike base n m bindings others) :
    scope.RecordsAlike base n' m' bindings others :=
  h.imp fun _ _ alike => alike.mono fun _ _ renamed => renamed.kept kept kept'

/-- A record's own part of what is bound with it: the records in place, and the field. -/
def PartsAlike (scope : Scope) (base n m : NameTable)
    (part other : List RecordBinding × RecordField) : Prop :=
  scope.RecordsAlike base n m part.1 other.1 ∧ part.2.Alike (scope.Renamed base n m) other.2

theorem PartsAlike.kept {n m n' m' : NameTable} {part other : List RecordBinding × RecordField}
    (kept : n.KeptIn n') (kept' : m.KeptIn m') (h : scope.PartsAlike base n m part other) :
    scope.PartsAlike base n' m' part other :=
  ⟨RecordsAlike.kept kept kept' h.1, h.2.mono fun _ _ renamed => renamed.kept kept kept'⟩

theorem bindMember_follows {inPlace : NodeId → Run (List RecordBinding)}
    (each : ∀ id, scope.graph.isRecord id = true →
      Follows base strict (scope.RecordsAlike base) (inPlace id) (inPlace id))
    (parentName parentName' : String) (member : Member) (index : Nat) :
    Follows base strict (scope.PartsAlike base)
      (scope.bindMember inPlace parentName member index)
      (scope.bindMember inPlace parentName' member index) := by
  have field : ∀ (nested nested' : List RecordBinding) (n m : NameTable),
      scope.RecordsAlike base n m nested nested' →
      Follows base strict
        (fun n' m' part other => n.KeptIn n' → m.KeptIn m' →
          scope.PartsAlike base n' m' part other)
        (do
          let type ← scope.knownFfiType member.type parentName
          return (nested, (⟨member.label index, type⟩ : RecordField)))
        (do
          let type ← scope.knownFfiType member.type parentName'
          return (nested', (⟨member.label index, type⟩ : RecordField))) := by
    intro nested nested' n m alike
    refine (scope.knownFfiType_follows member.type parentName parentName').bind
      fun type other n' m' same => .pure fun n'' m'' kept kept' more more' => ?_
    exact ⟨RecordsAlike.kept more more' alike, ⟨TypesAlike.kept kept kept' same, rfl⟩⟩
  unfold bindMember
  split
  · rename_i child unnamed
    obtain ⟨-, tagged, node, -, recordTag⟩ := TypeGraph.inPlaceRecord?_eq_some_iff.1 unnamed
    exact (each child (TypeGraph.isRecord_iff.2 ⟨tagged, node, recordTag⟩)).bind field
  · exact (Follows.pure fun _ _ => .nil).bind field

theorem bindRecordWithin_follows (users : List String) (fuel : Nat) {id : NodeId}
    (isRecord : scope.graph.isRecord id = true) :
    Follows base strict (scope.RecordsAlike base)
      (scope.bindRecordWithin users fuel id) (scope.bindRecordWithin users fuel id) := by
  induction fuel generalizing id with
  | zero => exact .throw _
  | succ fuel ih =>
    obtain ⟨type, node, -⟩ := TypeGraph.isRecord_iff.1 isRecord
    rw [bindRecordWithin]
    refine (scope.nameFor_follows id).bind fun cName other n m related => ?_
    have renamed := related.2 ⟨type, TypeGraph.tagged?_eq_some_iff.2 node⟩
    cases scope.graph.members? id with
    | none =>
      refine (note_follows _ _ _ _).bind_same fun _ => .pure fun n' m' kept kept' => ?_
      exact .cons ⟨renamed.kept kept kept', .nil, rfl, rfl⟩ .nil
    | some members =>
      have each : ∀ place ∈ members.zipIdx, Follows base strict (scope.PartsAlike base)
          (scope.bindMember (scope.bindRecordWithin users fuel) cName place.1 place.2)
          (scope.bindMember (scope.bindRecordWithin users fuel) other place.1 place.2) :=
        fun place _ => bindMember_follows (fun id => ih) cName other place.1 place.2
      have parts := Follows.mapM (T := scope.PartsAlike base)
        (fun _ _ _ _ _ _ kept kept' alike => PartsAlike.kept kept kept' alike) each
      refine parts.bind fun parts parts' n' m' alike => ?_
      refine .pure fun n'' m'' more more' kept kept' => ?_
      have parted : List.Forall₂ (scope.PartsAlike base n'' m'') parts parts' :=
        alike.imp fun _ _ one => PartsAlike.kept more more' one
      refine List.rel_append ?_ (.cons ⟨renamed.kept kept kept', ?_, rfl, rfl⟩ .nil)
      · exact List.rel_flatMap parted fun _ _ one => one.1
      · exact List.rel_map (fun _ _ one => one.2) parted

/-- Numbering goes by position alone. -/
theorem numbered_alike {named : String → String → Prop} {bindings others : List RecordBinding}
    (alike : List.Forall₂ (RecordBinding.Alike named) bindings others) :
    List.Forall₂ (RecordBinding.Alike named) (numbered bindings) (numbered others) := by
  unfold numbered
  generalize 0 = start
  induction alike generalizing start with
  | nil => exact .nil
  | @cons binding other bindings others first _ ih =>
    refine .cons ⟨first.cName, first.fields, first.name, ?_⟩ (ih (start + 1))
    exact congrArg (fun binding : RecordBinding => { binding with order := start }) first.otherwise

theorem bindRecords_follows :
    Follows base strict (scope.RecordsAlike base) scope.bindRecords scope.bindRecords := by
  refine needs_follows.bind fun ledger ledger' n m same => ?_
  rw [same]
  refine Follows.mono ?_ fun _ _ _ _ alike _ _ => alike
  have ordering : Follows base strict Same
      (scope.holdingOrder (ledger.needs.types.filter scope.graph.isRecord))
      (scope.holdingOrder (ledger.needs.types.filter scope.graph.isRecord)) :=
    scope.holdingOrder_follows _
  have within := ordering.of_ok fun _ _ _ done => (holdingOrder_arranged done).1.subset
  refine within.bind fun ordered others n m related => ?_
  obtain ⟨wanted, isSame⟩ := related
  cases isSame
  refine Follows.mono ?_ fun _ _ _ _ alike _ _ => alike
  have each : ∀ id ∈ ordered, Follows base strict (scope.RecordsAlike base)
      (scope.bindRecord id (ledger.needs.users id)) (scope.bindRecord id (ledger.needs.users id)) :=
    fun id member => bindRecordWithin_follows _ _ (List.mem_filter.1 (wanted member)).2
  have parts := Follows.mapM (T := scope.RecordsAlike base)
    (fun _ _ _ _ _ _ kept kept' alike => RecordsAlike.kept kept kept' alike) each
  refine parts.bind fun parts parts' n' m' alike => .pure fun n'' m'' more more' => ?_
  refine numbered_alike (List.rel_flatten ?_)
  exact alike.imp fun _ _ one => RecordsAlike.kept more more' one

end Scope

end HeaderBind
