/-
# HeaderBind.Proofs.Binding.Unknown — which typedef names end a run as unknown

A run ends because a typedef name is unknown only if that name occurs in the types and no
typedef declares it (`Scope.Unknown`).  Every name that is looked up is one that a type
node holds: names come from nodes, and from the nodes that typedefs stand for.  There is
one lemma for each function, in the order in which they call one another; finding the
callables of a header assembles types, which changes no typedef name, and so the names
that are unknown after the typedefs were read are all there are (`unknown_of_bind`).
-/
import HeaderBind.Proofs.Binding.Closed
import HeaderBind.Proofs.Binding.Total
import HeaderBind.Proofs.Need.InPlace

namespace HeaderBind

set_option autoImplicit false

open Outcome

namespace Scope

/-- A type is the typedef name, and no typedef declares it. -/
def Unknown (scope : Scope) (name : String) : Prop :=
  (∃ id, scope.graph.node? id = some (.typedefName name)) ∧ scope.typedefs.lookup name = none

/-- If the fault is an unknown typedef name, it is one of the scope. -/
def Blames (scope : Scope) (fault : Fault) : Prop :=
  ∀ name, fault = .unknownTypedef name → scope.Unknown name

theorem SameShape.unknown {first second : Scope} (same : first.SameShape second) {name : String}
    (unknown : second.Unknown name) : first.Unknown name := by
  obtain ⟨⟨id, node⟩, missing⟩ := unknown
  exact ⟨⟨id, same.symm.graph.node?_eq_typedefName node⟩, same.typedefs ▸ missing⟩

variable {scope : Scope} {user : String}

theorem blames_unsupported (type : TypeRef) : scope.Blames (.unsupported type user) :=
  fun _ other => by cases other

theorem blames_cycle (chain : List String) : scope.Blames (.cycle chain) :=
  fun _ other => by cases other

theorem blames_endless : scope.Blames .endless := fun _ other => by cases other

/-! ## Typedef names -/

/-- A next name is one that a type node holds. -/
theorem node?_of_nextName? {meaning : Meaning} {next : String}
    (step : scope.typedefs.nextName? scope.graph meaning = some next) :
    ∃ id, scope.graph.node? id = some (.typedefName next) := by
  unfold TypedefTable.nextName? at step
  split at step
  · cases step
  · rename_i ref
    split at step
    · rename_i name node
      split at step
      · cases step
      · cases step
        obtain ⟨id, -, there⟩ := Option.bind_eq_some_iff.1 node
        exact ⟨id, there⟩
    · cases step

theorem blames_of_follow {fuel : Nat} {chain : List String} {name : String} {fault : Fault}
    (node : ∃ id, scope.graph.node? id = some (.typedefName name))
    (failed : scope.typedefs.follow scope.graph fuel chain name = .error fault) :
    scope.Blames fault := by
  induction fuel generalizing chain name with
  | zero =>
    cases failed
    exact blames_cycle chain
  | succ fuel ih =>
    rw [TypedefTable.follow] at failed
    cases found : scope.typedefs.meaning name with
    | error other =>
      rw [found] at failed
      cases failed
      intro unknown same
      cases (TypedefTable.fault_of_meaning found).symm.trans same
      unfold TypedefTable.meaning at found
      split at found
      · cases found
      · rename_i missing
        exact ⟨node, missing⟩
    | ok meaning =>
      rw [found] at failed
      cases step : scope.typedefs.nextName? scope.graph meaning with
      | none => simp [step] at failed
      | some next =>
        simp only [step] at failed
        split at failed
        · cases failed
          exact blames_cycle _
        · exact ih (node?_of_nextName? step) failed

theorem blames_of_finalMeaning {id : NodeId} {name : String} {fault : Fault}
    (node : scope.graph.node? id = some (.typedefName name))
    (failed : scope.finalMeaning name = .error fault) : scope.Blames fault :=
  blames_of_follow ⟨id, node⟩ failed

/-! ## Needs -/

theorem blames_of_arrivalWithin {fuel : Nat} {viaPointer : Bool} {type : TypeRef} {fault : Fault}
    (failed : scope.arrivalWithin user fuel viaPointer type = .error fault) :
    scope.Blames fault := by
  induction fuel generalizing viaPointer type with
  | zero =>
    cases failed
    exact blames_endless
  | succ fuel ih =>
    cases type with
    | none =>
      cases failed
      exact blames_unsupported none
    | some id =>
      rw [arrivalWithin] at failed
      split at failed
      · cases failed
        exact blames_unsupported none
      · split at failed
        · cases failed
        · exact ih failed
      · rename_i name node
        split at failed
        · cases failed
        · split at failed
          · rename_i other lost
            cases failed
            exact blames_of_finalMeaning node lost
          · cases failed
          · exact ih failed
      · cases failed
      · cases failed
      · cases failed
      · split at failed
        · cases failed
        · cases failed
          exact blames_unsupported _

theorem ofExcept_blames {α : Type} {result : Except Fault α}
    (each : ∀ fault, result = .error fault → scope.Blames fault) :
    FailsWith scope.Blames (Run.ofExcept result) :=
  fun _ fault _ failed => each fault (Run.ofExcept_error_iff.1 failed).1

theorem collectArrival_blames {collect : Arrival → Run Unit}
    (each : ∀ arrival, FailsWith scope.Blames (collect arrival)) (viaPointer : Bool)
    (type : TypeRef) :
    FailsWith scope.Blames (scope.collectArrival user collect viaPointer type) := by
  unfold collectArrival
  refine (ofExcept_blames fun _ => blames_of_arrivalWithin).bind fun arrival? => ?_
  cases arrival? with
  | none => exact .pure ()
  | some arrival => exact each arrival

theorem performStep_blames {collect : Arrival → Run Unit}
    (each : ∀ arrival, FailsWith scope.Blames (collect arrival)) (step : ExpansionStep) :
    FailsWith scope.Blames (scope.performStep user collect step) := by
  have named := fun id => FailsWith.of_succeeds (P := scope.Blames) (scope.nameFor_succeeds id)
  cases step with
  | enter record => exact (named record).bind fun _ => .pure ()
  | declaredOnly record => exact (named record).bind fun _ => .modify _
  | nameInPlace child parent label =>
    exact (named parent).bind fun _ => (FailsWith.of_succeeds (.modifyGet _)).bind fun _ => .pure ()
  | use type => exact collectArrival_blames each false type

theorem expandWith_blames {collect : Arrival → Run Unit}
    (each : ∀ arrival, FailsWith scope.Blames (collect arrival)) (record : NodeId) :
    FailsWith scope.Blames (scope.expandWith user collect record) := by
  intro ledger fault after failed
  rcases Run.followWalk_error failed with stopped | ⟨step, -, middle, here⟩
  · rcases TypeGraph.fault_of_expansionWithin stopped with ⟨type, rfl⟩ | ⟨rfl, -⟩
    · exact blames_unsupported type
    · exact blames_endless
  · exact performStep_blames each step middle fault after here

theorem throwCycle_blames {α : Type} (path : List NodeId) (id : NodeId) :
    FailsWith scope.Blames (do throw (← scope.cycleThrough path id) : Run α) := by
  intro ledger fault after failed
  obtain ⟨cycle, middle, named, thrown⟩ :=
    (bind_error_iff.1 failed).resolve_left (scope.cycleThrough_succeeds path id).ne_error
  obtain ⟨names, rfl⟩ := scope.cycle_of_cycleThrough named
  cases thrown
  exact blames_cycle names

theorem collectWithin_blames (fuel : Nat) (path : List NodeId) (arrival : Arrival) :
    FailsWith scope.Blames (scope.collectWithin user fuel path arrival) := by
  induction fuel generalizing path arrival with
  | zero => exact .throw blames_endless
  | succ fuel ih =>
    rw [collectWithin]
    split
    · exact .modify _
    · split
      · split
        · exact .modify _
        · exact throwCycle_blames path arrival.type
      · exact (expandWith_blames (ih (path ++ [arrival.type])) arrival.type).bind fun _ =>
          .modify _

theorem need_blames (type : TypeRef) (user : String) (viaPointer : Bool) :
    FailsWith scope.Blames (scope.need type user viaPointer) :=
  collectArrival_blames (collectWithin_blames _ []) viaPointer type

/-! ## Interface types -/

section FfiType

variable {demand : Demand}
  (demands : ∀ type viaPointer, FailsWith scope.Blames (demand type viaPointer))

include demands

theorem ffiPointer_blames (pointee : TypeRef) :
    FailsWith scope.Blames (scope.ffiPointer demand pointee) := by
  unfold ffiPointer
  split
  · exact .pure _
  · split
    · exact (demands pointee true).bind fun _ => .pure _
    · exact (demands pointee true).bind fun _ => .pure _
    · exact (FailsWith.pure ()).bind fun _ => .pure _

theorem ffiMeaning_blames (type : TypeRef) :
    FailsWith scope.Blames (scope.ffiMeaning demand type user) := by
  have named := fun id => FailsWith.of_succeeds (P := scope.Blames) (scope.nameFor_succeeds id)
  unfold ffiMeaning
  cases type with
  | none => exact .throw (blames_unsupported none)
  | some id =>
    dsimp only
    split
    · exact .throw (blames_unsupported none)
    · exact .pure _
    · exact ffiPointer_blames demands _
    · exact (demands (some id) false).bind fun _ => (named id).bind fun _ => .pure _
    · exact .pure _
    · exact .throw (blames_unsupported _)
    · exact .throw (blames_unsupported _)

theorem ffiType_blames (type : TypeRef) :
    FailsWith scope.Blames (scope.ffiType demand type user) := by
  unfold ffiType
  split
  · rename_i name node
    split
    · exact .pure _
    · obtain ⟨id, -, there⟩ := Option.bind_eq_some_iff.1 node
      refine (ofExcept_blames fun _ => blames_of_finalMeaning there).bind fun meaning => ?_
      cases meaning with
      | variadic => exact .pure _
      | type meaning => exact ffiMeaning_blames demands meaning
  · exact ffiMeaning_blames demands type

end FfiType

theorem neededFfiType_blames (type : TypeRef) (user : String) :
    FailsWith scope.Blames (scope.neededFfiType type user) :=
  ffiType_blames (fun other viaPointer => need_blames other user viaPointer) type

theorem knownFfiType_blames (type : TypeRef) (user : String) :
    FailsWith scope.Blames (scope.knownFfiType type user) :=
  ffiType_blames (fun _ _ => .pure ()) type

/-! ## Callables -/

theorem bindCallable_blames (callable : Callable) (order : Int) :
    FailsWith scope.Blames (scope.bindCallable callable order) := by
  refine (FailsWith.mapM fun param _ => neededFfiType_blames param _).bind fun params => ?_
  exact (neededFfiType_blames callable.result _).bind fun _ => .pure _

theorem bindAll_blames (skipUnsupported : Bool) (callables : List Callable) :
    FailsWith scope.Blames (scope.bindAll skipUnsupported callables) := by
  refine (FailsWith.mapM fun place _ => ?_).bind fun _ => .pure _
  exact fun ledger fault after failed =>
    bindCallable_blames place.1 place.2 ledger fault after (bindOrSkip_error failed)

/-! ## Records -/

theorem blames_of_heldByMember {inPlace : NodeId → Walk NodeId}
    (each : ∀ id fault, (inPlace id).fault = some fault → scope.Blames fault) {member : Member}
    {fault : Fault} (stopped : (scope.heldByMember inPlace member).fault = some fault) :
    scope.Blames fault := by
  unfold heldByMember at stopped
  split at stopped
  · cases stopped
  · rename_i id isType
    split at stopped
    · rename_i name node
      split at stopped
      · cases stopped
      · split at stopped
        · rename_i other lost
          cases stopped
          exact blames_of_finalMeaning node lost
        · split at stopped <;> cases stopped
        · cases stopped
    · split at stopped
      · cases stopped
      · split at stopped
        · cases stopped
        · exact each id fault stopped
    · cases stopped

theorem blames_of_heldWithin {fuel : Nat} {record : NodeId} {fault : Fault}
    (stopped : (scope.heldWithin fuel record).fault = some fault) : scope.Blames fault := by
  induction fuel generalizing record fault with
  | zero =>
    cases stopped
    exact blames_endless
  | succ fuel ih =>
    rw [heldWithin] at stopped
    obtain ⟨member, -, here⟩ := Walk.exists_of_fault_concatMap stopped
    exact blames_of_heldByMember (fun _ _ below => ih below) here

theorem visitWithin_blames (wanted : List NodeId) (fuel : Nat) (path ordered : List NodeId)
    (id : NodeId) : FailsWith scope.Blames (scope.visitWithin wanted fuel path ordered id) := by
  induction fuel generalizing path ordered id with
  | zero => exact .throw blames_endless
  | succ fuel ih =>
    rw [visitWithin]
    split
    · exact .pure _
    · split
      · exact throwCycle_blames path id
      · refine (FailsWith.foldlM (fun ordered other _ => ih _ ordered other) ordered).bind
          fun ordered => ?_
        cases stopped : (scope.held id).fault with
        | none => exact .pure _
        | some fault => exact .throw (blames_of_heldWithin stopped)

theorem bindMember_blames {inPlace : NodeId → Run (List RecordBinding)}
    (each : ∀ id, FailsWith scope.Blames (inPlace id)) (parentName : String) (member : Member)
    (index : Nat) : FailsWith scope.Blames (scope.bindMember inPlace parentName member index) := by
  have field := fun nested : List RecordBinding =>
    (@knownFfiType_blames scope member.type parentName).bind fun type =>
      FailsWith.pure (P := scope.Blames) (nested, RecordField.mk (member.label index) type)
  unfold bindMember
  split
  · exact (each _).bind field
  · exact (FailsWith.pure []).bind field

theorem bindRecordWithin_blames (users : List String) (fuel : Nat) (id : NodeId) :
    FailsWith scope.Blames (scope.bindRecordWithin users fuel id) := by
  induction fuel generalizing id with
  | zero => exact .throw blames_endless
  | succ fuel ih =>
    rw [bindRecordWithin]
    refine (FailsWith.of_succeeds (scope.nameFor_succeeds id)).bind fun cName => ?_
    dsimp only
    split
    · exact (FailsWith.modify _).bind fun _ => .pure _
    · refine (FailsWith.mapM fun place _ => ?_).bind fun _ => .pure _
      exact bindMember_blames ih cName place.1 place.2

theorem bindRecords_blames : FailsWith scope.Blames scope.bindRecords := by
  refine FailsWith.get.bind fun ledger => ?_
  refine (FailsWith.foldlM (fun ordered id _ => visitWithin_blames _ _ _ ordered id) _).bind
    fun ordered => ?_
  exact (FailsWith.mapM fun id _ => bindRecordWithin_blames _ _ id).bind fun _ => .pure _

end Scope

/-! ## Libraries -/

theorem Work.inScope_error {α : Type} {computation : Scope → Run α} {workspace after : Workspace}
    {fault : Fault} (failed : (Work.inScope computation).run workspace = .error fault after) :
    ∃ ledger, (computation workspace.scope).run workspace.ledger = .error fault ledger := by
  simp only [Work.inScope, EStateM.run] at failed
  split at failed
  · cases failed
  · rename_i other ledger ran
    cases failed
    exact ⟨ledger, ran⟩

namespace HeaderLibrary

variable {library : HeaderLibrary} {skipUnsupported : Bool}

/-- The types of a header are those there were, with more of the same shape. -/
theorem bindHeader_blames {header : String} {workspace after : Workspace} {fault : Fault}
    (failed : (library.bindHeader skipUnsupported header).run workspace = .error fault after) :
    workspace.scope.Blames fault := by
  have scanned : (library.scanScope workspace.scope header).Blames fault := by
    unfold bindHeader at failed
    obtain ⟨same, start, read, failed⟩ :=
      (bind_error_iff.1 failed).resolve_left Succeeds.get.ne_error
    cases read
    obtain ⟨⟨⟩, noted, scan, failed⟩ :=
      (bind_error_iff.1 failed).resolve_left (Succeeds.modify _).ne_error
    cases scan
    rcases bind_error_iff.1 failed with inCallbacks | ⟨callbacks, first, bound, failed⟩
    · obtain ⟨ledger, inCallbacks⟩ := Work.inScope_error inCallbacks
      exact Scope.bindAll_blames _ _ _ _ _ inCallbacks
    · obtain ⟨middle, -, rfl⟩ := Work.inScope_ok_iff.1 bound
      rcases bind_error_iff.1 failed with inFunctions | ⟨functions, second, -, last⟩
      · obtain ⟨ledger, inFunctions⟩ := Work.inScope_error inFunctions
        exact Scope.bindAll_blames _ _ _ _ _ inFunctions
      · cases last
  have same := library.sameShape_scanScope workspace.scope header
  exact fun name unknown => same.unknown (scanned name unknown)

theorem bindHeadersFrom_blames {headers : List String} {workspace after : Workspace}
    {fault : Fault}
    (failed : (headers.mapM (library.bindHeader skipUnsupported)).run workspace =
      .error fault after) : workspace.scope.Blames fault := by
  induction headers generalizing workspace with
  | nil => cases failed
  | cons header headers ih =>
    rw [List.mapM_cons] at failed
    rcases bind_error_iff.1 failed with here | ⟨bound, middle, done, failed⟩
    · exact bindHeader_blames here
    · rcases bind_error_iff.1 failed with later | ⟨rest, last, -, never⟩
      · have same := (bindHeader_backed done).1.scope
        exact fun name unknown => same.unknown (ih later name unknown)
      · cases never

/-- **Only typedef names that no typedef declares end a run as unknown.**  Each is held by a
type, and is unknown once the typedefs of all files were read. -/
theorem unknown_of_bind {workspace after : Workspace} {name : String}
    (failed : (library.bind skipUnsupported).run workspace =
      .error (.unknownTypedef name) after) :
    (library.readTypedefs workspace).scope.Unknown name := by
  unfold bind at failed
  rcases bind_error_iff.1 failed with inHeaders | ⟨bound, middle, done, failed⟩
  · unfold bindHeaders at inHeaders
    obtain ⟨⟨⟩, read, typedefs, inHeaders⟩ :=
      (bind_error_iff.1 inHeaders).resolve_left (Succeeds.modify _).ne_error
    cases typedefs
    exact bindHeadersFrom_blames inHeaders name rfl
  · have same := (bindHeadersFrom_backed (bindHeaders_ok done)).1.scope
    refine same.unknown ?_
    rcases bind_error_iff.1 failed with inEnums | ⟨enums, second, bound, failed⟩
    · obtain ⟨ledger, inEnums⟩ := Work.inScope_error inEnums
      exact absurd inEnums middle.scope.bindEnums_succeeds.ne_error
    · obtain ⟨ledger, -, rfl⟩ := Work.inScope_ok_iff.1 bound
      rcases bind_error_iff.1 failed with inRecords | ⟨records, third, -, last⟩
      · obtain ⟨ledger, inRecords⟩ := Work.inScope_error inRecords
        exact Scope.bindRecords_blames _ _ _ inRecords name rfl
      · cases last

end HeaderLibrary

end HeaderBind
