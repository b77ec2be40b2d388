/-
# HeaderBind.Proofs.Run.Seen — a run is the same where it sees the same types

Binding a callable looks at its parameters and its result, follows pointers and typedef
names, and goes through the members of records.  Two scopes of the same shape are alike for
a set of types that is closed under these ways if the nodes of those types are the same in
both (`Scope.SameSeen`).  Then the callables made of such types are bound by the very same
computation, and what is skipped is reported with the same text (`bindAll_eq`).
-/
import HeaderBind.Proofs.Binding.Stages
import HeaderBind.Proofs.CType.Spine

namespace HeaderBind

set_option autoImplicit false

open Outcome TypeGraph

/-! ## The same computation -/

namespace Run

variable {α β : Type} {P : Fault → Prop}

/-- The computations are the same, and `P` holds of their faults. -/
structure Matches (P : Fault → Prop) (x y : Run α) : Prop where
  same : y = x
  faults : FailsWith P x

namespace Matches

theorem of_succeeds {x : Run α} (h : Succeeds x) : Matches P x x := ⟨rfl, .of_succeeds h⟩

theorem pure (a : α) : Matches P (pure a : Run α) (pure a) := ⟨rfl, .pure a⟩

theorem throw {fault : Fault} (holds : P fault) : Matches P (throw fault : Run α) (throw fault) :=
  ⟨rfl, .throw holds⟩

theorem bind {x y : Run α} {f g : α → Run β} (one : Matches P x y)
    (rest : ∀ a, Matches P (f a) (g a)) : Matches P (x >>= f) (y >>= g) := by
  have same : g = f := funext fun a => (rest a).same
  refine ⟨?_, one.faults.bind fun a => (rest a).faults⟩
  rw [one.same, same]

theorem mapM {f g : α → Run β} {list : List α} (each : ∀ a ∈ list, Matches P (f a) (g a)) :
    Matches P (list.mapM f) (list.mapM g) := by
  induction list with
  | nil =>
    rw [List.mapM_nil, List.mapM_nil]
    exact pure []
  | cons a rest ih =>
    rw [List.mapM_cons, List.mapM_cons]
    refine (each a List.mem_cons_self).bind fun b => ?_
    exact (ih fun other member => each other (List.mem_cons_of_mem a member)).bind fun _ => pure _

theorem forM {f g : α → Run PUnit} {list : List α} (each : ∀ a ∈ list, Matches P (f a) (g a)) :
    Matches P (forM list f) (forM list g) := by
  induction list with
  | nil => exact pure PUnit.unit
  | cons a rest ih =>
    rw [List.forM_cons, List.forM_cons]
    refine (each a List.mem_cons_self).bind fun _ => ?_
    exact ih fun other member => each other (List.mem_cons_of_mem a member)

end Matches

theorem mapM_congr {f g : α → Run β} {list : List α} (each : ∀ a ∈ list, f a = g a) :
    list.mapM f = list.mapM g := by
  induction list with
  | nil => rw [List.mapM_nil, List.mapM_nil]
  | cons a list ih =>
    rw [List.mapM_cons, List.mapM_cons, each a List.mem_cons_self,
      ih fun other member => each other (List.mem_cons_of_mem a member)]

/-- A result that is the same, and what is done with its value. -/
theorem ofExcept_matches {result other : Except Fault α} {f g : α → Run β} (same : other = result)
    (faults : ∀ fault, result = .error fault → P fault)
    (each : ∀ a, result = .ok a → Matches P (f a) (g a)) :
    Matches P (ofExcept result >>= f) (ofExcept other >>= g) := by
  rw [same]
  cases result with
  | ok a => exact each a rfl
  | error fault => exact .throw (faults fault rfl)

theorem followWalk_matches {walk other : Walk α} {f g : α → Run Unit} (same : other = walk)
    (faults : ∀ fault, walk.fault = some fault → P fault)
    (each : ∀ a ∈ walk.items, Matches P (f a) (g a)) :
    Matches P (followWalk walk f) (followWalk other g) := by
  rw [same]
  refine (Matches.forM each).bind fun _ => ?_
  cases stopped : walk.fault with
  | none => exact .pure ()
  | some fault => exact .throw (faults fault stopped)

end Run

theorem Walk.concatMap_congr {α β : Type} {f g : β → Walk α} {list : List β}
    (each : ∀ b ∈ list, f b = g b) : Walk.concatMap f list = Walk.concatMap g list := by
  induction list with
  | nil => rfl
  | cons b rest ih =>
    have others := ih fun c member => each c (List.mem_cons_of_mem b member)
    rw [concatMap, concatMap, each b List.mem_cons_self, others]

/-- The types a type is written with. -/
inductive CType.Refers : CType → TypeRef → Prop
  | pointee (pointee : TypeRef) : Refers (.pointer pointee) pointee
  | result (prototype : Prototype) : Refers (.function prototype) prototype.result
  | param (prototype : Prototype) (param : Parameter) :
      param ∈ prototype.params → Refers (.function prototype) param.type
  | member (tagged : TaggedType) (members : List Member) (member : Member) :
      tagged.members = some members → member ∈ members → Refers (.tagged tagged) member.type

theorem CType.Display.node_congr {f g : TypeRef → String} {type : CType}
    (same : ∀ ref, type.Refers ref → f ref = g ref) :
    CType.Display.node f type = CType.Display.node g type := by
  cases type with
  | pointer pointee =>
    unfold node
    dsimp only
    rw [same pointee (.pointee pointee)]
  | function prototype =>
    have params : (prototype.params.map fun param =>
        "Parameter(name=" ++ option param.name ++ ", type=" ++ f param.type ++ ")") =
        prototype.params.map fun param =>
        "Parameter(name=" ++ option param.name ++ ", type=" ++ g param.type ++ ")" := by
      refine List.map_congr_left fun param member => ?_
      rw [same param.type (.param prototype param member)]
    unfold node
    dsimp only
    rw [params, same prototype.result (.result prototype)]
  | tagged tagged =>
    obtain ⟨tag, name, members, constants⟩ := tagged
    cases members with
    | none => rfl
    | some members =>
      have shown : (members.map fun member =>
          "Member(name=" ++ option member.name ++ ", type=" ++ f member.type ++ ")") =
          members.map fun member =>
          "Member(name=" ++ option member.name ++ ", type=" ++ g member.type ++ ")" := by
        refine List.map_congr_left fun member isMember => ?_
        rw [same member.type (.member _ members member rfl isMember)]
      unfold node
      dsimp only
      rw [shown]
  | builtin spelling => rfl
  | typedefName name => rfl
  | uncovered spelling => rfl

/-! ## Types that are seen -/

/-- The scopes are of the same shape, and the nodes of the types that are seen are the same in
both.  What is seen is closed: under spines, under what typedef names stand for, and all types
of parameters and members are seen. -/
structure Scope.SameSeen (first second : Scope) (seen : TypeRef → Prop) : Prop where
  shape : first.SameShape second
  size : second.graph.size = first.graph.size
  node : ∀ id, seen (some id) → second.graph.node? id = first.graph.node? id
  slot : ∀ id next, seen (some id) → first.graph.slot? id = some next → seen next
  params : ∀ id prototype, first.graph.node? id = some (.function prototype) →
    ∀ param ∈ prototype.params, seen param.type
  members : ∀ record members, first.graph.members? record = some members →
    ∀ member ∈ members, seen member.type
  meanings : ∀ name type, first.finalMeaning name = .ok (.type type) → seen type

namespace Scope.SameSeen

variable {first second : Scope} {seen : TypeRef → Prop} {user : String}

theorem at? (h : first.SameSeen second seen) {type : TypeRef} (isSeen : seen type) :
    second.graph.at? type = first.graph.at? type := by
  cases type with
  | none => rfl
  | some id => exact h.node id isSeen

theorem pointee (h : first.SameSeen second seen) {id : NodeId} {pointee : TypeRef}
    (isSeen : seen (some id)) (node : first.graph.node? id = some (.pointer pointee)) :
    seen pointee := by
  refine h.slot id pointee isSeen ?_
  rw [slot?, node]
  rfl

/-- A seen type is written with types that are seen. -/
theorem refers (h : first.SameSeen second seen) {id : NodeId} {type : CType} {ref : TypeRef}
    (isSeen : seen (some id)) (node : first.graph.node? id = some type)
    (written : type.Refers ref) : seen ref := by
  cases written with
  | pointee pointee => exact h.pointee isSeen node
  | result prototype =>
    refine h.slot id prototype.result isSeen ?_
    rw [slot?, node]
    rfl
  | param prototype param member => exact h.params id prototype node param member
  | member tagged members member held isMember =>
    refine h.members id members ?_ member isMember
    rw [members?, tagged?_eq_some_iff.2 node]
    exact held

/-! ### Texts -/

/-- What is shown of a type is seen. -/
theorem ref_eq (h : first.SameSeen second seen) {fuel : Nat} {path : List NodeId}
    {type : TypeRef} (isSeen : seen type) :
    CType.Display.ref second.graph fuel path type =
      CType.Display.ref first.graph fuel path type := by
  induction fuel generalizing path type with
  | zero => cases type <;> rfl
  | succ fuel ih =>
    cases type with
    | none => rfl
    | some id =>
      rw [CType.Display.ref, CType.Display.ref, h.node id isSeen]
      split
      · rfl
      · cases node : first.graph.node? id with
        | none => rfl
        | some type =>
          exact CType.Display.node_congr fun ref refers => ih (h.refers isSeen node refers)

theorem display_eq (h : first.SameSeen second seen) {type : TypeRef} (isSeen : seen type) :
    second.graph.display type = first.graph.display type := by
  rw [TypeGraph.display, TypeGraph.display, h.size]
  exact h.ref_eq isSeen

/-- The fault is reported with the same text in both scopes. -/
def Reports (first second : Scope) (fault : Fault) : Prop :=
  fault.message second.graph = fault.message first.graph

theorem reports_unsupported (h : first.SameSeen second seen) {type : TypeRef}
    (isSeen : seen type) : Reports first second (.unsupported type user) := by
  show "Unsupported type " ++ second.graph.display type ++ _ = _
  rw [h.display_eq isSeen]
  rfl

theorem reports_none : Reports first second (.unsupported none user) := by
  have shown : second.graph.display none = first.graph.display none := by
    rw [TypeGraph.display, TypeGraph.display, CType.Display.ref, CType.Display.ref]
  show "Unsupported type " ++ second.graph.display none ++ _ = _
  rw [shown]
  rfl

/-- A typedef name that stands for nothing is reported without any type. -/
theorem reports_of_follow {fuel : Nat} {chain : List String} {name : String} {fault : Fault}
    (failed : first.typedefs.follow first.graph fuel chain name = .error fault) :
    Reports first second fault := by
  induction fuel generalizing chain name with
  | zero =>
    cases failed
    rfl
  | succ fuel ih =>
    rw [TypedefTable.follow] at failed
    split at failed
    · rename_i missing
      cases failed
      rw [TypedefTable.fault_of_meaning missing]
      rfl
    · split at failed
      · cases failed
      · split at failed
        · cases failed
          rfl
        · exact ih failed

/-! ### Needs -/

theorem reports_of_ok {α : Type} {a : α} (fault : Fault)
    (failed : (.ok a : Except Fault α) = .error fault) : Reports first second fault := by
  cases failed

/-- A type leads to the same in both scopes. -/
theorem arrivalWithin_eq (h : first.SameSeen second seen) (user : String) (fuel : Nat)
    (viaPointer : Bool) {type : TypeRef} (isSeen : seen type) :
    second.arrivalWithin user fuel viaPointer type =
        first.arrivalWithin user fuel viaPointer type ∧
      ∀ fault, first.arrivalWithin user fuel viaPointer type = .error fault →
        Reports first second fault := by
  induction fuel generalizing viaPointer type with
  | zero =>
    refine ⟨rfl, fun fault failed => ?_⟩
    cases failed
    rfl
  | succ fuel ih =>
    cases type with
    | none =>
      refine ⟨rfl, fun fault failed => ?_⟩
      cases failed
      exact reports_none
    | some id =>
      rw [arrivalWithin, arrivalWithin, h.node id isSeen]
      cases node : first.graph.node? id with
      | none =>
        refine ⟨rfl, fun fault failed => ?_⟩
        cases failed
        exact reports_none
      | some type =>
        cases type with
        | pointer pointee =>
          have below := h.pointee isSeen node
          dsimp only
          rw [h.at? below]
          cases first.graph.at? pointee with
          | none => exact ⟨rfl, reports_of_ok⟩
          | some target => exact ih true below
        | typedefName name =>
          dsimp only
          rw [h.shape.typedefs, h.shape.finalMeaning_eq]
          split
          · exact ⟨rfl, reports_of_ok⟩
          · cases means : first.finalMeaning name with
            | error other =>
              refine ⟨rfl, fun fault failed => ?_⟩
              cases failed
              exact reports_of_follow means
            | ok meaning =>
              cases meaning with
              | variadic => exact ⟨rfl, reports_of_ok⟩
              | type meaning => exact ih viaPointer (h.meanings name meaning means)
        | tagged tagged => exact ⟨rfl, reports_of_ok⟩
        | builtin spelling => exact ⟨rfl, reports_of_ok⟩
        | function prototype => exact ⟨rfl, reports_of_ok⟩
        | uncovered spelling =>
          refine ⟨rfl, fun fault failed => ?_⟩
          dsimp only at failed
          split at failed
          · cases failed
          · cases failed
            exact h.reports_unsupported isSeen

/-- The steps of an expansion use types that are seen, and a fault that ends it is reported with
the same text. -/
structure Sees (first second : Scope) (seen : TypeRef → Prop) (walk : Walk ExpansionStep) :
    Prop where
  uses : ∀ type, .use type ∈ walk.items → seen type
  reports : ∀ fault, walk.fault = some fault → Reports first second fault

namespace Sees

theorem empty : Sees first second seen .empty := by
  refine ⟨fun type used => ?_, fun fault stopped => ?_⟩
  · cases used
  · cases stopped

theorem use {type : TypeRef} (isSeen : seen type) :
    Sees first second seen (.single (.use type)) := by
  refine ⟨fun other used => ?_, fun fault stopped => ?_⟩
  · cases List.mem_singleton.1 used
    exact isSeen
  · cases stopped

theorem stop {fault : Fault} (reported : Reports first second fault) :
    Sees first second seen (.stop fault) := by
  refine ⟨fun type used => ?_, fun other stopped => ?_⟩
  · cases used
  · cases stopped
    exact reported

/-- A step that is no use sees nothing. -/
theorem cons {step : ExpansionStep} {walk : Walk ExpansionStep}
    (noUse : ∀ type, step ≠ .use type) (rest : Sees first second seen walk) :
    Sees first second seen (.cons step walk) := by
  refine ⟨fun type used => ?_, rest.reports⟩
  rcases List.mem_cons.1 used with same | used
  · exact absurd same.symm (noUse type)
  · exact rest.uses type used

theorem concatMap {α : Type} {steps : α → Walk ExpansionStep} {list : List α}
    (each : ∀ a ∈ list, Sees first second seen (steps a)) :
    Sees first second seen (.concatMap steps list) := by
  refine ⟨fun type used => ?_, fun fault stopped => ?_⟩
  · obtain ⟨a, member, met⟩ := Walk.exists_of_mem_concatMap used
    exact (each a member).uses type met
  · obtain ⟨a, member, here⟩ := Walk.exists_of_fault_concatMap stopped
    exact (each a member).reports fault here

end Sees

/-- A member is expanded in the same way in both scopes, and only types that are seen are used,
if that is so for what is written in place. -/
theorem memberSteps_eq (h : first.SameSeen second seen) (user : String)
    {inPlace : NodeId → Walk ExpansionStep}
    (below : ∀ child, Sees first second seen (inPlace child))
    (record : NodeId) {member : Member} (isSeen : seen member.type) (index : Nat) :
    second.graph.memberSteps user inPlace record member index =
        first.graph.memberSteps user inPlace record member index ∧
      Sees first second seen (first.graph.memberSteps user inPlace record member index) := by
  unfold memberSteps
  cases isType : member.type with
  | none => exact ⟨rfl, .empty⟩
  | some id =>
    rw [isType] at isSeen
    dsimp only
    rw [h.node id isSeen]
    cases node : first.graph.node? id with
    | none => exact ⟨rfl, .empty⟩
    | some type =>
      cases type with
      | typedefName name => exact ⟨rfl, .use isSeen⟩
      | tagged tagged =>
        dsimp only
        cases tagged.ownName? with
        | some own => exact ⟨rfl, .use isSeen⟩
        | none =>
          refine ⟨rfl, .cons (fun _ => ExpansionStep.noConfusion) ?_⟩
          split
          · exact below id
          · exact .use isSeen
      | function prototype => exact ⟨rfl, .stop (h.reports_unsupported isSeen)⟩
      | uncovered spelling => exact ⟨rfl, .stop (h.reports_unsupported isSeen)⟩
      | builtin spelling => exact ⟨rfl, .empty⟩
      | pointer pointee => exact ⟨rfl, .empty⟩

/-- A record is expanded in the same way in both scopes, and only types that are seen are
used. -/
theorem expansionWithin_eq (h : first.SameSeen second seen) (user : String) (fuel : Nat)
    (record : NodeId) :
    second.graph.expansionWithin user fuel record =
        first.graph.expansionWithin user fuel record ∧
      Sees first second seen (first.graph.expansionWithin user fuel record) := by
  induction fuel generalizing record with
  | zero => exact ⟨rfl, .stop rfl⟩
  | succ fuel ih =>
    rw [expansionWithin, expansionWithin, h.shape.graph.members?_eq]
    cases held : first.graph.members? record with
    | none => exact ⟨rfl, .cons (fun _ => ExpansionStep.noConfusion) .empty⟩
    | some members =>
      have inPlace : second.graph.expansionWithin user fuel =
          first.graph.expansionWithin user fuel := funext fun child => (ih child).1
      have each := fun (place : Member × Nat) (member : place ∈ members.zipIdx) =>
        h.memberSteps_eq user (fun child => (ih child).2) record
          (h.members record members held place.1 (List.fst_mem_of_mem_zipIdx member)) place.2
      dsimp only
      rw [inPlace]
      refine ⟨?_, .cons (fun _ => ExpansionStep.noConfusion) (.concatMap fun place member => ?_)⟩
      · rw [Walk.concatMap_congr fun place member => (each place member).1]
      · exact (each place member).2

theorem nameFor_matches (h : first.SameSeen second seen) (id : NodeId) :
    Run.Matches (Reports first second) (first.nameFor id) (second.nameFor id) := by
  have same : second.nameFor id = first.nameFor id := by
    unfold nameFor
    rw [h.shape.graph.tagged?_eq]
  exact ⟨same, .of_succeeds (first.nameFor_succeeds id)⟩

theorem throwCycle_matches (h : first.SameSeen second seen) (path : List NodeId) (id : NodeId) :
    Run.Matches (Reports first second) (do throw (← first.cycleThrough path id) : Run Unit)
      (do throw (← second.cycleThrough path id) : Run Unit) := by
  have same : second.cycleThrough path id = first.cycleThrough path id := by
    have names : second.nameFor = first.nameFor :=
      funext fun other => (h.nameFor_matches other).same
    unfold cycleThrough
    rw [names]
  refine ⟨by rw [same], fun ledger fault after failed => ?_⟩
  obtain ⟨cycle, middle, named, thrown⟩ :=
    (bind_error_iff.1 failed).resolve_left (first.cycleThrough_succeeds path id).ne_error
  obtain ⟨names, rfl⟩ := first.cycle_of_cycleThrough named
  cases thrown
  rfl

theorem addNeed_matches (id : NodeId) :
    Run.Matches (Reports first second) (Run.addNeed id user) (Run.addNeed id user) :=
  .of_succeeds (.modify _)

section Collect

variable {collect collect' : Arrival → Run Unit}
  (each : ∀ arrival, Run.Matches (Reports first second) (collect arrival) (collect' arrival))

include each

theorem collectArrival_matches (h : first.SameSeen second seen) (viaPointer : Bool)
    {type : TypeRef} (isSeen : seen type) :
    Run.Matches (Reports first second) (first.collectArrival user collect viaPointer type)
      (second.collectArrival user collect' viaPointer type) := by
  have arrives := h.arrivalWithin_eq user (first.graph.size + 1) viaPointer isSeen
  have same : second.arrival user viaPointer type = first.arrival user viaPointer type := by
    rw [arrival, arrival, h.size]
    exact arrives.1
  refine Run.ofExcept_matches same arrives.2 fun arrival _ => ?_
  cases arrival with
  | none => exact .pure ()
  | some arrival => exact each arrival

theorem performStep_matches (h : first.SameSeen second seen) {step : ExpansionStep}
    (isSeen : ∀ type, step = .use type → seen type) :
    Run.Matches (Reports first second) (first.performStep user collect step)
      (second.performStep user collect' step) := by
  cases step with
  | enter record => exact (h.nameFor_matches record).bind fun _ => .pure ()
  | declaredOnly record =>
    exact (h.nameFor_matches record).bind fun _ => .of_succeeds (Run.note_succeeds _ _ _)
  | nameInPlace child parent label =>
    refine (h.nameFor_matches parent).bind fun _ => ?_
    exact (Run.Matches.of_succeeds (.modifyGet _)).bind fun _ => .pure ()
  | use type => exact collectArrival_matches each h false (isSeen type rfl)

theorem expandWith_matches (h : first.SameSeen second seen) (record : NodeId) :
    Run.Matches (Reports first second) (first.expandWith user collect record)
      (second.expandWith user collect' record) := by
  obtain ⟨same, sees⟩ := h.expansionWithin_eq user (first.graph.size + 1) record
  have walk : second.graph.expansion user record = first.graph.expansion user record := by
    rw [expansion, expansion, h.size]
    exact same
  refine Run.followWalk_matches walk sees.reports fun step member => ?_
  refine performStep_matches each h fun type isUse => ?_
  rw [isUse] at member
  exact sees.uses type member

end Collect

theorem collectWithin_matches (h : first.SameSeen second seen) (fuel : Nat) (path : List NodeId)
    (arrival : Arrival) :
    Run.Matches (Reports first second) (first.collectWithin user fuel path arrival)
      (second.collectWithin user fuel path arrival) := by
  induction fuel generalizing path arrival with
  | zero => exact .throw rfl
  | succ fuel ih =>
    rw [collectWithin, collectWithin, h.shape.graph.isEnum_eq]
    split
    · exact addNeed_matches _
    · split
      · split
        · exact addNeed_matches _
        · exact h.throwCycle_matches path arrival.type
      · exact (expandWith_matches (ih _) h arrival.type).bind fun _ => addNeed_matches _

/-- The needs of a type that is seen are collected by the same computation. -/
theorem need_matches (h : first.SameSeen second seen) {type : TypeRef} (isSeen : seen type)
    (user : String) (viaPointer : Bool) :
    Run.Matches (Reports first second) (first.need type user viaPointer)
      (second.need type user viaPointer) := by
  have collects : ∀ arrival, Run.Matches (Reports first second) (first.collect user arrival)
      (second.collect user arrival) := by
    intro arrival
    rw [collect, collect, h.size]
    exact h.collectWithin_matches _ [] arrival
  exact collectArrival_matches collects h viaPointer isSeen

/-! ### Interface types -/

theorem ffiPointer_matches (h : first.SameSeen second seen) {pointee : TypeRef}
    (isSeen : seen pointee) (user : String) :
    Run.Matches (Reports first second) (first.ffiPointer (.needing first user) pointee)
      (second.ffiPointer (.needing second user) pointee) := by
  have demanded := h.need_matches isSeen user true
  have constChar : second.graph.isConstChar pointee = first.graph.isConstChar pointee := by
    unfold isConstChar
    rw [h.at? isSeen]
  unfold ffiPointer
  rw [constChar, h.at? isSeen]
  split
  · exact .pure _
  · split
    · exact demanded.bind fun _ => .pure _
    · exact demanded.bind fun _ => .pure _
    · exact .pure _

theorem ffiMeaning_matches (h : first.SameSeen second seen) {type : TypeRef}
    (isSeen : seen type) (user : String) :
    Run.Matches (Reports first second) (first.ffiMeaning (.needing first user) type user)
      (second.ffiMeaning (.needing second user) type user) := by
  unfold ffiMeaning
  cases type with
  | none => exact .throw reports_none
  | some id =>
    dsimp only
    rw [h.node id isSeen]
    cases node : first.graph.node? id with
    | none => exact .throw reports_none
    | some type =>
      cases type with
      | typedefName name => exact .pure _
      | pointer pointee => exact h.ffiPointer_matches (h.pointee isSeen node) user
      | tagged tagged =>
        refine (h.need_matches isSeen user false).bind fun _ => ?_
        exact (h.nameFor_matches id).bind fun _ => .pure _
      | builtin spelling => exact .pure _
      | function prototype => exact .throw (h.reports_unsupported isSeen)
      | uncovered spelling => exact .throw (h.reports_unsupported isSeen)

theorem neededFfiType_matches (h : first.SameSeen second seen) {type : TypeRef}
    (isSeen : seen type) (user : String) :
    Run.Matches (Reports first second) (first.neededFfiType type user)
      (second.neededFfiType type user) := by
  unfold neededFfiType ffiType
  rw [h.at? isSeen, h.shape.typedefs]
  split
  · rename_i name _
    split
    · exact .pure _
    · refine Run.ofExcept_matches (h.shape.finalMeaning_eq name)
        (fun fault failed => reports_of_follow failed) fun meaning means => ?_
      cases meaning with
      | variadic => exact .pure _
      | type meaning => exact h.ffiMeaning_matches (h.meanings name meaning means) user
  · exact h.ffiMeaning_matches isSeen user

/-! ### Callables -/

theorem bindCallable_matches (h : first.SameSeen second seen) {callable : Callable}
    (params : ∀ param ∈ callable.params, seen param) (result : seen callable.result)
    (order : Int) :
    Run.Matches (Reports first second) (first.bindCallable callable order)
      (second.bindCallable callable order) := by
  refine (Run.Matches.mapM fun param member =>
    h.neededFfiType_matches (params param member) callable.name).bind fun _ => ?_
  exact (h.neededFfiType_matches result callable.name).bind fun _ => .pure _

/-- A callable whose types are seen is bound or skipped in the same way, and a skipped one is
reported with the same text. -/
theorem bindOrSkip_eq (h : first.SameSeen second seen) {callable : Callable}
    (params : ∀ param ∈ callable.params, seen param) (result : seen callable.result)
    (skipUnsupported : Bool) (order : Int) :
    second.bindOrSkip skipUnsupported callable order =
      first.bindOrSkip skipUnsupported callable order := by
  obtain ⟨same, faults⟩ := h.bindCallable_matches params result order
  funext ledger
  unfold bindOrSkip
  rw [same]
  cases run : (first.bindCallable callable order).run ledger with
  | ok binding after => rfl
  | error fault after =>
    have reported := faults ledger fault after run
    have skipped : second.skip ledger.needs callable fault =
        first.skip ledger.needs callable fault := by
      unfold skip
      rw [reported]
    dsimp only
    rw [skipped]

/-- **A list of callables whose types are seen is bound by the same computation.** -/
theorem bindAll_eq (h : first.SameSeen second seen) {callables : List Callable}
    (each : ∀ callable ∈ callables,
      (∀ param ∈ callable.params, seen param) ∧ seen callable.result)
    (skipUnsupported : Bool) :
    second.bindAll skipUnsupported callables = first.bindAll skipUnsupported callables := by
  unfold bindAll
  refine congrArg (· >>= _) (Run.mapM_congr fun place member => ?_)
  obtain ⟨params, result⟩ := each place.1 (List.fst_mem_of_mem_zipIdx member)
  exact h.bindOrSkip_eq params result skipUnsupported place.2

end Scope.SameSeen

end HeaderBind
