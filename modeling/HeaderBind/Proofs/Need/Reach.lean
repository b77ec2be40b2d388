/-
# HeaderBind.Proofs.Need.Reach — which tagged types a type reaches

The relations that collecting needs computes, each the least of its kind.

* `TypeGraph.Uses`: expanding a record uses a type by value, in the record itself
  or in an unnamed record written in place.
* `Scope.LeadsTo`: a type leads to a tagged type through pointers and typedef
  names; a flag tells whether a pointer is passed.
* `Scope.Meets`: expanding a record meets a tagged type.
* `Scope.Needs`: collecting a type records a tagged type; `Scope.Demands`: a
  parameter or result of that type needs it.

The walk `expansion` lists exactly what a record uses, unless a fault cuts it short
(`uses_of_mem_expansion`, `mem_expansion_of_uses`), and `arrival` gives exactly where
a type leads (`leadsTo_of_arrival`, `arrival_of_leadsTo`).
-/
import HeaderBind.Need.Collection
import HeaderBind.Proofs.CType.Shape
import HeaderBind.Proofs.Typedef.Chain

namespace HeaderBind

set_option autoImplicit false

open Relation

namespace TypeGraph

variable (graph : TypeGraph)

/-- Some member of the record has the type. -/
def MemberType (record type : NodeId) : Prop :=
  ∃ members, graph.members? record = some members ∧ ∃ member ∈ members, member.type = some type

/-- Expanding the record uses the type by value. -/
inductive Uses : NodeId → TypeRef → Prop
  | typedefName {record type : NodeId} {name : String} :
      graph.MemberType record type → graph.node? type = some (.typedefName name) →
      Uses record (some type)
  /-- Named tagged types are used where they stand, and so are enumerations. -/
  | tagged {record type : NodeId} {tagged : TaggedType} :
      graph.MemberType record type → graph.node? type = some (.tagged tagged) →
      tagged.ownName?.isSome ∨ tagged.isRecord = false → Uses record (some type)
  /-- An unnamed record is written in place: what it uses is used, not the record. -/
  | inPlace {record child : NodeId} {tagged : TaggedType} {type : TypeRef} :
      graph.MemberType record child → graph.node? child = some (.tagged tagged) →
      tagged.ownName? = none → tagged.isRecord = true → Uses child type → Uses record type

variable {graph}

/-! ## The walk through a record -/

theorem memberType_of_mem_zipIdx {record type : NodeId} {members : List Member} {member : Member}
    {index : Nat} (held : graph.members? record = some members)
    (place : (member, index) ∈ members.zipIdx) (isType : member.type = some type) :
    graph.MemberType record type :=
  ⟨members, held, member, List.fst_mem_of_mem_zipIdx place, isType⟩

theorem uses_of_mem_memberSteps {user : String} {inPlace : NodeId → Walk ExpansionStep}
    {record : NodeId} {members : List Member} {member : Member} {index : Nat} {type : TypeRef}
    (below : ∀ child, .use type ∈ (inPlace child).items → graph.Uses child type)
    (held : graph.members? record = some members) (place : (member, index) ∈ members.zipIdx)
    (h : .use type ∈ (graph.memberSteps user inPlace record member index).items) :
    graph.Uses record type := by
  unfold memberSteps at h
  split at h
  · cases h
  · rename_i id isType
    have has := memberType_of_mem_zipIdx held place isType
    split at h
    · rename_i name node
      rw [Walk.single, List.mem_singleton] at h
      cases h
      exact .typedefName has node
    · rename_i tagged node
      split at h
      · rename_i name own
        rw [Walk.single, List.mem_singleton] at h
        cases h
        exact .tagged has node (.inl (by rw [own]; rfl))
      · rename_i own
        rw [Walk.cons, List.mem_cons] at h
        rcases h with h | h
        · cases h
        · split at h
          · rename_i record
            exact .inPlace has node own record (below id h)
          · rename_i enum
            rw [Walk.single, List.mem_singleton] at h
            cases h
            exact .tagged has node (.inr (by simpa using enum))
    all_goals cases h

theorem uses_of_mem_expansionWithin {user : String} {fuel : Nat} {record : NodeId}
    {type : TypeRef} (h : .use type ∈ (graph.expansionWithin user fuel record).items) :
    graph.Uses record type := by
  induction fuel generalizing record with
  | zero => cases h
  | succ fuel ih =>
    rw [expansionWithin] at h
    split at h
    · rw [Walk.single, List.mem_singleton] at h
      cases h
    · rename_i members held
      rw [Walk.cons, List.mem_cons] at h
      rcases h with h | h
      · cases h
      · obtain ⟨⟨member, index⟩, place, met⟩ := Walk.exists_of_mem_concatMap h
        exact uses_of_mem_memberSteps (fun child => ih) held place met

/-- What a walk through a record meets by value, the record uses. -/
theorem uses_of_mem_expansion {user : String} {record : NodeId} {type : TypeRef}
    (h : .use type ∈ (graph.expansion user record).items) : graph.Uses record type :=
  uses_of_mem_expansionWithin h

/-- The record has a member with this label whose type has no name of its own. -/
def Labels (graph : TypeGraph) (record type : NodeId) (label : String) : Prop :=
  ∃ members member index, graph.members? record = some members ∧
    (member, index) ∈ members.zipIdx ∧ member.type = some type ∧ member.label index = label ∧
    ∃ tagged, graph.node? type = some (.tagged tagged) ∧ tagged.ownName? = none

theorem labels_of_mem_memberSteps {user : String} {inPlace : NodeId → Walk ExpansionStep}
    {record : NodeId} {members : List Member} {member : Member} {index : Nat}
    {child parent : NodeId} {label : String}
    (below : ∀ inner, .nameInPlace child parent label ∈ (inPlace inner).items →
      graph.Labels parent child label)
    (held : graph.members? record = some members) (place : (member, index) ∈ members.zipIdx)
    (h : .nameInPlace child parent label ∈
      (graph.memberSteps user inPlace record member index).items) :
    graph.Labels parent child label := by
  unfold memberSteps at h
  split at h
  · cases h
  · rename_i id isType
    split at h
    · rw [Walk.single, List.mem_singleton] at h
      cases h
    · rename_i tagged node
      split at h
      · rw [Walk.single, List.mem_singleton] at h
        cases h
      · rename_i own
        rw [Walk.cons, List.mem_cons] at h
        rcases h with h | h
        · cases h
          exact ⟨members, member, index, held, place, isType, rfl, tagged, node, own⟩
        · split at h
          · exact below id h
          · rw [Walk.single, List.mem_singleton] at h
            cases h
    all_goals cases h

theorem labels_of_mem_expansionWithin {user : String} {fuel : Nat} {record child parent : NodeId}
    {label : String}
    (h : .nameInPlace child parent label ∈ (graph.expansionWithin user fuel record).items) :
    graph.Labels parent child label := by
  induction fuel generalizing record with
  | zero => cases h
  | succ fuel ih =>
    rw [expansionWithin] at h
    split at h
    · rw [Walk.single, List.mem_singleton] at h
      cases h
    · rename_i members held
      rw [Walk.cons, List.mem_cons] at h
      rcases h with h | h
      · cases h
      · obtain ⟨⟨member, index⟩, place, met⟩ := Walk.exists_of_mem_concatMap h
        exact labels_of_mem_memberSteps (fun inner => ih) held place met

/-- What an expansion names after a parent and a label is the unnamed type of that member. -/
theorem labels_of_mem_expansion {user : String} {record child parent : NodeId} {label : String}
    (h : .nameInPlace child parent label ∈ (graph.expansion user record).items) :
    graph.Labels parent child label :=
  labels_of_mem_expansionWithin h

/-- A walk that ends without a fault has gone through every member. -/
theorem memberSteps_of_memberType {user : String} {fuel : Nat} {record type : NodeId}
    (has : graph.MemberType record type)
    (ended : (graph.expansionWithin user (fuel + 1) record).fault = none) :
    ∃ member index, member.type = some type ∧
      (graph.memberSteps user (graph.expansionWithin user fuel) record member index).fault = none ∧
      ∀ step ∈ (graph.memberSteps user (graph.expansionWithin user fuel) record member index).items,
        step ∈ (graph.expansionWithin user (fuel + 1) record).items := by
  obtain ⟨members, held, member, place, isType⟩ := has
  obtain ⟨index, found⟩ := List.getElem?_of_mem place
  have inList : (member, index) ∈ members.zipIdx := List.mk_mem_zipIdx_iff_getElem?.2 found
  rw [expansionWithin, held] at ended ⊢
  obtain ⟨done, kept⟩ := Walk.of_concatMap_of_none inList ended
  exact ⟨member, index, isType, done, fun step met => List.mem_cons_of_mem _ (kept step met)⟩

theorem mem_expansionWithin_of_uses {user : String} {fuel : Nat} {record : NodeId}
    {type : TypeRef} (h : graph.Uses record type)
    (ended : (graph.expansionWithin user fuel record).fault = none) :
    .use type ∈ (graph.expansionWithin user fuel record).items := by
  induction h generalizing fuel with
  | typedefName has node =>
    cases fuel with
    | zero => cases ended
    | succ fuel =>
      obtain ⟨member, index, isType, -, kept⟩ := memberSteps_of_memberType has ended
      refine kept _ ?_
      simp [memberSteps, isType, node, Walk.single]
  | @tagged record type tagged has node used =>
    cases fuel with
    | zero => cases ended
    | succ fuel =>
      obtain ⟨member, index, isType, -, kept⟩ := memberSteps_of_memberType has ended
      refine kept _ ?_
      cases own : tagged.ownName? with
      | some name => simp [memberSteps, isType, node, own, Walk.single]
      | none =>
        have enum : tagged.isRecord = false := by simpa [own] using used
        simp [memberSteps, isType, node, own, enum, Walk.single, Walk.cons]
  | inPlace has node own isRecord _ ih =>
    cases fuel with
    | zero => cases ended
    | succ fuel =>
      obtain ⟨member, index, isType, done, kept⟩ := memberSteps_of_memberType has ended
      refine kept _ ?_
      simp only [memberSteps, isType, node, own, isRecord, if_true, Walk.cons] at done ⊢
      exact List.mem_cons_of_mem _ (ih done)

/-- A walk through a record that ends without a fault meets all that the record uses. -/
theorem mem_expansion_of_uses {user : String} {record : NodeId} {type : TypeRef}
    (h : graph.Uses record type) (ended : (graph.expansion user record).fault = none) :
    .use type ∈ (graph.expansion user record).items :=
  mem_expansionWithin_of_uses h ended

end TypeGraph

namespace Scope

variable (scope : Scope)

/-- The type leads to the tagged type through typedef names and pointers; the flag tells
whether it passes a pointer. -/
inductive LeadsTo : TypeRef → Bool → NodeId → Prop
  | tagged {id : NodeId} {type : TaggedType} :
      scope.graph.node? id = some (.tagged type) → LeadsTo (some id) false id
  | pointer {id target : NodeId} {pointee : TypeRef} {viaPointer : Bool} :
      scope.graph.node? id = some (.pointer pointee) → LeadsTo pointee viaPointer target →
      LeadsTo (some id) true target
  | typedefName {id target : NodeId} {name : String} {meaning : TypeRef} {viaPointer : Bool} :
      scope.graph.node? id = some (.typedefName name) → name ≠ scope.typedefs.marker →
      scope.finalMeaning name = .ok (.type meaning) → LeadsTo meaning viaPointer target →
      LeadsTo (some id) viaPointer target

/-- Expanding the record meets the tagged type, behind a pointer or by value. -/
def Meets (record : NodeId) (viaPointer : Bool) (target : NodeId) : Prop :=
  scope.graph.isRecord record = true ∧
    ∃ type, scope.graph.Uses record type ∧ scope.LeadsTo type viaPointer target

/-- Expanding the record meets the tagged type, one way or the other. -/
def Next (record target : NodeId) : Prop := ∃ viaPointer, scope.Meets record viaPointer target

/-- Collecting the type records the tagged type. -/
inductive Needs : TypeRef → NodeId → Prop
  | pointer {id target : NodeId} {pointee : TypeRef} :
      scope.graph.node? id = some (.pointer pointee) → Needs pointee target →
      Needs (some id) target
  | typedefName {id target : NodeId} {name : String} {meaning : TypeRef} :
      scope.graph.node? id = some (.typedefName name) → name ≠ scope.typedefs.marker →
      scope.finalMeaning name = .ok (.type meaning) → Needs meaning target →
      Needs (some id) target
  | self {id : NodeId} {type : TaggedType} :
      scope.graph.node? id = some (.tagged type) → Needs (some id) id
  /-- A record needs what its members use. -/
  | uses {id target : NodeId} {type : TaggedType} {used : TypeRef} :
      scope.graph.node? id = some (.tagged type) → type.isRecord = true →
      scope.graph.Uses id used → Needs used target → Needs (some id) target

/-- A parameter or result of the type needs the tagged type.  What a pointer points to is
looked at only if it is a pointer or a tagged type itself. -/
inductive Demands : TypeRef → NodeId → Prop
  | typedefName {id target : NodeId} {name : String} {meaning : TypeRef} :
      scope.graph.node? id = some (.typedefName name) → name ≠ scope.typedefs.marker →
      scope.finalMeaning name = .ok (.type meaning) → Demands meaning target →
      Demands (some id) target
  | tagged {id target : NodeId} {type : TaggedType} :
      scope.graph.node? id = some (.tagged type) → Needs scope (some id) target →
      Demands (some id) target
  | pointerToPointer {id next target : NodeId} {pointee : TypeRef} :
      scope.graph.node? id = some (.pointer (some next)) →
      scope.graph.node? next = some (.pointer pointee) → Needs scope (some next) target →
      Demands (some id) target
  | pointerToTagged {id next target : NodeId} {type : TaggedType} :
      scope.graph.node? id = some (.pointer (some next)) →
      scope.graph.node? next = some (.tagged type) → Needs scope (some next) target →
      Demands (some id) target

variable {scope}

theorem LeadsTo.tagged? {type : TypeRef} {viaPointer : Bool} {target : NodeId}
    (h : scope.LeadsTo type viaPointer target) :
    ∃ tagged, scope.graph.tagged? target = some tagged := by
  induction h with
  | tagged node => exact ⟨_, TypeGraph.tagged?_eq_some_iff.2 node⟩
  | pointer _ _ ih => exact ih
  | typedefName _ _ _ _ ih => exact ih

/-- What is met is a tagged type. -/
theorem Meets.tagged? {record target : NodeId} {viaPointer : Bool}
    (h : scope.Meets record viaPointer target) :
    ∃ tagged, scope.graph.tagged? target = some tagged := by
  obtain ⟨-, used, -, leads⟩ := h
  exact leads.tagged?

/-- What a record without a name of its own meets, the record meets in which it is
written. -/
theorem Meets.of_inPlace {record child target : NodeId} {tagged : TaggedType}
    (isRecord : scope.graph.isRecord record = true)
    (has : scope.graph.MemberType record child)
    (node : scope.graph.node? child = some (.tagged tagged)) (own : tagged.ownName? = none)
    (meets : scope.Meets child false target) : scope.Meets record false target := by
  obtain ⟨childRecord, type, uses, leads⟩ := meets
  obtain ⟨_, there, recordTag⟩ := TypeGraph.isRecord_iff.1 childRecord
  cases node.symm.trans there
  exact ⟨isRecord, type, .inPlace has node own recordTag uses, leads⟩

theorem Needs.of_leadsTo {type : TypeRef} {viaPointer : Bool} {first target : NodeId}
    (leads : scope.LeadsTo type viaPointer first) (h : scope.Needs (some first) target) :
    scope.Needs type target := by
  induction leads with
  | tagged _ => exact h
  | pointer node _ ih => exact .pointer node (ih h)
  | typedefName node other means _ ih => exact .typedefName node other means (ih h)

theorem Needs.of_meets {record next target : NodeId} {viaPointer : Bool}
    (meets : scope.Meets record viaPointer next) (h : scope.Needs (some next) target) :
    scope.Needs (some record) target := by
  obtain ⟨isRecord, used, uses, leads⟩ := meets
  obtain ⟨type, node, record⟩ := TypeGraph.isRecord_iff.1 isRecord
  exact .uses node record uses (.of_leadsTo leads h)

/-- To need a tagged type is to lead to one from which it is met, step by step. -/
theorem needs_iff {type : TypeRef} {target : NodeId} :
    scope.Needs type target ↔
      ∃ viaPointer first, scope.LeadsTo type viaPointer first ∧
        ReflTransGen scope.Next first target := by
  constructor
  · intro h
    induction h with
    | pointer node _ ih =>
      obtain ⟨viaPointer, first, leads, path⟩ := ih
      exact ⟨true, first, .pointer node leads, path⟩
    | typedefName node other means _ ih =>
      obtain ⟨viaPointer, first, leads, path⟩ := ih
      exact ⟨viaPointer, first, .typedefName node other means leads, path⟩
    | self node => exact ⟨false, _, .tagged node, .refl⟩
    | uses node record used _ ih =>
      obtain ⟨viaPointer, first, leads, path⟩ := ih
      refine ⟨false, _, .tagged node, path.head ⟨viaPointer, ?_, _, used, leads⟩⟩
      exact TypeGraph.isRecord_iff.2 ⟨_, node, record⟩
  · rintro ⟨viaPointer, first, leads, path⟩
    have isTagged : ∃ tagged, scope.graph.tagged? target = some tagged := by
      rcases path.cases_tail with rfl | ⟨record, -, viaPointer, meets⟩
      · exact leads.tagged?
      · exact meets.tagged?
    obtain ⟨tagged, node⟩ := isTagged
    refine .of_leadsTo leads ?_
    -- The induction moves the first type, to which `leads` must not be tied.
    clear leads
    induction path using ReflTransGen.head_induction_on with
    | refl => exact .self (TypeGraph.tagged?_eq_some_iff.1 node)
    | head step rest ih =>
      obtain ⟨viaPointer, meets⟩ := step
      exact .of_meets meets ih

/-- What is met from a needed tagged type is needed. -/
theorem Needs.tail {type : TypeRef} {target next : NodeId} (h : scope.Needs type target)
    (met : scope.Next target next) : scope.Needs type next := by
  obtain ⟨viaPointer, first, leads, path⟩ := needs_iff.1 h
  exact needs_iff.2 ⟨viaPointer, first, leads, path.tail met⟩

theorem Demands.tail {type : TypeRef} {target next : NodeId} (h : scope.Demands type target)
    (met : scope.Next target next) : scope.Demands type next := by
  induction h with
  | typedefName node other means _ ih => exact .typedefName node other means (ih met)
  | tagged node needs => exact .tagged node (needs.tail met)
  | pointerToPointer node inner needs => exact .pointerToPointer node inner (needs.tail met)
  | pointerToTagged node inner needs => exact .pointerToTagged node inner (needs.tail met)

/-! ## Scopes of the same shape -/

theorem SameShape.memberType {first second : Scope} (same : first.SameShape second)
    {record type : NodeId} (h : first.graph.MemberType record type) :
    second.graph.MemberType record type := by
  unfold TypeGraph.MemberType
  rwa [same.graph.members?_eq]

theorem SameShape.uses {first second : Scope} (same : first.SameShape second) {record : NodeId}
    {type : TypeRef} (h : first.graph.Uses record type) : second.graph.Uses record type := by
  induction h with
  | typedefName has node =>
    exact .typedefName (same.memberType has) (same.graph.node?_eq_typedefName node)
  | tagged has node used =>
    exact .tagged (same.memberType has) (same.graph.node?_eq_tagged node) used
  | inPlace has node own isRecord _ ih =>
    exact .inPlace (same.memberType has) (same.graph.node?_eq_tagged node) own isRecord ih

/-- Where no pointer is passed, no open slot is. -/
theorem SameShape.leadsTo {first second : Scope} (same : first.SameShape second)
    {type : TypeRef} {viaPointer : Bool} {id : NodeId} (direct : viaPointer = false)
    (h : first.LeadsTo type viaPointer id) : second.LeadsTo type viaPointer id := by
  induction h with
  | tagged node => exact .tagged (same.graph.node?_eq_tagged node)
  | pointer _ _ _ => cases direct
  | typedefName node other means _ ih =>
    refine .typedefName (same.graph.node?_eq_typedefName node) ?_ ?_ (ih direct)
    · rwa [same.typedefs]
    · rwa [same.finalMeaning_eq]

theorem SameShape.meets {first second : Scope} (same : first.SameShape second)
    {record target : NodeId} (h : first.Meets record false target) :
    second.Meets record false target := by
  obtain ⟨isRecord, type, uses, leads⟩ := h
  exact ⟨(same.graph.isRecord_eq record).trans isRecord, type, same.uses uses,
    same.leadsTo rfl leads⟩

/-! ## The way to a tagged type -/

theorem leadsTo_of_arrivalWithin {user : String} {fuel : Nat} {passed : Bool} {type : TypeRef}
    {arrival : Arrival} (h : scope.arrivalWithin user fuel passed type = .ok (some arrival)) :
    ∃ viaPointer, scope.LeadsTo type viaPointer arrival.type ∧
      arrival.viaPointer = (passed || viaPointer) := by
  induction fuel generalizing passed type with
  | zero => cases h
  | succ fuel ih =>
    cases type with
    | none => cases h
    | some id =>
      rw [arrivalWithin] at h
      split at h
      · cases h
      · rename_i pointee node
        split at h
        · cases h
        · obtain ⟨viaPointer, leads, passes⟩ := ih h
          exact ⟨true, .pointer node leads, by simpa using passes⟩
      · rename_i name node
        split at h
        · cases h
        · rename_i other
          split at h
          · cases h
          · cases h
          · rename_i meaning means
            obtain ⟨viaPointer, leads, passes⟩ := ih h
            exact ⟨viaPointer, .typedefName node other means leads, passes⟩
      · rename_i tagged node
        cases h
        exact ⟨false, .tagged node, by simp⟩
      · cases h
      · cases h
      · split at h <;> cases h

/-- Where a type is found to lead, it leads. -/
theorem leadsTo_of_arrival {user : String} {passed : Bool} {type : TypeRef} {arrival : Arrival}
    (h : scope.arrival user passed type = .ok (some arrival)) :
    ∃ viaPointer, scope.LeadsTo type viaPointer arrival.type ∧
      arrival.viaPointer = (passed || viaPointer) :=
  leadsTo_of_arrivalWithin h

theorem arrivalWithin_of_leadsTo {user : String} {fuel : Nat} {passed viaPointer : Bool}
    {type : TypeRef} {target : NodeId} {found : Option Arrival}
    (leads : scope.LeadsTo type viaPointer target)
    (h : scope.arrivalWithin user fuel passed type = .ok found) :
    found = some ⟨target, passed || viaPointer⟩ := by
  induction leads generalizing fuel passed with
  | tagged node =>
    cases fuel with
    | zero => cases h
    | succ fuel =>
      simp only [arrivalWithin, node] at h
      cases h
      simp
  | @pointer id target pointee viaPointer node leads ih =>
    cases fuel with
    | zero => cases h
    | succ fuel =>
      have there : ∃ type, scope.graph.at? pointee = some type := by
        cases leads with
        | tagged inner => exact ⟨_, inner⟩
        | pointer inner _ => exact ⟨_, inner⟩
        | typedefName inner _ _ _ => exact ⟨_, inner⟩
      obtain ⟨type, isThere⟩ := there
      simp only [arrivalWithin, node, isThere] at h
      rw [ih h]
      simp
  | typedefName node other means _ ih =>
    cases fuel with
    | zero => cases h
    | succ fuel =>
      simp only [arrivalWithin, node, other, if_false, means] at h
      exact ih h

/-- A type that leads somewhere is found to lead there, unless there is a fault. -/
theorem arrival_of_leadsTo {user : String} {passed viaPointer : Bool} {type : TypeRef}
    {target : NodeId} {found : Option Arrival} (leads : scope.LeadsTo type viaPointer target)
    (h : scope.arrival user passed type = .ok found) :
    found = some ⟨target, passed || viaPointer⟩ :=
  arrivalWithin_of_leadsTo leads h

theorem hasLoop_of_arrivalWithin {user : String} {fuel : Nat} {passed : Bool} {type : TypeRef}
    {names : List String} (h : scope.arrivalWithin user fuel passed type = .error (.cycle names)) :
    scope.typedefs.HasLoop scope.graph := by
  induction fuel generalizing passed type with
  | zero => cases h
  | succ fuel ih =>
    cases type with
    | none => cases h
    | some id =>
      rw [arrivalWithin] at h
      split at h
      · cases h
      · split at h
        · cases h
        · exact ih h
      · split at h
        · cases h
        · split at h
          · rename_i failed
            cases h
            exact TypedefTable.hasLoop_of_finalMeaning failed
          · cases h
          · exact ih h
      · cases h
      · cases h
      · cases h
      · split at h <;> cases h

/-- The way to a tagged type reports a cycle only of typedef names. -/
theorem hasLoop_of_arrival {user : String} {passed : Bool} {type : TypeRef}
    {names : List String} (h : scope.arrival user passed type = .error (.cycle names)) :
    scope.typedefs.HasLoop scope.graph :=
  hasLoop_of_arrivalWithin h

end Scope

end HeaderBind
