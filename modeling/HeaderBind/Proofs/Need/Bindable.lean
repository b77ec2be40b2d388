/-
# HeaderBind.Proofs.Need.Bindable — needed records can be bound

A record is bindable when its nesting ends and each of its members, and of those of the
unnamed records written in it, has an interface type.  Where no member has the type of a
function by way of a typedef name, every record that was collected is bindable
(`bindable_of_need`): a member that has no counterpart, or a typedef name that leads
nowhere, would have ended the collection.
-/
import HeaderBind.Proofs.Need.Grounded

namespace HeaderBind

set_option autoImplicit false

open Outcome Relation

/-! ## Types that are covered -/

/-- The node has an interface type, if typedef names have theirs. -/
def CType.isCovered : CType → Bool
  | .function _ => false
  | .uncovered _ => false
  | _ => true

theorem CType.isCovered_shape (type : CType) : type.shape.isCovered = type.isCovered := by
  cases type <;> rfl

namespace TypeGraph

/-- The reference leads to a node that is covered. -/
def Covered (graph : TypeGraph) (type : TypeRef) : Prop :=
  ∃ node, graph.at? type = some node ∧ node.isCovered = true

theorem SameShape.covered {first second : TypeGraph} (same : first.SameShape second)
    {type : TypeRef} (h : first.Covered type) : second.Covered type := by
  obtain ⟨node, there, covered⟩ := h
  obtain ⟨id, rfl, found⟩ := Option.bind_eq_some_iff.1 there
  have shapes := same id
  rw [found] at shapes
  obtain ⟨other, here, shape⟩ := Option.map_eq_some_iff.1 shapes.symm
  refine ⟨other, here, ?_⟩
  rw [← CType.isCovered_shape, shape, CType.isCovered_shape]
  exact covered

theorem SameShape.holdsInPlace {first second : TypeGraph} (same : first.SameShape second)
    {record child : NodeId} (h : first.HoldsInPlace record child) :
    second.HoldsInPlace record child := by
  obtain ⟨tagged, node, own, recordTag⟩ := h.unnamed
  refine ⟨?_, tagged, same.node?_eq_tagged node, own, recordTag⟩
  obtain ⟨members, held, isMember⟩ := h.member
  exact ⟨members, (same.members?_eq record).trans held, isMember⟩

end TypeGraph

namespace Scope

/-- The type of a member has an interface type: if it is a typedef name, what that stands for
in the end is covered. -/
structure Fits (scope : Scope) (type : TypeRef) : Prop where
  covered : scope.graph.Covered type
  means : ∀ name, scope.graph.at? type = some (.typedefName name) →
    ∃ meaning, scope.finalMeaning name = .ok meaning ∧
      ∀ final, meaning = .type final → scope.graph.Covered final

/-- Every member has a type, and no typedef name that is the type of a member stands for a
function. -/
structure MembersTyped (scope : Scope) : Prop where
  typed : ∀ record members, scope.graph.members? record = some members →
    ∀ member ∈ members, ∃ node, scope.graph.at? member.type = some node
  noFunction : ∀ record members, scope.graph.members? record = some members →
    ∀ member ∈ members, ∀ name final prototype,
      scope.graph.at? member.type = some (.typedefName name) →
      scope.finalMeaning name = .ok (.type final) →
      scope.graph.at? final ≠ some (.function prototype)

/-- The nesting of the record ends, and all its members have an interface type. -/
structure Bindable (scope : Scope) (record : NodeId) : Prop where
  grounded : scope.Grounded record
  fits : ∀ inner, ReflTransGen scope.graph.HoldsInPlace record inner →
    ∀ members, scope.graph.members? inner = some members →
      ∀ member ∈ members, scope.Fits member.type

variable {scope : Scope} {user : String}

theorem contains_of_holdsInPlace {record child : NodeId}
    (h : scope.graph.HoldsInPlace record child) : scope.Contains record child :=
  .direct h.member h.isRecord

/-- Records written in place lie below by value. -/
theorem contains_of_inPlace {record inner : NodeId}
    (leads : ReflTransGen scope.graph.HoldsInPlace record inner) :
    ReflTransGen scope.Contains record inner :=
  ReflTransGen.mono (fun _ _ => contains_of_holdsInPlace) record inner leads

theorem Bindable.inner {record inner : NodeId} (h : scope.Bindable record)
    (leads : ReflTransGen scope.graph.HoldsInPlace record inner) : scope.Bindable inner := by
  refine ⟨?_, fun deeper more => h.fits deeper (leads.trans more)⟩
  exact TypeGraph.acc_of_reflTransGen h.grounded (contains_of_inPlace leads)

/-- The unnamed records in it nest less deep than there are types. -/
theorem Grounded.endsWithin {record : NodeId} (h : scope.Grounded record) :
    TypeGraph.EndsWithin scope.graph.HoldsInPlace (scope.graph.size + 1) record := by
  refine TypeGraph.endsWithin_of_acyclic (fun _ _ inPlace => inPlace.member.known) ?_
  intro inner leads loop
  refine h.not_cycle (contains_of_inPlace leads) ?_
  exact TransGen.mono (fun _ _ => contains_of_holdsInPlace) inner inner loop

/-! ## Scopes of the same shape -/

namespace SameShape

variable {first second : Scope}

theorem contains (same : first.SameShape second) {record inner : NodeId}
    (h : first.Contains record inner) : second.Contains record inner := by
  cases h with
  | direct has isRecord =>
    exact .direct (same.memberType has) ((same.graph.isRecord_eq _).trans isRecord)
  | byTypedef has node means isRecord =>
    refine .byTypedef (same.memberType has) (same.graph.node?_eq_typedefName node) ?_ ?_
    · exact (same.finalMeaning_eq _).trans means
    · exact (same.graph.isRecord_eq _).trans isRecord

theorem grounded (same : first.SameShape second) {record : NodeId} (h : first.Grounded record) :
    second.Grounded record :=
  Subrelation.accessible (fun contains => same.symm.contains contains) h

theorem fits (same : first.SameShape second) {type : TypeRef} (h : first.Fits type) :
    second.Fits type := by
  refine ⟨same.graph.covered h.covered, fun name there => ?_⟩
  obtain ⟨id, rfl, node⟩ := Option.bind_eq_some_iff.1 there
  obtain ⟨meaning, means, covered⟩ := h.means name (same.symm.graph.node?_eq_typedefName node)
  refine ⟨meaning, (same.finalMeaning_eq name).trans means, fun final isType => ?_⟩
  exact same.graph.covered (covered final isType)

theorem bindable (same : first.SameShape second) {record : NodeId} (h : first.Bindable record) :
    second.Bindable record := by
  refine ⟨same.grounded h.grounded, fun inner leads members held member isMember => ?_⟩
  have back := ReflTransGen.mono (fun _ _ => same.symm.graph.holdsInPlace) record inner leads
  exact same.fits (h.fits inner back members ((same.symm.graph.members?_eq inner).trans held)
    member isMember)

theorem membersTyped (same : first.SameShape second) (h : first.MembersTyped) :
    second.MembersTyped := by
  have shared : ∀ record members, second.graph.members? record = some members →
      first.graph.members? record = some members := fun record members held =>
    (same.symm.graph.members?_eq record).trans held
  refine ⟨fun record members held member isMember => ?_, ?_⟩
  · obtain ⟨node, there⟩ := h.typed record members (shared record members held) member isMember
    obtain ⟨id, isType, found⟩ := Option.bind_eq_some_iff.1 there
    have shapes := same.graph id
    rw [found] at shapes
    obtain ⟨other, here, -⟩ := Option.map_eq_some_iff.1 shapes.symm
    exact ⟨other, by rw [isType]; exact here⟩
  · intro record members held member isMember name final prototype there means isFunction
    obtain ⟨id, isType, node⟩ := Option.bind_eq_some_iff.1 there
    obtain ⟨target, rfl, found⟩ := Option.bind_eq_some_iff.1 isFunction
    have shapes := same.graph target
    rw [found] at shapes
    obtain ⟨other, here, shape⟩ := Option.map_eq_some_iff.1 shapes
    have before : first.graph.at? member.type = some (.typedefName name) := by
      rw [isType]
      exact same.symm.graph.node?_eq_typedefName node
    cases other with
    | function other =>
      exact h.noFunction record members (shared record members held) member isMember name _ other
        before ((same.symm.finalMeaning_eq name).trans means) here
    | _ => cases shape

end SameShape

/-! ## What a collection has looked at -/

/-- A type that leads somewhere, or is seen to need nothing, is covered, functions apart. -/
theorem covered_of_arrivalWithin {fuel : Nat} {type : TypeRef} {found : Option Arrival}
    (noFunction : ∀ prototype, scope.graph.at? type ≠ some (.function prototype))
    (arrives : scope.arrivalWithin user fuel false type = .ok found) :
    scope.graph.Covered type := by
  cases fuel with
  | zero => cases arrives
  | succ fuel =>
    cases type with
    | none => cases arrives
    | some id =>
      rw [arrivalWithin] at arrives
      cases node : scope.graph.node? id with
      | none =>
        rw [node] at arrives
        cases arrives
      | some type =>
        cases type with
        | function prototype => exact absurd node (noFunction prototype)
        | uncovered spelling =>
          rw [node] at arrives
          cases arrives
        | _ => exact ⟨_, node, rfl⟩

theorem means_of_arrival {id : NodeId} {name : String} {found : Option Arrival}
    (node : scope.graph.node? id = some (.typedefName name))
    (noFunction : ∀ final prototype, scope.finalMeaning name = .ok (.type final) →
      scope.graph.at? final ≠ some (.function prototype))
    (arrives : scope.arrival user false (some id) = .ok found) :
    ∃ meaning, scope.finalMeaning name = .ok meaning ∧
      ∀ final, meaning = .type final → scope.graph.Covered final := by
  unfold arrival at arrives
  simp only [arrivalWithin, node] at arrives
  split at arrives
  · rename_i isMarker
    subst isMarker
    refine ⟨.variadic, TypedefTable.finalMeaning_marker, fun final isType => ?_⟩
    cases isType
  · cases means : scope.finalMeaning name with
    | error fault =>
      rw [means] at arrives
      cases arrives
    | ok meaning =>
      cases meaning with
      | variadic =>
        refine ⟨.variadic, rfl, fun final isType => ?_⟩
        cases isType
      | type final =>
        rw [means] at arrives
        refine ⟨.type final, rfl, fun other same => ?_⟩
        cases same
        exact covered_of_arrivalWithin (fun prototype => noFunction final prototype means) arrives

/-- The members of a record that was walked through to the end have an interface type. -/
theorem fits_of_expansionWithin (typed : scope.MembersTyped) {fuel : Nat} {record : NodeId}
    (ended : (scope.graph.expansionWithin user fuel record).fault = none)
    (arrives : ∀ type, scope.graph.Uses record type →
      ∃ found, scope.arrival user false type = .ok found)
    {members : List Member} (held : scope.graph.members? record = some members)
    {member : Member} (isMember : member ∈ members) : scope.Fits member.type := by
  obtain ⟨node, there⟩ := typed.typed record members held member isMember
  obtain ⟨id, isType, found⟩ := Option.bind_eq_some_iff.1 there
  have has : scope.graph.MemberType record id := ⟨members, held, member, isMember, isType⟩
  rw [isType]
  refine ⟨?_, fun name isName => ?_⟩
  · refine ⟨node, found, ?_⟩
    cases fuel with
    | zero => cases ended
    | succ fuel =>
      obtain ⟨other, index, same, done, -⟩ := TypeGraph.memberSteps_of_memberType has ended
      cases node with
      | function prototype => simp [TypeGraph.memberSteps, same, found, Walk.stop] at done
      | uncovered spelling => simp [TypeGraph.memberSteps, same, found, Walk.stop] at done
      | _ => rfl
  · obtain ⟨last, arrived⟩ := arrives (some id) (.typedefName has isName)
    refine means_of_arrival isName (fun final prototype means => ?_) arrived
    exact typed.noFunction record members held member isMember name final prototype
      (by rw [isType]; exact isName) means

/-- What an unnamed record written in place uses, the record uses. -/
theorem uses_of_holdsInPlace {record child : NodeId} {type : TypeRef}
    (h : scope.graph.HoldsInPlace record child) (uses : scope.graph.Uses child type) :
    scope.graph.Uses record type := by
  obtain ⟨tagged, node, own, recordTag⟩ := h.unnamed
  exact .inPlace h.member node own recordTag uses

/-- By induction on the way through the records written in place. -/
theorem fits_of_reflTransGen (typed : scope.MembersTyped) {fuel : Nat} {record inner : NodeId}
    (ended : (scope.graph.expansionWithin user fuel record).fault = none)
    (arrives : ∀ type, scope.graph.Uses record type →
      ∃ found, scope.arrival user false type = .ok found)
    (leads : ReflTransGen scope.graph.HoldsInPlace record inner)
    {members : List Member} (held : scope.graph.members? inner = some members)
    {member : Member} (isMember : member ∈ members) : scope.Fits member.type := by
  induction leads using ReflTransGen.head_induction_on generalizing fuel with
  | refl => exact fits_of_expansionWithin typed ended arrives held isMember
  | head inPlace _ ih =>
    cases fuel with
    | zero => cases ended
    | succ fuel =>
      refine ih (TypeGraph.expansionWithin_of_holdsInPlace inPlace ended) fun type uses => ?_
      exact arrives type (uses_of_holdsInPlace inPlace uses)

theorem arrival_of_expandWith {collect : Arrival → Run Unit} {record : NodeId} {type : TypeRef}
    {ledger after : Ledger} (uses : scope.graph.Uses record type)
    (done : (scope.expandWith user collect record).run ledger = .ok () after) :
    ∃ found, scope.arrival user false type = .ok found := by
  obtain ⟨ended, steps⟩ := Run.followWalk_ok_iff.1 done
  obtain ⟨start, last, step⟩ := forM_ok_of_mem steps (TypeGraph.mem_expansion_of_uses uses ended)
  obtain ⟨found, middle, asked, -⟩ := bind_ok_iff.1 step
  exact ⟨found, (Run.ofExcept_ok_iff.1 asked).1⟩

/-- **Whatever is needed can be bound**: all records that a type needs which was collected. -/
theorem bindable_of_need (typed : scope.MembersTyped) {type : TypeRef} {viaPointer : Bool}
    {ledger after : Ledger} {record : NodeId}
    (done : (scope.need type user viaPointer).run ledger = .ok () after)
    (needs : scope.Needs type record) (isRecord : scope.graph.isRecord record = true) :
    scope.Bindable record := by
  obtain ⟨front, trail⟩ := exists_trail needs isRecord
  obtain ⟨fuel, start, last, expanded⟩ := expandWith_ok_of_trail done trail
  obtain ⟨ended, -⟩ := Run.followWalk_ok_iff.1 expanded
  refine ⟨grounded_of_expandWith isRecord expanded, fun inner leads members held member => ?_⟩
  exact fits_of_reflTransGen typed ended (fun type uses => arrival_of_expandWith uses expanded)
    leads held

end Scope

end HeaderBind
