/-
# HeaderBind.Proofs.Need.InPlace — records written in place

An unnamed record that is the type of a member is written in place, and expanding the
record goes through it there and then.  Nothing keeps a list of the unnamed records
being gone through, so a record with an unnamed one that is written inside itself is
expanded without end.  This is the only way in which an expansion does not end
(`loopsInPlace_of_expansion`, `not_loopsInPlace_of_expansion`); else it is cut short
only by a member without a counterpart (`fault_of_expansionWithin`).
-/
import HeaderBind.Proofs.CType.Route
import HeaderBind.Proofs.Need.Reach

namespace HeaderBind.TypeGraph

set_option autoImplicit false

open Relation

variable {graph : TypeGraph} {user : String}

/-- A member of the record is an unnamed record, written in place. -/
structure HoldsInPlace (graph : TypeGraph) (record child : NodeId) : Prop where
  member : graph.MemberType record child
  unnamed : ∃ tagged, graph.node? child = some (.tagged tagged) ∧ tagged.ownName? = none ∧
    tagged.isRecord = true

/-- An unnamed record is written inside itself, in the record or deeper. -/
def LoopsInPlace (graph : TypeGraph) (record : NodeId) : Prop :=
  ∃ inner, ReflTransGen graph.HoldsInPlace record inner ∧ TransGen graph.HoldsInPlace inner inner

theorem MemberType.known {record type : NodeId} (has : graph.MemberType record type) :
    ∃ node, graph.node? record = some node := by
  obtain ⟨members, held, -⟩ := has
  obtain ⟨tagged, found, -⟩ := Option.bind_eq_some_iff.1 held
  exact ⟨_, tagged?_eq_some_iff.1 found⟩

theorem HoldsInPlace.isRecord {record child : NodeId} (h : graph.HoldsInPlace record child) :
    graph.isRecord child = true := by
  obtain ⟨tagged, node, -, recordTag⟩ := h.unnamed
  exact isRecord_iff.2 ⟨tagged, node, recordTag⟩

/-- What the type of a member leads to its record meets, or it is the type of the member and
written in place. -/
theorem MemberType.meets_or_holdsInPlace {scope : Scope} {record type target : NodeId}
    (has : scope.graph.MemberType record type) (isRecord : scope.graph.isRecord record = true)
    (leads : scope.LeadsTo (some type) false target) :
    scope.Meets record false target ∨
      target = type ∧ scope.graph.HoldsInPlace record target := by
  cases leads with
  | typedefName node other means leads =>
    exact .inl ⟨isRecord, _, .typedefName has node, .typedefName node other means leads⟩
  | @tagged _ tagged node =>
    cases own : tagged.ownName? with
    | some name =>
      have named : tagged.ownName?.isSome := by rw [own]; rfl
      exact .inl ⟨isRecord, _, .tagged has node (.inl named), .tagged node⟩
    | none =>
      cases recordTag : tagged.isRecord with
      | false => exact .inl ⟨isRecord, _, .tagged has node (.inr recordTag), .tagged node⟩
      | true => exact .inr ⟨rfl, has, tagged, node, own, recordTag⟩

/-! ## Where an expansion is cut short -/

theorem fault_of_memberSteps {inPlace : NodeId → Walk ExpansionStep} {record : NodeId}
    {members : List Member} {member : Member} {index : Nat} {fault : Fault}
    (held : graph.members? record = some members) (place : (member, index) ∈ members.zipIdx)
    (stopped : (graph.memberSteps user inPlace record member index).fault = some fault) :
    (∃ type, fault = .unsupported type user) ∨
      ∃ child, graph.HoldsInPlace record child ∧ (inPlace child).fault = some fault := by
  unfold memberSteps at stopped
  split at stopped
  · cases stopped
  · rename_i id isType
    have has := memberType_of_mem_zipIdx held place isType
    split at stopped
    · cases stopped
    · rename_i tagged node
      split at stopped
      · cases stopped
      · rename_i own
        simp only [Walk.cons] at stopped
        split at stopped
        · rename_i recordTag
          exact .inr ⟨id, ⟨has, tagged, node, own, recordTag⟩, stopped⟩
        · cases stopped
    · cases stopped
      exact .inl ⟨some id, rfl⟩
    · cases stopped
      exact .inl ⟨some id, rfl⟩
    all_goals cases stopped

/-- By induction on the bound of the nesting: a walk ends at a member without a counterpart,
or it goes deeper than the bound. -/
theorem fault_of_expansionWithin {fuel : Nat} {record : NodeId} {fault : Fault}
    (stopped : (graph.expansionWithin user fuel record).fault = some fault) :
    (∃ type, fault = .unsupported type user) ∨
      fault = .endless ∧ ¬ EndsWithin graph.HoldsInPlace fuel record := by
  induction fuel generalizing record with
  | zero =>
    cases stopped
    exact .inr ⟨rfl, fun ends => ends⟩
  | succ fuel ih =>
    rw [expansionWithin] at stopped
    split at stopped
    · cases stopped
    · rename_i members held
      obtain ⟨place, isPlace, here⟩ := Walk.exists_of_fault_concatMap stopped
      rcases fault_of_memberSteps held isPlace here with uncovered | ⟨child, inPlace, below⟩
      · exact .inl uncovered
      · refine (ih below).imp_right ?_
        rintro ⟨isEndless, deeper⟩
        exact ⟨isEndless, fun ends => deeper (ends child inPlace)⟩

/-- What cuts a walk through a record short is no cycle. -/
theorem expansion_ne_cycle {record : NodeId} (names : List String) :
    (graph.expansion user record).fault ≠ some (.cycle names) := by
  intro stopped
  rcases fault_of_expansionWithin stopped with ⟨type, other⟩ | ⟨other, -⟩ <;> cases other

/-- A walk that does not end goes through an unnamed record written inside itself. -/
theorem loopsInPlace_of_expansion {record : NodeId}
    (endless : (graph.expansion user record).fault = some .endless) :
    graph.LoopsInPlace record := by
  rcases fault_of_expansionWithin endless with ⟨type, other⟩ | ⟨-, deeper⟩
  · cases other
  · by_contra straight
    refine deeper (endsWithin_of_acyclic (fun _ _ inPlace => inPlace.member.known) ?_)
    intro inner leads loop
    exact straight ⟨inner, leads, loop⟩

/-! ## Walks to the end -/

/-- The walk through an unnamed record is part of the walk through the record in which it
is written. -/
theorem expansionWithin_of_holdsInPlace {fuel : Nat} {record child : NodeId}
    (inPlace : graph.HoldsInPlace record child)
    (ended : (graph.expansionWithin user (fuel + 1) record).fault = none) :
    (graph.expansionWithin user fuel child).fault = none := by
  obtain ⟨member, index, isType, done, -⟩ := memberSteps_of_memberType inPlace.member ended
  obtain ⟨tagged, node, own, recordTag⟩ := inPlace.unnamed
  simpa only [memberSteps, isType, node, own, recordTag, if_true, Walk.cons] using done

theorem endsWithin_of_expansionWithin {fuel : Nat} {record : NodeId}
    (ended : (graph.expansionWithin user fuel record).fault = none) :
    EndsWithin graph.HoldsInPlace fuel record := by
  induction fuel generalizing record with
  | zero => cases ended
  | succ fuel ih =>
    intro child inPlace
    exact ih (expansionWithin_of_holdsInPlace inPlace ended)

/-- A walk to the end goes through no unnamed record written inside itself. -/
theorem not_loopsInPlace_of_expansion {record : NodeId}
    (ended : (graph.expansion user record).fault = none) : ¬ graph.LoopsInPlace record := by
  rintro ⟨inner, leads, loop⟩
  exact not_transGen_of_endsWithin (endsWithin_of_expansionWithin ended) leads loop

end HeaderBind.TypeGraph
