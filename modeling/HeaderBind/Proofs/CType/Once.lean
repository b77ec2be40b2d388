/-
# HeaderBind.Proofs.CType.Once — a declared type is assembled once

Going along the spine of a declarator, one comes to an open slot or to a node that has no
slot (`Walks`).  Where the spine ends, this takes finitely many steps (`exists_walks`), and
the search for the open slot finds how the walk ends, whatever its bound from the number of
nodes on (`openNode?_of_walks`).

So to assemble a declared type fills the slot at which the walk ends and no other, and to
assemble it once more, with any base type at all, changes nothing: the walk goes on into the
base type and comes to no open slot there (`assembled_once`).  What it gives is the declarator
both times.  Where there is no declarator it is the base type, and that need not be the same
the second time (`bare_base_again`).
-/
import HeaderBind.Proofs.CType.Spine

namespace HeaderBind.TypeGraph

set_option autoImplicit false

open Relation

variable {graph : TypeGraph}

/-! ## The walk along a spine -/

/-- The spine of a type comes to an end. -/
def SpineEnds (graph : TypeGraph) (type : TypeRef) : Prop :=
  ∀ id, type = some id → Acc (fun inner outer => graph.SpineNext outer inner) id

/-- The walk along the spine from a node ends at an open slot, or at a node that has no slot
to go on through. -/
inductive Walks (graph : TypeGraph) : NodeId → Option NodeId → Prop
  | hole {id : NodeId} : graph.slot? id = some none → Walks graph id (some id)
  | stop {id : NodeId} : graph.slot? id = none → Walks graph id none
  | onward {id next : NodeId} {hole? : Option NodeId} :
      graph.slot? id = some (some next) → Walks graph next hole? → Walks graph id hole?

/-- A spine that ends is walked to its end. -/
theorem exists_walks {id : NodeId} (ends : graph.SpineEnds (some id)) :
    ∃ hole?, graph.Walks id hole? := by
  have accessible := ends id rfl
  clear ends
  induction accessible with
  | intro id _ ih =>
    cases slot : graph.slot? id with
    | none => exact ⟨none, .stop slot⟩
    | some next =>
      cases next with
      | none => exact ⟨some id, .hole slot⟩
      | some next =>
        obtain ⟨hole?, walks⟩ := ih next slot
        exact ⟨hole?, .onward slot walks⟩

namespace Walks

variable {id : NodeId} {hole? : Option NodeId}

theorem opensAt_iff (walks : graph.Walks id hole?) (hole : NodeId) :
    graph.OpensAt (some id) hole ↔ hole? = some hole := by
  induction walks with
  | @hole id slot =>
    constructor
    · intro opens
      rw [(OpensAt.here slot).unique opens]
    · intro same
      cases same
      exact .here slot
  | @stop id slot =>
    constructor
    · intro opens
      cases opens with
      | here isOpen => cases slot.symm.trans isOpen
      | next other _ => cases slot.symm.trans other
    · intro same
      cases same
  | @onward id next hole? slot _ ih =>
    rw [← ih]
    constructor
    · intro opens
      cases opens with
      | here isOpen => cases slot.symm.trans isOpen
      | next other rest =>
        cases slot.symm.trans other
        exact rest
    · intro opens
      exact .next slot opens

/-- A walk to no open slot is one along a closed spine. -/
theorem closed_iff (walks : graph.Walks id hole?) :
    graph.Closed (some id) ↔ hole? = none := by
  rw [Option.eq_none_iff_forall_ne_some]
  apply forall_congr'
  intro hole
  exact not_congr (walks.opensAt_iff hole)

end Walks

/-- The bound of the search plays no part: the search finds how the walk ends. -/
theorem openNode?_of_walks {id : NodeId} {hole? : Option NodeId} {fuel : Nat}
    (walks : graph.Walks id hole?) (enough : graph.size ≤ fuel) :
    graph.openNode? fuel id = hole? := by
  cases hole? with
  | some hole =>
    have opens : graph.OpensAt (some id) hole := (walks.opensAt_iff hole).2 rfl
    apply openNode?_of_route opens rfl (.start id)
    simpa using enough
  | none =>
    apply Option.eq_none_iff_forall_ne_some.2
    intro hole found
    exact walks.closed_iff.2 rfl hole (opensAt_of_openNode? found)

/-! ## The walk once the slot is filled -/

section Filled

variable {declarator : TypeRef} {base : NodeId}

/-- A spine without an open slot is walked as before. -/
theorem Walks.assembled_of_closed {id : NodeId} {hole? : Option NodeId}
    (walks : graph.Walks id hole?) (closed : graph.Closed (some id)) :
    (graph.assemble declarator (some base)).2.Walks id none := by
  induction walks with
  | hole slot => exact absurd (.here slot) (closed _)
  | stop slot => exact .stop (slot?_assemble_of_ne slot nofun)
  | onward slot _ ih =>
    apply Walks.onward (slot?_assemble_of_ne slot nofun)
    apply ih
    intro hole opens
    exact closed hole (.next slot opens)

/-- The walk along the declarator's spine goes on into the base type. -/
theorem Walks.assembled {id : NodeId} {hole? : Option NodeId} (walks : graph.Walks id hole?)
    (opens : ∀ hole, hole? = some hole → graph.OpensAt declarator hole)
    (baseEnds : graph.SpineEnds (some base)) (closed : graph.Closed (some base)) :
    (graph.assemble declarator (some base)).2.Walks id none := by
  induction walks with
  | @hole id slot =>
    obtain ⟨baseHole?, baseWalks⟩ := exists_walks baseEnds
    have filled : (graph.assemble declarator (some base)).2.slot? id = some (some base) := by
      rw [slot?_assemble, if_pos (opens id rfl)]
    exact Walks.onward filled (baseWalks.assembled_of_closed closed)
  | stop slot => exact .stop (slot?_assemble_of_ne slot nofun)
  | onward slot _ ih => exact .onward (slot?_assemble_of_ne slot nofun) (ih opens)

/-- Once the slot is filled, whatever is put there later has no effect. -/
theorem assemble_again (closed : graph.Closed (some base)) (other : TypeRef) :
    ((graph.assemble declarator (some base)).2.assemble declarator other).2 =
      (graph.assemble declarator (some base)).2 := by
  apply assemble_eq_self
  intro hole opens
  cases base_eq_none_of_opensAt closed opens

theorem assemble_fst (graph : TypeGraph) (declarator base : TypeRef) :
    (graph.assemble declarator base).1 = declarator.or base := by
  cases declarator with
  | none => rfl
  | some start => rfl

/-- **A declared type is assembled once.**  Where the spines end and the base type's has no
open slot, the walk along the declarator ends, and the type that is assembled is the
declarator, or the base type where there is none.  The open slot at which the walk ends holds
the base type afterwards; no other slot of any node has changed, and without an open slot
nothing has.  To assemble the declarator again with any base type walks to an end, changes
nothing and gives the declarator again; where there is none, it gives the other base type. -/
theorem assembled_once (ends : graph.SpineEnds declarator)
    (baseEnds : graph.SpineEnds (some base)) (closed : graph.Closed (some base)) :
    ∃ filled, graph.assemble declarator (some base) = (declarator.or (some base), filled) ∧
      (∀ start, declarator = some start →
        ∃ hole?, graph.Walks start hole? ∧
          (∀ fuel, graph.size ≤ fuel → graph.openNode? fuel start = hole?) ∧
          ∀ hole, hole? = some hole ↔ graph.OpensAt declarator hole) ∧
      (∀ hole, graph.OpensAt declarator hole → filled.slot? hole = some (some base)) ∧
      (graph.Closed declarator → filled = graph) ∧
      graph.SameShape filled ∧
      (∀ id, ¬ graph.OpensAt declarator id → filled.node? id = graph.node? id) ∧
      (∀ start, declarator = some start → filled.Walks start none) ∧
      ∀ other, filled.assemble declarator other = (declarator.or other, filled) := by
  refine ⟨(graph.assemble declarator (some base)).2, ?_, ?_, ?_, ?_, ?_, ?_, ?_, ?_⟩
  · exact Prod.ext (assemble_fst graph declarator (some base)) rfl
  · rintro start rfl
    obtain ⟨hole?, walks⟩ := exists_walks ends
    refine ⟨hole?, walks, ?_, ?_⟩
    · intro fuel enough
      exact openNode?_of_walks walks enough
    · intro hole
      exact (walks.opensAt_iff hole).symm
  · intro hole opens
    rw [slot?_assemble, if_pos opens]
  · intro noHole
    apply assemble_eq_self
    intro hole opens
    exact absurd opens (noHole hole)
  · exact sameShape_assemble graph declarator (some base)
  · intro id noHole
    rw [node?_assemble, if_neg noHole]
  · rintro start rfl
    obtain ⟨hole?, walks⟩ := exists_walks ends
    apply walks.assembled _ baseEnds closed
    intro hole isHole
    exact (walks.opensAt_iff hole).2 isHole
  · intro other
    exact Prod.ext (assemble_fst _ declarator other) (assemble_again closed other)

end Filled

/-! ## A function that gives a pointer -/

/-- `int **f(void)`: the base type `int *`, and the declarator that leaves the last pointer
open. -/
def giverGraph : TypeGraph :=
  ⟨#[.builtin "int", .pointer (some ⟨0⟩), .pointer none, .function ⟨[], some ⟨2⟩, false⟩]⟩

theorem giverGraph_spineEnds (type : TypeRef) : giverGraph.SpineEnds type := by
  -- every slot leads to a node that was made earlier
  have earlier : ∀ id next, giverGraph.SpineNext id next → next.index < id.index := by
    intro id next step
    obtain ⟨index⟩ := id
    match index with
    | 0 => cases step
    | 1 => cases step; decide
    | 2 => cases step
    | 3 => cases step; decide
    | index + 4 => cases step
  intro id _
  apply Subrelation.accessible (r := InvImage (· < ·) NodeId.index)
  · intro inner outer step
    exact earlier outer inner step
  · exact (InvImage.wf NodeId.index Nat.lt_wfRel.wf).apply id

/-- The last pointer leads to `int *` afterwards, and to nothing else later on. -/
theorem assembled_once_giver :
    giverGraph.SpineEnds (some ⟨3⟩) ∧ giverGraph.SpineEnds (some ⟨1⟩) ∧
      giverGraph.Closed (some ⟨1⟩) ∧ giverGraph.OpensAt (some ⟨3⟩) ⟨2⟩ ∧
      ∃ filled, giverGraph.assemble (some ⟨3⟩) (some ⟨1⟩) = (some ⟨3⟩, filled) ∧
        filled.slot? ⟨2⟩ = some (some ⟨1⟩) ∧
        filled.assemble (some ⟨3⟩) (some ⟨0⟩) = (some ⟨3⟩, filled) := by
  have closed : giverGraph.Closed (some ⟨1⟩) := by decide
  have opens : giverGraph.OpensAt (some ⟨3⟩) ⟨2⟩ := .next rfl (.here rfl)
  obtain ⟨filled, assembled, -, holds, -, -, -, -, again⟩ :=
    assembled_once (giverGraph_spineEnds (some ⟨3⟩)) (giverGraph_spineEnds (some ⟨1⟩)) closed
  exact ⟨giverGraph_spineEnds _, giverGraph_spineEnds _, closed, opens, filled, assembled,
    holds ⟨2⟩ opens, again (some ⟨0⟩)⟩

/-- **Without a declarator the second type is the second base type**, not the first again. -/
theorem bare_base_again :
    giverGraph.SpineEnds none ∧ giverGraph.SpineEnds (some ⟨0⟩) ∧
      giverGraph.Closed (some ⟨0⟩) ∧
      ∃ filled, giverGraph.assemble none (some ⟨0⟩) = (some ⟨0⟩, filled) ∧
        (filled.assemble none (some ⟨1⟩)).1 = some ⟨1⟩ ∧
        (filled.assemble none (some ⟨1⟩)).1 ≠ (giverGraph.assemble none (some ⟨0⟩)).1 :=
  ⟨giverGraph_spineEnds _, giverGraph_spineEnds _, by decide, giverGraph, rfl, rfl, by decide⟩

end HeaderBind.TypeGraph
