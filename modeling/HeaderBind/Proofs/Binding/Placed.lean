/-
# HeaderBind.Proofs.Binding.Placed — unnamed records and the places they are written in

An unnamed record is written where it is the type of a member.  Listing records after
those that are written in them lists a record once for every place
(`placed_perm`): as often as it is a root, and once more for each time it is written in
a listed record.  So none is listed twice if and only if every one has a single place
(`placed_nodup_iff`).
-/
import HeaderBind.Proofs.Binding.Record
import HeaderBind.Proofs.Need.InPlace
import Mathlib.Algebra.BigOperators.Group.List.Basic
import Mathlib.Data.List.Pairwise

namespace HeaderBind.TypeGraph

set_option autoImplicit false

open Relation

variable {graph : TypeGraph}

/-! ## Unnamed records of a record -/

/-- The unnamed records written in a record, in the order of its members. -/
def inPlaceRecords (graph : TypeGraph) (record : NodeId) : List NodeId :=
  ((graph.members? record).getD []).flatMap fun member => (graph.inPlaceRecord? member.type).toList

theorem mem_inPlaceRecords {record child : NodeId} :
    child ∈ graph.inPlaceRecords record ↔ graph.HoldsInPlace record child := by
  constructor
  · intro written
    obtain ⟨member, isMember, here⟩ := List.mem_flatMap.1 written
    obtain ⟨isType, unnamed⟩ := inPlaceRecord?_eq_some_iff.1 (Option.mem_toList.1 here)
    cases held : graph.members? record with
    | none =>
      rw [held] at isMember
      cases isMember
    | some members =>
      rw [held] at isMember
      exact ⟨⟨members, held, member, isMember, isType⟩, unnamed⟩
  · rintro ⟨⟨members, held, member, isMember, isType⟩, unnamed⟩
    refine List.mem_flatMap.2 ⟨member, ?_, ?_⟩
    · rw [held]
      exact isMember
    · exact Option.mem_toList.2 (inPlaceRecord?_eq_some_iff.2 ⟨isType, unnamed⟩)

/-! ## Records after those written in them -/

/-- A record after the unnamed ones in it, which nest less than `fuel` deep. -/
def placedWithin (graph : TypeGraph) : Nat → NodeId → List NodeId
  | 0, _ => []
  | fuel + 1, record =>
      (graph.inPlaceRecords record).flatMap (graph.placedWithin fuel) ++ [record]

theorem mem_placedWithin {fuel : Nat} {record id : NodeId}
    (ends : EndsWithin graph.HoldsInPlace fuel record) :
    id ∈ graph.placedWithin fuel record ↔ ReflTransGen graph.HoldsInPlace record id := by
  induction fuel generalizing record with
  | zero => exact ends.elim
  | succ fuel ih =>
    rw [placedWithin, List.mem_append, List.mem_flatMap, List.mem_singleton]
    constructor
    · rintro (⟨child, written, below⟩ | rfl)
      · have inPlace := mem_inPlaceRecords.1 written
        exact ((ih (ends child inPlace)).1 below).head inPlace
      · exact .refl
    · intro leads
      rcases leads.cases_head with same | ⟨child, inPlace, below⟩
      · exact .inr same.symm
      · exact .inl ⟨child, mem_inPlaceRecords.2 inPlace, (ih (ends child inPlace)).2 below⟩

/-- Lists of which each has its own element first, put together. -/
theorem flatMap_perm {list : List NodeId} {f g : NodeId → List NodeId}
    (each : ∀ id ∈ list, (f id).Perm (id :: g id)) :
    (list.flatMap f).Perm (list ++ list.flatMap g) := by
  have apart := List.map_append_flatMap_perm list id g
  rw [List.map_id] at apart
  exact (List.Perm.flatMap_left list each).trans apart.symm

/-- By induction on the bound of the nesting: what is listed is the record itself, and what is
written in the records that are listed. -/
theorem placedWithin_perm {fuel : Nat} {record : NodeId}
    (ends : EndsWithin graph.HoldsInPlace fuel record) :
    (graph.placedWithin fuel record).Perm
      (record :: (graph.placedWithin fuel record).flatMap graph.inPlaceRecords) := by
  induction fuel generalizing record with
  | zero => exact ends.elim
  | succ fuel ih =>
    have below := flatMap_perm fun child written =>
      ih (ends child (mem_inPlaceRecords.1 written))
    rw [placedWithin, List.flatMap_append, List.flatMap_assoc, List.flatMap_singleton]
    exact List.perm_append_comm.trans ((below.trans List.perm_append_comm).cons record)

/-- The records, each after the unnamed ones in it. -/
def placed (graph : TypeGraph) (roots : List NodeId) : List NodeId :=
  roots.flatMap (graph.placedWithin (graph.size + 1))

/-- The record is one of the roots, or it is written in one, at any depth. -/
def Placed (graph : TypeGraph) (roots : NodeId → Prop) (id : NodeId) : Prop :=
  ∃ root, roots root ∧ ReflTransGen graph.HoldsInPlace root id

/-- Every record has a single place. -/
structure PlacedOnce (graph : TypeGraph) (roots : NodeId → Prop) : Prop where
  /-- No root is written in a record. -/
  apart : ∀ root, roots root → ∀ holder, graph.Placed roots holder →
    ¬ graph.HoldsInPlace holder root
  /-- No record is written in two. -/
  unique : ∀ first second child, graph.Placed roots first → graph.Placed roots second →
    graph.HoldsInPlace first child → graph.HoldsInPlace second child → first = second
  /-- No record is the type of two members. -/
  single : ∀ holder, graph.Placed roots holder → (graph.inPlaceRecords holder).Nodup

section Roots

variable {list : List NodeId} {roots : NodeId → Prop} (listed : ∀ id, id ∈ list ↔ roots id)
  (ends : ∀ root, roots root → EndsWithin graph.HoldsInPlace (graph.size + 1) root)

include listed ends

theorem mem_placed {id : NodeId} : id ∈ graph.placed list ↔ graph.Placed roots id := by
  rw [placed, List.mem_flatMap]
  constructor
  · rintro ⟨root, isRoot, below⟩
    have isRoot := (listed root).1 isRoot
    exact ⟨root, isRoot, (mem_placedWithin (ends root isRoot)).1 below⟩
  · rintro ⟨root, isRoot, leads⟩
    exact ⟨root, (listed root).2 isRoot, (mem_placedWithin (ends root isRoot)).2 leads⟩

/-- A record is listed once for every place it has. -/
theorem placed_perm : (graph.placed list).Perm
    (list ++ (graph.placed list).flatMap graph.inPlaceRecords) := by
  have below := flatMap_perm fun root isRoot =>
    placedWithin_perm (ends root ((listed root).1 isRoot))
  rw [placed, List.flatMap_assoc]
  exact below

/-- By induction on the way to the record: the record in which it is written is listed at most
once, and is the only one that lists it. -/
theorem count_placed_le_one (distinct : list.Nodup) (once : graph.PlacedOnce roots) {id : NodeId}
    (isPlaced : graph.Placed roots id) : (graph.placed list).count id ≤ 1 := by
  obtain ⟨root, isRoot, leads⟩ := isPlaced
  have places : ∀ id, (graph.placed list).count id = list.count id +
      ((graph.placed list).map fun holder => (graph.inPlaceRecords holder).count id).sum := by
    intro id
    rw [(placed_perm listed ends).count_eq id, List.count_append, List.count_flatMap]
    rfl
  have notRoot : ∀ {holder child : NodeId}, graph.Placed roots holder →
      graph.HoldsInPlace holder child → list.count child = 0 := by
    intro holder child isPlaced inPlace
    refine List.count_eq_zero.2 fun isRoot => ?_
    exact once.apart child ((listed child).1 isRoot) holder isPlaced inPlace
  induction leads with
  | refl =>
    have nowhere : ((graph.placed list).map fun holder =>
        (graph.inPlaceRecords holder).count root).sum = 0 := by
      refine List.sum_eq_zero fun number isCount => ?_
      obtain ⟨holder, isListed, rfl⟩ := List.mem_map.1 isCount
      refine List.count_eq_zero.2 fun written => ?_
      exact once.apart root isRoot holder ((mem_placed listed ends).1 isListed)
        (mem_inPlaceRecords.1 written)
    rw [places root, nowhere, Nat.add_zero]
    exact List.nodup_iff_count_le_one.1 distinct root
  | @tail holder child above inPlace ih =>
    have isPlaced : graph.Placed roots holder := ⟨root, isRoot, above⟩
    have only : ((graph.placed list).map fun other =>
        (graph.inPlaceRecords other).count child).sum =
          (graph.placed list).count holder • (graph.inPlaceRecords holder).count child := by
      refine List.sum_map_eq_nsmul_single holder _ fun other differ isListed => ?_
      refine List.count_eq_zero.2 fun written => differ ?_
      exact once.unique other holder child ((mem_placed listed ends).1 isListed) isPlaced
        (mem_inPlaceRecords.1 written) inPlace
    have single := List.nodup_iff_count_le_one.1 (once.single holder isPlaced) child
    rw [places child, notRoot isPlaced inPlace, only, Nat.zero_add, Nat.nsmul_eq_mul]
    exact Nat.mul_le_mul ih single

/-- **No record is listed twice if and only if every one has a single place.** -/
theorem placed_nodup_iff (distinct : list.Nodup) :
    (graph.placed list).Nodup ↔ graph.PlacedOnce roots := by
  constructor
  · intro nodup
    have spread := (placed_perm listed ends).nodup_iff.1 nodup
    obtain ⟨-, written, apart⟩ := List.nodup_append.1 spread
    obtain ⟨single, disjoint⟩ := List.nodup_flatMap.1 written
    refine ⟨fun root isRoot holder isPlaced inPlace => ?_, ?_, fun holder isPlaced => ?_⟩
    · refine apart root ((listed root).2 isRoot) root (List.mem_flatMap.2 ⟨holder, ?_, ?_⟩) rfl
      · exact (mem_placed listed ends).2 isPlaced
      · exact mem_inPlaceRecords.2 inPlace
    · intro first second child isFirst isSecond inFirst inSecond
      have symmetric : Std.Symm (Function.onFun List.Disjoint graph.inPlaceRecords) :=
        ⟨fun _ _ apart _ first second => apart second first⟩
      by_contra differ
      have apart := disjoint.forall ((mem_placed listed ends).2 isFirst)
        ((mem_placed listed ends).2 isSecond) differ
      exact apart (mem_inPlaceRecords.2 inFirst) (mem_inPlaceRecords.2 inSecond)
    · exact single holder ((mem_placed listed ends).2 isPlaced)
  · intro once
    refine List.nodup_iff_count_le_one.2 fun id => ?_
    by_cases isListed : id ∈ graph.placed list
    · exact count_placed_le_one listed ends distinct once ((mem_placed listed ends).1 isListed)
    · rw [List.count_eq_zero.2 isListed]
      exact Nat.zero_le 1

end Roots

end HeaderBind.TypeGraph
