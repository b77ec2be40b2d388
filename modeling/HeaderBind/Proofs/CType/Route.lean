/-
# HeaderBind.Proofs.CType.Route — ways down through the nodes of a graph

A search that goes down from node to node is bounded by the number of nodes.  The
bound is never met where no way down comes back to a node on it: the nodes passed are
distinct (`Route`), and distinct nodes are no more than the graph has
(`length_le_of_nodup`).

`EndsWithin down bound id` says that every way down from a node has fewer steps than
`bound`.  A node from which no way leads into a loop is one of those
(`endsWithin_of_acyclic`), and from such a node no way leads into a loop
(`not_transGen_of_endsWithin`).
-/
import HeaderBind.CType.Basic
import Mathlib.Data.List.Nodup
import Mathlib.Data.List.Perm.Subperm
import Mathlib.Logic.Relation

namespace HeaderBind.TypeGraph

set_option autoImplicit false

open Relation

variable {graph : TypeGraph} {down : NodeId → NodeId → Prop}

/-- Distinct nodes are no more than the graph has. -/
theorem length_le_of_nodup {path : List NodeId} (distinct : path.Nodup)
    (known : ∀ id ∈ path, ∃ type, graph.node? id = some type) : path.length ≤ graph.size := by
  have apart : (path.map NodeId.index).Nodup := by
    have injective : Function.Injective NodeId.index := fun first second same =>
      congrArg NodeId.mk same
    exact distinct.map injective
  have inside : path.map NodeId.index ⊆ List.range graph.size := by
    intro index member
    obtain ⟨id, onPath, rfl⟩ := List.mem_map.1 member
    obtain ⟨type, node⟩ := known id onPath
    obtain ⟨bound, -⟩ := Array.getElem?_eq_some_iff.1 node
    exact List.mem_range.2 bound
  have shorter := (List.subperm_of_subset apart inside).length_le
  simpa using shorter

/-! ## Routes -/

/-- The nodes passed on a way down to a node: each leads to it, and none is passed twice. -/
structure Route (graph : TypeGraph) (down : NodeId → NodeId → Prop) (front : List NodeId)
    (last : NodeId) : Prop where
  leads : ∀ id ∈ front, TransGen down id last
  nodup : front.Nodup
  known : ∀ id ∈ front, ∃ type, graph.node? id = some type

namespace Route

variable {front : List NodeId} {last next : NodeId}

theorem start (last : NodeId) : graph.Route down [] last :=
  ⟨by simp, List.nodup_nil, by simp⟩

theorem fresh (route : graph.Route down front last) (acyclic : ¬ TransGen down last last) :
    last ∉ front :=
  fun member => acyclic (route.leads last member)

/-- The nodes passed and the last one are distinct. -/
theorem nodup_concat (route : graph.Route down front last) (fresh : last ∉ front) :
    (front ++ [last]).Nodup := by
  refine List.nodup_append.2 ⟨route.nodup, List.nodup_singleton last, ?_⟩
  intro id member other isLast same
  rw [List.mem_singleton.1 isLast] at same
  exact fresh (same ▸ member)

theorem known_concat (route : graph.Route down front last)
    (known : ∃ type, graph.node? last = some type) :
    ∀ id ∈ front ++ [last], ∃ type, graph.node? id = some type := by
  intro id member
  rcases List.mem_append.1 member with member | member
  · exact route.known id member
  · rw [List.mem_singleton.1 member]
    exact known

theorem length_lt (route : graph.Route down front last) (acyclic : ¬ TransGen down last last)
    (known : ∃ type, graph.node? last = some type) : front.length < graph.size := by
  have bound := length_le_of_nodup (route.nodup_concat (route.fresh acyclic))
    (route.known_concat known)
  rw [List.length_append, List.length_singleton] at bound
  omega

/-- The way goes on past the last node, if that was not passed before. -/
theorem extend (route : graph.Route down front last) (fresh : last ∉ front)
    (known : ∃ type, graph.node? last = some type) (h : TransGen down last next) :
    graph.Route down (front ++ [last]) next := by
  refine ⟨fun id member => ?_, route.nodup_concat fresh, route.known_concat known⟩
  rcases List.mem_append.1 member with member | member
  · exact (route.leads id member).trans h
  · rw [List.mem_singleton.1 member]
    exact h

theorem step (route : graph.Route down front last) (acyclic : ¬ TransGen down last last)
    (known : ∃ type, graph.node? last = some type) (h : TransGen down last next) :
    graph.Route down (front ++ [last]) next :=
  route.extend (route.fresh acyclic) known h

end Route

/-! ## Ways that end -/

/-- Every way down from the node has fewer steps than the bound. -/
def EndsWithin (down : NodeId → NodeId → Prop) : Nat → NodeId → Prop
  | 0, _ => False
  | bound + 1, id => ∀ next, down id next → EndsWithin down bound next

/-- By induction on the bound: the way down to the node is a route. -/
theorem endsWithin_of_route {bound : Nat} {front : List NodeId} {id : NodeId}
    (known : ∀ id next, down id next → ∃ type, graph.node? id = some type)
    (acyclic : ∀ inner, ReflTransGen down id inner → ¬ TransGen down inner inner)
    (route : graph.Route down front id) (enough : graph.size < front.length + bound) :
    EndsWithin down bound id := by
  induction bound generalizing front id with
  | zero =>
    have := length_le_of_nodup route.nodup route.known
    omega
  | succ bound ih =>
    intro next step
    have here := acyclic id .refl
    refine ih (fun inner leads => acyclic inner (leads.head step))
      (route.step here (known id next step) (.single step)) ?_
    rw [List.length_append, List.length_singleton]
    omega

/-- A node from which no way leads into a loop has only ways that end. -/
theorem endsWithin_of_acyclic {id : NodeId}
    (known : ∀ id next, down id next → ∃ type, graph.node? id = some type)
    (acyclic : ∀ inner, ReflTransGen down id inner → ¬ TransGen down inner inner) :
    EndsWithin down (graph.size + 1) id :=
  endsWithin_of_route known acyclic (.start id) (by simp)

theorem acc_of_endsWithin {bound : Nat} {id : NodeId} (h : EndsWithin down bound id) :
    Acc (fun inner outer => down outer inner) id := by
  induction bound generalizing id with
  | zero => exact h.elim
  | succ bound ih => exact .intro id fun next step => ih (h next step)

/-- What lies below an accessible node is accessible. -/
theorem acc_of_reflTransGen {outer inner : NodeId}
    (h : Acc (fun inner outer => down outer inner) outer) (leads : ReflTransGen down outer inner) :
    Acc (fun inner outer => down outer inner) inner := by
  induction leads with
  | refl => exact h
  | tail _ step ih => exact ih.inv step

/-- An accessible node is on no loop. -/
theorem not_transGen_of_acc {id : NodeId} (h : Acc (fun inner outer => down outer inner) id) :
    ¬ TransGen down id id := by
  induction h with
  | intro id _ ih =>
    intro loop
    obtain ⟨next, step, back⟩ := TransGen.head'_iff.1 loop
    exact ih next step (TransGen.tail' back step)

theorem not_transGen_of_endsWithin {bound : Nat} {outer inner : NodeId}
    (h : EndsWithin down bound outer) (leads : ReflTransGen down outer inner) :
    ¬ TransGen down inner inner :=
  not_transGen_of_acc (acc_of_reflTransGen (acc_of_endsWithin h) leads)

end HeaderBind.TypeGraph
