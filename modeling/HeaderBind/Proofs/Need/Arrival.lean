/-
# HeaderBind.Proofs.Need.Arrival — the way to a tagged type without its bound

The way from a type goes through pointers and typedef names (`Passes`), and `arrival`
follows it for as many nodes as the graph has.  A way that does not come back to a node
needs no more (`arrivalWithin_ne_endless`), so whatever bound is enough gives what
`arrival` gives (`arrival_eq_arrivalWithin`).

Hence `arrival` has the equations of a recursion without a bound: a pointer leads where
what it points to leads (`arrival_pointer`), and a typedef name where that leads for which
it stands in the end (`arrival_typedefName`).
-/
import HeaderBind.Need.Collection
import HeaderBind.Proofs.CType.Route
import HeaderBind.Proofs.Typedef.Chain

namespace HeaderBind.Scope

set_option autoImplicit false

open Relation TypeGraph

section

variable (scope : Scope)

/-- A pointer leads to what it points to, a typedef name to what it stands for in the end. -/
inductive Passes : NodeId → NodeId → Prop
  | pointer {id next : NodeId} :
      scope.graph.node? id = some (.pointer (some next)) → Passes id next
  | typedefName {id next : NodeId} {name : String} :
      scope.graph.node? id = some (.typedefName name) →
      scope.finalMeaning name = .ok (.type (some next)) → Passes id next

end

variable {scope : Scope} {user : String}

/-! ## Bounds that are enough -/

/-- More than enough gives the same. -/
theorem arrivalWithin_mono {fuel more : Nat} {passed : Bool} {type : TypeRef}
    (enough : scope.arrivalWithin user fuel passed type ≠ .error .endless) (le : fuel ≤ more) :
    scope.arrivalWithin user more passed type = scope.arrivalWithin user fuel passed type := by
  induction fuel generalizing more passed type with
  | zero => exact absurd rfl enough
  | succ fuel ih =>
    obtain ⟨more, rfl⟩ : ∃ less, more = less + 1 := ⟨more - 1, by omega⟩
    have shorter : fuel ≤ more := by omega
    cases type with
    | none => rfl
    | some id =>
      rw [arrivalWithin] at enough
      rw [arrivalWithin, arrivalWithin]
      split at enough
      · rfl
      · split at enough
        · rfl
        · exact ih enough shorter
      · split at enough
        · rename_i isMarker
          rw [if_pos isMarker, if_pos isMarker]
        · rename_i other
          rw [if_neg other, if_neg other]
          split at enough
          · rfl
          · rfl
          · exact ih enough shorter
      · rfl
      · rfl
      · rfl
      · rfl

/-- A way that is followed to its end has no more steps than its bound. -/
theorem endsWithin_of_arrivalWithin {fuel : Nat} {passed : Bool} {id : NodeId}
    (enough : scope.arrivalWithin user fuel passed (some id) ≠ .error .endless) :
    EndsWithin scope.Passes (fuel + 1) id := by
  induction fuel generalizing passed id with
  | zero => exact absurd rfl enough
  | succ fuel ih =>
    intro next step
    rw [arrivalWithin] at enough
    cases step with
    | pointer node =>
      simp only [node, at?, Option.bind_some] at enough
      cases there : scope.graph.node? next with
      | none =>
        -- What is not there leads nowhere.
        intro last onward
        cases onward with
        | pointer found => cases there.symm.trans found
        | typedefName found _ => cases there.symm.trans found
      | some type =>
        rw [there] at enough
        exact ih enough
    | @typedefName name node means =>
      have other : name ≠ scope.typedefs.marker := by
        rintro rfl
        cases means.symm.trans TypedefTable.finalMeaning_marker
      simp only [node, other, if_false, means] at enough
      exact ih enough

/-- By induction on the bound: the nodes passed on the way are distinct, so there are not more
of them than the graph has. -/
theorem arrivalWithin_ne_endless {fuel : Nat} {passed : Bool} {front : List NodeId}
    {type : TypeRef}
    (straight : ∀ id, type = some id →
      ∀ inner, ReflTransGen scope.Passes id inner → ¬ TransGen scope.Passes inner inner)
    (route : ∀ id, type = some id → scope.graph.Route scope.Passes front id)
    (short : front.length ≤ scope.graph.size)
    (enough : scope.graph.size < front.length + fuel) :
    scope.arrivalWithin user fuel passed type ≠ .error .endless := by
  induction fuel generalizing passed front type with
  | zero => omega
  | succ fuel ih =>
    intro endless
    cases type with
    | none => cases endless
    | some id =>
      rw [arrivalWithin] at endless
      have onward : ∀ (passed : Bool) (next : TypeRef) (node : CType),
          scope.graph.node? id = some node → (∀ inner, next = some inner → scope.Passes id inner) →
          scope.arrivalWithin user fuel passed next ≠ .error .endless := by
        intro passed next node known passes
        have here := route id rfl
        have straightHere := straight id rfl id .refl
        have shorter := here.length_lt straightHere ⟨node, known⟩
        refine @ih passed (front ++ [id]) next (fun inner isNext last leads => ?_)
          (fun inner isNext => ?_) ?_ ?_
        · exact straight id rfl last (leads.head (passes inner isNext))
        · exact here.step straightHere ⟨node, known⟩ (.single (passes inner isNext))
        · rw [List.length_append, List.length_singleton]
          exact shorter
        · rw [List.length_append, List.length_singleton]
          omega
      split at endless
      · cases endless
      · rename_i pointee node
        split at endless
        · cases endless
        · exact onward _ _ _ node (fun inner isNext => .pointer (isNext ▸ node)) endless
      · rename_i name node
        split at endless
        · cases endless
        · split at endless
          · rename_i fault lost
            cases endless
            exact TypedefTable.follow_ne_endless lost
          · cases endless
          · rename_i meaning means
            refine onward _ _ _ node (fun inner isNext => ?_) endless
            exact .typedefName node (isNext ▸ means)
      · cases endless
      · cases endless
      · cases endless
      · split at endless <;> cases endless

/-- A way that comes back to no node is followed to its end. -/
theorem arrival_ne_endless {passed : Bool} {type : TypeRef}
    (straight : ∀ id, type = some id →
      ∀ inner, ReflTransGen scope.Passes id inner → ¬ TransGen scope.Passes inner inner) :
    scope.arrival user passed type ≠ .error .endless :=
  arrivalWithin_ne_endless straight (fun id _ => .start id) (Nat.zero_le _) (by simp)

/-- Whatever bound is enough, `arrival` gives the same. -/
theorem arrival_eq_arrivalWithin {fuel : Nat} {passed : Bool} {type : TypeRef}
    (enough : scope.arrivalWithin user fuel passed type ≠ .error .endless) :
    scope.arrival user passed type = scope.arrivalWithin user fuel passed type := by
  have ended : scope.arrival user passed type ≠ .error .endless := by
    refine arrival_ne_endless fun id isType inner leads => ?_
    subst isType
    exact not_transGen_of_endsWithin (endsWithin_of_arrivalWithin enough) leads
  rcases Nat.le_total fuel (scope.graph.size + 1) with le | le
  · exact arrivalWithin_mono enough le
  · exact (arrivalWithin_mono ended le).symm

/-! ## The equations of the recursion -/

/-- A type that always takes one step to another leads where the other leads. -/
theorem arrival_of_step {passed later : Bool} {type next : TypeRef}
    (step : ∀ fuel, scope.arrivalWithin user (fuel + 1) passed type =
      scope.arrivalWithin user fuel later next) :
    scope.arrival user passed type = scope.arrival user later next := by
  have first : scope.arrival user passed type =
      scope.arrivalWithin user scope.graph.size later next := step scope.graph.size
  by_cases endless : scope.arrival user later next = .error .endless
  · by_contra differ
    rw [first, endless] at differ
    exact differ ((arrival_eq_arrivalWithin differ).symm.trans endless)
  · have second : scope.arrivalWithin user (scope.graph.size + 1 + 1) passed type =
        scope.arrival user later next := step (scope.graph.size + 1)
    rw [← second]
    exact arrival_eq_arrivalWithin (by rwa [second])

theorem arrival_pointer {id : NodeId} {pointee : TypeRef} {type : CType} (passed : Bool)
    (node : scope.graph.node? id = some (.pointer pointee))
    (there : scope.graph.at? pointee = some type) :
    scope.arrival user passed (some id) = scope.arrival user true pointee := by
  refine arrival_of_step fun fuel => ?_
  rw [arrivalWithin]
  simp only [node, there]

theorem arrival_typedefName {id : NodeId} {name : String} {meaning : TypeRef} (passed : Bool)
    (node : scope.graph.node? id = some (.typedefName name))
    (other : name ≠ scope.typedefs.marker)
    (means : scope.finalMeaning name = .ok (.type meaning)) :
    scope.arrival user passed (some id) = scope.arrival user passed meaning := by
  refine arrival_of_step fun fuel => ?_
  rw [arrivalWithin]
  simp only [node, other, if_false, means]

end HeaderBind.Scope
