/-
# HeaderBind.Proofs.Need.Termination — when collecting the needs of a record ends

Records that are expanded stand on a list, and a record that is met again ends the
collection.  Unnamed records are expanded where they are written and stand on no list, so
one that is written inside itself is expanded for ever (`selfInPlace_endless`).

Where pointers do not lead in circles of their own, this is the only way in which a
collection does not end (`loopsInPlace_of_endless`), and it is never collected to the end
(`not_ok_of_loopsInPlace`).  A record that leads by value to one that contains itself is
never collected to the end either.  `need_ends_iff` joins the three.
-/
import HeaderBind.Proofs.Need.Arrival
import HeaderBind.Proofs.Need.Grounded

namespace HeaderBind.Scope

set_option autoImplicit false

open Outcome Relation

/-! ## Pointers that lead on -/

/-- No pointer leads back to itself through pointers and typedef names alone. -/
def PointersEnd (scope : Scope) : Prop :=
  ∀ id pointee, scope.graph.node? id = some (.pointer pointee) → ¬ TransGen scope.Passes id id

variable {scope : Scope} {user : String}

/-- What a typedef name stands for in the end is no typedef name that leads on. -/
theorem pointer_of_passes {id next last : NodeId} (first : scope.Passes id next)
    (second : scope.Passes next last) :
    (∃ pointee, scope.graph.node? id = some (.pointer pointee)) ∨
      ∃ pointee, scope.graph.node? next = some (.pointer pointee) := by
  cases first with
  | pointer node => exact .inl ⟨_, node⟩
  | typedefName _ means =>
    cases second with
    | pointer node => exact .inr ⟨_, node⟩
    | typedefName node leadsOn =>
      have final := TypedefTable.nextName?_of_finalMeaning means
      simp only [TypedefTable.nextName?, TypeGraph.at?, Option.bind_some, node] at final
      split at final
      · rename_i isMarker
        subst isMarker
        cases leadsOn.symm.trans TypedefTable.finalMeaning_marker
      · cases final

/-- Where no pointer leads back to itself, no typedef name does. -/
theorem PointersEnd.not_transGen (ends : scope.PointersEnd) (id : NodeId) :
    ¬ TransGen scope.Passes id id := by
  intro loop
  obtain ⟨next, first, back⟩ := TransGen.head'_iff.1 loop
  have round : TransGen scope.Passes next next := TransGen.tail' back first
  obtain ⟨last, second, -⟩ := TransGen.head'_iff.1 round
  rcases pointer_of_passes first second with ⟨pointee, node⟩ | ⟨pointee, node⟩
  · exact ends id pointee node loop
  · exact ends next pointee node round

theorem PointersEnd.arrival_ne_endless (ends : scope.PointersEnd) {passed : Bool}
    {type : TypeRef} : scope.arrival user passed type ≠ .error .endless :=
  Scope.arrival_ne_endless fun _ _ inner _ => ends.not_transGen inner

/-! ## Collections that do not end -/

theorem Trail.length_le {type : TypeRef} {front : List NodeId} {last : NodeId}
    (trail : scope.Trail type front last) : (front ++ [last]).length ≤ scope.graph.size := by
  refine TypeGraph.length_le_of_nodup trail.nodup fun id member => ?_
  obtain ⟨tagged, node, -⟩ := TypeGraph.isRecord_iff.1 (trail.isRecord id member)
  exact ⟨_, node⟩

theorem Arrives.length_le {type : TypeRef} {path : List NodeId} {arrival : Arrival}
    (arrives : scope.Arrives type path arrival) : path.length ≤ scope.graph.size := by
  cases arrives with
  | start _ => exact Nat.zero_le _
  | next trail _ => exact trail.length_le

/-- By induction on the bound of the path's length, which is never met. -/
theorem loopsInPlace_of_collectWithin (ends : scope.PointersEnd) {type : TypeRef} {fuel : Nat}
    {path : List NodeId} {arrival : Arrival} {ledger after : Ledger}
    (arrives : scope.Arrives type path arrival)
    (enough : scope.graph.size < path.length + fuel)
    (h : (scope.collectWithin user fuel path arrival).run ledger = .error .endless after) :
    ∃ front last, scope.Trail type front last ∧ scope.graph.LoopsInPlace last := by
  induction fuel generalizing path arrival ledger with
  | zero =>
    have := arrives.length_le
    omega
  | succ fuel ih =>
    rw [collectWithin] at h
    split at h
    · cases h
    · rename_i notEnum
      have isRecord := TypeGraph.isRecord_of_not_isEnum arrives.tagged? notEnum
      split at h
      · split at h
        · cases h
        · rcases bind_error_iff.1 h with named | ⟨fault, middle, named, thrown⟩
          · exact absurd named (scope.cycleThrough_succeeds path _).ne_error
          · obtain ⟨names, rfl⟩ := scope.cycle_of_cycleThrough named
            cases thrown
      · rename_i fresh
        have trail := arrives.trail isRecord fresh
        rcases bind_error_iff.1 h with expanded | ⟨_, _, -, recorded⟩
        · rcases expandWith_error isRecord expanded with stopped | ⟨type, lost⟩ | below
          · exact ⟨path, _, trail, TypeGraph.loopsInPlace_of_expansion stopped⟩
          · exact absurd lost ends.arrival_ne_endless
          · obtain ⟨passed, next, meets, middle, failed⟩ := below
            refine ih (.next trail meets) ?_ failed
            rw [List.length_append, List.length_singleton]
            omega
        · cases recorded

/-- A collection that does not end needs a record in which an unnamed one is written inside
itself. -/
theorem loopsInPlace_of_endless (ends : scope.PointersEnd) {type : TypeRef} {viaPointer : Bool}
    {ledger after : Ledger}
    (h : (scope.need type user viaPointer).run ledger = .error .endless after) :
    ∃ inner, scope.Needs type inner ∧ scope.graph.isRecord inner = true ∧
      scope.graph.LoopsInPlace inner := by
  rcases collectArrival_error h with lost | ⟨passed, id, leads, failed⟩
  · exact absurd lost ends.arrival_ne_endless
  · obtain ⟨front, last, trail, loops⟩ :=
      loopsInPlace_of_collectWithin ends (.start leads) (by simp) failed
    exact ⟨last, trail.needs, trail.isRecord last List.mem_concat_self, loops⟩

theorem not_ok_of_loopsInPlace {type : TypeRef} {viaPointer : Bool} {ledger after : Ledger}
    {inner : NodeId} (needs : scope.Needs type inner)
    (isRecord : scope.graph.isRecord inner = true) (loops : scope.graph.LoopsInPlace inner) :
    (scope.need type user viaPointer).run ledger ≠ .ok () after := by
  intro done
  obtain ⟨front, trail⟩ := exists_trail needs isRecord
  obtain ⟨fuel, start, last, expanded⟩ := expandWith_ok_of_trail done trail
  obtain ⟨ended, -⟩ := Run.followWalk_ok_iff.1 expanded
  exact TypeGraph.not_loopsInPlace_of_expansion ended loops

/-- **When collecting a record ends.**  A record that leads by value to one that contains
itself is never collected to the end.  The collection ends, one way or the other, if and
only if no needed record has an unnamed one that is written inside itself, or another fault
ends it first. -/
theorem need_ends_iff (pointersEnd : scope.PointersEnd) {record : NodeId}
    (isRecord : scope.graph.isRecord record = true) (user : String) (viaPointer : Bool)
    (ledger : Ledger) :
    ((∃ inner, ReflTransGen scope.Contains record inner ∧ TransGen scope.Contains inner inner) →
        ∀ after, (scope.need (some record) user viaPointer).run ledger ≠ .ok () after) ∧
      ((∀ after, (scope.need (some record) user viaPointer).run ledger ≠ .error .endless after) ↔
        (¬ ∃ inner, scope.Needs (some record) inner ∧ scope.graph.isRecord inner = true ∧
            scope.graph.LoopsInPlace inner) ∨
          ∃ fault after, fault ≠ .endless ∧
            (scope.need (some record) user viaPointer).run ledger = .error fault after) := by
  obtain ⟨tagged, node, -⟩ := TypeGraph.isRecord_iff.1 isRecord
  refine ⟨?_, ?_, ?_⟩
  · rintro ⟨inner, leads, cycle⟩ after done
    exact (grounded_of_need done (.self node) isRecord).not_cycle leads cycle
  · intro ends
    by_cases loops : ∃ inner, scope.Needs (some record) inner ∧
        scope.graph.isRecord inner = true ∧ scope.graph.LoopsInPlace inner
    · obtain ⟨inner, needs, innerRecord, loops⟩ := loops
      cases run : (scope.need (some record) user viaPointer).run ledger with
      | ok _ after => exact absurd run (not_ok_of_loopsInPlace needs innerRecord loops)
      | error fault after =>
        refine .inr ⟨fault, after, ?_, rfl⟩
        rintro rfl
        exact ends after run
    · exact .inl loops
  · rintro (straight | ⟨fault, after, other, failed⟩) last endless
    · exact straight (loopsInPlace_of_endless pointersEnd endless)
    · cases failed.symm.trans endless
      exact other rfl

/-! ## A record that is written inside itself -/

/-- An unnamed record with a member of its own type. -/
def selfInPlace : Scope where
  graph := ⟨#[.tagged ⟨.struct, none, some [⟨"u", some ⟨0⟩⟩], []⟩]⟩
  typedefs := .seeded "va"

theorem selfInPlace_pointersEnd : selfInPlace.PointersEnd := by
  rintro ⟨_ | index⟩ pointee node
  · cases node
  · cases node

theorem selfInPlace_contains : selfInPlace.Contains ⟨0⟩ ⟨0⟩ :=
  .direct ⟨_, rfl, _, List.mem_singleton_self _, rfl⟩ rfl

theorem need_selfInPlace :
    ∃ after, (selfInPlace.need (some ⟨0⟩) "f" false).run .empty = .error .endless after := by
  have tested : fails (fun fault => decide (fault = .endless))
      ((selfInPlace.need (some ⟨0⟩) "f" false).run .empty) = true := by decide +kernel
  obtain ⟨fault, after, failed, isEndless⟩ := exists_of_fails tested
  rw [of_decide_eq_true isEndless] at failed
  exact ⟨after, failed⟩

/-- The record contains itself, and its collection neither says so nor ends. -/
theorem selfInPlace_endless :
    selfInPlace.PointersEnd ∧ TransGen selfInPlace.Contains ⟨0⟩ ⟨0⟩ ∧
      ∃ after, (selfInPlace.need (some ⟨0⟩) "f" false).run .empty = .error .endless after :=
  ⟨selfInPlace_pointersEnd, .single selfInPlace_contains, need_selfInPlace⟩

/-- It is never collected to the end, and there is a record that is to blame. -/
theorem need_ends_iff_selfInPlace :
    selfInPlace.PointersEnd ∧ selfInPlace.graph.isRecord ⟨0⟩ = true ∧
      (∀ after, (selfInPlace.need (some ⟨0⟩) "f" false).run .empty ≠ .ok () after) ∧
      ∃ inner, selfInPlace.Needs (some ⟨0⟩) inner ∧ selfInPlace.graph.isRecord inner = true ∧
        selfInPlace.graph.LoopsInPlace inner := by
  have isRecord : selfInPlace.graph.isRecord ⟨0⟩ = true := rfl
  obtain ⟨never, ends⟩ := need_ends_iff selfInPlace_pointersEnd isRecord "f" false .empty
  refine ⟨selfInPlace_pointersEnd, isRecord, ?_, ?_⟩
  · exact never ⟨⟨0⟩, .refl, .single selfInPlace_contains⟩
  · obtain ⟨after, endless⟩ := need_selfInPlace
    by_contra straight
    exact ends.2 (.inl straight) after endless

end HeaderBind.Scope
