/-
# HeaderBind.Proofs.Binding.Permuted — the order of callables decides nothing

Callables are bound one after the other on the same ledger, and a skipped one takes back
what it needed.  Still, to bind a list in another order gives bindings if and only if the
list does, skips the same callables, and needs the same types for the same users
(`bindAll_perm`); only the order in which types and users are listed may differ.
-/
import HeaderBind.Proofs.Binding.Selected

namespace HeaderBind

set_option autoImplicit false

open Outcome

/-! ## Needs without their order -/

namespace NeedTable

theorem mem_addUser_iff {users : List String} {user other : String} :
    other ∈ addUser users user ↔ other ∈ users ∨ other = user := by
  unfold addUser
  split
  · rename_i listed
    constructor
    · exact .inl
    · rintro (member | rfl)
      · exact member
      · exact listed
  · rw [List.mem_append, List.mem_singleton]

/-- The users of a type are those it had and those that were added. -/
theorem mem_withUsers_iff {found : Option (List String)} {users : List String} {user : String} :
    user ∈ (withUsers found users).getD [] ↔ user ∈ found.getD [] ∨ user ∈ users := by
  induction users generalizing found with
  | nil => simp [withUsers]
  | cons first users ih =>
    show user ∈ (withUsers (some (addUser (found.getD []) first)) users).getD [] ↔ _
    rw [ih, Option.getD_some, mem_addUser_iff, List.mem_cons, or_assoc]

theorem isSome_withUsers_iff {found : Option (List String)} {users : List String} :
    (withUsers found users).isSome = true ↔ found.isSome = true ∨ users ≠ [] := by
  induction users generalizing found with
  | nil => simp [withUsers]
  | cons first users ih =>
    show (withUsers (some (addUser (found.getD []) first)) users).isSome = true ↔ _
    rw [ih]
    simp

end NeedTable

/-- The ledgers need the same types for the same users, in whatever order. -/
structure Ledger.SameNeeds (first second : Ledger) : Prop where
  types : ∀ id, first.needs.contains id = true ↔ second.needs.contains id = true
  users : ∀ id user, user ∈ first.needs.users id ↔ user ∈ second.needs.users id

theorem ScopedCallable.usersOf_perm {uses others : List ScopedCallable} (perm : uses.Perm others)
    (id : NodeId) : (usersOf uses id).Perm (usersOf others id) :=
  (perm.filter _).map _

/-- What callables need is the same in any order. -/
theorem Ledger.Accounts.sameNeeds_of_perm {uses others : List ScopedCallable}
    {leftOut leftOut' : List String} {ledger after last : Ledger} (perm : uses.Perm others)
    (one : Accounts uses leftOut ledger after) (two : Accounts others leftOut' ledger last) :
    after.SameNeeds last := by
  have same := fun id => ScopedCallable.usersOf_perm perm id
  constructor
  · intro id
    have empty : ScopedCallable.usersOf uses id = [] ↔ ScopedCallable.usersOf others id = [] := by
      rw [← List.length_eq_zero_iff, ← List.length_eq_zero_iff, (same id).length_eq]
    rw [NeedTable.contains, NeedTable.contains, one.needs, two.needs,
      NeedTable.isSome_withUsers_iff, NeedTable.isSome_withUsers_iff, ne_eq, ne_eq, empty]
  · intro id user
    rw [NeedTable.users, NeedTable.users, one.needs, two.needs, NeedTable.mem_withUsers_iff,
      NeedTable.mem_withUsers_iff, (same id).mem_iff]

/-! ## Lists in another order -/

namespace Scope

/-- **The order in which callables are bound decides neither what is skipped nor what is
needed.**  A list in another order gives bindings from the same ledger if and only if the
list does; the skipped callables are the same elements of both, and the same types are
needed for the same users. -/
theorem bindAll_perm (scope : Scope) {callables others : List Callable}
    (perm : callables.Perm others) (ledger : Ledger) :
    ((∃ bindings after, (scope.bindAll true callables).run ledger = .ok bindings after) ↔
      ∃ bindings after, (scope.bindAll true others).run ledger = .ok bindings after) ∧
    ∀ bindings after bindings' last,
      (scope.bindAll true callables).run ledger = .ok bindings after →
      (scope.bindAll true others).run ledger = .ok bindings' last →
        (CallableBinding.selected bindings false callables).Perm
          (CallableBinding.selected bindings' false others) ∧
        after.skipped = ledger.skipped ++
          (CallableBinding.selected bindings false callables).map Callable.name ∧
        last.skipped = ledger.skipped ++
          (CallableBinding.selected bindings' false others).map Callable.name ∧
        after.SameNeeds last := by
  constructor
  · rw [bindAll_gives_iff, bindAll_gives_iff]
    exact forall_congr' fun callable => imp_congr_left perm.mem_iff
  · intro bindings after bindings' last one two
    have accounts := bindAll_accounts one
    have accounts' := bindAll_accounts two
    have bound : (CallableBinding.selected bindings true callables).Perm
        (CallableBinding.selected bindings' true others) := by
      rw [selected_of_bindAll one, selected_of_bindAll two]
      exact perm.filter _
    have leftOut : (CallableBinding.selected bindings false callables).Perm
        (CallableBinding.selected bindings' false others) := by
      rw [selected_of_bindAll one, selected_of_bindAll two]
      exact perm.filter _
    refine ⟨leftOut, accounts.skipped, accounts'.skipped, ?_⟩
    exact accounts.sameNeeds_of_perm (bound.map _) accounts'

end Scope

/-- Functions of pixels: `plot` takes an array, and `tint` a color alone. -/
def pixelCallables : List Callable := [
  ⟨"draw", [some ⟨3⟩], some ⟨0⟩, false, false⟩,
  ⟨"plot", [some ⟨2⟩, some ⟨5⟩], some ⟨0⟩, false, false⟩,
  ⟨"tint", [some ⟨1⟩], some ⟨0⟩, false, false⟩]

/-- Before `draw` or after it, `plot` is skipped, and the same types are needed in another
order. -/
theorem bindAll_perm_pixels : ∃ bindings after bindings' last,
    (Scope.bindAll ⟨pixelTypes, .seeded "va"⟩ true pixelCallables).run .empty =
      .ok bindings after ∧
    (Scope.bindAll ⟨pixelTypes, .seeded "va"⟩ true pixelCallables.reverse).run .empty =
      .ok bindings' last ∧
    (CallableBinding.selected bindings false pixelCallables).Perm
      (CallableBinding.selected bindings' false pixelCallables.reverse) ∧
    after.SameNeeds last ∧ after.skipped = ["plot"] ∧
    after.needs.entries ≠ last.needs.entries := by
  have tested : gives (fun _ after => gives (fun _ last => decide (after.skipped = ["plot"] ∧
        after.needs.entries ≠ last.needs.entries))
      ((Scope.bindAll ⟨pixelTypes, .seeded "va"⟩ true pixelCallables.reverse).run .empty))
      ((Scope.bindAll ⟨pixelTypes, .seeded "va"⟩ true pixelCallables).run .empty) = true := by
    decide +kernel
  obtain ⟨bindings, after, one, again⟩ := exists_of_gives tested
  obtain ⟨bindings', last, two, shown⟩ := exists_of_gives again
  obtain ⟨skipped, differ⟩ := of_decide_eq_true shown
  obtain ⟨leftOut, -, -, needs⟩ := (Scope.bindAll_perm ⟨pixelTypes, .seeded "va"⟩
    (List.reverse_perm pixelCallables).symm .empty).2 bindings after bindings' last one two
  exact ⟨bindings, after, bindings', last, one, two, leftOut, needs, skipped, differ⟩

end HeaderBind
