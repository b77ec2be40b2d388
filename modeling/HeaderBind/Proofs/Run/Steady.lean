/-
# HeaderBind.Proofs.Run.Steady — how a computation ends is the same from every ledger

Computations write to the ledger, but none lets what it reads there decide how it ends:
names only go into what it gives and into the text of a cycle, and needs and notices are
not read at all.  So whether a callable is bound, and by which fault it is not, depends on
the types and typedefs alone, whatever was named, needed or skipped before
(`bindCallable_endAlike`).
-/
import HeaderBind.Binding.Callable
import HeaderBind.Proofs.TypeName.Settled

namespace HeaderBind

set_option autoImplicit false

open Outcome

/-- The fault without the names of the types that lead back to one another. -/
def Fault.nameless : Fault → Fault
  | .cycle _ => .cycle []
  | fault => fault

namespace Run

variable {α β γ δ : Type}

/-- How a computation ended: with a value, or with a fault, names on a cycle apart. -/
def ending : EStateM.Result Fault Ledger α → Option Fault
  | .ok _ _ => none
  | .error fault _ => some fault.nameless

theorem ending_eq_none_iff {result : EStateM.Result Fault Ledger α} :
    ending result = none ↔ ∃ a after, result = .ok a after := by
  cases result with
  | ok a after => simp [ending]
  | error fault after => simp [ending]

/-- No fault but the same one ends as an unsupported type does. -/
theorem ending_eq_unsupported_iff {result : EStateM.Result Fault Ledger α} {type : TypeRef}
    {user : String} :
    ending result = some (.unsupported type user) ↔
      ∃ after, result = .error (.unsupported type user) after := by
  cases result with
  | ok a after => simp [ending]
  | error fault after => cases fault <;> simp [ending, Fault.nameless]

/-- From whatever ledgers the two computations start, they end alike. -/
def EndAlike (x : Run α) (y : Run β) : Prop :=
  ∀ first second, ending (x.run first) = ending (y.run second)

namespace EndAlike

variable {x : Run α} {y : Run β}

theorem of_succeeds (one : Succeeds x) (two : Succeeds y) : EndAlike x y := by
  intro first second
  rw [ending_eq_none_iff.2 (one first), ending_eq_none_iff.2 (two second)]

theorem pure (a : α) (b : β) : EndAlike (pure a : Run α) (pure b : Run β) :=
  of_succeeds (.pure a) (.pure b)

theorem throw (fault : Fault) : EndAlike (throw fault : Run α) (throw fault : Run β) :=
  fun _ _ => rfl

/-- What comes next may not use the values. -/
theorem bind {f : α → Run γ} {g : β → Run δ} (one : EndAlike x y)
    (rest : ∀ a b, EndAlike (f a) (g b)) : EndAlike (x >>= f) (y >>= g) := by
  intro first second
  have same := one first second
  rw [EStateM.run_bind, EStateM.run_bind]
  cases here : x.run first with
  | ok a middle =>
    rw [here] at same
    obtain ⟨b, between, there⟩ := ending_eq_none_iff.1 same.symm
    rw [there]
    exact rest a b middle between
  | error fault middle =>
    cases there : y.run second with
    | ok b between =>
      rw [here, there] at same
      cases same
    | error other between =>
      rw [here, there] at same
      exact same

theorem mapM {f : α → Run β} {g : α → Run γ} {list : List α}
    (each : ∀ a ∈ list, EndAlike (f a) (g a)) : EndAlike (list.mapM f) (list.mapM g) := by
  induction list with
  | nil =>
    rw [List.mapM_nil, List.mapM_nil]
    exact pure [] []
  | cons a rest ih =>
    rw [List.mapM_cons, List.mapM_cons]
    refine (each a List.mem_cons_self).bind fun b c => ?_
    exact (ih fun other member => each other (List.mem_cons_of_mem a member)).bind fun _ _ =>
      pure _ _

theorem forM {f g : α → Run PUnit} {list : List α} (each : ∀ a ∈ list, EndAlike (f a) (g a)) :
    EndAlike (forM list f) (forM list g) := by
  induction list with
  | nil => exact pure PUnit.unit PUnit.unit
  | cons a rest ih =>
    rw [List.forM_cons, List.forM_cons]
    refine (each a List.mem_cons_self).bind fun _ _ => ?_
    exact ih fun other member => each other (List.mem_cons_of_mem a member)

end EndAlike

/-! ## Operations on the ledger -/

/-- What a computation does with a result that it does not take from the ledger. -/
theorem ofExcept_endAlike {result : Except Fault α} {f : α → Run β} {g : α → Run γ}
    (each : ∀ a, result = .ok a → EndAlike (f a) (g a)) :
    EndAlike (ofExcept result >>= f) (ofExcept result >>= g) := by
  cases result with
  | ok a => exact each a rfl
  | error fault => exact .throw fault

theorem addNeed_endAlike (id : NodeId) (user : String) :
    EndAlike (addNeed id user) (addNeed id user) :=
  .of_succeeds (.modify _) (.modify _)

theorem followWalk_endAlike {walk : Walk α} {f g : α → Run Unit}
    (each : ∀ a ∈ walk.items, EndAlike (f a) (g a)) :
    EndAlike (followWalk walk f) (followWalk walk g) := by
  refine (EndAlike.forM each).bind fun _ _ => ?_
  cases walk.fault with
  | none => exact .pure () ()
  | some fault => exact .throw fault

end Run

namespace Scope

open Run

variable (scope : Scope) {user : String}

/-! ## Needs -/

/-- A cycle is reported with the names that its types have by then. -/
theorem throwCycle_endAlike {α : Type} (path : List NodeId) (id : NodeId) :
    EndAlike (do throw (← scope.cycleThrough path id) : Run α)
      (do throw (← scope.cycleThrough path id) : Run α) := by
  have cycle : ∀ ledger, ending ((do throw (← scope.cycleThrough path id) : Run α).run ledger) =
      some (.cycle []) := by
    intro ledger
    obtain ⟨fault, after, run⟩ := scope.cycleThrough_succeeds path id ledger
    obtain ⟨names, rfl⟩ := scope.cycle_of_cycleThrough run
    rw [EStateM.run_bind, run]
    rfl
  intro first second
  rw [cycle first, cycle second]

section Collect

variable {collect : Arrival → Run Unit}
  (each : ∀ arrival, EndAlike (collect arrival) (collect arrival))

include each

theorem collectArrival_endAlike (viaPointer : Bool) (type : TypeRef) :
    EndAlike (scope.collectArrival user collect viaPointer type)
      (scope.collectArrival user collect viaPointer type) := by
  refine ofExcept_endAlike fun arrival _ => ?_
  cases arrival with
  | none => exact .pure () ()
  | some arrival => exact each arrival

/-- Only to use a type may end a step with a fault. -/
theorem performStep_endAlike (step : ExpansionStep) :
    EndAlike (scope.performStep user collect step) (scope.performStep user collect step) := by
  have asked := fun id => EndAlike.of_succeeds (scope.nameFor_succeeds id)
    (scope.nameFor_succeeds id)
  cases step with
  | enter record => exact (asked record).bind fun _ _ => .pure () ()
  | declaredOnly record =>
    refine (asked record).bind fun _ _ => ?_
    exact .of_succeeds (note_succeeds _ _ _) (note_succeeds _ _ _)
  | nameInPlace child parent label =>
    refine (asked parent).bind fun _ _ => ?_
    exact (EndAlike.of_succeeds (.modifyGet _) (.modifyGet _)).bind fun _ _ => .pure () ()
  | use type => exact scope.collectArrival_endAlike each false type

theorem expandWith_endAlike (record : NodeId) :
    EndAlike (scope.expandWith user collect record) (scope.expandWith user collect record) :=
  followWalk_endAlike fun step _ => scope.performStep_endAlike each step

end Collect

theorem collectWithin_endAlike (fuel : Nat) (path : List NodeId) (arrival : Arrival) :
    EndAlike (scope.collectWithin user fuel path arrival)
      (scope.collectWithin user fuel path arrival) := by
  induction fuel generalizing path arrival with
  | zero => exact .throw .endless
  | succ fuel ih =>
    rw [collectWithin]
    split
    · exact addNeed_endAlike _ user
    · split
      · split
        · exact addNeed_endAlike _ user
        · exact scope.throwCycle_endAlike path arrival.type
      · refine (scope.expandWith_endAlike (ih _) arrival.type).bind fun _ _ => ?_
        exact addNeed_endAlike _ user

theorem need_endAlike (type : TypeRef) (user : String) (viaPointer : Bool) :
    EndAlike (scope.need type user viaPointer) (scope.need type user viaPointer) :=
  scope.collectArrival_endAlike (scope.collectWithin_endAlike _ _) viaPointer type

/-! ## Interface types -/

section FfiType

variable {demand : Demand}
  (demands : ∀ type viaPointer, EndAlike (demand type viaPointer) (demand type viaPointer))

include demands

theorem ffiPointer_endAlike (pointee : TypeRef) :
    EndAlike (scope.ffiPointer demand pointee) (scope.ffiPointer demand pointee) := by
  unfold ffiPointer
  split
  · exact .pure _ _
  · split
    · exact (demands pointee true).bind fun _ _ => .pure _ _
    · exact (demands pointee true).bind fun _ _ => .pure _ _
    · exact .pure _ _

theorem ffiMeaning_endAlike (type : TypeRef) (user : String) :
    EndAlike (scope.ffiMeaning demand type user) (scope.ffiMeaning demand type user) := by
  unfold ffiMeaning
  cases type with
  | none => exact .throw _
  | some id =>
    dsimp only
    split
    · exact .throw _
    · exact .pure _ _
    · exact scope.ffiPointer_endAlike demands _
    · refine (demands (some id) false).bind fun _ _ => ?_
      refine EndAlike.bind ?_ fun _ _ => .pure _ _
      exact .of_succeeds (scope.nameFor_succeeds id) (scope.nameFor_succeeds id)
    · exact .pure _ _
    · exact .throw _
    · exact .throw _

theorem ffiType_endAlike (type : TypeRef) (user : String) :
    EndAlike (scope.ffiType demand type user) (scope.ffiType demand type user) := by
  unfold ffiType
  split
  · split
    · exact .pure _ _
    · refine ofExcept_endAlike fun meaning _ => ?_
      cases meaning with
      | variadic => exact .pure _ _
      | type meaning => exact scope.ffiMeaning_endAlike demands meaning user
  · exact scope.ffiMeaning_endAlike demands type user

end FfiType

theorem neededFfiType_endAlike (type : TypeRef) (user : String) :
    EndAlike (scope.neededFfiType type user) (scope.neededFfiType type user) :=
  scope.ffiType_endAlike (fun type viaPointer => scope.need_endAlike type user viaPointer) type user

/-- **Whether a callable is bound does not depend on what was done before**, nor on its
place. -/
theorem bindCallable_endAlike (callable : Callable) (order place : Int) :
    EndAlike (scope.bindCallable callable order) (scope.bindCallable callable place) := by
  refine (EndAlike.mapM fun param _ => scope.neededFfiType_endAlike param callable.name).bind
    fun _ _ => ?_
  exact (scope.neededFfiType_endAlike callable.result callable.name).bind fun _ _ => .pure _ _

end Scope

end HeaderBind
