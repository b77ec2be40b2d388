/-
# HeaderBind.Proofs.Need.Cycle — when collecting needs reports a cycle

Collecting keeps the records that it is expanding, and reports a cycle when it meets one
of them by value, whatever lies between the two meetings: `struct A { PB x; }` with
`typedef struct B *PB` and `struct B { struct A a; }` is reported, although no record
holds itself (`backPointer_false_cycle`).

A `Trail` leads from a type through records, none twice, each of which meets the next.
A type comes back when by value some trail meets one of its own records again
(`Scope.ComesBack`).  A cycle that is reported is one of typedef names, or the type comes
back (`hasLoop_or_comesBack_of_cycle`); and a type that comes back is never collected to
the end (`not_ok_of_comesBack`).  Together they tell exactly for which types a reported
cycle is one (`cycle_is_real_iff`).
-/
import HeaderBind.Proofs.Need.Collection
import HeaderBind.Proofs.Need.InPlace

namespace HeaderBind

set_option autoImplicit false

open Outcome Relation

/-! ## Cycles -/

namespace Scope

variable (scope : Scope)

/-- A member of the record is a record: directly, or by a typedef name.  An unnamed record
written in place is one as well. -/
inductive Contains : NodeId → NodeId → Prop
  | direct {record inner : NodeId} :
      scope.graph.MemberType record inner → scope.graph.isRecord inner = true →
      Contains record inner
  | byTypedef {record type inner : NodeId} {name : String} :
      scope.graph.MemberType record type → scope.graph.node? type = some (.typedefName name) →
      scope.finalMeaning name = .ok (.type (some inner)) → scope.graph.isRecord inner = true →
      Contains record inner

/-- Some typedef name leads back to itself, or some record contains itself by value. -/
def HasCycle : Prop :=
  scope.typedefs.HasLoop scope.graph ∨ ∃ record, TransGen scope.Contains record record

/-- A way from the type through distinct records, each of which meets the next; the last
one stands apart. -/
inductive Trail (type : TypeRef) : List NodeId → NodeId → Prop
  | start {first : NodeId} {viaPointer : Bool} :
      scope.LeadsTo type viaPointer first → scope.graph.isRecord first = true → Trail type [] first
  | step {front : List NodeId} {last next : NodeId} {viaPointer : Bool} :
      Trail type front last → scope.Meets last viaPointer next →
      scope.graph.isRecord next = true → next ∉ front ++ [last] →
      Trail type (front ++ [last]) next

/-- The last record of some trail from the type meets by value a record of the trail. -/
def ComesBack (type : TypeRef) : Prop :=
  ∃ front last back, scope.Trail type front last ∧ scope.Meets last false back ∧
    back ∈ front ++ [last]

variable {scope} {user : String}

theorem Trail.isRecord {type : TypeRef} {front : List NodeId} {last : NodeId}
    (trail : scope.Trail type front last) :
    ∀ id ∈ front ++ [last], scope.graph.isRecord id = true := by
  induction trail with
  | start _ isRecord =>
    intro id member
    rw [List.mem_singleton.1 member]
    exact isRecord
  | step _ _ isRecord _ ih =>
    intro id member
    rcases List.mem_append.1 member with member | member
    · exact ih id member
    · rw [List.mem_singleton.1 member]
      exact isRecord

theorem Trail.nodup {type : TypeRef} {front : List NodeId} {last : NodeId}
    (trail : scope.Trail type front last) : (front ++ [last]).Nodup := by
  induction trail with
  | start _ _ => simp
  | step _ _ _ fresh ih =>
    refine List.nodup_append.2 ⟨ih, by simp, fun id member other isNext same => fresh ?_⟩
    rw [← List.mem_singleton.1 isNext, ← same]
    exact member

/-- The records of a trail are needed. -/
theorem Trail.needs {type : TypeRef} {front : List NodeId} {last : NodeId}
    (trail : scope.Trail type front last) : scope.Needs type last := by
  induction trail with
  | start leads _ =>
    obtain ⟨tagged, node⟩ := leads.tagged?
    exact .of_leadsTo leads (.self (TypeGraph.tagged?_eq_some_iff.1 node))
  | step _ meets _ _ ih => exact ih.tail ⟨_, meets⟩

/-- A record of a trail ends a trail itself. -/
theorem Trail.cut {type : TypeRef} {front : List NodeId} {last id : NodeId}
    (trail : scope.Trail type front last) (member : id ∈ front ++ [last]) :
    ∃ earlier, scope.Trail type earlier id := by
  induction trail with
  | start leads isRecord =>
    rw [List.mem_singleton.1 member]
    exact ⟨[], .start leads isRecord⟩
  | @step front last next viaPointer trail meets isRecord fresh ih =>
    rcases List.mem_append.1 member with member | member
    · exact ih member
    · rw [List.mem_singleton.1 member]
      exact ⟨front ++ [last], .step trail meets isRecord fresh⟩

/-- A trail leads to every record that is needed: where a way comes back to a record that it
has passed, the round is left out. -/
theorem exists_trail {type : TypeRef} {id : NodeId} (needs : scope.Needs type id)
    (isRecord : scope.graph.isRecord id = true) : ∃ front, scope.Trail type front id := by
  obtain ⟨viaPointer, first, leads, path⟩ := needs_iff.1 needs
  induction path with
  | refl => exact ⟨[], .start leads isRecord⟩
  | @tail last next path met ih =>
    obtain ⟨passed, meets⟩ := met
    obtain ⟨front, trail⟩ := ih (needs_iff.2 ⟨viaPointer, first, leads, path⟩) meets.1
    by_cases member : next ∈ front ++ [last]
    · exact trail.cut member
    · exact ⟨front ++ [last], .step trail meets isRecord member⟩

/-! ## A type that comes back is never collected -/

theorem collect_ok_of_collectArrival {collect : Arrival → Run Unit} {passed viaPointer : Bool}
    {type : TypeRef} {id : NodeId} {ledger after : Ledger}
    (leads : scope.LeadsTo type viaPointer id)
    (done : (scope.collectArrival user collect passed type).run ledger = .ok () after) :
    (collect ⟨id, passed || viaPointer⟩).run ledger = .ok () after := by
  obtain ⟨found, middle, asked, rest⟩ := bind_ok_iff.1 done
  obtain ⟨arrives, rfl⟩ := Run.ofExcept_ok_iff.1 asked
  cases arrival_of_leadsTo leads arrives
  exact rest

/-- What a record meets was collected, if the record was expanded to the end. -/
theorem collect_ok_of_expandWith {collect : Arrival → Run Unit} {record next : NodeId}
    {viaPointer : Bool} {ledger after : Ledger} (meets : scope.Meets record viaPointer next)
    (done : (scope.expandWith user collect record).run ledger = .ok () after) :
    ∃ start last, (collect ⟨next, viaPointer⟩).run start = .ok () last := by
  obtain ⟨ended, steps⟩ := Run.followWalk_ok_iff.1 done
  obtain ⟨-, type, uses, leads⟩ := meets
  obtain ⟨start, last, step⟩ := forM_ok_of_mem steps (TypeGraph.mem_expansion_of_uses uses ended)
  have collected := collect_ok_of_collectArrival leads step
  rw [Bool.false_or] at collected
  exact ⟨start, last, collected⟩

/-- A record is collected when it is met behind a pointer while it is being expanded, or when
it is expanded to the end. -/
theorem collectWithin_ok {fuel : Nat} {path : List NodeId} {id : NodeId} {viaPointer : Bool}
    {ledger after : Ledger} (isRecord : scope.graph.isRecord id = true)
    (done : (scope.collectWithin user (fuel + 1) path ⟨id, viaPointer⟩).run ledger =
      .ok () after) :
    (id ∈ path ∧ viaPointer = true) ∨ (id ∉ path ∧ ∃ middle, (scope.expandWith user
      (scope.collectWithin user fuel (path ++ [id])) id).run ledger = .ok () middle) := by
  rw [collectWithin, if_neg (TypeGraph.not_isEnum isRecord)] at done
  split at done
  · rename_i onPath
    split at done
    · rename_i passed
      exact .inl ⟨onPath, passed⟩
    · obtain ⟨fault, middle, -, thrown⟩ := bind_ok_iff.1 done
      cases thrown
  · rename_i fresh
    obtain ⟨⟨⟩, middle, expanded, -⟩ := bind_ok_iff.1 done
    exact .inr ⟨fresh, middle, expanded⟩

/-- A record that is not being expanded is expanded. -/
theorem expandWith_ok_of_collectWithin {fuel : Nat} {path : List NodeId} {id : NodeId}
    {viaPointer : Bool} {ledger after : Ledger} (isRecord : scope.graph.isRecord id = true)
    (fresh : id ∉ path)
    (done : (scope.collectWithin user fuel path ⟨id, viaPointer⟩).run ledger = .ok () after) :
    ∃ fuel start last, (scope.expandWith user
      (scope.collectWithin user fuel (path ++ [id])) id).run start = .ok () last := by
  cases fuel with
  | zero => cases done
  | succ fuel =>
    rcases collectWithin_ok isRecord done with ⟨onPath, -⟩ | ⟨-, middle, expanded⟩
    · exact absurd onPath fresh
    · exact ⟨fuel, ledger, middle, expanded⟩

/-- By induction on the trail: its last record is expanded with the trail as the path. -/
theorem expandWith_ok_of_trail {type : TypeRef} {viaPointer : Bool} {ledger after : Ledger}
    {front : List NodeId} {last : NodeId}
    (done : (scope.need type user viaPointer).run ledger = .ok () after)
    (trail : scope.Trail type front last) :
    ∃ fuel start final, (scope.expandWith user
      (scope.collectWithin user fuel (front ++ [last])) last).run start = .ok () final := by
  induction trail with
  | start leads isRecord =>
    have collected := collect_ok_of_collectArrival leads done
    exact expandWith_ok_of_collectWithin isRecord List.not_mem_nil collected
  | step _ meets isRecord fresh ih =>
    obtain ⟨fuel, start, final, expanded⟩ := ih
    obtain ⟨first, end_, collected⟩ := collect_ok_of_expandWith meets expanded
    exact expandWith_ok_of_collectWithin isRecord fresh collected

theorem not_ok_of_comesBack {type : TypeRef} {viaPointer : Bool} {ledger after : Ledger}
    (back : scope.ComesBack type) :
    (scope.need type user viaPointer).run ledger ≠ .ok () after := by
  intro done
  obtain ⟨front, last, back, trail, meets, met⟩ := back
  obtain ⟨fuel, start, final, expanded⟩ := expandWith_ok_of_trail done trail
  obtain ⟨first, end_, collected⟩ := collect_ok_of_expandWith meets expanded
  cases fuel with
  | zero => cases collected
  | succ fuel =>
    rcases collectWithin_ok (trail.isRecord back met) collected with ⟨-, passed⟩ | ⟨fresh, -⟩
    · cases passed
    · exact fresh met

/-! ## A reported cycle is one, or the type comes back -/

/-- Asking for a name does not fail: what fails is what comes after. -/
theorem error_after_nameFor {α : Type} {id : NodeId} {rest : String → Run α}
    {ledger after : Ledger} {fault : Fault}
    (h : (scope.nameFor id >>= rest).run ledger = .error fault after) :
    ∃ name middle, (rest name).run middle = .error fault after := by
  rcases bind_error_iff.1 h with named | ⟨name, middle, -, failed⟩
  · exact absurd named (scope.nameFor_succeeds id).ne_error
  · exact ⟨name, middle, failed⟩

/-- Only a step that uses a type can fail. -/
theorem performStep_error {collect : Arrival → Run Unit} {step : ExpansionStep}
    {ledger after : Ledger} {fault : Fault}
    (h : (scope.performStep user collect step).run ledger = .error fault after) :
    ∃ type, step = .use type ∧
      (scope.collectArrival user collect false type).run ledger = .error fault after := by
  cases step with
  | use type => exact ⟨type, rfl, h⟩
  | enter record =>
    obtain ⟨name, middle, failed⟩ := error_after_nameFor h
    cases failed
  | declaredOnly record =>
    obtain ⟨name, middle, failed⟩ := error_after_nameFor h
    cases failed
  | nameInPlace child parent label =>
    obtain ⟨name, middle, failed⟩ := error_after_nameFor h
    cases failed

theorem collectArrival_error {collect : Arrival → Run Unit} {passed : Bool} {type : TypeRef}
    {ledger after : Ledger} {fault : Fault}
    (h : (scope.collectArrival user collect passed type).run ledger = .error fault after) :
    scope.arrival user passed type = .error fault ∨
      ∃ viaPointer id, scope.LeadsTo type viaPointer id ∧
        (collect ⟨id, passed || viaPointer⟩).run ledger = .error fault after := by
  rcases bind_error_iff.1 h with asked | ⟨found, middle, asked, rest⟩
  · exact .inl (Run.ofExcept_error_iff.1 asked).1
  · obtain ⟨arrives, rfl⟩ := Run.ofExcept_ok_iff.1 asked
    cases found with
    | none => cases rest
    | some arrival =>
      obtain ⟨viaPointer, leads, passes⟩ := leadsTo_of_arrival arrives
      refine .inr ⟨viaPointer, arrival.type, leads, ?_⟩
      rw [← passes]
      exact rest

/-- A record is not expanded to the end because its walk is cut short, or a type that it
uses leads nowhere, or what it meets is not collected. -/
theorem expandWith_error {collect : Arrival → Run Unit} {record : NodeId}
    {ledger after : Ledger} {fault : Fault}
    (isRecord : scope.graph.isRecord record = true)
    (h : (scope.expandWith user collect record).run ledger = .error fault after) :
    (scope.graph.expansion user record).fault = some fault ∨
      (∃ type, scope.arrival user false type = .error fault) ∨
      ∃ viaPointer next, scope.Meets record viaPointer next ∧
        ∃ middle, (collect ⟨next, viaPointer⟩).run middle = .error fault after := by
  rcases Run.followWalk_error h with stopped | ⟨step, met, middle, failed⟩
  · exact .inl stopped
  · obtain ⟨type, rfl, failed⟩ := performStep_error failed
    refine .inr ((collectArrival_error failed).imp (fun lost => ⟨type, lost⟩) ?_)
    rintro ⟨viaPointer, next, leads, collected⟩
    rw [Bool.false_or] at collected
    exact ⟨viaPointer, next, ⟨isRecord, type, TypeGraph.uses_of_mem_expansion met, leads⟩,
      middle, collected⟩

/-- A tagged type is arrived at with a trail as the path, or first of all. -/
inductive Arrives (scope : Scope) (type : TypeRef) : List NodeId → Arrival → Prop
  | start {id : NodeId} {viaPointer passed : Bool} :
      scope.LeadsTo type viaPointer id → Arrives scope type [] ⟨id, passed⟩
  | next {front : List NodeId} {last id : NodeId} {viaPointer : Bool} :
      scope.Trail type front last → scope.Meets last viaPointer id →
      Arrives scope type (front ++ [last]) ⟨id, viaPointer⟩

theorem Arrives.trail {type : TypeRef} {path : List NodeId} {arrival : Arrival}
    (arrives : scope.Arrives type path arrival)
    (isRecord : scope.graph.isRecord arrival.type = true)
    (fresh : arrival.type ∉ path) : scope.Trail type path arrival.type := by
  cases arrives with
  | start leads => exact .start leads isRecord
  | next trail meets => exact .step trail meets isRecord fresh

theorem Arrives.tagged? {type : TypeRef} {path : List NodeId} {arrival : Arrival}
    (arrives : scope.Arrives type path arrival) :
    ∃ tagged, scope.graph.tagged? arrival.type = some tagged := by
  cases arrives with
  | start leads => exact leads.tagged?
  | next _ meets => exact meets.tagged?

/-- By induction on the bound of the path's length: the path is a trail. -/
theorem hasLoop_or_comesBack_within {type : TypeRef} {fuel : Nat} {path : List NodeId}
    {arrival : Arrival} {ledger after : Ledger} {names : List String}
    (arrives : scope.Arrives type path arrival)
    (h : (scope.collectWithin user fuel path arrival).run ledger = .error (.cycle names) after) :
    scope.typedefs.HasLoop scope.graph ∨ scope.ComesBack type := by
  induction fuel generalizing path arrival ledger with
  | zero => cases h
  | succ fuel ih =>
    rw [collectWithin] at h
    split at h
    · cases h
    · rename_i notEnum
      have isRecord := TypeGraph.isRecord_of_not_isEnum arrives.tagged? notEnum
      split at h
      · rename_i onPath
        split at h
        · cases h
        · rename_i direct
          cases arrives with
          | start _ => cases onPath
          | @next front last id viaPointer trail meets =>
            have byValue : viaPointer = false := Bool.eq_false_iff.2 direct
            subst byValue
            exact .inr ⟨front, last, id, trail, meets, onPath⟩
      · rename_i fresh
        rcases bind_error_iff.1 h with expanded | ⟨_, _, -, recorded⟩
        · rcases expandWith_error isRecord expanded with stopped | ⟨type, lost⟩ | below
          · exact absurd stopped (TypeGraph.expansion_ne_cycle names)
          · exact .inl (hasLoop_of_arrival lost)
          · obtain ⟨passed, next, meets, middle, failed⟩ := below
            exact ih (.next (arrives.trail isRecord fresh) meets) failed
        · cases recorded

theorem hasLoop_or_comesBack_of_cycle {type : TypeRef} {viaPointer : Bool}
    {ledger after : Ledger} {names : List String}
    (h : (scope.need type user viaPointer).run ledger = .error (.cycle names) after) :
    scope.typedefs.HasLoop scope.graph ∨ scope.ComesBack type := by
  rcases collectArrival_error h with lost | ⟨passed, id, leads, failed⟩
  · exact .inl (hasLoop_of_arrival lost)
  · exact hasLoop_or_comesBack_within (.start leads) failed

/-- **When a reported cycle is one.**  Collecting a type reports cycles only where there
are some if and only if there are some, or the type does not come back, or another fault
ends the collection first. -/
theorem cycle_is_real_iff (scope : Scope) (type : TypeRef) (user : String) (viaPointer : Bool)
    (ledger : Ledger) :
    ((∃ names after, (scope.need type user viaPointer).run ledger = .error (.cycle names) after) →
        scope.HasCycle) ↔
      scope.HasCycle ∨ ¬ scope.ComesBack type ∨
        ∃ fault after, (∀ names, fault ≠ .cycle names) ∧
          (scope.need type user viaPointer).run ledger = .error fault after := by
  constructor
  · intro real
    by_cases back : scope.ComesBack type
    · cases run : (scope.need type user viaPointer).run ledger with
      | ok _ after => exact absurd run (not_ok_of_comesBack back)
      | error fault after =>
        by_cases isCycle : ∃ names, fault = .cycle names
        · obtain ⟨names, rfl⟩ := isCycle
          exact .inl (real ⟨names, after, run⟩)
        · exact .inr (.inr ⟨fault, after, not_exists.1 isCycle, rfl⟩)
    · exact .inr (.inl back)
  · rintro (cycle | notBack | ⟨fault, after, other, failed⟩) ⟨names, last, reported⟩
    · exact cycle
    · exact .inl ((hasLoop_or_comesBack_of_cycle reported).resolve_right notBack)
    · cases failed.symm.trans reported
      exact absurd rfl (other names)

/-! ## A record that holds a pointer back -/

/-- `struct A` has a typedef'd pointer to `struct B`, which holds the first by value. -/
def backPointer : Scope where
  graph := ⟨#[
    .tagged ⟨.struct, "A", some [⟨"x", some ⟨2⟩⟩], []⟩,
    .tagged ⟨.struct, "B", some [⟨"a", some ⟨0⟩⟩], []⟩,
    .typedefName "PB",
    .pointer (some ⟨1⟩)]⟩
  typedefs := ⟨"va", [("PB", some ⟨3⟩)]⟩

theorem backPointer_contains {record inner : NodeId} (h : backPointer.Contains record inner) :
    record = ⟨1⟩ ∧ inner = ⟨0⟩ := by
  have members : ∀ {record type : NodeId}, backPointer.graph.MemberType record type →
      (record = ⟨0⟩ ∧ type = ⟨2⟩) ∨ (record = ⟨1⟩ ∧ type = ⟨0⟩) := by
    rintro ⟨_ | _ | _ | _ | index⟩ type ⟨members, held, member, isMember, isType⟩
    all_goals simp [backPointer, TypeGraph.members?, TypeGraph.tagged?, TypeGraph.node?] at held
    · subst held
      cases List.mem_singleton.1 isMember
      cases isType
      exact .inl ⟨rfl, rfl⟩
    · subst held
      cases List.mem_singleton.1 isMember
      cases isType
      exact .inr ⟨rfl, rfl⟩
  cases h with
  | direct has isRecord =>
    rcases members has with ⟨rfl, rfl⟩ | both
    · cases isRecord
    · exact both
  | byTypedef has node means isRecord =>
    rcases members has with ⟨rfl, rfl⟩ | ⟨rfl, rfl⟩
    · cases node
      cases means
      cases isRecord
    · cases node

theorem backPointer_no_loop : ¬ backPointer.typedefs.HasLoop backPointer.graph := by
  rintro ⟨name, loop⟩
  obtain ⟨next, step, -⟩ := TransGen.head'_iff.1 loop
  cases List.mem_singleton.1 (TypedefTable.declared_of_next step)
  obtain ⟨meaning, found, ref, rfl, node, -⟩ := step
  cases found
  cases node

/-- **A false cycle**: no record holds itself and no typedef name leads back, yet
collecting `struct A` reports that `A` leads through `B` back to `A`. -/
theorem backPointer_false_cycle :
    (∃ names after,
      (backPointer.need (some ⟨0⟩) "f" false).run .empty = .error (.cycle names) after) ∧
      ¬ backPointer.HasCycle := by
  have tested : fails (fun fault => decide (fault = .cycle ["A", "B", "A"]))
      ((backPointer.need (some ⟨0⟩) "f" false).run .empty) = true := by decide +kernel
  obtain ⟨fault, after, failed, isCycle⟩ := exists_of_fails tested
  rw [of_decide_eq_true isCycle] at failed
  refine ⟨⟨_, after, failed⟩, ?_⟩
  rintro (loop | ⟨record, cycle⟩)
  · exact backPointer_no_loop loop
  · obtain ⟨_, first, -⟩ := TransGen.head'_iff.1 cycle
    obtain ⟨_, -, last⟩ := TransGen.tail'_iff.1 cycle
    cases (backPointer_contains first).1.symm.trans (backPointer_contains last).2

end Scope

end HeaderBind
