/-
# HeaderBind.Proofs.Need.Collection — what collecting the needs of a type records

A collection keeps no set of what it has visited, only the path of the records being
expanded.  `Covers path roots visited` says what a finished collection has visited:
every root, nothing that no root leads to, and with every tagged type all that is met
from it, except from those on the path, which whoever expands them still visits.
With an empty path nothing is excepted, so what was visited is exactly what the roots
reach (`Covers.mem_iff`), on cyclic graphs as well.

Main statement: a type that is needed records its user for exactly the tagged types
that it needs (`need_records`).
-/
import HeaderBind.Proofs.Need.Reach
import HeaderBind.Proofs.TypeName.Settled
import Mathlib.Data.Set.Insert

namespace HeaderBind

set_option autoImplicit false

open Outcome Relation

/-! ## Tables of needs -/

namespace NeedTable

/-- The table with one more user of each of the types. -/
def addAll (needs : NeedTable) (ids : List NodeId) (user : String) : NeedTable :=
  ids.foldl (fun table id => table.add id user) needs

theorem addAll_append (needs : NeedTable) (first second : List NodeId) (user : String) :
    needs.addAll (first ++ second) user = (needs.addAll first user).addAll second user :=
  List.foldl_append

theorem addUser_addUser (users : List String) (user : String) :
    addUser (addUser users user) user = addUser users user := by
  by_cases h : user ∈ users <;> simp [addUser, h]

theorem find?_addAll (needs : NeedTable) (ids : List NodeId) (user : String) (other : NodeId) :
    (needs.addAll ids user).find? other =
      if other ∈ ids then some (addUser (needs.users other) user) else needs.find? other := by
  induction ids generalizing needs with
  | nil => simp [addAll]
  | cons id ids ih =>
    have step : needs.addAll (id :: ids) user = (needs.add id user).addAll ids user := rfl
    rw [step, ih]
    by_cases same : other = id
    · subst same
      rw [users_add_self, addUser_addUser, find?_add, if_pos rfl]
      simp
    · have users : (needs.add id user).users other = needs.users other := by
        rw [NeedTable.users, NeedTable.users, find?_add_ne needs same user]
      rw [users, find?_add_ne needs same user]
      simp [same]

end NeedTable

/-! ## What was visited -/

namespace Scope

variable (scope : Scope)

/-- What a finished collection has visited while the records of `path` were being expanded. -/
structure Covers (path : List NodeId) (roots : Set NodeId) (visited : List NodeId) : Prop where
  starts : ∀ id ∈ roots, id ∈ visited
  reached : ∀ id ∈ visited, ∃ root ∈ roots, ReflTransGen scope.Next root id
  closed : ∀ id ∈ visited, id ∈ path ∨ ∀ next, scope.Next id next → next ∈ visited

namespace Covers

variable {scope} {path : List NodeId} {roots others : Set NodeId} {visited more : List NodeId}
  {id : NodeId}

theorem empty : scope.Covers path ∅ [] :=
  ⟨fun _ member => member.elim, fun _ member => (List.not_mem_nil member).elim,
    fun _ member => (List.not_mem_nil member).elim⟩

theorem union (one : scope.Covers path roots visited) (two : scope.Covers path others more) :
    scope.Covers path (roots ∪ others) (visited ++ more) := by
  refine ⟨fun id member => ?_, fun id member => ?_, fun id member => ?_⟩
  · rcases member with member | member
    · exact List.mem_append_left _ (one.starts id member)
    · exact List.mem_append_right _ (two.starts id member)
  · rcases List.mem_append.1 member with member | member
    · obtain ⟨root, isRoot, leads⟩ := one.reached id member
      exact ⟨root, .inl isRoot, leads⟩
    · obtain ⟨root, isRoot, leads⟩ := two.reached id member
      exact ⟨root, .inr isRoot, leads⟩
  · rcases List.mem_append.1 member with member | member
    · exact (one.closed id member).imp_right fun all next met =>
        List.mem_append_left _ (all next met)
    · exact (two.closed id member).imp_right fun all next met =>
        List.mem_append_right _ (all next met)

/-- A tagged type that is recorded and not expanded. -/
theorem stop (h : id ∈ path ∨ ∀ next, ¬ scope.Next id next) : scope.Covers path {id} [id] := by
  refine ⟨fun other member => ?_, fun other member => ?_, fun other member => ?_⟩
  · exact List.mem_singleton.2 member
  · exact ⟨id, rfl, (List.mem_singleton.1 member).symm ▸ .refl⟩
  · rw [List.mem_singleton.1 member]
    exact h.imp_right fun none next met => (none next met).elim

/-- A record whose expansion is finished leaves the path. -/
theorem close (h : scope.Covers (path ++ [id]) {next | scope.Next id next} visited) :
    scope.Covers path {id} (visited ++ [id]) := by
  refine ⟨fun other member => ?_, fun other member => ?_, fun other member => ?_⟩
  · rw [Set.mem_singleton_iff.1 member]
    exact List.mem_append_right _ List.mem_cons_self
  · rcases List.mem_append.1 member with member | member
    · obtain ⟨root, met, leads⟩ := h.reached other member
      exact ⟨id, rfl, leads.head met⟩
    · exact ⟨id, rfl, (List.mem_singleton.1 member).symm ▸ .refl⟩
  · have fromId : ∀ next, scope.Next id next → next ∈ visited ++ [id] := fun next met =>
      List.mem_append_left _ (h.starts next met)
    rcases List.mem_append.1 member with member | member
    · rcases h.closed other member with onPath | all
      · rcases List.mem_append.1 onPath with onPath | isId
        · exact .inl onPath
        · rw [List.mem_singleton.1 isId]
          exact .inr fromId
      · exact .inr fun next met => List.mem_append_left _ (all next met)
    · rw [List.mem_singleton.1 member]
      exact .inr fromId

/-- With nothing being expanded, what was visited is what the roots reach. -/
theorem mem_iff (h : scope.Covers [] roots visited) :
    id ∈ visited ↔ ∃ root ∈ roots, ReflTransGen scope.Next root id := by
  refine ⟨h.reached id, ?_⟩
  rintro ⟨root, isRoot, path⟩
  induction path with
  | refl => exact h.starts root isRoot
  | tail _ met ih => exact (h.closed _ ih).resolve_left List.not_mem_nil _ met

end Covers

/-- Whenever the computation ends without a fault, it has recorded the user for what it
has visited from the roots. -/
def Traverses (user : String) (path : List NodeId) (roots : Set NodeId) (x : Run Unit) : Prop :=
  ∀ ledger after, x.run ledger = .ok () after →
    ∃ visited, scope.Covers path roots visited ∧ after.needs = ledger.needs.addAll visited user

variable {scope}

namespace Traverses

variable {user : String} {path : List NodeId} {roots : Set NodeId}

theorem of_onlyNames {x : Run Unit} (h : Keeps Ledger.OnlyNames x) :
    scope.Traverses user path ∅ x := fun _ _ done => ⟨[], .empty, (h.ok done).needs⟩

theorem forM {α : Type} {f : α → Run Unit} {roots : α → Set NodeId} {list : List α}
    (each : ∀ a ∈ list, scope.Traverses user path (roots a) (f a)) :
    scope.Traverses user path {id | ∃ a ∈ list, id ∈ roots a} (forM list f) := by
  intro ledger after done
  induction list generalizing ledger with
  | nil =>
    cases done
    exact ⟨[], by simpa using Covers.empty, rfl⟩
  | cons a rest ih =>
    obtain ⟨middle, first, others⟩ := forM_cons_ok_iff.1 done
    obtain ⟨visited, covers, added⟩ := each a List.mem_cons_self ledger middle first
    obtain ⟨more, coversMore, addedMore⟩ :=
      ih (fun b member => each b (List.mem_cons_of_mem a member)) middle others
    refine ⟨visited ++ more, ?_, ?_⟩
    · have both := covers.union coversMore
      have same : roots a ∪ {id | ∃ b ∈ rest, id ∈ roots b} =
          {id | ∃ b ∈ a :: rest, id ∈ roots b} := by
        ext id
        simp
      rwa [same] at both
    · rw [addedMore, added, NeedTable.addAll_append]

end Traverses

end Scope

/-! ## Following a walk -/

namespace Run

variable {α : Type} {walk : Walk α} {perform : α → Run Unit}

theorem followWalk_ok_iff {ledger after : Ledger} :
    (followWalk walk perform).run ledger = .ok () after ↔
      walk.fault = none ∧ (forM walk.items perform).run ledger = .ok () after := by
  unfold followWalk
  rw [bind_ok_iff]
  cases walk.fault with
  | none =>
    constructor
    · rintro ⟨⟨⟩, middle, items, rest⟩
      obtain ⟨-, rfl⟩ := pure_ok_iff.1 rest
      exact ⟨rfl, items⟩
    · rintro ⟨-, items⟩
      exact ⟨(), after, items, rfl⟩
  | some fault => simp [throw_run]

theorem followWalk_error {ledger after : Ledger} {fault : Fault}
    (h : (followWalk walk perform).run ledger = .error fault after) :
    walk.fault = some fault ∨
      ∃ a ∈ walk.items, ∃ middle, (perform a).run middle = .error fault after := by
  unfold followWalk at h
  rcases bind_error_iff.1 h with items | ⟨⟨⟩, middle, -, rest⟩
  · exact .inr (forM_error items)
  · cases ended : walk.fault with
    | none =>
      rw [ended] at rest
      cases rest
    | some other =>
      rw [ended] at rest
      cases rest
      exact .inl rfl

theorem needs_of_addNeed {id : NodeId} {user : String} {ledger after : Ledger}
    (done : (addNeed id user).run ledger = .ok () after) :
    after.needs = ledger.needs.addAll [id] user := by
  cases done
  rfl

theorem followWalk_keeps {R : Ledger → Ledger → Prop} [Std.Refl R] [IsTrans Ledger R]
    (each : ∀ a ∈ walk.items, Keeps R (perform a)) : Keeps R (followWalk walk perform) := by
  unfold followWalk
  refine (Keeps.forM each).bind fun _ => ?_
  cases walk.fault with
  | none => exact Keeps.pure ()
  | some fault => exact Keeps.throw fault

end Run

namespace Scope

variable (scope : Scope) (user : String)

/-! ## What a collection leaves alone -/

/-- A step that uses no type gives names at most. -/
theorem performStep_onlyNames {collect : Arrival → Run Unit} {step : ExpansionStep}
    (uses : ∀ type, step ≠ .use type) :
    Keeps Ledger.OnlyNames (scope.performStep user collect step) := by
  cases step with
  | enter record => exact (scope.nameFor_onlyNames record).bind fun _ => Keeps.pure ()
  | declaredOnly record =>
    exact (scope.nameFor_onlyNames record).bind fun _ => Run.note_onlyNames _ _ _
  | nameInPlace child parent label =>
    refine (scope.nameFor_onlyNames parent).bind fun _ => ?_
    exact (Run.giveName_onlyNames child _).bind fun _ => Keeps.pure ()
  | use type => exact absurd rfl (uses type)

/-- What a collection does in single steps keeps the relation: names are asked for, unnamed
types written in place are named after their parents, and needs are recorded. -/
structure CollectingKeeps (R : Ledger → Ledger → Prop) : Prop extends scope.NamingKeeps R where
  nameInPlace : ∀ parent child label, scope.graph.Labels parent child label →
    Keeps R (do
      let parentName ← scope.nameFor parent
      Run.giveName child (parentName ++ "_" ++ label))
  addNeed : ∀ id user, Keeps R (Run.addNeed id user)

namespace CollectingKeeps

variable {scope} {R : Ledger → Ledger → Prop} [Std.Refl R] [IsTrans Ledger R]

section Collect

variable {collect : Arrival → Run Unit} (each : ∀ arrival, Keeps R (collect arrival))

include each

theorem collectArrival (viaPointer : Bool) (type : TypeRef) :
    Keeps R (scope.collectArrival user collect viaPointer type) := by
  unfold Scope.collectArrival
  refine (Run.ofExcept_keeps _).bind fun found => ?_
  cases found with
  | none => exact Keeps.pure ()
  | some arrival => exact each arrival

theorem expandWith (keeps : scope.CollectingKeeps R) (record : NodeId) :
    Keeps R (scope.expandWith user collect record) := by
  refine Run.followWalk_keeps fun step met => ?_
  cases step with
  | enter record => exact (keeps.nameFor record).bind fun _ => Keeps.pure ()
  | declaredOnly record => exact (keeps.nameFor record).bind fun _ => keeps.note _ _ _
  | nameInPlace child parent label =>
    have labels := TypeGraph.labels_of_mem_expansion met
    have named := (keeps.nameInPlace parent child label labels).bind
      fun _ => Keeps.pure (R := R) ()
    rwa [bind_assoc] at named
  | use type => exact collectArrival user each false type

end Collect

variable (keeps : scope.CollectingKeeps R)

include keeps

theorem collectWithin (fuel : Nat) (path : List NodeId) (arrival : Arrival) :
    Keeps R (scope.collectWithin user fuel path arrival) := by
  induction fuel generalizing path arrival with
  | zero => exact Keeps.throw _
  | succ fuel ih =>
    rw [Scope.collectWithin]
    split
    · exact keeps.addNeed _ user
    · split
      · split
        · exact keeps.addNeed _ user
        · exact (keeps.cycleThrough path arrival.type).bind fun _ => Keeps.throw _
      · exact (expandWith user (ih _) keeps arrival.type).bind fun _ => keeps.addNeed _ user

theorem need (type : TypeRef) (viaPointer : Bool) :
    Keeps R (scope.need type user viaPointer) :=
  collectArrival user (keeps.collectWithin user _ _) viaPointer type

theorem needMembers (record : NodeId) : Keeps R (scope.needMembers record user) :=
  expandWith user (keeps.collectWithin user _ _) keeps record

end CollectingKeeps

/-- A collection keeps the names that are given, however it ends. -/
theorem collecting_grows : scope.CollectingKeeps Ledger.Grows where
  nameFor id := (scope.nameFor_onlyNames id).mono fun _ _ => Ledger.OnlyNames.grows
  note level reporter text :=
    (Run.note_onlyNames level reporter text).mono fun _ _ => Ledger.OnlyNames.grows
  nameInPlace parent child label _ := by
    have named := (scope.nameFor_onlyNames parent).bind fun parentName =>
      Run.giveName_onlyNames child (parentName ++ "_" ++ label)
    exact named.mono fun _ _ => Ledger.OnlyNames.grows
  addNeed := Run.addNeed_grows

/-! ## What a collection visits -/

variable {scope user} {path : List NodeId} {collect : Arrival → Run Unit}

theorem traverses_collectArrival
    (each : ∀ arrival, (∃ type, scope.graph.tagged? arrival.type = some type) →
      scope.Traverses user path {arrival.type} (collect arrival))
    (viaPointer : Bool) (type : TypeRef) :
    scope.Traverses user path {id | ∃ passed, scope.LeadsTo type passed id}
      (scope.collectArrival user collect viaPointer type) := by
  intro ledger after done
  obtain ⟨found, middle, asked, rest⟩ := bind_ok_iff.1 done
  obtain ⟨arrives, rfl⟩ := Run.ofExcept_ok_iff.1 asked
  cases found with
  | none =>
    obtain ⟨-, rfl⟩ := pure_ok_iff.1 rest
    have nowhere : {id | ∃ passed, scope.LeadsTo type passed id} = ∅ := by
      refine Set.eq_empty_iff_forall_notMem.2 fun id => ?_
      rintro ⟨passed, leads⟩
      cases arrival_of_leadsTo leads arrives
    rw [nowhere]
    exact ⟨[], .empty, rfl⟩
  | some arrival =>
    obtain ⟨passed, leads, -⟩ := leadsTo_of_arrival arrives
    have there : {id | ∃ passed, scope.LeadsTo type passed id} = {arrival.type} := by
      refine Set.eq_singleton_iff_unique_mem.2 ⟨⟨passed, leads⟩, fun id => ?_⟩
      rintro ⟨other, leads⟩
      have same := arrival_of_leadsTo leads arrives
      cases same
      rfl
    rw [there]
    exact each arrival leads.tagged? middle after rest

/-- The tagged types that a step collects. -/
def stepRoots (scope : Scope) : ExpansionStep → Set NodeId
  | .use type => {id | ∃ passed, scope.LeadsTo type passed id}
  | _ => ∅

theorem stepRoots_eq_next {record : NodeId} (isRecord : scope.graph.isRecord record = true)
    (ended : (scope.graph.expansion user record).fault = none) :
    {id | ∃ step ∈ (scope.graph.expansion user record).items, id ∈ scope.stepRoots step} =
      {next | scope.Next record next} := by
  ext next
  constructor
  · rintro ⟨step, met, root⟩
    cases step with
    | use type =>
      obtain ⟨passed, leads⟩ := root
      exact ⟨passed, isRecord, type, TypeGraph.uses_of_mem_expansion met, leads⟩
    | enter _ => exact root.elim
    | declaredOnly _ => exact root.elim
    | nameInPlace _ _ _ => exact root.elim
  · rintro ⟨passed, -, type, uses, leads⟩
    exact ⟨.use type, TypeGraph.mem_expansion_of_uses uses ended, passed, leads⟩

theorem traverses_expandWith {record : NodeId} (isRecord : scope.graph.isRecord record = true)
    (each : ∀ arrival, (∃ type, scope.graph.tagged? arrival.type = some type) →
      scope.Traverses user path {arrival.type} (collect arrival)) :
    scope.Traverses user path {next | scope.Next record next}
      (scope.expandWith user collect record) := by
  intro ledger after done
  obtain ⟨ended, steps⟩ := Run.followWalk_ok_iff.1 done
  rw [← stepRoots_eq_next isRecord ended]
  refine Traverses.forM (fun step _ => ?_) ledger after steps
  by_cases uses : ∃ type, step = .use type
  · obtain ⟨type, rfl⟩ := uses
    exact traverses_collectArrival each false type
  · have none : scope.stepRoots step = ∅ := by
      cases step with
      | use type => exact absurd ⟨type, rfl⟩ uses
      | enter _ => rfl
      | declaredOnly _ => rfl
      | nameInPlace _ _ _ => rfl
    rw [none]
    exact .of_onlyNames (scope.performStep_onlyNames user fun type same => uses ⟨type, same⟩)

/-- By induction on the bound of the path's length: what a record meets is traversed with
the record on the path, and the record leaves the path when it is recorded. -/
theorem traverses_collectWithin {fuel : Nat} {arrival : Arrival}
    (tagged : ∃ type, scope.graph.tagged? arrival.type = some type) :
    scope.Traverses user path {arrival.type} (scope.collectWithin user fuel path arrival) := by
  induction fuel generalizing path arrival with
  | zero => exact fun _ _ done => nomatch done
  | succ fuel ih =>
    intro ledger after done
    rw [collectWithin] at done
    split at done
    · rename_i isEnum
      refine ⟨_, .stop (.inr ?_), Run.needs_of_addNeed done⟩
      rintro next ⟨-, isRecord, -⟩
      exact TypeGraph.not_isEnum isRecord isEnum
    · rename_i notEnum
      split at done
      · rename_i onPath
        split at done
        · exact ⟨_, .stop (.inl onPath), Run.needs_of_addNeed done⟩
        · obtain ⟨fault, middle, -, thrown⟩ := bind_ok_iff.1 done
          cases thrown
      · obtain ⟨⟨⟩, middle, expanded, rest⟩ := bind_ok_iff.1 done
        have isRecord := TypeGraph.isRecord_of_not_isEnum tagged notEnum
        obtain ⟨visited, covers, added⟩ :=
          traverses_expandWith isRecord (fun other => ih) ledger middle expanded
        refine ⟨_, covers.close, ?_⟩
        rw [Run.needs_of_addNeed rest, added, NeedTable.addAll_append]

end Scope

end HeaderBind
