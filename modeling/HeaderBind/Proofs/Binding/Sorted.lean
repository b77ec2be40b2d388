/-
# HeaderBind.Proofs.Binding.Sorted — records are sorted by what they hold

Records that are put in holding order are the given ones, each after those of them that it
holds by value; records that stand in such an order already stay as they are.  No such order
exists exactly when records hold one another in a cycle, and exactly then a cycle is reported
(`holdingOrder_sorts`).  The search never meets its bound: the records on its path are distinct
and each holds the next.
-/
import HeaderBind.Proofs.Binding.Order
import HeaderBind.Proofs.TypeName.Settled

namespace HeaderBind.Scope

set_option autoImplicit false

open Outcome Relation

/-- The record holds the other one by value: it meets it without a pointer in between, in
itself or in an unnamed record written in it. -/
def Holds (scope : Scope) (record other : NodeId) : Prop :=
  scope.Meets record false other ∧ scope.graph.isRecord other = true

/-- The record holds the other one, and both are wanted. -/
def HoldsAmong (scope : Scope) (wanted : List NodeId) (record other : NodeId) : Prop :=
  record ∈ wanted ∧ other ∈ wanted ∧ scope.Holds record other

variable {scope : Scope} {wanted : List NodeId}

/-! ## Arranged records -/

/-- Arranged records hold only those in front of them. -/
theorem Arranged.before {front back : List NodeId} {id other : NodeId}
    (h : scope.Arranged wanted (front ++ id :: back)) (isWanted : other ∈ wanted)
    (holds : scope.Holds id other) : other ∈ front := by
  generalize same : front ++ id :: back = list at h
  induction h generalizing back with
  | nil => simp at same
  | @concat ordered last _ _ here ih =>
    rcases List.eq_nil_or_concat back with rfl | ⟨back, final, rfl⟩
    · obtain ⟨rfl, isLast⟩ := List.append_inj' same rfl
      cases isLast
      exact here other isWanted holds.2 holds.1
    · have split : (front ++ id :: back) ++ [final] = ordered ++ [last] := by simpa using same
      exact ih (List.append_inj' split rfl).1

/-- By induction on the order: every way down from an arranged record ends. -/
theorem Arranged.acc {ordered : List NodeId} (h : scope.Arranged wanted ordered) :
    ∀ id ∈ ordered, Acc (fun inner outer => scope.HoldsAmong wanted outer inner) id := by
  induction h with
  | nil => exact fun id member => absurd member List.not_mem_nil
  | concat _ _ here ih =>
    intro id member
    rcases List.mem_append.1 member with member | isLast
    · exact ih id member
    · rw [List.mem_singleton.1 isLast]
      exact .intro _ fun other holds => ih other (here other holds.2.1 holds.2.2.2 holds.2.2.1)

/-- Where all wanted records can be arranged, none holds itself. -/
theorem Arranged.not_cycle {ordered : List NodeId} (h : scope.Arranged wanted ordered)
    (all : wanted ⊆ ordered) (id : NodeId) : ¬ TransGen (scope.HoldsAmong wanted) id id := by
  intro loop
  obtain ⟨_, first, -⟩ := TransGen.head'_iff.1 loop
  exact TypeGraph.not_transGen_of_acc (h.acc id (all first.1)) loop

/-! ## How a search fails -/

/-- The fault reports a cycle, and there is one among the wanted records. -/
def ReportsCycle (scope : Scope) (wanted : List NodeId) (fault : Fault) : Prop :=
  (∃ names, fault = .cycle names) ∧ ∃ id, TransGen (scope.HoldsAmong wanted) id id

theorem throwCycle_reports {α : Type} {id : NodeId} (path : List NodeId)
    (loop : TransGen (scope.HoldsAmong wanted) id id) :
    FailsWith (scope.ReportsCycle wanted) (do throw (← scope.cycleThrough path id) : Run α) := by
  intro ledger fault after failed
  obtain ⟨cycle, middle, named, thrown⟩ :=
    (bind_error_iff.1 failed).resolve_left (scope.cycleThrough_succeeds path id).ne_error
  cases thrown
  exact ⟨scope.cycle_of_cycleThrough named, id, loop⟩

section Search

variable (records : ∀ id ∈ wanted, scope.graph.isRecord id = true)
  (ended : ∀ id ∈ wanted, (scope.held id).fault = none)

include records

theorem known_of_wanted {id : NodeId} (isWanted : id ∈ wanted) :
    ∃ type, scope.graph.node? id = some type := by
  obtain ⟨tagged, node, -⟩ := TypeGraph.isRecord_iff.1 (records id isWanted)
  exact ⟨_, node⟩

include ended

/-- By induction on the bound of the path's length, which is never met: the records being
visited are distinct, and each leads to this one.  So to come back to one of them is a cycle. -/
theorem visitWithin_reports {fuel : Nat} {path ordered : List NodeId} {id : NodeId}
    (isWanted : id ∈ wanted) (route : scope.graph.Route (scope.HoldsAmong wanted) path id)
    (enough : scope.graph.size < path.length + fuel) :
    FailsWith (scope.ReportsCycle wanted) (scope.visitWithin wanted fuel path ordered id) := by
  induction fuel generalizing path ordered id with
  | zero =>
    have := TypeGraph.length_le_of_nodup route.nodup route.known
    omega
  | succ fuel ih =>
    rw [visitWithin]
    split
    · exact .pure ordered
    · split
      · rename_i onPath
        exact throwCycle_reports path (route.leads id onPath)
      · rename_i fresh
        refine (FailsWith.foldlM (fun ordered other member => ?_) ordered).bind fun ordered => ?_
        · obtain ⟨met, among⟩ := List.mem_filter.1 member
          have otherWanted : other ∈ wanted := of_decide_eq_true among
          have holds : scope.HoldsAmong wanted id other :=
            ⟨isWanted, otherWanted, meets_of_mem_held (records id isWanted) met⟩
          refine ih otherWanted
            (route.extend fresh (known_of_wanted records isWanted) (.single holds)) ?_
          rw [List.length_append, List.length_singleton]
          omega
        · rw [ended id isWanted]
          exact .pure _

theorem holdingOrder_reports :
    FailsWith (scope.ReportsCycle wanted) (scope.holdingOrder wanted) := by
  refine FailsWith.foldlM (fun ordered id isWanted => ?_) []
  exact visitWithin_reports records ended isWanted (.start id) (by simp)

end Search

/-! ## Records that are sorted already -/

theorem foldlM_visited {fuel : Nat} {path ordered list : List NodeId}
    (visited : ∀ id ∈ list, id ∈ ordered) :
    list.foldlM (scope.visitWithin wanted (fuel + 1) path) ordered = pure ordered := by
  induction list with
  | nil => rfl
  | cons id list ih =>
    have here : scope.visitWithin wanted (fuel + 1) path ordered id = pure ordered := by
      rw [visitWithin, if_pos (visited id List.mem_cons_self)]
    rw [List.foldlM_cons, here, pure_bind]
    exact ih fun other member => visited other (List.mem_cons_of_mem id member)

/-- A record that holds only what is in the order already is put at its end. -/
theorem visitWithin_next {fuel : Nat} {ordered : List NodeId} {id : NodeId}
    (isRecord : scope.graph.isRecord id = true) (ended : (scope.held id).fault = none)
    (fresh : id ∉ ordered) (before : ∀ other ∈ wanted, scope.Holds id other → other ∈ ordered) :
    scope.visitWithin wanted (fuel + 2) [] ordered id = pure (ordered ++ [id]) := by
  have visited : ∀ other ∈ (scope.held id).items.filter (· ∈ wanted), other ∈ ordered := by
    intro other member
    obtain ⟨met, among⟩ := List.mem_filter.1 member
    exact before other (of_decide_eq_true among) (meets_of_mem_held isRecord met)
  rw [visitWithin, if_neg fresh, if_neg List.not_mem_nil]
  dsimp only
  rw [foldlM_visited visited, pure_bind, ended]

/-- **Records that are sorted stay as they are**: by induction on those that are still to be
visited, all others are in the order. -/
theorem holdingOrder_of_arranged (distinct : wanted.Nodup)
    (records : ∀ id ∈ wanted, scope.graph.isRecord id = true)
    (ended : ∀ id ∈ wanted, (scope.held id).fault = none)
    (sorted : scope.Arranged wanted wanted) : scope.holdingOrder wanted = pure wanted := by
  have onwards : ∀ back front, wanted = front ++ back →
      back.foldlM (scope.visitWithin wanted (scope.graph.size + 1) []) front = pure wanted := by
    intro back
    induction back with
    | nil => rintro front same; rw [List.foldlM_nil, same, List.append_nil]
    | cons id back ih =>
      intro front same
      have isWanted : id ∈ wanted := by rw [same]; simp
      have fresh : id ∉ front := fun member =>
        (List.nodup_append.1 (same ▸ distinct)).2.2 id member id List.mem_cons_self rfl
      have split : scope.Arranged wanted (front ++ id :: back) := by rwa [← same]
      have positive : 0 < scope.graph.size :=
        TypeGraph.length_le_of_nodup (List.nodup_singleton id) fun other member => by
          rw [List.mem_singleton.1 member]
          exact known_of_wanted records isWanted
      obtain ⟨less, size⟩ := Nat.exists_eq_succ_of_ne_zero (Nat.pos_iff_ne_zero.1 positive)
      have here : scope.visitWithin wanted (scope.graph.size + 1) [] front id =
          pure (front ++ [id]) := by
        rw [size]
        exact visitWithin_next (records id isWanted) (ended id isWanted) fresh
          fun other otherWanted holds => split.before otherWanted holds
      rw [List.foldlM_cons, here, pure_bind]
      exact ih (front ++ [id]) (by simpa using same)
  exact onwards wanted [] rfl

/-! ## Sorting -/

/-- **Sorting records by what they hold.**  Of distinct records whose typedef names resolve and
in which no unnamed record is written inside itself, the order is a permutation in which every
record comes after the given ones that it holds, and it is the given list if that has this
property; or a cycle is reported, which happens exactly if records of the list hold one another
in a cycle. -/
theorem holdingOrder_sorts (distinct : wanted.Nodup)
    (records : ∀ id ∈ wanted, scope.graph.isRecord id = true)
    (resolves : ∀ id ∈ wanted, scope.Resolves id)
    (straight : ∀ id ∈ wanted, ¬ scope.graph.LoopsInPlace id) (ledger : Ledger) :
    ((∃ ordered after, (scope.holdingOrder wanted).run ledger = .ok ordered after ∧
        ordered.Perm wanted ∧ scope.Arranged wanted ordered ∧
        (scope.Arranged wanted wanted → ordered = wanted)) ∨
      ∃ names after, (scope.holdingOrder wanted).run ledger = .error (.cycle names) after) ∧
    ((∃ names after, (scope.holdingOrder wanted).run ledger = .error (.cycle names) after) ↔
      ∃ id, TransGen (scope.HoldsAmong wanted) id id) := by
  have ended : ∀ id ∈ wanted, (scope.held id).fault = none := fun id isWanted =>
    heldWithin_ended (resolves id isWanted) <|
      TypeGraph.endsWithin_of_acyclic (fun _ _ inPlace => inPlace.member.known)
        fun inner leads loop => straight id isWanted ⟨inner, leads, loop⟩
  cases run : (scope.holdingOrder wanted).run ledger with
  | ok ordered after =>
    obtain ⟨arranged, all⟩ := holdingOrder_arranged run
    refine ⟨.inl ⟨ordered, after, rfl, ?_, arranged, fun sorted => ?_⟩, iff_of_false ?_ ?_⟩
    · exact (List.perm_ext_iff_of_nodup (holdingOrder_nodup run) distinct).2 fun id =>
        ⟨fun member => arranged.subset member, fun member => all member⟩
    · rw [holdingOrder_of_arranged distinct records ended sorted] at run
      exact (pure_ok_iff.1 run).1
    · rintro ⟨names, after, failed⟩
      cases failed
    · rintro ⟨id, loop⟩
      exact arranged.not_cycle all id loop
  | error fault after =>
    obtain ⟨⟨names, rfl⟩, cycle⟩ := holdingOrder_reports records ended ledger fault after run
    exact ⟨.inr ⟨names, after, rfl⟩, iff_of_true ⟨names, after, rfl⟩ cycle⟩

/-- A panel with an unnamed structure written in it, which has a point by a typedef name. -/
def panelScope : Scope where
  graph := ⟨#[
    .builtin "int",
    .tagged ⟨.struct, "point", some [⟨"x", some ⟨0⟩⟩], []⟩,
    .typedefName "Point",
    .tagged ⟨.struct, none, some [⟨"at", some ⟨2⟩⟩], []⟩,
    .tagged ⟨.struct, "panel", some [⟨"place", some ⟨3⟩⟩], []⟩]⟩
  typedefs := ⟨"va", [("Point", some ⟨1⟩)]⟩

theorem panelScope_resolves (id : NodeId) : panelScope.Resolves id := by
  rintro ⟨_ | _ | _ | _ | _ | index⟩ name - node -
  all_goals simp [panelScope, TypeGraph.node?] at node
  subst node
  exact ⟨.type (some ⟨1⟩), by decide +kernel⟩

theorem panelScope_holdsInPlace {record child : NodeId}
    (h : panelScope.graph.HoldsInPlace record child) : record = ⟨4⟩ ∧ child = ⟨3⟩ := by
  obtain ⟨⟨members, held, member, isMember, isType⟩, tagged, node, own, recordTag⟩ := h
  obtain ⟨_ | _ | _ | _ | _ | index⟩ := record
  all_goals simp [panelScope, TypeGraph.members?, TypeGraph.tagged?, TypeGraph.node?] at held
  all_goals subst held
  all_goals cases List.mem_singleton.1 isMember
  all_goals cases isType
  · cases node
  · cases node
  · exact ⟨rfl, rfl⟩

theorem panelScope_straight (id : NodeId) : ¬ panelScope.graph.LoopsInPlace id := by
  rintro ⟨inner, -, loop⟩
  obtain ⟨next, first, back⟩ := TransGen.head'_iff.1 loop
  obtain ⟨rfl, rfl⟩ := panelScope_holdsInPlace first
  rcases back.cases_head with same | ⟨_, second, -⟩
  · cases same
  · cases (panelScope_holdsInPlace second).1

/-- The panel is wanted first, and comes after the point that it holds. -/
theorem holdingOrder_sorts_panel : ∃ ordered after,
    (panelScope.holdingOrder [⟨4⟩, ⟨1⟩]).run .empty = .ok ordered after ∧
      ordered.Perm [⟨4⟩, ⟨1⟩] ∧ panelScope.Arranged [⟨4⟩, ⟨1⟩] ordered ∧ ordered = [⟨1⟩, ⟨4⟩] := by
  have tested : gives (fun ordered _ => decide (ordered = [⟨1⟩, ⟨4⟩]))
      ((panelScope.holdingOrder [⟨4⟩, ⟨1⟩]).run .empty) = true := by decide +kernel
  obtain ⟨ordered, after, run, shown⟩ := exists_of_gives tested
  have sorts := @holdingOrder_sorts panelScope [⟨4⟩, ⟨1⟩] (by decide) (by decide)
    (fun id _ => panelScope_resolves id) (fun id _ => panelScope_straight id) .empty
  rcases sorts.1 with ⟨other, last, done, perm, arranged, -⟩ | stopped
  · cases run.symm.trans done
    exact ⟨ordered, after, run, perm, arranged, of_decide_eq_true shown⟩
  · obtain ⟨names, last, failed⟩ := stopped
    cases run.symm.trans failed

end HeaderBind.Scope
