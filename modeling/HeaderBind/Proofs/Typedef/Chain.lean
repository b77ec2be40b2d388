/-
# HeaderBind.Proofs.Typedef.Chain — chains of typedef names

`Next` relates a typedef name to the typedef name that is stored for it, unless that is the
variadic marker.  Following a chain of names ends where there is no next name
(`nextName?_of_finalMeaning`), and it reports a cycle only if some name leads back to itself
(`hasLoop_of_finalMeaning`): the bound on its length is never met, because the names on it are
distinct and all but the last are declared.
-/
import HeaderBind.Typedef.Meaning
import Mathlib.Data.List.Perm.Subperm
import Mathlib.Logic.Relation

namespace HeaderBind.TypedefTable

set_option autoImplicit false

open Relation

variable (table : TypedefTable) (graph : TypeGraph)

/-- The meaning is the typedef name `next`, and not the variadic marker. -/
def Names (meaning : Meaning) (next : String) : Prop :=
  ∃ ref, meaning = .type ref ∧ graph.at? ref = some (.typedefName next) ∧ next ≠ table.marker

/-- The typedef of `name` stands for the typedef name `next`. -/
def Next (name next : String) : Prop :=
  ∃ meaning, table.lookup name = some meaning ∧ table.Names graph meaning next

/-- Some name leads back to itself. -/
def HasLoop : Prop := ∃ name, TransGen (table.Next graph) name name

variable {table graph}

/-! ## One step -/

theorem nextName?_eq_some_iff {meaning : Meaning} {next : String} :
    table.nextName? graph meaning = some next ↔ table.Names graph meaning next := by
  constructor
  · intro step
    unfold nextName? at step
    split at step
    · cases step
    · split at step
      · rename_i name node
        split at step
        · cases step
        · rename_i other
          cases step
          exact ⟨_, rfl, node, other⟩
      · cases step
  · rintro ⟨ref, rfl, node, other⟩
    simp only [nextName?, node, if_neg other]

theorem nextName?_eq_none_iff {meaning : Meaning} :
    table.nextName? graph meaning = none ↔ ∀ next, ¬ table.Names graph meaning next := by
  simp only [← nextName?_eq_some_iff, Option.eq_none_iff_forall_ne_some, ne_eq]

theorem meaning_of_lookup {name : String} {meaning : Meaning}
    (found : table.lookup name = some meaning) : table.meaning name = .ok meaning := by
  simp only [TypedefTable.meaning, found]

theorem meaning_of_unknown {name : String} (lost : table.lookup name = none) :
    table.meaning name = .error (.unknownTypedef name) := by
  simp only [TypedefTable.meaning, lost]

/-- A name has no meaning only if no typedef declares it. -/
theorem fault_of_meaning {name : String} {fault : Fault}
    (h : table.meaning name = .error fault) : fault = .unknownTypedef name := by
  cases found : table.lookup name with
  | none =>
    cases (meaning_of_unknown found).symm.trans h
    rfl
  | some meaning => cases (meaning_of_lookup found).symm.trans h

theorem lookup_of_meaning {name : String} {meaning : Meaning}
    (h : table.meaning name = .ok meaning) : table.lookup name = some meaning := by
  cases found : table.lookup name with
  | none => cases (meaning_of_unknown found).symm.trans h
  | some held =>
    cases (meaning_of_lookup found).symm.trans h
    rfl

/-- A type that a name stands for is that of some typedef. -/
theorem mem_of_lookup {name : String} {type : TypeRef}
    (h : table.lookup name = some (.type type)) : (name, type) ∈ table.entries := by
  unfold lookup at h
  by_cases marker : name = table.marker
  · rw [if_pos marker] at h
    cases h
  · rw [if_neg marker] at h
    cases entry : table.entries.lookup name with
    | none =>
      rw [entry] at h
      cases h
    | some found =>
      rw [entry] at h
      cases h
      obtain ⟨front, rest, split, -⟩ := List.lookup_eq_some_iff.1 entry
      rw [split]
      exact List.mem_append_right front List.mem_cons_self

/-- Only a declared name has a next one: the marker has none. -/
theorem declared_of_next {name next : String} (h : table.Next graph name next) :
    name ∈ table.entries.map (·.1) := by
  obtain ⟨meaning, found, ref, rfl, -⟩ := h
  exact List.mem_map_of_mem (mem_of_lookup found)

/-! ## Chains -/

/-- The names before the last on a chain: each leads to the last, none is met twice. -/
structure Chain (table : TypedefTable) (graph : TypeGraph) (front : List String)
    (name : String) : Prop where
  leads : ∀ earlier ∈ front, TransGen (table.Next graph) earlier name
  nodup : (front ++ [name]).Nodup
  declared : ∀ earlier ∈ front, earlier ∈ table.entries.map (·.1)

namespace Chain

variable {front : List String} {name next : String}

theorem single (name : String) : Chain table graph [] name :=
  ⟨by simp, by simp, by simp⟩

theorem step (chain : Chain table graph front name) (h : table.Next graph name next)
    (fresh : next ∉ front ++ [name]) : Chain table graph (front ++ [name]) next := by
  refine ⟨fun earlier member => ?_, ?_, fun earlier member => ?_⟩
  · rcases List.mem_append.1 member with member | member
    · exact (chain.leads earlier member).tail h
    · rw [List.mem_singleton.1 member]
      exact .single h
  · exact List.nodup_append.2 ⟨chain.nodup, by simp, fun a member b last same =>
      fresh (List.mem_singleton.1 last ▸ same ▸ member)⟩
  · rcases List.mem_append.1 member with member | member
    · exact chain.declared earlier member
    · rw [List.mem_singleton.1 member]
      exact declared_of_next h

theorem hasLoop (chain : Chain table graph front name) (h : table.Next graph name next)
    (met : next ∈ front ++ [name]) : table.HasLoop graph := by
  rcases List.mem_append.1 met with met | met
  · exact ⟨next, (chain.leads next met).tail h⟩
  · rw [List.mem_singleton.1 met] at h
    exact ⟨name, .single h⟩

theorem length_le (chain : Chain table graph front name) :
    front.length ≤ table.entries.length := by
  have distinct : front.Nodup := (List.nodup_append.1 chain.nodup).1
  have := (List.subperm_of_subset distinct chain.declared).length_le
  rwa [List.length_map] at this

end Chain

/-- A chain is followed to its end or back into itself, as no chain is longer than the
table. -/
theorem follow_cycle {fuel : Nat} {front : List String} {name : String} {names : List String}
    (chain : Chain table graph front name)
    (enough : table.entries.length < front.length + fuel)
    (h : table.follow graph fuel (front ++ [name]) name = .error (.cycle names)) :
    table.HasLoop graph := by
  induction fuel generalizing front name with
  | zero =>
    have := chain.length_le
    omega
  | succ fuel ih =>
    rw [follow] at h
    cases found : table.meaning name with
    | error fault =>
      rw [found] at h
      cases h
      cases fault_of_meaning found
    | ok meaning =>
      rw [found] at h
      cases step : table.nextName? graph meaning with
      | none => simp [step] at h
      | some next =>
        have one : table.Next graph name next :=
          ⟨meaning, lookup_of_meaning found, nextName?_eq_some_iff.1 step⟩
        by_cases met : next ∈ front ++ [name]
        · exact chain.hasLoop one met
        · simp only [step, met, if_false] at h
          refine ih (chain.step one met) ?_ h
          rw [List.length_append, List.length_singleton]
          omega

/-- **A reported cycle is one**: some typedef name leads back to itself. -/
theorem hasLoop_of_finalMeaning {name : String} {names : List String}
    (h : table.finalMeaning graph name = .error (.cycle names)) : table.HasLoop graph :=
  follow_cycle (.single name) (by simp) h

theorem nextName?_of_follow {fuel : Nat} {chain : List String} {name : String}
    {meaning : Meaning} (h : table.follow graph fuel chain name = .ok meaning) :
    table.nextName? graph meaning = none := by
  induction fuel generalizing chain name with
  | zero => cases h
  | succ fuel ih =>
    rw [follow] at h
    cases found : table.meaning name with
    | error fault => simp [found] at h
    | ok held =>
      rw [found] at h
      cases step : table.nextName? graph held with
      | none =>
        simp only [step] at h
        cases h
        exact step
      | some next =>
        simp only [step] at h
        split at h
        · cases h
        · exact ih h

/-- What a name stands for in the end has no next name. -/
theorem nextName?_of_finalMeaning {name : String} {meaning : Meaning}
    (h : table.finalMeaning graph name = .ok meaning) : table.nextName? graph meaning = none :=
  nextName?_of_follow h

theorem mem_of_follow {fuel : Nat} {chain : List String} {name : String} {type : TypeRef}
    (h : table.follow graph fuel chain name = .ok (.type type)) :
    ∃ last, (last, type) ∈ table.entries := by
  induction fuel generalizing chain name with
  | zero => cases h
  | succ fuel ih =>
    rw [follow] at h
    cases found : table.meaning name with
    | error fault => simp [found] at h
    | ok held =>
      rw [found] at h
      cases step : table.nextName? graph held with
      | none =>
        simp only [step] at h
        cases h
        exact ⟨name, mem_of_lookup (lookup_of_meaning found)⟩
      | some next =>
        simp only [step] at h
        split at h
        · cases h
        · exact ih h

/-- The marker stands for the rest of an argument list. -/
theorem finalMeaning_marker : table.finalMeaning graph table.marker = .ok .variadic := by
  simp [finalMeaning, follow, TypedefTable.meaning, lookup_marker, nextName?]

/-- A chain of names always ends. -/
theorem follow_ne_endless {fuel : Nat} {chain : List String} {name : String} :
    table.follow graph fuel chain name ≠ .error .endless := by
  induction fuel generalizing chain name with
  | zero =>
    intro failed
    cases failed
  | succ fuel ih =>
    intro failed
    rw [follow] at failed
    cases found : table.meaning name with
    | error fault =>
      rw [found] at failed
      cases failed
      cases fault_of_meaning found
    | ok meaning =>
      rw [found] at failed
      cases step : table.nextName? graph meaning with
      | none => simp [step] at failed
      | some next =>
        simp only [step] at failed
        split at failed
        · cases failed
        · exact ih failed

end HeaderBind.TypedefTable
