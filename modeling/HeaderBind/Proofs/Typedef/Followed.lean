/-
# HeaderBind.Proofs.Typedef.Followed — where following a typedef name ends

A chain of typedef names ends in one of three ways (`TypedefTable.Ends`): at a name that
stands for something that is no further name, at a name that no typedef declares, or where
the next name is on the chain already.  Following a name finds the way in which its chain
ends, and no other (`finalMeaning_eq_iff`), whatever typedefs were declared and in whatever
order; of those of one name the latest counts, and none counts for the variadic marker
(`followed_of_declared`).
-/
import HeaderBind.Proofs.Typedef.Chain
import HeaderBind.Proofs.Typedef.Declared
import Mathlib.Data.List.Induction

namespace HeaderBind

set_option autoImplicit false

open Relation

namespace TypedefTable

variable {table : TypedefTable} {graph : TypeGraph}

/-! ## Chains from a name -/

/-- The chain from the first name, through the names in front, to the last. -/
inductive Follows (table : TypedefTable) (graph : TypeGraph) :
    String → List String → String → Prop
  | refl (name : String) : Follows table graph name [] name
  | step {name next last : String} {front : List String} :
      table.Next graph name next → Follows table graph next front last →
      Follows table graph name (name :: front) last

/-- The chain from the first name comes to the last through distinct names. -/
structure ComesTo (table : TypedefTable) (graph : TypeGraph) (name : String)
    (front : List String) (last : String) : Prop where
  follows : table.Follows graph name front last
  nodup : (front ++ [last]).Nodup

/-- How the chain from a name ends. -/
inductive Ends (table : TypedefTable) (graph : TypeGraph) (name : String) :
    Except Fault Meaning → Prop
  /-- The last name stands for something that is no further name. -/
  | meaning {front : List String} {last : String} {meaning : Meaning} :
      table.ComesTo graph name front last → table.lookup last = some meaning →
      (∀ next, ¬ table.Names graph meaning next) → Ends table graph name (.ok meaning)
  /-- No typedef declares the last name. -/
  | unknown {front : List String} {last : String} :
      table.ComesTo graph name front last → table.lookup last = none →
      Ends table graph name (.error (.unknownTypedef last))
  /-- The name after the last one is on the chain. -/
  | cycle {front : List String} {last next : String} :
      table.ComesTo graph name front last → table.Next graph last next →
      next ∈ front ++ [last] → Ends table graph name (.error (.cycle (front ++ [last] ++ [next])))

namespace Follows

variable {name last next : String} {front : List String}

theorem concat (follows : table.Follows graph name front last) (h : table.Next graph last next) :
    table.Follows graph name (front ++ [last]) next := by
  induction follows with
  | refl name => exact .step h (.refl next)
  | step first _ ih => exact .step first (ih h)

theorem first_mem (follows : table.Follows graph name front last) : name ∈ front ++ [last] := by
  cases follows with
  | refl => exact List.mem_singleton_self name
  | step => exact List.mem_cons_self

theorem declared (follows : table.Follows graph name front last) :
    ∀ earlier ∈ front, earlier ∈ table.entries.map (·.1) := by
  induction follows with
  | refl name => exact fun _ member => absurd member List.not_mem_nil
  | step first _ ih => exact List.forall_mem_cons.2 ⟨declared_of_next first, ih⟩

end Follows

/-! ## What is found is how the chain ends -/

/-- By induction on the bound, which is never met: a chain of distinct names is no longer than
the table. -/
theorem ends_follow {fuel : Nat} {start : String} {front : List String} {name : String}
    (chain : Chain table graph front name) (follows : table.Follows graph start front name)
    (enough : table.entries.length < front.length + fuel) :
    table.Ends graph start (table.follow graph fuel (front ++ [name]) name) := by
  induction fuel generalizing front name with
  | zero =>
    have := chain.length_le
    omega
  | succ fuel ih =>
    have here : table.ComesTo graph start front name := ⟨follows, chain.nodup⟩
    rw [follow]
    cases found : table.lookup name with
    | none =>
      rw [meaning_of_unknown found]
      exact .unknown here found
    | some meaning =>
      rw [meaning_of_lookup found]
      dsimp only
      cases step : table.nextName? graph meaning with
      | none => exact .meaning here found (nextName?_eq_none_iff.1 step)
      | some next =>
        have one : table.Next graph name next := ⟨meaning, found, nextName?_eq_some_iff.1 step⟩
        dsimp only
        split
        · rename_i met
          exact .cycle here one met
        · rename_i fresh
          refine ih (chain.step one fresh) (follows.concat one) ?_
          rw [List.length_append, List.length_singleton]
          omega

theorem ends_finalMeaning (name : String) :
    table.Ends graph name (table.finalMeaning graph name) :=
  ends_follow (.single name) (.refl name) (by simp)

/-! ## The way in which a chain ends is found -/

/-- A chain of distinct names is followed to its last one. -/
theorem follow_of_follows {fuel : Nat} {before front : List String} {name last : String}
    (follows : table.Follows graph name front last) (nodup : (before ++ front ++ [last]).Nodup)
    (enough : front.length < fuel) :
    ∃ rest, table.follow graph fuel (before ++ [name]) name =
      table.follow graph (rest + 1) (before ++ front ++ [last]) last := by
  induction follows generalizing before fuel with
  | refl name =>
    obtain ⟨rest, rfl⟩ := Nat.exists_eq_add_of_lt enough
    exact ⟨rest, by simp⟩
  | @step name next last front one later ih =>
    obtain ⟨fuel, rfl⟩ : ∃ less, fuel = less + 1 := ⟨fuel - 1, by simp at enough; omega⟩
    obtain ⟨meaning, found, step⟩ := one
    have spread : before ++ name :: front ++ [last] = before ++ [name] ++ front ++ [last] := by
      simp
    have fresh : next ∉ before ++ [name] := by
      have apart : ((before ++ [name]) ++ (front ++ [last])).Nodup := by simpa using nodup
      exact fun member => (List.nodup_append.1 apart).2.2 next member next later.first_mem rfl
    obtain ⟨rest, rest_eq⟩ := @ih fuel (before ++ [name]) (spread ▸ nodup) (by simpa using enough)
    refine ⟨rest, ?_⟩
    rw [spread, ← rest_eq, follow, meaning_of_lookup found]
    simp only [nextName?_eq_some_iff.2 step, if_neg fresh]

theorem finalMeaning_of_comesTo {name last : String} {front : List String}
    (h : table.ComesTo graph name front last) :
    ∃ rest, table.finalMeaning graph name =
      table.follow graph (rest + 1) (front ++ [last]) last := by
  have distinct : front.Nodup := (List.nodup_append.1 h.nodup).1
  have short := (List.subperm_of_subset distinct h.follows.declared).length_le
  rw [List.length_map] at short
  exact @follow_of_follows _ _ (table.entries.length + 1) [] _ _ _ h.follows h.nodup (by omega)

/-- **Following a name finds how its chain ends**, and there is one way in which it does. -/
theorem finalMeaning_eq_iff {name : String} {result : Except Fault Meaning} :
    table.finalMeaning graph name = result ↔ table.Ends graph name result := by
  constructor
  · rintro rfl
    exact ends_finalMeaning name
  · intro ends
    cases ends with
    | meaning here found last =>
      obtain ⟨rest, same⟩ := finalMeaning_of_comesTo here
      rw [same, follow, meaning_of_lookup found]
      simp only [nextName?_eq_none_iff.2 last]
    | unknown here lost =>
      obtain ⟨rest, same⟩ := finalMeaning_of_comesTo here
      rw [same, follow, meaning_of_unknown lost]
    | cycle here one met =>
      obtain ⟨rest, same⟩ := finalMeaning_of_comesTo here
      obtain ⟨meaning, found, step⟩ := one
      rw [same, follow, meaning_of_lookup found]
      simp only [nextName?_eq_some_iff.2 step, if_pos met]

end TypedefTable

/-! ## Declared typedefs -/

namespace Workspace

/-- The workspace with the typedefs declared, one after the other. -/
def declareTypedefs (workspace : Workspace) (typedefs : List (String × TypeRef)) : Workspace :=
  typedefs.foldl (fun state typedef => state.declareTypedef typedef.1 typedef.2) workspace

theorem lookup_declareTypedef (workspace : Workspace) (name other : String) (type : TypeRef) :
    (workspace.declareTypedef name type).scope.typedefs.lookup other =
      if other = name ∧ name ≠ workspace.scope.typedefs.marker then some (.type type)
      else workspace.scope.typedefs.lookup other := by
  have unchanged := workspace.scope_nameByTypedef name type
  unfold declareTypedef
  split
  · rename_i isMarker
    rw [if_neg fun both => both.2 isMarker]
    rfl
  · rename_i notMarker
    show ((workspace.nameByTypedef name type).scope.typedefs.declare name type).lookup other = _
    rw [unchanged]
    by_cases same : other = name
    · rw [if_pos ⟨same, notMarker⟩, same, TypedefTable.lookup_declare_self notMarker]
    · rw [if_neg fun both => same both.1, TypedefTable.lookup_declare_ne _ same]

/-- A typedef changes neither the types nor the marker. -/
theorem declareTypedef_keeps (workspace : Workspace) (name : String) (type : TypeRef) :
    (workspace.declareTypedef name type).scope.graph = workspace.scope.graph ∧
      (workspace.declareTypedef name type).scope.typedefs.marker =
        workspace.scope.typedefs.marker := by
  have unchanged := workspace.scope_nameByTypedef name type
  unfold declareTypedef
  split
  · exact ⟨rfl, rfl⟩
  · show (workspace.nameByTypedef name type).scope.graph = _ ∧
      (workspace.nameByTypedef name type).scope.typedefs.marker = _
    rw [unchanged]
    exact ⟨rfl, rfl⟩

variable (graph : TypeGraph) (marker : String)

/-- What a name stands for once typedefs are declared: that of its latest typedef. -/
structure Declared (typedefs : List (String × TypeRef)) (workspace : Workspace) : Prop where
  sameGraph : workspace.scope.graph = graph
  sameMarker : workspace.scope.typedefs.marker = marker
  lookup : ∀ name, workspace.scope.typedefs.lookup name =
    if name = marker then some .variadic else (typedefs.reverse.lookup name).map .type

/-- By induction on the typedefs, the latest last. -/
theorem declared_declareTypedefs (typedefs : List (String × TypeRef)) :
    Declared graph marker typedefs ((Workspace.start graph marker).declareTypedefs typedefs) := by
  induction typedefs using List.reverseRecOn with
  | nil => exact ⟨rfl, rfl, fun _ => rfl⟩
  | append_singleton typedefs typedef ih =>
    obtain ⟨name, type⟩ := typedef
    have last : (Workspace.start graph marker).declareTypedefs (typedefs ++ [(name, type)]) =
        ((Workspace.start graph marker).declareTypedefs typedefs).declareTypedef name type := by
      rw [declareTypedefs, List.foldl_append]
      rfl
    obtain ⟨graph_eq, marker_eq⟩ := declareTypedef_keeps
      ((Workspace.start graph marker).declareTypedefs typedefs) name type
    rw [last]
    refine ⟨graph_eq.trans ih.sameGraph, marker_eq.trans ih.sameMarker, fun other => ?_⟩
    rw [lookup_declareTypedef, ih.lookup, ih.sameMarker, List.reverse_append,
      List.reverse_singleton, List.singleton_append, List.lookup_cons]
    by_cases same : other = name
    · subst same
      by_cases isMarker : other = marker <;> simp [isMarker]
    · have differ : (other == name) = false := by simpa using same
      rw [if_neg fun both => same both.1, differ]

end Workspace

/-- **What following a name gives after any typedefs.**  Of the typedefs of a name the latest
counts, and none counts for the variadic marker.  Following a name ends, in the one way in
which its chain ends: with what the last of distinct names stands for, with the fault that no
typedef declares the last of them, or with the cycle of the names on the chain and the one
that comes back. -/
theorem followed_of_declared (graph : TypeGraph) (marker : String)
    (typedefs : List (String × TypeRef)) :
    let scope := ((Workspace.start graph marker).declareTypedefs typedefs).scope
    (∀ name, scope.typedefs.lookup name =
      if name = marker then some .variadic else (typedefs.reverse.lookup name).map .type) ∧
    ∀ name result, scope.finalMeaning name = result ↔ scope.typedefs.Ends graph name result := by
  have declared := Workspace.declared_declareTypedefs graph marker typedefs
  refine ⟨declared.lookup, fun name result => ?_⟩
  rw [Scope.finalMeaning, declared.sameGraph]
  exact TypedefTable.finalMeaning_eq_iff

def chainTypes : TypeGraph := ⟨#[
  .builtin "int", .typedefName "word", .typedefName "count", .typedefName "nowhere",
  .typedefName "right", .typedefName "left", .typedefName "va"]⟩

/-- Typedefs of which `word` is declared twice and one tries to declare the marker. -/
def chainTypedefs : List (String × TypeRef) :=
  [("word", some ⟨0⟩), ("size", some ⟨1⟩), ("word", some ⟨2⟩), ("count", some ⟨0⟩),
    ("lost", some ⟨3⟩), ("left", some ⟨4⟩), ("right", some ⟨5⟩), ("args", some ⟨6⟩),
    ("va", some ⟨0⟩)]

/-- Chains that end at a type behind the latest `word`, at a name without a typedef, where they
come back, and at the marker. -/
theorem followed_of_declared_word :
    let scope := ((Workspace.start chainTypes "va").declareTypedefs chainTypedefs).scope
    let nowhere := "nowhere"
    (scope.typedefs.lookup "word" = some (.type (some ⟨2⟩)) ∧
      scope.typedefs.lookup "va" = some .variadic) ∧
    (scope.finalMeaning "size" = .ok (.type (some ⟨0⟩)) ∧
      scope.typedefs.Ends chainTypes "size" (.ok (.type (some ⟨0⟩)))) ∧
    (scope.finalMeaning "lost" = .error (.unknownTypedef nowhere) ∧
      scope.typedefs.Ends chainTypes "lost" (.error (.unknownTypedef nowhere))) ∧
    (scope.finalMeaning "left" = .error (.cycle ["left", "right", "left"]) ∧
      scope.typedefs.Ends chainTypes "left" (.error (.cycle ["left", "right", "left"]))) ∧
    scope.finalMeaning "args" = .ok (.type (some ⟨6⟩)) ∧
      scope.typedefs.Ends chainTypes "args" (.ok (.type (some ⟨6⟩))) := by
  obtain ⟨latest, ends⟩ := followed_of_declared chainTypes "va" chainTypedefs
  exact ⟨⟨latest "word", latest "va"⟩, ⟨rfl, (ends _ _).1 rfl⟩, ⟨rfl, (ends _ _).1 rfl⟩,
    ⟨rfl, (ends _ _).1 rfl⟩, rfl, (ends _ _).1 rfl⟩

end HeaderBind
