/-
# HeaderBind.Proofs.Ffi.TypedefName — what a typedef name changes in an interface type

`Unfolds depth first second` says that the two types are the same but for one typedef
name of the first, which stands behind `depth` pointers and for which the second has what
the name stands for in the end.

By itself or behind two or more pointers the name changes nothing: the two types have the
same interface type, and what they need or the fault they end with is the same.  Right
behind a single pointer it does.  That pointer looks at what it points to and no further:
it is a string if it points to `const char`, and it needs what it points to only if that is
a pointer or a tagged type.  A typedef name is none of these, so the pointer to it is opaque
and needs nothing, whatever the name stands for (`pointer_to_typedefName_needs_nothing`).

`neededFfiType_unfold` tells both, and when the two types agree all the same.
-/
import HeaderBind.Ffi.OfCType
import HeaderBind.Proofs.Need.Arrival
import HeaderBind.Proofs.Outcome

namespace HeaderBind

set_option autoImplicit false

open Outcome

/-- From a ledger the two computations give the same value and the same needs, or both end
with a fault. -/
def Run.Agree {α : Type} (first second : Run α) (ledger : Ledger) : Prop :=
  match first.run ledger, second.run ledger with
  | .ok a after, .ok b last => b = a ∧ last.needs = after.needs
  | .error _ _, .error _ _ => True
  | _, _ => False

/-- What gives a value at once agrees with what gives it and needs nothing new. -/
theorem Run.pure_agree_iff {α : Type} {a : α} {x : Run α} {ledger : Ledger} :
    Run.Agree (pure a) x ledger ↔
      ∃ after, x.run ledger = .ok a after ∧ after.needs = ledger.needs := by
  have given : (pure a : Run α).run ledger = .ok a ledger := rfl
  unfold Run.Agree
  rw [given]
  cases x.run ledger with
  | ok b after => simp
  | error fault after => simp

namespace Scope

variable (scope : Scope)

/-- The second type is the first one with a typedef name, `depth` pointers down, replaced by
what the name stands for in the end. -/
inductive Unfolds : Nat → NodeId → NodeId → Prop
  | typedefName {id target : NodeId} {name : String} {type : CType} :
      scope.graph.node? id = some (.typedefName name) → name ≠ scope.typedefs.marker →
      scope.finalMeaning name = .ok (.type (some target)) →
      scope.graph.node? target = some type → Unfolds 0 id target
  | pointer {depth : Nat} {first second next other : NodeId} :
      scope.graph.node? first = some (.pointer (some next)) →
      scope.graph.node? second = some (.pointer (some other)) →
      Unfolds depth next other → Unfolds (depth + 1) first second

/-- A pointer to the type asks for it: the type is a pointer or a tagged type itself. -/
def IsAsked (type : NodeId) : Prop :=
  (∃ pointee, scope.graph.node? type = some (.pointer pointee)) ∨
    ∃ tagged, scope.graph.node? type = some (.tagged tagged)

variable {scope} {user : String} {depth : Nat} {first second id target : NodeId} {name : String}

theorem Unfolds.there (h : scope.Unfolds depth first second) :
    (∃ type, scope.graph.at? (some first) = some type) ∧
      ∃ type, scope.graph.at? (some second) = some type := by
  cases h with
  | typedefName node _ _ there => exact ⟨⟨_, node⟩, _, there⟩
  | pointer node there _ => exact ⟨⟨_, node⟩, _, there⟩

/-- The two types lead to the same tagged type, or there is the same fault on the way. -/
theorem Unfolds.arrival_eq (h : scope.Unfolds depth first second) (passed : Bool) :
    scope.arrival user passed (some first) = scope.arrival user passed (some second) := by
  induction h generalizing passed with
  | typedefName node other means _ => exact arrival_typedefName passed node other means
  | pointer node there inner ih =>
    obtain ⟨⟨type, one⟩, other, two⟩ := inner.there
    rw [arrival_pointer passed node one, arrival_pointer passed there two]
    exact ih true

theorem Unfolds.need_eq (h : scope.Unfolds depth first second) (passed : Bool) :
    scope.need (some first) user passed = scope.need (some second) user passed := by
  unfold need collectArrival
  rw [h.arrival_eq passed]

/-! ## Interface types of pointers and typedef names -/

theorem neededFfiType_of_pointer {pointee : TypeRef}
    (node : scope.graph.node? id = some (.pointer pointee)) :
    scope.neededFfiType (some id) user = scope.ffiPointer (.needing scope user) pointee := by
  simp only [neededFfiType, ffiType, ffiMeaning, TypeGraph.at?, Option.bind_some, node]

/-- A typedef name has the interface type of what it stands for in the end. -/
theorem neededFfiType_of_typedefName (node : scope.graph.node? id = some (.typedefName name))
    (other : name ≠ scope.typedefs.marker)
    (means : scope.finalMeaning name = .ok (.type (some target))) :
    scope.neededFfiType (some id) user = scope.neededFfiType (some target) user := by
  have final := TypedefTable.nextName?_of_finalMeaning means
  simp only [TypedefTable.nextName?, TypeGraph.at?, Option.bind_some] at final
  simp only [neededFfiType, ffiType, TypeGraph.at?, Option.bind_some, node, other, if_false,
    means, Run.ofExcept, pure_bind]
  split
  · rename_i last there
    rw [there] at final
    have isMarker : last = scope.typedefs.marker := by simpa using final
    simp only [ffiMeaning, there, isMarker, if_true]
  · rfl

/-- A pointer to a type that it asks for needs that type and is opaque. -/
theorem ffiPointer_of_isAsked (demand : Demand) (asked : scope.IsAsked target) :
    scope.ffiPointer demand (some target) = (do demand (some target) true; return .pointer) := by
  rcases asked with ⟨pointee, node⟩ | ⟨tagged, node⟩ <;>
    simp [ffiPointer, TypeGraph.isConstChar, TypeGraph.at?, node]

/-- A pointer to anything else needs nothing: it is a string or it is opaque. -/
theorem ffiPointer_of_not_isAsked (demand : Demand) (unasked : ¬ scope.IsAsked target) :
    scope.ffiPointer demand (some target) =
      pure (if scope.graph.isConstChar (some target) then .string else .pointer) := by
  unfold ffiPointer
  split
  · rfl
  · simp only [TypeGraph.at?, Option.bind_some]
    split
    · rename_i pointee node
      exact absurd (.inl ⟨pointee, node⟩) unasked
    · rename_i tagged node
      exact absurd (.inr ⟨tagged, node⟩) unasked
    · rfl

theorem isConstChar_of_isAsked (asked : scope.IsAsked target) :
    scope.graph.isConstChar (some target) = false := by
  rcases asked with ⟨pointee, node⟩ | ⟨tagged, node⟩ <;>
    simp [TypeGraph.isConstChar, TypeGraph.at?, node]

theorem Unfolds.isAsked (h : scope.Unfolds (depth + 1) first second) :
    scope.IsAsked first ∧ scope.IsAsked second := by
  cases h with
  | pointer node there _ => exact ⟨.inl ⟨_, node⟩, .inl ⟨_, there⟩⟩

/-- A pointer to a typedef name is opaque and needs nothing. -/
theorem neededFfiType_of_pointer_typedefName
    (node : scope.graph.node? id = some (.pointer (some target)))
    (there : scope.graph.node? target = some (.typedefName name)) :
    scope.neededFfiType (some id) user = pure .pointer := by
  have unasked : ¬ scope.IsAsked target := by
    rintro (⟨pointee, found⟩ | ⟨tagged, found⟩) <;> cases there.symm.trans found
  rw [neededFfiType_of_pointer node, ffiPointer_of_not_isAsked _ unasked]
  simp [TypeGraph.isConstChar, TypeGraph.at?, there]

/-! ## The name by itself, behind one pointer, and further down -/

/-- The name by itself, or behind two or more pointers: it changes nothing. -/
theorem Unfolds.neededFfiType_eq (h : scope.Unfolds depth first second) (far : depth ≠ 1) :
    scope.neededFfiType (some first) user = scope.neededFfiType (some second) user := by
  cases h with
  | typedefName node other means _ => exact neededFfiType_of_typedefName node other means
  | @pointer depth _ _ next other node there inner =>
    rw [neededFfiType_of_pointer node, neededFfiType_of_pointer there]
    obtain ⟨less, rfl⟩ : ∃ less, depth = less + 1 := ⟨depth - 1, by omega⟩
    obtain ⟨one, two⟩ := inner.isAsked
    rw [ffiPointer_of_isAsked _ one, ffiPointer_of_isAsked _ two]
    have same : scope.need (some next) user true = scope.need (some other) user true :=
      inner.need_eq true
    simp only [Demand.needing, same]

/-- The name right behind a pointer: the pointer is opaque and needs nothing, and with what
the name stands for it agrees only if nothing follows from that either. -/
theorem Unfolds.agree_iff (h : scope.Unfolds 1 first second) (user : String) (ledger : Ledger) :
    (scope.neededFfiType (some first) user).run ledger = .ok .pointer ledger ∧
      ∃ target, scope.graph.node? second = some (.pointer (some target)) ∧
        (Run.Agree (scope.neededFfiType (some first) user)
            (scope.neededFfiType (some second) user) ledger ↔
          scope.graph.isConstChar (some target) = false ∧
            (scope.IsAsked target → ∃ after,
              (scope.need (some target) user true).run ledger = .ok () after ∧
                after.needs = ledger.needs)) := by
  cases h with
  | @pointer _ _ _ next target node there inner =>
    cases inner with
    | typedefName name _ _ _ =>
      have opaquePointer : scope.neededFfiType (some first) user = pure .pointer :=
        neededFfiType_of_pointer_typedefName node name
      rw [opaquePointer]
      refine ⟨rfl, target, there, ?_⟩
      rw [neededFfiType_of_pointer there, Run.pure_agree_iff]
      by_cases asked : scope.IsAsked target
      · rw [ffiPointer_of_isAsked _ asked, isConstChar_of_isAsked asked]
        simp only [bind_ok_iff, pure_ok_iff, Demand.needing, asked, true_and, forall_const]
        constructor
        · rintro ⟨after, ⟨⟨⟩, last, needed, rfl⟩, same⟩
          exact ⟨_, needed, same⟩
        · rintro ⟨after, needed, same⟩
          exact ⟨after, ⟨(), after, needed, rfl⟩, same⟩
      · rw [ffiPointer_of_not_isAsked _ asked]
        cases constant : scope.graph.isConstChar (some target) with
        | true => simp [FfiType.string, FfiType.pointer]
        | false => simp [asked]

/-- **What a typedef name changes.**  By itself or behind two or more pointers it changes
nothing.  Right behind a single pointer, the pointer is opaque and needs nothing, and it
agrees with a pointer to what the name stands for if and only if that is not `const char`
and, if it is a pointer or a tagged type, needing it succeeds and records nothing new. -/
theorem neededFfiType_unfold (h : scope.Unfolds depth first second) (user : String)
    (ledger : Ledger) :
    (depth ≠ 1 →
      scope.neededFfiType (some first) user = scope.neededFfiType (some second) user) ∧
    (depth = 1 → (scope.neededFfiType (some first) user).run ledger = .ok .pointer ledger ∧
      ∃ target, scope.graph.node? second = some (.pointer (some target)) ∧
        (Run.Agree (scope.neededFfiType (some first) user)
            (scope.neededFfiType (some second) user) ledger ↔
          scope.graph.isConstChar (some target) = false ∧
            (scope.IsAsked target → ∃ after,
              (scope.need (some target) user true).run ledger = .ok () after ∧
                after.needs = ledger.needs))) := by
  refine ⟨h.neededFfiType_eq, ?_⟩
  rintro rfl
  exact h.agree_iff user ledger

/-! ## A structure under two names -/

/-- `typedef struct point Point`, with pointers to `Point` and to `struct point`, and pointers
to these. -/
def pointScope : Scope where
  graph := ⟨#[
    .builtin "int",
    .tagged ⟨.struct, "point", some [⟨"x", some ⟨0⟩⟩], []⟩,
    .typedefName "Point",
    .pointer (some ⟨2⟩),
    .pointer (some ⟨1⟩),
    .pointer (some ⟨3⟩),
    .pointer (some ⟨4⟩)]⟩
  typedefs := (TypedefTable.seeded "va").declare "Point" (some ⟨1⟩)

theorem pointScope_unfolds : pointScope.Unfolds 1 ⟨3⟩ ⟨4⟩ ∧ pointScope.Unfolds 2 ⟨5⟩ ⟨6⟩ := by
  have means : pointScope.finalMeaning "Point" = .ok (.type (some ⟨1⟩)) := by decide +kernel
  have one : pointScope.Unfolds 1 ⟨3⟩ ⟨4⟩ :=
    .pointer rfl rfl (.typedefName rfl (by decide) means rfl)
  exact ⟨one, .pointer rfl rfl one⟩

/-- `Point **` and `struct point **` need the same. -/
theorem neededFfiType_unfold_point : pointScope.Unfolds 2 ⟨5⟩ ⟨6⟩ ∧
    pointScope.neededFfiType (some ⟨5⟩) "f" = pointScope.neededFfiType (some ⟨6⟩) "f" :=
  ⟨pointScope_unfolds.2, (neededFfiType_unfold pointScope_unfolds.2 "f" .empty).1 (by decide)⟩

/-- `Point *` needs nothing where `struct point *` needs the structure. -/
theorem pointer_to_typedefName_needs_nothing : pointScope.Unfolds 1 ⟨3⟩ ⟨4⟩ ∧
    (∃ after, (pointScope.neededFfiType (some ⟨3⟩) "f").run .empty = .ok .pointer after ∧
      after.needs.entries = []) ∧
    (∃ after, (pointScope.neededFfiType (some ⟨4⟩) "f").run .empty = .ok .pointer after ∧
      after.needs.entries = [(⟨1⟩, ["f"])]) ∧
    ¬ Run.Agree (pointScope.neededFfiType (some ⟨3⟩) "f")
      (pointScope.neededFfiType (some ⟨4⟩) "f") .empty := by
  have tested : gives (fun type after => decide (type = .pointer ∧
      after.needs.entries = [(⟨1⟩, ["f"])]))
      ((pointScope.neededFfiType (some ⟨4⟩) "f").run .empty) = true := by decide +kernel
  obtain ⟨type, after, done, shown⟩ := exists_of_gives tested
  obtain ⟨rfl, needs⟩ := of_decide_eq_true shown
  have nothing : (pointScope.neededFfiType (some ⟨3⟩) "f").run .empty = .ok .pointer .empty := rfl
  refine ⟨pointScope_unfolds.1, ⟨_, nothing, rfl⟩, ⟨after, done, needs⟩, ?_⟩
  intro agree
  simp only [Run.Agree, nothing, done] at agree
  have none : after.needs.entries = [] := congrArg NeedTable.entries agree.2
  rw [needs] at none
  cases none

end Scope

end HeaderBind
