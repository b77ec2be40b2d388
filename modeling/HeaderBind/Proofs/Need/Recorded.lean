/-
# HeaderBind.Proofs.Need.Recorded — what binding a callable records

`Run.Records` says that a computation, whenever it gives a value, has recorded its
user for exactly the tagged types of a set.  Needing a type records what the type
needs (`need_records`), and binding a callable records what its parameters and its
result demand (`bindCallable_records`), whatever the shape of the types: the walk
stops at a record that is being expanded, and loses nothing by it.
-/
import HeaderBind.Binding.Callable
import HeaderBind.Proofs.Need.Collection

namespace HeaderBind

set_option autoImplicit false

open Outcome

/-- Whenever the computation gives a value, it has recorded the user for exactly the
tagged types of the set. -/
def Run.Records {α : Type} (user : String) (types : Set NodeId) (x : Run α) : Prop :=
  ∀ ledger value after, x.run ledger = .ok value after →
    ∃ visited, (∀ id, id ∈ visited ↔ id ∈ types) ∧
      after.needs = ledger.needs.addAll visited user

namespace Run.Records

variable {α β : Type} {user : String} {types others : Set NodeId} {x : Run α}

theorem congr (h : x.Records user types) (same : types = others) : x.Records user others :=
  same ▸ h

theorem of_onlyNames (h : Keeps Ledger.OnlyNames x) : x.Records user ∅ :=
  fun _ _ _ done => ⟨[], by simp, (h.ok done).needs⟩

theorem fails {fault : Fault} : (throw fault : Run α).Records user types :=
  fun _ _ _ done => nomatch done

theorem bind {f : α → Run β} (first : x.Records user types)
    (rest : ∀ a, (f a).Records user others) : (x >>= f).Records user (types ∪ others) := by
  intro ledger value after done
  obtain ⟨a, middle, one, two⟩ := bind_ok_iff.1 done
  obtain ⟨visited, exactly, added⟩ := first ledger a middle one
  obtain ⟨more, exactlyMore, addedMore⟩ := rest a middle value after two
  refine ⟨visited ++ more, fun id => ?_, ?_⟩
  · rw [List.mem_append, exactly, exactlyMore, Set.mem_union]
  · rw [addedMore, added, NeedTable.addAll_append]

/-- What comes after records nothing. -/
theorem then_names {f : α → Run β} (first : x.Records user types)
    (rest : ∀ a, Keeps Ledger.OnlyNames (f a)) : (x >>= f).Records user types :=
  (first.bind fun a => of_onlyNames (rest a)).congr (Set.union_empty types)

theorem mapM {f : α → Run β} {types : α → Set NodeId} {list : List α}
    (each : ∀ a ∈ list, (f a).Records user (types a)) :
    (list.mapM f).Records user {id | ∃ a ∈ list, id ∈ types a} := by
  induction list with
  | nil =>
    rw [List.mapM_nil]
    exact (of_onlyNames (Keeps.pure [])).congr (by simp)
  | cons a rest ih =>
    rw [List.mapM_cons]
    have others := ih fun b member => each b (List.mem_cons_of_mem a member)
    refine ((each a List.mem_cons_self).bind fun b =>
      others.then_names fun _ => Keeps.pure _).congr ?_
    ext id
    simp

end Run.Records

namespace Scope

variable {scope : Scope} {user : String}

/-- **Needing a type records exactly what it needs**, on cyclic types as well. -/
theorem need_records (type : TypeRef) (viaPointer : Bool) :
    (scope.need type user viaPointer).Records user {id | scope.Needs type id} := by
  intro ledger value after done
  have traverses : scope.Traverses user [] {id | ∃ passed, scope.LeadsTo type passed id}
      (scope.need type user viaPointer) :=
    traverses_collectArrival (fun _ => traverses_collectWithin) viaPointer type
  obtain ⟨visited, covers, added⟩ := traverses ledger after done
  refine ⟨visited, fun id => ?_, added⟩
  rw [covers.mem_iff, Set.mem_ofPred_eq, needs_iff]
  constructor
  · rintro ⟨first, ⟨passed, leads⟩, path⟩
    exact ⟨passed, first, leads, path⟩
  · rintro ⟨passed, first, leads, path⟩
    exact ⟨first, ⟨passed, leads⟩, path⟩

/-! ## Interface types -/

/-- A pointer demands what it points to if that is a pointer or a tagged type, and else
nothing. -/
theorem demands_pointer_iff {id target : NodeId} {pointee : TypeRef}
    (node : scope.graph.node? id = some (.pointer pointee)) :
    scope.Demands (some id) target ↔
      ((∃ inner, scope.graph.at? pointee = some (.pointer inner)) ∨
        ∃ tagged, scope.graph.at? pointee = some (.tagged tagged)) ∧
      scope.Needs pointee target := by
  constructor
  · rintro (⟨other, _⟩ | ⟨other, _⟩ | ⟨here, there, needs⟩ | ⟨here, there, needs⟩)
    · cases node.symm.trans other
    · cases node.symm.trans other
    · cases node.symm.trans here
      exact ⟨.inl ⟨_, there⟩, needs⟩
    · cases node.symm.trans here
      exact ⟨.inr ⟨_, there⟩, needs⟩
  · rintro ⟨kind, needs⟩
    cases pointee with
    | none => rcases kind with ⟨_, none⟩ | ⟨_, none⟩ <;> cases none
    | some next =>
      rcases kind with ⟨inner, there⟩ | ⟨tagged, there⟩
      · exact .pointerToPointer node there needs
      · exact .pointerToTagged node there needs

/-- A typedef name demands what it stands for in the end demands. -/
theorem demands_typedefName_iff {id target : NodeId} {name : String}
    (node : scope.graph.node? id = some (.typedefName name)) :
    scope.Demands (some id) target ↔ name ≠ scope.typedefs.marker ∧
      ∃ meaning, scope.finalMeaning name = .ok (.type meaning) ∧
        scope.Demands meaning target := by
  constructor
  · rintro (⟨here, other, means, demands⟩ | ⟨here, _⟩ | ⟨here, _⟩ | ⟨here, _⟩) <;>
      cases node.symm.trans here
    exact ⟨other, _, means, demands⟩
  · rintro ⟨other, meaning, means, demands⟩
    exact .typedefName node other means demands

theorem demands_tagged_iff {id target : NodeId} {type : TaggedType}
    (node : scope.graph.node? id = some (.tagged type)) :
    scope.Demands (some id) target ↔ scope.Needs (some id) target := by
  constructor
  · rintro (⟨here, _⟩ | ⟨_, needs⟩ | ⟨here, _⟩ | ⟨here, _⟩)
    · cases node.symm.trans here
    · exact needs
    · cases node.symm.trans here
    · cases node.symm.trans here
  · exact fun needs => .tagged node needs

theorem not_demands_builtin {id target : NodeId} {spelling : String}
    (node : scope.graph.node? id = some (.builtin spelling)) :
    ¬ scope.Demands (some id) target := by
  rintro (⟨here, _⟩ | ⟨here, _⟩ | ⟨here, _⟩ | ⟨here, _⟩) <;> cases node.symm.trans here

theorem ffiPointer_records {id : NodeId} {pointee : TypeRef}
    (node : scope.graph.node? id = some (.pointer pointee)) :
    (scope.ffiPointer (.needing scope user) pointee).Records user
      {target | scope.Demands (some id) target} := by
  have demanded : ((∃ inner, scope.graph.at? pointee = some (.pointer inner)) ∨
      ∃ tagged, scope.graph.at? pointee = some (.tagged tagged)) →
      {target | scope.Needs pointee target} = {target | scope.Demands (some id) target} := by
    intro kind
    ext target
    exact ((demands_pointer_iff node).trans (and_iff_right kind)).symm
  have silent : ¬ ((∃ inner, scope.graph.at? pointee = some (.pointer inner)) ∨
      ∃ tagged, scope.graph.at? pointee = some (.tagged tagged)) →
      ∅ = {target | scope.Demands (some id) target} := by
    intro kind
    refine (Set.eq_empty_iff_forall_notMem.2 fun target demands => kind ?_).symm
    exact ((demands_pointer_iff node).1 demands).1
  have done : Keeps Ledger.OnlyNames (pure .pointer : Run FfiType) := Keeps.pure _
  unfold ffiPointer
  split
  · rename_i isChar
    refine (Run.Records.of_onlyNames (Keeps.pure _)).congr (silent ?_)
    unfold TypeGraph.isConstChar at isChar
    rintro (⟨inner, there⟩ | ⟨tagged, there⟩) <;> simp [there] at isChar
  · split
    · rename_i inner there
      exact ((need_records pointee true).then_names fun _ => done).congr
        (demanded (.inl ⟨inner, there⟩))
    · rename_i tagged there
      exact ((need_records pointee true).then_names fun _ => done).congr
        (demanded (.inr ⟨tagged, there⟩))
    · rename_i noPointer noTagged
      refine (Run.Records.of_onlyNames ((Keeps.pure ()).bind fun _ => done)).congr (silent ?_)
      rintro (⟨inner, there⟩ | ⟨tagged, there⟩)
      · exact noPointer inner there
      · exact noTagged tagged there

theorem ffiMeaning_records {type : TypeRef}
    (final : scope.typedefs.nextName? scope.graph (.type type) = none) :
    (scope.ffiMeaning (.needing scope user) type user).Records user
      {target | scope.Demands type target} := by
  have silent : (∀ target, ¬ scope.Demands type target) →
      ∅ = {target | scope.Demands type target} := fun none =>
    (Set.eq_empty_iff_forall_notMem.2 none).symm
  cases type with
  | none => exact .fails
  | some id =>
    unfold ffiMeaning
    dsimp only
    split
    · exact .fails
    · rename_i name node
      refine (Run.Records.of_onlyNames (Keeps.pure _)).congr (silent fun target demands => ?_)
      have isMarker : name = scope.typedefs.marker := by
        simpa [TypedefTable.nextName?, TypeGraph.at?, node] using final
      exact ((demands_typedefName_iff node).1 demands).1 isMarker
    · rename_i pointee node
      exact ffiPointer_records node
    · rename_i tagged node
      refine ((need_records (some id) false).then_names fun _ => ?_).congr ?_
      · exact (scope.nameFor_onlyNames id).bind fun _ => Keeps.pure _
      · ext target
        exact (demands_tagged_iff node).symm
    · rename_i spelling node
      exact (Run.Records.of_onlyNames (Keeps.pure _)).congr (silent fun target =>
        not_demands_builtin node)
    · exact .fails
    · exact .fails

/-- The interface type of a parameter or result records what the type demands. -/
theorem neededFfiType_records (type : TypeRef) :
    (scope.neededFfiType type user).Records user {target | scope.Demands type target} := by
  unfold neededFfiType ffiType
  split
  · rename_i name there
    obtain ⟨id, rfl, node⟩ := Option.bind_eq_some_iff.1 there
    split
    · rename_i isMarker
      refine (Run.Records.of_onlyNames (Keeps.pure _)).congr ?_
      ext target
      simp [demands_typedefName_iff node, isMarker]
    · rename_i other
      cases means : scope.finalMeaning name with
      | error fault => exact fun _ _ _ done => nomatch done
      | ok meaning =>
        cases meaning with
        | variadic =>
          simp only [Run.ofExcept, pure_bind]
          refine (Run.Records.of_onlyNames (Keeps.pure _)).congr ?_
          ext target
          simp [demands_typedefName_iff node, means]
        | type meaning =>
          simp only [Run.ofExcept, pure_bind]
          refine (ffiMeaning_records (TypedefTable.nextName?_of_finalMeaning means)).congr ?_
          ext target
          simp [demands_typedefName_iff node, means, other]
  · rename_i noTypedef
    refine ffiMeaning_records ?_
    cases there : scope.graph.at? type with
    | none => simp [TypedefTable.nextName?, there]
    | some node =>
      cases node with
      | typedefName name => exact absurd there (noTypedef name)
      | _ => simp [TypedefTable.nextName?, there]

/-! ## Callables -/

/-- Binding the callable needs the tagged type. -/
def Reaches (scope : Scope) (callable : Callable) (id : NodeId) : Prop :=
  (∃ param ∈ callable.params, scope.Demands param id) ∨ scope.Demands callable.result id

theorem Reaches.tail {callable : Callable} {id next : NodeId} (h : scope.Reaches callable id)
    (met : scope.Next id next) : scope.Reaches callable next := by
  rcases h with ⟨param, isParam, demands⟩ | demands
  · exact .inl ⟨param, isParam, demands.tail met⟩
  · exact .inr (demands.tail met)

/-- **Binding a callable records it for exactly the tagged types that it reaches.** -/
theorem bindCallable_records (callable : Callable) (order : Int) :
    (scope.bindCallable callable order).Records callable.name {id | scope.Reaches callable id} := by
  unfold bindCallable
  refine ((Run.Records.mapM fun param _ => neededFfiType_records param).bind fun _ =>
    (neededFfiType_records callable.result).then_names fun _ => Keeps.pure _).congr ?_
  ext id
  rfl

end Scope

end HeaderBind
