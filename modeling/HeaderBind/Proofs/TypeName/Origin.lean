/-
# HeaderBind.Proofs.TypeName.Origin — where the names of types come from

Collecting and binding do two things to the table of names: the name of a tagged type is
asked for, and an unnamed type is named after the member that it is the type of
(`Scope.NameMove`).  So every given name was there at the beginning, or is the name of a
parent with a label, or is a numbered name; and the numbered types, in the order in which
they were numbered, are all different (`Scope.Account`).  One move preserves this
(`Account.move`), and so does any number of them (`Account.moves`).
-/
import HeaderBind.Proofs.Binding.Stages
import Mathlib.Data.List.Nodup
import Mathlib.Logic.Relation

namespace HeaderBind

set_option autoImplicit false

open Outcome Relation

namespace NameTable

/-- A name that is there after one was given was there before, or is the one given. -/
theorem find?_of_give {names : NameTable} {id other : NodeId} {name found : String}
    (h : (names.give id name).2.find? other = some found) :
    names.find? other = some found ∨ other = id ∧ names.find? id = none ∧ found = name := by
  by_cases same : other = id
  · subst same
    rw [find?_give_self, give] at h
    cases given : names.find? other with
    | some earlier =>
      rw [given] at h
      exact .inl h
    | none =>
      rw [given] at h
      cases h
      exact .inr ⟨rfl, rfl, rfl⟩
  · rw [find?_give_ne names same] at h
    exact .inl h

end NameTable

namespace Scope

variable (scope : Scope)

/-! ## Moves -/

/-- One thing that collecting and binding do to the names. -/
inductive NameMove : NameTable → NameTable → Prop
  | ask {names : NameTable} {id : NodeId} {type : TaggedType} :
      scope.graph.tagged? id = some type → NameMove names (names.nameFor id type).2
  | inPlace {names : NameTable} {parent child : NodeId} {label parentName : String} :
      scope.graph.Labels parent child label →
      scope.settledName? names parent = some parentName →
      NameMove names (names.give child (parentName ++ "_" ++ label)).2

variable {scope}

/-- Assembling types changes neither members nor names. -/
theorem NameMove.sameShape {other : Scope} (shape : scope.SameShape other)
    {earlier later : NameTable} (h : scope.NameMove earlier later) :
    other.NameMove earlier later := by
  cases h with
  | ask tagged => exact .ask ((shape.graph.tagged?_eq _).trans tagged)
  | inPlace labels named =>
    obtain ⟨members, member, index, held, place, isType, label, tagged, node, own⟩ := labels
    refine .inPlace ⟨members, member, index, (shape.graph.members?_eq _).trans held, place, isType,
      label, tagged, shape.graph.node?_eq_tagged node, own⟩ ?_
    rw [settledName?, shape.graph.tagged?_eq]
    exact named

variable (scope)

/-- Names were moved, and it is left aside what else was done. -/
def NamesMoved (earlier later : Ledger) : Prop :=
  ReflTransGen scope.NameMove earlier.names later.names

instance : Std.Refl scope.NamesMoved := ⟨fun _ => .refl⟩

instance : IsTrans Ledger scope.NamesMoved := ⟨fun _ _ _ one two => one.trans two⟩

theorem nameFor_moves (id : NodeId) : Keeps scope.NamesMoved (scope.nameFor id) := by
  unfold nameFor
  cases tagged : scope.graph.tagged? id with
  | none => exact Keeps.pure ""
  | some type => exact Keeps.modifyGet fun ledger => .single (.ask tagged)

/-- Collecting needs does nothing else to the names. -/
theorem collecting_moves : scope.CollectingKeeps scope.NamesMoved where
  nameFor := scope.nameFor_moves
  note _ _ _ := Keeps.modify fun _ => .refl
  nameInPlace parent child label labels := by
    obtain ⟨members, member, index, held, -⟩ := id labels
    obtain ⟨type, tagged, -⟩ := Option.bind_eq_some_iff.1 held
    intro ledger
    obtain ⟨parentName, middle, asked⟩ := scope.nameFor_succeeds parent ledger
    have first := (scope.nameFor_moves parent).ok asked
    have named := scope.nameFor_settles tagged asked
    rw [EStateM.run_bind, asked]
    exact first.tail (.inPlace labels named)
  addNeed _ _ := Keeps.modify fun _ => .refl

/-- A callable that is left out has moved names before. -/
theorem bindOrSkip_moves (skipUnsupported : Bool) (callable : Callable) (order : Int) :
    Keeps scope.NamesMoved (scope.bindOrSkip skipUnsupported callable order) := by
  have moves := scope.collecting_moves.bindCallable callable order
  intro ledger
  cases run : (scope.bindOrSkip skipUnsupported callable order).run ledger with
  | ok found after =>
    rcases bindOrSkip_ok run with ⟨binding, -, bound⟩ | ⟨rfl, -⟩
    · exact moves.ok bound
    · obtain ⟨fault, middle, failed, names⟩ := bindOrSkip_skipped run
      have moved := moves.error failed
      rw [NamesMoved, ← names] at moved
      exact moved
  | error fault after => exact moves.error (bindOrSkip_error run)

theorem bindAll_moves (skipUnsupported : Bool) (callables : List Callable) :
    Keeps scope.NamesMoved (scope.bindAll skipUnsupported callables) :=
  (Keeps.mapM fun place _ => scope.bindOrSkip_moves skipUnsupported place.1 place.2).bind
    fun _ => Keeps.pure _

/-! ## Accounts -/

/-- The name is that of a parent and the label of a member whose type this is. -/
def NamedInPlace (names : NameTable) (id : NodeId) (name : String) : Prop :=
  ∃ parent label parentName, scope.graph.Labels parent id label ∧
    scope.settledName? names parent = some parentName ∧ name = parentName ++ "_" ++ label

/-- Every given name is told: it is an early one, or made from a parent, or numbered.
`order` holds the numbered types in the order of their numbers. -/
structure Account (early : NodeId → Option String) (order : List NodeId) (names : NameTable) :
    Prop where
  distinct : order.Nodup
  length : order.length = names.numbered
  numbered : ∀ id ∈ order, ∃ type, scope.graph.tagged? id = some type ∧
    names.find? id = some (Identifier.numberedName type.tag.keyword (order.idxOf id + 1))
  told : ∀ id name, names.find? id = some name →
    early id = some name ∨ scope.NamedInPlace names id name ∨ id ∈ order

variable {scope} {early : NodeId → Option String} {order : List NodeId} {names : NameTable}

theorem NamedInPlace.kept {later : NameTable} (kept : names.KeptIn later) {id : NodeId}
    {name : String} (h : scope.NamedInPlace names id name) : scope.NamedInPlace later id name := by
  obtain ⟨parent, label, parentName, labels, named, rfl⟩ := h
  exact ⟨parent, label, parentName, labels, scope.settledName?_kept kept named, rfl⟩

namespace Account

/-- The names at the beginning need no account. -/
theorem start (names : NameTable) (none : names.numbered = 0) :
    scope.Account names.find? [] names where
  distinct := List.nodup_nil
  length := none.symm
  numbered _ member := absurd member List.not_mem_nil
  told _ _ given := .inl given

theorem inPlace (h : scope.Account early order names) {parent child : NodeId}
    {label parentName : String} (labels : scope.graph.Labels parent child label)
    (named : scope.settledName? names parent = some parentName) :
    scope.Account early order (names.give child (parentName ++ "_" ++ label)).2 := by
  have kept := names.keptIn_give child (parentName ++ "_" ++ label)
  refine ⟨h.distinct, h.length.trans (names.numbered_give child _).symm, ?_, ?_⟩
  · intro id member
    obtain ⟨type, tagged, given⟩ := h.numbered id member
    exact ⟨type, tagged, kept id _ given⟩
  · intro id name given
    rcases NameTable.find?_of_give given with earlier | ⟨rfl, -, rfl⟩
    · exact (h.told id name earlier).imp_right (.imp_left (NamedInPlace.kept kept))
    · exact .inr (.inl ⟨parent, label, parentName, labels, scope.settledName?_kept kept named, rfl⟩)

/-- A type that had no name is numbered after all that were numbered before. -/
theorem number (h : scope.Account early order names) {id : NodeId} {type : TaggedType}
    (tagged : scope.graph.tagged? id = some type) (nameless : names.find? id = none) :
    scope.Account early (order ++ [id]) (names.number id type.tag).2 := by
  have fresh : id ∉ order := by
    intro member
    obtain ⟨_, _, given⟩ := h.numbered id member
    cases nameless.symm.trans given
  have kept := names.keptIn_number id type.tag
  have last : (order ++ [id]).idxOf id = order.length := by
    rw [List.idxOf_append_of_notMem fresh, List.idxOf_cons_self, Nat.add_zero]
  refine ⟨List.nodup_append.2 ⟨h.distinct, List.nodup_singleton id, ?_⟩, ?_, ?_, ?_⟩
  · intro other member another isId same
    rw [same, List.mem_singleton.1 isId] at member
    exact fresh member
  · rw [List.length_append, h.length, NameTable.number, NameTable.numbered_give]
    rfl
  · intro other member
    rcases List.mem_append.1 member with member | isId
    · obtain ⟨otherType, there, given⟩ := h.numbered other member
      rw [List.idxOf_append_of_mem member]
      exact ⟨otherType, there, kept other _ given⟩
    · rw [List.mem_singleton.1 isId, last, h.length]
      refine ⟨type, tagged, ?_⟩
      rw [NameTable.number, NameTable.find?_give_self, NameTable.give]
      have still : NameTable.find? { names with numbered := names.numbered + 1 } id = none :=
        nameless
      rw [still]
  · intro other name given
    rcases NameTable.find?_of_give given with earlier | ⟨rfl, -, -⟩
    · refine (h.told other name earlier).imp_right (.imp (NamedInPlace.kept kept) ?_)
      exact List.mem_append_left [id]
    · exact .inr (.inr (List.mem_append_right order List.mem_cons_self))

/-- **What one move preserves.** -/
theorem move (h : scope.Account early order names) {later : NameTable}
    (step : scope.NameMove names later) : ∃ order, scope.Account early order later := by
  cases step with
  | inPlace labels named => exact ⟨order, h.inPlace labels named⟩
  | @ask id type tagged =>
    unfold NameTable.nameFor
    cases type.ownName? with
    | some own => exact ⟨order, h⟩
    | none =>
      cases given : names.find? id with
      | some name => exact ⟨order, h⟩
      | none => exact ⟨order ++ [id], h.number tagged given⟩

theorem moves (h : scope.Account early order names) {later : NameTable}
    (steps : ReflTransGen scope.NameMove names later) :
    ∃ order, scope.Account early order later := by
  induction steps with
  | refl => exact ⟨order, h⟩
  | tail _ step ih =>
    obtain ⟨between, account⟩ := ih
    exact account.move step

end Account

end Scope

end HeaderBind
