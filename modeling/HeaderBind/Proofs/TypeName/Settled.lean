/-
# HeaderBind.Proofs.TypeName.Settled — a name that was asked for once stays

The name of a tagged type is its own, or else the first it was given.  So once a
type has a name, every later question gives that name (`nameFor_settles`,
`settledName?_kept`), whatever was named, needed or skipped in between.

`Ledger.OnlyNames` relates the ledgers before and after a computation that gives
names and notices and does nothing else; `Ledger.Grows` also admits needs.
-/
import HeaderBind.Proofs.Outcome
import HeaderBind.Run

namespace HeaderBind

set_option autoImplicit false

open Outcome

/-! ## Tables of names -/

namespace NameTable

/-- Every name given in the one table is given in the other. -/
def KeptIn (earlier later : NameTable) : Prop :=
  ∀ id name, earlier.find? id = some name → later.find? id = some name

theorem KeptIn.refl (names : NameTable) : names.KeptIn names := fun _ _ given => given

theorem KeptIn.trans {first second third : NameTable} (one : first.KeptIn second)
    (two : second.KeptIn third) : first.KeptIn third :=
  fun id name given => two id name (one id name given)

theorem keptIn_give (names : NameTable) (id : NodeId) (name : String) :
    names.KeptIn (names.give id name).2 := by
  intro other earlier given
  by_cases h : other = id
  · subst h
    simp [give, given]
  · rw [find?_give_ne names h]
    exact given

theorem keptIn_number (names : NameTable) (id : NodeId) (tag : Tag) :
    names.KeptIn (names.number id tag).2 :=
  keptIn_give { names with numbered := names.numbered + 1 } id _

theorem keptIn_nameFor (names : NameTable) (id : NodeId) (type : TaggedType) :
    names.KeptIn (names.nameFor id type).2 := by
  unfold nameFor
  split
  · exact .refl names
  · split
    · exact .refl names
    · exact keptIn_number names id type.tag

theorem numbered_give (names : NameTable) (id : NodeId) (name : String) :
    (names.give id name).2.numbered = names.numbered := by
  unfold give
  split
  · rfl
  · rfl

/-- What `nameFor` answers is the type's own name or the one it has been given by then. -/
theorem nameFor_eq (names : NameTable) (id : NodeId) (type : TaggedType) :
    type.ownName?.or ((names.nameFor id type).2.find? id) = some (names.nameFor id type).1 := by
  unfold nameFor
  cases own : type.ownName? with
  | some name => rfl
  | none =>
    cases given : names.find? id with
    | some name => simp [given]
    | none => exact find?_give_self { names with numbered := names.numbered + 1 } id _

end NameTable

/-! ## Ledgers -/

namespace Ledger

/-- Names and notices were added, and nothing else was done. -/
structure OnlyNames (earlier later : Ledger) : Prop where
  names : earlier.names.KeptIn later.names
  needs : later.needs = earlier.needs
  skipped : later.skipped = earlier.skipped

/-- Every name stays, and what was needed is needed still. -/
structure Extends (earlier later : Ledger) : Prop where
  names : earlier.names.KeptIn later.names
  needs : ∀ id, earlier.needs.contains id = true → later.needs.contains id = true

/-- Names, notices and needs were added, and no callable was skipped. -/
structure Grows (earlier later : Ledger) : Prop extends Extends earlier later where
  skipped : later.skipped = earlier.skipped

instance : Std.Refl OnlyNames := ⟨fun _ => ⟨.refl _, rfl, rfl⟩⟩

instance : IsTrans Ledger OnlyNames :=
  ⟨fun _ _ _ one two =>
    ⟨one.names.trans two.names, two.needs.trans one.needs, two.skipped.trans one.skipped⟩⟩

theorem Extends.refl (ledger : Ledger) : ledger.Extends ledger := ⟨.refl _, fun _ needed => needed⟩

theorem Extends.trans {first second third : Ledger} (one : first.Extends second)
    (two : second.Extends third) : first.Extends third :=
  ⟨one.names.trans two.names, fun id needed => two.needs id (one.needs id needed)⟩

instance : Std.Refl Extends := ⟨Extends.refl⟩

instance : IsTrans Ledger Extends := ⟨fun _ _ _ one two => one.trans two⟩

instance : Std.Refl Grows := ⟨fun ledger => ⟨.refl ledger, rfl⟩⟩

instance : IsTrans Ledger Grows :=
  ⟨fun _ _ _ one two => ⟨one.toExtends.trans two.toExtends, two.skipped.trans one.skipped⟩⟩

theorem OnlyNames.grows {earlier later : Ledger} (h : earlier.OnlyNames later) :
    earlier.Grows later := ⟨⟨h.names, fun id needed => by rwa [h.needs]⟩, h.skipped⟩

end Ledger

/-! ## Runs -/

namespace Run

theorem note_onlyNames (level : Level) (reporter : Reporter) (text : String) :
    Keeps Ledger.OnlyNames (note level reporter text) :=
  Keeps.modify fun _ => ⟨.refl _, rfl, rfl⟩

theorem note_succeeds (level : Level) (reporter : Reporter) (text : String) :
    Succeeds (note level reporter text) := Succeeds.modify _

theorem giveName_onlyNames (id : NodeId) (name : String) :
    Keeps Ledger.OnlyNames (giveName id name) :=
  Keeps.modifyGet fun ledger => ⟨ledger.names.keptIn_give id name, rfl, rfl⟩

theorem addNeed_grows (id : NodeId) (user : String) : Keeps Ledger.Grows (addNeed id user) :=
  Keeps.modify fun _ => ⟨⟨.refl _, fun _ needed => NeedTable.contains_add needed id user⟩, rfl⟩

theorem ofExcept_run {α : Type} (result : Except Fault α) (ledger : Ledger) :
    (ofExcept result).run ledger =
      match result with
      | .ok value => .ok value ledger
      | .error fault => .error fault ledger := by
  cases result <;> rfl

theorem ofExcept_keeps {α : Type} {R : Ledger → Ledger → Prop} [Std.Refl R]
    (result : Except Fault α) : Keeps R (ofExcept result) := by
  cases result with
  | ok value => exact Keeps.pure value
  | error fault => exact Keeps.throw fault

theorem ofExcept_ok_iff {α : Type} {result : Except Fault α} {value : α} {ledger after : Ledger} :
    (ofExcept result).run ledger = .ok value after ↔ result = .ok value ∧ after = ledger := by
  rw [ofExcept_run]
  cases result with
  | ok other => simp [eq_comm]
  | error fault => simp

theorem ofExcept_error_iff {α : Type} {result : Except Fault α} {fault : Fault}
    {ledger after : Ledger} :
    (ofExcept result).run ledger = .error fault after ↔
      result = .error fault ∧ after = ledger := by
  rw [ofExcept_run]
  cases result with
  | ok value => simp
  | error other => simp [eq_comm]

end Run

namespace Scope

variable (scope : Scope)

/-- The name that a tagged type has for good, if it has one yet. -/
def settledName? (names : NameTable) (id : NodeId) : Option String :=
  (scope.graph.tagged? id).bind fun type => type.ownName?.or (names.find? id)

theorem settledName?_kept {earlier later : NameTable} (kept : earlier.KeptIn later)
    {id : NodeId} {name : String} (settled : scope.settledName? earlier id = some name) :
    scope.settledName? later id = some name := by
  unfold settledName? at settled ⊢
  obtain ⟨type, tagged, named⟩ := Option.bind_eq_some_iff.1 settled
  rw [tagged, Option.bind_some]
  cases own : type.ownName? with
  | some other =>
    rw [own] at named
    exact named
  | none =>
    rw [own] at named
    exact kept id name named

theorem nameFor_onlyNames (id : NodeId) : Keeps Ledger.OnlyNames (scope.nameFor id) := by
  unfold nameFor
  split
  · exact Keeps.pure ""
  · exact Keeps.modifyGet fun ledger => ⟨ledger.names.keptIn_nameFor id _, rfl, rfl⟩

theorem nameFor_succeeds (id : NodeId) : Succeeds (scope.nameFor id) := by
  unfold nameFor
  split
  · exact Succeeds.pure ""
  · exact Succeeds.modifyGet _

/-- The name that a tagged type answers to is settled from then on. -/
theorem nameFor_settles {id : NodeId} {type : TaggedType} {name : String}
    {ledger after : Ledger} (tagged : scope.graph.tagged? id = some type)
    (run : (scope.nameFor id).run ledger = .ok name after) :
    scope.settledName? after.names id = some name := by
  unfold nameFor at run
  rw [tagged] at run
  cases run
  unfold settledName?
  rw [tagged, Option.bind_some]
  exact ledger.names.nameFor_eq id type

/-- To ask for a name keeps the relation, and so does a notice. -/
structure NamingKeeps (R : Ledger → Ledger → Prop) : Prop where
  nameFor : ∀ id, Keeps R (scope.nameFor id)
  note : ∀ level reporter text, Keeps R (Run.note level reporter text)

theorem naming_onlyNames : scope.NamingKeeps Ledger.OnlyNames :=
  ⟨scope.nameFor_onlyNames, Run.note_onlyNames⟩

variable {scope} in
theorem NamingKeeps.cycleThrough {R : Ledger → Ledger → Prop} [Std.Refl R] [IsTrans Ledger R]
    (keeps : scope.NamingKeeps R) (path : List NodeId) (id : NodeId) :
    Keeps R (scope.cycleThrough path id) := by
  unfold Scope.cycleThrough
  refine (Keeps.mapM fun other _ => keeps.nameFor other).bind fun names => ?_
  exact (keeps.nameFor id).bind fun last => Keeps.pure _

theorem cycleThrough_succeeds (path : List NodeId) (id : NodeId) :
    Succeeds (scope.cycleThrough path id) := by
  unfold cycleThrough
  refine (Succeeds.mapM fun other _ => scope.nameFor_succeeds other).bind fun names => ?_
  exact (scope.nameFor_succeeds id).bind fun last => Succeeds.pure _

/-- Records that lead back to one of them are reported as a cycle. -/
theorem cycle_of_cycleThrough {path : List NodeId} {id : NodeId} {fault : Fault}
    {ledger after : Ledger} (h : (scope.cycleThrough path id).run ledger = .ok fault after) :
    ∃ names, fault = .cycle names := by
  obtain ⟨names, middle, -, rest⟩ := bind_ok_iff.1 h
  obtain ⟨last, later, -, done⟩ := bind_ok_iff.1 rest
  obtain ⟨rfl, -⟩ := pure_ok_iff.1 done
  exact ⟨_, rfl⟩

end Scope

end HeaderBind
