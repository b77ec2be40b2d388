/-
# HeaderBind.Proofs.TypeName.Numbered — numbered types have different names

A table of names is written to by two calls: a name is given, or the name of a type is asked
for.  A question falls back on the next number if the type has no name of its own and none was
given.  So in any sequence of calls the types that fall back have the numbers one after
another, each its own one for good (`find?_of_fallbacks`), and numbers with different words
make different names (`numberedNames_distinct`).  All else that is done to the names of a run
comes down to such calls (`Workspace.exists_calls`).
-/
import HeaderBind.Proofs.Numeral.Phrase
import HeaderBind.Proofs.TypeName.Decided
import HeaderBind.Proofs.TypeName.Origin

namespace HeaderBind

set_option autoImplicit false

open Outcome Relation

/-! ## Calls -/

/-- One thing that may be done to a table of names. -/
inductive NameCall where
  /-- The type gets the name unless it was given one before. -/
  | give (id : NodeId) (name : String)
  /-- The name of the type is asked for. -/
  | ask (id : NodeId) (type : TaggedType)

namespace NameTable

/-- The table after a call. -/
def after (names : NameTable) : NameCall → NameTable
  | .give id name => (names.give id name).2
  | .ask id type => (names.nameFor id type).2

def afterAll (names : NameTable) (calls : List NameCall) : NameTable := calls.foldl after names

/-- The type that gets its name from the call because it has none of its own and none was
given. -/
def fallback? (names : NameTable) : NameCall → Option NodeId
  | .give _ _ => none
  | .ask id type => if type.ownName? = none ∧ names.find? id = none then some id else none

/-- The types that fall back in a sequence of calls, in order. -/
def fallbacks (names : NameTable) : List NameCall → List NodeId
  | [] => []
  | call :: calls => (names.fallback? call).toList ++ (names.after call).fallbacks calls

variable {names : NameTable} {call : NameCall} {calls : List NameCall} {id : NodeId}

theorem afterAll_append (names : NameTable) (calls more : List NameCall) :
    names.afterAll (calls ++ more) = (names.afterAll calls).afterAll more := List.foldl_append

theorem fallbacks_append (names : NameTable) (calls more : List NameCall) :
    names.fallbacks (calls ++ more) =
      names.fallbacks calls ++ (names.afterAll calls).fallbacks more := by
  induction calls generalizing names with
  | nil => rfl
  | cons call calls ih =>
    rw [List.cons_append, fallbacks, ih, fallbacks, List.append_assoc]
    rfl

theorem keptIn_after (names : NameTable) (call : NameCall) : names.KeptIn (names.after call) := by
  cases call with
  | give id name => exact names.keptIn_give id name
  | ask id type => exact names.keptIn_nameFor id type

theorem keptIn_afterAll (names : NameTable) (calls : List NameCall) :
    names.KeptIn (names.afterAll calls) :=
  foldl_related KeptIn KeptIn.refl KeptIn.trans keptIn_after calls names

/-- To ask for a name that is there changes nothing. -/
theorem nameFor_kept {type : TaggedType} (named : ¬(type.ownName? = none ∧ names.find? id = none)) :
    (names.nameFor id type).2 = names := by
  unfold nameFor
  split
  · rfl
  · rename_i unnamed
    split
    · rfl
    · rename_i nameless
      exact absurd ⟨unnamed, nameless⟩ named

/-- A call numbers no type, or the one that falls back. -/
theorem after_cases (names : NameTable) (call : NameCall) :
    (names.fallback? call = none ∧ (names.after call).numbered = names.numbered) ∨
    ∃ (id : NodeId) (tag : Tag), names.fallback? call = some id ∧ names.find? id = none ∧
      (names.after call).numbered = names.numbered + 1 ∧
      (names.after call).find? id =
        some (Identifier.numberedName tag.keyword (names.numbered + 1)) := by
  cases call with
  | give id name => exact .inl ⟨rfl, names.numbered_give id name⟩
  | ask id type =>
    by_cases falls : type.ownName? = none ∧ names.find? id = none
    · have numbers : names.nameFor id type = names.number id type.tag := by
        rw [nameFor, falls.1, falls.2]
      have still : NameTable.find? { names with numbered := names.numbered + 1 } id = none :=
        falls.2
      refine .inr ⟨id, type.tag, if_pos falls, falls.2, ?_, ?_⟩
      · rw [after, numbers]
        exact numbered_give { names with numbered := names.numbered + 1 } id _
      · rw [after, numbers, number, find?_give_self, give, still]
    · exact .inl ⟨if_neg falls, by rw [after, nameFor_kept falls]⟩

/-! ## Numbers in order -/

theorem find?_of_mem_fallbacks (member : id ∈ names.fallbacks calls) : names.find? id = none := by
  induction calls generalizing names with
  | nil => cases member
  | cons call calls ih =>
    rcases List.mem_append.1 member with first | later
    · rcases names.after_cases call with ⟨named, -⟩ | ⟨other, tag, falls, nameless, -⟩
      · rw [named] at first
        cases first
      · obtain rfl : id = other := by simpa [falls] using first
        exact nameless
    · have nameless := ih later
      cases given : names.find? id with
      | none => rfl
      | some name => cases nameless.symm.trans (names.keptIn_after call id name given)

/-- No type falls back twice. -/
theorem nodup_fallbacks (names : NameTable) (calls : List NameCall) :
    (names.fallbacks calls).Nodup := by
  induction calls generalizing names with
  | nil => exact List.nodup_nil
  | cons call calls ih =>
    rw [fallbacks]
    rcases names.after_cases call with ⟨named, -⟩ | ⟨id, tag, falls, -, -, given⟩
    · rw [named]
      exact ih (names.after call)
    · rw [falls]
      refine List.nodup_cons.2 ⟨fun again => ?_, ih (names.after call)⟩
      cases given.symm.trans (find?_of_mem_fallbacks again)

/-- **Every type that falls back raises the number by one.** -/
theorem numbered_afterAll (names : NameTable) (calls : List NameCall) :
    (names.afterAll calls).numbered = names.numbered + (names.fallbacks calls).length := by
  induction calls generalizing names with
  | nil => rfl
  | cons call calls ih =>
    show ((names.after call).afterAll calls).numbered = _
    rw [ih, fallbacks, List.length_append]
    rcases names.after_cases call with ⟨named, same⟩ | ⟨id, tag, falls, -, next, -⟩
    · rw [named, same, Option.toList_none, List.length_nil]
      omega
    · rw [falls, next, Option.toList_some, List.length_singleton]
      omega

/-- **The types that fall back have the numbers one after another**, for good. -/
theorem find?_of_fallbacks {i : Nat} (place : (names.fallbacks calls)[i]? = some id) :
    ∃ tag : Tag, (names.afterAll calls).find? id =
      some (Identifier.numberedName tag.keyword (names.numbered + i + 1)) := by
  -- Places are counted from the first call, numbers from the table it is made on.
  induction calls generalizing names i with
  | nil => simp [fallbacks] at place
  | cons call calls ih =>
    rw [fallbacks] at place
    show ∃ tag : Tag, ((names.after call).afterAll calls).find? id = _
    rcases names.after_cases call with ⟨named, same⟩ | ⟨other, tag, falls, -, next, given⟩
    · rw [named, Option.toList_none, List.nil_append] at place
      rw [← same]
      exact ih place
    · rw [falls, Option.toList_some, List.singleton_append] at place
      cases i with
      | zero =>
        obtain rfl : other = id := by simpa using place
        exact ⟨tag, keptIn_afterAll _ calls other _ given⟩
      | succ i =>
        rw [List.getElem?_cons_succ] at place
        obtain ⟨tag, given⟩ := ih place
        have number : names.numbered + 1 + i + 1 = names.numbered + (i + 1) + 1 := by omega
        rw [next, number] at given
        exact ⟨tag, given⟩

/-- As long as the numbers can be spelled, different types that fall back have different
names. -/
theorem names_of_fallbacks {one other : NodeId}
    (bound : (names.afterAll calls).numbered < Numeral.English.limit)
    (isOne : one ∈ names.fallbacks calls) (isOther : other ∈ names.fallbacks calls)
    (differ : one ≠ other) :
    ∃ nameOne nameOther, (names.afterAll calls).find? one = some nameOne ∧
      (names.afterAll calls).find? other = some nameOther ∧ nameOne ≠ nameOther := by
  obtain ⟨i, inOne, rfl⟩ := List.mem_iff_getElem.1 isOne
  obtain ⟨j, inOther, rfl⟩ := List.mem_iff_getElem.1 isOther
  obtain ⟨tagOne, givenOne⟩ := find?_of_fallbacks (List.getElem?_eq_getElem inOne)
  obtain ⟨tagOther, givenOther⟩ := find?_of_fallbacks (List.getElem?_eq_getElem inOther)
  refine ⟨_, _, givenOne, givenOther, fun same => differ ?_⟩
  rw [numbered_afterAll] at bound
  have numbers := Identifier.camelCase_numberedName_inj (by omega) (by omega)
    (congrArg Identifier.camelCase same)
  obtain rfl : i = j := by omega
  rfl

end NameTable

/-! ## What a run does to its names -/

/-- The calls ask for names of types that are tagged so in the graph. -/
def TypeGraph.AsksOf (graph : TypeGraph) (calls : List NameCall) : Prop :=
  ∀ id type, .ask id type ∈ calls → graph.tagged? id = some type

theorem TypeGraph.AsksOf.append {graph : TypeGraph} {calls more : List NameCall}
    (first : graph.AsksOf calls) (second : graph.AsksOf more) : graph.AsksOf (calls ++ more) := by
  intro id type member
  rcases List.mem_append.1 member with before | last
  · exact first id type before
  · exact second id type last

/-- A move is a call. -/
theorem Scope.call_of_move {scope : Scope} {earlier later : NameTable}
    (move : scope.NameMove earlier later) :
    ∃ call, later = earlier.after call ∧ scope.graph.AsksOf [call] := by
  cases move with
  | @ask id type tagged =>
    refine ⟨.ask id type, rfl, fun other otherType member => ?_⟩
    cases List.mem_singleton.1 member
    exact tagged
  | @inPlace parent child label parentName =>
    refine ⟨.give child (parentName ++ "_" ++ label), rfl, fun other otherType member => ?_⟩
    cases List.mem_singleton.1 member

theorem Scope.calls_of_moves {scope : Scope} {earlier later : NameTable}
    (moves : ReflTransGen scope.NameMove earlier later) :
    ∃ calls, later = earlier.afterAll calls ∧ scope.graph.AsksOf calls := by
  induction moves with
  | refl => exact ⟨[], rfl, fun _ _ member => absurd member List.not_mem_nil⟩
  | tail _ move ih =>
    obtain ⟨calls, rfl, asks⟩ := ih
    obtain ⟨call, rfl, asksLast⟩ := Scope.call_of_move move
    refine ⟨calls ++ [call], ?_, asks.append asksLast⟩
    rw [NameTable.afterAll_append]
    rfl

namespace Workspace

/-- To ask for the name of the type now is to number it. -/
def FallsBack (workspace : Workspace) (id : NodeId) : Prop :=
  ∃ type, workspace.scope.graph.tagged? id = some type ∧ type.ownName? = none ∧
    workspace.ledger.names.find? id = none

/-- What the steps do to the names is to make the calls, and a type whose name is asked for
when it falls back is one that falls back in the calls. -/
structure Calls (workspace : Workspace) (steps : List NamingStep) (calls : List NameCall) :
    Prop where
  names : (workspace.performAll steps).ledger.names = workspace.ledger.names.afterAll calls
  asks : workspace.scope.graph.AsksOf calls
  fallbacks : ∀ before id more, steps = before ++ .askName id :: more →
    (workspace.performAll before).FallsBack id → id ∈ workspace.ledger.names.fallbacks calls

/-- Typedefs only give names. -/
def GivesTo (earlier later : Workspace) : Prop :=
  ∃ given : List (NodeId × String), later.ledger.names =
    earlier.ledger.names.afterAll (given.map fun entry => .give entry.1 entry.2)

theorem GivesTo.refl (workspace : Workspace) : workspace.GivesTo workspace := ⟨[], rfl⟩

theorem GivesTo.trans {first second third : Workspace} (one : first.GivesTo second)
    (two : second.GivesTo third) : first.GivesTo third := by
  obtain ⟨given, same⟩ := one
  obtain ⟨more, done⟩ := two
  exact ⟨given ++ more, by rw [done, same, List.map_append, NameTable.afterAll_append]⟩

theorem declareTypedef_givesTo (workspace : Workspace) (name : String) (type : TypeRef) :
    workspace.GivesTo (workspace.declareTypedef name type) := by
  have named : workspace.GivesTo (workspace.nameByTypedef name type) := by
    unfold nameByTypedef
    split
    · exact .refl workspace
    · rename_i id
      split
      · exact ⟨[(id, name)], rfl⟩
      · exact .refl workspace
  unfold declareTypedef
  split
  · exact ⟨[], rfl⟩
  · exact named

theorem readTypedefs_givesTo (workspace : Workspace) (declarations : List ExternalDeclaration) :
    workspace.GivesTo (workspace.readTypedefs declarations) :=
  readTypedefs_related GivesTo.refl GivesTo.trans (fun _ _ => ⟨[], rfl⟩) declareTypedef_givesTo
    workspace declarations

/-- What is done in the scope leaves the ledger that the computation leaves. -/
theorem left_inScope {α : Type} (computation : Scope → Run α) (workspace : Workspace) :
    left ((Work.inScope computation).run workspace) =
      { workspace with ledger := left ((computation workspace.scope).run workspace.ledger) } := by
  show left (Work.inScope computation workspace) = _
  unfold Work.inScope
  cases (computation workspace.scope).run workspace.ledger <;> rfl

theorem left_dropped {α : Type} (work : Work α) (workspace : Workspace) :
    left ((do let _ ← work : Work Unit).run workspace) = left (work.run workspace) := by
  rw [EStateM.run_bind]
  cases work.run workspace <;> rfl

variable {workspace : Workspace}

theorem calls_of_moved {α : Type} {computation : Scope → Run α}
    (moves : ∀ scope, Keeps scope.NamesMoved (computation scope)) (workspace : Workspace) :
    ∃ calls, (left ((Work.inScope computation).run workspace)).ledger.names =
        workspace.ledger.names.afterAll calls ∧
      workspace.scope.graph.AsksOf calls := by
  rw [left_inScope]
  exact Scope.calls_of_moves (moves workspace.scope workspace.ledger)

theorem calls_of_given {later : Workspace} (gives : workspace.GivesTo later) :
    ∃ calls, later.ledger.names = workspace.ledger.names.afterAll calls ∧
      workspace.scope.graph.AsksOf calls := by
  obtain ⟨given, same⟩ := gives
  refine ⟨_, same, fun id type member => ?_⟩
  obtain ⟨entry, -, isGive⟩ := List.mem_map.1 member
  cases isGive

/-- **What one step does to the names comes down to calls.** -/
theorem exists_step_calls (workspace : Workspace) (step : NamingStep) :
    ∃ calls, (workspace.perform step).ledger.names = workspace.ledger.names.afterAll calls ∧
      workspace.scope.graph.AsksOf calls := by
  have dropped : ∀ {α : Type} {computation : Scope → Run α},
      (∀ scope, Keeps scope.NamesMoved (computation scope)) →
        ∃ calls, (left ((do let _ ← Work.inScope computation : Work Unit).run
            workspace)).ledger.names = workspace.ledger.names.afterAll calls ∧
          workspace.scope.graph.AsksOf calls := fun moves => by
    rw [left_dropped]
    exact calls_of_moved moves workspace
  have collecting := fun scope : Scope => scope.collecting_moves
  have naming := fun scope : Scope => (collecting scope).toNamingKeeps
  cases step with
  | declareTypedef name type => exact calls_of_given (workspace.declareTypedef_givesTo name type)
  | readTypedefs declarations => exact calls_of_given (workspace.readTypedefs_givesTo declarations)
  | giveName id name =>
    refine ⟨[.give id name], ?_, fun other type member => ?_⟩
    · rw [perform, NamingStep.work, left_dropped, left_inScope]
      rfl
    · cases List.mem_singleton.1 member
  | askName id => exact dropped fun scope => scope.nameFor_moves id
  | need type user viaPointer =>
    exact calls_of_moved (fun scope => (collecting scope).need user type viaPointer) workspace
  | needMembers record user =>
    exact calls_of_moved (fun scope => (collecting scope).needMembers user record) workspace
  | neededFfiType type user => exact dropped fun scope => (collecting scope).neededFfiType type user
  | knownFfiType type user => exact dropped fun scope => (naming scope).knownFfiType type user
  | bindEnums => exact dropped fun scope => (naming scope).bindEnums
  | bindRecords => exact dropped fun scope => (naming scope).bindRecords
  | useNeeds needs => exact ⟨[], rfl, fun _ _ member => absurd member List.not_mem_nil⟩

/-- To ask for a name is one call. -/
theorem perform_askName {id : NodeId} {type : TaggedType}
    (tagged : workspace.scope.graph.tagged? id = some type) :
    (workspace.perform (.askName id)).ledger.names =
      workspace.ledger.names.afterAll [.ask id type] := by
  rw [perform, NamingStep.work, left_dropped, left_inScope]
  unfold Scope.nameFor
  rw [tagged]
  rfl

/-- A step as calls, the type among them that falls back if the step asks for its name. -/
theorem exists_calls_single (workspace : Workspace) (step : NamingStep) :
    ∃ calls, (workspace.perform step).ledger.names = workspace.ledger.names.afterAll calls ∧
      workspace.scope.graph.AsksOf calls ∧
      ∀ id, step = .askName id → workspace.FallsBack id →
        id ∈ workspace.ledger.names.fallbacks calls := by
  by_cases asked : ∃ id, step = .askName id ∧ workspace.FallsBack id
  · obtain ⟨id, rfl, type, tagged, unnamed, nameless⟩ := asked
    refine ⟨[.ask id type], perform_askName tagged, ?_, ?_⟩
    · intro other otherType member
      cases List.mem_singleton.1 member
      exact tagged
    · intro other same _
      cases same
      simp [NameTable.fallbacks, NameTable.fallback?, unnamed, nameless]
  · obtain ⟨calls, names, asks⟩ := workspace.exists_step_calls step
    exact ⟨calls, names, asks, fun id isAsk falls => absurd ⟨id, isAsk, falls⟩ asked⟩

/-- **Whatever is done to the names of a run comes down to calls.** -/
theorem exists_calls (workspace : Workspace) (steps : List NamingStep) :
    ∃ calls, workspace.Calls steps calls := by
  induction steps generalizing workspace with
  | nil =>
    refine ⟨[], rfl, fun _ _ member => absurd member List.not_mem_nil,
      fun before id more split => ?_⟩
    simp at split
  | cons step steps ih =>
    obtain ⟨first, names, asks, falls⟩ := workspace.exists_calls_single step
    obtain ⟨rest, others⟩ := ih (workspace.perform step)
    have graph := (work_keepsNames step workspace).graph
    have asksRest : workspace.scope.graph.AsksOf rest := fun id type member =>
      (graph.tagged?_eq id).symm.trans (others.asks id type member)
    refine ⟨first ++ rest, ?_, asks.append asksRest, fun before id more split fallsBack => ?_⟩
    · rw [NameTable.afterAll_append, ← names]
      exact others.names
    · rw [NameTable.fallbacks_append, ← names]
      -- The question is the first step, or one of those after it.
      cases before with
      | nil =>
        exact List.mem_append_left _ (falls id (List.cons.inj split).1 fallsBack)
      | cons start before =>
        obtain ⟨rfl, later⟩ := List.cons.inj split
        exact List.mem_append_right _ (others.fallbacks before id more later fallsBack)

end Workspace

/-- **Numbered names never clash.**  A number below the limit is told by the words that are left
when everything but the small letters of its phrase is an underscore, whatever the tags are.
In every sequence of calls on a table, each type that falls back does so once and raises the
number by one; so different ones have different names, as long as the number stays below the
limit.  And everything that is done to the names of a run is such a sequence. -/
theorem numberedNames_distinct :
    (∀ (tag : Tag) (n : Nat), n < Numeral.English.limit →
      Identifier.numberedName tag.keyword n = "anonymous_" ++ tag.keyword ++ "_" ++
        Numeral.English.underscored (Numeral.English.phrase n)) ∧
    (∀ (tag other : Tag) (m n : Nat), m < n → n < Numeral.English.limit →
      Identifier.numberedName tag.keyword m ≠ Identifier.numberedName other.keyword n) ∧
    (∀ (names : NameTable) (calls : List NameCall),
      (names.fallbacks calls).Nodup ∧
      (names.afterAll calls).numbered = names.numbered + (names.fallbacks calls).length ∧
      ((names.afterAll calls).numbered < Numeral.English.limit →
        ∀ one ∈ names.fallbacks calls, ∀ other ∈ names.fallbacks calls, one ≠ other →
          ∃ nameOne nameOther, (names.afterAll calls).find? one = some nameOne ∧
            (names.afterAll calls).find? other = some nameOther ∧ nameOne ≠ nameOther)) ∧
    ∀ (workspace : Workspace) (steps : List NamingStep), ∃ calls, workspace.Calls steps calls := by
  refine ⟨fun tag n bound => ?_, fun tag other m n less bound same => ?_, ?_,
    Workspace.exists_calls⟩
  · rw [Numeral.English.underscored, Numeral.English.letterRuns_phrase bound]
    rfl
  · have equal := Identifier.camelCase_numberedName_inj (Nat.lt_trans less bound) bound
      (congrArg Identifier.camelCase same)
    omega
  · intro names calls
    refine ⟨names.nodup_fallbacks calls, names.numbered_afterAll calls, ?_⟩
    intro bound one isOne other isOther differ
    exact NameTable.names_of_fallbacks bound isOne isOther differ

/-- A struct and a union without names. -/
def unnamedPair : TypeGraph := ⟨#[
  .tagged ⟨.struct, none, some [], []⟩,
  .tagged ⟨.union, none, some [], []⟩]⟩

/-- Both are asked for, and a name that is given too late changes nothing. -/
theorem numberedNames_distinct_pair :
    Identifier.numberedName Tag.struct.keyword 1 ≠ Identifier.numberedName Tag.union.keyword 21 ∧
    ∃ calls, (Workspace.start unnamedPair "va").Calls
        [.askName ⟨0⟩, .giveName ⟨0⟩ "late", .askName ⟨1⟩] calls ∧
      ∃ nameOne nameOther, (NameTable.empty.afterAll calls).find? ⟨0⟩ = some nameOne ∧
        (NameTable.empty.afterAll calls).find? ⟨1⟩ = some nameOther ∧ nameOne ≠ nameOther := by
  obtain ⟨-, numbers, names, run⟩ := numberedNames_distinct
  obtain ⟨calls, made⟩ := run (.start unnamedPair "va")
    [.askName ⟨0⟩, .giveName ⟨0⟩ "late", .askName ⟨1⟩]
  have first : ⟨0⟩ ∈ NameTable.empty.fallbacks calls :=
    made.fallbacks [] ⟨0⟩ _ rfl ⟨⟨.struct, none, some [], []⟩, rfl, rfl, rfl⟩
  have second : ⟨1⟩ ∈ NameTable.empty.fallbacks calls :=
    made.fallbacks [.askName ⟨0⟩, .giveName ⟨0⟩ "late"] ⟨1⟩ [] rfl
      ⟨⟨.union, none, some [], []⟩, rfl, rfl, by decide +kernel⟩
  have few : (NameTable.empty.afterAll calls).numbered < Numeral.English.limit := by
    have same : (NameTable.empty.afterAll calls).numbered = 2 := by
      refine (congrArg NameTable.numbered made.names.symm).trans ?_
      decide +kernel
    rw [same]
    decide +kernel
  exact ⟨numbers .struct .union 1 21 (by decide) (by decide +kernel), calls, made,
    (names .empty calls).2.2 few ⟨0⟩ first ⟨1⟩ second (by decide)⟩

end HeaderBind
