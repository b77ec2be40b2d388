/-
# HeaderBind.Proofs.Ffi.Agreement — an interface type with and without needs

Signatures record what they need while their types are found, members of records do not.
Both find the same interface types.  The one that records expands all that a tagged type
uses, and names unnamed types on the way, before it asks for the name of the type itself.
But the first thing that an expansion asks for is the name of the record it expands
(`expansion_asksFirst`), so whatever is named afterwards, numbered names included, that name
is the one that the record would have answered to at once (`need_keeps_answer`).

`knownFfiType_of_neededFfiType` says so for every type, from every state.
-/
import HeaderBind.Proofs.Binding.Kept

namespace HeaderBind

set_option autoImplicit false

open Outcome

/-! ## What an expansion asks for first -/

namespace TypeGraph

/-- The step asks for the name of the record before anything else. -/
def AsksFor (record : NodeId) (step : ExpansionStep) : Prop :=
  step = .enter record ∨ step = .declaredOnly record

theorem expansion_asksFirst (graph : TypeGraph) (user : String) (record : NodeId) :
    ∃ first rest, (graph.expansion user record).items = first :: rest ∧
      AsksFor record first := by
  unfold expansion
  rw [expansionWithin]
  cases graph.members? record with
  | none => exact ⟨.declaredOnly record, [], rfl, .inr rfl⟩
  | some members => exact ⟨.enter record, _, rfl, .inl rfl⟩

end TypeGraph

namespace Scope

variable {scope : Scope} {user : String} {id : NodeId} {type : TaggedType}
  {ledger after : Ledger}

/-! ## Names that were asked for -/

/-- To ask for the name of a tagged type asks the table of names only. -/
theorem nameFor_run (tagged : scope.graph.tagged? id = some type) (ledger : Ledger) :
    (scope.nameFor id).run ledger =
      .ok (ledger.names.nameFor id type).1
        { ledger with names := (ledger.names.nameFor id type).2 } := by
  unfold Scope.nameFor
  rw [tagged]
  rfl

/-- A name that was asked for is the answer as long as it is kept. -/
theorem nameFor_kept {middle : Ledger} {name : String}
    (tagged : scope.graph.tagged? id = some type)
    (asked : (scope.nameFor id).run ledger = .ok name middle)
    (kept : middle.names.KeptIn after.names) :
    (scope.nameFor id).run after = .ok name after := by
  have settled := scope.settledName?_kept kept (scope.nameFor_settles tagged asked)
  unfold settledName? at settled
  rw [tagged, Option.bind_some] at settled
  have unchanged : after.names.nameFor id type = (name, after.names) := by
    unfold NameTable.nameFor
    cases own : type.ownName? with
    | some other =>
      rw [own] at settled
      cases settled
      rfl
    | none =>
      rw [own, Option.none_or] at settled
      rw [settled]
  rw [nameFor_run tagged, unchanged]

/-- The step asks for the name, and what else it does keeps names. -/
theorem performStep_asks {collect : Arrival → Run Unit} {step : ExpansionStep}
    (asks : TypeGraph.AsksFor id step)
    (done : (scope.performStep user collect step).run ledger = .ok () after) :
    ∃ name middle, (scope.nameFor id).run ledger = .ok name middle ∧
      middle.names.KeptIn after.names := by
  rcases asks with rfl | rfl
  · obtain ⟨name, middle, asked, rest⟩ := bind_ok_iff.1 done
    obtain ⟨-, rfl⟩ := pure_ok_iff.1 rest
    exact ⟨name, _, asked, .refl _⟩
  · obtain ⟨name, middle, asked, rest⟩ := bind_ok_iff.1 done
    exact ⟨name, middle, asked, ((Run.note_onlyNames _ _ _).ok rest).names⟩

/-! ## Needs -/

/-- A record that was expanded was asked for its name before anything else was named. -/
theorem expandWith_asks {collect : Arrival → Run Unit}
    (each : ∀ arrival, Keeps Ledger.Grows (collect arrival))
    (done : (scope.expandWith user collect id).run ledger = .ok () after) :
    ∃ name middle, (scope.nameFor id).run ledger = .ok name middle ∧
      middle.names.KeptIn after.names := by
  obtain ⟨first, rest, items, asks⟩ := scope.graph.expansion_asksFirst user id
  have steps := (Run.followWalk_ok_iff.1 done).2
  rw [items] at steps
  obtain ⟨entered, one, others⟩ := forM_cons_ok_iff.1 steps
  obtain ⟨name, middle, asked, kept⟩ := performStep_asks asks one
  have later : Keeps Ledger.Grows (forM rest (scope.performStep user collect)) := by
    apply Keeps.forM
    intro step member
    by_cases uses : ∃ type, step = .use type
    · obtain ⟨type, rfl⟩ := uses
      exact CollectingKeeps.collectArrival user each false type
    · have onlyNames : Keeps Ledger.OnlyNames (scope.performStep user collect step) :=
        scope.performStep_onlyNames user fun type same => uses ⟨type, same⟩
      exact onlyNames.mono fun _ _ => Ledger.OnlyNames.grows
  exact ⟨name, middle, asked, kept.trans (later.ok others).names⟩

/-- A tagged type is collected itself. -/
theorem need_of_tagged (node : scope.graph.node? id = some (.tagged type)) (user : String) :
    scope.need (some id) user false = scope.collect user ⟨id, false⟩ := by
  have arrival : scope.arrival user false (some id) = .ok (some ⟨id, false⟩) := by
    unfold Scope.arrival
    rw [arrivalWithin]
    simp only [node]
  unfold need collectArrival
  rw [arrival]
  rfl

/-- **To need a tagged type does not change the name it answers to**, whatever is named on
the way. -/
theorem need_keeps_answer (node : scope.graph.node? id = some (.tagged type))
    (done : (scope.need (some id) user false).run ledger = .ok () after) :
    ∃ name middle last, (scope.nameFor id).run ledger = .ok name middle ∧
      (scope.nameFor id).run after = .ok name last ∧ middle.names.KeptIn last.names := by
  have tagged := TypeGraph.tagged?_eq_some_iff.2 node
  rw [need_of_tagged node, collect, collectWithin] at done
  dsimp only at done
  split at done
  · -- an enumeration is recorded, and nothing is named
    cases done
    exact ⟨_, _, _, nameFor_run tagged ledger, nameFor_run tagged _, .refl _⟩
  · rw [if_neg List.not_mem_nil] at done
    obtain ⟨⟨⟩, expanded, steps, recorded⟩ := bind_ok_iff.1 done
    obtain ⟨name, middle, asked, kept⟩ :=
      expandWith_asks (scope.collecting_grows.collectWithin user _ _) steps
    have names : middle.names.KeptIn after.names := by
      apply kept.trans
      exact ((Run.addNeed_grows id user).ok recorded).names
    exact ⟨name, middle, after, asked, nameFor_kept tagged asked names, names⟩

/-! ## Interface types -/

/-- The two computations give the same value from a ledger, and all that the second one names
the first one names alike. -/
def AgreesWith {α : Type} (needing known : Run α) : Prop :=
  ∀ ledger value after, needing.run ledger = .ok value after →
    ∃ last, known.run ledger = .ok value last ∧ last.names.KeptIn after.names

theorem agreesWith_refl {α : Type} (x : Run α) : AgreesWith x x :=
  fun _ _ after done => ⟨after, done, .refl _⟩

/-- What comes first is done by both. -/
theorem agreesWith_bind {α β : Type} (x : Run α) {needing known : α → Run β}
    (each : ∀ a, AgreesWith (needing a) (known a)) :
    AgreesWith (x >>= needing) (x >>= known) := by
  intro ledger value after done
  obtain ⟨a, middle, one, two⟩ := bind_ok_iff.1 done
  obtain ⟨last, run, kept⟩ := each a middle value after two
  exact ⟨last, bind_ok_iff.2 ⟨a, middle, one, run⟩, kept⟩

theorem ffiPointer_agrees (pointee : TypeRef) :
    AgreesWith (scope.ffiPointer (.needing scope user) pointee)
      (scope.ffiPointer .nothing pointee) := by
  have opaquePointer : AgreesWith (do scope.need pointee user true; return FfiType.pointer)
      (do Demand.nothing pointee true; return FfiType.pointer) := by
    intro ledger value after done
    obtain ⟨⟨⟩, needed, demanded, rest⟩ := bind_ok_iff.1 done
    obtain ⟨rfl, rfl⟩ := pure_ok_iff.1 rest
    have grown := (scope.collecting_grows.need user pointee true).ok demanded
    exact ⟨ledger, rfl, grown.names⟩
  unfold ffiPointer
  split
  · exact agreesWith_refl _
  · split
    · exact opaquePointer
    · exact opaquePointer
    · exact agreesWith_refl _

theorem ffiMeaning_agrees (type : TypeRef) :
    AgreesWith (scope.ffiMeaning (.needing scope user) type user)
      (scope.ffiMeaning .nothing type user) := by
  unfold ffiMeaning
  split
  · exact agreesWith_refl _
  · rename_i id
    split
    · exact agreesWith_refl _
    · exact agreesWith_refl _
    · exact ffiPointer_agrees _
    · rename_i tagged node
      intro ledger value after done
      obtain ⟨⟨⟩, needed, demanded, rest⟩ := bind_ok_iff.1 done
      obtain ⟨name, last, asked, given⟩ := bind_ok_iff.1 rest
      obtain ⟨rfl, rfl⟩ := pure_ok_iff.1 given
      obtain ⟨answer, middle, final, atOnce, later, kept⟩ := need_keeps_answer node demanded
      cases asked.symm.trans later
      refine ⟨middle, ?_, kept⟩
      apply bind_ok_iff.2
      refine ⟨(), ledger, rfl, ?_⟩
      apply bind_ok_iff.2
      exact ⟨name, middle, atOnce, rfl⟩
    · exact agreesWith_refl _
    · exact agreesWith_refl _
    · exact agreesWith_refl _

/-- **An interface type is the same with and without needs.**  From every state, if the
interface type of a type that a user needs is found, then the one of the type whose needs are
known is found from the same state, and it is the same.  It leaves the needs as they were, and
all that it names stays named so by the other. -/
theorem knownFfiType_of_neededFfiType {cType : TypeRef} {ffi : FfiType}
    (done : (scope.neededFfiType cType user).run ledger = .ok ffi after) :
    ∃ last, (scope.knownFfiType cType user).run ledger = .ok ffi last ∧
      last.needs = ledger.needs ∧ last.names.KeptIn after.names := by
  have agrees : AgreesWith (scope.neededFfiType cType user) (scope.knownFfiType cType user) := by
    unfold neededFfiType knownFfiType ffiType
    split
    · rename_i name there
      split
      · exact agreesWith_refl _
      · apply agreesWith_bind
        intro meaning
        cases meaning with
        | variadic => exact agreesWith_refl _
        | type meaning => exact ffiMeaning_agrees meaning
    · exact ffiMeaning_agrees cType
  obtain ⟨last, known, kept⟩ := agrees ledger ffi after done
  exact ⟨last, known, ((scope.knownFfiType_onlyNames cType user).ok known).needs, kept⟩

/-! ## Two unnamed structures -/

/-- `typedef struct { int x; } *Handle`, and an unnamed structure with a member of that type. -/
def handleScope : Scope where
  graph := ⟨#[
    .builtin "int",
    .tagged ⟨.struct, none, some [⟨"x", some ⟨0⟩⟩], []⟩,
    .pointer (some ⟨1⟩),
    .typedefName "Handle",
    .tagged ⟨.struct, none, some [⟨"handle", some ⟨3⟩⟩], []⟩]⟩
  typedefs := (TypedefTable.seeded "va").declare "Handle" (some ⟨2⟩)

/-- The structure is the first to be numbered, also when its member is collected with it. -/
theorem knownFfiType_of_neededFfiType_handle : ∃ after,
    (handleScope.neededFfiType (some ⟨4⟩) "open").run .empty =
      .ok (.byValue "AnonymousStructOne") after ∧
    after.names.find? ⟨1⟩ = some "anonymous_struct_two" ∧
    ∃ last, (handleScope.knownFfiType (some ⟨4⟩) "open").run .empty =
        .ok (.byValue "AnonymousStructOne") last ∧ last.needs = .empty := by
  have tested : gives (fun ffi after => decide (ffi = .byValue "AnonymousStructOne" ∧
      after.names.find? ⟨1⟩ = some "anonymous_struct_two"))
      ((handleScope.neededFfiType (some ⟨4⟩) "open").run .empty) = true := by decide +kernel
  obtain ⟨ffi, after, done, shown⟩ := exists_of_gives tested
  obtain ⟨rfl, numbered⟩ := of_decide_eq_true shown
  obtain ⟨last, known, needs, -⟩ := knownFfiType_of_neededFfiType done
  exact ⟨after, done, numbered, last, known, needs⟩

end Scope

end HeaderBind
