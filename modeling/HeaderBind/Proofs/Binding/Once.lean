/-
# HeaderBind.Proofs.Binding.Once — which records are defined, and how often

The record bindings of a library are those of the needed records and of the unnamed ones
written in them, at any depth (`bindRecords_describes`).  An unnamed record is bound
wherever it is written, and nothing keeps a list of those that were bound, so a record
with two places is bound twice: as the type of two members, or where it is needed on its
own as well.  The bindings and the records correspond one to one exactly when every
record has a single place (`defined_of_bind`).
-/
import HeaderBind.Proofs.Binding.Closed
import HeaderBind.Proofs.Binding.Placed

namespace HeaderBind

set_option autoImplicit false

open Outcome Relation

namespace Scope

/-- The binding is that of the tagged type: it has its name, and a field for every member. -/
structure Describes (scope : Scope) (names : NameTable) (binding : RecordBinding)
    (id : NodeId) : Prop where
  cName : scope.settledName? names id = some binding.cName
  name : binding.name = Identifier.camelCase binding.cName
  isUnion : binding.isUnion = scope.graph.isUnion id
  isOpaque : binding.isOpaque = (scope.graph.members? id).isNone
  fields : List.Forall₂ (fun field (place : Member × Nat) =>
      field.name = place.1.label place.2 ∧
        scope.Refers names (fun target => scope.LeadsTo place.1.type false target) field.type)
    binding.fields ((scope.graph.members? id).getD []).zipIdx

variable {scope : Scope} {final : NameTable} {users : List String}

/-! ## One record -/

theorem flatMap_zipIdx {α β : Type} (list : List α) (f : α → List β) :
    (list.zipIdx.flatMap fun place => f place.1) = list.flatMap f := by
  have flat := List.flatMap_map Prod.fst f (l := list.zipIdx)
  rw [List.zipIdx_map_fst] at flat
  exact flat.symm

theorem bindMember_describes {inPlace : NodeId → Run (List RecordBinding)} {parentName : String}
    {place : Member × Nat} {part : List RecordBinding × RecordField} {ledger after : Ledger}
    {nodes : NodeId → List NodeId}
    (each : ∀ child bindings ledger after, scope.graph.inPlaceRecord? place.1.type = some child →
      (inPlace child).run ledger = .ok bindings after → after.names.KeptIn final →
        List.Forall₂ (scope.Describes final) bindings (nodes child))
    (done : (scope.bindMember inPlace parentName place.1 place.2).run ledger = .ok part after)
    (kept : after.names.KeptIn final) :
    List.Forall₂ (scope.Describes final) part.1
        ((scope.graph.inPlaceRecord? place.1.type).toList.flatMap nodes) ∧
      part.2.name = place.1.label place.2 ∧
        scope.Refers final (fun target => scope.LeadsTo place.1.type false target) part.2.type := by
  unfold bindMember at done
  split at done
  · rename_i child unnamed
    obtain ⟨nested, middle, first, rest⟩ := bind_ok_iff.1 done
    obtain ⟨type, later, field, last⟩ := bind_ok_iff.1 rest
    obtain ⟨rfl, rfl⟩ := pure_ok_iff.1 last
    have keptFirst := ((scope.knownFfiType_onlyNames _ _).ok field).names.trans kept
    refine ⟨?_, rfl, (ffiType_refers field).mono kept fun _ leads => leads⟩
    rw [unnamed, Option.toList_some, List.flatMap_singleton]
    exact each child nested ledger middle unnamed first keptFirst
  · rename_i named
    obtain ⟨nested, middle, first, rest⟩ := bind_ok_iff.1 done
    obtain ⟨rfl, rfl⟩ := pure_ok_iff.1 first
    obtain ⟨type, later, field, last⟩ := bind_ok_iff.1 rest
    obtain ⟨rfl, rfl⟩ := pure_ok_iff.1 last
    refine ⟨?_, rfl, (ffiType_refers field).mono kept fun _ leads => leads⟩
    rw [named]
    exact .nil

/-- By induction on the bound of the nesting: the bindings of a record are those of the records
written in it, and its own. -/
theorem bindRecordWithin_describes {fuel : Nat} {id : NodeId} {bindings : List RecordBinding}
    {ledger after : Ledger} (isRecord : scope.graph.isRecord id = true)
    (done : (scope.bindRecordWithin users fuel id).run ledger = .ok bindings after)
    (kept : after.names.KeptIn final) :
    List.Forall₂ (scope.Describes final) bindings (scope.graph.placedWithin fuel id) := by
  induction fuel generalizing id bindings ledger after with
  | zero => cases done
  | succ fuel ih =>
    obtain ⟨tagged, node, -⟩ := TypeGraph.isRecord_iff.1 isRecord
    obtain ⟨cName, named, fields, asked, onlyNames, inner, rfl, bound⟩ := bindRecordWithin_ok done
    have settled := scope.nameFor_settles (TypeGraph.tagged?_eq_some_iff.2 node) asked
    have isNamed := scope.settledName?_kept (onlyNames.names.trans kept) settled
    rw [TypeGraph.placedWithin, TypeGraph.inPlaceRecords]
    rcases bound with ⟨held, rfl, rfl⟩ | ⟨members, parts, held, each, rfl, rfl⟩
    · rw [held]
      refine .cons ⟨isNamed, rfl, rfl, ?_, ?_⟩ .nil
      · rw [held]
      · rw [held]
        exact .nil
    · have names : ∀ place : Member × Nat, Keeps Ledger.OnlyNames
          (scope.bindMember (scope.bindRecordWithin users fuel) cName place.1 place.2) :=
        fun place => scope.bindMember_onlyNames (scope.bindRecordWithin_onlyNames users fuel) _ _ _
      have bound : List.Forall₂ (fun (part : List RecordBinding × RecordField) place =>
          List.Forall₂ (scope.Describes final) part.1
            ((scope.graph.inPlaceRecord? place.1.type).toList.flatMap
              (scope.graph.placedWithin fuel)) ∧
          part.2.name = place.1.label place.2 ∧
            scope.Refers final (fun target => scope.LeadsTo place.1.type false target)
              part.2.type) parts members.zipIdx := by
        refine ((mapM_ok_between names each).imp fun place part between => ?_).flip
        obtain ⟨start, stop, -, run, later⟩ := between
        refine bindMember_describes ?_ run (later.names.trans kept)
        intro child bindings ledger after unnamed done kept
        obtain ⟨-, tagged, node, -, recordTag⟩ :=
          TypeGraph.inPlaceRecord?_eq_some_iff.1 unnamed
        exact ih (TypeGraph.isRecord_iff.2 ⟨tagged, node, recordTag⟩) done kept
      rw [held, Option.getD_some, List.flatMap_assoc, ← flatMap_zipIdx members]
      refine List.rel_append (List.rel_flatMap bound fun part place both => both.1) (.cons ?_ .nil)
      refine ⟨isNamed, rfl, rfl, ?_, ?_⟩
      · rw [held]
      · rw [held, Option.getD_some, List.forall₂_map_left_iff]
        exact bound.imp fun part place both => both.2

theorem inPlace_of_bindMember {inPlace : NodeId → Run (List RecordBinding)} {parentName : String}
    {member : Member} {index : Nat} {part : List RecordBinding × RecordField} {child : NodeId}
    {ledger after : Ledger} (unnamed : scope.graph.inPlaceRecord? member.type = some child)
    (done : (scope.bindMember inPlace parentName member index).run ledger = .ok part after) :
    ∃ bindings middle, (inPlace child).run ledger = .ok bindings middle := by
  unfold bindMember at done
  rw [unnamed] at done
  obtain ⟨nested, middle, first, -⟩ := bind_ok_iff.1 done
  exact ⟨nested, middle, first⟩

/-- Records that are bound nest less deep than the bound. -/
theorem endsWithin_of_bindRecordWithin {fuel : Nat} {id : NodeId} {bindings : List RecordBinding}
    {ledger after : Ledger}
    (done : (scope.bindRecordWithin users fuel id).run ledger = .ok bindings after) :
    TypeGraph.EndsWithin scope.graph.HoldsInPlace fuel id := by
  induction fuel generalizing id bindings ledger after with
  | zero => cases done
  | succ fuel ih =>
    rintro child ⟨⟨members, held, member, isMember, isType⟩, isUnnamed⟩
    obtain ⟨_, _, _, -, -, _, -, ⟨none, -⟩ | ⟨list, parts, same, each, -⟩⟩ :=
      bindRecordWithin_ok done
    · cases held.symm.trans none
    cases held.symm.trans same
    obtain ⟨index, found⟩ := List.getElem?_of_mem isMember
    obtain ⟨part, -, start, stop, -, run, -⟩ := mapM_ok_of_mem
      (fun place => scope.bindMember_onlyNames (scope.bindRecordWithin_onlyNames users fuel) _ _ _)
      each (List.mk_mem_zipIdx_iff_getElem?.2 found)
    have unnamed := TypeGraph.inPlaceRecord?_eq_some_iff.2 ⟨isType, isUnnamed⟩
    obtain ⟨nested, last, bound⟩ := inPlace_of_bindMember unnamed run
    exact ih bound

/-! ## All records -/

theorem describes_numbered {bindings : List RecordBinding} {nodes : List NodeId}
    (h : List.Forall₂ (scope.Describes final) bindings nodes) :
    List.Forall₂ (scope.Describes final) (numbered bindings) nodes := by
  have counted : ∀ start, List.Forall₂ (scope.Describes final)
      ((bindings.zipIdx start).map fun place => { place.1 with order := place.2 }) nodes := by
    induction h with
    | nil => exact fun _ => .nil
    | cons first _ ih =>
      intro start
      rw [List.zipIdx_cons, List.map_cons]
      exact .cons ⟨first.cName, first.name, first.isUnion, first.isOpaque, first.fields⟩
        (ih (start + 1))
  exact counted 0

/-- The record is needed. -/
def Wants (scope : Scope) (needs : NeedTable) (id : NodeId) : Prop :=
  needs.contains id = true ∧ scope.graph.isRecord id = true

instance (scope : Scope) (needs : NeedTable) (id : NodeId) : Decidable (scope.Wants needs id) :=
  inferInstanceAs (Decidable (_ ∧ _))

/-- The bindings and the records to define correspond one to one: the needed ones, and the
unnamed ones written in them. -/
def DefinesOnce (scope : Scope) (ledger : Ledger) (bindings : List RecordBinding) : Prop :=
  ∃ nodes : List NodeId, nodes.Nodup ∧
    (∀ id, id ∈ nodes ↔ scope.graph.Placed (scope.Wants ledger.needs) id) ∧
    List.Forall₂ (scope.Describes ledger.names) bindings nodes

/-- The needed records are ordered and bound, each after those that are written in it. -/
theorem bindRecords_describes {bindings : List RecordBinding} {ledger after : Ledger}
    (done : scope.bindRecords.run ledger = .ok bindings after) :
    ∃ ordered : List NodeId, ordered.Nodup ∧ (∀ id, id ∈ ordered ↔ scope.Wants after.needs id) ∧
      (∀ id, scope.Wants after.needs id →
        TypeGraph.EndsWithin scope.graph.HoldsInPlace (scope.graph.size + 1) id) ∧
      List.Forall₂ (scope.Describes after.names) bindings (scope.graph.placed ordered) := by
  have needs := (scope.bindRecords_onlyNames.ok done).needs
  obtain ⟨same, start, read, rest⟩ := bind_ok_iff.1 done
  cases read
  obtain ⟨ordered, middle, order, rest⟩ := bind_ok_iff.1 rest
  obtain ⟨parts, later, each, last⟩ := bind_ok_iff.1 rest
  obtain ⟨rfl, rfl⟩ := pure_ok_iff.1 last
  obtain ⟨arranged, all⟩ := holdingOrder_arranged order
  have wanted : ∀ id, id ∈ ordered ↔ scope.Wants after.needs id := by
    intro id
    rw [Wants, needs, ← NeedTable.mem_types_iff, ← List.mem_filter]
    exact ⟨fun member => arranged.subset member, fun member => all member⟩
  have names := fun id =>
    scope.bindRecordWithin_onlyNames (ledger.needs.users id) (scope.graph.size + 1) id
  refine ⟨ordered, holdingOrder_nodup order, wanted, fun id wants => ?_, ?_⟩
  · obtain ⟨part, -, first, last, -, bound, -⟩ := mapM_ok_of_mem names each ((wanted id).2 wants)
    exact endsWithin_of_bindRecordWithin bound
  · have bound : List.Forall₂ (fun id part => List.Forall₂ (scope.Describes after.names) part
        (scope.graph.placedWithin (scope.graph.size + 1) id)) ordered parts := by
      refine forall₂_imp_of_mem (mapM_ok_between names each) fun id member part between => ?_
      obtain ⟨first, last, -, run, later⟩ := between
      exact bindRecordWithin_describes ((wanted id).1 member).2 run later.names
    exact describes_numbered (List.rel_flatten (List.forall₂_map_right_iff.2 bound.flip))

/-- **Which records are defined, and how often.**  The bindings are those of the needed records
and of the unnamed ones written in them; they correspond one to one exactly when every record
has a single place. -/
theorem bindRecords_once {bindings : List RecordBinding} {ledger after : Ledger}
    (done : scope.bindRecords.run ledger = .ok bindings after) :
    (∃ nodes : List NodeId,
      (∀ id, id ∈ nodes ↔ scope.graph.Placed (scope.Wants after.needs) id) ∧
        List.Forall₂ (scope.Describes after.names) bindings nodes) ∧
      (scope.DefinesOnce after bindings ↔ scope.graph.PlacedOnce (scope.Wants after.needs)) := by
  obtain ⟨ordered, distinct, wanted, ends, describes⟩ := bindRecords_describes done
  have placed : ∀ id, id ∈ scope.graph.placed ordered ↔
      scope.graph.Placed (scope.Wants after.needs) id := fun id =>
    TypeGraph.mem_placed wanted ends
  refine ⟨⟨scope.graph.placed ordered, placed, describes⟩, ?_⟩
  rw [← TypeGraph.placed_nodup_iff wanted ends distinct]
  constructor
  · rintro ⟨nodes, nodup, same, others⟩
    -- Both lists hold the same records, and both are as long as the list of bindings.
    have among : nodes ⊆ scope.graph.placed ordered := fun id member =>
      (placed id).2 ((same id).1 member)
    have long : (scope.graph.placed ordered).length ≤ nodes.length := by
      rw [← others.length_eq, ← describes.length_eq]
    exact ((List.subperm_of_subset nodup among).perm_of_length_le long).nodup_iff.1 nodup
  · intro nodup
    exact ⟨scope.graph.placed ordered, nodup, placed, describes⟩

end Scope

/-! ## Libraries -/

/-- The record bindings of a library are those of the needed records and of the unnamed ones
written in them; they correspond one to one exactly when every record has a single place. -/
theorem HeaderLibrary.defined_of_bind {library : HeaderLibrary} {skipUnsupported : Bool}
    {workspace after : Workspace} {bindings : Bindings}
    (done : (library.bind skipUnsupported).run workspace = .ok bindings after) :
    (∃ nodes : List NodeId,
      (∀ id, id ∈ nodes ↔ after.scope.graph.Placed (after.scope.Wants after.ledger.needs) id) ∧
        List.Forall₂ (after.scope.Describes after.ledger.names) bindings.records nodes) ∧
      (after.scope.DefinesOnce after.ledger bindings.records ↔
        after.scope.graph.PlacedOnce (after.scope.Wants after.ledger.needs)) := by
  obtain ⟨_, middle, ledger, -, -, records, -, same⟩ := HeaderLibrary.bind_stages done
  rw [same]
  exact Scope.bindRecords_once records

/-- A structure with two members of one unnamed structure, and a function that takes it. -/
def pairTypes : TypeGraph := ⟨#[
  .builtin "int",
  .tagged ⟨.struct, none, some [⟨"x", some ⟨0⟩⟩], []⟩,
  .tagged ⟨.struct, "pair", some [⟨"a", some ⟨1⟩⟩, ⟨"b", some ⟨1⟩⟩], []⟩,
  .function ⟨[⟨none, some ⟨2⟩⟩], none, false⟩]⟩

def pairLibrary : HeaderLibrary where
  headers := ["pair.h"]
  files := [("pair.h", [.declaration (some ⟨0⟩) [⟨"swap", some ⟨3⟩⟩] false])]

theorem bind_pair : ∃ bindings after,
    (pairLibrary.bind false).run (.start pairTypes "va") = .ok bindings after ∧
      bindings.records.map RecordBinding.cName = ["pair_a", "pair_a", "pair"] ∧
      after.scope.Wants after.ledger.needs ⟨2⟩ ∧
      after.scope.graph.inPlaceRecords ⟨2⟩ = [⟨1⟩, ⟨1⟩] := by
  have tested : gives (fun bindings after => decide (
      bindings.records.map RecordBinding.cName = ["pair_a", "pair_a", "pair"] ∧
      after.scope.Wants after.ledger.needs ⟨2⟩ ∧
      after.scope.graph.inPlaceRecords ⟨2⟩ = [⟨1⟩, ⟨1⟩]))
      ((pairLibrary.bind false).run (.start pairTypes "va")) = true := by decide +kernel
  obtain ⟨bindings, after, done, shown⟩ := exists_of_gives tested
  exact ⟨bindings, after, done, of_decide_eq_true shown⟩

/-- The unnamed structure is bound twice, by the name of the first member. -/
theorem pair_defined_twice : ∃ bindings after,
    (pairLibrary.bind false).run (.start pairTypes "va") = .ok bindings after ∧
      bindings.records.map RecordBinding.cName = ["pair_a", "pair_a", "pair"] ∧
      ¬ after.scope.DefinesOnce after.ledger bindings.records := by
  obtain ⟨bindings, after, done, names, wants, written⟩ := bind_pair
  refine ⟨bindings, after, done, names, fun once => ?_⟩
  obtain ⟨_, middle, ledger, -, -, records, -, same⟩ := HeaderLibrary.bind_stages done
  rw [same] at once wants written
  have places := (Scope.bindRecords_once records).2.1 once
  have single := places.single ⟨2⟩ ⟨⟨2⟩, wants, .refl⟩
  rw [written] at single
  exact absurd single (by decide)

theorem defined_of_bind_pair : ∃ bindings after,
    (pairLibrary.bind false).run (.start pairTypes "va") = .ok bindings after ∧
      (∃ nodes : List NodeId,
        (∀ id, id ∈ nodes ↔ after.scope.graph.Placed (after.scope.Wants after.ledger.needs) id) ∧
          List.Forall₂ (after.scope.Describes after.ledger.names) bindings.records nodes) ∧
      (after.scope.DefinesOnce after.ledger bindings.records ↔
        after.scope.graph.PlacedOnce (after.scope.Wants after.ledger.needs)) := by
  obtain ⟨bindings, after, done, -⟩ := bind_pair
  exact ⟨bindings, after, done, HeaderLibrary.defined_of_bind done⟩

end HeaderBind
