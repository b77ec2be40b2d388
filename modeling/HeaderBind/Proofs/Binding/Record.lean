/-
# HeaderBind.Proofs.Binding.Record — records come out after all that they hold

A list of record bindings is supplied when every field names, if it holds a record by
value, one that comes earlier in the list, and if it is an enumeration, a bound one.
Binding a record adds to a supplied list one that is supplied again, unnamed records
before their parents (`bindRecordWithin_adds`), and so does binding records in an
arranged order (`bindArranged_supplied`).
-/
import HeaderBind.Proofs.Binding.Order
import HeaderBind.Proofs.Ffi.Refers
import HeaderBind.Proofs.Need.InPlace

namespace HeaderBind

set_option autoImplicit false

open Outcome

theorem TypeGraph.inPlaceRecord?_eq_some_iff {graph : TypeGraph} {type : TypeRef}
    {child : NodeId} :
    graph.inPlaceRecord? type = some child ↔
      type = some child ∧ ∃ tagged, graph.node? child = some (.tagged tagged) ∧
        tagged.ownName? = none ∧ tagged.isRecord = true := by
  constructor
  · intro h
    obtain ⟨same, unnamed⟩ := Option.filter_eq_some_iff.1 h
    obtain ⟨tagged, found, both⟩ := (Option.any_eq_true _ _).1 unnamed
    rw [Bool.and_eq_true, Option.isNone_iff_eq_none] at both
    exact ⟨same, tagged, tagged?_eq_some_iff.1 found, both.2, both.1⟩
  · rintro ⟨rfl, tagged, node, own, recordTag⟩
    simp [inPlaceRecord?, tagged?_eq_some_iff.2 node, own, recordTag]

/-- The records and enumerations that the type names are among these names. -/
def FfiType.Known (records enums : List String) : FfiType → Prop
  | .scalar _ => True
  | .byValue name => name ∈ records
  | .enum name => name ∈ enums

theorem FfiType.Known.mono {records more enums : List String} (among : records ⊆ more)
    {type : FfiType} (h : type.Known records enums) : type.Known more enums := by
  cases type with
  | scalar symbol => trivial
  | byValue name => exact among h
  | enum name => exact h

namespace RecordBinding

def names (bindings : List RecordBinding) : List String := bindings.map RecordBinding.name

theorem names_append (first second : List RecordBinding) :
    names (first ++ second) = names first ++ names second := List.map_append

/-- Every field names bindings that come before its own. -/
inductive Supplied (enums : List String) : List RecordBinding → Prop
  | nil : Supplied enums []
  | concat {bindings : List RecordBinding} {binding : RecordBinding} :
      Supplied enums bindings →
      (∀ field ∈ binding.fields, field.type.Known (names bindings) enums) →
      Supplied enums (bindings ++ [binding])

theorem Supplied.known {enums : List String} {bindings : List RecordBinding}
    (h : Supplied enums bindings) {i : Nat} {binding : RecordBinding}
    (found : bindings[i]? = some binding) :
    ∀ field ∈ binding.fields, field.type.Known (names (bindings.take i)) enums := by
  induction h with
  | nil => cases found
  | @concat bindings last _ here ih =>
    rcases Nat.lt_or_ge i bindings.length with inside | outside
    · rw [List.getElem?_append_left inside] at found
      rw [List.take_append_of_le_length (Nat.le_of_lt inside)]
      exact ih found
    · rw [List.getElem?_append_right outside] at found
      cases past : i - bindings.length with
      | succ past' =>
        rw [past] at found
        cases found
      | zero =>
        rw [past] at found
        cases found
        rw [Nat.le_antisymm (Nat.le_of_sub_eq_zero past) outside, List.take_left]
        exact here

/-- The bindings are supplied, and the names known are among theirs. -/
structure Ready (known enums : List String) (bindings : List RecordBinding) : Prop where
  supplied : Supplied enums bindings
  known : known ⊆ names bindings

theorem Ready.concat {known enums : List String} {bindings : List RecordBinding}
    {binding : RecordBinding} (h : Ready known enums bindings)
    (here : ∀ field ∈ binding.fields, field.type.Known (names bindings) enums) :
    Ready known enums (bindings ++ [binding]) := by
  refine ⟨h.supplied.concat here, List.Subset.trans h.known ?_⟩
  rw [names_append]
  exact List.subset_append_left _ _

end RecordBinding

namespace Scope

variable {scope : Scope} {final : NameTable} {known enums : List String}

/-- The binding of the tagged type is among the names given. -/
structure Provided (scope : Scope) (final : NameTable) (records enums : List String)
    (id : NodeId) : Prop where
  record : scope.graph.isRecord id = true →
    ∃ name ∈ records, scope.bindingName? final id = some name
  enum : scope.graph.isEnum id = true →
    ∃ name ∈ enums, scope.bindingName? final id = some name

theorem Provided.mono {more : List String} (among : known ⊆ more) {id : NodeId}
    (h : scope.Provided final known enums id) : scope.Provided final more enums id := by
  refine ⟨fun isRecord => ?_, h.enum⟩
  obtain ⟨name, member, named⟩ := h.record isRecord
  exact ⟨name, among member, named⟩

theorem known_of_refers {targets : NodeId → Prop} {type : FfiType}
    (refers : scope.Refers final targets type)
    (provided : ∀ id, targets id → scope.Provided final known enums id) :
    type.Known known enums := by
  cases type with
  | scalar symbol => trivial
  | byValue name =>
    obtain ⟨id, isTarget, isRecord, named⟩ := refers
    obtain ⟨other, member, same⟩ := (provided id isTarget).record isRecord
    cases named.symm.trans same
    exact member
  | enum name =>
    obtain ⟨id, isTarget, isEnum, named⟩ := refers
    obtain ⟨other, member, same⟩ := (provided id isTarget).enum isEnum
    cases named.symm.trans same
    exact member

/-- The type of a member names what its record meets, or a record written in place. -/
theorem field_known {record : NodeId} {member : Member} {parentName : String}
    {ledger after : Ledger} {type : FfiType} {names : List String}
    (isRecord : scope.graph.isRecord record = true)
    (has : ∀ id, member.type = some id → scope.graph.MemberType record id)
    (met : ∀ target, scope.Meets record false target → scope.Provided final names enums target)
    (inPlace : ∀ child, scope.graph.inPlaceRecord? member.type = some child →
      ∃ name ∈ names, scope.bindingName? final child = some name)
    (done : (scope.knownFfiType member.type parentName).run ledger = .ok type after)
    (kept : after.names.KeptIn final) : type.Known names enums := by
  refine known_of_refers ((ffiType_refers done).mono kept fun _ leads => leads) ?_
  intro target leads
  cases isType : member.type with
  | none =>
    rw [isType] at leads
    cases leads
  | some id =>
    rw [isType] at leads
    rcases (has id isType).meets_or_holdsInPlace isRecord leads with meets | ⟨rfl, held⟩
    · exact met target meets
    · refine ⟨fun _ => inPlace target ?_, fun isEnum => ?_⟩
      · exact TypeGraph.inPlaceRecord?_eq_some_iff.2 ⟨isType, held.unnamed⟩
      · exact absurd isEnum (TypeGraph.not_isEnum held.isRecord)

/-- After these bindings come those of the record, its own among them. -/
structure Adds (scope : Scope) (final : NameTable) (known enums : List String)
    (earlier : List RecordBinding) (id : NodeId) (bindings : List RecordBinding) : Prop where
  ready : RecordBinding.Ready known enums (earlier ++ bindings)
  own : ∃ binding ∈ bindings, scope.bindingName? final id = some binding.name

theorem bindMember_ready {inPlace : NodeId → Run (List RecordBinding)} {record : NodeId}
    {member : Member} {index : Nat} {parentName : String} {earlier : List RecordBinding}
    {part : List RecordBinding × RecordField} {ledger after : Ledger}
    (each : ∀ child bindings ledger after,
      scope.graph.inPlaceRecord? member.type = some child →
      (inPlace child).run ledger = .ok bindings after → after.names.KeptIn final →
        scope.Adds final known enums earlier child bindings)
    (isRecord : scope.graph.isRecord record = true)
    (has : ∀ id, member.type = some id → scope.graph.MemberType record id)
    (met : ∀ target, scope.Meets record false target → scope.Provided final known enums target)
    (ready : RecordBinding.Ready known enums earlier)
    (done : (scope.bindMember inPlace parentName member index).run ledger = .ok part after)
    (kept : after.names.KeptIn final) :
    RecordBinding.Ready known enums (earlier ++ part.1) ∧
      part.2.type.Known (RecordBinding.names (earlier ++ part.1)) enums := by
  unfold bindMember at done
  split at done
  · rename_i child unnamed
    obtain ⟨nested, middle, first, rest⟩ := bind_ok_iff.1 done
    obtain ⟨type, later, field, last⟩ := bind_ok_iff.1 rest
    obtain ⟨rfl, rfl⟩ := pure_ok_iff.1 last
    have keptFirst := ((scope.knownFfiType_onlyNames _ _).ok field).names.trans kept
    obtain ⟨readyNow, binding, member, named⟩ :=
      each child nested ledger middle unnamed first keptFirst
    refine ⟨readyNow, field_known isRecord has (fun target meets =>
      (met target meets).mono readyNow.known) (fun other same => ?_) field kept⟩
    cases unnamed.symm.trans same
    exact ⟨binding.name, List.mem_map_of_mem (List.mem_append_right _ member), named⟩
  · rename_i named
    obtain ⟨nested, middle, first, rest⟩ := bind_ok_iff.1 done
    obtain ⟨rfl, rfl⟩ := pure_ok_iff.1 first
    obtain ⟨type, later, field, last⟩ := bind_ok_iff.1 rest
    obtain ⟨rfl, rfl⟩ := pure_ok_iff.1 last
    rw [List.append_nil]
    exact ⟨ready, field_known isRecord has (fun target meets => (met target meets).mono ready.known)
      (fun other same => nomatch named.symm.trans same) field kept⟩

/-- The members of a record, one after the other. -/
theorem bindMembers_ready {f : Member × Nat → Run (List RecordBinding × RecordField)}
    {list : List (Member × Nat)} {earlier : List RecordBinding}
    {parts : List (List RecordBinding × RecordField)} {ledger after : Ledger}
    (names : ∀ place, Keeps Ledger.OnlyNames (f place))
    (each : ∀ place ∈ list, ∀ earlier part ledger after,
      RecordBinding.Ready known enums earlier → (f place).run ledger = .ok part after →
      after.names.KeptIn final →
        RecordBinding.Ready known enums (earlier ++ part.1) ∧
          part.2.type.Known (RecordBinding.names (earlier ++ part.1)) enums)
    (ready : RecordBinding.Ready known enums earlier)
    (done : (list.mapM f).run ledger = .ok parts after) (kept : after.names.KeptIn final) :
    RecordBinding.Ready known enums (earlier ++ parts.flatMap (·.1)) ∧
      ∀ field ∈ parts.map (·.2),
        field.type.Known (RecordBinding.names (earlier ++ parts.flatMap (·.1))) enums := by
  induction list generalizing earlier parts ledger with
  | nil =>
    obtain ⟨rfl, -⟩ := mapM_nil_ok_iff.1 done
    exact ⟨by simpa using ready, by simp⟩
  | cons place list ih =>
    obtain ⟨part, rest, middle, first, others, rfl⟩ := mapM_cons_ok_iff.1 done
    have keptFirst := ((Keeps.mapM fun place _ => names place).ok others).names.trans kept
    obtain ⟨readyFirst, field⟩ :=
      each place List.mem_cons_self earlier part ledger middle ready first keptFirst
    obtain ⟨readyAll, fields⟩ :=
      ih (fun other member => each other (List.mem_cons_of_mem place member)) readyFirst others
    rw [List.append_assoc] at readyAll fields
    refine ⟨readyAll, fun one member => ?_⟩
    rcases List.mem_cons.1 member with rfl | member
    · refine field.mono ?_
      rw [List.flatMap_cons, ← List.append_assoc, RecordBinding.names_append (earlier ++ part.1)]
      exact List.subset_append_left _ _
    · exact fields one member

/-- What it is to bind a record: to name it, and to bind its members if it has any. -/
theorem bindRecordWithin_ok {users : List String} {fuel : Nat} {id : NodeId}
    {bindings : List RecordBinding} {ledger after : Ledger}
    (done : (scope.bindRecordWithin users (fuel + 1) id).run ledger = .ok bindings after) :
    ∃ cName named fields, (scope.nameFor id).run ledger = .ok cName named ∧
      named.OnlyNames after ∧ ∃ inner, bindings = inner ++ [{
          name := Identifier.camelCase cName
          cName
          isUnion := scope.graph.isUnion id
          isOpaque := (scope.graph.members? id).isNone
          fields
          users
          order := 0 }] ∧
        ((scope.graph.members? id = none ∧ inner = [] ∧ fields = []) ∨
          ∃ members parts, scope.graph.members? id = some members ∧
            (members.zipIdx.mapM fun place => scope.bindMember (scope.bindRecordWithin users fuel)
              cName place.1 place.2).run named = .ok parts after ∧
            inner = parts.flatMap (·.1) ∧ fields = parts.map (·.2)) := by
  rw [bindRecordWithin] at done
  obtain ⟨cName, named, asked, rest⟩ := bind_ok_iff.1 done
  cases held : scope.graph.members? id with
  | none =>
    simp only [held] at rest
    obtain ⟨⟨⟩, noted, note, last⟩ := bind_ok_iff.1 rest
    obtain ⟨rfl, rfl⟩ := pure_ok_iff.1 last
    exact ⟨cName, named, [], asked, (Run.note_onlyNames _ _ _).ok note, [], rfl,
      .inl ⟨rfl, rfl, rfl⟩⟩
  | some members =>
    simp only [held] at rest
    obtain ⟨parts, middle, each, last⟩ := bind_ok_iff.1 rest
    obtain ⟨rfl, rfl⟩ := pure_ok_iff.1 last
    have names : named.OnlyNames after := (Keeps.mapM fun place _ => scope.bindMember_onlyNames
      (scope.bindRecordWithin_onlyNames users fuel) cName place.1 place.2).ok each
    exact ⟨cName, named, parts.map (·.2), asked, names, parts.flatMap (·.1), rfl,
      .inr ⟨members, parts, rfl, each, rfl, rfl⟩⟩

/-- By induction on the bound of the nesting: all that the record meets is known, so its
fields name what comes earlier. -/
theorem bindRecordWithin_adds {users : List String} {fuel : Nat} {id : NodeId}
    {earlier bindings : List RecordBinding} {ledger after : Ledger}
    (isRecord : scope.graph.isRecord id = true)
    (met : ∀ target, scope.Meets id false target → scope.Provided final known enums target)
    (ready : RecordBinding.Ready known enums earlier)
    (done : (scope.bindRecordWithin users fuel id).run ledger = .ok bindings after)
    (kept : after.names.KeptIn final) : scope.Adds final known enums earlier id bindings := by
  induction fuel generalizing id earlier bindings ledger after with
  | zero => cases done
  | succ fuel ih =>
    obtain ⟨tagged, node, -⟩ := TypeGraph.isRecord_iff.1 isRecord
    obtain ⟨cName, named, fields, asked, onlyNames, inner, rfl, bound⟩ := bindRecordWithin_ok done
    have settled := nameFor_bindingName node asked
    have keptName := onlyNames.names.trans kept
    rcases bound with ⟨-, rfl, rfl⟩ | ⟨members, parts, held, each, rfl, rfl⟩
    · exact ⟨ready.concat (by simp), _, List.mem_singleton_self _,
        bindingName?_kept keptName settled⟩
    · have names : ∀ place : Member × Nat, Keeps Ledger.OnlyNames
          (scope.bindMember (scope.bindRecordWithin users fuel) cName place.1 place.2) :=
        fun place => scope.bindMember_onlyNames (scope.bindRecordWithin_onlyNames users fuel) _ _ _
      have place : ∀ place ∈ members.zipIdx, ∀ type, place.1.type = some type →
          scope.graph.MemberType id type := fun place member type isType =>
        ⟨members, held, place.1, List.fst_mem_of_mem_zipIdx member, isType⟩
      -- A record written in place meets only what this one meets, so its own walk is ready.
      have nested : ∀ one ∈ members.zipIdx, ∀ earlier child bindings ledger after,
          RecordBinding.Ready known enums earlier →
          scope.graph.inPlaceRecord? one.1.type = some child →
          (scope.bindRecordWithin users fuel child).run ledger = .ok bindings after →
          after.names.KeptIn final → scope.Adds final known enums earlier child bindings := by
        intro one member earlier child bindings ledger after ready unnamed done kept
        obtain ⟨isType, tagged, node, own, recordTag⟩ :=
          TypeGraph.inPlaceRecord?_eq_some_iff.1 unnamed
        refine ih (TypeGraph.isRecord_iff.2 ⟨tagged, node, recordTag⟩) ?_ ready done kept
        intro target meets
        exact met target (.of_inPlace isRecord (place one member child isType) node own meets)
      obtain ⟨readyAll, fields⟩ := bindMembers_ready names
        (fun one member earlier part ledger after ready done kept =>
          bindMember_ready (fun child bindings ledger after =>
            nested one member earlier child bindings ledger after ready)
            isRecord (place one member) met ready done kept)
        ready each kept
      refine ⟨?_, _, List.mem_append_right _ (List.mem_singleton_self _),
        bindingName?_kept keptName settled⟩
      rw [← List.append_assoc]
      exact readyAll.concat fields

/-! ## All needed records -/

/-- Records in an arranged order: each finds what it meets by value bound before it. -/
theorem bindArranged_supplied {wanted ordered : List NodeId} {users : NodeId → List String}
    {parts : List (List RecordBinding)} {ledger after : Ledger}
    (records : ∀ id ∈ wanted, scope.graph.isRecord id = true)
    (closed : ∀ id ∈ wanted, ∀ target, scope.Meets id false target →
      (scope.graph.isRecord target = true → target ∈ wanted) ∧
      (scope.graph.isEnum target = true →
        ∃ name ∈ enums, scope.bindingName? final target = some name))
    (arranged : scope.Arranged wanted ordered)
    (done : (ordered.mapM fun id => scope.bindRecord id (users id)).run ledger = .ok parts after)
    (kept : after.names.KeptIn final) :
    RecordBinding.Supplied enums parts.flatten ∧
      ∀ id ∈ ordered, ∃ name ∈ RecordBinding.names parts.flatten,
        scope.bindingName? final id = some name := by
  induction arranged generalizing parts after with
  | nil =>
    obtain ⟨rfl, -⟩ := mapM_nil_ok_iff.1 done
    exact ⟨.nil, by simp⟩
  | @concat ordered id _ isWanted before ih =>
    rw [List.mapM_append] at done
    obtain ⟨earlier, middle, front, rest⟩ := bind_ok_iff.1 done
    obtain ⟨last, later, back, joined⟩ := bind_ok_iff.1 rest
    obtain ⟨rfl, rfl⟩ := pure_ok_iff.1 joined
    obtain ⟨bindings, nothing, later, own, none, rfl⟩ := mapM_cons_ok_iff.1 back
    obtain ⟨rfl, rfl⟩ := mapM_nil_ok_iff.1 none
    have keptFront := ((scope.bindRecordWithin_onlyNames _ _ id).ok own).names.trans kept
    obtain ⟨supplied, named⟩ := ih front keptFront
    have met : ∀ target, scope.Meets id false target →
        scope.Provided final (RecordBinding.names earlier.flatten) enums target :=
      fun target meets =>
        ⟨fun isRecord => named target (before target
          ((closed id isWanted target meets).1 isRecord) isRecord meets),
        (closed id isWanted target meets).2⟩
    have adds := bindRecordWithin_adds (records id isWanted) met
      ⟨supplied, List.Subset.refl _⟩ own kept
    rw [List.flatten_append, List.flatten_singleton]
    refine ⟨adds.ready.supplied, fun other member => ?_⟩
    rcases List.mem_append.1 member with member | member
    · obtain ⟨name, isName, same⟩ := named other member
      rw [RecordBinding.names_append]
      exact ⟨name, List.mem_append_left _ isName, same⟩
    · obtain ⟨binding, isBinding, same⟩ := adds.own
      rw [List.mem_singleton.1 member]
      exact ⟨binding.name, List.mem_map_of_mem (List.mem_append_right _ isBinding), same⟩

theorem names_numbered (bindings : List RecordBinding) :
    RecordBinding.names (numbered bindings) = RecordBinding.names bindings := by
  have named : RecordBinding.name ∘ (fun place : RecordBinding × Nat =>
      { place.1 with order := place.2 }) = RecordBinding.name ∘ Prod.fst := rfl
  rw [RecordBinding.names, RecordBinding.names, numbered, List.map_map, named, ← List.map_map,
    List.zipIdx_map_fst]

theorem getElem?_numbered {bindings : List RecordBinding} {i : Nat} {record : RecordBinding}
    (found : (numbered bindings)[i]? = some record) :
    ∃ binding, bindings[i]? = some binding ∧ record.fields = binding.fields := by
  rw [numbered, List.getElem?_map] at found
  obtain ⟨place, at_, rfl⟩ := Option.map_eq_some_iff.1 found
  rw [List.getElem?_zipIdx] at at_
  obtain ⟨binding, there, rfl⟩ := Option.map_eq_some_iff.1 at_
  exact ⟨binding, there, rfl⟩

/-- **The needed records are all bound, each after those it holds.** -/
theorem bindRecords_supplied {bindings : List RecordBinding} {ledger after : Ledger}
    (closed : ∀ id, ledger.needs.contains id = true → ∀ target, scope.Meets id false target →
      ledger.needs.contains target = true ∧
      (scope.graph.isEnum target = true →
        ∃ name ∈ enums, scope.bindingName? after.names target = some name))
    (done : scope.bindRecords.run ledger = .ok bindings after) :
    (∀ (i : Nat) (record : RecordBinding), bindings[i]? = some record →
      ∀ field ∈ record.fields, field.type.Known (RecordBinding.names (bindings.take i)) enums) ∧
    ∀ id, ledger.needs.contains id = true → scope.graph.isRecord id = true →
      ∃ name ∈ RecordBinding.names bindings, scope.bindingName? after.names id = some name := by
  obtain ⟨same, start, read, rest⟩ := bind_ok_iff.1 done
  cases read
  obtain ⟨ordered, middle, order, rest⟩ := bind_ok_iff.1 rest
  obtain ⟨parts, later, each, last⟩ := bind_ok_iff.1 rest
  obtain ⟨rfl, rfl⟩ := pure_ok_iff.1 last
  obtain ⟨arranged, all⟩ := holdingOrder_arranged order
  have wanted : ∀ id, id ∈ ledger.needs.types.filter scope.graph.isRecord ↔
      ledger.needs.contains id = true ∧ scope.graph.isRecord id = true := fun id => by
    rw [List.mem_filter, NeedTable.mem_types_iff]
  obtain ⟨supplied, named⟩ := bindArranged_supplied (fun id member => ((wanted id).1 member).2)
    (fun id member target meets =>
      have met := closed id ((wanted id).1 member).1 target meets
      ⟨fun isRecord => (wanted target).2 ⟨met.1, isRecord⟩, met.2⟩)
    arranged each (.refl _)
  refine ⟨fun i record found field member => ?_, fun id needed isRecord => ?_⟩
  · obtain ⟨binding, there, same⟩ := getElem?_numbered found
    have earlier : RecordBinding.names ((numbered parts.flatten).take i) =
        RecordBinding.names (parts.flatten.take i) := by
      rw [RecordBinding.names, List.map_take]
      rw [RecordBinding.names, List.map_take]
      exact congrArg (List.take i) (names_numbered parts.flatten)
    rw [earlier]
    exact supplied.known there field (same ▸ member)
  · rw [names_numbered]
    exact named id (all ((wanted id).2 ⟨needed, isRecord⟩))

end Scope

end HeaderBind
