/-
# HeaderBind.Proofs.Binding.Total — what is needed is bound without a fault

Once all callables are bound or skipped, nothing can go wrong any more: the needed
enumerations and records are bound, whatever was named on the way
(`bindTypes_succeeds`).  For records that are bindable the walk through what they hold
ends (`held_ended`), the search for an order comes back to none that it is visiting
(`visitWithin_succeeds`), and every field has an interface type (`knownFfiType_succeeds`).
-/
import HeaderBind.Proofs.Binding.Needed
import HeaderBind.Proofs.Binding.Record
import HeaderBind.Proofs.Need.Attribution

namespace HeaderBind

set_option autoImplicit false

open Outcome Relation

namespace Scope

variable {scope : Scope} {user : String}

/-! ## What a record holds -/

/-- What a record meets by value lies below it. -/
theorem contains_of_meets {record id : NodeId} (meets : scope.Meets record false id)
    (isRecord : scope.graph.isRecord id = true) : TransGen scope.Contains record id := by
  obtain ⟨-, type, uses, leads⟩ := meets
  induction uses with
  | typedefName has node =>
    cases leads with
    | tagged other => cases node.symm.trans other
    | typedefName here notMarker means leads =>
      cases leads.eq_of_final (TypedefTable.nextName?_of_finalMeaning means)
      exact .single (.byTypedef has here means isRecord)
  | tagged has node _ =>
    cases leads with
    | tagged _ => exact .single (.direct has isRecord)
    | typedefName other _ _ _ => cases node.symm.trans other
  | inPlace has node own recordTag _ ih =>
    exact (ih leads).head (contains_of_holdsInPlace ⟨has, _, node, own, recordTag⟩)

theorem Bindable.resolves {record : NodeId} (h : scope.Bindable record) :
    scope.Resolves record := by
  intro type name uses node notMarker
  -- The type of the member stays fixed while the induction goes down to the record that has it.
  generalize isType : some type = used at uses
  induction uses with
  | typedefName has _ =>
    cases isType
    obtain ⟨members, held, member, isMember, same⟩ := has
    obtain ⟨meaning, means, -⟩ := (h.fits _ .refl members held member isMember).means name
      (by rw [same]; exact node)
    exact ⟨meaning, means⟩
  | tagged _ other _ =>
    cases isType
    cases node.symm.trans other
  | inPlace has there own recordTag _ ih =>
    exact ih (h.inner (.single ⟨has, _, there, own, recordTag⟩)) isType

/-- The walk through what a bindable record holds ends. -/
theorem held_ended {record : NodeId} (bindable : scope.Bindable record) :
    (scope.held record).fault = none :=
  heldWithin_ended bindable.resolves bindable.grounded.endsWithin

/-! ## The order -/

/-- By induction on the bound of the path's length, which is never met: the records being
visited lead to this one by value, and a bindable record does not lead to itself. -/
theorem visitWithin_succeeds {wanted : List NodeId}
    (bindable : ∀ id ∈ wanted, scope.Bindable id)
    (records : ∀ id ∈ wanted, scope.graph.isRecord id = true) {fuel : Nat}
    {path ordered : List NodeId} {id : NodeId} (isWanted : id ∈ wanted)
    (route : scope.graph.Route scope.Contains path id)
    (enough : scope.graph.size < path.length + fuel) :
    Succeeds (scope.visitWithin wanted fuel path ordered id) := by
  have straight : ∀ id ∈ wanted, ¬ TransGen scope.Contains id id := fun id isWanted =>
    (bindable id isWanted).grounded.not_cycle .refl
  have known : ∀ id ∈ wanted, ∃ type, scope.graph.node? id = some type := by
    intro id isWanted
    obtain ⟨tagged, node, -⟩ := TypeGraph.isRecord_iff.1 (records id isWanted)
    exact ⟨_, node⟩
  induction fuel generalizing path ordered id with
  | zero =>
    have := route.length_lt (straight id isWanted) (known id isWanted)
    omega
  | succ fuel ih =>
    rw [visitWithin]
    split
    · exact Succeeds.pure ordered
    · split
      · rename_i onPath
        exact absurd (route.leads id onPath) (straight id isWanted)
      · have visits : Succeeds (((scope.held id).items.filter fun record => record ∈ wanted).foldlM
            (scope.visitWithin wanted fuel (path ++ [id])) ordered) := by
          refine Succeeds.foldlM (fun ordered other member => ?_) ordered
          obtain ⟨met, among⟩ := List.mem_filter.1 member
          have below := (meets_of_mem_held (records id isWanted) met).elim contains_of_meets
          refine ih (of_decide_eq_true among)
            (route.step (straight id isWanted) (known id isWanted) below) ?_
          rw [List.length_append, List.length_singleton]
          omega
        refine visits.bind fun ordered => ?_
        rw [held_ended (bindable id isWanted)]
        exact Succeeds.pure _

theorem holdingOrder_succeeds {wanted : List NodeId}
    (bindable : ∀ id ∈ wanted, scope.Bindable id)
    (records : ∀ id ∈ wanted, scope.graph.isRecord id = true) :
    Succeeds (scope.holdingOrder wanted) := by
  refine Succeeds.foldlM (fun ordered id member => ?_) []
  exact visitWithin_succeeds bindable records member (.start id) (by simp)

/-! ## Fields -/

theorem ffiPointer_succeeds (pointee : TypeRef) :
    Succeeds (scope.ffiPointer .nothing pointee) := by
  unfold ffiPointer
  split
  · exact Succeeds.pure _
  · split
    · exact (Succeeds.pure ()).bind fun _ => Succeeds.pure _
    · exact (Succeeds.pure ()).bind fun _ => Succeeds.pure _
    · exact (Succeeds.pure ()).bind fun _ => Succeeds.pure _

theorem ffiMeaning_succeeds {type : TypeRef} (covered : scope.graph.Covered type) :
    Succeeds (scope.ffiMeaning .nothing type user) := by
  obtain ⟨node, there, isCovered⟩ := covered
  obtain ⟨id, rfl, found⟩ := Option.bind_eq_some_iff.1 there
  unfold ffiMeaning
  simp only [found]
  cases node with
  | builtin spelling => exact Succeeds.pure _
  | typedefName name => exact Succeeds.pure _
  | uncovered spelling => cases isCovered
  | pointer pointee => exact ffiPointer_succeeds pointee
  | function prototype => cases isCovered
  | tagged tagged =>
    refine (Succeeds.pure ()).bind fun _ => ?_
    exact (scope.nameFor_succeeds id).bind fun _ => Succeeds.pure _

/-- A member that fits has an interface type. -/
theorem knownFfiType_succeeds {type : TypeRef} (fits : scope.Fits type) :
    Succeeds (scope.knownFfiType type user) := by
  unfold knownFfiType ffiType
  split
  · rename_i name there
    split
    · exact Succeeds.pure _
    · obtain ⟨meaning, means, covered⟩ := fits.means name there
      simp only [means, Run.ofExcept, pure_bind]
      cases meaning with
      | variadic => exact Succeeds.pure _
      | type final => exact ffiMeaning_succeeds (covered final rfl)
  · exact ffiMeaning_succeeds fits.covered

/-! ## Records -/

theorem bindMember_succeeds {inPlace : NodeId → Run (List RecordBinding)} {record : NodeId}
    {members : List Member} {member : Member} {parentName : String} {index : Nat}
    (held : scope.graph.members? record = some members) (isMember : member ∈ members)
    (fits : scope.Fits member.type)
    (each : ∀ child, scope.graph.HoldsInPlace record child → Succeeds (inPlace child)) :
    Succeeds (scope.bindMember inPlace parentName member index) := by
  have field : ∀ nested : List RecordBinding, Succeeds (do
      let type ← scope.knownFfiType member.type parentName
      return (nested, (⟨member.label index, type⟩ : RecordField))) := fun nested =>
    (knownFfiType_succeeds fits).bind fun _ => Succeeds.pure _
  unfold bindMember
  split
  · rename_i child unnamed
    obtain ⟨isType, isUnnamed⟩ := TypeGraph.inPlaceRecord?_eq_some_iff.1 unnamed
    have inPlace : scope.graph.HoldsInPlace record child :=
      ⟨⟨members, held, member, isMember, isType⟩, isUnnamed⟩
    exact (each child inPlace).bind field
  · exact (Succeeds.pure _).bind field

/-- By induction on the bound of the nesting. -/
theorem bindRecordWithin_succeeds {users : List String} {fuel : Nat} {record : NodeId}
    (bindable : scope.Bindable record)
    (ends : TypeGraph.EndsWithin scope.graph.HoldsInPlace fuel record) :
    Succeeds (scope.bindRecordWithin users fuel record) := by
  induction fuel generalizing record with
  | zero => exact ends.elim
  | succ fuel ih =>
    rw [bindRecordWithin]
    refine (scope.nameFor_succeeds record).bind fun cName => ?_
    cases held : scope.graph.members? record with
    | none => exact (Run.note_succeeds _ _ _).bind fun _ => Succeeds.pure _
    | some members =>
      refine (Succeeds.mapM fun place isPlace => ?_).bind fun _ => Succeeds.pure _
      have isMember := List.fst_mem_of_mem_zipIdx isPlace
      refine bindMember_succeeds held isMember (bindable.fits record .refl members held _ isMember)
        fun child inPlace => ?_
      exact ih (bindable.inner (.single inPlace)) (ends child inPlace)

theorem bindRecord_succeeds {record : NodeId} (bindable : scope.Bindable record)
    (users : List String) : Succeeds (scope.bindRecord record users) :=
  bindRecordWithin_succeeds bindable bindable.grounded.endsWithin

theorem bindEnums_succeeds : Succeeds scope.bindEnums := by
  refine Succeeds.get.bind fun ledger => Succeeds.mapM fun place _ => ?_
  exact (scope.nameFor_succeeds _).bind fun _ => Succeeds.pure _

/-- Where every needed record is bindable, all of them are bound. -/
theorem bindRecords_succeeds {ledger : Ledger} (bindable : scope.NeedsBindable ledger) :
    ∃ bindings after, scope.bindRecords.run ledger = .ok bindings after := by
  have wanted : ∀ id ∈ ledger.needs.types.filter scope.graph.isRecord,
      scope.Bindable id ∧ scope.graph.isRecord id = true := by
    intro id member
    obtain ⟨needed, isRecord⟩ := List.mem_filter.1 member
    exact ⟨bindable id (NeedTable.mem_types_iff.1 needed) isRecord, isRecord⟩
  obtain ⟨ordered, middle, order⟩ := holdingOrder_succeeds (fun id member => (wanted id member).1)
    (fun id member => (wanted id member).2) ledger
  have among := (holdingOrder_arranged order).1.subset
  have each : Succeeds (ordered.mapM fun id => scope.bindRecord id (ledger.needs.users id)) :=
    Succeeds.mapM fun id member => bindRecord_succeeds (wanted id (among member)).1 _
  obtain ⟨parts, after, bound⟩ := each middle
  refine ⟨numbered parts.flatten, after, ?_⟩
  refine bind_ok_iff.2 ⟨ledger, ledger, rfl, bind_ok_iff.2 ⟨ordered, middle, order, ?_⟩⟩
  exact bind_ok_iff.2 ⟨parts, after, bound, rfl⟩

end Scope

/-! ## Libraries -/

namespace HeaderLibrary

variable {library : HeaderLibrary} {skipUnsupported : Bool}

/-- **Once the callables are bound, everything is.**  Where every member has a type and none
is a typedef name for a function, the needed enumerations and records are bound after the
callables of all headers, whether or not unsupported ones were skipped. -/
theorem bindTypes_succeeds {graph : TypeGraph} {marker : String} {bound : List BoundHeader}
    {after : Workspace}
    (typed : (library.readTypedefs (.start graph marker)).scope.MembersTyped)
    (done : (library.bindHeaders skipUnsupported).run (.start graph marker) = .ok bound after) :
    ∃ enums named records last,
      after.scope.bindEnums.run after.ledger = .ok enums named ∧
        after.scope.bindRecords.run named = .ok records last := by
  obtain ⟨enums, named, first⟩ := after.scope.bindEnums_succeeds after.ledger
  have needs := (after.scope.bindEnums_onlyNames.ok first).needs
  have bindable := (bindHeaders_bindable typed done).needs.of_needs needs
  obtain ⟨records, last, second⟩ := Scope.bindRecords_succeeds bindable
  exact ⟨enums, named, records, last, first, second⟩

end HeaderLibrary

theorem membersTyped_pixels :
    (pixelLibrary.readTypedefs (.start pixelTypes "va")).scope.MembersTyped := by
  have members : ∀ record members, pixelTypes.members? record = some members →
      ∀ member ∈ members, member.type = some ⟨0⟩ ∨ member.type = some ⟨1⟩ ∨
        member.type = some ⟨2⟩ := by
    rintro ⟨_ | _ | _ | _ | _ | _ | _ | index⟩ members held member isMember
    all_goals simp [pixelTypes, TypeGraph.members?, TypeGraph.tagged?, TypeGraph.node?] at held
    · subst held
      rw [List.mem_singleton.1 isMember]
      exact .inl rfl
    · subst held
      rcases List.mem_pair.1 isMember with rfl | rfl
      · exact .inr (.inr rfl)
      · exact .inr (.inl rfl)
  refine ⟨fun record list held member isMember => ?_, ?_⟩
  · rcases members record list held member isMember with same | same | same
    all_goals exact ⟨_, by rw [same]; rfl⟩
  · intro record list held member isMember name final prototype there
    rcases members record list held member isMember with same | same | same
    all_goals
      rw [same] at there
      cases there

/-- After `draw` is bound and `plot` is skipped, the pixel and what it holds are bound. -/
theorem bindTypes_succeeds_pixels : ∃ bound after,
    (pixelLibrary.readTypedefs (.start pixelTypes "va")).scope.MembersTyped ∧
      (pixelLibrary.bindHeaders true).run (.start pixelTypes "va") = .ok bound after ∧
      after.ledger.skipped = ["plot"] ∧
      ∃ enums named records last,
        after.scope.bindEnums.run after.ledger = .ok enums named ∧
          after.scope.bindRecords.run named = .ok records last := by
  have tested : gives (fun _ after => decide (after.ledger.skipped = ["plot"]))
      ((pixelLibrary.bindHeaders true).run (.start pixelTypes "va")) = true := by decide +kernel
  obtain ⟨bound, after, done, shown⟩ := exists_of_gives tested
  exact ⟨bound, after, membersTyped_pixels, done, of_decide_eq_true shown,
    HeaderLibrary.bindTypes_succeeds membersTyped_pixels done⟩

end HeaderBind
