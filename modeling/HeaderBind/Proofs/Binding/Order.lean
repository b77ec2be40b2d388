/-
# HeaderBind.Proofs.Binding.Order — every record comes after those it holds

`held` lists the records that a record meets by value (`meets_of_mem_held`), and all of them
unless a fault cuts it short (`mem_held_of_meets`).  The order in which needed records are
bound is arranged: every record comes after the wanted ones that it holds, however records
point to one another (`holdingOrder_arranged`).
-/
import HeaderBind.Binding.Order
import HeaderBind.Proofs.Need.InPlace
import HeaderBind.Proofs.Outcome

namespace HeaderBind.Scope

set_option autoImplicit false

open Outcome

variable {scope : Scope}

/-! ## Records held by value -/

/-- Where a typedef name leads without a pointer, it leads in one step. -/
theorem LeadsTo.eq_of_final {type : TypeRef} {id : NodeId}
    (final : scope.typedefs.nextName? scope.graph (.type type) = none)
    (leads : scope.LeadsTo type false id) : type = some id := by
  cases leads with
  | tagged _ => rfl
  | typedefName node other _ _ =>
    exact absurd final (by simp [TypedefTable.nextName?, TypeGraph.at?, node, other])

theorem heldByMember_typedefName {inPlace : NodeId → Walk NodeId} {member : Member}
    {type id : NodeId} {name : String} (isType : member.type = some type)
    (node : scope.graph.node? type = some (.typedefName name))
    (leads : scope.LeadsTo (some type) false id) (isRecord : scope.graph.isRecord id = true) :
    scope.heldByMember inPlace member = .single id := by
  cases leads with
  | tagged other => cases node.symm.trans other
  | @typedefName _ _ other meaning _ here notMarker means leads =>
    cases node.symm.trans here
    have same := leads.eq_of_final (TypedefTable.nextName?_of_finalMeaning means)
    subst same
    simp [heldByMember, isType, node, notMarker, means, isRecord]

theorem heldByMember_tagged {inPlace : NodeId → Walk NodeId} {member : Member} {type : NodeId}
    {tagged : TaggedType} (isType : member.type = some type)
    (node : scope.graph.node? type = some (.tagged tagged)) (isRecord : tagged.isRecord = true) :
    scope.heldByMember inPlace member =
      if tagged.ownName?.isSome then .single type else inPlace type := by
  simp [heldByMember, isType, node, isRecord]

/-- Every member of a record whose walk ends has its part in the walk. -/
theorem heldWithin_of_memberType {fuel : Nat} {record type : NodeId}
    (has : scope.graph.MemberType record type)
    (ended : (scope.heldWithin (fuel + 1) record).fault = none) :
    ∃ member, member.type = some type ∧
      (scope.heldByMember (scope.heldWithin fuel) member).fault = none ∧
      ∀ id ∈ (scope.heldByMember (scope.heldWithin fuel) member).items,
        id ∈ (scope.heldWithin (fuel + 1) record).items := by
  obtain ⟨members, held, member, place, isType⟩ := has
  rw [heldWithin, held, Option.getD_some] at ended ⊢
  obtain ⟨done, kept⟩ := Walk.of_concatMap_of_none place ended
  exact ⟨member, isType, done, kept⟩

theorem mem_heldWithin_of_uses {fuel : Nat} {record id : NodeId} {type : TypeRef}
    (uses : scope.graph.Uses record type) (leads : scope.LeadsTo type false id)
    (isRecord : scope.graph.isRecord id = true)
    (ended : (scope.heldWithin fuel record).fault = none) :
    id ∈ (scope.heldWithin fuel record).items := by
  induction uses generalizing fuel with
  | typedefName has node =>
    cases fuel with
    | zero => cases ended
    | succ fuel =>
      obtain ⟨member, isType, -, kept⟩ := heldWithin_of_memberType has ended
      refine kept id ?_
      rw [heldByMember_typedefName isType node leads isRecord]
      exact List.mem_singleton_self id
  | tagged has node used =>
    cases fuel with
    | zero => cases ended
    | succ fuel =>
      obtain ⟨member, isType, -, kept⟩ := heldWithin_of_memberType has ended
      refine kept id ?_
      cases leads with
      | typedefName other _ _ _ => cases node.symm.trans other
      | tagged here =>
        cases node.symm.trans here
        obtain ⟨_, there, recordTag⟩ := TypeGraph.isRecord_iff.1 isRecord
        cases node.symm.trans there
        have own := used.resolve_right (by rw [recordTag]; decide)
        rw [heldByMember_tagged isType node recordTag, if_pos own]
        exact List.mem_singleton_self id
  | inPlace has node own recordTag _ ih =>
    cases fuel with
    | zero => cases ended
    | succ fuel =>
      obtain ⟨member, isType, done, kept⟩ := heldWithin_of_memberType has ended
      refine kept id ?_
      rw [heldByMember_tagged isType node recordTag, if_neg (by simp [own])] at done ⊢
      exact ih leads done

/-- What a record meets by value and is a record, it holds. -/
theorem mem_held_of_meets {record id : NodeId} (meets : scope.Meets record false id)
    (isRecord : scope.graph.isRecord id = true) (ended : (scope.held record).fault = none) :
    id ∈ (scope.held record).items := by
  obtain ⟨-, type, uses, leads⟩ := meets
  exact mem_heldWithin_of_uses uses leads isRecord ended

/-- What a member brings in, its record meets by value, or an unnamed one in its place does. -/
theorem meets_of_mem_heldByMember {inPlace : NodeId → Walk NodeId} {record id : NodeId}
    {members : List Member} {member : Member} (outer : scope.graph.isRecord record = true)
    (held : scope.graph.members? record = some members) (isMember : member ∈ members)
    (met : id ∈ (scope.heldByMember inPlace member).items) :
    (scope.Meets record false id ∧ scope.graph.isRecord id = true) ∨
      ∃ child, scope.graph.HoldsInPlace record child ∧ id ∈ (inPlace child).items := by
  unfold heldByMember at met
  split at met
  · cases met
  · rename_i type isType
    have has : scope.graph.MemberType record type := ⟨members, held, member, isMember, isType⟩
    split at met
    · rename_i name node
      split at met
      · cases met
      · rename_i notMarker
        split at met
        · cases met
        · rename_i meaning means
          split at met
          · rename_i isRecord
            rw [Walk.single, List.mem_singleton] at met
            subst met
            obtain ⟨tagged, there, -⟩ := TypeGraph.isRecord_iff.1 isRecord
            refine .inl ⟨⟨outer, some type, .typedefName has node, ?_⟩, isRecord⟩
            exact .typedefName node notMarker means (.tagged there)
          · cases met
        · cases met
    · rename_i tagged node
      split at met
      · cases met
      · rename_i notEnum
        have recordTag : tagged.isRecord = true := by simpa using notEnum
        split at met
        · rename_i named
          rw [Walk.single, List.mem_singleton] at met
          subst met
          refine .inl ⟨⟨outer, some id, .tagged has node (.inl named), .tagged node⟩, ?_⟩
          exact TypeGraph.isRecord_iff.2 ⟨tagged, node, recordTag⟩
        · rename_i notNamed
          have own : tagged.ownName? = none := by simpa using notNamed
          exact .inr ⟨type, ⟨has, tagged, node, own, recordTag⟩, met⟩
    · cases met

theorem meets_of_mem_heldWithin {fuel : Nat} {record id : NodeId}
    (outer : scope.graph.isRecord record = true)
    (met : id ∈ (scope.heldWithin fuel record).items) :
    scope.Meets record false id ∧ scope.graph.isRecord id = true := by
  induction fuel generalizing record with
  | zero => cases met
  | succ fuel ih =>
    rw [heldWithin] at met
    obtain ⟨member, isMember, met⟩ := Walk.exists_of_mem_concatMap met
    cases held : scope.graph.members? record with
    | none =>
      rw [held] at isMember
      cases isMember
    | some members =>
      rw [held, Option.getD_some] at isMember
      rcases meets_of_mem_heldByMember outer held isMember met with here | ⟨child, inPlace, below⟩
      · exact here
      · obtain ⟨meets, isRecord⟩ := ih inPlace.isRecord below
        obtain ⟨tagged, node, own, -⟩ := inPlace.unnamed
        exact ⟨.of_inPlace outer inPlace.member node own meets, isRecord⟩

/-- What a record holds is a record that it meets by value. -/
theorem meets_of_mem_held {record id : NodeId} (outer : scope.graph.isRecord record = true)
    (met : id ∈ (scope.held record).items) :
    scope.Meets record false id ∧ scope.graph.isRecord id = true :=
  meets_of_mem_heldWithin outer met

/-- Every typedef name that expanding the record uses stands for something. -/
def Resolves (scope : Scope) (record : NodeId) : Prop :=
  ∀ type name, scope.graph.Uses record (some type) →
    scope.graph.node? type = some (.typedefName name) → name ≠ scope.typedefs.marker →
      ∃ meaning, scope.finalMeaning name = .ok meaning

theorem Resolves.inPlace {record child : NodeId} (h : scope.Resolves record)
    (inPlace : scope.graph.HoldsInPlace record child) : scope.Resolves child := by
  obtain ⟨tagged, node, own, recordTag⟩ := inPlace.unnamed
  exact fun type name uses => h type name (.inPlace inPlace.member node own recordTag uses)

theorem heldByMember_ended {inPlace : NodeId → Walk NodeId} {record : NodeId}
    {members : List Member} {member : Member}
    (held : scope.graph.members? record = some members) (isMember : member ∈ members)
    (resolves : scope.Resolves record)
    (each : ∀ child, scope.graph.HoldsInPlace record child → (inPlace child).fault = none) :
    (scope.heldByMember inPlace member).fault = none := by
  unfold heldByMember
  split
  · rfl
  · rename_i type isType
    have has : scope.graph.MemberType record type := ⟨members, held, member, isMember, isType⟩
    split
    · rename_i name node
      split
      · rfl
      · rename_i notMarker
        obtain ⟨meaning, means⟩ := resolves type name (.typedefName has node) node notMarker
        split
        · rename_i lost
          cases means.symm.trans lost
        · split <;> rfl
        · rfl
    · rename_i tagged node
      split
      · rfl
      · rename_i notEnum
        split
        · rfl
        · rename_i notNamed
          exact each type ⟨has, tagged, node, by simpa using notNamed, by simpa using notEnum⟩
    · rfl

/-- By induction on the bound of the nesting. -/
theorem heldWithin_ended {fuel : Nat} {record : NodeId} (resolves : scope.Resolves record)
    (ends : TypeGraph.EndsWithin scope.graph.HoldsInPlace fuel record) :
    (scope.heldWithin fuel record).fault = none := by
  induction fuel generalizing record with
  | zero => exact ends.elim
  | succ fuel ih =>
    rw [heldWithin]
    refine Walk.concatMap_ended fun member isMember => ?_
    cases held : scope.graph.members? record with
    | none =>
      rw [held] at isMember
      cases isMember
    | some members =>
      rw [held, Option.getD_some] at isMember
      exact heldByMember_ended held isMember resolves fun child inPlace =>
        ih (resolves.inPlace inPlace) (ends child inPlace)

/-! ## The order -/

/-- The list is made of wanted records, each put after the wanted ones that it meets by
value. -/
inductive Arranged (scope : Scope) (wanted : List NodeId) : List NodeId → Prop
  | nil : Arranged scope wanted []
  | concat {ordered : List NodeId} {id : NodeId} :
      Arranged scope wanted ordered → id ∈ wanted →
      (∀ other ∈ wanted, scope.graph.isRecord other = true → scope.Meets id false other →
        other ∈ ordered) →
      Arranged scope wanted (ordered ++ [id])

theorem Arranged.subset {wanted ordered : List NodeId} (h : scope.Arranged wanted ordered) :
    ordered ⊆ wanted := by
  induction h with
  | nil => exact List.nil_subset _
  | concat _ isWanted _ ih =>
    exact List.append_subset.2 ⟨ih, List.cons_subset.2 ⟨isWanted, List.nil_subset _⟩⟩

/-- The order was arranged anew: what was in it still is, and so are these. -/
structure Rearranged (scope : Scope) (wanted ordered : List NodeId) (these : List NodeId)
    (result : List NodeId) : Prop where
  arranged : scope.Arranged wanted result
  kept : ordered ⊆ result
  added : these ⊆ result

theorem foldlM_rearranged {wanted : List NodeId}
    {visit : List NodeId → NodeId → Run (List NodeId)} {list ordered result : List NodeId}
    {ledger after : Ledger}
    (each : ∀ ordered id result ledger after, id ∈ list → scope.Arranged wanted ordered →
      (visit ordered id).run ledger = .ok result after →
        scope.Rearranged wanted ordered [id] result)
    (arranged : scope.Arranged wanted ordered)
    (done : (list.foldlM visit ordered).run ledger = .ok result after) :
    scope.Rearranged wanted ordered list result := by
  induction list generalizing ordered ledger with
  | nil =>
    obtain ⟨rfl, -⟩ := pure_ok_iff.1 done
    exact ⟨arranged, List.Subset.refl _, List.nil_subset _⟩
  | cons id list ih =>
    obtain ⟨middle, between, first, rest⟩ := foldlM_cons_ok_iff.1 done
    have one := each ordered id middle ledger between List.mem_cons_self arranged first
    have others := ih (fun ordered other result ledger after member =>
      each ordered other result ledger after (List.mem_cons_of_mem id member)) one.arranged rest
    refine ⟨others.arranged, List.Subset.trans one.kept others.kept, ?_⟩
    exact List.cons_subset.2 ⟨others.kept (one.added List.mem_cons_self), others.added⟩

/-- A visit puts a wanted record after those it holds. -/
theorem visitWithin_rearranged {wanted path ordered result : List NodeId} {fuel : Nat}
    {id : NodeId} {ledger after : Ledger} (isWanted : id ∈ wanted)
    (arranged : scope.Arranged wanted ordered)
    (done : (scope.visitWithin wanted fuel path ordered id).run ledger = .ok result after) :
    scope.Rearranged wanted ordered [id] result := by
  induction fuel generalizing path ordered result id ledger after with
  | zero => cases done
  | succ fuel ih =>
    rw [visitWithin] at done
    split at done
    · rename_i there
      obtain ⟨rfl, -⟩ := pure_ok_iff.1 done
      exact ⟨arranged, List.Subset.refl _, List.cons_subset.2 ⟨there, List.nil_subset _⟩⟩
    · split at done
      · obtain ⟨fault, middle, -, thrown⟩ := bind_ok_iff.1 done
        cases thrown
      · obtain ⟨before, middle, visited, last⟩ := bind_ok_iff.1 done
        have held := foldlM_rearranged (fun ordered other result ledger after member arranged =>
          ih (of_decide_eq_true (List.mem_filter.1 member).2) arranged) arranged visited
        cases ended : (scope.held id).fault with
        | some fault =>
          rw [ended] at last
          cases last
        | none =>
          rw [ended] at last
          obtain ⟨rfl, -⟩ := pure_ok_iff.1 last
          refine ⟨held.arranged.concat isWanted fun other wanted isRecord meets => ?_, ?_, ?_⟩
          · refine held.added (List.mem_filter.2 ⟨?_, decide_eq_true wanted⟩)
            exact mem_held_of_meets meets isRecord ended
          · exact List.Subset.trans held.kept (List.subset_append_left _ _)
          · exact List.subset_append_right _ _

/-- **Every wanted record is put after those it holds.** -/
theorem holdingOrder_arranged {wanted ordered : List NodeId} {ledger after : Ledger}
    (done : (scope.holdingOrder wanted).run ledger = .ok ordered after) :
    scope.Arranged wanted ordered ∧ wanted ⊆ ordered := by
  have all := foldlM_rearranged (fun ordered id result ledger after member arranged =>
    visitWithin_rearranged member arranged) .nil done
  exact ⟨all.arranged, all.added⟩

/-! ## No record twice -/

/-- The order has no record twice, and of those being visited none that it had not. -/
structure Distinct (path ordered result : List NodeId) : Prop where
  nodup : result.Nodup
  fresh : ∀ id ∈ path, id ∈ result → id ∈ ordered

theorem foldlM_distinct {path : List NodeId} {visit : List NodeId → NodeId → Run (List NodeId)}
    {list ordered result : List NodeId} {ledger after : Ledger}
    (each : ∀ ordered id result ledger after, ordered.Nodup →
      (visit ordered id).run ledger = .ok result after → Distinct path ordered result)
    (nodup : ordered.Nodup) (done : (list.foldlM visit ordered).run ledger = .ok result after) :
    Distinct path ordered result := by
  induction list generalizing ordered ledger with
  | nil =>
    obtain ⟨rfl, -⟩ := pure_ok_iff.1 done
    exact ⟨nodup, fun _ _ member => member⟩
  | cons id list ih =>
    obtain ⟨middle, between, first, rest⟩ := foldlM_cons_ok_iff.1 done
    have one := each ordered id middle ledger between nodup first
    have others := ih one.nodup rest
    exact ⟨others.nodup, fun other onPath member =>
      one.fresh other onPath (others.fresh other onPath member)⟩

/-- A record is put into the order once: while it is being visited, no visit puts it there. -/
theorem visitWithin_distinct {wanted path ordered result : List NodeId} {fuel : Nat}
    {id : NodeId} {ledger after : Ledger} (nodup : ordered.Nodup)
    (done : (scope.visitWithin wanted fuel path ordered id).run ledger = .ok result after) :
    Distinct path ordered result := by
  induction fuel generalizing path ordered result id ledger after with
  | zero => cases done
  | succ fuel ih =>
    rw [visitWithin] at done
    split at done
    · obtain ⟨rfl, -⟩ := pure_ok_iff.1 done
      exact ⟨nodup, fun _ _ member => member⟩
    · rename_i notThere
      split at done
      · obtain ⟨fault, middle, -, thrown⟩ := bind_ok_iff.1 done
        cases thrown
      · rename_i notOnPath
        obtain ⟨before, middle, visited, last⟩ := bind_ok_iff.1 done
        have distinct := foldlM_distinct (fun _ _ _ _ _ => ih) nodup visited
        have notBefore : id ∉ before := fun member =>
          notThere (distinct.fresh id List.mem_concat_self member)
        split at last
        · obtain ⟨rfl, -⟩ := pure_ok_iff.1 last
          refine ⟨?_, fun other onPath member => ?_⟩
          · refine List.nodup_append.2 ⟨distinct.nodup, by simp, ?_⟩
            intro other member last isLast same
            rw [same, List.mem_singleton.1 isLast] at member
            exact notBefore member
          · rcases List.mem_append.1 member with member | isLast
            · exact distinct.fresh other (List.mem_append_left _ onPath) member
            · rw [List.mem_singleton.1 isLast] at onPath
              exact absurd onPath notOnPath
        · cases last

theorem holdingOrder_nodup {wanted ordered : List NodeId} {ledger after : Ledger}
    (done : (scope.holdingOrder wanted).run ledger = .ok ordered after) : ordered.Nodup :=
  (foldlM_distinct (fun _ _ _ _ _ => visitWithin_distinct) List.nodup_nil done).nodup

end HeaderBind.Scope
