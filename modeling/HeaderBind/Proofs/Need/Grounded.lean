/-
# HeaderBind.Proofs.Need.Grounded — records whose nesting ends

A record is grounded when every way down through records that are contained by value
ends, so that it has a size in memory.  A record that is expanded to the end is grounded
(`grounded_of_expandWith`), and so is every record that a type needs which is collected
(`grounded_of_need`): a collection that gives a result has seen no record that contains
itself, whether it was met by name, written in place or passed behind a pointer.
-/
import HeaderBind.Proofs.Need.Cycle

namespace HeaderBind.Scope

set_option autoImplicit false

open Outcome Relation

/-- Every way down from the record through records that are contained by value ends. -/
def Grounded (scope : Scope) (record : NodeId) : Prop :=
  Acc (fun inner outer => scope.Contains outer inner) record

variable {scope : Scope} {user : String}

/-- A grounded record leads to no record that contains itself. -/
theorem Grounded.not_cycle {record inner : NodeId} (h : scope.Grounded record)
    (leads : ReflTransGen scope.Contains record inner) : ¬ TransGen scope.Contains inner inner :=
  TypeGraph.not_transGen_of_acc (TypeGraph.acc_of_reflTransGen h leads)

theorem Contains.isRecord {record inner : NodeId} (h : scope.Contains record inner) :
    scope.graph.isRecord inner = true := by
  cases h with
  | direct _ isRecord => exact isRecord
  | byTypedef _ _ _ isRecord => exact isRecord

/-- What a record contains is written in place, or the record meets it. -/
theorem Contains.meets_or_holdsInPlace {record inner : NodeId}
    (isRecord : scope.graph.isRecord record = true) (h : scope.Contains record inner) :
    scope.Meets record false inner ∨ scope.graph.HoldsInPlace record inner := by
  obtain ⟨tagged, there, -⟩ := TypeGraph.isRecord_iff.1 h.isRecord
  cases h with
  | direct has _ =>
    exact (has.meets_or_holdsInPlace isRecord (.tagged there)).imp_right And.right
  | byTypedef has node means _ =>
    refine (has.meets_or_holdsInPlace isRecord ?_).imp_right And.right
    refine .typedefName node ?_ means (.tagged there)
    rintro rfl
    cases means.symm.trans TypedefTable.finalMeaning_marker

/-- By induction on the records written in place: what the record contains it meets, or it
is written in place and meets only what the record meets. -/
theorem grounded_of_expansion {record : NodeId} (isRecord : scope.graph.isRecord record = true)
    (ended : (scope.graph.expansion user record).fault = none)
    (met : ∀ next, scope.Meets record false next → scope.graph.isRecord next = true →
      scope.Grounded next) : scope.Grounded record := by
  have nesting := TypeGraph.acc_of_endsWithin (TypeGraph.endsWithin_of_expansionWithin ended)
  clear ended
  induction nesting with
  | intro record _ ih =>
    refine .intro record fun inner contains => ?_
    rcases contains.meets_or_holdsInPlace isRecord with meets | inPlace
    · exact met inner meets contains.isRecord
    · obtain ⟨tagged, node, own, -⟩ := inPlace.unnamed
      refine ih inner inPlace contains.isRecord fun next meets => met next ?_
      exact .of_inPlace isRecord inPlace.member node own meets

/-- By induction on the bound of the path's length: every record that this one meets by
value was expanded to the end in turn. -/
theorem grounded_of_expandWith {fuel : Nat} {path : List NodeId} {record : NodeId}
    {ledger after : Ledger} (isRecord : scope.graph.isRecord record = true)
    (done : (scope.expandWith user (scope.collectWithin user fuel path) record).run ledger =
      .ok () after) : scope.Grounded record := by
  induction fuel generalizing path record ledger after with
  | zero =>
    obtain ⟨ended, -⟩ := Run.followWalk_ok_iff.1 done
    refine grounded_of_expansion isRecord ended fun next meets _ => ?_
    obtain ⟨start, last, collected⟩ := collect_ok_of_expandWith meets done
    cases collected
  | succ fuel ih =>
    obtain ⟨ended, -⟩ := Run.followWalk_ok_iff.1 done
    refine grounded_of_expansion isRecord ended fun next meets nextRecord => ?_
    obtain ⟨start, last, collected⟩ := collect_ok_of_expandWith meets done
    rcases collectWithin_ok nextRecord collected with ⟨-, passed⟩ | ⟨-, middle, expanded⟩
    · cases passed
    · exact ih nextRecord expanded

/-- **Whatever is needed is grounded**: all records that a type needs which was collected. -/
theorem grounded_of_need {type : TypeRef} {viaPointer : Bool} {ledger after : Ledger}
    {record : NodeId} (done : (scope.need type user viaPointer).run ledger = .ok () after)
    (needs : scope.Needs type record) (isRecord : scope.graph.isRecord record = true) :
    scope.Grounded record := by
  obtain ⟨front, trail⟩ := exists_trail needs isRecord
  obtain ⟨fuel, start, last, expanded⟩ := expandWith_ok_of_trail done trail
  exact grounded_of_expandWith isRecord expanded

end HeaderBind.Scope
