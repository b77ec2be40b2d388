/-
# HeaderBind.Proofs.CType.Spine — where a base type is put, and what that changes

The spine of a type leads to at most one open slot (`OpensAt`), and to assemble a declared
type fills that slot and leaves every other node as it is (`node?_assemble`).  While no
declared base type has a spine to an open slot, no spine leads to an open slot to which it
did not lead before (`opensAt_of_assemble`); so a declarator that was assembled once is
assembled again without any effect (`Done.again`).

What is assembled later changes no type whose open slot, if it has one, belongs to
declarators that have no base type to put there (`Assembled.node?_of_settled`).
-/
import HeaderBind.Proofs.CType.Route
import HeaderBind.Proofs.CType.Shape

namespace HeaderBind

set_option autoImplicit false

open Relation

/-- Types of declarators, each with the base type of its declaration. -/
abbrev Assembly := TypeRef × TypeRef

/-- The types of parameters and members: those to which no spine leads. -/
def CType.heldTypes : CType → List TypeRef
  | .function prototype => prototype.params.map Parameter.type
  | .tagged type => (type.members.getD []).map Member.type
  | _ => []

namespace TypeGraph

/-! ## Spines -/

/-- The slot of a node that the spine leads through, if it has one. -/
def slot? (graph : TypeGraph) (id : NodeId) : Option TypeRef :=
  (graph.node? id).bind CType.spineSlot

/-- The spine of a type leads to the open slot of a node. -/
inductive OpensAt (graph : TypeGraph) : TypeRef → NodeId → Prop
  | here {id : NodeId} : graph.slot? id = some none → OpensAt graph (some id) id
  | next {id hole : NodeId} {next : TypeRef} :
      graph.slot? id = some next → OpensAt graph next hole → OpensAt graph (some id) hole

/-- The spine of a type leads to no open slot. -/
def Closed (graph : TypeGraph) (type : TypeRef) : Prop := ∀ hole, ¬ graph.OpensAt type hole

variable {graph : TypeGraph}

theorem ext_node? {first second : TypeGraph} (same : ∀ id, first.node? id = second.node? id) :
    first = second := by
  obtain ⟨nodes⟩ := first
  obtain ⟨others⟩ := second
  have equal : nodes = others := Array.ext_getElem? fun index => same ⟨index⟩
  rw [equal]

theorem closed_none : graph.Closed none := fun _ opens => nomatch opens

theorem OpensAt.isOpen {type : TypeRef} {hole : NodeId} (h : graph.OpensAt type hole) :
    graph.slot? hole = some none := by
  induction h with
  | here isOpen => exact isOpen
  | next _ _ ih => exact ih

theorem OpensAt.unique {type : TypeRef} {hole other : NodeId} (h : graph.OpensAt type hole)
    (again : graph.OpensAt type other) : other = hole := by
  induction h with
  | here isOpen =>
    cases again with
    | here _ => rfl
    | next slot rest =>
      cases isOpen.symm.trans slot
      cases rest
  | next slot opens ih =>
    cases again with
    | here isOpen =>
      cases slot.symm.trans isOpen
      cases opens
    | next slot' rest =>
      cases slot.symm.trans slot'
      exact ih rest

theorem exists_node?_of_slot? {id : NodeId} {slot : TypeRef} (h : graph.slot? id = some slot) :
    ∃ type, graph.node? id = some type := by
  obtain ⟨type, node, -⟩ := Option.bind_eq_some_iff.1 h
  exact ⟨type, node⟩

/-! ## The search for the open slot -/

/-- The spine leads from the one node to the other. -/
def SpineNext (graph : TypeGraph) (id next : NodeId) : Prop := graph.slot? id = some (some next)

/-- A spine to an open slot does not come back to a node on it. -/
theorem OpensAt.acc {id hole : NodeId} {type : TypeRef} (h : graph.OpensAt type hole)
    (isType : type = some id) : Acc (fun inner outer => graph.SpineNext outer inner) id := by
  induction h generalizing id with
  | here isOpen =>
    cases isType
    refine .intro _ fun next step => ?_
    cases isOpen.symm.trans step
  | next slot _ ih =>
    cases isType
    refine .intro _ fun next step => ?_
    cases slot.symm.trans step
    exact ih rfl

theorem opensAt_of_openNode? {fuel : Nat} {id hole : NodeId}
    (found : graph.openNode? fuel id = some hole) : graph.OpensAt (some id) hole := by
  induction fuel generalizing id with
  | zero => cases found
  | succ fuel ih =>
    rw [openNode?] at found
    split at found
    · cases found
    · rename_i isOpen
      cases found
      exact .here isOpen
    · rename_i slot
      exact .next slot (ih found)

/-- By induction on the spine: the nodes passed are a route, so the bound is not met. -/
theorem openNode?_of_route {fuel : Nat} {front : List NodeId} {id hole : NodeId} {type : TypeRef}
    (h : graph.OpensAt type hole) (isType : type = some id)
    (route : graph.Route graph.SpineNext front id) (enough : graph.size ≤ front.length + fuel) :
    graph.openNode? fuel id = some hole := by
  induction h generalizing fuel front id with
  | here isOpen =>
    cases isType
    have acyclic := not_transGen_of_acc ((OpensAt.here isOpen).acc rfl)
    have short := route.length_lt acyclic (exists_node?_of_slot? isOpen)
    cases fuel with
    | zero => omega
    | succ fuel =>
      rw [openNode?]
      unfold slot? at isOpen
      rw [isOpen]
  | @next _ hole next slot opens ih =>
    cases isType
    have acyclic := not_transGen_of_acc ((OpensAt.next slot opens).acc rfl)
    have short := route.length_lt acyclic (exists_node?_of_slot? slot)
    cases next with
    | none => cases opens
    | some next =>
      cases fuel with
      | zero => omega
      | succ fuel =>
        have further := route.step acyclic (exists_node?_of_slot? slot) (.single slot)
        have rest : graph.openNode? fuel next = some hole := by
          refine ih rfl further ?_
          rw [List.length_append, List.length_singleton]
          omega
        rw [openNode?]
        unfold slot? at slot
        rw [slot]
        exact rest

/-- The search finds the open slot to which the spine leads. -/
theorem openNode?_eq_some_iff {id hole : NodeId} :
    graph.openNode? graph.size id = some hole ↔ graph.OpensAt (some id) hole :=
  ⟨opensAt_of_openNode?, fun opens =>
    openNode?_of_route opens rfl (.start id) (Nat.le_add_left _ _)⟩

instance (type : TypeRef) : Decidable (graph.Closed type) :=
  match type with
  | none => isTrue closed_none
  | some id => decidable_of_iff (graph.openNode? graph.size id = none) <| by
      rw [Option.eq_none_iff_forall_ne_some]
      exact forall_congr' fun hole => not_congr openNode?_eq_some_iff

/-! ## Assembling -/

open Classical in
/-- **To assemble a type fills the open slot of its spine and changes nothing else.** -/
theorem node?_assemble (graph : TypeGraph) (declarator base : TypeRef) (id : NodeId) :
    (graph.assemble declarator base).2.node? id =
      if graph.OpensAt declarator id then (graph.node? id).map (CType.fillSlot base)
      else graph.node? id := by
  cases declarator with
  | none =>
    rw [if_neg (closed_none id)]
    rfl
  | some start =>
    show (graph.fillSpine start base).node? id = _
    unfold fillSpine
    cases found : graph.openNode? graph.size start with
    | none =>
      have closed : ¬ graph.OpensAt (some start) id := by
        intro opens
        rw [openNode?_eq_some_iff.2 opens] at found
        cases found
      rw [if_neg closed]
    | some hole =>
      have opens := openNode?_eq_some_iff.1 found
      obtain ⟨type, node⟩ := exists_node?_of_slot? opens.isOpen
      dsimp only
      rw [node]
      by_cases same : id = hole
      · rw [same, if_pos opens, node?_set_self node, node, Option.map_some]
      · rw [node?_set_ne graph same, if_neg fun other => same (opens.unique other)]

theorem slot?_fillSlot {id : NodeId} {type : CType} (node : graph.node? id = some type)
    (isOpen : graph.slot? id = some none) (base : TypeRef) :
    (type.fillSlot base).spineSlot = some base := by
  unfold slot? at isOpen
  rw [node, Option.bind_some] at isOpen
  cases type <;> first | rfl | cases isOpen

open Classical in
theorem slot?_assemble (graph : TypeGraph) (declarator base : TypeRef) (id : NodeId) :
    (graph.assemble declarator base).2.slot? id =
      if graph.OpensAt declarator id then some base else graph.slot? id := by
  unfold slot?
  rw [node?_assemble]
  split
  · rename_i opens
    obtain ⟨type, node⟩ := exists_node?_of_slot? opens.isOpen
    rw [node, Option.map_some, Option.bind_some]
    exact slot?_fillSlot node opens.isOpen base
  · rfl

/-- What is not an open slot stays as it is. -/
theorem slot?_assemble_of_ne {declarator base : TypeRef} {id : NodeId} {slot : Option TypeRef}
    (here : graph.slot? id = slot) (notOpen : slot ≠ some none) :
    (graph.assemble declarator base).2.slot? id = slot := by
  rw [slot?_assemble, if_neg fun opens => notOpen (here.symm.trans opens.isOpen), here]

/-- A base type without an open slot opens no spine. -/
theorem opensAt_of_assemble {declarator base type : TypeRef} {hole : NodeId}
    (closed : graph.Closed base)
    (h : (graph.assemble declarator base).2.OpensAt type hole) : graph.OpensAt type hole := by
  induction h with
  | here isOpen =>
    rw [slot?_assemble] at isOpen
    split at isOpen
    · rename_i opens
      exact .here opens.isOpen
    · exact .here isOpen
  | next slot _ ih =>
    rw [slot?_assemble] at slot
    split at slot
    · cases slot
      exact absurd ih (closed _)
    · exact .next slot ih

/-- A declarator that still leads to an open slot was assembled without a base type. -/
theorem base_eq_none_of_opensAt {declarator base : TypeRef} {hole : NodeId}
    (closed : graph.Closed base)
    (opens : (graph.assemble declarator base).2.OpensAt declarator hole) : base = none := by
  have isOpen := opens.isOpen
  rw [slot?_assemble, if_pos (opensAt_of_assemble closed opens)] at isOpen
  exact Option.some.inj isOpen

/-- Where the spine leads to no open slot, or nothing is put there, nothing changes. -/
theorem assemble_eq_self {declarator base : TypeRef}
    (nothing : ∀ hole, graph.OpensAt declarator hole → base = none) :
    (graph.assemble declarator base).2 = graph := by
  refine ext_node? fun id => ?_
  rw [node?_assemble]
  split
  · rename_i opens
    obtain ⟨type, node⟩ := exists_node?_of_slot? opens.isOpen
    have isOpen := opens.isOpen
    unfold slot? at isOpen
    rw [node, Option.bind_some] at isOpen
    rw [nothing id opens, node, Option.map_some]
    cases type with
    | pointer pointee =>
      cases isOpen
      rfl
    | function prototype =>
      obtain ⟨params, result, variadic⟩ := prototype
      cases isOpen
      rfl
    | builtin spelling => cases isOpen
    | typedefName name => cases isOpen
    | uncovered spelling => cases isOpen
    | tagged tagged => cases isOpen
  · rfl

/-! ## Slots that are filled stay -/

/-- Open slots were filled, and everything else is as it was. -/
structure Filled (earlier later : TypeGraph) : Prop where
  shape : earlier.SameShape later
  kept : ∀ id, earlier.slot? id ≠ some none → later.node? id = earlier.node? id

namespace Filled

variable {first second third : TypeGraph}

theorem refl (graph : TypeGraph) : graph.Filled graph := ⟨.refl graph, fun _ _ => rfl⟩

theorem trans (one : first.Filled second) (two : second.Filled third) : first.Filled third := by
  refine ⟨one.shape.trans two.shape, fun id notOpen => ?_⟩
  have same := one.kept id notOpen
  have still : second.slot? id ≠ some none := by
    unfold slot? at notOpen ⊢
    rwa [same]
  exact (two.kept id still).trans same

end Filled

theorem filled_assemble (graph : TypeGraph) (declarator base : TypeRef) :
    graph.Filled (graph.assemble declarator base).2 := by
  refine ⟨sameShape_assemble graph declarator base, fun id notOpen => ?_⟩
  rw [node?_assemble, if_neg fun opens => notOpen opens.isOpen]

/-- A declarator that is assembled with a base type has no open slot of its own. -/
theorem slot?_assemble_self {id : NodeId} {base : NodeId} {slot : TypeRef}
    (h : (graph.assemble (some id) (some base)).2.slot? id = some slot) :
    ∃ next, slot = some next := by
  rw [slot?_assemble] at h
  split at h
  · cases h
    exact ⟨base, rfl⟩
  · rename_i closed
    cases slot with
    | some next => exact ⟨next, rfl⟩
    | none => exact absurd (.here h) closed

/-! ## One after the other -/

/-- The declared types were assembled one after the other, in any order and any number of
times. -/
def Assembled (entries : List Assembly) : TypeGraph → TypeGraph → Prop :=
  ReflTransGen fun earlier later =>
    ∃ entry ∈ entries, later = (earlier.assemble entry.1 entry.2).2

namespace Assembled

variable {entries : List Assembly} {first second third : TypeGraph}

theorem refl (graph : TypeGraph) : Assembled entries graph graph := ReflTransGen.refl

theorem trans (one : Assembled entries first second) (two : Assembled entries second third) :
    Assembled entries first third := ReflTransGen.trans one two

theorem single {entry : Assembly} (member : entry ∈ entries) (graph : TypeGraph) :
    Assembled entries graph (graph.assemble entry.1 entry.2).2 :=
  ReflTransGen.single ⟨entry, member, rfl⟩

theorem filled (h : Assembled entries first second) : first.Filled second := by
  induction h with
  | refl => exact .refl first
  | tail _ step ih =>
    obtain ⟨entry, -, rfl⟩ := step
    exact ih.trans (filled_assemble _ entry.1 entry.2)

theorem size_eq (h : Assembled entries first second) : second.size = first.size := by
  induction h with
  | refl => rfl
  | @tail middle _ _ step ih =>
    obtain ⟨⟨declarator, base⟩, -, rfl⟩ := step
    cases declarator with
    | none => exact ih
    | some start => exact (middle.size_fillSpine start base).trans ih

end Assembled

/-- The open slots belong to declarators: no parameter, member or base type has a spine to
one, and where declarators share one, either all of them have a base type to put there or
none has. -/
structure Owned (graph : TypeGraph) (entries : List Assembly) : Prop where
  params : ∀ id prototype, graph.node? id = some (.function prototype) →
    ∀ param ∈ prototype.params, graph.Closed param.type
  members : ∀ record members, graph.members? record = some members →
    ∀ member ∈ members, graph.Closed member.type
  bases : ∀ entry ∈ entries, graph.Closed entry.2
  alike : ∀ entry ∈ entries, ∀ other ∈ entries, ∀ hole,
    graph.OpensAt entry.1 hole → graph.OpensAt other.1 hole → entry.2 = none → other.2 = none

/-- Where every declaration has a base type, it is enough that no parameter, member or base
type has a spine to an open slot. -/
theorem owned_of_based {entries : List Assembly}
    (held : ∀ type ∈ graph.nodes.toList, ∀ ref ∈ type.heldTypes, graph.Closed ref)
    (based : ∀ entry ∈ entries, entry.2 ≠ none ∧ graph.Closed entry.2) : graph.Owned entries := by
  have inside : ∀ id type, graph.node? id = some type → type ∈ graph.nodes.toList :=
    fun id type node => Array.mem_toList_iff.2 (Array.mem_of_getElem? node)
  refine ⟨fun id prototype node param isParam => ?_, fun record members known member isMember => ?_,
    fun entry isEntry => (based entry isEntry).2, fun entry isEntry _ _ _ _ _ nothing =>
      absurd nothing (based entry isEntry).1⟩
  · exact held _ (inside id _ node) _ (List.mem_map_of_mem isParam)
  · obtain ⟨tagged, isTagged, isHeld⟩ := Option.bind_eq_some_iff.1 known
    refine held _ (inside record _ (tagged?_eq_some_iff.1 isTagged)) _ ?_
    rw [CType.heldTypes, isHeld]
    exact List.mem_map_of_mem isMember

theorem SameShape.function {first second : TypeGraph} (same : first.SameShape second)
    {id : NodeId} {prototype : Prototype} (node : first.node? id = some (.function prototype)) :
    ∃ result, second.node? id = some (.function { prototype with result }) := by
  have shapes := same id
  rw [node] at shapes
  obtain ⟨other, found, shape⟩ := Option.map_eq_some_iff.1 shapes.symm
  cases other with
  | function prototype' =>
    obtain ⟨params, result, variadic⟩ := prototype
    obtain ⟨params', result', variadic'⟩ := prototype'
    simp only [CType.shape, CType.function.injEq, Prototype.mk.injEq] at shape
    obtain ⟨rfl, -, rfl⟩ := shape
    exact ⟨result', found⟩
  | _ => cases shape

/-- To assemble a type that belongs to a declarator keeps the open slots with declarators. -/
theorem Owned.assemble {entries : List Assembly} {entry : Assembly} (h : graph.Owned entries)
    (member : entry ∈ entries) : (graph.assemble entry.1 entry.2).2.Owned entries := by
  have closed := h.bases entry member
  have same := sameShape_assemble graph entry.1 entry.2
  have still : ∀ type, graph.Closed type →
      (graph.assemble entry.1 entry.2).2.Closed type :=
    fun type none hole opens => none hole (opensAt_of_assemble closed opens)
  refine ⟨fun id prototype node param isParam => ?_, fun record members held other isMember => ?_,
    fun other isEntry => still _ (h.bases other isEntry), ?_⟩
  · obtain ⟨result, before⟩ := same.symm.function node
    exact still _ (h.params id _ before param isParam)
  · rw [same.members?_eq] at held
    exact still _ (h.members record members held other isMember)
  · intro one isOne two isTwo hole opens opens'
    exact h.alike one isOne two isTwo hole (opensAt_of_assemble closed opens)
      (opensAt_of_assemble closed opens')

theorem Owned.assembled {entries : List Assembly} {first second : TypeGraph}
    (h : first.Owned entries) (later : Assembled entries first second) : second.Owned entries := by
  induction later with
  | refl => exact h
  | tail _ step ih =>
    obtain ⟨entry, member, rfl⟩ := step
    exact ih.assemble member

theorem Assembled.opensAt {entries : List Assembly} {first second : TypeGraph}
    (later : Assembled entries first second) (owned : first.Owned entries) {type : TypeRef}
    {hole : NodeId} (h : second.OpensAt type hole) : first.OpensAt type hole := by
  induction later with
  | refl => exact h
  | tail before step ih =>
    obtain ⟨entry, member, rfl⟩ := step
    exact ih (opensAt_of_assemble ((owned.assembled before).bases entry member) h)

/-! ## Types that no longer change -/

/-- No declarator with a base type has a spine to the open slot of the type. -/
def Settled (graph : TypeGraph) (entries : List Assembly) (type : TypeRef) : Prop :=
  ∀ hole, graph.OpensAt type hole → ∀ entry ∈ entries, graph.OpensAt entry.1 hole → entry.2 = none

variable {entries : List Assembly}

theorem Closed.settled {type : TypeRef} (h : graph.Closed type) : graph.Settled entries type :=
  fun hole opens => absurd opens (h hole)

theorem Settled.assembled {first second : TypeGraph} {type : TypeRef}
    (h : first.Settled entries type) (owned : first.Owned entries)
    (later : Assembled entries first second) : second.Settled entries type :=
  fun hole opens entry member opens' =>
    h hole (later.opensAt owned opens) entry member (later.opensAt owned opens')

theorem Settled.next {id : NodeId} {next : TypeRef} (h : graph.Settled entries (some id))
    (slot : graph.slot? id = some next) : graph.Settled entries next :=
  fun hole opens => h hole (.next slot opens)

/-- **A settled type is not changed by what is assembled later.** -/
theorem Assembled.node?_of_settled {first second : TypeGraph}
    (later : Assembled entries first second) (owned : first.Owned entries) {id : NodeId}
    (settled : first.Settled entries (some id)) : second.node? id = first.node? id := by
  induction later with
  | refl => rfl
  | @tail middle last before step ih =>
    obtain ⟨entry, member, rfl⟩ := step
    refine Eq.trans ?_ ih
    rw [node?_assemble]
    split
    · rename_i opens
      -- The slot of the node itself was filled, with nothing.
      have here : first.OpensAt (some id) id := Assembled.opensAt before owned (.here opens.isOpen)
      have nothing := settled id here entry member (Assembled.opensAt before owned opens)
      have same : (middle.assemble entry.1 entry.2).2 = middle :=
        assemble_eq_self fun _ _ => nothing
      have unchanged := node?_assemble middle entry.1 entry.2 id
      rw [same, if_pos opens] at unchanged
      exact unchanged.symm
    · rfl

theorem Assembled.at?_of_settled {first second : TypeGraph}
    (later : Assembled entries first second) (owned : first.Owned entries) {type : TypeRef}
    (settled : first.Settled entries type) : second.at? type = first.at? type := by
  cases type with
  | none => rfl
  | some id => exact later.node?_of_settled owned settled

/-- What the declarator left open was left so for want of a base type. -/
def Done (graph : TypeGraph) (entry : Assembly) : Prop :=
  ∀ hole, graph.OpensAt entry.1 hole → entry.2 = none

theorem Owned.done_assemble {entry : Assembly} (h : graph.Owned entries)
    (member : entry ∈ entries) : (graph.assemble entry.1 entry.2).2.Done entry := by
  intro hole opens
  exact base_eq_none_of_opensAt (h.bases entry member) opens

theorem Done.assembled {first second : TypeGraph} {entry : Assembly} (h : first.Done entry)
    (owned : first.Owned entries) (later : Assembled entries first second) :
    second.Done entry :=
  fun hole opens => h hole (later.opensAt owned opens)

/-- A declarator that is done is assembled again without any effect. -/
theorem Done.again {entry : Assembly} (h : graph.Done entry) :
    (graph.assemble entry.1 entry.2).2 = graph :=
  assemble_eq_self h

/-- In a graph that was reached after a declarator was assembled, assembling it has no
effect. -/
theorem Owned.again {entry : Assembly} {later : TypeGraph} (h : graph.Owned entries)
    (member : entry ∈ entries)
    (reached : Assembled entries (graph.assemble entry.1 entry.2).2 later) :
    (later.assemble entry.1 entry.2).2 = later :=
  ((h.done_assemble member).assembled (h.assemble member) reached).again

theorem Done.settled {entry : Assembly} (h : graph.Done entry) (owned : graph.Owned entries)
    (member : entry ∈ entries) : graph.Settled entries entry.1 := by
  intro hole opens other isEntry opens'
  exact owned.alike entry member other isEntry hole opens opens' (h hole opens)

end TypeGraph

end HeaderBind
