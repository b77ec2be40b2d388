/-
# HeaderBind.Proofs.Clang.Reads — what a conversion knows after its visits

`Tells unit opened visited state` says what the state of a conversion holds once the
declarations `visited` were visited, while the definitions of the keys `opened` are
being read.  Every visited key has one node, no two keys share one, and no tagged
type is without a key.  Its tag and name are those of the first visited declaration,
its members or constants those of the first definition met.

`Reads unit bound x pending gives` says that a step of the conversion visits what is
pending and all it leads on to, and tells of it afterwards.  The steps are composed
by `Reads.bind` and `Reads.mapM`; the one that visits is `taggedNodeWithin_reads`.
Each level of it marks one more key, so the number of cursors bounds the levels
(`unread_cons_lt`).
-/
import HeaderBind.Proofs.Clang.Shown
import HeaderBind.Proofs.Clang.Visits

namespace HeaderBind

set_option autoImplicit false

namespace TypeGraph

theorem node?_add (graph : TypeGraph) (type : CType) (id : NodeId) :
    (graph.add type).2.node? id = if id.index = graph.size then some type else graph.node? id :=
  Array.getElem?_push

theorem node?_lt {graph : TypeGraph} {id : NodeId} {type : CType}
    (node : graph.node? id = some type) : id.index < graph.size :=
  (Array.getElem?_eq_some_iff.1 node).1

end TypeGraph

namespace Clang

open Outcome

/-! ## Bodies -/

/-- The type has the tag and the name of a declaration. -/
def NamedBy (first : Cursor) (type : TaggedType) : Prop :=
  ∃ tag, first.kind.tag? = some tag ∧ type.tag = tag ∧ type.name = (first.bareType tag).name

/-- The type has the members or constants that a definition gives, or neither where
there is no definition. -/
inductive HasBody (unit : SourceUnit) (state : Conversion) : Option Cursor → TaggedType → Prop where
  | undefined {type : TaggedType} (noMembers : type.members = none)
      (noConstants : type.constants = []) : HasBody unit state none type
  | record {type : TaggedType} {definition : Cursor} {members : List Member}
      (isRecord : type.isRecord = true) (given : type.members = some members)
      (each : List.Forall₂ (ShowsMember unit state)
        ((unit.cursorsAt definition.children).filter fun child =>
          IsMember unit (unit.cursorsAt definition.children) child) members)
      (noConstants : type.constants = []) : HasBody unit state (some definition) type
  | enumeration {type : TaggedType} {definition : Cursor} (isEnum : type.isRecord = false)
      (each : List.Forall₂ (ShowsConstant unit)
        ((unit.cursorsAt definition.children).filter fun child => child.kind = .enumConstantDecl)
        type.constants)
      (noMembers : type.members = none) : HasBody unit state (some definition) type

theorem HasBody.retained {unit : SourceUnit} {earlier later : Conversion}
    {definition? : Option Cursor} {type : TaggedType} (kept : earlier.Retains later)
    (body : HasBody unit earlier definition? type) : HasBody unit later definition? type := by
  cases body with
  | undefined noMembers noConstants => exact .undefined noMembers noConstants
  | record isRecord given each noConstants =>
    exact .record isRecord given (each.imp fun _ _ shown => shown.retained kept) noConstants
  | enumeration isEnum each noMembers => exact .enumeration isEnum each noMembers

/-- The keys of the visited declarations have one node each. -/
structure Identifies (visited : List Cursor) (state : Conversion) : Prop where
  known : ∀ key, (∃ id, state.nodes.lookup key = some id) ↔ key ∈ visited.map Cursor.key
  apart : ∀ key other id, state.nodes.lookup key = some id → state.nodes.lookup other = some id →
    key = other
  owned : ∀ id type, state.graph.tagged? id = some type → ∃ key, state.nodes.lookup key = some id
  named : ∀ key id, state.nodes.lookup key = some id → ∃ first type,
    firstOf? visited key = some first ∧ state.graph.tagged? id = some type ∧ NamedBy first type

/-- What was visited, as the state tells it; `opened` are the keys whose definitions
are being read. -/
structure Tells (unit : SourceUnit) (opened : List String) (visited : List Cursor)
    (state : Conversion) : Prop extends Identifies visited state where
  marked : ∀ key, key ∈ state.defined ↔ (definitionOf? unit visited key).isSome = true
  /-- No definition is read twice. -/
  once : state.defined.Nodup
  begun : ∀ key ∈ opened, key ∈ state.defined
  body : ∀ key id type, state.nodes.lookup key = some id → key ∉ opened →
    state.graph.tagged? id = some type → HasBody unit state (definitionOf? unit visited key) type

theorem Tells.start (unit : SourceUnit) (journal : Journal) :
    Tells unit [] [] (.start journal) where
  known key := by simp [Conversion.start]
  apart key other id found := by cases found
  owned id type tagged := by simp [Conversion.start, TypeGraph.tagged?, TypeGraph.node?,
    TypeGraph.empty] at tagged
  named key id found := by cases found
  marked key := by simp [Conversion.start, definitionOf?]
  once := List.nodup_nil
  begun key member := absurd member List.not_mem_nil
  body key id type found := by cases found

/-! ## What a step keeps -/

namespace Conversion

/-- More was made, and what was read before is as it was. -/
structure Grows (earlier later : Conversion) : Prop extends Retains earlier later where
  defined : earlier.defined ⊆ later.defined
  settled : ∀ key id type, key ∈ earlier.defined → earlier.nodes.lookup key = some id →
    earlier.graph.node? id = some type → later.graph.node? id = some type

namespace Grows

variable {first second third : Conversion}

theorem trans (one : first.Grows second) (two : second.Grows third) : first.Grows third where
  toRetains := one.toRetains.trans two.toRetains
  defined := List.Subset.trans one.defined two.defined
  settled key id type member found node :=
    two.settled key id type (one.defined member) (one.nodes key id found)
      (one.settled key id type member found node)

/-- Nothing that was there has changed. -/
theorem of_kept (size : first.graph.size ≤ second.graph.size)
    (nodes : ∀ key id, first.nodes.lookup key = some id → second.nodes.lookup key = some id)
    (graph : ∀ id type, first.graph.node? id = some type → second.graph.node? id = some type)
    (defined : first.defined ⊆ second.defined) : first.Grows second where
  size := size
  nodes := nodes
  untagged id type node _ := graph id type node
  defined := defined
  settled _ id type _ _ node := graph id type node

theorem refl (state : Conversion) : state.Grows state :=
  of_kept (Nat.le_refl _) (fun _ _ found => found) (fun _ _ node => node) (List.Subset.refl _)

end Grows

end Conversion

/-- A state with the same tagged types tells the same. -/
theorem Tells.same {unit : SourceUnit} {opened : List String} {visited : List Cursor}
    {state after : Conversion} (tells : Tells unit opened visited state)
    (kept : state.Retains after) (nodes : after.nodes = state.nodes)
    (defined : after.defined = state.defined)
    (tagged : ∀ id, after.graph.tagged? id = state.graph.tagged? id) :
    Tells unit opened visited after where
  known := nodes ▸ tells.known
  apart := nodes ▸ tells.apart
  owned id type := by
    rw [tagged, nodes]
    exact tells.owned id type
  named key id := by
    rw [tagged, nodes]
    exact tells.named key id
  marked := defined ▸ tells.marked
  once := defined ▸ tells.once
  begun := defined ▸ tells.begun
  body key id type := by
    rw [tagged, nodes]
    exact fun found closed node => (tells.body key id type found closed node).retained kept

/-! ## Cursors that are left to read -/

/-- A cursor that leads to a definition is one of the unit. -/
def SourceUnit.Holds (unit : SourceUnit) (cursor : Cursor) : Prop :=
  (unit.definition? cursor).isSome = true → cursor ∈ unit.cursors.toList

theorem SourceUnit.holds_of_cursor? {unit : SourceUnit} {id : CursorId} {cursor : Cursor}
    (found : unit.cursor? id = some cursor) : unit.Holds cursor :=
  fun _ => Array.mem_toList_iff.2 (Array.mem_of_getElem? found)

theorem SourceUnit.holds_declaration (unit : SourceUnit) (id : Option CursorId) :
    unit.Holds (unit.declaration id) := by
  unfold SourceUnit.declaration
  cases found : id.bind unit.cursor? with
  | none => exact fun defined => absurd defined Bool.false_ne_true
  | some cursor =>
    obtain ⟨place, -, there⟩ := Option.bind_eq_some_iff.1 found
    exact SourceUnit.holds_of_cursor? there

theorem SourceUnit.holds_of_mem {unit : SourceUnit} {ids : List CursorId} {cursor : Cursor}
    (member : cursor ∈ unit.cursorsAt ids) : unit.Holds cursor := by
  obtain ⟨id, -, found⟩ := List.mem_filterMap.1 member
  exact SourceUnit.holds_of_cursor? found

/-- The cursors that lead to a definition which was not met. -/
def unread (unit : SourceUnit) (defined : List String) : List Cursor :=
  unit.cursors.toList.filter fun cursor =>
    (unit.definition? cursor).isSome && !defined.contains cursor.key

theorem unread_length_le (unit : SourceUnit) (defined : List String) :
    (unread unit defined).length ≤ unit.cursors.size := by
  rw [← Array.length_toList]
  exact List.length_filter_le _ _

theorem unread_length_mono (unit : SourceUnit) {defined later : List String}
    (grown : defined ⊆ later) : (unread unit later).length ≤ (unread unit defined).length := by
  refine (List.monotone_filter_right _ fun cursor left => ?_).length_le
  simp only [Bool.and_eq_true, Bool.not_eq_true', List.contains_eq_mem, decide_eq_false_iff_not]
    at left ⊢
  exact ⟨left.1, fun member => left.2 (grown member)⟩

theorem unread_cons_lt {unit : SourceUnit} {defined : List String} {cursor : Cursor}
    (holds : unit.Holds cursor) (leads : (unit.definition? cursor).isSome = true)
    (fresh : cursor.key ∉ defined) :
    (unread unit (cursor.key :: defined)).length < (unread unit defined).length := by
  have fewer : unread unit (cursor.key :: defined) =
      (unread unit defined).filter fun other => other.key ≠ cursor.key := by
    rw [unread, unread, List.filter_filter]
    refine List.filter_congr fun other _ => ?_
    by_cases same : other.key = cursor.key <;> simp [same]
  rw [fewer, List.length_filter_lt_length_iff_exists]
  refine ⟨cursor, List.mem_filter.2 ⟨holds leads, ?_⟩, by simp⟩
  simp [leads, fresh]

/-! ## Steps -/

/-- Whenever the step gives a value, it visited what was pending and all that leads on to,
tells of it, and what it gave holds.  Fewer than `bound` cursors may be left to read. -/
def Reads {α : Type} (unit : SourceUnit) (bound : Nat) (x : Convert α) (pending : List Cursor)
    (gives : Conversion → α → Prop) : Prop :=
  ∀ opened visited state a after, Tells unit opened visited state →
    (unread unit state.defined).length < bound → x.run state = .ok a after →
    ∃ last, Visits unit visited pending last ∧ Tells unit opened last after ∧
      state.Grows after ∧ gives after a

/-- What was given stays given. -/
def Stays {α : Type} (gives : Conversion → α → Prop) : Prop :=
  ∀ earlier later a, earlier.Retains later → gives earlier a → gives later a

namespace Reads

variable {α β : Type} {unit : SourceUnit} {bound : Nat} {x : Convert α} {f : α → Convert β}
  {pending more : List Cursor} {P : Conversion → α → Prop} {Q : α → Conversion → β → Prop}

theorem imp {R : Conversion → α → Prop} (reads : Reads unit bound x pending P)
    (weaker : ∀ after a, P after a → R after a) : Reads unit bound x pending R := by
  intro opened visited state a after tells left done
  obtain ⟨last, visits, told, grown, given⟩ := reads opened visited state a after tells left done
  exact ⟨last, visits, told, grown, weaker after a given⟩

theorem pure {a : α} (given : ∀ state, P state a) : Reads unit bound (pure a) [] P := by
  intro opened visited state b after tells left done
  obtain ⟨rfl, rfl⟩ := pure_ok_iff.1 done
  exact ⟨visited, .done visited, tells, .refl _, given _⟩

theorem bind (first : Reads unit bound x pending P)
    (rest : ∀ a, Reads unit bound (f a) more (Q a)) (stays : Stays P) :
    Reads unit bound (x >>= f) (pending ++ more) fun after b => ∃ a, P after a ∧ Q a after b := by
  intro opened visited state b after tells left done
  obtain ⟨a, middle, one, two⟩ := bind_ok_iff.1 done
  obtain ⟨between, visits, told, grown, given⟩ :=
    first opened visited state a middle tells left one
  have fewer := Nat.lt_of_le_of_lt (unread_length_mono unit grown.defined) left
  obtain ⟨last, visitsMore, toldMore, grownMore, givenMore⟩ :=
    rest a opened between middle b after told fewer two
  exact ⟨last, visits.append visitsMore, toldMore, grown.trans grownMore, a,
    stays middle after a grownMore.toRetains given, givenMore⟩

/-- A step and what is made of its value. -/
theorem map {R : Conversion → β → Prop} (first : Reads unit bound x pending P) (g : α → β)
    (made : ∀ after a, P after a → R after (g a)) :
    Reads unit bound (do return g (← x)) pending R := by
  intro opened visited state b after tells left done
  obtain ⟨a, middle, one, two⟩ := bind_ok_iff.1 done
  obtain ⟨rfl, rfl⟩ := pure_ok_iff.1 two
  obtain ⟨last, visits, told, grown, given⟩ := first opened visited state a _ tells left one
  exact ⟨last, visits, told, grown, made _ a given⟩

theorem mapM {f : α → Convert β} {leads : α → List Cursor} (stays : ∀ a, Stays (Q a))
    {as : List α} (each : ∀ a ∈ as, Reads unit bound (f a) (leads a) (Q a)) :
    Reads unit bound (as.mapM f) (as.flatMap leads) fun after bs =>
      List.Forall₂ (fun a b => Q a after b) as bs := by
  induction as with
  | nil =>
    rw [List.mapM_nil]
    exact pure fun _ => .nil
  | cons a as ih =>
    rw [List.mapM_cons, List.flatMap_cons]
    have others := ih fun other member => each other (List.mem_cons_of_mem a member)
    have joined := (each a List.mem_cons_self).bind (fun b => others.map (b :: ·)
      (R := fun after bs => ∃ rest, bs = b :: rest ∧
        List.Forall₂ (fun a b => Q a after b) as rest)
      fun after rest given => ⟨rest, rfl, given⟩) (stays a)
    refine joined.imp ?_
    rintro after bs ⟨b, given, rest, rfl, more⟩
    exact .cons given more

end Reads

/-! ## Nodes of other types -/

section Nodes

variable {unit : SourceUnit} {bound : Nat}

theorem note_grows (text : String) {state after : Conversion}
    (done : (Convert.note text).run state = .ok () after) :
    state.Grows after ∧ after.graph = state.graph ∧ after.nodes = state.nodes ∧
      after.defined = state.defined := by
  cases done
  exact ⟨.of_kept (Nat.le_refl _) (fun _ _ found => found) (fun _ _ node => node)
    (List.Subset.refl _), rfl, rfl, rfl⟩

theorem note_reads (text : String) :
    Reads unit bound (Convert.note text) [] fun _ _ => True := by
  intro opened visited state a after tells left done
  obtain ⟨grown, graph, nodes, defined⟩ := note_grows text done
  exact ⟨visited, .done visited,
    tells.same grown.toRetains nodes defined fun id => by rw [graph], grown, trivial⟩

theorem addType_reads {type : CType} (untagged : ∀ tagged, type ≠ .tagged tagged) :
    Reads unit bound (Convert.addType type) [] fun after ref =>
      after.graph.at? ref = some type := by
  intro opened visited state ref after tells left done
  cases done
  have kept : ∀ id node, state.graph.node? id = some node →
      (state.graph.add type).2.node? id = some node := by
    intro id node there
    rw [TypeGraph.node?_add_of_lt _ _ (TypeGraph.node?_lt there), there]
  have grown : state.Grows { state with graph := (state.graph.add type).2 } :=
    .of_kept (by simp [TypeGraph.add, TypeGraph.size]) (fun _ _ found => found) kept
      (List.Subset.refl _)
  refine ⟨visited, .done visited, tells.same grown.toRetains rfl rfl fun id => ?_, grown,
    TypeGraph.node?_add_self state.graph type⟩
  refine Option.ext fun tagged => ?_
  rw [TypeGraph.tagged?_eq_some_iff, TypeGraph.tagged?_eq_some_iff]
  refine ⟨fun there => ?_, kept id _⟩
  have added := (state.graph.node?_add type id).symm.trans there
  split at added
  · exact absurd (Option.some.inj added) (untagged tagged)
  · exact added

end Nodes

/-! ## Types, given their tagged types -/

section Types

variable {unit : SourceUnit} {bound : Nat} {tagged : Cursor → Convert NodeId}

/-- What a visit gives: the node of the key. -/
def IsNodeOf (cursor : Cursor) (state : Conversion) (id : NodeId) : Prop :=
  state.nodes.lookup cursor.key = some id

theorem shows_stays (unit : SourceUnit) (type : SourceType) :
    Stays fun state ref => Shows unit state type ref := fun _ _ _ kept shown => shown.retained kept

theorem showsAll_stays (unit : SourceUnit) (types : List SourceType) :
    Stays fun state refs => ShowsAll unit state types refs :=
  fun _ _ _ kept shown => shown.retained kept

mutual

theorem typeNode_reads
    (each : ∀ cursor, unit.Holds cursor → Reads unit bound (tagged cursor) [cursor]
      (IsNodeOf cursor)) (type : SourceType) :
    Reads unit bound (typeNode unit tagged type) (references unit type) fun after ref =>
      Shows unit after type ref := by
  cases type with
  | elaborated named =>
    rw [typeNode, references]
    simp only [Shows]
    exact typeNode_reads each named
  | pointer pointee declaration =>
    rw [typeNode, references, ← List.append_nil (references unit pointee)]
    refine ((typeNode_reads each pointee).bind (fun target => addType_reads (by simp))
      (shows_stays unit pointee)).imp ?_
    rintro after ref ⟨target, below, node⟩
    rw [Shows]
    exact ⟨target, node, below⟩
  | typedefName declaration =>
    rw [typeNode, references]
    simp only [Shows]
    exact addType_reads (by simp)
  | tagged declaration =>
    rw [typeNode, references]
    refine (each _ (unit.holds_declaration declaration)).map some fun after id node => ?_
    rw [Shows]
    exact ⟨id, rfl, node⟩
  | prototype params result variadic declaration =>
    rw [typeNode, references, ← List.append_nil (references unit result)]
    refine ((typeNodes_reads each params).bind (fun targets =>
      (typeNode_reads each result).bind (fun target => addType_reads (by simp))
        (shows_stays unit result)) (showsAll_stays unit params)).imp ?_
    rintro after ref ⟨targets, shown, target, given, node⟩
    rw [Shows]
    exact ⟨targets, target, node, shown, given⟩
  | noPrototype result declaration =>
    rw [typeNode, references, ← List.append_nil (references unit result)]
    refine ((typeNode_reads each result).bind (fun target => addType_reads (by simp))
      (shows_stays unit result)).imp ?_
    rintro after ref ⟨target, given, node⟩
    rw [Shows]
    exact ⟨target, node, given⟩
  | leaf kind spelling declaration =>
    rw [typeNode, references]
    simp only [Shows]
    split
    · exact addType_reads (by simp)
    · refine ((note_reads _).bind (fun _ => addType_reads (by simp)) ?_).imp ?_
      · exact fun _ _ _ _ _ => trivial
      · rintro after ref ⟨-, -, node⟩
        exact node

theorem typeNodes_reads
    (each : ∀ cursor, unit.Holds cursor → Reads unit bound (tagged cursor) [cursor]
      (IsNodeOf cursor)) (types : List SourceType) :
    Reads unit bound (typeNodes unit tagged types) (allReferences unit types) fun after refs =>
      ShowsAll unit after types refs := by
  cases types with
  | nil =>
    rw [typeNodes, allReferences]
    exact Reads.pure fun state => by rw [ShowsAll]
  | cons type rest =>
    rw [typeNodes, allReferences]
    have others := fun ref : TypeRef => (typeNodes_reads each rest).map (ref :: ·)
      (R := fun after refs => ∃ more, refs = ref :: more ∧ ShowsAll unit after rest more)
      fun after more shown => ⟨more, rfl, shown⟩
    refine ((typeNode_reads each type).bind others (shows_stays unit type)).imp ?_
    rintro after refs ⟨ref, shown, more, rfl, shownMore⟩
    rw [ShowsAll]
    exact ⟨ref, more, rfl, shown, shownMore⟩

end

/-! ## Members -/

/-- What a child of a record gives: a member, if it is to give one. -/
def GivesMember (unit : SourceUnit) (children : List Cursor) (child : Cursor)
    (state : Conversion) (found : Option Member) : Prop :=
  (givesMember unit children child = true ∧ ∃ member, found = some member ∧
      ShowsMember unit state child member) ∨
    (givesMember unit children child = false ∧ found = none)

theorem givesMember_stays (unit : SourceUnit) (children : List Cursor) (child : Cursor) :
    Stays (GivesMember unit children child) := by
  rintro earlier later found kept (⟨gives, member, rfl, shown⟩ | nothing)
  · exact .inl ⟨gives, member, rfl, shown.retained kept⟩
  · exact .inr nothing

theorem memberOf?_reads
    (each : ∀ cursor, unit.Holds cursor → Reads unit bound (tagged cursor) [cursor]
      (IsNodeOf cursor)) (children : List Cursor) {child : Cursor} (holds : unit.Holds child) :
    Reads unit bound (memberOf? unit tagged (fieldTypes unit children) child)
      (childReferences unit (fieldTypes unit children) child)
      (GivesMember unit children child) := by
  unfold memberOf? childReferences
  split
  · rename_i isField
    refine (typeNode_reads each child.type).map _ fun after type shown => ?_
    refine .inl ⟨by simp [givesMember, isField], _, rfl, ?_⟩
    rw [ShowsMember, if_pos isField]
    exact ⟨rfl, shown⟩
  · rename_i noField
    split
    · rename_i unnamed
      refine (each child holds).map _ fun after id node => ?_
      refine .inl ⟨by simp [givesMember, unnamed], _, rfl, ?_⟩
      rw [ShowsMember, if_neg noField]
      exact ⟨rfl, id, rfl, node⟩
    · rename_i other
      exact Reads.pure fun _ => .inr ⟨by simp [givesMember, noField, other], rfl⟩

theorem membersOf_reads
    (each : ∀ cursor, unit.Holds cursor → Reads unit bound (tagged cursor) [cursor]
      (IsNodeOf cursor)) (definition : Cursor) :
    Reads unit bound (membersOf unit tagged definition) (memberReferences unit definition)
      fun after members => List.Forall₂ (ShowsMember unit after)
        ((unit.cursorsAt definition.children).filter fun child =>
          IsMember unit (unit.cursorsAt definition.children) child) members := by
  have child := fun child (member : child ∈ unit.cursorsAt definition.children) =>
    memberOf?_reads each (unit.cursorsAt definition.children) (SourceUnit.holds_of_mem member)
  rw [← funext (givesMember_eq unit (unit.cursorsAt definition.children))]
  refine (Reads.mapM (givesMember_stays unit _) child).map _ fun after found given => ?_
  exact forall₂_filter_filterMap given fun _ _ _ one => one

end Types

end Clang

end HeaderBind
