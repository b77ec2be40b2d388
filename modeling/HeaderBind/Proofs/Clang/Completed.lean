/-
# HeaderBind.Proofs.Clang.Completed — what a graph shows once declared types are completed

Completing declared types fills open slots.  A reference that shows a type leads to no open
slot (`Shows.closed`), so it shows that type afterwards too (`Shows.completed`), and the state
of the conversion tells all it told (`Tells.completed`).

Two references that show the same type are built alike, down to the tagged types, which are
the same nodes (`Shows.alike`).
-/
import HeaderBind.Proofs.Clang.Registered

namespace HeaderBind

set_option autoImplicit false

/-! ## Types that are built alike -/

namespace TypeGraph

mutual

/-- The two references lead to types that are built alike, from the same tagged types. -/
inductive Alike (graph : TypeGraph) : TypeRef → TypeRef → Prop
  | builtin {one other : TypeRef} {spelling : String}
      (here : graph.at? one = some (.builtin spelling))
      (there : graph.at? other = some (.builtin spelling)) : Alike graph one other
  | typedefName {one other : TypeRef} {name : String}
      (here : graph.at? one = some (.typedefName name))
      (there : graph.at? other = some (.typedefName name)) : Alike graph one other
  | uncovered {one other : TypeRef} {spelling : String}
      (here : graph.at? one = some (.uncovered spelling))
      (there : graph.at? other = some (.uncovered spelling)) : Alike graph one other
  | pointer {one other pointee pointee' : TypeRef}
      (here : graph.at? one = some (.pointer pointee))
      (there : graph.at? other = some (.pointer pointee'))
      (below : Alike graph pointee pointee') : Alike graph one other
  | function {one other result result' : TypeRef} {params params' : List Parameter}
      {variadic : Bool}
      (here : graph.at? one = some (.function ⟨params, result, variadic⟩))
      (there : graph.at? other = some (.function ⟨params', result', variadic⟩))
      (each : AlikeParams graph params params') (given : Alike graph result result') :
      Alike graph one other
  /-- A tagged type is only like itself. -/
  | tagged {id : NodeId} {type : TaggedType} (node : graph.tagged? id = some type) :
      Alike graph (some id) (some id)

/-- The parameters have the same names, and types that are built alike. -/
inductive AlikeParams (graph : TypeGraph) : List Parameter → List Parameter → Prop
  | nil : AlikeParams graph [] []
  | cons {name : Option String} {one other : TypeRef} {params params' : List Parameter}
      (first : Alike graph one other) (rest : AlikeParams graph params params') :
      AlikeParams graph (⟨name, one⟩ :: params) (⟨name, other⟩ :: params')

end

/-! ## Spines without an open slot -/

variable {graph first second : TypeGraph}

theorem closed_of_no_slot {id : NodeId} (slot : graph.slot? id = none) :
    graph.Closed (some id) := by
  intro hole opens
  cases opens with
  | here isOpen => cases slot.symm.trans isOpen
  | next other _ => cases slot.symm.trans other

theorem closed_of_slot {id next : NodeId} (slot : graph.slot? id = some (some next))
    (closed : graph.Closed (some next)) : graph.Closed (some id) := by
  intro hole opens
  cases opens with
  | here isOpen => cases slot.symm.trans isOpen
  | next other rest =>
    cases slot.symm.trans other
    exact closed hole rest

/-- A node whose slot is not open is as it was. -/
theorem Filled.at?_eq (filled : first.Filled second) {ref : TypeRef} {type : CType}
    (node : first.at? ref = some type) (notOpen : type.spineSlot ≠ some none) :
    second.at? ref = some type := by
  cases ref with
  | none => cases node
  | some id =>
    have slot := Clang.slot?_of_at? node
    have same : second.node? id = first.node? id := filled.kept id (slot ▸ notOpen)
    exact same.trans node

end TypeGraph

namespace Clang

open TypeGraph

/-- The state with the types of another graph. -/
def Conversion.withGraph (state : Conversion) (graph : TypeGraph) : Conversion :=
  { state with graph }

section Completed

variable {unit : SourceUnit} {state : Conversion} {graph : TypeGraph}

/-- The node of every key is one of a tagged type. -/
def Conversion.Named (state : Conversion) : Prop :=
  ∀ key id, state.nodes.lookup key = some id → ∃ type, state.graph.tagged? id = some type

theorem Identifies.isNamed {visited : List Cursor} (names : Identifies visited state) :
    state.Named := by
  intro key id found
  obtain ⟨first, type, -, tagged, -⟩ := names.named key id found
  exact ⟨type, tagged⟩

/-! ## What is shown is there, and closed -/

theorem exists_of_at? {ref : TypeRef} {type : CType} (node : graph.at? ref = some type) :
    ∃ id, ref = some id := by
  cases ref with
  | none => cases node
  | some id => exact ⟨id, rfl⟩

/-- What shows a type is a node. -/
theorem Shows.exists_node {type : SourceType} {ref : TypeRef}
    (shown : Shows unit state type ref) : ∃ id, ref = some id := by
  cases type with
  | elaborated named =>
    rw [Shows] at shown
    exact shown.exists_node
  | pointer pointee declaration =>
    rw [Shows] at shown
    obtain ⟨target, node, -⟩ := shown
    exact exists_of_at? node
  | typedefName declaration =>
    rw [Shows] at shown
    exact exists_of_at? shown
  | tagged declaration =>
    rw [Shows] at shown
    obtain ⟨id, same, -⟩ := shown
    exact ⟨id, same⟩
  | prototype params result variadic declaration =>
    rw [Shows] at shown
    obtain ⟨targets, target, node, -⟩ := shown
    exact exists_of_at? node
  | noPrototype result declaration =>
    rw [Shows] at shown
    obtain ⟨target, node, -⟩ := shown
    exact exists_of_at? node
  | leaf kind spelling declaration =>
    rw [Shows] at shown
    exact exists_of_at? shown

/-- A node whose slot leads to what shows a type. -/
theorem closed_of_at? {type : SourceType} {ref target : TypeRef} {node : CType}
    (there : state.graph.at? ref = some node) (slot : node.spineSlot = some target)
    (shown : Shows unit state type target) (closed : state.graph.Closed target) :
    state.graph.Closed ref := by
  obtain ⟨id, rfl⟩ := exists_of_at? there
  obtain ⟨next, rfl⟩ := shown.exists_node
  exact closed_of_slot ((slot?_of_at? there).trans slot) closed

theorem closed_of_leaf {ref : TypeRef} {node : CType} (there : state.graph.at? ref = some node)
    (noSlot : node.spineSlot = none) : state.graph.Closed ref := by
  obtain ⟨id, rfl⟩ := exists_of_at? there
  exact closed_of_no_slot ((slot?_of_at? there).trans noSlot)

/-- **What shows a type leads to no open slot.** -/
theorem Shows.closed (named : state.Named) {type : SourceType} {ref : TypeRef}
    (shown : Shows unit state type ref) : state.graph.Closed ref := by
  cases type with
  | elaborated type =>
    rw [Shows] at shown
    exact shown.closed named
  | pointer pointee declaration =>
    rw [Shows] at shown
    obtain ⟨target, node, below⟩ := shown
    exact closed_of_at? node rfl below (below.closed named)
  | typedefName declaration =>
    rw [Shows] at shown
    exact closed_of_leaf shown rfl
  | tagged declaration =>
    rw [Shows] at shown
    obtain ⟨id, rfl, found⟩ := shown
    obtain ⟨type, tagged⟩ := named _ id found
    have node : state.graph.at? (some id) = some (.tagged type) := tagged?_eq_some_iff.1 tagged
    exact closed_of_leaf node rfl
  | prototype params result variadic declaration =>
    rw [Shows] at shown
    obtain ⟨targets, target, node, -, given⟩ := shown
    exact closed_of_at? node rfl given (given.closed named)
  | noPrototype result declaration =>
    rw [Shows] at shown
    obtain ⟨target, node, given⟩ := shown
    exact closed_of_at? node rfl given (given.closed named)
  | leaf kind spelling declaration =>
    rw [Shows] at shown
    refine closed_of_leaf shown ?_
    split <;> rfl

/-! ## What stays shown -/

theorem notOpen_of_shows {type : SourceType} {target : TypeRef}
    (shown : Shows unit state type target) : some target ≠ some none := by
  obtain ⟨id, rfl⟩ := shown.exists_node
  exact fun same => nomatch same

mutual

/-- **What was shown is shown once types are completed.** -/
theorem Shows.completed (filled : state.graph.Filled graph) {type : SourceType} {ref : TypeRef}
    (shown : Shows unit state type ref) : Shows unit (state.withGraph graph) type ref := by
  cases type with
  | elaborated type =>
    rw [Shows] at shown ⊢
    exact shown.completed filled
  | pointer pointee declaration =>
    rw [Shows] at shown ⊢
    obtain ⟨target, node, below⟩ := shown
    exact ⟨target, filled.at?_eq node (notOpen_of_shows below), below.completed filled⟩
  | typedefName declaration =>
    rw [Shows] at shown ⊢
    exact filled.at?_eq shown nofun
  | tagged declaration =>
    rw [Shows] at shown ⊢
    exact shown
  | prototype params result variadic declaration =>
    rw [Shows] at shown ⊢
    obtain ⟨targets, target, node, each, given⟩ := shown
    exact ⟨targets, target, filled.at?_eq node (notOpen_of_shows given), each.completed filled,
      given.completed filled⟩
  | noPrototype result declaration =>
    rw [Shows] at shown ⊢
    obtain ⟨target, node, given⟩ := shown
    exact ⟨target, filled.at?_eq node (notOpen_of_shows given), given.completed filled⟩
  | leaf kind spelling declaration =>
    rw [Shows] at shown ⊢
    refine filled.at?_eq shown ?_
    split <;> nofun

theorem ShowsAll.completed (filled : state.graph.Filled graph) {types : List SourceType}
    {refs : List TypeRef} (shown : ShowsAll unit state types refs) :
    ShowsAll unit (state.withGraph graph) types refs := by
  cases types with
  | nil =>
    rw [ShowsAll] at shown ⊢
    exact shown
  | cons type rest =>
    rw [ShowsAll] at shown ⊢
    obtain ⟨ref, others, same, first, more⟩ := shown
    exact ⟨ref, others, same, first.completed filled, more.completed filled⟩

end

theorem ShowsMember.completed (filled : state.graph.Filled graph) {child : Cursor}
    {member : Member} (shown : ShowsMember unit state child member) :
    ShowsMember unit (state.withGraph graph) child member := by
  unfold ShowsMember at shown ⊢
  by_cases isField : child.kind = .fieldDecl
  · rw [if_pos isField] at shown ⊢
    exact ⟨shown.1, shown.2.completed filled⟩
  · rw [if_neg isField] at shown ⊢
    exact shown

theorem HasBody.completed (filled : state.graph.Filled graph) {definition? : Option Cursor}
    {type : TaggedType} (body : HasBody unit state definition? type) :
    HasBody unit (state.withGraph graph) definition? type := by
  cases body with
  | undefined noMembers noConstants => exact .undefined noMembers noConstants
  | record isRecord given each noConstants =>
    exact .record isRecord given (each.imp fun _ _ shown => shown.completed filled) noConstants
  | enumeration isEnum each noMembers => exact .enumeration isEnum each noMembers

/-- The state tells what it told: completing types changes no tagged type. -/
theorem Tells.completed {opened : List String} {visited : List Cursor}
    (tells : Tells unit opened visited state) (filled : state.graph.Filled graph) :
    Tells unit opened visited (state.withGraph graph) where
  known := tells.known
  apart := tells.apart
  owned id type tagged := by
    rw [Conversion.withGraph, filled.shape.tagged?_eq] at tagged
    exact tells.owned id type tagged
  named key id found := by
    obtain ⟨first, type, isFirst, tagged, name⟩ := tells.named key id found
    refine ⟨first, type, isFirst, ?_, name⟩
    rw [Conversion.withGraph, filled.shape.tagged?_eq, tagged]
  marked := tells.marked
  once := tells.once
  begun := tells.begun
  body key id type found closed tagged := by
    rw [Conversion.withGraph, filled.shape.tagged?_eq] at tagged
    exact (tells.body key id type found closed tagged).completed filled

/-! ## Two references that show one type -/

mutual

/-- **References that show the same type are built alike.** -/
theorem Shows.alike (named : state.Named) {type : SourceType} {one other : TypeRef}
    (shown : Shows unit state type one) (again : Shows unit state type other) :
    state.graph.Alike one other := by
  cases type with
  | elaborated type =>
    rw [Shows] at shown again
    exact shown.alike named again
  | pointer pointee declaration =>
    rw [Shows] at shown again
    obtain ⟨target, here, below⟩ := shown
    obtain ⟨target', there, below'⟩ := again
    exact .pointer here there (below.alike named below')
  | typedefName declaration =>
    rw [Shows] at shown again
    exact .typedefName shown again
  | tagged declaration =>
    rw [Shows] at shown again
    obtain ⟨id, rfl, found⟩ := shown
    obtain ⟨id', rfl, found'⟩ := again
    cases found.symm.trans found'
    obtain ⟨type, tagged⟩ := named _ id found
    exact .tagged tagged
  | prototype params result variadic declaration =>
    rw [Shows] at shown again
    obtain ⟨targets, target, here, each, given⟩ := shown
    obtain ⟨targets', target', there, each', given'⟩ := again
    exact .function here there (each.alike named each') (given.alike named given')
  | noPrototype result declaration =>
    rw [Shows] at shown again
    obtain ⟨target, here, given⟩ := shown
    obtain ⟨target', there, given'⟩ := again
    exact .function here there .nil (given.alike named given')
  | leaf kind spelling declaration =>
    rw [Shows] at shown again
    by_cases isBuiltin : kind ∈ builtinKinds
    · rw [if_pos isBuiltin] at shown again
      exact .builtin shown again
    · rw [if_neg isBuiltin] at shown again
      exact .uncovered shown again

theorem ShowsAll.alike (named : state.Named) {types : List SourceType}
    {ones others : List TypeRef} (shown : ShowsAll unit state types ones)
    (again : ShowsAll unit state types others) :
    state.graph.AlikeParams (ones.map fun type => ⟨none, type⟩)
      (others.map fun type => ⟨none, type⟩) := by
  cases types with
  | nil =>
    rw [ShowsAll] at shown again
    subst shown again
    exact .nil
  | cons type rest =>
    rw [ShowsAll] at shown again
    obtain ⟨one, ones, rfl, first, more⟩ := shown
    obtain ⟨other, others, rfl, first', more'⟩ := again
    exact .cons (first.alike named first') (more.alike named more')

end

end Completed

end Clang

end HeaderBind
