/-
# HeaderBind.Proofs.CType.Shape — assembling types changes no tagged type

Assembling a declared type fills one spine slot.  Two graphs have the same shape
when they differ in spine slots only (`TypeGraph.SameShape`).  Tagged types, their
members and typedef names are the same in both, and so is what a typedef name
stands for in the end.  Looking for the callables of a file assembles their types,
so it keeps the shape of the graph (`sameShape_scanCallables`).
-/
import HeaderBind.Declaration.Callable
import HeaderBind.Proofs.Outcome
import HeaderBind.Run

namespace HeaderBind

set_option autoImplicit false

namespace CType

/-- The node with its spine slot open. -/
def shape : CType → CType
  | .pointer _ => .pointer none
  | .function prototype => .function { prototype with result := none }
  | type => type

theorem shape_fillSlot (base : TypeRef) (type : CType) :
    (type.fillSlot base).shape = type.shape := by
  cases type <;> rfl

theorem eq_typedefName_of_shape {type : CType} {name : String}
    (h : type.shape = .typedefName name) : type = .typedefName name := by
  cases type <;> simp_all [shape]

theorem eq_tagged_of_shape {type : CType} {tagged : TaggedType}
    (h : type.shape = .tagged tagged) : type = .tagged tagged := by
  cases type <;> simp_all [shape]

end CType

namespace TypeGraph

/-- The two graphs differ in spine slots only. -/
def SameShape (first second : TypeGraph) : Prop :=
  ∀ id, (first.node? id).map CType.shape = (second.node? id).map CType.shape

namespace SameShape

variable {first second third : TypeGraph}

theorem refl (graph : TypeGraph) : graph.SameShape graph := fun _ => rfl

theorem symm (h : first.SameShape second) : second.SameShape first := fun id => (h id).symm

theorem trans (one : first.SameShape second) (two : second.SameShape third) :
    first.SameShape third := fun id => (one id).trans (two id)

theorem node?_eq_typedefName (h : first.SameShape second) {id : NodeId} {name : String}
    (node : first.node? id = some (.typedefName name)) :
    second.node? id = some (.typedefName name) := by
  have same := h id
  rw [node] at same
  obtain ⟨type, found, shape⟩ := Option.map_eq_some_iff.1 same.symm
  rw [found, CType.eq_typedefName_of_shape shape]

theorem node?_eq_tagged (h : first.SameShape second) {id : NodeId} {type : TaggedType}
    (node : first.node? id = some (.tagged type)) :
    second.node? id = some (.tagged type) := by
  have same := h id
  rw [node] at same
  obtain ⟨other, found, shape⟩ := Option.map_eq_some_iff.1 same.symm
  rw [found, CType.eq_tagged_of_shape shape]

end SameShape

theorem tagged?_eq_some_iff {graph : TypeGraph} {id : NodeId} {type : TaggedType} :
    graph.tagged? id = some type ↔ graph.node? id = some (.tagged type) := by
  unfold tagged?
  split <;> simp_all

theorem isRecord_iff {graph : TypeGraph} {id : NodeId} :
    graph.isRecord id = true ↔
      ∃ type, graph.node? id = some (.tagged type) ∧ type.isRecord = true := by
  simp only [isRecord, Option.any_eq_true, tagged?_eq_some_iff]

theorem isEnum_iff {graph : TypeGraph} {id : NodeId} :
    graph.isEnum id = true ↔
      ∃ type, graph.node? id = some (.tagged type) ∧ type.isRecord = false := by
  simp only [isEnum, Option.any_eq_true, tagged?_eq_some_iff, Bool.not_eq_true']

theorem not_isEnum {graph : TypeGraph} {id : NodeId} (isRecord : graph.isRecord id = true) :
    ¬ graph.isEnum id = true := by
  intro isEnum
  obtain ⟨type, node, recordTag⟩ := isRecord_iff.1 isRecord
  obtain ⟨other, same, enumTag⟩ := isEnum_iff.1 isEnum
  cases node.symm.trans same
  exact Bool.false_ne_true (enumTag.symm.trans recordTag)

/-- A tagged type is a record or an enumeration. -/
theorem isRecord_of_not_isEnum {graph : TypeGraph} {id : NodeId}
    (tagged : ∃ type, graph.tagged? id = some type) (notEnum : ¬ graph.isEnum id = true) :
    graph.isRecord id = true := by
  obtain ⟨type, node⟩ := tagged
  have there := tagged?_eq_some_iff.1 node
  cases recordTag : type.isRecord with
  | true => exact isRecord_iff.2 ⟨type, there, recordTag⟩
  | false => exact absurd (isEnum_iff.2 ⟨type, there, recordTag⟩) notEnum

/-- A tagged type that is written anew in a graph that has grown. -/
theorem tagged?_set_self {graph later : TypeGraph} {id : NodeId} {old : TaggedType}
    (tagged : graph.tagged? id = some old) (grown : graph.size ≤ later.size) (type : TaggedType) :
    (later.set id (.tagged type)).tagged? id = some type := by
  have there := tagged?_eq_some_iff.1 tagged
  obtain ⟨inside, -⟩ := Array.getElem?_eq_some_iff.1 there
  have known : ∃ type, later.node? id = some type :=
    ⟨_, Array.getElem?_eq_getElem (Nat.lt_of_lt_of_le inside grown)⟩
  obtain ⟨_, known⟩ := known
  exact tagged?_eq_some_iff.2 (node?_set_self known _)

namespace SameShape

variable {first second : TypeGraph}

theorem tagged?_eq (h : first.SameShape second) (id : NodeId) :
    second.tagged? id = first.tagged? id := by
  apply Option.ext
  intro type
  rw [tagged?_eq_some_iff, tagged?_eq_some_iff]
  exact ⟨h.symm.node?_eq_tagged, h.node?_eq_tagged⟩

theorem members?_eq (h : first.SameShape second) (id : NodeId) :
    second.members? id = first.members? id := by
  rw [members?, members?, h.tagged?_eq]

theorem isRecord_eq (h : first.SameShape second) (id : NodeId) :
    second.isRecord id = first.isRecord id := by
  rw [isRecord, isRecord, h.tagged?_eq]

theorem isEnum_eq (h : first.SameShape second) (id : NodeId) :
    second.isEnum id = first.isEnum id := by
  rw [isEnum, isEnum, h.tagged?_eq]

theorem nextName?_eq (h : first.SameShape second) (table : TypedefTable) (meaning : Meaning) :
    table.nextName? second meaning = table.nextName? first meaning := by
  cases meaning with
  | variadic => rfl
  | type ref =>
    cases ref with
    | none => rfl
    | some id =>
      have same := h id
      simp only [TypedefTable.nextName?, at?, Option.bind_some]
      cases node : first.node? id with
      | none =>
        rw [node] at same
        rw [Option.map_eq_none_iff.1 same.symm]
      | some type =>
        rw [node] at same
        obtain ⟨other, found, shape⟩ := Option.map_eq_some_iff.1 same.symm
        rw [found]
        cases type <;> cases other <;> simp_all [CType.shape]

theorem follow_eq (h : first.SameShape second) (table : TypedefTable) (fuel : Nat)
    (chain : List String) (name : String) :
    table.follow second fuel chain name = table.follow first fuel chain name := by
  induction fuel generalizing chain name with
  | zero => rfl
  | succ fuel ih => simp only [TypedefTable.follow, h.nextName?_eq, ih]

end SameShape

/-! ## Assembling -/

theorem sameShape_set {graph : TypeGraph} {id : NodeId} {type : CType}
    (node : graph.node? id = some type) (base : TypeRef) :
    graph.SameShape (graph.set id (type.fillSlot base)) := by
  intro other
  by_cases h : other = id
  · subst h
    rw [node?_set_self node, node, Option.map_some, Option.map_some, CType.shape_fillSlot]
  · rw [node?_set_ne graph h]

theorem sameShape_fillSpine (graph : TypeGraph) (start : NodeId) (base : TypeRef) :
    graph.SameShape (graph.fillSpine start base) := by
  unfold fillSpine
  split
  · exact .refl graph
  · split
    · exact .refl graph
    · rename_i node
      exact sameShape_set node base

theorem sameShape_assemble (graph : TypeGraph) (declarator base : TypeRef) :
    graph.SameShape (graph.assemble declarator base).2 := by
  cases declarator with
  | none => exact .refl graph
  | some start => exact sameShape_fillSpine graph start base

theorem sameShape_addDeclarator (base : TypeRef) (isTypedef : Bool) (scan : CallableScan)
    (declarator : Declarator) :
    scan.graph.SameShape (scan.addDeclarator base isTypedef declarator).graph := by
  unfold CallableScan.addDeclarator
  split
  · split
    · exact .refl scan.graph
    · exact sameShape_assemble scan.graph declarator.type base
  · split
    · split
      · exact sameShape_assemble scan.graph declarator.type base
      · exact .refl scan.graph
    · exact .refl scan.graph

theorem sameShape_addExternal (scan : CallableScan) (declaration : ExternalDeclaration) :
    scan.graph.SameShape (scan.addExternal declaration).graph := by
  cases declaration with
  | functionBody name function => exact .refl scan.graph
  | declaration base declarators isTypedef =>
    exact Outcome.foldl_related
      (fun first second : CallableScan => first.graph.SameShape second.graph)
      (fun scan => .refl scan.graph) SameShape.trans (sameShape_addDeclarator base isTypedef)
      declarators scan

theorem sameShape_scanCallables (graph : TypeGraph) (declarations : List ExternalDeclaration) :
    graph.SameShape (graph.scanCallables declarations).graph :=
  Outcome.foldl_related (fun first second : CallableScan => first.graph.SameShape second.graph)
    (fun scan => .refl scan.graph) SameShape.trans sameShape_addExternal declarations
    (.start graph)

end TypeGraph

/-! ## Scopes -/

/-- The typedefs are the same, and the graphs have the same shape. -/
structure Scope.SameShape (first second : Scope) : Prop where
  graph : first.graph.SameShape second.graph
  typedefs : second.typedefs = first.typedefs

namespace Scope.SameShape

variable {first second third : Scope}

theorem refl (scope : Scope) : scope.SameShape scope := ⟨.refl _, rfl⟩

theorem symm (h : first.SameShape second) : second.SameShape first :=
  ⟨h.graph.symm, h.typedefs.symm⟩

theorem trans (one : first.SameShape second) (two : second.SameShape third) :
    first.SameShape third := ⟨one.graph.trans two.graph, two.typedefs.trans one.typedefs⟩

theorem finalMeaning_eq (h : first.SameShape second) (name : String) :
    second.finalMeaning name = first.finalMeaning name := by
  rw [finalMeaning, finalMeaning, TypedefTable.finalMeaning, TypedefTable.finalMeaning,
    h.graph.follow_eq, h.typedefs]

end Scope.SameShape

end HeaderBind
