/-
# HeaderBind.Proofs.Clang.Shown — when the nodes of a graph are those of a source

A reference shows a type of a unit when the nodes below it are what the type is made
of, a tagged type being the one node of its key (`Shows`).  A declaration presents a
cursor when it has the cursor's name and its references show the cursor's types
(`Presents`).  Neither looks at when a node was made, so both tell which references
are the same node: those to declarations of the same key.

What was shown stays shown while a conversion adds nodes and fills tagged types
(`Conversion.Retains`).
-/
import HeaderBind.Clang.Declaration
import HeaderBind.Proofs.Clang.Members

namespace HeaderBind.Clang

set_option autoImplicit false

/-! ## Types -/

mutual

/-- The reference shows the type. -/
def Shows (unit : SourceUnit) (state : Conversion) : SourceType → TypeRef → Prop
  | .elaborated named, ref => Shows unit state named ref
  | .pointer pointee _, ref =>
      ∃ target, state.graph.at? ref = some (.pointer target) ∧ Shows unit state pointee target
  | .typedefName declaration, ref =>
      state.graph.at? ref = some (.typedefName (unit.declaration declaration).spelling)
  | .tagged declaration, ref =>
      ∃ id, ref = some id ∧ state.nodes.lookup (unit.declaration declaration).key = some id
  | .prototype params result variadic _, ref =>
      ∃ targets target,
        state.graph.at? ref =
          some (.function ⟨targets.map fun type => ⟨none, type⟩, target, variadic⟩) ∧
        ShowsAll unit state params targets ∧ Shows unit state result target
  | .noPrototype result _, ref =>
      ∃ target, state.graph.at? ref = some (.function ⟨[], target, false⟩) ∧
        Shows unit state result target
  | .leaf kind spelling _, ref =>
      state.graph.at? ref =
        some (if kind ∈ builtinKinds then .builtin spelling else .uncovered spelling)

/-- The references show the types, one each. -/
def ShowsAll (unit : SourceUnit) (state : Conversion) : List SourceType → List TypeRef → Prop
  | [], refs => refs = []
  | type :: rest, refs =>
      ∃ ref others, refs = ref :: others ∧ Shows unit state type ref ∧
        ShowsAll unit state rest others

end

/-- A field of the record has the child itself as its type. -/
def IsFieldType (unit : SourceUnit) (children : List Cursor) (child : Cursor) : Prop :=
  ∃ field ∈ children, field.kind = .fieldDecl ∧
    (unit.declaration field.type.declaration?).kind.tag?.isSome = true ∧
    (unit.declaration field.type.declaration?).usr = child.usr

/-- The child of a record is a member of it: a field, or a structure or union without a name
that no field has as its type. -/
def IsMember (unit : SourceUnit) (children : List Cursor) (child : Cursor) : Prop :=
  child.kind = .fieldDecl ∨
    (child.kind = .structDecl ∨ child.kind = .unionDecl) ∧ isUnnamed child.spelling = true ∧
      ¬ IsFieldType unit children child

instance (unit : SourceUnit) (children : List Cursor) : DecidablePred (IsFieldType unit children) :=
  fun _ => inferInstanceAs (Decidable (∃ field ∈ children, _))

instance (unit : SourceUnit) (children : List Cursor) : DecidablePred (IsMember unit children) :=
  fun _ => inferInstanceAs (Decidable (_ ∨ _))

theorem mem_fieldTypes_iff {unit : SourceUnit} {children : List Cursor} {child : Cursor} :
    child.usr ∈ fieldTypes unit children ↔ IsFieldType unit children child := by
  simp only [fieldTypes, IsFieldType, List.mem_filterMap, List.mem_filter, decide_eq_true_eq,
    Option.ite_none_right_eq_some, Option.some.injEq, and_assoc]

/-- The children that are members are those that give one. -/
theorem givesMember_eq (unit : SourceUnit) (children : List Cursor) (child : Cursor) :
    givesMember unit children child = decide (IsMember unit children child) := by
  rw [Bool.eq_iff_iff, decide_eq_true_iff, IsMember, ← mem_fieldTypes_iff]
  simp [givesMember, isAnonymousMember, and_assoc]

/-- The member is that of a child of a record. -/
def ShowsMember (unit : SourceUnit) (state : Conversion) (child : Cursor) (member : Member) :
    Prop :=
  if child.kind = .fieldDecl then
    member.name = Identifier.nonempty? child.spelling ∧ Shows unit state child.type member.type
  else
    member.name = none ∧ ∃ id, member.type = some id ∧ state.nodes.lookup child.key = some id

/-- What stands for the value of a constant: nothing where nothing follows its name, else the
tokens that follow, or the value itself where they are not known. -/
inductive ShowsValue (unit : SourceUnit) (child : Cursor) : Option String → Prop where
  | absent (nothing : unit.cursorsAt child.children = []) : ShowsValue unit child none
  | written {initializer : Cursor} {rest : List Cursor}
      (follows : unit.cursorsAt child.children = initializer :: rest)
      (text : String.intercalate " " initializer.tokens ≠ "") :
      ShowsValue unit child (some (String.intercalate " " initializer.tokens))
  | computed {initializer : Cursor} {rest : List Cursor}
      (follows : unit.cursorsAt child.children = initializer :: rest)
      (noText : String.intercalate " " initializer.tokens = "") :
      ShowsValue unit child (some (toString child.enumValue))

/-- The constant is that of a child of an enumeration. -/
def ShowsConstant (unit : SourceUnit) (child : Cursor) (constant : Constant) : Prop :=
  constant.name = child.spelling ∧ ShowsValue unit child constant.value

theorem valueText?_shows (unit : SourceUnit) (child : Cursor) :
    ShowsValue unit child (valueText? unit child) := by
  unfold valueText?
  split
  · rename_i nothing
    exact .absent nothing
  · rename_i initializer rest follows
    dsimp only
    by_cases text : String.intercalate " " initializer.tokens = ""
    · rw [if_pos text]
      exact .computed follows text
    · rw [if_neg text]
      exact .written follows text

/-- The constants of a definition are those of its children, in order. -/
theorem constantsOf_shows (unit : SourceUnit) (definition : Cursor) :
    List.Forall₂ (ShowsConstant unit)
      ((unit.cursorsAt definition.children).filter fun child => child.kind = .enumConstantDecl)
      (constantsOf unit definition) :=
  List.forall₂_map_right_iff.2 (List.forall₂_same.2 fun child _ =>
    ⟨rfl, valueText?_shows unit child⟩)

/-- The parameter is that of an argument of a declared function. -/
def ShowsParameter (unit : SourceUnit) (state : Conversion) (argument : Cursor)
    (param : Parameter) : Prop :=
  param.name = Identifier.nonempty? argument.spelling ∧ Shows unit state argument.type param.type

/-! ## Declarations -/

/-- The reference shows a function type but for its result, which is left open. -/
def ShowsOpen (unit : SourceUnit) (state : Conversion) (parts : FunctionParts) (ref : TypeRef) :
    Prop :=
  ∃ targets,
    state.graph.at? ref =
      some (.function ⟨targets.map fun type => ⟨none, type⟩, none, parts.variadic⟩) ∧
    ShowsAll unit state parts.params targets

/-- The declaration is what a cursor declares. -/
inductive Presents (unit : SourceUnit) (state : Conversion) (cursor : Cursor) :
    ExternalDeclaration → Prop where
  | functionBody {params : List Parameter} {result function : TypeRef}
      (kind : cursor.kind = .functionDecl) (isDefinition : cursor.isDefinition = true)
      (node : state.graph.at? function =
        some (.function ⟨params, result, cursor.type.isVariadic⟩))
      (shown : List.Forall₂ (ShowsParameter unit state) (unit.cursorsAt cursor.arguments) params)
      (given : Shows unit state cursor.resultType result) :
      Presents unit state cursor (.functionBody cursor.spelling function)
  | function {params : List Parameter} {result function : TypeRef}
      (kind : cursor.kind = .functionDecl) (isDeclared : cursor.isDefinition = false)
      (node : state.graph.at? function = some (.function ⟨params, none, cursor.type.isVariadic⟩))
      (shown : List.Forall₂ (ShowsParameter unit state) (unit.cursorsAt cursor.arguments) params)
      (given : Shows unit state cursor.resultType result) :
      Presents unit state cursor (.declaration result [⟨cursor.spelling, function⟩] false)
  | pointerTypedef {parts : FunctionParts} {result pointer function : TypeRef}
      (kind : cursor.kind = .typedefDecl)
      (underlying : cursor.underlying.stripped.pointedParts? = some parts)
      (node : state.graph.at? pointer = some (.pointer function))
      (shown : ShowsOpen unit state parts function)
      (given : Shows unit state parts.result result) :
      Presents unit state cursor (.declaration result [⟨cursor.spelling, pointer⟩] true)
  | functionTypedef {parts : FunctionParts} {result function : TypeRef}
      (kind : cursor.kind = .typedefDecl)
      (noPointer : cursor.underlying.stripped.pointedParts? = none)
      (underlying : cursor.underlying.stripped.functionParts? = some parts)
      (shown : ShowsOpen unit state parts function)
      (given : Shows unit state parts.result result) :
      Presents unit state cursor (.declaration result [⟨cursor.spelling, function⟩] true)
  | typedef {base : TypeRef} (kind : cursor.kind = .typedefDecl)
      (noPointer : cursor.underlying.stripped.pointedParts? = none)
      (noFunction : cursor.underlying.stripped.functionParts? = none)
      (shown : Shows unit state cursor.underlying base) :
      Presents unit state cursor (.declaration base [⟨cursor.spelling, none⟩] true)
  | object {base : TypeRef} (kind : cursor.kind = .varDecl)
      (shown : Shows unit state cursor.type base) :
      Presents unit state cursor (.declaration base [⟨cursor.spelling, none⟩] false)
  | tagged {id : NodeId} (kind : cursor.kind.tag?.isSome = true)
      (node : state.nodes.lookup cursor.key = some id) :
      Presents unit state cursor (.declaration (some id) [] false)

/-! ## What stays shown -/

namespace Conversion

/-- Nodes were added and tagged types were filled; all else is as it was. -/
structure Retains (earlier later : Conversion) : Prop extends Extends earlier later where
  untagged : ∀ id type, earlier.graph.node? id = some type → (∀ tagged, type ≠ .tagged tagged) →
    later.graph.node? id = some type

namespace Retains

variable {first second third : Conversion}

theorem trans (one : first.Retains second) (two : second.Retains third) : first.Retains third :=
  ⟨IsTrans.trans _ _ _ one.toExtends two.toExtends, fun id type node noTag =>
    two.untagged id type (one.untagged id type node noTag) noTag⟩

theorem at?_eq (kept : first.Retains second) {ref : TypeRef} {type : CType}
    (node : first.graph.at? ref = some type) (noTag : ∀ tagged, type ≠ .tagged tagged) :
    second.graph.at? ref = some type := by
  cases ref with
  | none => cases node
  | some id => exact kept.untagged id type node noTag

end Retains

end Conversion

section Retained

variable {unit : SourceUnit} {earlier later : Conversion}

mutual

theorem Shows.retained (kept : earlier.Retains later) {type : SourceType} {ref : TypeRef}
    (shown : Shows unit earlier type ref) : Shows unit later type ref := by
  cases type with
  | elaborated named =>
    rw [Shows] at shown ⊢
    exact shown.retained kept
  | pointer pointee declaration =>
    rw [Shows] at shown ⊢
    obtain ⟨target, node, below⟩ := shown
    exact ⟨target, kept.at?_eq node (by simp), below.retained kept⟩
  | typedefName declaration =>
    rw [Shows] at shown ⊢
    exact kept.at?_eq shown (by simp)
  | tagged declaration =>
    rw [Shows] at shown ⊢
    obtain ⟨id, leads, node⟩ := shown
    exact ⟨id, leads, kept.nodes _ _ node⟩
  | prototype params result variadic declaration =>
    rw [Shows] at shown ⊢
    obtain ⟨targets, target, node, each, given⟩ := shown
    exact ⟨targets, target, kept.at?_eq node (by simp), each.retained kept, given.retained kept⟩
  | noPrototype result declaration =>
    rw [Shows] at shown ⊢
    obtain ⟨target, node, given⟩ := shown
    exact ⟨target, kept.at?_eq node (by simp), given.retained kept⟩
  | leaf kind spelling declaration =>
    rw [Shows] at shown ⊢
    exact kept.at?_eq shown (by split <;> simp)

theorem ShowsAll.retained (kept : earlier.Retains later) {types : List SourceType}
    {refs : List TypeRef} (shown : ShowsAll unit earlier types refs) :
    ShowsAll unit later types refs := by
  cases types with
  | nil =>
    rw [ShowsAll] at shown ⊢
    exact shown
  | cons type rest =>
    rw [ShowsAll] at shown ⊢
    obtain ⟨ref, others, same, first, more⟩ := shown
    exact ⟨ref, others, same, first.retained kept, more.retained kept⟩

end

theorem ShowsMember.retained (kept : earlier.Retains later) {child : Cursor} {member : Member}
    (shown : ShowsMember unit earlier child member) : ShowsMember unit later child member := by
  unfold ShowsMember at shown ⊢
  split
  · rename_i isField
    rw [if_pos isField] at shown
    exact ⟨shown.1, shown.2.retained kept⟩
  · rename_i noField
    rw [if_neg noField] at shown
    obtain ⟨unnamed, id, leads, node⟩ := shown
    exact ⟨unnamed, id, leads, kept.nodes _ _ node⟩

theorem ShowsParameter.retained (kept : earlier.Retains later) {argument : Cursor}
    {param : Parameter} (shown : ShowsParameter unit earlier argument param) :
    ShowsParameter unit later argument param := ⟨shown.1, shown.2.retained kept⟩

theorem ShowsOpen.retained (kept : earlier.Retains later) {parts : FunctionParts} {ref : TypeRef}
    (shown : ShowsOpen unit earlier parts ref) : ShowsOpen unit later parts ref := by
  obtain ⟨targets, node, each⟩ := shown
  exact ⟨targets, kept.at?_eq node (by simp), each.retained kept⟩

theorem Presents.retained (kept : earlier.Retains later) {cursor : Cursor}
    {declaration : ExternalDeclaration} (presented : Presents unit earlier cursor declaration) :
    Presents unit later cursor declaration := by
  cases presented with
  | functionBody kind isDefinition node shown given =>
    exact .functionBody kind isDefinition (kept.at?_eq node (by simp))
      (shown.imp fun _ _ one => one.retained kept) (given.retained kept)
  | function kind isDeclared node shown given =>
    exact .function kind isDeclared (kept.at?_eq node (by simp))
      (shown.imp fun _ _ one => one.retained kept) (given.retained kept)
  | pointerTypedef kind underlying node shown given =>
    exact .pointerTypedef kind underlying (kept.at?_eq node (by simp)) (shown.retained kept)
      (given.retained kept)
  | functionTypedef kind noPointer underlying shown given =>
    exact .functionTypedef kind noPointer underlying (shown.retained kept) (given.retained kept)
  | typedef kind noPointer noFunction shown =>
    exact .typedef kind noPointer noFunction (shown.retained kept)
  | object kind shown => exact .object kind (shown.retained kept)
  | tagged kind node => exact .tagged kind (kept.nodes _ _ node)

end Retained

end HeaderBind.Clang
