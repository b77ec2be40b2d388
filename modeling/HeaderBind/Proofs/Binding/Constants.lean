/-
# HeaderBind.Proofs.Binding.Constants — which definitions define the same constant

The constant of a definition is the camel case of a C name: the tag of the type, or its first
typedef name, or that of a parent with a label, or a numbered one (`account_of_bind`).  Nothing
compares these names, so constants clash where camel case merges two spellings, where C names
from different sources are spelled alike, and where a parent and a label happen to make a
name that is there already (`constants_clash`).  There is no other way (`constants_of_bind`):
C names from one source, parents aside, are different, and numbered ones stay different in
camel case.
-/
import HeaderBind.Proofs.CType.Route
import HeaderBind.Proofs.Identifier.Numbered
import HeaderBind.Proofs.TypeName.Decided
import HeaderBind.Proofs.TypeName.Origin
import Mathlib.Tactic.Choose

namespace HeaderBind

set_option autoImplicit false

open Outcome Relation

/-! ## Tags and typedefs that are told apart -/

namespace TypeGraph

/-- The tag that a type was declared with. -/
def tagName? (graph : TypeGraph) (id : NodeId) : Option String :=
  (graph.tagged? id).bind TaggedType.ownName?

/-- No two types have the same tag. -/
def DistinctTags (graph : TypeGraph) : Prop :=
  ∀ id other name, graph.tagName? id = some name → graph.tagName? other = some name → id = other

/-- It is enough to compare the types that there are. -/
theorem distinctTags_of_bounded {graph : TypeGraph}
    (each : ∀ i < graph.size, ∀ j < graph.size, i ≠ j →
      graph.tagName? ⟨i⟩ = none ∨ graph.tagName? ⟨i⟩ ≠ graph.tagName? ⟨j⟩) :
    graph.DistinctTags := by
  have bounded : ∀ id name, graph.tagName? id = some name → id.index < graph.size := by
    intro id name named
    obtain ⟨type, tagged, -⟩ := Option.bind_eq_some_iff.1 named
    exact (Array.getElem?_eq_some_iff.1 (tagged?_eq_some_iff.1 tagged)).1
  intro id other name one two
  by_contra differ
  have apart : id.index ≠ other.index := fun same => differ (congrArg NodeId.mk same)
  rcases each id.index (bounded id name one) other.index (bounded other name two) apart with
    nameless | different
  · cases one.symm.trans nameless
  · exact different (one.trans two.symm)

theorem SameShape.tagName?_eq {first second : TypeGraph} (h : first.SameShape second)
    (id : NodeId) : second.tagName? id = first.tagName? id := by
  rw [tagName?, tagName?, h.tagged?_eq]

end TypeGraph

theorem map_fst_typedefEntries (declaration : ExternalDeclaration) :
    declaration.typedefEntries.map Prod.fst = declaration.declaredTypedefs := by
  cases declaration with
  | functionBody name function => rfl
  | declaration base declarators isTypedef =>
    cases isTypedef with
    | false => rfl
    | true =>
      rw [ExternalDeclaration.typedefEntries, List.map_map]
      rfl

/-- A typedef name is the first of one type only if it is declared once. -/
theorem eq_of_firstTypedef? {library : HeaderLibrary} {marker : String}
    (distinct : library.declaredTypedefs.Nodup) {id other : NodeId} {name : String}
    (one : library.firstTypedef? marker id = some name)
    (two : library.firstTypedef? marker other = some name) : id = other := by
  have entry : ∀ {id}, library.firstTypedef? marker id = some name →
      (name, some id) ∈
        (library.files.flatMap Prod.snd).flatMap ExternalDeclaration.typedefEntries := by
    intro id first
    obtain ⟨⟨found, type⟩, isEntry, rfl⟩ := Option.map_eq_some_iff.1 first
    have passes := List.find?_some isEntry
    obtain ⟨-, rfl⟩ := of_decide_eq_true passes
    exact List.mem_of_find?_eq_some isEntry
  have names : ((library.files.flatMap Prod.snd).flatMap
      ExternalDeclaration.typedefEntries).map Prod.fst = library.declaredTypedefs := by
    rw [List.map_flatMap, HeaderLibrary.declaredTypedefs]
    simp only [map_fst_typedefEntries]
  rw [← names] at distinct
  have same := List.inj_on_of_nodup_map distinct (entry one) (entry two) rfl
  exact Option.some.inj (congrArg Prod.snd same)

/-! ## Sources of names -/

/-- Where the C name of a type comes from. -/
inductive NameSource where
  | tag
  | typedef
  /-- The name of a parent and the label of a member. -/
  | parent
  | number
deriving DecidableEq, Repr

/-- The type has neither a tag nor a typedef. -/
def Workspace.Nameless (workspace : Workspace) (firstTypedef? : NodeId → Option String)
    (id : NodeId) : Prop :=
  workspace.scope.graph.tagName? id = none ∧ firstTypedef? id = none

/-- The name of the type comes from the source, and from no source before it. -/
def Workspace.NamedFrom (workspace : Workspace) (firstTypedef? : NodeId → Option String)
    (id : NodeId) (name : String) : NameSource → Prop
  | .tag => workspace.scope.graph.tagName? id = some name
  | .typedef => workspace.scope.graph.tagName? id = none ∧ firstTypedef? id = some name
  | .parent => workspace.Nameless firstTypedef? id ∧
      workspace.scope.NamedInPlace workspace.ledger.names id name
  | .number => workspace.Nameless firstTypedef? id ∧
      ∃ type count, workspace.scope.graph.tagged? id = some type ∧ 0 < count ∧
        name = Identifier.numberedName type.tag.keyword count

namespace HeaderLibrary

variable {library : HeaderLibrary} {skipUnsupported : Bool} {graph : TypeGraph} {marker : String}
  {bindings : Bindings} {after : Workspace}

/-- After the typedefs are read, the types keep their shape and names are only moved. -/
def MovesTo (earlier later : Workspace) : Prop :=
  earlier.scope.SameShape later.scope ∧
    ReflTransGen later.scope.NameMove earlier.ledger.names later.ledger.names

theorem bindHeader_moves {header : String} {workspace later : Workspace} {bound : BoundHeader}
    (done : (library.bindHeader skipUnsupported header).run workspace = .ok bound later) :
    MovesTo workspace later := by
  obtain ⟨middle, callbacks, functions, scope, -⟩ := bindHeader_ok done
  have one := (Scope.bindAll_moves _ _ _).ok callbacks
  have two := (Scope.bindAll_moves _ _ _).ok functions
  rw [MovesTo, scope]
  exact ⟨library.sameShape_scanScope workspace.scope header, one.trans two⟩

theorem moves_of_bind
    (done : (library.bind skipUnsupported).run (.start graph marker) = .ok bindings after) :
    MovesTo (library.readTypedefs (.start graph marker)) after := by
  obtain ⟨bound, middle, ledger, headers, enums, records, -, scope⟩ := bind_stages done
  have bindings : MovesTo (library.readTypedefs (.start graph marker)) middle := by
    refine mapM_ok_preserves (P := MovesTo (library.readTypedefs (.start graph marker)))
      (fun header _ first found last before run => ?_) ⟨.refl _, .refl⟩ (bindHeaders_ok headers)
    obtain ⟨shape, moves⟩ := bindHeader_moves run
    have carried := before.2.lift id fun _ _ => Scope.NameMove.sameShape shape
    exact ⟨before.1.trans shape, carried.trans moves⟩
  have keeps := middle.scope.collecting_moves.toNamingKeeps
  have first := keeps.bindEnums.ok enums
  have last := keeps.bindRecords.ok records
  rw [MovesTo, scope]
  exact ⟨bindings.1, bindings.2.trans (first.trans last)⟩

/-- **Every name that a run gives is told**, and no more types are numbered than there are. -/
theorem account_of_bind
    (done : (library.bind skipUnsupported).run (.start graph marker) = .ok bindings after) :
    graph.SameShape after.scope.graph ∧
      ∃ order, after.scope.Account (library.readTypedefs (.start graph marker)).ledger.names.find?
        order after.ledger.names ∧ order.length ≤ graph.size := by
  have shape := (library.sameShape_readTypedefs (.start graph marker)).trans
    (moves_of_bind done).1.graph
  obtain ⟨order, account⟩ := (Scope.Account.start _
    (library.numbered_readTypedefs (.start graph marker))).moves (moves_of_bind done).2
  refine ⟨shape, order, account, TypeGraph.length_le_of_nodup account.distinct fun id member => ?_⟩
  obtain ⟨type, tagged, -⟩ := account.numbered id member
  rw [shape.tagged?_eq] at tagged
  exact ⟨_, TypeGraph.tagged?_eq_some_iff.1 tagged⟩

end HeaderLibrary

/-! ## Definitions -/

/-- The constant that a binding defines, and the C name that it is made from. -/
structure Definition where
  constant : String
  cName : String
deriving DecidableEq, Repr

/-- The definitions of the enumerations and then of the records. -/
def Bindings.definitions (bindings : Bindings) : List Definition :=
  bindings.enums.map (fun binding => ⟨binding.name, binding.cName⟩) ++
    bindings.records.map fun binding => ⟨binding.name, binding.cName⟩

/-- The definitions of the bindings are those of these types: of the needed enumerations, and
of the needed records and those written in them. -/
def Workspace.Defines (workspace : Workspace) (bindings : Bindings) (nodes : List NodeId) : Prop :=
  ∃ records, nodes =
      workspace.ledger.needs.types.filter workspace.scope.graph.isEnum ++ records ∧
    (∀ id, id ∈ records ↔
      workspace.scope.graph.Placed (workspace.scope.Wants workspace.ledger.needs) id) ∧
    List.Forall₂ (workspace.scope.Describes workspace.ledger.names) bindings.records records

namespace HeaderLibrary

variable {library : HeaderLibrary} {skipUnsupported : Bool} {graph : TypeGraph} {marker : String}
  {bindings : Bindings} {after : Workspace}

/-- Every definition has the camel case of the name that its type has in the end. -/
theorem defines_of_bind
    (done : (library.bind skipUnsupported).run (.start graph marker) = .ok bindings after) :
    ∃ nodes, after.Defines bindings nodes ∧
      List.Forall₂ (fun (definition : Definition) id =>
        after.scope.settledName? after.ledger.names id = some definition.cName ∧
          definition.constant = Identifier.camelCase definition.cName)
        bindings.definitions nodes := by
  have named := named_of_bind done
  obtain ⟨records, placed, described⟩ := named.records
  refine ⟨_, ⟨records, rfl, placed, described⟩, List.rel_append ?_ ?_⟩
  · rw [List.forall₂_map_left_iff]
    exact named.enums
  · rw [List.forall₂_map_left_iff]
    exact described.imp fun binding id told => ⟨told.cName, told.name⟩

/-- The type is numbered, and the name is that of its place in the order. -/
def NumberedIn (graph : TypeGraph) (order : List NodeId) (id : NodeId) (name : String) : Prop :=
  id ∈ order ∧ ∃ type, graph.tagged? id = some type ∧
    name = Identifier.numberedName type.tag.keyword (order.idxOf id + 1)

/-- A settled name comes from one of the sources. -/
theorem exists_source {order : List NodeId}
    (done : (library.bind skipUnsupported).run (.start graph marker) = .ok bindings after)
    (shape : graph.SameShape after.scope.graph)
    (account : after.scope.Account
      (library.readTypedefs (.start graph marker)).ledger.names.find? order after.ledger.names)
    {id : NodeId} {name : String}
    (settled : after.scope.settledName? after.ledger.names id = some name) :
    ∃ source, after.NamedFrom (library.firstTypedef? marker) id name source ∧
      (source = .number → NumberedIn graph order id name) := by
  obtain ⟨type, tagged, named⟩ := Option.bind_eq_some_iff.1 settled
  have inGraph : graph.tagged? id = some type := (shape.tagged?_eq id).symm.trans tagged
  have tag : after.scope.graph.tagName? id = type.ownName? := by
    rw [TypeGraph.tagName?, tagged, Option.bind_some]
  cases own : type.ownName? with
  | some other =>
    rw [own] at named tag
    exact ⟨.tag, tag.trans named, nofun⟩
  | none =>
    rw [own] at tag
    cases first : library.firstTypedef? marker id with
    | some other =>
      have settledFirst := settledName?_of_bind done inGraph
        (by rw [own, Option.none_or]; exact first)
      cases settled.symm.trans settledFirst
      exact ⟨.typedef, ⟨tag, first⟩, nofun⟩
    | none =>
      rw [own, Option.none_or] at named
      rcases account.told id name named with early | inPlace | isNumbered
      · rw [find?_readTypedefs inGraph own, first] at early
        cases early
      · exact ⟨.parent, ⟨⟨tag, first⟩, inPlace⟩, nofun⟩
      · obtain ⟨other, there, given⟩ := account.numbered id isNumbered
        cases tagged.symm.trans there
        cases named.symm.trans given
        refine ⟨.number, ⟨⟨tag, first⟩, type, _, tagged, Nat.succ_pos _, rfl⟩, fun _ => ?_⟩
        exact ⟨isNumbered, type, inGraph, rfl⟩

/-- Every type has one source, and the numbered types have an order. -/
theorem sources_of_bind
    (done : (library.bind skipUnsupported).run (.start graph marker) = .ok bindings after) :
    ∃ (source : NodeId → NameSource) (order : List NodeId), order.length ≤ graph.size ∧
      ∀ id name, after.scope.settledName? after.ledger.names id = some name →
        after.NamedFrom (library.firstTypedef? marker) id name (source id) ∧
          (source id = .number → NumberedIn graph order id name) := by
  obtain ⟨shape, order, account, bound⟩ := account_of_bind done
  have each : ∀ id, ∃ source, ∀ name,
      after.scope.settledName? after.ledger.names id = some name →
        after.NamedFrom (library.firstTypedef? marker) id name source ∧
          (source = .number → NumberedIn graph order id name) := by
    intro id
    cases settled : after.scope.settledName? after.ledger.names id with
    | none => exact ⟨.tag, fun _ isName => nomatch isName⟩
    | some name =>
      obtain ⟨source, told⟩ := exists_source done shape account settled
      refine ⟨source, fun _ same => ?_⟩
      cases same
      exact told
  choose source told using each
  exact ⟨source, order, bound, told⟩

/-- **Which definitions define the same constant.**  With distinct tags and distinct typedef
names, the C names of two types are different if they come from the same source and this is
not a parent, and numbered names stay different in camel case.  So a constant is defined for
two types only where a name was made from a parent, where the names come from different
sources, or where camel case merges two tags or two typedef names. -/
theorem constants_of_bind
    (done : (library.bind skipUnsupported).run (.start graph marker) = .ok bindings after)
    (tags : graph.DistinctTags) (typedefs : library.declaredTypedefs.Nodup)
    (bound : graph.size < Numeral.English.limit) :
    ∃ (nodes : List NodeId) (source : NodeId → NameSource),
      after.Defines bindings nodes ∧
      List.Forall₂ (fun (definition : Definition) id =>
        after.NamedFrom (library.firstTypedef? marker) id definition.cName (source id) ∧
          definition.constant = Identifier.camelCase definition.cName)
        bindings.definitions nodes ∧
      ∀ one ∈ bindings.definitions.zip nodes, ∀ other ∈ bindings.definitions.zip nodes,
        one.2 ≠ other.2 → source one.2 = source other.2 → source one.2 ≠ .parent →
          one.1.cName ≠ other.1.cName ∧
            (source one.2 = .number → one.1.constant ≠ other.1.constant) := by
  obtain ⟨shape, -⟩ := account_of_bind done
  obtain ⟨nodes, defines, named⟩ := defines_of_bind done
  obtain ⟨source, order, short, told⟩ := sources_of_bind done
  have each : ∀ one ∈ bindings.definitions.zip nodes,
      after.scope.settledName? after.ledger.names one.2 = some one.1.cName ∧
        one.1.constant = Identifier.camelCase one.1.cName := fun one member =>
    (List.forall₂_iff_zip.1 named).2 member
  refine ⟨nodes, source, defines, named.imp fun definition id is => ⟨(told id _ is.1).1, is.2⟩, ?_⟩
  intro one isOne other isOther differ same notParent
  obtain ⟨settledOne, constantOne⟩ := each one isOne
  obtain ⟨settledOther, constantOther⟩ := each other isOther
  obtain ⟨fromOne, numberedOne⟩ := told _ _ settledOne
  obtain ⟨fromOther, numberedOther⟩ := told _ _ settledOther
  rw [← same] at fromOther numberedOther
  have apart : source one.2 = .number → one.1.constant ≠ other.1.constant := by
    intro isNumber clash
    obtain ⟨memberOne, type, -, nameOne⟩ := numberedOne isNumber
    obtain ⟨memberOther, otherType, -, nameOther⟩ := numberedOther isNumber
    have boundOne := List.idxOf_lt_length_of_mem memberOne
    have boundOther := List.idxOf_lt_length_of_mem memberOther
    rw [constantOne, constantOther, nameOne, nameOther] at clash
    have counts := Identifier.camelCase_numberedName_inj (by omega) (by omega) clash
    exact differ (List.idxOf_inj memberOne |>.1 (Nat.succ.inj counts))
  refine ⟨fun clash => ?_, apart⟩
  cases isFrom : source one.2 with
  | tag =>
    rw [isFrom] at fromOne fromOther
    rw [← clash] at fromOther
    rw [Workspace.NamedFrom, shape.tagName?_eq] at fromOne fromOther
    exact differ (tags _ _ _ fromOne fromOther)
  | typedef =>
    rw [isFrom] at fromOne fromOther
    rw [← clash] at fromOther
    exact differ (eq_of_firstTypedef? typedefs fromOne.2 fromOther.2)
  | parent => exact notParent isFrom
  | number => exact apart isFrom (by rw [constantOne, constantOther, clash])

end HeaderLibrary

/-! ## Clashes -/

/-- Pairs of types whose constants clash: two tags that differ in case, a tag and a typedef
name, two members written in place, and a tag that is spelled like a number. -/
def clashTypes : TypeGraph := ⟨#[
  .builtin "int",
  .tagged ⟨.struct, "my_point", some [⟨"x", some ⟨0⟩⟩], []⟩,
  .tagged ⟨.union, "MyPoint", some [⟨"y", some ⟨0⟩⟩], []⟩,
  .tagged ⟨.struct, "line", some [⟨"x", some ⟨0⟩⟩], []⟩,
  .tagged ⟨.union, none, some [⟨"y", some ⟨0⟩⟩], []⟩,
  .tagged ⟨.struct, "a_b", some [⟨"c", some ⟨6⟩⟩], []⟩,
  .tagged ⟨.struct, none, some [⟨"x", some ⟨0⟩⟩], []⟩,
  .tagged ⟨.struct, "a", some [⟨"b_c", some ⟨8⟩⟩], []⟩,
  .tagged ⟨.union, none, some [⟨"y", some ⟨0⟩⟩], []⟩,
  .tagged ⟨.struct, "anonymous_union_one", some [⟨"x", some ⟨0⟩⟩], []⟩,
  .tagged ⟨.union, none, some [⟨"y", some ⟨0⟩⟩], []⟩,
  .function ⟨[⟨none, some ⟨1⟩⟩, ⟨none, some ⟨2⟩⟩, ⟨none, some ⟨3⟩⟩, ⟨none, some ⟨4⟩⟩,
    ⟨none, some ⟨5⟩⟩, ⟨none, some ⟨7⟩⟩, ⟨none, some ⟨9⟩⟩, ⟨none, some ⟨10⟩⟩], none, false⟩]⟩

/-- A typedef of the first unnamed union, and a function that takes all of the types. -/
def clashLibrary : HeaderLibrary where
  headers := ["clash.h"]
  files := [("clash.h", [
    .declaration (some ⟨4⟩) [⟨"line", none⟩] true,
    .declaration (some ⟨0⟩) [⟨"mix", some ⟨11⟩⟩] false])]

/-- What the bindings of the library tell of its records: constant, C name and kind. -/
def clashRecords : List (String × String × Bool) := [
  ("MyPoint", "my_point", false), ("MyPoint", "MyPoint", true),
  ("Line", "line", false), ("Line", "line", true),
  ("ABC", "a_b_c", false), ("AB", "a_b", false),
  ("ABC", "a_b_c", true), ("A", "a", false),
  ("AnonymousUnionOne", "anonymous_union_one", false),
  ("AnonymousUnionOne", "anonymous_union_one", true)]

theorem clashTypes_distinct : clashTypes.DistinctTags :=
  TypeGraph.distinctTags_of_bounded (by decide +kernel)

theorem bind_clash : ∃ bindings after,
    (clashLibrary.bind false).run (.start clashTypes "va") = .ok bindings after ∧
      bindings.enums = [] ∧
      bindings.records.map (fun binding => (binding.name, binding.cName, binding.isUnion)) =
        clashRecords := by
  have tested : gives (fun bindings _ => decide (bindings.enums = [] ∧
      bindings.records.map (fun binding => (binding.name, binding.cName, binding.isUnion)) =
        clashRecords))
      ((clashLibrary.bind false).run (.start clashTypes "va")) = true := by decide +kernel
  obtain ⟨bindings, after, done, shown⟩ := exists_of_gives tested
  exact ⟨bindings, after, done, of_decide_eq_true shown⟩

/-- Records that differ in name or kind are different. -/
theorem nodup_of_described {scope : Scope} {names : NameTable} {bindings : List RecordBinding}
    {nodes : List NodeId} (described : List.Forall₂ (scope.Describes names) bindings nodes)
    (apart : (bindings.map fun binding => (binding.cName, binding.isUnion)).Nodup) :
    nodes.Nodup := by
  have keys : (bindings.map fun binding => (binding.cName, binding.isUnion)) =
      nodes.map fun id => ((scope.settledName? names id).getD "", scope.graph.isUnion id) := by
    rw [← List.forall₂_eq_eq_eq, List.forall₂_map_left_iff, List.forall₂_map_right_iff]
    refine described.imp fun binding id told => ?_
    rw [told.cName, told.isUnion, Option.getD_some]
  rw [keys] at apart
  exact apart.of_map

/-- Constants of different types clash, whichever sources their names come from. -/
theorem constants_clash :
    clashTypes.DistinctTags ∧ clashLibrary.declaredTypedefs.Nodup ∧
      ∃ bindings after nodes,
        (clashLibrary.bind false).run (.start clashTypes "va") = .ok bindings after ∧
        after.Defines bindings nodes ∧
        (∃ one ∈ bindings.definitions.zip nodes, ∃ other ∈ bindings.definitions.zip nodes,
          one.2 ≠ other.2 ∧ one.1.constant = other.1.constant) ∧
        nodes.Nodup ∧
        bindings.definitions.map Definition.constant = ["MyPoint", "MyPoint", "Line", "Line",
          "ABC", "AB", "ABC", "A", "AnonymousUnionOne", "AnonymousUnionOne"] := by
  obtain ⟨bindings, after, done, enums, records⟩ := bind_clash
  obtain ⟨nodes, defines, named⟩ := HeaderLibrary.defines_of_bind done
  have constants : bindings.definitions.map Definition.constant = ["MyPoint", "MyPoint", "Line",
      "Line", "ABC", "AB", "ABC", "A", "AnonymousUnionOne", "AnonymousUnionOne"] := by
    have names := congrArg (List.map Prod.fst) records
    rw [List.map_map] at names
    rw [Bindings.definitions, enums, List.map_nil, List.nil_append, List.map_map]
    exact names
  have distinct : nodes.Nodup := by
    obtain ⟨recordNodes, rfl, -, described⟩ := defines
    have none := (HeaderLibrary.named_of_bind done).enums
    rw [enums, List.forall₂_nil_left_iff] at none
    have apart : (bindings.records.map fun binding => (binding.cName, binding.isUnion)).Nodup := by
      have keys := congrArg (List.map Prod.snd) records
      rw [List.map_map] at keys
      show (bindings.records.map (Prod.snd ∘ fun binding =>
        (binding.name, binding.cName, binding.isUnion))).Nodup
      rw [keys]
      decide
    rw [none, List.nil_append]
    exact nodup_of_described described apart
  refine ⟨clashTypes_distinct, by decide, bindings, after, nodes, done, defines, ?_, distinct,
    constants⟩
  cases definitions : bindings.definitions with
  | nil => cases definitions ▸ constants
  | cons one more =>
    rw [definitions] at named constants
    obtain ⟨constantOne, rest⟩ := List.cons.inj constants
    cases more with
    | nil => cases rest
    | cons other more =>
      obtain ⟨constantOther, -⟩ := List.cons.inj rest
      cases named with
      | @cons _ first _ _ _ named =>
        cases named with
        | @cons _ second _ _ _ _ =>
          have differ : first ≠ second := fun same =>
            (List.nodup_cons.1 distinct).1 (same ▸ List.mem_cons_self)
          exact ⟨(one, first), List.mem_cons_self, (other, second),
            List.mem_cons_of_mem _ List.mem_cons_self, differ, constantOne.trans constantOther.symm⟩

/-- Every clash of the library is one of those that there may be. -/
theorem constants_of_bind_clash :
    clashTypes.DistinctTags ∧ clashLibrary.declaredTypedefs.Nodup ∧
      clashTypes.size < Numeral.English.limit ∧
      ∃ bindings after,
        (clashLibrary.bind false).run (.start clashTypes "va") = .ok bindings after ∧
        bindings.records.map (fun binding => (binding.name, binding.cName, binding.isUnion)) =
          clashRecords ∧
        ∃ (nodes : List NodeId) (source : NodeId → NameSource),
          after.Defines bindings nodes ∧
          List.Forall₂ (fun (definition : Definition) id =>
            after.NamedFrom (clashLibrary.firstTypedef? "va") id definition.cName (source id) ∧
              definition.constant = Identifier.camelCase definition.cName)
            bindings.definitions nodes ∧
          ∀ one ∈ bindings.definitions.zip nodes, ∀ other ∈ bindings.definitions.zip nodes,
            one.2 ≠ other.2 → source one.2 = source other.2 → source one.2 ≠ .parent →
              one.1.cName ≠ other.1.cName ∧
                (source one.2 = .number → one.1.constant ≠ other.1.constant) := by
  obtain ⟨bindings, after, done, -, records⟩ := bind_clash
  have small : clashTypes.size < Numeral.English.limit := by decide +kernel
  refine ⟨clashTypes_distinct, by decide, small, bindings, after, done, records, ?_⟩
  exact HeaderLibrary.constants_of_bind done clashTypes_distinct (by decide) small

end HeaderBind
