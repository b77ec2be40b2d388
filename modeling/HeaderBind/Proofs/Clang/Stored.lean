/-
# HeaderBind.Proofs.Clang.Stored — what a typedef stands for is what its type converts to

A typedef of a function type, or of a pointer to one, is taken apart: the result becomes the
base type of the declaration, the rest a declarator with a slot for it.  Registering the
typedefs puts the two together again (`Presents.stored`).  The type that is stored then shows
the type that the typedef was declared with, elaborated or not.

Converting that type itself, with the tagged types that the reader knows by then, gives a type
that shows it as well.  This cannot fail: whatever the type refers to was visited when the
typedef was read (`sourceNode_converts`).  So the two are built alike
(`stored_of_unitLibrary`).
-/
import HeaderBind.Proofs.Clang.Completed
import HeaderBind.Proofs.Declaration.Registered

namespace HeaderBind.Clang

set_option autoImplicit false

open Outcome TypeGraph

/-! ## What a typedef refers to -/

section References

variable {unit : SourceUnit}

theorem references_stripped (type : SourceType) :
    references unit type.stripped = references unit type := by
  fun_induction SourceType.stripped type with
  | case1 named ih => rw [ih, references]
  | case2 type => rfl

theorem mem_partsReferences {type : SourceType} {parts : FunctionParts} {cursor : Cursor}
    (called : type.functionParts? = some parts) (refers : cursor ∈ references unit type) :
    cursor ∈ partsReferences unit parts := by
  unfold SourceType.functionParts? at called
  unfold partsReferences
  split at called
  · cases called
    rw [references, List.mem_append] at refers
    exact List.mem_append.2 refers.symm
  · cases called
    rw [references] at refers
    exact List.mem_append.2 (.inl refers)
  · cases called

/-- Taking a typedef apart loses no reference. -/
theorem mem_typedefReferences {underlying : SourceType} {cursor : Cursor}
    (refers : cursor ∈ references unit underlying) :
    cursor ∈ typedefReferences unit underlying := by
  have bare := refers
  rw [← references_stripped] at bare
  unfold typedefReferences
  cases pointed : underlying.stripped.pointedParts? with
  | some parts =>
    unfold SourceType.pointedParts? at pointed
    split at pointed
    · rename_i pointee declaration isPointer
      rw [isPointer, references, ← references_stripped] at bare
      exact mem_partsReferences pointed bare
    · cases pointed
  | none =>
    cases called : underlying.stripped.functionParts? with
    | some parts => exact mem_partsReferences called bare
    | none => exact refers

/-- All that is pending will have been visited. -/
theorem Visits.subset {visited pending last : List Cursor}
    (visits : Visits unit visited pending last) : pending ⊆ last := by
  induction visits with
  | done visited => exact List.nil_subset _
  | @step visited pending last cursor rest ih =>
    intro other member
    rcases List.mem_cons.1 member with rfl | later
    · exact rest.continues.subset (List.mem_append_right _ (List.mem_singleton_self _))
    · exact ih (List.mem_append_right _ later)

theorem mem_listed_of_registered {headers : List String} {cursor : Cursor}
    (member : cursor ∈ unit.registered headers) : ∃ file, (file, cursor) ∈ unit.listed := by
  obtain ⟨file, -, inFile⟩ := List.mem_flatMap.1 member
  obtain ⟨⟨name, cursor⟩, isEntry, rfl⟩ := List.mem_map.1 inFile
  exact ⟨name, (List.mem_filter.1 isEntry).1⟩

/-- What the type of a registered typedef refers to is visited. -/
theorem references_subset_visited {headers : List String} {visited : List Cursor}
    {cursor : Cursor} (visits : Visits unit [] unit.references visited)
    (member : cursor ∈ unit.registered headers) (kind : cursor.kind = .typedefDecl) :
    references unit cursor.underlying ⊆ visited := by
  intro other refers
  obtain ⟨file, listed⟩ := mem_listed_of_registered member
  refine visits.subset (List.mem_flatMap.2 ⟨(file, cursor), listed, ?_⟩)
  rw [declarationReferences, kind]
  exact mem_typedefReferences refers

end References

/-! ## Converting a type whose references were visited -/

section Plain

variable {unit : SourceUnit} {state : Conversion}

/-- The declaration has a node, and its definition, if it has one, was met. -/
def Visited (unit : SourceUnit) (state : Conversion) (cursor : Cursor) : Prop :=
  (∃ id, state.nodes.lookup cursor.key = some id) ∧
    (cursor.key ∈ state.defined ∨ unit.definition? cursor = none)

theorem Tells.visited {opened : List String} {visited : List Cursor}
    (tells : Tells unit opened visited state) {cursor : Cursor} (member : cursor ∈ visited) :
    Visited unit state cursor := by
  refine ⟨(tells.known cursor.key).2 (List.mem_map_of_mem member), ?_⟩
  by_cases met : cursor.key ∈ state.defined
  · exact .inl met
  · right
    rw [tells.marked, Bool.not_eq_true, Option.isSome_eq_false_iff, Option.isNone_iff_eq_none,
      definitionOf?_eq_none_iff] at met
    exact met cursor member rfl

/-- Another visit changes nothing. -/
theorem taggedNode_of_visited {cursor : Cursor} (visited : Visited unit state cursor) :
    ∃ id, (taggedNode unit cursor).run state = .ok id state := by
  obtain ⟨⟨id, found⟩, met⟩ := visited
  have bare : (bareNode cursor).run state = .ok id state := by
    unfold bareNode
    rw [EStateM.run_bind, EStateM.run_get]
    dsimp only
    rw [found]
    rfl
  refine ⟨id, ?_⟩
  have visit : (taggedNode unit cursor).run state = _ :=
    taggedLevel_run (taggedNodeWithin unit unit.cursors.size) bare
  rw [visit]
  by_cases known : cursor.key ∈ state.defined
  · rw [if_pos known]
  · rw [if_neg known, met.resolve_left known]

/-- From the state the computation gives a value, and no declaration is visited anew. -/
def Converts {α : Type} (state : Conversion) (x : Convert α) : Prop :=
  ∃ a after, x.run state = .ok a after ∧ after.nodes = state.nodes ∧
    after.defined = state.defined

namespace Converts

variable {α β : Type} {x : Convert α} {f : α → Convert β}

theorem pure (a : α) : Converts state (pure a) := ⟨a, state, rfl, rfl, rfl⟩

theorem bind (first : Converts state x)
    (rest : ∀ a after, after.nodes = state.nodes → after.defined = state.defined →
      Converts after (f a)) : Converts state (x >>= f) := by
  obtain ⟨a, middle, one, nodes, defined⟩ := first
  obtain ⟨b, after, two, nodes', defined'⟩ := rest a middle nodes defined
  exact ⟨b, after, bind_ok_iff.2 ⟨a, middle, one, two⟩, nodes'.trans nodes,
    defined'.trans defined⟩

theorem addType (type : CType) : Converts state (Convert.addType type) :=
  ⟨_, _, rfl, rfl, rfl⟩

theorem note (text : String) : Converts state (Convert.note text) := ⟨_, _, rfl, rfl, rfl⟩

end Converts

theorem Visited.same {after : Conversion} {cursor : Cursor} (nodes : after.nodes = state.nodes)
    (defined : after.defined = state.defined) (visited : Visited unit state cursor) :
    Visited unit after cursor := by
  unfold Visited at visited ⊢
  rwa [nodes, defined]

mutual

theorem typeNode_converts {state : Conversion} (type : SourceType)
    (each : ∀ cursor ∈ references unit type, Visited unit state cursor) :
    Converts state (typeNode unit (taggedNode unit) type) := by
  cases type with
  | elaborated named =>
    rw [references] at each
    rw [typeNode]
    exact typeNode_converts named each
  | pointer pointee declaration =>
    rw [references] at each
    rw [typeNode]
    exact (typeNode_converts pointee each).bind fun _ _ _ _ => .addType _
  | typedefName declaration =>
    rw [typeNode]
    exact .addType _
  | tagged declaration =>
    rw [references] at each
    rw [typeNode]
    obtain ⟨id, done⟩ := taggedNode_of_visited (each _ (List.mem_singleton_self _))
    exact .bind ⟨id, state, done, rfl, rfl⟩ fun _ _ _ _ => .pure _
  | prototype params result variadic declaration =>
    rw [references] at each
    rw [typeNode]
    refine (typeNodes_converts params fun cursor refers =>
      each cursor (List.mem_append_left _ refers)).bind fun _ middle nodes defined => ?_
    refine (typeNode_converts result fun cursor refers => ?_).bind fun _ _ _ _ => .addType _
    exact (each cursor (List.mem_append_right _ refers)).same nodes defined
  | noPrototype result declaration =>
    rw [references] at each
    rw [typeNode]
    exact (typeNode_converts result each).bind fun _ _ _ _ => .addType _
  | leaf kind spelling declaration =>
    rw [typeNode]
    split
    · exact .addType _
    · exact (Converts.note _).bind fun _ _ _ _ => .addType _

theorem typeNodes_converts {state : Conversion} (types : List SourceType)
    (each : ∀ cursor ∈ allReferences unit types, Visited unit state cursor) :
    Converts state (typeNodes unit (taggedNode unit) types) := by
  cases types with
  | nil =>
    rw [typeNodes]
    exact .pure []
  | cons type rest =>
    rw [allReferences] at each
    rw [typeNodes]
    refine (typeNode_converts type fun cursor refers =>
      each cursor (List.mem_append_left _ refers)).bind fun _ middle nodes defined => ?_
    refine (typeNodes_converts rest fun cursor refers => ?_).bind fun _ _ _ _ => .pure _
    exact (each cursor (List.mem_append_right _ refers)).same nodes defined

end

/-- **A type whose references were visited is converted**, and what it gives shows it. -/
theorem sourceNode_converts {visited : List Cursor} {type : SourceType}
    (tells : Tells unit [] visited state) (among : references unit type ⊆ visited) :
    ∃ ref after, (sourceNode unit type).run state = .ok ref after ∧ state.Grows after ∧
      after.Named ∧ Shows unit after type ref := by
  obtain ⟨ref, after, done, -, -⟩ :=
    typeNode_converts type fun cursor refers => tells.visited (among refers)
  obtain ⟨last, -, told, grown, shown⟩ := sourceNode_reads type [] visited state ref after tells
    (Nat.lt_succ_of_le (unread_length_le unit _)) done
  exact ⟨ref, after, done, grown, told.toIdentifies.isNamed, shown⟩

end Plain

/-! ## Putting a typedef together -/

section Stored

variable {unit : SourceUnit} {state : Conversion}

theorem shows_stripped {type : SourceType} {ref : TypeRef} :
    Shows unit state type.stripped ref ↔ Shows unit state type ref := by
  fun_induction SourceType.stripped type with
  | case1 named ih => rw [ih, Shows]
  | case2 type => rfl

/-- A function type is shown where its parts are. -/
theorem shows_of_functionParts {type : SourceType} {parts : FunctionParts} {ref result : TypeRef}
    {targets : List TypeRef} (called : type.functionParts? = some parts)
    (node : state.graph.at? ref =
      some (.function ⟨targets.map fun type => ⟨none, type⟩, result, parts.variadic⟩))
    (each : ShowsAll unit state parts.params targets)
    (given : Shows unit state parts.result result) : Shows unit state type ref := by
  unfold SourceType.functionParts? at called
  split at called
  · cases called
    rw [Shows]
    exact ⟨targets, result, node, each, given⟩
  · cases called
    rw [ShowsAll] at each
    subst each
    rw [Shows]
    exact ⟨result, node, given⟩
  · cases called

/-- Where an open function type has got its result, it is shown. -/
theorem ShowsOpen.completed {graph : TypeGraph} {type : SourceType} {parts : FunctionParts}
    {id : NodeId} {result : TypeRef} (called : type.functionParts? = some parts)
    (shown : ShowsOpen unit state parts (some id)) (given : Shows unit state parts.result result)
    (filled : state.graph.Filled graph) (slot : graph.slot? id = some result) :
    Shows unit (state.withGraph graph) type (some id) := by
  obtain ⟨targets, node, each⟩ := shown
  obtain ⟨last, completed⟩ := filled.shape.function node
  have isResult : last = result := by
    rw [slot?, completed] at slot
    exact Option.some.inj slot
  rw [isResult] at completed
  exact shows_of_functionParts called completed (each.completed filled) (given.completed filled)

/-- No base type of a declaration leads to an open slot. -/
theorem Presents.base_closed (named : state.Named) {cursor : Cursor}
    {declaration : ExternalDeclaration} (presents : Presents unit state cursor declaration) :
    ∀ entry ∈ declaration.assemblies, state.graph.Closed entry.2 := by
  intro entry member
  cases presents with
  | functionBody => cases member
  | function _ _ _ _ given =>
    rw [List.mem_singleton.1 member]
    exact given.closed named
  | pointerTypedef _ _ _ _ given =>
    rw [List.mem_singleton.1 member]
    exact given.closed named
  | functionTypedef _ _ _ _ given =>
    rw [List.mem_singleton.1 member]
    exact given.closed named
  | typedef _ _ _ shown =>
    rw [List.mem_singleton.1 member]
    exact shown.closed named
  | object _ shown =>
    rw [List.mem_singleton.1 member]
    exact shown.closed named
  | tagged => cases member

variable {headers : List String} {library : HeaderLibrary}

theorem Registers.sealed (registers : Registers unit headers state library)
    (named : state.Named) : state.graph.Sealed library.assemblies := by
  intro entry member
  obtain ⟨declaration, isDeclaration, isEntry⟩ := List.mem_flatMap.1 member
  obtain ⟨cursor, -, presents⟩ := exists_of_forall₂ registers.each.flip isDeclaration
  exact presents.base_closed named entry isEntry

/-- The open slot of a typedef holds the base type once the typedefs are read. -/
theorem Registers.slot?_eq (registers : Registers unit headers state library)
    (named : state.Named) {name : String} {base type : TypeRef} {hole : NodeId}
    (member : .declaration base [⟨name, type⟩] true ∈ library.allDeclarations)
    (isBase : ∃ id, base = some id) (opens : state.graph.OpensAt type hole) (marker : String) :
    (library.readTypedefs (.start state.graph marker)).graph.slot? hole = some base := by
  obtain ⟨id, rfl⟩ := isBase
  apply HeaderLibrary.filledSlot?_readTypedefs (registers.sealed named) member
    (List.mem_singleton_self _) opens
  intro entry isEntry other
  obtain ⟨declaration, isDeclaration, isIn⟩ := List.mem_flatMap.1 isEntry
  have same := registers.distinct _ isDeclaration _ member hole ⟨entry, isIn, other⟩
    (leavesOpen_single.2 opens)
  subst same
  rw [List.mem_singleton.1 isIn]

/-- **The type that is stored for a typedef** shows the type it was declared with. -/
theorem Presents.stored {cursor : Cursor} {declaration : ExternalDeclaration}
    (presents : Presents unit state cursor declaration) (kind : cursor.kind = .typedefDecl)
    (registers : Registers unit headers state library) (named : state.Named)
    (member : declaration ∈ library.allDeclarations) (marker : String) :
    ∃ base type, declaration = .declaration base [⟨cursor.spelling, type⟩] true ∧
      Shows unit
        (state.withGraph (library.readTypedefs (.start state.graph marker)).graph)
        cursor.underlying (type.or base) := by
  have filled : state.graph.Filled (library.readTypedefs (.start state.graph marker)).graph :=
    (HeaderLibrary.readTypedefs_assembled (.start state.graph marker)).filled
  cases presents with
  | functionBody isFunction => cases kind.symm.trans isFunction
  | function isFunction => cases kind.symm.trans isFunction
  | object isVariable => cases kind.symm.trans isVariable
  | tagged isTag =>
    rw [kind] at isTag
    cases isTag
  | typedef _ _ _ shown => exact ⟨_, none, rfl, shown.completed filled⟩
  | @functionTypedef parts result function _ _ called shown given =>
    obtain ⟨targets, open_, each⟩ := shown
    obtain ⟨id, rfl, opens⟩ := opensAt_function open_
    have slot := registers.slot?_eq named member given.exists_node opens marker
    refine ⟨result, some id, rfl, shows_stripped.1 ?_⟩
    exact ShowsOpen.completed called ⟨targets, open_, each⟩ given filled slot
  | @pointerTypedef parts result pointer function _ pointed node shown given =>
    obtain ⟨targets, open_, each⟩ := shown
    obtain ⟨id, rfl, opens⟩ := opensAt_function open_
    obtain ⟨start, rfl⟩ := exists_of_at? node
    have slot := registers.slot?_eq named member given.exists_node
      (opensAt_pointer node opens) marker
    refine ⟨result, some start, rfl, shows_stripped.1 ?_⟩
    unfold SourceType.pointedParts? at pointed
    split at pointed
    · rename_i pointee place isPointer
      rw [isPointer, Shows]
      refine ⟨some id, filled.at?_eq node (fun same => nomatch same), shows_stripped.1 ?_⟩
      exact ShowsOpen.completed pointed ⟨targets, open_, each⟩ given filled slot
    · cases pointed

end Stored

/-! ## The two ways to the type of a typedef -/

/-- **A typedef is stored as its type converts.**  After the typedefs of a unit are registered,
a typedef name that is not the marker and is not registered again stands for a type, and the
reader that read the unit converts the type that the typedef was declared with.  The two are
built alike, from the same tagged types. -/
theorem stored_of_unitLibrary {unit : SourceUnit} {headers : List String} {journal : Journal}
    {library : HeaderLibrary} {state : Conversion} {marker : String}
    {front back : List Cursor} {cursor : Cursor}
    (done : (unitLibrary unit headers).run (.start journal) = .ok library state)
    (order : unit.registered headers = front ++ cursor :: back)
    (kind : cursor.kind = .typedefDecl) (notMarker : cursor.spelling ≠ marker)
    (last : ∀ other ∈ back, other.kind = .typedefDecl → other.spelling ≠ cursor.spelling) :
    ∃ stored plain after,
      (library.readTypedefs (.start state.graph marker)).scope.typedefs.lookup cursor.spelling =
        some (.type stored) ∧
      (sourceNode unit cursor.underlying).run
        (state.withGraph (library.readTypedefs (.start state.graph marker)).graph) =
          .ok plain after ∧
      after.graph.Alike stored plain := by
  have registers := registers_of_unitLibrary done
  obtain ⟨visited, visits, tells, -⟩ := unitLibrary_reads headers [] [] _ library state
    (.start unit journal) (Nat.lt_succ_of_le (unread_length_le unit _)) done
  have named := tells.toIdentifies.isNamed
  -- the declaration of the cursor, among those that are registered
  have each := registers.each.flip
  rw [order] at each
  obtain ⟨declaration, later, presents, others, rest⟩ :=
    List.forall₂_cons_right_iff.1 (List.forall₂_drop_append _ _ _ each)
  have declarations := List.take_append_drop front.length library.allDeclarations
  rw [rest] at declarations
  have member : declaration ∈ library.allDeclarations := by
    rw [← declarations]
    exact List.mem_append_right _ (.head _)
  obtain ⟨base, type, rfl, shown⟩ := presents.stored kind registers named member marker
  have unchanged : cursor.spelling ∉ later.flatMap ExternalDeclaration.declaredTypedefs := by
    intro declared
    obtain ⟨other, isLater, names⟩ := List.mem_flatMap.1 declared
    obtain ⟨otherCursor, isOther, presentsOther⟩ := exists_of_forall₂ others isLater
    rw [presentsOther.declaredTypedefs] at names
    split at names
    · rename_i isTypedef
      exact last otherCursor isOther isTypedef (List.mem_singleton.1 names).symm
    · cases names
  have filled : state.graph.Filled (library.readTypedefs (.start state.graph marker)).graph :=
    (HeaderLibrary.readTypedefs_assembled (.start state.graph marker)).filled
  have registered : cursor ∈ unit.registered headers := by
    rw [order]
    exact List.mem_append_right _ (.head _)
  obtain ⟨plain, after, converted, grown, isNamed, again⟩ := sourceNode_converts
    (tells.completed filled) (references_subset_visited visits registered kind)
  refine ⟨type.or base, plain, after, ?_, converted, ?_⟩
  · exact HeaderLibrary.lookup_readTypedefs declarations.symm notMarker unchanged
  · exact (shown.retained grown.toRetains).alike isNamed again

/-! ## A typedef of a pointer to a function -/

/-- The cursor of `typedef struct node *(*visit_t)(struct node *, int, ...)`. -/
def visitCursor : Cursor :=
  { Cursor.bare .typedefDecl with
    spelling := "visit_t"
    file := "/work/list.h"
    underlying := .elaborated (.pointer (.elaborated (.prototype
      [.pointer (.elaborated (.tagged (some ⟨0⟩))) none, .leaf "INT" "int" none]
      (.pointer (.elaborated (.tagged (some ⟨0⟩))) none) true none)) none) }

/-- The typedef after the structure, which points to itself, and before a function. -/
def visitUnit : SourceUnit where
  cursors := #[
    { recordCursor ⟨0⟩ "node" "c:@S@node" [⟨1⟩] with file := "/work/list.h" },
    fieldCursor "next" (.pointer (.elaborated (.tagged (some ⟨0⟩))) none),
    visitCursor,
    { Cursor.bare .functionDecl with
      spelling := "walk"
      file := "/work/list.h"
      resultType := .leaf "VOID" "void" none }]
  top := [⟨0⟩, ⟨2⟩, ⟨3⟩]
  diagnostics := []

/-- The pointer that is stored leads to a function that gives the same structure. -/
theorem stored_of_visit : ∃ library state,
    (unitLibrary visitUnit ["/work/list.h"]).run (.start #[]) = .ok library state ∧
    (∃ front back, visitUnit.registered ["/work/list.h"] = front ++ visitCursor :: back ∧
      ∀ other ∈ back, other.kind = .typedefDecl → other.spelling ≠ "visit_t") ∧
    visitCursor.kind = .typedefDecl ∧ visitCursor.spelling ≠ "va" ∧
    ∃ stored plain after,
      (library.readTypedefs (.start state.graph "va")).scope.typedefs.lookup "visit_t" =
        some (.type stored) ∧
      (sourceNode visitUnit visitCursor.underlying).run
        (state.withGraph (library.readTypedefs (.start state.graph "va")).graph) =
          .ok plain after ∧
      after.graph.Alike stored plain := by
  have tested : gives (fun _ _ => true)
      ((unitLibrary visitUnit ["/work/list.h"]).run (.start #[])) = true := by decide +kernel
  obtain ⟨library, state, done, -⟩ := exists_of_gives tested
  have order : visitUnit.registered ["/work/list.h"] =
      [visitUnit.cursors[0]] ++ visitCursor :: [visitUnit.cursors[3]] := by rfl
  have last : ∀ other ∈ [visitUnit.cursors[3]], other.kind = .typedefDecl →
      other.spelling ≠ "visit_t" := by
    intro other member kind
    rw [List.mem_singleton.1 member] at kind
    cases kind
  have marker : visitCursor.spelling ≠ "va" := by decide
  exact ⟨library, state, done, ⟨_, _, order, last⟩, rfl, marker,
    stored_of_unitLibrary done order rfl marker last⟩

end HeaderBind.Clang
