/-
# HeaderBind.Proofs.Clang.Registered — the declarations of a unit, as they are registered

The declarations of a library are read file by file: the requested headers first, then the
other files, each where its first declaration stands (`SourceUnit.registered`).  They present
the cursors of the unit in that order (`registered_of_unitLibrary`).

Every function type that is left open for a base type was made for one declaration.  Its node
is new when it is made, so no declaration that was read before leads to it, and none that is
read later (`eq_of_opensAt`).
-/
import HeaderBind.Proofs.Clang.Filed
import HeaderBind.Proofs.Clang.Undeclared
import HeaderBind.Proofs.Declaration.Assembled
import Mathlib.Data.List.Induction

namespace HeaderBind

set_option autoImplicit false

/-! ## The order of the files -/

theorem eraseDups_concat (names : List String) (name : String) :
    (names ++ [name]).eraseDups =
      if name ∈ names then names.eraseDups else names.eraseDups ++ [name] := by
  rw [List.eraseDups_append]
  by_cases known : name ∈ names <;> simp [known, List.removeAll, List.eraseDups_cons]

theorem nodup_eraseDups (names : List String) : names.eraseDups.Nodup := by
  induction names using List.reverseRecOn with
  | nil => exact List.nodup_nil
  | append_singleton names name ih =>
    rw [eraseDups_concat]
    split
    · exact ih
    · rename_i fresh
      apply List.Nodup.append ih (List.nodup_singleton name)
      rw [List.disjoint_singleton, List.mem_eraseDups]
      exact fresh

namespace Clang

open Outcome

namespace SourceUnit

/-- The requested headers, and the other files in the order of their first declarations. -/
def fileOrder (unit : SourceUnit) (headers : List String) : List String :=
  (headers ++ unit.listed.map Prod.fst).eraseDups

/-- The declarations of the unit in the order in which a library registers them. -/
def registered (unit : SourceUnit) (headers : List String) : List Cursor :=
  (unit.fileOrder headers).flatMap fun file =>
    (unit.listed.filter fun entry => entry.1 = file).map Prod.snd

end SourceUnit

/-- The declarations that stand in a file. -/
def declarationsIn (file : String) (filed : List (String × ExternalDeclaration)) :
    List ExternalDeclaration :=
  (filed.filter fun entry => entry.1 = file).map Prod.snd

/-- The table of the files of these names. -/
def tableOf (names : List String) (filed : List (String × ExternalDeclaration)) : FileTable :=
  names.eraseDups.map fun file => (file, declarationsIn file filed)

theorem declarationsIn_concat (file : String) (filed : List (String × ExternalDeclaration))
    (entry : String × ExternalDeclaration) :
    declarationsIn file (filed ++ [entry]) =
      if file = entry.1 then declarationsIn file filed ++ [entry.2]
      else declarationsIn file filed := by
  unfold declarationsIn
  by_cases here : file = entry.1
  · simp [List.filter_append, here]
  · simp [List.filter_append, here, Ne.symm here]

theorem declarationsIn_of_not_mem {file : String} {filed : List (String × ExternalDeclaration)}
    (absent : file ∉ filed.map Prod.fst) : declarationsIn file filed = [] := by
  unfold declarationsIn
  rw [List.map_eq_nil_iff, List.filter_eq_nil_iff]
  intro entry member same
  exact absent (List.mem_map.2 ⟨entry, member, of_decide_eq_true same⟩)

theorem lookup_map_isSome (names : List String) (file : String)
    (declarations : String → List ExternalDeclaration) :
    ((names.map fun name => (name, declarations name)).lookup file).isSome = true ↔
      file ∈ names := by
  induction names with
  | nil => simp
  | cons name names ih =>
    rw [List.map_cons, lookup_cons_eq]
    by_cases same : file = name <;> simp [same, ih]

theorem addFile_tableOf (names : List String) (file : String) :
    addFile (tableOf names []) file = tableOf (names ++ [file]) [] := by
  unfold addFile tableOf
  rw [eraseDups_concat]
  simp only [lookup_map_isSome, List.mem_eraseDups]
  split
  · rfl
  · rw [List.map_append]
    rfl

theorem foldl_addFile (headers names : List String) :
    headers.foldl addFile (tableOf names []) = tableOf (names ++ headers) [] := by
  induction headers generalizing names with
  | nil => rw [List.foldl_nil, List.append_nil]
  | cons header headers ih =>
    rw [List.foldl_cons, addFile_tableOf, ih, List.append_assoc, List.singleton_append]

theorem addDeclaration_map {names : List String} (distinct : names.Nodup) (file : String)
    (declaration : ExternalDeclaration) (declarations : String → List ExternalDeclaration) :
    addDeclaration file declaration (names.map fun name => (name, declarations name)) =
      if file ∈ names then
        names.map fun name =>
          (name, if name = file then declarations name ++ [declaration] else declarations name)
      else (names.map fun name => (name, declarations name)) ++ [(file, [declaration])] := by
  induction names with
  | nil => rfl
  | cons name names ih =>
    obtain ⟨fresh, distinct⟩ := List.nodup_cons.1 distinct
    rw [List.map_cons, addDeclaration]
    by_cases here : name = file
    · subst here
      have others : ∀ other ∈ names, other ≠ name := fun other member same => fresh (same ▸ member)
      rw [if_pos rfl, if_pos (.head _), List.map_cons, if_pos rfl]
      congr 1
      apply List.map_congr_left
      intro other member
      rw [if_neg (others other member)]
    · rw [if_neg here, ih distinct]
      by_cases later : file ∈ names
      · rw [if_pos later, if_pos (.tail _ later), List.map_cons, if_neg here]
      · have absent : file ∉ name :: names := by simp [later, Ne.symm here]
        rw [if_neg later, if_neg absent, List.cons_append]

theorem addDeclaration_tableOf {names : List String}
    {filed : List (String × ExternalDeclaration)} (among : filed.map Prod.fst ⊆ names)
    (entry : String × ExternalDeclaration) :
    addDeclaration entry.1 entry.2 (tableOf names filed) =
      tableOf (names ++ [entry.1]) (filed ++ [entry]) := by
  unfold tableOf
  rw [addDeclaration_map (nodup_eraseDups names), eraseDups_concat]
  simp only [List.mem_eraseDups, declarationsIn_concat]
  split
  · rfl
  · rename_i fresh
    have others : ∀ name ∈ names.eraseDups, name ≠ entry.1 := by
      rintro name member rfl
      exact fresh (List.mem_eraseDups.1 member)
    rw [List.map_append, List.map_singleton, if_pos rfl,
      declarationsIn_of_not_mem fun member => fresh (among member), List.nil_append]
    congr 1
    apply List.map_congr_left
    intro name member
    rw [if_neg (others name member)]

/-- **The files of a library**: each with what stands in it. -/
theorem withDeclarations_tableOf {names : List String}
    {done more : List (String × ExternalDeclaration)} (among : done.map Prod.fst ⊆ names) :
    withDeclarations (tableOf names done) more =
      tableOf (names ++ more.map Prod.fst) (done ++ more) := by
  induction more generalizing names done with
  | nil => simp [withDeclarations]
  | cons entry more ih =>
    have still : (done ++ [entry]).map Prod.fst ⊆ names ++ [entry.1] := by
      rw [List.map_append, List.map_singleton]
      exact List.append_subset.2 ⟨List.subset_append_of_subset_left _ among,
        List.subset_append_right _ _⟩
    rw [withDeclarations, List.foldl_cons, addDeclaration_tableOf among, ← withDeclarations,
      ih still]
    simp

section Order

variable {unit : SourceUnit} {state : Conversion}

/-- What stands in a file presents the cursors that stand there. -/
theorem forall₂_declarationsIn {entries : List (String × Cursor)}
    {filed : List (String × ExternalDeclaration)}
    (each : List.Forall₂ (FiledAs unit state) entries filed) (file : String) :
    List.Forall₂ (Presents unit state) ((entries.filter fun entry => entry.1 = file).map Prod.snd)
      (declarationsIn file filed) := by
  unfold declarationsIn
  induction each with
  | nil => exact .nil
  | @cons entry declaration _ _ first _ ih =>
    by_cases here : entry.1 = file
    · have there : declaration.1 = file := first.1.trans here
      rw [List.filter_cons_of_pos (by simpa using here),
        List.filter_cons_of_pos (by simpa using there)]
      exact .cons first.2 ih
    · have elsewhere : declaration.1 ≠ file := fun same => here (first.1.symm.trans same)
      rw [List.filter_cons_of_neg (by simpa using here),
        List.filter_cons_of_neg (by simpa using elsewhere)]
      exact ih

theorem forall₂_registered {headers : List String}
    {filed : List (String × ExternalDeclaration)}
    (each : List.Forall₂ (FiledAs unit state) unit.listed filed) :
    List.Forall₂ (Presents unit state) (unit.registered headers)
      ((withDeclarations (headers.foldl addFile []) filed).flatMap Prod.snd) := by
  have requested : headers.foldl addFile [] = tableOf headers [] := foldl_addFile headers []
  rw [requested, withDeclarations_tableOf (List.nil_subset _), List.nil_append,
    names_of_filedAs each, tableOf, List.flatMap_map]
  unfold SourceUnit.registered SourceUnit.fileOrder
  generalize (headers ++ unit.listed.map Prod.fst).eraseDups = names
  induction names with
  | nil => exact .nil
  | cons name names ih =>
    rw [List.flatMap_cons, List.flatMap_cons]
    exact List.rel_append (forall₂_declarationsIn each name) ih

end Order

/-! ## The slot that a declaration leaves open -/

open TypeGraph

/-- One of the declarators leads to the open slot of a node. -/
def LeavesOpen (graph : TypeGraph) (declaration : ExternalDeclaration) (hole : NodeId) : Prop :=
  ∃ entry ∈ declaration.assemblies, graph.OpensAt entry.1 hole

section Slots

variable {unit : SourceUnit} {state earlier later after : Conversion} {hole : NodeId}

theorem leavesOpen_single {graph : TypeGraph} {base : TypeRef} {declarator : Declarator}
    {isTypedef : Bool} :
    LeavesOpen graph (.declaration base [declarator] isTypedef) hole ↔
      graph.OpensAt declarator.type hole := by
  constructor
  · rintro ⟨entry, member, opens⟩
    rw [List.mem_singleton.1 member] at opens
    exact opens
  · intro opens
    exact ⟨_, .head _, opens⟩

theorem slot?_of_at? {graph : TypeGraph} {id : NodeId} {type : CType}
    (node : graph.at? (some id) = some type) : graph.slot? id = type.spineSlot := by
  have node : graph.node? id = some type := node
  rw [slot?, node, Option.bind_some]

theorem opensAt_function {graph : TypeGraph} {function : TypeRef} {params : List Parameter}
    {variadic : Bool} (node : graph.at? function = some (.function ⟨params, none, variadic⟩)) :
    ∃ id, function = some id ∧ graph.OpensAt function id := by
  cases function with
  | none => cases node
  | some id => exact ⟨id, rfl, .here (slot?_of_at? node)⟩

theorem opensAt_pointer {graph : TypeGraph} {pointer function : TypeRef}
    (node : graph.at? pointer = some (.pointer function)) (opens : graph.OpensAt function hole) :
    graph.OpensAt pointer hole := by
  cases pointer with
  | none => cases node
  | some id => exact .next (slot?_of_at? node) opens

/-- A conversion fills no slot. -/
theorem Conversion.Retains.slot?_eq (kept : earlier.Retains later) {id : NodeId} {slot : TypeRef}
    (here : earlier.graph.slot? id = some slot) : later.graph.slot? id = some slot := by
  obtain ⟨type, node, isSlot⟩ := Option.bind_eq_some_iff.1 here
  have untagged : ∀ tagged, type ≠ .tagged tagged := by
    rintro tagged rfl
    cases isSlot
  rw [slot?, kept.untagged id type node untagged, Option.bind_some, isSlot]

theorem Conversion.Retains.opensAt (kept : earlier.Retains later) {type : TypeRef}
    (opens : earlier.graph.OpensAt type hole) : later.graph.OpensAt type hole := by
  induction opens with
  | here isOpen => exact .here (kept.slot?_eq isOpen)
  | next slot _ ih => exact .next (kept.slot?_eq slot) ih

/-- A declaration leads to no other slot later than where it was made. -/
theorem Presents.leavesOpen {cursor : Cursor} {declaration : ExternalDeclaration}
    (presents : Presents unit earlier cursor declaration) (kept : earlier.Retains later)
    (leaves : LeavesOpen later.graph declaration hole) :
    LeavesOpen earlier.graph declaration hole := by
  have same : ∀ {type : TypeRef} {other : NodeId}, earlier.graph.OpensAt type other →
      later.graph.OpensAt type hole → earlier.graph.OpensAt type hole := by
    intro type other before opens
    rwa [(kept.opensAt before).unique opens]
  cases presents with
  | functionBody =>
    obtain ⟨entry, member, -⟩ := leaves
    cases member
  | function kind isDeclared node =>
    rw [leavesOpen_single] at leaves ⊢
    obtain ⟨id, -, before⟩ := opensAt_function node
    exact same before leaves
  | pointerTypedef kind underlying node shown =>
    rw [leavesOpen_single] at leaves ⊢
    obtain ⟨targets, function, -⟩ := shown
    obtain ⟨id, -, before⟩ := opensAt_function function
    exact same (opensAt_pointer node before) leaves
  | functionTypedef kind noPointer underlying shown =>
    rw [leavesOpen_single] at leaves ⊢
    obtain ⟨targets, function, -⟩ := shown
    obtain ⟨id, -, before⟩ := opensAt_function function
    exact same before leaves
  | typedef =>
    rw [leavesOpen_single] at leaves
    exact absurd leaves (closed_none _)
  | object =>
    rw [leavesOpen_single] at leaves
    exact absurd leaves (closed_none _)
  | tagged =>
    obtain ⟨entry, member, -⟩ := leaves
    cases member

theorem LeavesOpen.lt {graph : TypeGraph} {declaration : ExternalDeclaration}
    (leaves : LeavesOpen graph declaration hole) : hole.index < graph.size := by
  obtain ⟨entry, -, opens⟩ := leaves
  obtain ⟨type, node⟩ := exists_node?_of_slot? opens.isOpen
  exact node?_lt node

/-! ## A new slot for every declaration -/

theorem Conversion.add_grows (state : Conversion) (type : CType) :
    state.Grows { state with graph := (state.graph.add type).2 } := by
  apply Conversion.Grows.of_kept
  · simp [TypeGraph.add, TypeGraph.size]
  · exact fun _ _ found => found
  · intro id node there
    rw [node?_add_of_lt _ _ (node?_lt there), there]
  · exact List.Subset.refl _

/-- What the declaration leaves open was made since. -/
def LeavesNew (earlier later : Conversion) (declaration : ExternalDeclaration) : Prop :=
  ∀ hole, LeavesOpen later.graph declaration hole → earlier.graph.size ≤ hole.index

theorem leavesNew_of_no_declarator (base : TypeRef) (isTypedef : Bool) :
    LeavesNew earlier later (.declaration base [] isTypedef) := by
  rintro hole ⟨entry, member, -⟩
  cases member

theorem leavesNew_of_no_type (base : TypeRef) (name : String) (isTypedef : Bool) :
    LeavesNew earlier later (.declaration base [⟨name, none⟩] isTypedef) := by
  intro hole leaves
  exact absurd (leavesOpen_single.1 leaves) (closed_none _)

/-- A new node with an open slot. -/
theorem opensAt_add_function {graph : TypeGraph} {params : List Parameter} {variadic : Bool} :
    (graph.add (.function ⟨params, none, variadic⟩)).2.OpensAt (some ⟨graph.size⟩)
      ⟨graph.size⟩ :=
  .here (slot?_of_at? (node?_add_self graph _))

theorem functionTypedef_new {name : String} {parts : FunctionParts}
    {declaratorType : TypeRef → Convert TypeRef} {declaration : ExternalDeclaration}
    (declarator : ∀ function type before after, (declaratorType function).run before =
      .ok type after → ∀ hole, before.graph.OpensAt function hole →
        after.graph.OpensAt type hole)
    (done : (functionTypedef unit (taggedNode unit) name parts declaratorType).run state =
      .ok declaration after) :
    LeavesNew state after declaration := by
  obtain ⟨base, first, one, rest⟩ := bind_ok_iff.1 done
  obtain ⟨params, second, two, rest⟩ := bind_ok_iff.1 rest
  obtain ⟨function, third, three, rest⟩ := bind_ok_iff.1 rest
  obtain ⟨type, fourth, four, rest⟩ := bind_ok_iff.1 rest
  obtain ⟨rfl, rfl⟩ := pure_ok_iff.1 rest
  cases three
  have opens := declarator _ _ _ _ four _ opensAt_add_function
  have visits := taggedNodeWithin_extends unit (unit.cursors.size + 1)
  have one := (extends_kept.typeNode visits parts.result fun _ _ => trivial).ok one
  have two := (extends_kept.typeNodes visits parts.params fun _ _ => trivial).ok two
  intro hole leaves
  rw [(opens.unique (leavesOpen_single.1 leaves))]
  exact Nat.le_trans one.size two.size

theorem typedefDeclaration_new {cursor : Cursor} {declaration : ExternalDeclaration}
    (done : (typedefDeclaration unit (taggedNode unit) cursor).run state = .ok declaration after) :
    LeavesNew state after declaration := by
  unfold typedefDeclaration at done
  dsimp only at done
  split at done
  · refine functionTypedef_new (fun function type before after made hole opens => ?_) done
    cases made
    have kept := (before.add_grows (.pointer function)).toRetains
    have node := node?_add_self before.graph (.pointer function)
    exact .next (slot?_of_at? node) (kept.opensAt opens)
  · split at done
    · refine functionTypedef_new (fun function type before after made hole opens => ?_) done
      obtain ⟨rfl, rfl⟩ := pure_ok_iff.1 made
      exact opens
    · obtain ⟨base, middle, converted, rest⟩ := bind_ok_iff.1 done
      obtain ⟨rfl, rfl⟩ := pure_ok_iff.1 rest
      exact leavesNew_of_no_type _ _ _

theorem functionDeclaration_new {cursor : Cursor} {declaration : ExternalDeclaration}
    (done : (functionDeclaration unit (taggedNode unit) cursor).run state = .ok declaration after) :
    LeavesNew state after declaration := by
  obtain ⟨params, first, one, rest⟩ := bind_ok_iff.1 done
  obtain ⟨result, second, two, rest⟩ := bind_ok_iff.1 rest
  split at rest
  · obtain ⟨function, third, three, rest⟩ := bind_ok_iff.1 rest
    obtain ⟨rfl, rfl⟩ := pure_ok_iff.1 rest
    rintro hole ⟨entry, member, -⟩
    cases member
  · obtain ⟨function, third, three, rest⟩ := bind_ok_iff.1 rest
    obtain ⟨rfl, rfl⟩ := pure_ok_iff.1 rest
    cases three
    have visits := taggedNodeWithin_extends unit (unit.cursors.size + 1)
    have trivially : unit.Refers fun _ => True := fun _ _ _ _ _ _ => trivial
    have one := (extends_kept.argumentParams visits trivially cursor.arguments).ok one
    have two := (extends_kept.typeNode visits cursor.resultType fun _ _ => trivial).ok two
    intro hole leaves
    rw [(opensAt_add_function.unique (leavesOpen_single.1 leaves))]
    exact Nat.le_trans one.size two.size

theorem declarationReader?_new {cursor : Cursor} {declaration : ExternalDeclaration}
    {reader : DeclarationReader}
    (isReader : declarationReader? cursor.kind = some reader)
    (done : (reader unit (taggedNode unit) cursor).run state = .ok declaration after) :
    LeavesNew state after declaration := by
  rcases declarationReader?_cases isReader with ⟨-, rfl⟩ | ⟨-, rfl⟩ | ⟨-, rfl⟩ | ⟨-, rfl⟩
  · obtain ⟨node, middle, visited, rest⟩ := bind_ok_iff.1 done
    obtain ⟨rfl, rfl⟩ := pure_ok_iff.1 rest
    exact leavesNew_of_no_declarator _ _
  · exact functionDeclaration_new done
  · exact typedefDeclaration_new done
  · obtain ⟨base, middle, converted, rest⟩ := bind_ok_iff.1 done
    obtain ⟨rfl, rfl⟩ := pure_ok_iff.1 rest
    exact leavesNew_of_no_type _ _ _

/-! ## The declarations of a unit -/

/-- No two of the declarations leave the same slot open, and none one of an earlier node. -/
structure Apart (start : Nat) (graph : TypeGraph) (declarations : List ExternalDeclaration) :
    Prop where
  new : ∀ declaration ∈ declarations, ∀ hole, LeavesOpen graph declaration hole →
    start ≤ hole.index
  distinct : declarations.Pairwise fun one other => ∀ hole, LeavesOpen graph one hole →
    ¬ LeavesOpen graph other hole

/-- The declarations of the cursors were filed, each with a slot of its own. -/
structure Files (unit : SourceUnit) (entries : List (String × Cursor)) (state after : Conversion)
    (filed : List (String × ExternalDeclaration)) : Prop where
  grown : state.Grows after
  each : List.Forall₂ (FiledAs unit after) entries filed
  apart : Apart state.graph.size after.graph (filed.map Prod.snd)

theorem Files.nil (state : Conversion) : Files unit [] state state [] :=
  ⟨.refl state, .nil, fun _ member => (nomatch member), .nil⟩

theorem presents_of_filed {entries : List (String × Cursor)}
    {filed : List (String × ExternalDeclaration)}
    (each : List.Forall₂ (FiledAs unit state) entries filed) {declaration : ExternalDeclaration}
    (member : declaration ∈ filed.map Prod.snd) :
    ∃ cursor, Presents unit state cursor declaration := by
  obtain ⟨entry, isEntry, rfl⟩ := List.mem_map.1 member
  obtain ⟨cursor, -, presents⟩ := exists_of_forall₂ each.flip isEntry
  exact ⟨cursor.2, presents.2⟩

/-- What is filed later leaves slots open that were not there before. -/
theorem Files.append {entries more : List (String × Cursor)} {middle : Conversion}
    {filed others : List (String × ExternalDeclaration)}
    (one : Files unit entries state middle filed) (two : Files unit more middle after others) :
    Files unit (entries ++ more) state after (filed ++ others) where
  grown := one.grown.trans two.grown
  each := by
    have kept := two.grown.toRetains
    exact List.rel_append (one.each.imp fun _ _ first => ⟨first.1, first.2.retained kept⟩) two.each
  apart := by
    have before : ∀ declaration ∈ filed.map Prod.snd, ∀ hole,
        LeavesOpen after.graph declaration hole → LeavesOpen middle.graph declaration hole := by
      intro declaration member hole leaves
      obtain ⟨cursor, presents⟩ := presents_of_filed one.each member
      exact presents.leavesOpen two.grown.toRetains leaves
    rw [List.map_append]
    constructor
    · intro declaration member hole leaves
      rcases List.mem_append.1 member with earlier | later
      · exact one.apart.new declaration earlier hole (before declaration earlier hole leaves)
      · exact Nat.le_trans one.grown.size (two.apart.new declaration later hole leaves)
    · rw [List.pairwise_append]
      refine ⟨one.apart.distinct.imp_of_mem fun isOne isOther distinct hole leaves leaves' => ?_,
        two.apart.distinct, fun declaration earlier other later hole leaves leaves' => ?_⟩
      · exact distinct hole (before _ isOne hole leaves) (before _ isOther hole leaves')
      · have old := (before declaration earlier hole leaves).lt
        have new := two.apart.new other later hole leaves'
        omega

variable {opened : List String} {visited : List Cursor} {files library : FileTable}

theorem addCursor_files {cursor : Cursor} (holds : unit.Holds cursor)
    (tells : Tells unit opened visited state)
    (done : (addCursor unit (taggedNode unit) files cursor).run state = .ok library after) :
    ∃ last filed, Tells unit opened last after ∧
      Files unit (listed? cursor).toList state after filed ∧
      library = withDeclarations files filed := by
  unfold addCursor at done
  unfold listed?
  cases inFile : cursor.file with
  | none =>
    rw [inFile] at done
    obtain ⟨rfl, rfl⟩ := pure_ok_iff.1 done
    exact ⟨visited, [], tells, .nil _, rfl⟩
  | some file =>
    cases isReader : declarationReader? cursor.kind with
    | none =>
      rw [inFile, isReader] at done
      obtain ⟨rfl, rfl⟩ := pure_ok_iff.1 done
      exact ⟨visited, [], tells, .nil _, rfl⟩
    | some reader =>
      rw [inFile, isReader] at done
      obtain ⟨declaration, middle, read, rest⟩ := bind_ok_iff.1 done
      obtain ⟨rfl, rfl⟩ := pure_ok_iff.1 rest
      obtain ⟨last, -, told, grown, presents⟩ := declarationReader?_reads isReader holds opened
        visited state declaration after tells (Nat.lt_succ_of_le (unread_length_le unit _)) read
      refine ⟨last, [(file, declaration)], told, ⟨grown, .cons ⟨rfl, presents⟩ .nil, ?_, ?_⟩, rfl⟩
      · intro other member hole leaves
        rw [List.mem_singleton.1 member] at leaves
        exact declarationReader?_new isReader read hole leaves
      · exact List.pairwise_singleton _ _

/-- By induction on the cursors. -/
theorem addCursors_files {cursors : List Cursor} (holds : ∀ cursor ∈ cursors, unit.Holds cursor)
    (tells : Tells unit opened visited state)
    (done : (cursors.foldlM (addCursor unit (taggedNode unit)) files).run state =
      .ok library after) :
    ∃ last filed, Tells unit opened last after ∧
      Files unit (cursors.filterMap listed?) state after filed ∧
      library = withDeclarations files filed := by
  induction cursors generalizing files visited state with
  | nil =>
    obtain ⟨rfl, rfl⟩ := pure_ok_iff.1 done
    exact ⟨visited, [], tells, .nil _, rfl⟩
  | cons cursor cursors ih =>
    obtain ⟨middle, between, first, rest⟩ := foldlM_cons_ok_iff.1 done
    obtain ⟨last, filed, told, one, rfl⟩ := addCursor_files (holds cursor (.head _)) tells first
    obtain ⟨end_, others, toldMore, two, rfl⟩ :=
      ih (fun other member => holds other (.tail _ member)) told rest
    have entries : (cursor :: cursors).filterMap listed? =
        (listed? cursor).toList ++ cursors.filterMap listed? := by
      cases found : listed? cursor <;> simp [found]
    refine ⟨end_, filed ++ others, toldMore, ?_, ?_⟩
    · rw [entries]
      exact one.append two
    · rw [withDeclarations, withDeclarations, withDeclarations, List.foldl_append]

end Slots

/-- The declarations of a library present the cursors of the unit in the order in which they
are registered, and two of them that lead to the same open slot are one. -/
structure Registers (unit : SourceUnit) (headers : List String) (state : Conversion)
    (library : HeaderLibrary) : Prop where
  each : List.Forall₂ (Presents unit state) (unit.registered headers) library.allDeclarations
  distinct : ∀ one ∈ library.allDeclarations, ∀ other ∈ library.allDeclarations, ∀ hole,
    LeavesOpen state.graph one hole → LeavesOpen state.graph other hole → one = other

/-- **What a library registers.** -/
theorem registers_of_unitLibrary {unit : SourceUnit} {headers : List String} {journal : Journal}
    {library : HeaderLibrary} {state : Conversion}
    (done : (unitLibrary unit headers).run (.start journal) = .ok library state) :
    Registers unit headers state library := by
  obtain ⟨files, last, read, rest⟩ := bind_ok_iff.1 done
  obtain ⟨rfl, rfl⟩ := pure_ok_iff.1 rest
  have holds : ∀ cursor ∈ unit.cursorsAt unit.top, unit.Holds cursor :=
    fun cursor member => SourceUnit.holds_of_mem member
  obtain ⟨-, filed, -, filing, rfl⟩ := addCursors_files holds (.start unit journal) read
  constructor
  · exact forall₂_registered filing.each
  · have declared : ∀ declaration, declaration ∈ (withDeclarations (headers.foldl addFile [])
        filed).flatMap Prod.snd → declaration ∈ filed.map Prod.snd := by
      intro declaration member
      rw [mem_withDeclarations, flatMap_foldl_addFile] at member
      exact member.resolve_right List.not_mem_nil
    intro one isOne other isOther hole leaves leaves'
    by_contra differ
    have symmetric : Std.Symm fun one other : ExternalDeclaration => ∀ hole,
        LeavesOpen state.graph one hole → ¬ LeavesOpen state.graph other hole :=
      ⟨fun _ _ apart hole leaves leaves' => apart hole leaves' leaves⟩
    have distinct := filing.apart.distinct.forall (declared one isOne) (declared other isOther)
    exact distinct differ hole leaves leaves'

end Clang

end HeaderBind
