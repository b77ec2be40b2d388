/-
# HeaderBind.Proofs.Clang.Undeclared — the typedef names that a library leaves undeclared

A reader makes typedef names wherever types refer to typedefs (`typedefNames_of_readSource`),
but lists a typedef only if its cursor is at the top of the unit and stands in a file
(`ReadFrom.mem_declaredTypedefs_iff`).  `undeclared_of_readSource` tells how the two fit: if
every typedef that the types refer to is at the top, then a name that occurs in the types is
in the table once all typedefs are read, unless it is `Fileless`: what declares it at the top
stands in no file, as what the parser itself provides does.  No other name ends the making of
bindings as unknown.

The variadic marker is fileless as well, and in every table.  A type such as `__int128_t` is
fileless and in no table, so a header whose functions take it cannot be bound, not even by
leaving those functions out (`unbound_int128`).
-/
import HeaderBind.Proofs.Binding.Unknown
import HeaderBind.Proofs.Clang.Records
import HeaderBind.Proofs.Typedef.Declared

namespace HeaderBind.Clang

set_option autoImplicit false

open Outcome

/-! ## Typedef names of the types -/

namespace Conversion

/-- The typedef names of the graph are such names. -/
def Spells (names : String → Prop) (state : Conversion) : Prop :=
  ∀ id name, state.graph.node? id = some (.typedefName name) → names name

/-- Other typedef names were not made. -/
def KeepsSpelling (names : String → Prop) (earlier later : Conversion) : Prop :=
  earlier.Spells names → later.Spells names

variable {names : String → Prop}

instance : Std.Refl (KeepsSpelling names) := ⟨fun _ spells => spells⟩

instance : IsTrans Conversion (KeepsSpelling names) :=
  ⟨fun _ _ _ one two spells => two (one spells)⟩

theorem spells_start (journal : Journal) : (start journal).Spells names := by
  intro id name node
  simp [start, TypeGraph.empty, TypeGraph.node?] at node

end Conversion

open Conversion (KeepsSpelling)

theorem addType_spells {names : String → Prop} {type : CType}
    (named : ∀ name, type = .typedefName name → names name) :
    Keeps (KeepsSpelling names) (Convert.addType type) := by
  refine Keeps.bind (Keeps.modifyGet fun state spells id name node => ?_) fun _ => Keeps.pure _
  have added := (state.graph.node?_add type id).symm.trans node
  split at added
  · exact named name (Option.some.inj added)
  · exact spells id name added

theorem bareNode_spells {names : String → Prop} (cursor : Cursor) :
    Keeps (KeepsSpelling names) (bareNode cursor) := by
  intro state spells
  rcases bareNode_cases cursor state with ⟨id, run, -⟩ | ⟨fault, run⟩ | ⟨-, tag, -, run⟩
  · rwa [run]
  · rwa [run]
  · rw [run]
    intro id name node
    have added := (state.graph.node?_add _ id).symm.trans node
    split at added
    · cases added
    · exact spells id name added

theorem fill_spells {names : String → Prop} (id : NodeId) (type : TaggedType) :
    Keeps (KeepsSpelling names) (modify fun state : Conversion =>
      { state with graph := state.graph.set id (.tagged type) } : Convert Unit) := by
  refine Keeps.modify fun state spells other name node => ?_
  by_cases same : other = id
  · subst same
    have inside := TypeGraph.node?_lt node
    rw [TypeGraph.size_set] at inside
    have there : state.graph.node? other = some _ := Array.getElem?_eq_getElem inside
    cases (TypeGraph.node?_set_self there _).symm.trans node
  · rw [TypeGraph.node?_set_ne _ same] at node
    exact spells other name node

/-- A reader makes no typedef names but those of typedefs that the unit refers to. -/
theorem spelling_kept (names : String → Prop) : ReaderKeeps names (KeepsSpelling names) where
  note _ := Keeps.modify fun _ spells => spells
  addType _ := addType_spells
  bareNode := bareNode_spells
  mark _ := Keeps.modify fun _ spells => spells
  fill := fill_spells

/-- **The typedef names of a graph** are those of typedefs that the unit refers to. -/
theorem typedefNames_of_readSource {store : File.Store} {parser : Parser} {options : List String}
    {source : String} {headers : List String} {read : ReadLibrary} {unit : SourceUnit}
    {names : String → Prop}
    (done : (readSource store parser options source headers).outcome = .ok read)
    (isUnit : parser ⟨parserArguments options, source⟩ = .unit unit) (refers : unit.Refers names)
    {id : NodeId} {name : String} (node : read.graph.node? id = some (.typedefName name)) :
    names name := by
  unfold readSource readUnit at done
  dsimp only at done
  rw [isUnit] at done
  dsimp only at done
  split at done
  · cases done
  · split at done
    · rename_i library state run
      cases done
      have kept := (spelling_kept names).unitLibrary refers headers
      exact kept.ok run (Conversion.spells_start _) id name node
    · cases done

/-! ## Typedefs at the top -/

namespace SourceUnit

/-- The typedefs at the top of a unit. -/
def topTypedefs (unit : SourceUnit) : List Cursor :=
  (unit.cursorsAt unit.top).filter fun cursor => cursor.kind = .typedefDecl

/-- Every typedef that a type of the unit refers to is at the top. -/
def TypedefsOnTop (unit : SourceUnit) : Prop :=
  ∀ cursor ∈ unit.cursors.toList, ∀ type ∈ cursor.types, ∀ declaration ∈ type.typedefs,
    unit.declaration declaration ∈ unit.topTypedefs

/-- There are typedefs of the name at the top, and none of them stands in a file. -/
structure Fileless (unit : SourceUnit) (name : String) : Prop where
  onTop : ∃ cursor ∈ unit.topTypedefs, cursor.spelling = name
  noFile : ∀ cursor ∈ unit.topTypedefs, cursor.spelling = name → cursor.file = none

end SourceUnit

/-! ## The declarations of all files -/

theorem mem_addDeclaration {file : String} {declaration other : ExternalDeclaration}
    {files : FileTable} :
    other ∈ (addDeclaration file declaration files).flatMap Prod.snd ↔
      other = declaration ∨ other ∈ files.flatMap Prod.snd := by
  induction files with
  | nil => simp [addDeclaration]
  | cons entry files ih =>
    rw [addDeclaration]
    split
    · simp only [List.flatMap_cons, List.mem_append, List.mem_singleton]
      rw [or_comm (a := other ∈ entry.2), or_assoc]
    · simp only [List.flatMap_cons, List.mem_append, ih]
      exact or_left_comm

theorem mem_withDeclarations {other : ExternalDeclaration} {files : FileTable}
    {filed : List (String × ExternalDeclaration)} :
    other ∈ (withDeclarations files filed).flatMap Prod.snd ↔
      other ∈ filed.map Prod.snd ∨ other ∈ files.flatMap Prod.snd := by
  induction filed generalizing files with
  | nil => exact (or_iff_right List.not_mem_nil).symm
  | cons entry filed ih =>
    rw [withDeclarations, List.foldl_cons, ← withDeclarations, ih, mem_addDeclaration,
      List.map_cons, List.mem_cons, or_left_comm, or_assoc]

/-- Requested headers declare nothing by being requested. -/
theorem flatMap_foldl_addFile (headers : List String) (files : FileTable) :
    (headers.foldl addFile files).flatMap Prod.snd = files.flatMap Prod.snd := by
  induction headers generalizing files with
  | nil => rfl
  | cons header headers ih =>
    rw [List.foldl_cons, ih, addFile]
    split
    · rfl
    · rw [List.flatMap_append, List.flatMap_singleton, List.append_nil]

/-! ## The names that are declared -/

section Declared

variable {unit : SourceUnit} {state : Conversion}

/-- A typedef declares its spelling, another cursor no typedef. -/
theorem Presents.declaredTypedefs {cursor : Cursor} {declaration : ExternalDeclaration}
    (presents : Presents unit state cursor declaration) :
    declaration.declaredTypedefs =
      if cursor.kind = .typedefDecl then [cursor.spelling] else [] := by
  cases presents with
  | functionBody kind => rw [kind, if_neg (by simp)]; rfl
  | function kind => rw [kind, if_neg (by simp)]; rfl
  | pointerTypedef kind => rw [if_pos kind]; rfl
  | functionTypedef kind => rw [if_pos kind]; rfl
  | typedef kind => rw [if_pos kind]; rfl
  | object kind => rw [kind, if_neg (by simp)]; rfl
  | tagged kind =>
    have other : cursor.kind ≠ .typedefDecl := by
      intro same
      rw [same] at kind
      cases kind
    rw [if_neg other]
    rfl

theorem mem_listed_iff {file : String} {cursor : Cursor} :
    (file, cursor) ∈ unit.listed ↔ cursor ∈ unit.cursorsAt unit.top ∧
      cursor.file = some file ∧ (declarationReader? cursor.kind).isSome = true := by
  rw [SourceUnit.listed, List.mem_filterMap]
  constructor
  · rintro ⟨other, onTop, entry⟩
    unfold listed? at entry
    split at entry
    · rename_i inFile isReader
      cases entry
      exact ⟨onTop, inFile, by rw [isReader, Option.isSome_some]⟩
    · cases entry
  · rintro ⟨onTop, inFile, reader⟩
    obtain ⟨reader, isReader⟩ := Option.isSome_iff_exists.1 reader
    exact ⟨cursor, onTop, by rw [listed?, inFile, isReader]⟩

theorem declaredTypedefs_of_filedAs {entries : List (String × Cursor)}
    {filed : List (String × ExternalDeclaration)}
    (each : List.Forall₂ (FiledAs unit state) entries filed) :
    (filed.map Prod.snd).flatMap ExternalDeclaration.declaredTypedefs =
      (entries.filter fun entry => entry.2.kind = .typedefDecl).map
        fun entry => entry.2.spelling := by
  induction each with
  | nil => rfl
  | cons first _ ih =>
    rw [List.map_cons, List.flatMap_cons, ih, first.2.declaredTypedefs]
    split
    · rename_i isTypedef
      rw [List.filter_cons_of_pos (by simpa using isTypedef), List.map_cons,
        List.singleton_append]
    · rename_i other
      rw [List.filter_cons_of_neg (by simpa using other), List.nil_append]

/-- The library declares the typedefs at the top that stand in a file. -/
theorem ReadFrom.mem_declaredTypedefs_iff {visited : List Cursor} {headers : List String}
    {read : ReadLibrary} (readFrom : ReadFrom unit visited state headers read) {name : String} :
    name ∈ read.library.declaredTypedefs ↔
      ∃ cursor ∈ unit.topTypedefs, cursor.file.isSome = true ∧ cursor.spelling = name := by
  obtain ⟨filed, each, files⟩ := readFrom.lists
  have declarations : ∀ declaration, declaration ∈ read.library.files.flatMap Prod.snd ↔
      declaration ∈ filed.map Prod.snd := by
    intro declaration
    rw [files, mem_withDeclarations, flatMap_foldl_addFile]
    exact or_iff_left List.not_mem_nil
  have names : name ∈ read.library.declaredTypedefs ↔
      name ∈ (unit.listed.filter fun entry => entry.2.kind = .typedefDecl).map
        fun entry => entry.2.spelling := by
    rw [← declaredTypedefs_of_filedAs each, HeaderLibrary.declaredTypedefs, List.mem_flatMap,
      List.mem_flatMap]
    simp only [declarations]
  rw [names, List.mem_map]
  constructor
  · rintro ⟨⟨file, cursor⟩, member, spelled⟩
    obtain ⟨listed, isTypedef⟩ := List.mem_filter.1 member
    obtain ⟨onTop, inFile, -⟩ := mem_listed_iff.1 listed
    exact ⟨cursor, List.mem_filter.2 ⟨onTop, isTypedef⟩, by rw [inFile, Option.isSome_some],
      spelled⟩
  · rintro ⟨cursor, member, inFile, spelled⟩
    obtain ⟨onTop, isTypedef⟩ := List.mem_filter.1 member
    obtain ⟨file, inFile⟩ := Option.isSome_iff_exists.1 inFile
    have reader : (declarationReader? cursor.kind).isSome = true := by
      rw [of_decide_eq_true isTypedef]
      rfl
    exact ⟨(file, cursor),
      List.mem_filter.2 ⟨mem_listed_iff.2 ⟨onTop, inFile, reader⟩, isTypedef⟩, spelled⟩

/-- The types and typedefs of a library once the typedefs of all its files are read. -/
def ReadLibrary.scope (read : ReadLibrary) (marker : String) : Scope :=
  (read.library.readTypedefs (.start read.graph marker)).scope

/-- A typedef name at the top is in the table unless it is fileless; the marker always is. -/
theorem ReadFrom.contains_iff {visited : List Cursor} {headers : List String}
    {read : ReadLibrary} (readFrom : ReadFrom unit visited state headers read)
    (marker : String) {name : String}
    (named : ∃ cursor ∈ unit.topTypedefs, cursor.spelling = name) :
    (read.scope marker).typedefs.contains name = true ↔
      name = marker ∨ ¬ unit.Fileless name := by
  rw [ReadLibrary.scope, HeaderLibrary.contains_readTypedefs_iff,
    readFrom.mem_declaredTypedefs_iff, or_comm]
  refine or_congr_right ⟨?_, fun filed => ?_⟩
  · rintro ⟨cursor, onTop, inFile, spelled⟩ fileless
    rw [fileless.noFile cursor onTop spelled] at inFile
    cases inFile
  · by_contra none
    refine filed ⟨named, fun cursor onTop spelled => ?_⟩
    by_contra inFile
    exact none ⟨cursor, onTop, Option.isSome_iff_ne_none.2 inFile, spelled⟩

end Declared

/-- **Which typedef names stay undeclared.**  Of the typedef names in the types, the table
has the marker and all that are not fileless, and nothing but a fileless name ends the making
of bindings as unknown. -/
theorem undeclared_of_readSource {store : File.Store} {parser : Parser} {options : List String}
    {source : String} {headers : List String} {read : ReadLibrary} {unit : SourceUnit}
    (done : (readSource store parser options source headers).outcome = .ok read)
    (isUnit : parser ⟨parserArguments options, source⟩ = .unit unit)
    (onTop : unit.TypedefsOnTop) (marker : String) :
    (∀ id name, (read.scope marker).graph.node? id = some (.typedefName name) →
      ((read.scope marker).typedefs.contains name = true ↔
        name = marker ∨ ¬ unit.Fileless name)) ∧
      ∀ skipUnsupported name after,
        (read.library.bind skipUnsupported).run (.start read.graph marker) =
            .error (.unknownTypedef name) after →
          unit.Fileless name ∧ name ≠ marker := by
  obtain ⟨other, visited, state, sameUnit, readFrom⟩ := readFrom_of_readSource done
  cases isUnit.symm.trans sameUnit
  have refers : unit.Refers fun name => ∃ cursor ∈ unit.topTypedefs, cursor.spelling = name :=
    fun cursor member type isType declaration isDeclared =>
      ⟨_, onTop cursor member type isType declaration isDeclared, rfl⟩
  have shape := read.library.sameShape_readTypedefs (.start read.graph marker)
  have declared : ∀ id name, (read.scope marker).graph.node? id = some (.typedefName name) →
      ((read.scope marker).typedefs.contains name = true ↔
        name = marker ∨ ¬ unit.Fileless name) := by
    intro id name node
    have before := shape.symm.node?_eq_typedefName node
    exact readFrom.contains_iff marker (typedefNames_of_readSource done isUnit refers before)
  refine ⟨declared, fun skipUnsupported name after failed => ?_⟩
  obtain ⟨⟨id, node⟩, missing⟩ := HeaderLibrary.unknown_of_bind failed
  have absent : ¬ ((read.scope marker).typedefs.contains name = true) := by
    rw [ReadLibrary.scope, TypedefTable.contains, missing]
    exact Bool.false_ne_true
  rw [declared id name node, not_or, not_not] at absent
  exact absent.symm

/-! ## A typedef that the parser provides -/

/-- Where cursors are told apart by their places, it is enough to look at these. -/
theorem typedefsOnTop_of_places {unit : SourceUnit}
    (each : ∀ cursor ∈ unit.cursors.toList, ∀ type ∈ cursor.types,
      ∀ declaration ∈ type.typedefs, ∃ id ∈ unit.top, declaration = some id ∧
        (unit.declaration declaration).kind = .typedefDecl) : unit.TypedefsOnTop := by
  intro cursor member type isType declaration isDeclared
  obtain ⟨id, onTop, rfl, kind⟩ := each cursor member type isType declaration isDeclared
  refine List.mem_filter.2 ⟨List.mem_filterMap.2 ⟨id, onTop, ?_⟩, decide_eq_true kind⟩
  unfold SourceUnit.declaration at kind ⊢
  rw [Option.bind_some] at kind ⊢
  cases found : unit.cursor? id with
  | none =>
    rw [found] at kind
    cases kind
  | some cursor => rfl

/-- A typedef of the parser's own. -/
def provided : String := "__int128_t"

/-- A unit with that typedef and one of the header, in which `widen` gives one of the two. -/
def wideUnit (result : CursorId) : SourceUnit where
  cursors := #[
    { Cursor.bare .typedefDecl with
      spelling := provided
      underlying := .leaf "INT128" "__int128" none },
    { Cursor.bare .typedefDecl with
      spelling := "wide_t"
      file := "/work/wide.h"
      underlying := .leaf "LONG" "long" none },
    { Cursor.bare .functionDecl with
      spelling := "widen"
      file := "/work/wide.h"
      resultType := .typedefName (some result) }]
  top := [⟨0⟩, ⟨1⟩, ⟨2⟩]
  diagnostics := []

/-- What is read from the unit. -/
def wideReading (result : CursorId) : Reading :=
  readSource ⟨"/work", []⟩ (fun _ => .unit (wideUnit result)) [] "#include \"/work/wide.h\"\n"
    ["/work/wide.h"]

/-- The typedef of the header is in the table. -/
theorem undeclared_of_wide : ∃ read, (wideReading ⟨1⟩).outcome = .ok read ∧
    (wideUnit ⟨1⟩).TypedefsOnTop ∧
    (read.scope "va").graph.node? ⟨1⟩ = some (.typedefName "wide_t") ∧
    (read.scope "va").typedefs.contains "wide_t" = true ∧
    ∀ name after, (read.library.bind true).run (.start read.graph "va") =
      .error (.unknownTypedef name) after → name ≠ "wide_t" := by
  have onTop : (wideUnit ⟨1⟩).TypedefsOnTop := typedefsOnTop_of_places (by decide +kernel)
  have inFile : ¬ (wideUnit ⟨1⟩).Fileless "wide_t" := fun fileless =>
    Option.some_ne_none _ (fileless.noFile _ (.tail _ (.head _)) rfl)
  have tested : (wideReading ⟨1⟩).outcome.toOption.any (fun read =>
      decide ((read.scope "va").graph.node? ⟨1⟩ = some (.typedefName "wide_t"))) = true := by
    decide +kernel
  obtain ⟨read, done, node⟩ := exists_of_ok tested
  have node := of_decide_eq_true node
  obtain ⟨declared, unknown⟩ := undeclared_of_readSource done rfl onTop "va"
  refine ⟨read, done, onTop, node, (declared _ _ node).2 (.inr inFile), ?_⟩
  rintro name after failed rfl
  exact inFile (unknown _ _ after failed).1

/-- **A header that cannot be bound.**  The typedef that the parser provides is in no table,
and a function that gives it ends the run, even where unsupported ones are left out. -/
theorem unbound_int128 : (wideUnit ⟨0⟩).TypedefsOnTop ∧
    ∃ read after, (wideReading ⟨0⟩).outcome = .ok read ∧
      (∃ type, .declaration (some ⟨1⟩) [⟨"widen", type⟩] false ∈
        read.library.declarations "/work/wide.h") ∧
      read.graph.node? ⟨1⟩ = some (.typedefName provided) ∧
      provided ≠ TypedefTable.standardMarker ∧
      (read.scope TypedefTable.standardMarker).typedefs.contains provided = false ∧
      (read.library.bind true).run (.start read.graph TypedefTable.standardMarker) =
        .error (.unknownTypedef provided) after := by
  have tested : (wideReading ⟨0⟩).outcome.toOption.any (fun read =>
      decide (.declaration (some ⟨1⟩) [⟨"widen", some ⟨2⟩⟩] false ∈
        read.library.declarations "/work/wide.h") &&
      decide (read.graph.node? ⟨1⟩ = some (.typedefName provided)) &&
      !(read.scope TypedefTable.standardMarker).typedefs.contains provided &&
      fails (fun fault => decide (fault = .unknownTypedef provided))
        ((read.library.bind true).run (.start read.graph TypedefTable.standardMarker))) =
        true := by decide +kernel
  obtain ⟨read, done, shown⟩ := exists_of_ok tested
  simp only [Bool.and_eq_true, decide_eq_true_eq, Bool.not_eq_true'] at shown
  obtain ⟨⟨⟨listed, node⟩, missing⟩, failed⟩ := shown
  obtain ⟨fault, after, ended, same⟩ := exists_of_fails failed
  rw [of_decide_eq_true same] at ended
  exact ⟨typedefsOnTop_of_places (by decide +kernel), read, after, done, ⟨_, listed⟩, node,
    by decide +kernel, missing, ended⟩

end HeaderBind.Clang
