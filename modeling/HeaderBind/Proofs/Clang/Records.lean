/-
# HeaderBind.Proofs.Clang.Records — the records of a library that was read

Whatever the order of forward declarations, definitions and references, and however the
records of a unit refer to one another, reading it makes one node for each key
(`records_of_readSource`).  Two visited declarations have the same node if and only if
they have the same key.  A node gets its members or constants once, from the definition of
the first visited declaration of its key that has one, and a structure or union is left
without members if and only if no visited declaration of its key has a definition.

`ReadFrom` says this together with what the library lists: every top-level cursor that
is a declaration and stands in a file, under that file and in order.
-/
import HeaderBind.Clang.Reading
import HeaderBind.Proofs.Clang.Visit

namespace HeaderBind.Clang

set_option autoImplicit false

open Outcome

/-! ## Declarations -/

section Declarations

variable {unit : SourceUnit} {cursor : Cursor}

/-- A step of reading a unit; the bound is the one of its visits. -/
abbrev ReadsOf {α : Type} (unit : SourceUnit) (x : Convert α) (pending : List Cursor)
    (gives : Conversion → α → Prop) : Prop :=
  Reads unit (unit.cursors.size + 1) x pending gives

/-- The node of any type of a unit. -/
def sourceNode (unit : SourceUnit) : SourceType → Convert TypeRef :=
  typeNode unit (taggedNode unit)

theorem sourceNode_reads (type : SourceType) :
    ReadsOf unit (sourceNode unit type) (references unit type) fun after ref =>
      Shows unit after type ref :=
  typeNode_reads (fun _ holds => taggedNode_reads unit holds) type

theorem sourceNodes_reads (types : List SourceType) :
    ReadsOf unit (typeNodes unit (taggedNode unit) types) (allReferences unit types)
      fun after refs => ShowsAll unit after types refs :=
  typeNodes_reads (fun _ holds => taggedNode_reads unit holds) types

theorem node_stays {type : CType} (untagged : ∀ tagged, type ≠ .tagged tagged) :
    Stays fun state ref => state.graph.at? ref = some type :=
  fun _ _ _ kept node => kept.at?_eq node untagged

theorem pointerNode_reads (target : TypeRef) :
    ReadsOf unit (Convert.addType (.pointer target)) [] fun after ref =>
      after.graph.at? ref = some (.pointer target) := addType_reads (by simp)

/-- The open function type of a typedef, and what its declarator makes of it. -/
theorem functionTypedef_reads {parts : FunctionParts} {declaratorType : TypeRef → Convert TypeRef}
    {R : TypeRef → Conversion → TypeRef → Prop} (name : String)
    (declarator : ∀ function, ReadsOf unit (declaratorType function) [] (R function)) :
    ReadsOf unit (functionTypedef unit (taggedNode unit) name parts declaratorType)
      (partsReferences unit parts)
      fun after declaration => ∃ base function type,
        Shows unit after parts.result base ∧ ShowsOpen unit after parts function ∧
        R function after type ∧ declaration = .declaration base [⟨name, type⟩] true := by
  have given := fun base function => (declarator function).map
    (fun type => ExternalDeclaration.declaration base [⟨name, type⟩] true)
    (R := fun after declaration => ∃ type, R function after type ∧
      declaration = .declaration base [⟨name, type⟩] true)
    fun _ type made => ⟨type, made, rfl⟩
  rw [partsReferences, ← List.append_nil (allReferences unit parts.params)]
  refine ((sourceNode_reads parts.result).bind (fun base =>
    (sourceNodes_reads parts.params).bind (fun targets =>
      (addType_reads (by simp)).bind (given base) (node_stays (by simp)))
      (showsAll_stays unit _)) (shows_stays unit _)).imp ?_
  rintro after declaration ⟨base, shown, targets, each, function, node, type, made, rfl⟩
  exact ⟨base, function, type, shown, ⟨targets, node, each⟩, made, rfl⟩

theorem typedefDeclaration_reads (kind : cursor.kind = .typedefDecl) :
    ReadsOf unit (typedefDeclaration unit (taggedNode unit) cursor)
      (typedefReferences unit cursor.underlying)
      fun after declaration => Presents unit after cursor declaration := by
  unfold typedefDeclaration typedefReferences
  cases pointed : cursor.underlying.stripped.pointedParts? with
  | some parts =>
    simp only [pointed]
    refine (functionTypedef_reads cursor.spelling pointerNode_reads).imp ?_
    rintro after declaration ⟨base, function, pointer, given, shown, node, rfl⟩
    exact .pointerTypedef kind pointed node shown given
  | none =>
    cases called : cursor.underlying.stripped.functionParts? with
    | some parts =>
      simp only [pointed, called]
      refine (functionTypedef_reads (R := fun function _ type => type = function) _
        fun function => Reads.pure fun _ => rfl).imp ?_
      rintro after declaration ⟨base, function, type, given, shown, rfl, rfl⟩
      exact .functionTypedef kind pointed called shown given
    | none =>
      simp only [pointed, called]
      exact (sourceNode_reads cursor.underlying).map _ fun after base shown =>
        .typedef kind pointed called shown

theorem argumentParams_reads (arguments : List CursorId) :
    ReadsOf unit (argumentParams unit (taggedNode unit) arguments)
      ((unit.cursorsAt arguments).flatMap fun argument => references unit argument.type)
      fun after params =>
        List.Forall₂ (ShowsParameter unit after) (unit.cursorsAt arguments) params := by
  refine Reads.mapM (Q := fun argument after param => ShowsParameter unit after argument param)
    (fun argument _ _ _ kept shown => shown.retained kept) fun argument _ => ?_
  exact (sourceNode_reads argument.type).map _ fun after type shown => ⟨rfl, shown⟩

theorem functionDeclaration_reads (kind : cursor.kind = .functionDecl) :
    ReadsOf unit (functionDeclaration unit (taggedNode unit) cursor)
      (functionReferences unit cursor)
      fun after declaration => Presents unit after cursor declaration := by
  unfold functionDeclaration functionReferences
  have paramsStay : Stays fun state params => List.Forall₂ (ShowsParameter unit state)
      (unit.cursorsAt cursor.arguments) params :=
    fun _ _ _ kept each => each.imp fun _ _ shown => shown.retained kept
  rw [← List.append_nil (references unit cursor.resultType)]
  cases isDefinition : cursor.isDefinition with
  | true =>
    refine ((argumentParams_reads cursor.arguments).bind (fun params =>
      (sourceNode_reads cursor.resultType).bind (fun result =>
        (addType_reads (by simp)).map _ (R := fun after declaration => ∃ function,
          after.graph.at? function =
            some (.function ⟨params, result, cursor.type.isVariadic⟩) ∧
          declaration = .functionBody cursor.spelling function)
          fun after function node => ⟨function, node, rfl⟩)
        (shows_stays unit _)) paramsStay).imp ?_
    rintro after declaration ⟨params, each, result, given, function, node, rfl⟩
    exact .functionBody kind isDefinition node each given
  | false =>
    refine ((argumentParams_reads cursor.arguments).bind (fun params =>
      (sourceNode_reads cursor.resultType).bind (fun result =>
        (addType_reads (by simp)).map _ (R := fun after declaration => ∃ function,
          after.graph.at? function = some (.function ⟨params, none, cursor.type.isVariadic⟩) ∧
          declaration = .declaration result [⟨cursor.spelling, function⟩] false)
          fun after function node => ⟨function, node, rfl⟩)
        (shows_stays unit _)) paramsStay).imp ?_
    rintro after declaration ⟨params, each, result, given, function, node, rfl⟩
    exact .function kind isDefinition node each given

theorem taggedDeclaration_reads (kind : cursor.kind.tag?.isSome = true)
    (holds : unit.Holds cursor) :
    ReadsOf unit (taggedDeclaration (taggedNode unit) cursor) [cursor] fun after declaration =>
      Presents unit after cursor declaration :=
  (taggedNode_reads unit holds).map _ fun _ _ node => .tagged kind node

/-- Whatever a declaration is, it presents its cursor. -/
theorem declarationReader?_reads {reader : DeclarationReader}
    (isReader : declarationReader? cursor.kind = some reader) (holds : unit.Holds cursor) :
    ReadsOf unit (reader unit (taggedNode unit) cursor) (declarationReferences unit cursor)
      fun after declaration => Presents unit after cursor declaration := by
  unfold declarationReferences
  cases kind : cursor.kind <;> rw [kind] at isReader <;> cases isReader
  · exact taggedDeclaration_reads (by rw [kind]; rfl) holds
  · exact taggedDeclaration_reads (by rw [kind]; rfl) holds
  · exact taggedDeclaration_reads (by rw [kind]; rfl) holds
  · exact functionDeclaration_reads kind
  · exact typedefDeclaration_reads kind
  · exact (sourceNode_reads cursor.type).map _ fun after base shown => .object kind shown

end Declarations

/-! ## A unit -/

/-- The files with more declarations, each listed in its file. -/
def withDeclarations (files : FileTable) (filed : List (String × ExternalDeclaration)) :
    FileTable :=
  filed.foldl (fun files entry => addDeclaration entry.1 entry.2 files) files

/-- The declaration of a cursor, in the file of the cursor. -/
def FiledAs (unit : SourceUnit) (state : Conversion) (entry : String × Cursor)
    (filed : String × ExternalDeclaration) : Prop :=
  filed.1 = entry.1 ∧ Presents unit state entry.2 filed.2

/-- The files with the declarations of the cursors, in order. -/
def Lists (unit : SourceUnit) (entries : List (String × Cursor)) (files : FileTable)
    (state : Conversion) (library : FileTable) : Prop :=
  ∃ filed, List.Forall₂ (FiledAs unit state) entries filed ∧ library = withDeclarations files filed

section Library

variable {unit : SourceUnit}

theorem addCursor_reads {cursor : Cursor} (holds : unit.Holds cursor) (files : FileTable) :
    ReadsOf unit (addCursor unit (taggedNode unit) files cursor)
      ((listed? cursor).toList.flatMap fun entry => declarationReferences unit entry.2)
      (Lists unit (listed? cursor).toList files) := by
  have unlisted : ReadsOf unit (pure files) [] (Lists unit [] files) :=
    Reads.pure fun _ => ⟨[], .nil, rfl⟩
  unfold addCursor listed?
  cases inFile : cursor.file with
  | none => exact unlisted
  | some file =>
    cases isReader : declarationReader? cursor.kind with
    | none => exact unlisted
    | some reader =>
      rw [Option.toList_some, List.flatMap_singleton]
      refine (declarationReader?_reads isReader holds).map _ fun after declaration presented => ?_
      exact ⟨[(file, declaration)], .cons ⟨rfl, presented⟩ .nil, rfl⟩

theorem Lists.retained {entries : List (String × Cursor)} {files library : FileTable}
    {earlier later : Conversion} (kept : earlier.Retains later)
    (lists : Lists unit entries files earlier library) :
    Lists unit entries files later library := by
  obtain ⟨filed, each, rfl⟩ := lists
  exact ⟨filed, each.imp fun _ _ one => ⟨one.1, one.2.retained kept⟩, rfl⟩

theorem Lists.append {entries more : List (String × Cursor)} {files middle library : FileTable}
    {state : Conversion} (one : Lists unit entries files state middle)
    (two : Lists unit more middle state library) :
    Lists unit (entries ++ more) files state library := by
  obtain ⟨filed, each, rfl⟩ := one
  obtain ⟨others, eachOther, rfl⟩ := two
  refine ⟨filed ++ others, List.rel_append each eachOther, ?_⟩
  rw [withDeclarations, withDeclarations, withDeclarations, List.foldl_append]

theorem addCursors_reads {cursors : List Cursor} (holds : ∀ cursor ∈ cursors, unit.Holds cursor)
    (files : FileTable) :
    ReadsOf unit (cursors.foldlM (addCursor unit (taggedNode unit)) files)
      ((cursors.filterMap listed?).flatMap fun entry => declarationReferences unit entry.2)
      (Lists unit (cursors.filterMap listed?) files) := by
  induction cursors generalizing files with
  | nil => exact Reads.pure fun _ => ⟨[], .nil, rfl⟩
  | cons cursor cursors ih =>
    have one := addCursor_reads (holds cursor List.mem_cons_self) files
    have others := ih fun other member => holds other (List.mem_cons_of_mem cursor member)
    have entries : (cursor :: cursors).filterMap listed? =
        (listed? cursor).toList ++ cursors.filterMap listed? := by
      cases found : listed? cursor <;> simp [found]
    rw [List.foldlM_cons, entries, List.flatMap_append]
    refine (one.bind others fun _ _ _ kept lists => lists.retained kept).imp ?_
    rintro after library ⟨middle, first, rest⟩
    exact first.append rest

/-- The headers are there without declarations before any is read. -/
theorem unitLibrary_reads (headers : List String) :
    ReadsOf unit (unitLibrary unit headers) unit.references fun after library =>
      library.headers = headers ∧
        Lists unit unit.listed (headers.foldl addFile []) after library.files := by
  have holds : ∀ cursor ∈ unit.cursorsAt unit.top, unit.Holds cursor :=
    fun cursor member => SourceUnit.holds_of_mem member
  exact (addCursors_reads holds _).map _ fun after files lists => ⟨rfl, lists⟩

end Library

/-! ## A library -/

/-- The library was read from the unit: the state it was read in tells of all declarations
that are visited from the top, and the cursors of the top are listed. -/
structure ReadFrom (unit : SourceUnit) (visited : List Cursor) (state : Conversion)
    (headers : List String) (read : ReadLibrary) : Prop extends Tells unit [] visited state where
  graph : state.graph = read.graph
  visits : Visits unit [] unit.references visited
  requested : read.library.headers = headers
  lists : Lists unit unit.listed (headers.foldl addFile []) state read.library.files

/-- What was read was read from the unit that the parser gave. -/
theorem readFrom_of_readSource {store : File.Store} {parser : Parser} {options : List String}
    {source : String} {headers : List String} {read : ReadLibrary}
    (done : (readSource store parser options source headers).outcome = .ok read) :
    ∃ unit visited state, parser ⟨parserArguments options, source⟩ = .unit unit ∧
      ReadFrom unit visited state headers read := by
  unfold readSource readUnit at done
  dsimp only at done
  split at done
  · cases done
  · rename_i unit isUnit
    split at done
    · cases done
    · split at done
      · rename_i library state run
        cases done
        obtain ⟨visited, visits, tells, -, isHeaders, lists⟩ :=
          unitLibrary_reads headers [] [] _ library state (.start unit _)
            (Nat.lt_succ_of_le (unread_length_le unit _)) run
        exact ⟨unit, visited, state, isUnit, tells, rfl, visits, isHeaders, lists⟩
      · cases done

end HeaderBind.Clang
