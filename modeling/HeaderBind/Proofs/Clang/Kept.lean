/-
# HeaderBind.Proofs.Clang.Kept — what every function of a reader keeps

A reader goes through the types, members and definitions of a unit, but it changes its state
in five ways only: it makes notices and nodes, gives a key its node, marks a key as defined
and fills a tagged type.  What these keep, and the making of a typedef name only where the
unit refers to such a typedef, every function of the reader keeps (`ReaderKeeps`).
-/
import HeaderBind.Clang.Reading
import HeaderBind.Proofs.Outcome

namespace HeaderBind.Clang

set_option autoImplicit false

open Outcome

/-! ## Typedefs in types -/

namespace SourceType

mutual

/-- The declarations of the typedefs that a type is made of. -/
def typedefs : SourceType → List (Option CursorId)
  | .elaborated named => named.typedefs
  | .pointer pointee _ => pointee.typedefs
  | .typedefName declaration => [declaration]
  | .tagged _ => []
  | .prototype params result _ _ => typedefsOfAll params ++ result.typedefs
  | .noPrototype result _ => result.typedefs
  | .leaf _ _ _ => []

def typedefsOfAll : List SourceType → List (Option CursorId)
  | [] => []
  | type :: rest => type.typedefs ++ typedefsOfAll rest

end

theorem typedefs_stripped (type : SourceType) : type.stripped.typedefs = type.typedefs := by
  fun_induction stripped type with
  | case1 named ih => rw [ih, typedefs]
  | case2 type => rfl

end SourceType

/-- The declarations of the typedefs that a function type is made of. -/
def FunctionParts.typedefs (parts : FunctionParts) : List (Option CursorId) :=
  SourceType.typedefsOfAll parts.params ++ parts.result.typedefs

namespace SourceType

theorem typedefs_of_functionParts? {type : SourceType} {parts : FunctionParts}
    (called : type.functionParts? = some parts) : parts.typedefs = type.typedefs := by
  unfold functionParts? at called
  split at called
  · cases called
    rw [FunctionParts.typedefs, typedefs]
  · cases called
    rw [FunctionParts.typedefs, typedefs, typedefsOfAll, List.nil_append]
  · cases called

theorem typedefs_of_pointedParts? {type : SourceType} {parts : FunctionParts}
    (pointed : type.pointedParts? = some parts) : parts.typedefs = type.typedefs := by
  unfold pointedParts? at pointed
  split at pointed
  · rw [typedefs_of_functionParts? pointed, typedefs_stripped, typedefs]
  · cases pointed

end SourceType

/-- The types that a cursor has. -/
def Cursor.types (cursor : Cursor) : List SourceType :=
  [cursor.type, cursor.resultType, cursor.underlying]

namespace SourceUnit

variable {unit : SourceUnit} {names : String → Prop}

/-- The typedefs have such names. -/
def Names (unit : SourceUnit) (names : String → Prop) (typedefs : List (Option CursorId)) : Prop :=
  ∀ declaration ∈ typedefs, names (unit.declaration declaration).spelling

/-- The typedefs that the unit refers to have such names. -/
def Refers (unit : SourceUnit) (names : String → Prop) : Prop :=
  ∀ cursor ∈ unit.cursors.toList, ∀ type ∈ cursor.types, unit.Names names type.typedefs

theorem names_append {first second : List (Option CursorId)} :
    unit.Names names (first ++ second) ↔ unit.Names names first ∧ unit.Names names second := by
  simp only [Names, List.mem_append, or_imp, forall_and]

theorem mem_cursors_of_mem_cursorsAt {ids : List CursorId} {cursor : Cursor}
    (member : cursor ∈ unit.cursorsAt ids) : cursor ∈ unit.cursors.toList := by
  obtain ⟨id, -, found⟩ := List.mem_filterMap.1 member
  exact Array.mem_toList_iff.2 (Array.mem_of_getElem? found)

end SourceUnit

/-- A declaration is one of a tagged type, of a function, of a typedef or of a variable. -/
theorem declarationReader?_cases {kind : CursorKind} {reader : DeclarationReader}
    (isReader : declarationReader? kind = some reader) :
    (kind.tag?.isSome = true ∧ reader = fun _ => taggedDeclaration) ∨
      (kind = .functionDecl ∧ reader = functionDeclaration) ∨
      (kind = .typedefDecl ∧ reader = typedefDeclaration) ∨
      (kind = .varDecl ∧ reader = variableDeclaration) := by
  cases kind <;> cases isReader <;> simp [CursorKind.tag?]

/-! ## Steps -/

/-- The steps of a reader keep the relation, as far as the typedef names that they make are
such names. -/
structure ReaderKeeps (names : String → Prop) (R : Conversion → Conversion → Prop) : Prop where
  note : ∀ text, Keeps R (Convert.note text)
  addType : ∀ type, (∀ name, type = .typedefName name → names name) →
    Keeps R (Convert.addType type)
  bareNode : ∀ cursor, Keeps R (bareNode cursor)
  mark : ∀ key, Keeps R (modify fun state : Conversion => state.mark key : Convert Unit)
  fill : ∀ (id : NodeId) (type : TaggedType), Keeps R (modify fun state : Conversion =>
    { state with graph := state.graph.set id (.tagged type) } : Convert Unit)

namespace ReaderKeeps

variable {names : String → Prop} {R : Conversion → Conversion → Prop} [Std.Refl R]
  [IsTrans Conversion R] {unit : SourceUnit} {tagged : Cursor → Convert NodeId}

/-! ## Types -/

mutual

theorem typeNode (keeps : ReaderKeeps names R) (each : ∀ cursor, Keeps R (tagged cursor))
    (type : SourceType) (named : unit.Names names type.typedefs) :
    Keeps R (typeNode unit tagged type) := by
  cases type with
  | elaborated type =>
    rw [SourceType.typedefs] at named
    exact typeNode keeps each type named
  | pointer pointee declaration =>
    rw [SourceType.typedefs] at named
    exact (typeNode keeps each pointee named).bind fun _ => keeps.addType _ (by simp)
  | typedefName declaration =>
    rw [SourceType.typedefs] at named
    refine keeps.addType _ fun name same => ?_
    cases same
    exact named declaration (List.mem_singleton_self _)
  | tagged declaration => exact (each _).bind fun _ => Keeps.pure _
  | prototype params result variadic declaration =>
    rw [SourceType.typedefs, SourceUnit.names_append] at named
    refine (typeNodes keeps each params named.1).bind fun _ => ?_
    exact (typeNode keeps each result named.2).bind fun _ => keeps.addType _ (by simp)
  | noPrototype result declaration =>
    rw [SourceType.typedefs] at named
    exact (typeNode keeps each result named).bind fun _ => keeps.addType _ (by simp)
  | leaf kind spelling declaration =>
    rw [Clang.typeNode]
    split
    · exact keeps.addType _ (by simp)
    · exact (keeps.note _).bind fun _ => keeps.addType _ (by simp)

theorem typeNodes (keeps : ReaderKeeps names R) (each : ∀ cursor, Keeps R (tagged cursor))
    (types : List SourceType) (named : unit.Names names (SourceType.typedefsOfAll types)) :
    Keeps R (typeNodes unit tagged types) := by
  cases types with
  | nil => exact Keeps.pure []
  | cons type rest =>
    rw [SourceType.typedefsOfAll, SourceUnit.names_append] at named
    refine (typeNode keeps each type named.1).bind fun _ => ?_
    exact (typeNodes keeps each rest named.2).bind fun _ => Keeps.pure _

end

variable (keeps : ReaderKeeps names R)

include keeps

/-! ## Tagged types -/

theorem memberOf? (each : ∀ cursor, Keeps R (tagged cursor)) (fields : List String)
    {child : Cursor} (named : unit.Names names child.type.typedefs) :
    Keeps R (memberOf? unit tagged fields child) := by
  unfold Clang.memberOf?
  split
  · exact (keeps.typeNode each child.type named).bind fun _ => Keeps.pure _
  · split
    · exact (each child).bind fun _ => Keeps.pure _
    · exact Keeps.pure none

theorem membersOf (each : ∀ cursor, Keeps R (tagged cursor)) (refers : unit.Refers names)
    (definition : Cursor) : Keeps R (membersOf unit tagged definition) := by
  refine (Keeps.mapM fun child member => ?_).bind fun _ => Keeps.pure _
  have isCursor := SourceUnit.mem_cursors_of_mem_cursorsAt member
  exact keeps.memberOf? each _ (refers child isCursor child.type List.mem_cons_self)

theorem fillNode (each : ∀ cursor, Keeps R (tagged cursor)) (refers : unit.Refers names)
    (id : NodeId) (definition : Cursor) : Keeps R (fillNode unit tagged id definition) := by
  unfold Clang.fillNode
  refine Keeps.get.bind fun state => ?_
  split
  · exact Keeps.pure ()
  · refine (keeps.note _).bind fun _ => ?_
    split
    · exact (keeps.membersOf each refers definition).bind fun _ => keeps.fill id _
    · exact keeps.fill id _

theorem taggedLevel (each : ∀ cursor, Keeps R (tagged cursor)) (refers : unit.Refers names)
    (cursor : Cursor) : Keeps R (taggedLevel unit tagged cursor) := by
  refine (keeps.bareNode cursor).bind fun id => Keeps.get.bind fun state => ?_
  split
  · exact Keeps.pure id
  · split
    · exact Keeps.pure id
    · refine (keeps.mark cursor.key).bind fun _ => ?_
      exact (keeps.fillNode each refers id _).bind fun _ => Keeps.pure id

/-- By induction on the bound of the levels. -/
theorem taggedNodeWithin (refers : unit.Refers names) (fuel : Nat) (cursor : Cursor) :
    Keeps R (taggedNodeWithin unit fuel cursor) := by
  induction fuel generalizing cursor with
  | zero => exact keeps.bareNode cursor
  | succ fuel ih => exact keeps.taggedLevel ih refers cursor

/-! ## Declarations -/

variable (each : ∀ cursor, Keeps R (tagged cursor))

include each

theorem functionTypedef (name : String) {parts : FunctionParts}
    (named : unit.Names names parts.typedefs) {declaratorType : TypeRef → Convert TypeRef}
    (declarator : ∀ function, Keeps R (declaratorType function)) :
    Keeps R (functionTypedef unit tagged name parts declaratorType) := by
  obtain ⟨params, result⟩ := SourceUnit.names_append.1 named
  refine (keeps.typeNode each parts.result result).bind fun _ => ?_
  refine (keeps.typeNodes each parts.params params).bind fun _ => ?_
  refine (keeps.addType _ (by simp)).bind fun function => ?_
  exact (declarator function).bind fun _ => Keeps.pure _

variable (refers : unit.Refers names) {cursor : Cursor}

include refers

theorem typedefDeclaration (isCursor : cursor ∈ unit.cursors.toList) :
    Keeps R (typedefDeclaration unit tagged cursor) := by
  have named := refers cursor isCursor cursor.underlying (by simp [Cursor.types])
  unfold Clang.typedefDeclaration
  dsimp only
  split
  · rename_i parts pointed
    rw [← SourceType.typedefs_stripped, ← SourceType.typedefs_of_pointedParts? pointed] at named
    exact keeps.functionTypedef each _ named fun _ => keeps.addType _ (by simp)
  · split
    · rename_i parts called
      rw [← SourceType.typedefs_stripped, ← SourceType.typedefs_of_functionParts? called] at named
      exact keeps.functionTypedef each _ named fun _ => Keeps.pure _
    · exact (keeps.typeNode each cursor.underlying named).bind fun _ => Keeps.pure _

theorem argumentParams (arguments : List CursorId) :
    Keeps R (argumentParams unit tagged arguments) := by
  refine Keeps.mapM fun argument member => ?_
  have isCursor := SourceUnit.mem_cursors_of_mem_cursorsAt member
  have named := refers argument isCursor argument.type List.mem_cons_self
  exact (keeps.typeNode each argument.type named).bind fun _ => Keeps.pure _

theorem functionDeclaration (isCursor : cursor ∈ unit.cursors.toList) :
    Keeps R (functionDeclaration unit tagged cursor) := by
  have named := refers cursor isCursor cursor.resultType (by simp [Cursor.types])
  refine (keeps.argumentParams each refers cursor.arguments).bind fun _ => ?_
  refine (keeps.typeNode each cursor.resultType named).bind fun _ => ?_
  split
  · exact (keeps.addType _ (by simp)).bind fun _ => Keeps.pure _
  · exact (keeps.addType _ (by simp)).bind fun _ => Keeps.pure _

theorem declarationReader? (isCursor : cursor ∈ unit.cursors.toList)
    {reader : DeclarationReader} (isReader : declarationReader? cursor.kind = some reader) :
    Keeps R (reader unit tagged cursor) := by
  have named := refers cursor isCursor cursor.type List.mem_cons_self
  rcases declarationReader?_cases isReader with ⟨-, rfl⟩ | ⟨-, rfl⟩ | ⟨-, rfl⟩ | ⟨-, rfl⟩
  · exact (each cursor).bind fun _ => Keeps.pure _
  · exact keeps.functionDeclaration each refers isCursor
  · exact keeps.typedefDeclaration each refers isCursor
  · exact (keeps.typeNode each cursor.type named).bind fun _ => Keeps.pure _

theorem addCursor (isCursor : cursor ∈ unit.cursors.toList) (files : FileTable) :
    Keeps R (addCursor unit tagged files cursor) := by
  unfold Clang.addCursor
  split
  · rename_i file reader inFile isReader
    exact (keeps.declarationReader? each refers isCursor isReader).bind fun _ => Keeps.pure _
  · exact Keeps.pure files

theorem unitLibraryWith (headers : List String) :
    Keeps R (unitLibraryWith unit tagged headers) := by
  refine (Keeps.foldlM (fun files cursor member => ?_) _).bind fun _ => Keeps.pure _
  exact keeps.addCursor each refers (SourceUnit.mem_cursors_of_mem_cursorsAt member) files

omit each in
theorem unitLibrary (headers : List String) : Keeps R (unitLibrary unit headers) :=
  keeps.unitLibraryWith (keeps.taggedNodeWithin refers _) refers headers

end ReaderKeeps

end HeaderBind.Clang
