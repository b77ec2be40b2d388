/-
# HeaderBind.Proofs.Typedef.Declared — the names in the table once typedefs are read

Reading the typedefs of a library declares names and opens no type: the table then holds
the variadic marker, the names that the typedefs of the files declare, and no other
(`contains_readTypedefs_iff`), and the types are of the same shape as before
(`sameShape_readTypedefs`).  Both are told together by `Workspace.Declares`, from one
declarator up to all files.
-/
import HeaderBind.Binding.Library
import HeaderBind.Proofs.CType.Shape

namespace HeaderBind

set_option autoImplicit false

/-! ## Declared names -/

/-- The names that a declaration declares as typedefs. -/
def ExternalDeclaration.declaredTypedefs : ExternalDeclaration → List String
  | .declaration _ declarators true => declarators.map Declarator.name
  | .declaration _ _ false => []
  | .functionBody _ _ => []

/-- The names that the files of a library declare as typedefs. -/
def HeaderLibrary.declaredTypedefs (library : HeaderLibrary) : List String :=
  (library.files.flatMap Prod.snd).flatMap ExternalDeclaration.declaredTypedefs

namespace TypedefTable

theorem contains_marker (table : TypedefTable) : table.contains table.marker = true := by
  rw [contains, lookup_marker, Option.isSome_some]

theorem contains_seeded_iff {marker name : String} :
    (seeded marker).contains name = true ↔ name = marker := by
  by_cases same : name = marker <;> simp [contains, lookup, seeded, same]

theorem contains_declare_iff (table : TypedefTable) (name other : String) (type : TypeRef) :
    (table.declare name type).contains other = true ↔
      other = name ∨ table.contains other = true := by
  by_cases same : other = name
  · subst same
    refine iff_of_true ?_ (.inl rfl)
    by_cases isMarker : other = table.marker
    · rw [isMarker, ← table.marker_declare table.marker type]
      exact contains_marker _
    · rw [contains, lookup_declare_self isMarker, Option.isSome_some]
  · rw [contains, contains, table.lookup_declare_ne same]
    exact (or_iff_right same).symm

end TypedefTable

/-! ## Reading -/

namespace Workspace

/-- The names were declared, and no others; the types kept their shape. -/
structure Declares (names : List String) (earlier later : Workspace) : Prop where
  graph : earlier.scope.graph.SameShape later.scope.graph
  contains : ∀ name, later.scope.typedefs.contains name = true ↔
    name ∈ names ∨ earlier.scope.typedefs.contains name = true

namespace Declares

variable {names more : List String} {first second third : Workspace}

theorem refl (workspace : Workspace) : Declares [] workspace workspace :=
  ⟨.refl _, fun _ => (or_iff_right List.not_mem_nil).symm⟩

theorem trans (one : Declares names first second) (two : Declares more second third) :
    Declares (names ++ more) first third := by
  refine ⟨one.graph.trans two.graph, fun name => ?_⟩
  rw [two.contains, one.contains, List.mem_append, ← or_assoc, or_comm (a := name ∈ more)]

/-- The typedefs of a list are those of its elements. -/
theorem foldl {α : Type} {step : Workspace → α → Workspace} {namesOf : α → List String}
    (each : ∀ workspace a, Declares (namesOf a) workspace (step workspace a)) (list : List α)
    (workspace : Workspace) :
    Declares (list.flatMap namesOf) workspace (list.foldl step workspace) := by
  induction list generalizing workspace with
  | nil => exact refl workspace
  | cons a list ih => exact (each workspace a).trans (ih (step workspace a))

end Declares

theorem scope_nameByTypedef (workspace : Workspace) (name : String) (type : TypeRef) :
    (workspace.nameByTypedef name type).scope = workspace.scope := by
  unfold nameByTypedef
  split
  · rfl
  · split <;> rfl

/-- The marker is not declared anew, but it is in the table. -/
theorem declareTypedef_declares (workspace : Workspace) (name : String) (type : TypeRef) :
    Declares [name] workspace (workspace.declareTypedef name type) := by
  have unchanged := workspace.scope_nameByTypedef name type
  unfold declareTypedef
  split
  · rename_i isMarker
    refine ⟨.refl _, fun other => (or_iff_right_of_imp fun same => ?_).symm⟩
    rw [List.mem_singleton.1 same, isMarker]
    exact workspace.scope.typedefs.contains_marker
  · refine ⟨unchanged ▸ TypeGraph.SameShape.refl _, fun other => ?_⟩
    rw [List.mem_singleton, ← unchanged]
    exact TypedefTable.contains_declare_iff _ name other type

theorem readDeclarator_eq (base : TypeRef) (workspace : Workspace) (declarator : Declarator) :
    readDeclarator base workspace declarator =
      (workspace.withGraph (workspace.scope.graph.assemble declarator.type base).2).declareTypedef
        declarator.name (declarator.type.or base) := by
  have type : (workspace.scope.graph.assemble declarator.type base).1 =
      declarator.type.or base := by
    cases declarator.type <;> rfl
  rw [← type]
  rfl

theorem readDeclarator_declares (base : TypeRef) (workspace : Workspace)
    (declarator : Declarator) :
    Declares [declarator.name] workspace (readDeclarator base workspace declarator) := by
  have assembled := TypeGraph.sameShape_assemble workspace.scope.graph declarator.type base
  have declared := (workspace.withGraph
    (workspace.scope.graph.assemble declarator.type base).2).declareTypedef_declares
      declarator.name (declarator.type.or base)
  rw [readDeclarator_eq]
  exact ⟨assembled.trans declared.graph, declared.contains⟩

theorem readExternal_declares (workspace : Workspace) (declaration : ExternalDeclaration) :
    Declares declaration.declaredTypedefs workspace (workspace.readExternal declaration) := by
  cases declaration with
  | functionBody name function => exact .refl workspace
  | declaration base declarators isTypedef =>
    cases isTypedef with
    | false => exact .refl workspace
    | true =>
      have each := Declares.foldl (readDeclarator_declares base) declarators workspace
      rwa [← List.map_eq_flatMap] at each

end Workspace

namespace HeaderLibrary

variable (library : HeaderLibrary)

theorem readTypedefs_declares (workspace : Workspace) :
    workspace.Declares library.declaredTypedefs (library.readTypedefs workspace) := by
  rw [declaredTypedefs, List.flatMap_assoc]
  refine Workspace.Declares.foldl (fun workspace file => ?_) library.files workspace
  exact Workspace.Declares.foldl Workspace.readExternal_declares file.2 workspace

theorem sameShape_readTypedefs (workspace : Workspace) :
    workspace.scope.graph.SameShape (library.readTypedefs workspace).scope.graph :=
  (library.readTypedefs_declares workspace).graph

/-- **What the table holds** once the typedefs of all files are read. -/
theorem contains_readTypedefs_iff {graph : TypeGraph} {marker name : String} :
    (library.readTypedefs (.start graph marker)).scope.typedefs.contains name = true ↔
      name ∈ library.declaredTypedefs ∨ name = marker := by
  rw [(library.readTypedefs_declares (.start graph marker)).contains]
  exact or_congr_right TypedefTable.contains_seeded_iff

end HeaderLibrary

end HeaderBind
