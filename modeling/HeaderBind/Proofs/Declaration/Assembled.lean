/-
# HeaderBind.Proofs.Declaration.Assembled — which declared types are assembled, and when

Reading the typedefs of a library assembles the declared types of all typedefs, and looking
for the callables of a header assembles those of its prototypes and callbacks; nothing else
changes the graph (`readTypedefs_assembled`, `scan_assembled`).  So once the typedefs are
read, every one of them is done with (`done_readTypedefs`).
-/
import HeaderBind.Proofs.Binding.Stages
import HeaderBind.Proofs.CType.Spine
import HeaderBind.Proofs.Typedef.Declared

namespace HeaderBind

set_option autoImplicit false

open TypeGraph

/-! ## Declared types -/

/-- The types of the declarators of a declaration, each with its base type. -/
def ExternalDeclaration.assemblies : ExternalDeclaration → List Assembly
  | .declaration base declarators _ => declarators.map fun declarator => (declarator.type, base)
  | .functionBody _ _ => []

namespace HeaderLibrary

variable (library : HeaderLibrary)

/-- What the files of a library declare. -/
def allDeclarations : List ExternalDeclaration := library.files.flatMap Prod.snd

/-- The types of all declarators of a library, each with its base type. -/
def assemblies : List Assembly := library.allDeclarations.flatMap ExternalDeclaration.assemblies

variable {library}

/-- A header that was read is one of the files. -/
theorem declarations_subset (header : String) :
    library.declarations header ⊆ library.allDeclarations := by
  intro declaration member
  unfold declarations at member
  cases found : library.files.lookup header with
  | none =>
    rw [found] at member
    cases member
  | some declarations =>
    rw [found, Option.getD_some] at member
    obtain ⟨before, after, split, -⟩ := List.lookup_eq_some_iff.1 found
    refine List.mem_flatMap.2 ⟨(header, declarations), ?_, member⟩
    rw [split]
    simp

theorem mem_assemblies {base : TypeRef} {declarators : List Declarator} {isTypedef : Bool}
    {declarator : Declarator}
    (isDeclaration : .declaration base declarators isTypedef ∈ library.allDeclarations)
    (isDeclarator : declarator ∈ declarators) : (declarator.type, base) ∈ library.assemblies :=
  List.mem_flatMap.2 ⟨_, isDeclaration, List.mem_map_of_mem isDeclarator⟩

theorem assemblies_subset {declarations : List ExternalDeclaration}
    (among : declarations ⊆ library.allDeclarations) :
    declarations.flatMap ExternalDeclaration.assemblies ⊆ library.assemblies := by
  intro entry member
  obtain ⟨declaration, isDeclaration, isEntry⟩ := List.mem_flatMap.1 member
  exact List.mem_flatMap.2 ⟨declaration, among isDeclaration, isEntry⟩

end HeaderLibrary

/-! ## Loops that assemble -/

namespace TypeGraph.Assembled

variable {σ α : Type} (graphOf : σ → TypeGraph) {step : σ → α → σ} {entries : List Assembly}

theorem foldl {list : List α}
    (each : ∀ a ∈ list, ∀ s, Assembled entries (graphOf s) (graphOf (step s a))) (s : σ) :
    Assembled entries (graphOf s) (graphOf (list.foldl step s)) := by
  induction list generalizing s with
  | nil => exact .refl _
  | cons a list ih =>
    refine (each a List.mem_cons_self s).trans ?_
    exact ih (fun b member => each b (List.mem_cons_of_mem a member)) (step s a)

/-- Every element of a loop is reached in some state, and what is done to it is kept. -/
theorem exists_of_foldl {list : List α}
    (each : ∀ a ∈ list, ∀ s, Assembled entries (graphOf s) (graphOf (step s a))) {a : α}
    (member : a ∈ list) (s : σ) :
    ∃ t, Assembled entries (graphOf s) (graphOf t) ∧
      Assembled entries (graphOf (step t a)) (graphOf (list.foldl step s)) := by
  induction list generalizing s with
  | nil => cases member
  | cons b list ih =>
    have others := fun c isIn => each c (List.mem_cons_of_mem b isIn)
    rcases List.mem_cons.1 member with rfl | member
    · exact ⟨s, .refl _, foldl graphOf others (step s a)⟩
    · obtain ⟨t, before, after⟩ := ih others member (step s b)
      exact ⟨t, (each b List.mem_cons_self s).trans before, after⟩

end TypeGraph.Assembled

/-! ## Reading typedefs -/

namespace Workspace

def graph (workspace : Workspace) : TypeGraph := workspace.scope.graph

theorem graph_declareTypedef (workspace : Workspace) (name : String) (type : TypeRef) :
    (workspace.declareTypedef name type).graph = workspace.graph := by
  have unchanged := workspace.scope_nameByTypedef name type
  unfold declareTypedef
  split
  · rfl
  · show (workspace.nameByTypedef name type).scope.graph = _
    rw [unchanged]
    rfl

theorem graph_readDeclarator (base : TypeRef) (workspace : Workspace) (declarator : Declarator) :
    (readDeclarator base workspace declarator).graph =
      (workspace.graph.assemble declarator.type base).2 :=
  graph_declareTypedef _ _ _

variable {entries : List Assembly}

theorem readExternal_assembled {declaration : ExternalDeclaration}
    (among : declaration.assemblies ⊆ entries) (workspace : Workspace) :
    Assembled entries workspace.graph (workspace.readExternal declaration).graph := by
  cases declaration with
  | functionBody name function => exact .refl _
  | declaration base declarators isTypedef =>
    cases isTypedef with
    | false => exact .refl _
    | true =>
      refine Assembled.foldl graph (fun declarator member workspace => ?_) workspace
      have isEntry : (declarator.type, base) ∈ entries := among (List.mem_map_of_mem member)
      rw [graph_readDeclarator]
      exact .single isEntry _

theorem readTypedefs_assembled {declarations : List ExternalDeclaration}
    (among : declarations.flatMap ExternalDeclaration.assemblies ⊆ entries)
    (workspace : Workspace) :
    Assembled entries workspace.graph (workspace.readTypedefs declarations).graph :=
  Assembled.foldl graph (fun _ member workspace =>
    readExternal_assembled (fun _ isEntry =>
      among (List.mem_flatMap.2 ⟨_, member, isEntry⟩)) workspace) workspace

end Workspace

namespace HeaderLibrary

variable {library : HeaderLibrary}

theorem readFile_assembled {file : String × List ExternalDeclaration}
    (member : file ∈ library.files) (workspace : Workspace) :
    Assembled library.assemblies workspace.graph (workspace.readTypedefs file.2).graph :=
  Workspace.readTypedefs_assembled (assemblies_subset fun _ isDeclaration =>
    List.mem_flatMap.2 ⟨file, member, isDeclaration⟩) workspace

theorem readTypedefs_assembled (workspace : Workspace) :
    Assembled library.assemblies workspace.graph (library.readTypedefs workspace).graph :=
  Assembled.foldl Workspace.graph
    (fun _ member workspace => readFile_assembled member workspace) workspace

/-- The type of every typedef is assembled at some time while the typedefs are read. -/
theorem assembled_of_readTypedefs {base : TypeRef} {declarators : List Declarator}
    {declarator : Declarator}
    (isTypedef : .declaration base declarators true ∈ library.allDeclarations)
    (isDeclarator : declarator ∈ declarators) (workspace : Workspace) :
    ∃ before, Assembled library.assemblies workspace.graph before ∧
      Assembled library.assemblies (before.assemble declarator.type base).2
        (library.readTypedefs workspace).graph := by
  obtain ⟨file, isFile, isDeclaration⟩ := List.mem_flatMap.1 isTypedef
  obtain ⟨first, one, one'⟩ := Assembled.exists_of_foldl Workspace.graph
    (fun _ member workspace => readFile_assembled member workspace) isFile workspace
  have among : ∀ declaration ∈ file.2, declaration.assemblies ⊆ library.assemblies :=
    fun declaration member _ isEntry =>
      List.mem_flatMap.2 ⟨declaration, List.mem_flatMap.2 ⟨file, isFile, member⟩, isEntry⟩
  obtain ⟨second, two, two'⟩ := Assembled.exists_of_foldl Workspace.graph
    (fun declaration member workspace =>
      Workspace.readExternal_assembled (among declaration member) workspace) isDeclaration first
  have each : ∀ other ∈ declarators, ∀ workspace : Workspace, Assembled library.assemblies
      workspace.graph (Workspace.readDeclarator base workspace other).graph := by
    intro other member workspace
    rw [Workspace.graph_readDeclarator]
    exact .single (mem_assemblies isTypedef member) _
  obtain ⟨third, three, three'⟩ :=
    Assembled.exists_of_foldl Workspace.graph each isDeclarator second
  rw [Workspace.graph_readDeclarator] at three'
  exact ⟨third.graph, (one.trans two).trans three, (three'.trans two').trans one'⟩

/-- Once the typedefs are read, their types are done with. -/
theorem done_readTypedefs {base : TypeRef} {declarators : List Declarator}
    {declarator : Declarator}
    (isTypedef : .declaration base declarators true ∈ library.allDeclarations)
    (isDeclarator : declarator ∈ declarators) {workspace : Workspace}
    (owned : workspace.graph.Owned library.assemblies) :
    (library.readTypedefs workspace).graph.Done (declarator.type, base) := by
  obtain ⟨before, reached, later⟩ := assembled_of_readTypedefs isTypedef isDeclarator workspace
  have member := mem_assemblies isTypedef isDeclarator
  have owned := owned.assembled reached
  exact (owned.done_assemble member).assembled (owned.assemble member) later

end HeaderLibrary

/-! ## Looking for callables -/

namespace CallableScan

variable {entries : List Assembly}

theorem addDeclarator_assembled {base : TypeRef} {declarator : Declarator}
    (member : (declarator.type, base) ∈ entries) (isTypedef : Bool) (scan : CallableScan) :
    Assembled entries scan.graph (scan.addDeclarator base isTypedef declarator).graph := by
  have assembled := Assembled.single member scan.graph
  unfold addDeclarator
  split
  · split
    · exact .refl _
    · exact assembled
  · split
    · split
      · exact assembled
      · exact .refl _
    · exact .refl _

theorem addExternal_assembled {declaration : ExternalDeclaration}
    (among : declaration.assemblies ⊆ entries) (scan : CallableScan) :
    Assembled entries scan.graph (scan.addExternal declaration).graph := by
  cases declaration with
  | functionBody name function => exact .refl _
  | declaration base declarators isTypedef =>
    exact Assembled.foldl CallableScan.graph (fun declarator member scan =>
      addDeclarator_assembled (among (List.mem_map_of_mem member)) isTypedef scan) scan

end CallableScan

theorem TypeGraph.scanCallables_assembled {entries : List Assembly}
    {declarations : List ExternalDeclaration}
    (among : declarations.flatMap ExternalDeclaration.assemblies ⊆ entries) (graph : TypeGraph) :
    Assembled entries graph (graph.scanCallables declarations).graph :=
  Assembled.foldl CallableScan.graph (fun _ member scan =>
    CallableScan.addExternal_assembled (fun _ isEntry =>
      among (List.mem_flatMap.2 ⟨_, member, isEntry⟩)) scan) (.start graph)

/-- To look for the callables of a header assembles declared types of the library. -/
theorem HeaderLibrary.scan_assembled (library : HeaderLibrary) (scope : Scope) (header : String) :
    Assembled library.assemblies scope.graph (library.scan scope header).graph :=
  scanCallables_assembled (assemblies_subset (declarations_subset header)) scope.graph

end HeaderBind
