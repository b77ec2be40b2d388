/-
# HeaderBind.Proofs.Declaration.Again — declarations that are read a second time

A run assembles declared types, so whoever reads the same declarations after it starts from
another graph.  In every graph that is reached later each declarator that was assembled is
done with: typedefs are declared as before (`readTypedefs_again`), and the same callables are
found (`scan_again`), while the graph stays as it is.  The types of these callables, and those
that typedef names stand for, are settled (`settled_scan`, `settled_readTypedefs`).
-/
import HeaderBind.Proofs.Declaration.Found

namespace HeaderBind

set_option autoImplicit false

open TypeGraph

/-! ## Loops -/

/-- A loop over what is done again leaves no other effect than the first time. -/
theorem TypeGraph.Assembled.foldl_again {σ α : Type} (graphOf : σ → TypeGraph) (onto : σ → σ)
    {step : σ → α → σ} {entries : List Assembly} {holds : TypeGraph → Prop} {later : TypeGraph}
    {list : List α}
    (stays : ∀ first second, holds first → Assembled entries first second → holds second)
    (assembled : ∀ a ∈ list, ∀ s, Assembled entries (graphOf s) (graphOf (step s a)))
    (each : ∀ a ∈ list, ∀ s, holds (graphOf s) →
      Assembled entries (graphOf (step s a)) later → step (onto s) a = onto (step s a))
    {s : σ} (start : holds (graphOf s))
    (reached : Assembled entries (graphOf (list.foldl step s)) later) :
    list.foldl step (onto s) = onto (list.foldl step s) := by
  induction list generalizing s with
  | nil => rfl
  | cons a list ih =>
    have others := fun b isIn => assembled b (List.mem_cons_of_mem a isIn)
    have here := assembled a List.mem_cons_self s
    rw [List.foldl_cons] at reached
    rw [List.foldl_cons, List.foldl_cons,
      each a List.mem_cons_self s start ((foldl graphOf others (step s a)).trans reached)]
    exact ih others (fun b isIn => each b (List.mem_cons_of_mem a isIn))
      (stays _ _ start here) reached

/-! ## Reading typedefs -/

namespace Workspace

variable {later : TypeGraph} {entries : List Assembly}

theorem nameByTypedef_withGraph {workspace : Workspace} (same : workspace.graph.SameShape later)
    (name : String) (type : TypeRef) :
    (workspace.withGraph later).nameByTypedef name type =
      (workspace.nameByTypedef name type).withGraph later := by
  cases type with
  | none => rfl
  | some id =>
    have tagged : (workspace.withGraph later).scope.graph.tagged? id =
        workspace.scope.graph.tagged? id := same.tagged?_eq id
    unfold nameByTypedef
    dsimp only
    rw [tagged]
    split
    · rfl
    · rfl

theorem declareTypedef_withGraph {workspace : Workspace} (same : workspace.graph.SameShape later)
    (name : String) (type : TypeRef) :
    (workspace.withGraph later).declareTypedef name type =
      (workspace.declareTypedef name type).withGraph later := by
  have marker : (workspace.withGraph later).scope.typedefs.marker =
      workspace.scope.typedefs.marker := rfl
  unfold declareTypedef
  rw [marker, nameByTypedef_withGraph same]
  split
  · rfl
  · rfl

theorem readDeclarator_again {workspace : Workspace} {base : TypeRef} {declarator : Declarator}
    (member : (declarator.type, base) ∈ entries) (owned : workspace.graph.Owned entries)
    (reached : Assembled entries (readDeclarator base workspace declarator).graph later) :
    readDeclarator base (workspace.withGraph later) declarator =
      (readDeclarator base workspace declarator).withGraph later := by
  rw [graph_readDeclarator] at reached
  have there : (workspace.withGraph later).scope.graph = later := rfl
  have shape : (workspace.withGraph
      (workspace.scope.graph.assemble declarator.type base).2).graph.SameShape later :=
    reached.filled.shape
  rw [readDeclarator_eq, readDeclarator_eq, there, owned.again member reached]
  exact declareTypedef_withGraph shape declarator.name _

theorem readExternal_again {workspace : Workspace} {declaration : ExternalDeclaration}
    (among : declaration.assemblies ⊆ entries) (owned : workspace.graph.Owned entries)
    (reached : Assembled entries (workspace.readExternal declaration).graph later) :
    (workspace.withGraph later).readExternal declaration =
      (workspace.readExternal declaration).withGraph later := by
  cases declaration with
  | functionBody name function => rfl
  | declaration base declarators isTypedef =>
    cases isTypedef with
    | false => rfl
    | true =>
      have isEntry : ∀ declarator ∈ declarators, (declarator.type, base) ∈ entries :=
        fun declarator isDeclarator => among (List.mem_map_of_mem isDeclarator)
      have assembled : ∀ declarator ∈ declarators, ∀ workspace : Workspace,
          Assembled entries workspace.graph (readDeclarator base workspace declarator).graph := by
        intro declarator isDeclarator workspace
        rw [graph_readDeclarator]
        exact .single (isEntry declarator isDeclarator) _
      exact Assembled.foldl_again graph (·.withGraph later) (fun _ _ => Owned.assembled) assembled
        (fun declarator isDeclarator _ => readDeclarator_again (isEntry declarator isDeclarator))
        owned reached

theorem readTypedefs_again {workspace : Workspace} {declarations : List ExternalDeclaration}
    (among : declarations.flatMap ExternalDeclaration.assemblies ⊆ entries)
    (owned : workspace.graph.Owned entries)
    (reached : Assembled entries (workspace.readTypedefs declarations).graph later) :
    (workspace.withGraph later).readTypedefs declarations =
      (workspace.readTypedefs declarations).withGraph later := by
  have each : ∀ declaration ∈ declarations, declaration.assemblies ⊆ entries :=
    fun declaration member _ isEntry => among (List.mem_flatMap.2 ⟨declaration, member, isEntry⟩)
  exact Assembled.foldl_again graph (·.withGraph later) (fun _ _ => Owned.assembled)
    (fun declaration member => readExternal_assembled (each declaration member))
    (fun declaration member _ => readExternal_again (each declaration member)) owned reached

theorem mem_declareTypedef {P : TypeRef → Prop} {workspace : Workspace} {name : String}
    {type : TypeRef} (isNew : P type)
    (before : ∀ entry ∈ workspace.scope.typedefs.entries, P entry.2) :
    ∀ entry ∈ (workspace.declareTypedef name type).scope.typedefs.entries, P entry.2 := by
  have unchanged := workspace.scope_nameByTypedef name type
  unfold declareTypedef
  split
  · exact before
  · intro entry isEntry
    simp only [withTypedef, note, TypedefTable.declare, unchanged] at isEntry
    rcases List.mem_cons.1 isEntry with rfl | isEntry
    · exact isNew
    · exact before entry isEntry

/-- What holds of the types that are declared holds of what typedef names stand for. -/
theorem mem_readTypedefs {P : TypeRef → Prop} {workspace : Workspace}
    {declarations : List ExternalDeclaration}
    (declared : ∀ base declarators, .declaration base declarators true ∈ declarations →
      ∀ declarator ∈ declarators, P (declarator.type.or base))
    (before : ∀ entry ∈ workspace.scope.typedefs.entries, P entry.2) :
    ∀ entry ∈ (workspace.readTypedefs declarations).scope.typedefs.entries, P entry.2 := by
  refine List.foldlRecOn (motive := fun state : Workspace =>
    ∀ entry ∈ state.scope.typedefs.entries, P entry.2) declarations readExternal before
      fun state held declaration member => ?_
  cases declaration with
  | functionBody name function => exact held
  | declaration base declarators isTypedef =>
    cases isTypedef with
    | false => exact held
    | true =>
      refine List.foldlRecOn (motive := fun state : Workspace =>
        ∀ entry ∈ state.scope.typedefs.entries, P entry.2) declarators (readDeclarator base) held
          fun state held declarator isDeclarator => ?_
      rw [readDeclarator_eq]
      exact mem_declareTypedef (declared base declarators member declarator isDeclarator) held

end Workspace

/-! ## Graphs whose typedefs were read -/

namespace HeaderLibrary

variable {library : HeaderLibrary} {first second later : TypeGraph}

/-- The open slots belong to declarators, and those of typedefs are done with. -/
structure ReadIn (library : HeaderLibrary) (graph : TypeGraph) : Prop where
  owned : graph.Owned library.assemblies
  typedefs : ∀ base declarators, .declaration base declarators true ∈ library.allDeclarations →
    ∀ declarator ∈ declarators, graph.Done (declarator.type, base)

theorem ReadIn.assembled (h : library.ReadIn first)
    (later : Assembled library.assemblies first second) : library.ReadIn second :=
  ⟨h.owned.assembled later, fun base declarators isTypedef declarator isDeclarator =>
    (h.typedefs base declarators isTypedef declarator isDeclarator).assembled h.owned later⟩

theorem ReadIn.settled (h : library.ReadIn first) {base : TypeRef} {declarators : List Declarator}
    {declarator : Declarator}
    (isTypedef : .declaration base declarators true ∈ library.allDeclarations)
    (isDeclarator : declarator ∈ declarators) :
    first.Settled library.assemblies declarator.type :=
  (h.typedefs base declarators isTypedef declarator isDeclarator).settled h.owned
    (mem_assemblies isTypedef isDeclarator)

variable {workspace : Workspace}

theorem readIn_readTypedefs (owned : workspace.graph.Owned library.assemblies) :
    library.ReadIn (library.readTypedefs workspace).graph :=
  ⟨owned.assembled (readTypedefs_assembled workspace), fun _ _ isTypedef _ isDeclarator =>
    done_readTypedefs isTypedef isDeclarator owned⟩

/-- **The typedefs are read again as before**, in any graph that is reached after that. -/
theorem readTypedefs_again (owned : workspace.graph.Owned library.assemblies)
    (reached : Assembled library.assemblies (library.readTypedefs workspace).graph later) :
    library.readTypedefs (workspace.withGraph later) =
      (library.readTypedefs workspace).withGraph later :=
  Assembled.foldl_again Workspace.graph (·.withGraph later) (fun _ _ => Owned.assembled)
    (fun _ member => readFile_assembled member)
    (fun file member _ => Workspace.readTypedefs_again (assemblies_subset fun _ isDeclaration =>
      List.mem_flatMap.2 ⟨file, member, isDeclaration⟩)) owned reached

/-- What typedef names stand for no longer changes once the typedefs are read. -/
theorem settled_readTypedefs {graph : TypeGraph} {marker : String}
    (owned : graph.Owned library.assemblies) :
    ∀ entry ∈ (library.readTypedefs (.start graph marker)).scope.typedefs.entries,
      (library.readTypedefs (.start graph marker)).graph.Settled library.assemblies entry.2 := by
  have read : library.ReadIn (library.readTypedefs (.start graph marker)).graph :=
    readIn_readTypedefs owned
  generalize (library.readTypedefs (.start graph marker)).graph = final at read
  refine List.foldlRecOn (motive := fun state : Workspace =>
    ∀ entry ∈ state.scope.typedefs.entries, final.Settled library.assemblies entry.2)
    library.files _ (fun _ isEntry => nomatch isEntry) fun state held file isFile => ?_
  refine Workspace.mem_readTypedefs (fun base declarators isTypedef declarator isDeclarator => ?_)
    held
  have isTypedef : .declaration base declarators true ∈ library.allDeclarations :=
    List.mem_flatMap.2 ⟨file, isFile, isTypedef⟩
  have settled := read.settled isTypedef isDeclarator
  cases type : declarator.type with
  | none => exact (read.owned.bases _ (mem_assemblies isTypedef isDeclarator)).settled
  | some id => rwa [type] at settled

end HeaderLibrary

/-! ## Looking for callables -/

/-- The types of a callable no longer change. -/
structure Callable.Settled (graph : TypeGraph) (entries : List Assembly) (callable : Callable) :
    Prop where
  params : ∀ param ∈ callable.params, graph.Settled entries param
  result : graph.Settled entries callable.result

theorem Callable.Settled.assembled {first second : TypeGraph} {entries : List Assembly}
    {callable : Callable} (h : callable.Settled first entries) (owned : first.Owned entries)
    (later : Assembled entries first second) : callable.Settled second entries :=
  ⟨fun param member => (h.params param member).assembled owned later,
    h.result.assembled owned later⟩

namespace TypeGraph

variable {first second graph : TypeGraph} {entries : List Assembly} {type function : TypeRef}

theorem Assembled.prototype?_of_settled (later : Assembled entries first second)
    (owned : first.Owned entries) (settled : first.Settled entries type) :
    second.prototype? type = first.prototype? type := by
  unfold prototype?
  rw [later.at?_of_settled owned settled]

theorem Assembled.callable?_of_settled (later : Assembled entries first second)
    (owned : first.Owned entries) (settled : first.Settled entries function) (name : String)
    (isCallback : Bool) :
    second.callable? name function isCallback = first.callable? name function isCallback := by
  have params : ∀ prototype, second.paramTypes prototype = first.paramTypes prototype :=
    fun prototype => later.filled.shape.paramTypes_eq prototype prototype.result
  unfold callable?
  rw [later.prototype?_of_settled owned settled]
  cases first.prototype? function with
  | none => rfl
  | some prototype => rw [Option.map_some, Option.map_some, params]

theorem Assembled.pointedFunction?_of_settled (later : Assembled entries first second)
    (owned : first.Owned entries) (settled : first.Settled entries type) :
    second.pointedFunction? type = first.pointedFunction? type := by
  apply Option.ext
  intro function
  rw [pointedFunction?_eq_some_iff, pointedFunction?_eq_some_iff,
    later.at?_of_settled owned settled, later.filled.shape.isSome_prototype?]

theorem mem_paramTypes {prototype : Prototype} (member : type ∈ graph.paramTypes prototype) :
    ∃ param ∈ prototype.params, param.type = type := by
  obtain ⟨params, result, variadic⟩ := prototype
  unfold paramTypes at member
  split at member
  · rename_i only isOnly
    split at member
    · cases member
    · refine ⟨only, ?_, (List.mem_singleton.1 member).symm⟩
      rw [isOnly]
      exact List.mem_singleton_self only
  · exact List.mem_map.1 member

theorem slot?_of_prototype? {id : NodeId} {prototype : Prototype}
    (there : graph.prototype? (some id) = some prototype) :
    graph.node? id = some (.function prototype) ∧ graph.slot? id = some prototype.result := by
  unfold prototype? at there
  split at there
  · rename_i node
    cases there
    have node : graph.node? id = some (.function prototype) := node
    refine ⟨node, ?_⟩
    rw [slot?, node]
    rfl
  · cases there

/-- A callable that is made from a settled function has settled types. -/
theorem Settled.callable? (settled : graph.Settled entries function) (owned : graph.Owned entries)
    {name : String} {isCallback : Bool} {callable : Callable}
    (found : graph.callable? name function isCallback = some callable) :
    callable.Settled graph entries := by
  obtain ⟨prototype, there, rfl⟩ := Option.map_eq_some_iff.1 found
  cases function with
  | none => cases there
  | some id =>
    obtain ⟨node, slot⟩ := slot?_of_prototype? there
    refine ⟨fun param member => ?_, settled.next slot⟩
    obtain ⟨given, isGiven, rfl⟩ := mem_paramTypes member
    exact (owned.params id prototype node given isGiven).settled

theorem Settled.pointedFunction? (settled : graph.Settled entries type)
    (pointed : graph.pointedFunction? type = some function) : graph.Settled entries function := by
  obtain ⟨node, -⟩ := pointedFunction?_eq_some_iff.1 pointed
  cases type with
  | none => cases node
  | some id =>
    have node : graph.node? id = some (.pointer function) := node
    have slot : graph.slot? id = some function := by
      rw [slot?, node]
      rfl
    exact settled.next slot

end TypeGraph

namespace CallableScan

def withGraph (scan : CallableScan) (graph : TypeGraph) : CallableScan := { scan with graph }

variable {later : TypeGraph} {library : HeaderLibrary} {scan : CallableScan} {base : TypeRef}
  {declarator : Declarator} {isTypedef : Bool}

theorem addFunction_again (member : (declarator.type, base) ∈ library.assemblies)
    (owned : scan.graph.Owned library.assemblies)
    (reached : Assembled library.assemblies (scan.addFunction base declarator).graph later) :
    (scan.withGraph later).addFunction base declarator =
      (scan.addFunction base declarator).withGraph later := by
  have reached : Assembled library.assemblies
    (scan.graph.assemble declarator.type base).2 later := reached
  have settled := (owned.done_assemble member).settled (owned.assemble member) member
  have there : (scan.withGraph later).graph = later := rfl
  unfold addFunction
  dsimp only
  rw [there, owned.again member reached,
    reached.callable?_of_settled (owned.assemble member) settled]
  rfl

theorem addCallback_again (member : (declarator.type, base) ∈ library.assemblies)
    (owned : scan.graph.Owned library.assemblies) {function : TypeRef}
    (settled : scan.graph.Settled library.assemblies function)
    (reached : Assembled library.assemblies (scan.addCallback base declarator function).graph
      later) :
    (scan.withGraph later).addCallback base declarator function =
      (scan.addCallback base declarator function).withGraph later := by
  have reached : Assembled library.assemblies
    (scan.graph.assemble declarator.type base).2 later := reached
  have settled := settled.assembled owned (.single member scan.graph)
  have there : (scan.withGraph later).graph = later := rfl
  unfold addCallback
  dsimp only
  rw [there, owned.again member reached,
    reached.callable?_of_settled (owned.assemble member) settled]
  rfl

theorem addDeclarator_again (member : (declarator.type, base) ∈ library.assemblies)
    (owned : scan.graph.Owned library.assemblies)
    (read : isTypedef = true → scan.graph.Settled library.assemblies declarator.type)
    (reached : Assembled library.assemblies
      (scan.addDeclarator base isTypedef declarator).graph later) :
    (scan.withGraph later).addDeclarator base isTypedef declarator =
      (scan.addDeclarator base isTypedef declarator).withGraph later := by
  have whole := (addDeclarator_assembled member isTypedef scan).trans reached
  have there : (scan.withGraph later).graph = later := rfl
  unfold addDeclarator at reached ⊢
  rw [there, whole.filled.shape.isSome_prototype?]
  cases isTypedef with
  | false =>
    split
    · rename_i isFunction
      rw [if_pos isFunction] at reached
      exact addFunction_again member owned reached
    · -- A variable declares nothing, whatever it points to.
      cases later.pointedFunction? declarator.type <;>
        cases scan.graph.pointedFunction? declarator.type <;> rfl
  | true =>
    have settled := read rfl
    rw [whole.pointedFunction?_of_settled owned settled]
    split
    · rfl
    · rename_i noFunction
      rw [if_neg noFunction] at reached
      cases pointed : scan.graph.pointedFunction? declarator.type with
      | none => rfl
      | some function =>
        rw [pointed] at reached
        exact addCallback_again member owned (settled.pointedFunction? pointed) reached

theorem addExternal_again {declaration : ExternalDeclaration}
    (isIn : declaration ∈ library.allDeclarations) (read : library.ReadIn scan.graph)
    (reached : Assembled library.assemblies (scan.addExternal declaration).graph later) :
    (scan.withGraph later).addExternal declaration =
      (scan.addExternal declaration).withGraph later := by
  cases declaration with
  | functionBody name function => rfl
  | declaration base declarators isTypedef =>
    have isEntry := fun declarator (isDeclarator : declarator ∈ declarators) =>
      HeaderLibrary.mem_assemblies isIn isDeclarator
    refine Assembled.foldl_again CallableScan.graph (·.withGraph later)
      (fun _ _ => HeaderLibrary.ReadIn.assembled)
      (fun declarator isDeclarator =>
        addDeclarator_assembled (isEntry declarator isDeclarator) isTypedef)
      (fun declarator isDeclarator scan read => ?_) read reached
    refine addDeclarator_again (isEntry declarator isDeclarator) read.owned fun typedef => ?_
    subst typedef
    exact read.settled isIn isDeclarator

/-! ### What is found is settled -/

/-- The types of all callables that were found no longer change. -/
structure Settled (entries : List Assembly) (scan : CallableScan) : Prop where
  functions : ∀ callable ∈ scan.functions, callable.Settled scan.graph entries
  callbacks : ∀ callable ∈ scan.callbacks, callable.Settled scan.graph entries

theorem Settled.start (graph : TypeGraph) (entries : List Assembly) :
    (start graph).Settled entries :=
  ⟨fun _ found => (nomatch found), fun _ found => nomatch found⟩

theorem Settled.addDeclarator (h : scan.Settled library.assemblies)
    (member : (declarator.type, base) ∈ library.assemblies)
    (owned : scan.graph.Owned library.assemblies)
    (read : isTypedef = true → scan.graph.Settled library.assemblies declarator.type) :
    (scan.addDeclarator base isTypedef declarator).Settled library.assemblies := by
  have assembled := Assembled.single member scan.graph
  have owned' := owned.assemble member
  have functions := fun callable isFound => (h.functions callable isFound).assembled owned assembled
  have callbacks := fun callable isFound => (h.callbacks callable isFound).assembled owned assembled
  have found : ∀ {function : TypeRef} {isCallback : Bool},
      (scan.graph.assemble declarator.type base).2.Settled library.assemblies function →
      ∀ callable ∈ ((scan.graph.assemble declarator.type base).2.callable? declarator.name
        function isCallback).toList,
        callable.Settled (scan.graph.assemble declarator.type base).2 library.assemblies :=
    fun settled callable isFound => settled.callable? owned' (Option.mem_toList.1 isFound)
  unfold CallableScan.addDeclarator
  split
  · split
    · exact h
    · have settled := (owned.done_assemble member).settled owned' member
      refine ⟨fun callable isFound => ?_, callbacks⟩
      exact (List.mem_append.1 isFound).elim (functions callable) (found settled callable)
  · split
    · rename_i function pointed
      split
      · rename_i typedef
        have settled := ((read typedef).pointedFunction? pointed).assembled owned assembled
        refine ⟨functions, fun callable isFound => ?_⟩
        exact (List.mem_append.1 isFound).elim (callbacks callable) (found settled callable)
      · exact h
    · exact h

theorem Settled.addExternal {declaration : ExternalDeclaration}
    (isIn : declaration ∈ library.allDeclarations) (read : library.ReadIn scan.graph)
    (h : scan.Settled library.assemblies) :
    library.ReadIn (scan.addExternal declaration).graph ∧
      (scan.addExternal declaration).Settled library.assemblies := by
  cases declaration with
  | functionBody name function => exact ⟨read, h⟩
  | declaration base declarators isTypedef =>
    refine List.foldlRecOn (motive := fun scan : CallableScan =>
      library.ReadIn scan.graph ∧ scan.Settled library.assemblies) declarators _ ⟨read, h⟩
        fun scan both declarator isDeclarator => ?_
    obtain ⟨read, h⟩ := both
    have member := HeaderLibrary.mem_assemblies isIn isDeclarator
    refine ⟨read.assembled (addDeclarator_assembled member isTypedef scan),
      h.addDeclarator member read.owned fun typedef => ?_⟩
    subst typedef
    exact read.settled isIn isDeclarator

end CallableScan

namespace HeaderLibrary

variable {library : HeaderLibrary} {scope : Scope} {later : TypeGraph}

/-- **The same callables are found again**, in any graph that is reached after they were found
first. -/
theorem scan_again (read : library.ReadIn scope.graph) {header : String}
    (reached : Assembled library.assemblies (library.scan scope header).graph later) :
    library.scan { scope with graph := later } header =
      (library.scan scope header).withGraph later :=
  Assembled.foldl_again CallableScan.graph (·.withGraph later) (fun _ _ => ReadIn.assembled)
    (fun _ isIn scan => scan.addExternal_assembled (fun _ isEntry => List.mem_flatMap.2
      ⟨_, declarations_subset header isIn, isEntry⟩))
    (fun _ isIn _ => CallableScan.addExternal_again (declarations_subset header isIn))
    read reached

/-- The types of the callables that are found in a header no longer change. -/
theorem settled_scan (read : library.ReadIn scope.graph) (header : String) :
    (library.scan scope header).Settled library.assemblies := by
  have both : library.ReadIn (library.scan scope header).graph ∧
      (library.scan scope header).Settled library.assemblies :=
    List.foldlRecOn (motive := fun scan : CallableScan =>
      library.ReadIn scan.graph ∧ scan.Settled library.assemblies) (library.declarations header)
        CallableScan.addExternal (And.intro read (.start scope.graph library.assemblies))
          fun _ both _ isIn => both.2.addExternal (declarations_subset header isIn) both.1
  exact both.2

end HeaderLibrary

end HeaderBind
