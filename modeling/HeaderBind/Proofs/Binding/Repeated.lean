/-
# HeaderBind.Proofs.Binding.Repeated — a second run gives what the first one gave

A run assembles the types of typedefs and of the prototypes in its headers, so a second run
over the same declarations starts from another graph: the one that the first run left.  If
the open slots belong to declarators, this makes no difference (`bind_repeated`).  The second run
reads the same typedefs, finds the same callables in each header, and binds them by the same
computations; what it does not assemble again it finds assembled.
-/
import HeaderBind.Proofs.Declaration.Again
import HeaderBind.Proofs.Run.Seen

namespace HeaderBind

set_option autoImplicit false

open Outcome TypeGraph

/-! ## Types that no longer change are seen alike -/

namespace HeaderLibrary

/-- The typedefs were read, and what they stand for no longer changes. -/
structure Settles (library : HeaderLibrary) (scope : Scope) : Prop where
  read : library.ReadIn scope.graph
  meanings : ∀ entry ∈ scope.typedefs.entries, scope.graph.Settled library.assemblies entry.2

variable {library : HeaderLibrary} {scope : Scope} {later : TypeGraph}

theorem Settles.assembled (h : library.Settles scope)
    (reached : Assembled library.assemblies scope.graph later) :
    library.Settles { scope with graph := later } :=
  ⟨h.read.assembled reached,
    fun entry isEntry => (h.meanings entry isEntry).assembled h.read.owned reached⟩

/-- A later graph looks the same to whoever sees settled types only. -/
theorem Settles.sameSeen (h : library.Settles scope)
    (reached : Assembled library.assemblies scope.graph later) :
    scope.SameSeen { scope with graph := later } (scope.graph.Settled library.assemblies) where
  shape := ⟨reached.filled.shape, rfl⟩
  size := reached.size_eq
  node _ settled := reached.node?_of_settled h.read.owned settled
  slot _ _ settled slot := settled.next slot
  params id prototype node param member :=
    (h.read.owned.params id prototype node param member).settled
  members record members held member isMember :=
    (h.read.owned.members record members held member isMember).settled
  meanings _ _ means := by
    obtain ⟨name, isEntry⟩ := TypedefTable.mem_of_follow means
    exact h.meanings _ isEntry

end HeaderLibrary

/-! ## Work in two graphs -/

namespace Work

variable {α β : Type} {later : TypeGraph} {workspace : Workspace} {x y : Work α}

/-- The same outcome, in a workspace with another graph. -/
def inGraph (later : TypeGraph) : EStateM.Result Fault Workspace α →
    EStateM.Result Fault Workspace α
  | .ok value workspace => .ok value (workspace.withGraph later)
  | .error fault workspace => .error fault (workspace.withGraph later)

theorem inGraph_left (result : EStateM.Result Fault Workspace α) :
    inGraph (left result).graph result = result := by
  cases result <;> rfl

/-- With the other graph in the workspace, the second computation does what the first one
does, and leaves that graph as it is. -/
def RepeatedIn (later : TypeGraph) (workspace : Workspace) (x y : Work α) : Prop :=
  y.run (workspace.withGraph later) = inGraph later (x.run workspace)

namespace RepeatedIn

theorem pure (a : α) : RepeatedIn later workspace (pure a) (pure a) := rfl

theorem modify {f g : Workspace → Workspace}
    (same : g (workspace.withGraph later) = (f workspace).withGraph later) :
    RepeatedIn later workspace (modify f) (modify g) := by
  show EStateM.Result.ok PUnit.unit (g (workspace.withGraph later)) = _
  rw [same]
  rfl

theorem bind {f g : α → Work β} (one : RepeatedIn later workspace x y)
    (rest : ∀ a middle, x.run workspace = .ok a middle → RepeatedIn later middle (f a) (g a)) :
    RepeatedIn later workspace (x >>= f) (y >>= g) := by
  unfold RepeatedIn at one ⊢
  rw [EStateM.run_bind, EStateM.run_bind, one]
  cases run : x.run workspace with
  | ok a middle => exact rest a middle run
  | error fault after => rfl

theorem inScope {computation other : Scope → Run α}
    (same : other { workspace.scope with graph := later } = computation workspace.scope) :
    RepeatedIn later workspace (inScope computation) (inScope other) := by
  have scope : (workspace.withGraph later).scope = { workspace.scope with graph := later } := rfl
  have ledger : (workspace.withGraph later).ledger = workspace.ledger := rfl
  show Work.inScope other (workspace.withGraph later) =
    inGraph later (Work.inScope computation workspace)
  unfold Work.inScope
  rw [scope, ledger, same]
  cases (computation workspace.scope).run workspace.ledger with
  | ok value after => rfl
  | error fault after => rfl

/-- Nothing is different in the graph that the workspace has and keeps. -/
theorem of_kept (keeps : (left (x.run workspace)).graph = workspace.graph) :
    RepeatedIn workspace.graph workspace x x := by
  have here : workspace.withGraph workspace.graph = workspace := rfl
  unfold RepeatedIn
  rw [here, ← keeps, inGraph_left]

/-- A computation that is repeated in the graph that it left. -/
theorem run_eq (h : RepeatedIn (left (x.run workspace)).graph workspace x y) :
    y.run (workspace.withGraph (left (x.run workspace)).graph) = x.run workspace := by
  unfold RepeatedIn at h
  rw [h, inGraph_left]

end RepeatedIn

end Work

/-! ## Headers -/

namespace Workspace

/-- The types and the typedefs are the same. -/
def SameScope (earlier later : Workspace) : Prop := later.scope = earlier.scope

instance : Std.Refl SameScope := ⟨fun _ => rfl⟩

instance : IsTrans Workspace SameScope := ⟨fun _ _ _ one two => Eq.trans two one⟩

/-- Declared types were assembled, and nothing else was done to the graph. -/
def Assembles (entries : List Assembly) (earlier later : Workspace) : Prop :=
  Assembled entries earlier.graph later.graph

instance (entries : List Assembly) : Std.Refl (Assembles entries) := ⟨fun _ => .refl _⟩

instance (entries : List Assembly) : IsTrans Workspace (Assembles entries) :=
  ⟨fun _ _ _ one two => Assembled.trans one two⟩

end Workspace

theorem Work.inScope_sameScope {α : Type} (computation : Scope → Run α) :
    Keeps Workspace.SameScope (Work.inScope computation) := by
  intro workspace
  show (left (Work.inScope computation workspace)).scope = workspace.scope
  unfold Work.inScope
  split <;> rfl

namespace HeaderLibrary

variable {library : HeaderLibrary} {skipUnsupported : Bool} {later : TypeGraph}
  {workspace : Workspace} {header : String}

/-- Binds what was found in a header. -/
def bindScanned (skipUnsupported : Bool) (header : String) (scan : CallableScan) :
    Work BoundHeader := do
  modify fun workspace => workspace.afterScan header scan
  let callbacks ← Work.inScope fun scope => scope.bindAll skipUnsupported scan.callbacks
  let functions ← Work.inScope fun scope => scope.bindAll skipUnsupported scan.functions
  return ⟨header, callbacks, functions⟩

theorem run_bindHeader (library : HeaderLibrary) (skipUnsupported : Bool) (header : String)
    (workspace : Workspace) :
    (library.bindHeader skipUnsupported header).run workspace =
      (bindScanned skipUnsupported header (library.scan workspace.scope header)).run workspace :=
  rfl

/-- However the binding of a header ends, the scope is that of its scan. -/
theorem scope_bindHeader (library : HeaderLibrary) (skipUnsupported : Bool) (header : String)
    (workspace : Workspace) :
    (left ((library.bindHeader skipUnsupported header).run workspace)).scope =
      library.scanScope workspace.scope header := by
  have rest : ∀ scan : CallableScan, Keeps Workspace.SameScope (do
      let callbacks ← Work.inScope fun scope => scope.bindAll skipUnsupported scan.callbacks
      let functions ← Work.inScope fun scope => scope.bindAll skipUnsupported scan.functions
      return (⟨header, callbacks, functions⟩ : BoundHeader)) := fun _ =>
    (Work.inScope_sameScope _).bind fun _ => (Work.inScope_sameScope _).bind fun _ => .pure _
  exact rest (library.scan workspace.scope header)
    (workspace.afterScan header (library.scan workspace.scope header))

theorem bindHeader_assembles (library : HeaderLibrary) (skipUnsupported : Bool)
    (header : String) :
    Keeps (Workspace.Assembles library.assemblies) (library.bindHeader skipUnsupported header) := by
  intro workspace
  show Assembled library.assemblies workspace.graph _
  rw [Workspace.graph, Workspace.graph, scope_bindHeader]
  exact library.scan_assembled workspace.scope header

/-- A header is bound again as before, in any graph that is reached after that. -/
theorem bindHeader_repeated (settles : library.Settles workspace.scope)
    (reached : Assembled library.assemblies
      (left ((library.bindHeader skipUnsupported header).run workspace)).graph later) :
    Work.RepeatedIn later workspace (library.bindHeader skipUnsupported header)
      (library.bindHeader skipUnsupported header) := by
  rw [Workspace.graph, scope_bindHeader] at reached
  have settled := settled_scan settles.read header
  have seen := (settles.assembled (library.scan_assembled workspace.scope header)).sameSeen reached
  have again : library.scan (workspace.withGraph later).scope header =
      (library.scan workspace.scope header).withGraph later := scan_again settles.read reached
  unfold Work.RepeatedIn
  rw [run_bindHeader, run_bindHeader, again]
  generalize library.scan workspace.scope header = scan at *
  show Work.RepeatedIn later workspace (bindScanned skipUnsupported header scan)
    (bindScanned skipUnsupported header (scan.withGraph later))
  refine (Work.RepeatedIn.modify rfl).bind fun _ noted isNoted => ?_
  cases isNoted
  refine (Work.RepeatedIn.inScope ?_).bind fun callbacks middle bound => ?_
  · exact seen.bindAll_eq (fun callable isFound =>
      ⟨(settled.callbacks callable isFound).params, (settled.callbacks callable isFound).result⟩)
      skipUnsupported
  · have same := (Work.inScope_sameScope _).ok bound
    refine (Work.RepeatedIn.inScope ?_).bind fun functions last _ => .pure _
    rw [same]
    exact seen.bindAll_eq (fun callable isFound =>
      ⟨(settled.functions callable isFound).params, (settled.functions callable isFound).result⟩)
      skipUnsupported

/-- One header after the other: each is bound again in the graph that all of them lead to. -/
theorem mapM_bindHeader_repeated {headers : List String} (settles : library.Settles workspace.scope)
    (reached : Assembled library.assemblies
      (left ((headers.mapM (library.bindHeader skipUnsupported)).run workspace)).graph later) :
    Work.RepeatedIn later workspace (headers.mapM (library.bindHeader skipUnsupported))
      (headers.mapM (library.bindHeader skipUnsupported)) := by
  induction headers generalizing workspace with
  | nil => exact .pure []
  | cons header headers ih =>
    have last : ∀ (bound : BoundHeader) (rest : List BoundHeader),
        Keeps (Workspace.Assembles library.assemblies) (pure (bound :: rest) : Work _) :=
      fun _ _ => .pure _
    have others : ∀ bound, Keeps (Workspace.Assembles library.assemblies) (do
        let rest ← headers.mapM (library.bindHeader skipUnsupported)
        pure (bound :: rest)) := fun bound =>
      (Keeps.mapM fun header _ => library.bindHeader_assembles skipUnsupported header).bind
        (last bound)
    rw [List.mapM_cons] at reached ⊢
    refine (bindHeader_repeated settles ((Keeps.left_bind others workspace).trans reached)).bind
      fun bound middle done => ?_
    have scope : middle.scope = library.scanScope workspace.scope header := by
      rw [← scope_bindHeader library skipUnsupported header workspace, done]
      rfl
    have settles : library.Settles middle.scope := by
      rw [scope]
      exact settles.assembled (library.scan_assembled workspace.scope header)
    rw [EStateM.run_bind, done] at reached
    exact (ih settles ((Keeps.left_bind (last bound) middle).trans reached)).bind
      fun rest _ _ => .pure _

theorem bindHeaders_repeated {graph : TypeGraph} {marker : String}
    (owned : graph.Owned library.assemblies)
    (reached : Assembled library.assemblies
      (left ((library.bindHeaders skipUnsupported).run (.start graph marker))).graph later) :
    Work.RepeatedIn later (.start graph marker) (library.bindHeaders skipUnsupported)
      (library.bindHeaders skipUnsupported) := by
  have settles : library.Settles (library.readTypedefs (.start graph marker)).scope :=
    ⟨readIn_readTypedefs owned, settled_readTypedefs owned⟩
  have headers : Keeps (Workspace.Assembles library.assemblies)
      (library.headers.mapM (library.bindHeader skipUnsupported)) :=
    .mapM fun header _ => library.bindHeader_assembles skipUnsupported header
  have reached' : Assembled library.assemblies (left ((library.headers.mapM
      (library.bindHeader skipUnsupported)).run
        (library.readTypedefs (.start graph marker)))).graph later := reached
  refine Work.RepeatedIn.bind (.modify ?_) fun _ read isRead => ?_
  · exact readTypedefs_again owned ((headers _).trans reached')
  · cases isRead
    exact mapM_bindHeader_repeated settles reached'

/-! ## The whole run -/

/-- **Runs are repeatable.**  A second run over the same declarations starts from the graph that
the first run left, with the slots filled that the first one filled.  If the open slots belong
to declarators, it has the same outcome: the same bindings, or the same fault, with the same
needs, names, skipped callables and messages. -/
theorem bind_repeated {graph : TypeGraph} {marker : String}
    (owned : graph.Owned library.assemblies) :
    (library.bind skipUnsupported).run (.start
      (left ((library.bind skipUnsupported).run (.start graph marker))).graph marker) =
    (library.bind skipUnsupported).run (.start graph marker) := by
  have tail : ∀ bound : List BoundHeader, Keeps Workspace.SameScope (do
      let enums ← Work.inScope Scope.bindEnums
      let records ← Work.inScope Scope.bindRecords
      return (⟨enums, records, bound.map BoundHeader.toBindings⟩ : Bindings)) := fun _ =>
    (Work.inScope_sameScope _).bind fun _ => (Work.inScope_sameScope _).bind fun _ => .pure _
  refine Work.RepeatedIn.run_eq ?_
  have same : (left ((library.bind skipUnsupported).run (.start graph marker))).scope =
      (left ((library.bindHeaders skipUnsupported).run (.start graph marker))).scope :=
    Keeps.left_bind tail _
  rw [Workspace.graph, same]
  refine (bindHeaders_repeated owned (.refl _)).bind fun bound middle done => ?_
  -- The needed types are bound in the graph that the first run leaves.
  rw [done]
  exact Work.RepeatedIn.of_kept (congrArg Scope.graph (tail bound middle))

end HeaderLibrary

/-- The types of two headers before any run: the functions have no result yet, and the typedef
points to nothing. -/
def boardTypes : TypeGraph := ⟨#[
  .builtin "int",
  .function ⟨[], none, false⟩,
  .pointer none,
  .typedefName "cursor",
  .function ⟨[⟨none, some ⟨3⟩⟩], none, false⟩,
  .uncovered "int[4]",
  .function ⟨[⟨none, some ⟨5⟩⟩], none, false⟩]⟩

/-- A typedef and a function that takes it, and a header with two more functions. -/
def boardLibrary : HeaderLibrary where
  headers := ["cursor.h", "board.h"]
  files := [
    ("cursor.h", [
      .declaration (some ⟨0⟩) [⟨"cursor", some ⟨2⟩⟩] true,
      .declaration (some ⟨0⟩) [⟨"move", some ⟨4⟩⟩] false]),
    ("board.h", [.declaration (some ⟨0⟩) [⟨"poll", some ⟨1⟩⟩, ⟨"fill", some ⟨6⟩⟩] false])]

/-- The first run puts `int` where the types were open, and skips the function that takes an
array. -/
theorem bind_repeated_board :
    boardTypes.Owned boardLibrary.assemblies ∧
    (left ((boardLibrary.bind true).run (.start boardTypes "va"))).graph ≠ boardTypes ∧
    (left ((boardLibrary.bind true).run (.start boardTypes "va"))).ledger.skipped = ["fill"] ∧
    (boardLibrary.bind true).run (.start
      (left ((boardLibrary.bind true).run (.start boardTypes "va"))).graph "va") =
    (boardLibrary.bind true).run (.start boardTypes "va") := by
  have owned : boardTypes.Owned boardLibrary.assemblies :=
    owned_of_based (by decide) (by decide)
  have filled : ((left ((boardLibrary.bind true).run (.start boardTypes "va"))).graph.node? ⟨2⟩ =
      some (.pointer (some ⟨0⟩))) := by decide +kernel
  refine ⟨owned, fun same => ?_, by decide +kernel, HeaderLibrary.bind_repeated owned⟩
  rw [same] at filled
  revert filled
  decide

end HeaderBind
