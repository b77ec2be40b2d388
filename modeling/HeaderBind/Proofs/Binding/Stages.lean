/-
# HeaderBind.Proofs.Binding.Stages — the stages of a run that gives bindings

A run that gives bindings is taken apart into the computations it consists of, once,
for everything that is proved about such runs: a callable is bound or it is skipped
(`bindOrSkip_ok`), a header is scanned and then its callbacks and functions are bound
in the scope of that scan (`bindHeader_ok`), and in the end the needed types are bound
(`bind_ok`).
-/
import HeaderBind.Binding.Library
import HeaderBind.Proofs.Binding.Kept

namespace HeaderBind

set_option autoImplicit false

open Outcome

namespace Scope

variable {scope : Scope}

/-- What a callable that was left out did to the ledger. -/
structure Skipped (callable : Callable) (earlier later : Ledger) : Prop where
  names : earlier.names.KeptIn later.names
  needs : later.needs = earlier.needs
  skipped : later.skipped = earlier.skipped ++ [callable.name]

theorem Skipped.extends {callable : Callable} {earlier later : Ledger}
    (h : Skipped callable earlier later) : earlier.Extends later :=
  ⟨h.names, fun id needed => by rwa [h.needs]⟩

theorem bindOrSkip_ok {skipUnsupported : Bool} {callable : Callable} {order : Int}
    {ledger after : Ledger} {found : Option CallableBinding}
    (done : (scope.bindOrSkip skipUnsupported callable order).run ledger = .ok found after) :
    (∃ binding, found = some binding ∧
        (scope.bindCallable callable order).run ledger = .ok binding after) ∨
      (found = none ∧ Skipped callable ledger after) := by
  have run : scope.bindOrSkip skipUnsupported callable order ledger = .ok found after := done
  unfold bindOrSkip at run
  split at run
  · rename_i binding _ bound
    cases run
    exact .inl ⟨binding, rfl, bound⟩
  · rename_i fault middle failed
    have grows := (scope.bindCallable_grows callable order).error failed
    split at run
    · cases run
      exact .inr ⟨rfl, grows.names, rfl, by rw [← grows.skipped]⟩
    · cases run

/-- A callable is skipped for a fault of its own, and the names that it gave until then
stay. -/
theorem bindOrSkip_skipped {skipUnsupported : Bool} {callable : Callable} {order : Int}
    {ledger after : Ledger}
    (done : (scope.bindOrSkip skipUnsupported callable order).run ledger = .ok none after) :
    ∃ fault middle, (scope.bindCallable callable order).run ledger = .error fault middle ∧
      after.names = middle.names := by
  have run : scope.bindOrSkip skipUnsupported callable order ledger = .ok none after := done
  unfold bindOrSkip at run
  split at run
  · cases run
  · rename_i fault middle failed
    split at run
    · cases run
      exact ⟨_, middle, failed, rfl⟩
    · cases run

/-- Only a fault of the callable itself ends the run. -/
theorem bindOrSkip_error {skipUnsupported : Bool} {callable : Callable} {order : Int}
    {ledger after : Ledger} {fault : Fault}
    (failed : (scope.bindOrSkip skipUnsupported callable order).run ledger = .error fault after) :
    (scope.bindCallable callable order).run ledger = .error fault after := by
  have run : scope.bindOrSkip skipUnsupported callable order ledger = .error fault after := failed
  unfold bindOrSkip at run
  split at run
  · cases run
  · rename_i bound
    split at run
    · cases run
    · cases run
      exact bound

theorem bindCallable_ok {callable : Callable} {order : Int} {ledger after : Ledger}
    {binding : CallableBinding}
    (done : (scope.bindCallable callable order).run ledger = .ok binding after) :
    ∃ params middle,
      (callable.params.mapM fun param => scope.neededFfiType param callable.name).run ledger =
        .ok params middle ∧
      (scope.neededFfiType callable.result callable.name).run middle =
        .ok binding.result after ∧
      binding.params = (if callable.variadic then params ++ [.varargs] else params) ∧
      binding.order = order := by
  obtain ⟨params, middle, one, rest⟩ := bind_ok_iff.1 done
  obtain ⟨result, later, two, last⟩ := bind_ok_iff.1 rest
  obtain ⟨rfl, rfl⟩ := pure_ok_iff.1 last
  exact ⟨params, middle, one, two, rfl, rfl⟩

theorem bindAll_ok {skipUnsupported : Bool} {callables : List Callable} {ledger after : Ledger}
    {bindings : List CallableBinding}
    (done : (scope.bindAll skipUnsupported callables).run ledger = .ok bindings after) :
    ∃ found : List (Option CallableBinding), bindings = found.filterMap id ∧
      (callables.zipIdx.mapM fun place =>
        scope.bindOrSkip skipUnsupported place.1 place.2).run ledger = .ok found after := by
  obtain ⟨found, middle, each, last⟩ := bind_ok_iff.1 done
  obtain ⟨rfl, rfl⟩ := pure_ok_iff.1 last
  exact ⟨found, rfl, each⟩

end Scope

/-! ## Workspaces -/

theorem Work.inScope_ok_iff {α : Type} {computation : Scope → Run α}
    {workspace after : Workspace} {value : α} :
    (Work.inScope computation).run workspace = .ok value after ↔
      ∃ ledger, (computation workspace.scope).run workspace.ledger = .ok value ledger ∧
        after = { workspace with ledger } := by
  simp only [Work.inScope, EStateM.run]
  cases computation workspace.scope workspace.ledger with
  | ok other ledger =>
    constructor
    · intro same
      cases same
      exact ⟨ledger, rfl, rfl⟩
    · rintro ⟨_, same, rfl⟩
      cases same
      rfl
  | error fault ledger => simp

namespace Workspace

theorem declareTypedef_onlyNames (workspace : Workspace) (name : String) (type : TypeRef) :
    workspace.ledger.OnlyNames (workspace.declareTypedef name type).ledger := by
  have named : workspace.ledger.OnlyNames (workspace.nameByTypedef name type).ledger := by
    unfold nameByTypedef
    split
    · exact Std.Refl.refl _
    · split
      · exact ⟨workspace.ledger.names.keptIn_give _ name, rfl, rfl⟩
      · exact Std.Refl.refl _
  unfold declareTypedef
  split
  · exact ⟨.refl _, rfl, rfl⟩
  · exact ⟨named.names, named.needs, named.skipped⟩

/-- What is done to the ledger gives names and no more. -/
def OnlyNames (earlier later : Workspace) : Prop := earlier.ledger.OnlyNames later.ledger

section Reads

variable {R : Workspace → Workspace → Prop} (refl : ∀ workspace, R workspace workspace)
  (trans : ∀ {first second third}, R first second → R second third → R first third)
  (assembles : ∀ workspace graph, R workspace (workspace.withGraph graph))
  (declares : ∀ workspace name type, R workspace (workspace.declareTypedef name type))

include refl trans assembles declares

/-- Reading typedefs is to assemble types and to declare typedefs. -/
theorem readExternal_related (workspace : Workspace) (declaration : ExternalDeclaration) :
    R workspace (workspace.readExternal declaration) := by
  cases declaration with
  | functionBody name function => exact refl workspace
  | declaration base declarators isTypedef =>
    cases isTypedef with
    | false => exact refl workspace
    | true =>
      refine foldl_related R refl trans (fun workspace declarator => ?_) declarators workspace
      exact trans (assembles workspace _) (declares _ declarator.name _)

theorem readTypedefs_related (workspace : Workspace) (declarations : List ExternalDeclaration) :
    R workspace (workspace.readTypedefs declarations) :=
  foldl_related R refl trans (readExternal_related refl trans assembles declares) declarations
    workspace

end Reads

theorem readTypedefs_onlyNames (workspace : Workspace)
    (declarations : List ExternalDeclaration) :
    OnlyNames workspace (workspace.readTypedefs declarations) :=
  readTypedefs_related (R := OnlyNames) (fun workspace => Std.Refl.refl workspace.ledger)
    (fun one two => IsTrans.trans (r := Ledger.OnlyNames) _ _ _ one two)
    (fun workspace _ => Std.Refl.refl workspace.ledger) declareTypedef_onlyNames workspace
    declarations

/-- Typedefs give names that are written, so none is numbered. -/
theorem numbered_declareTypedef (workspace : Workspace) (name : String) (type : TypeRef) :
    (workspace.declareTypedef name type).ledger.names.numbered =
      workspace.ledger.names.numbered := by
  have named : (workspace.nameByTypedef name type).ledger.names.numbered =
      workspace.ledger.names.numbered := by
    unfold nameByTypedef
    split
    · rfl
    · split
      · exact workspace.ledger.names.numbered_give _ name
      · rfl
  unfold declareTypedef
  split
  · rfl
  · exact named

theorem numbered_readTypedefs (workspace : Workspace) (declarations : List ExternalDeclaration) :
    (workspace.readTypedefs declarations).ledger.names.numbered =
      workspace.ledger.names.numbered :=
  readTypedefs_related
    (R := fun earlier later => later.ledger.names.numbered = earlier.ledger.names.numbered)
    (fun _ => rfl) (fun one two => two.trans one) (fun _ _ => rfl) numbered_declareTypedef
    workspace declarations

end Workspace

namespace HeaderLibrary

variable (library : HeaderLibrary)

/-- Reading typedefs gives names and no more. -/
theorem readTypedefs_onlyNames (workspace : Workspace) :
    workspace.OnlyNames (library.readTypedefs workspace) := by
  refine foldl_related Workspace.OnlyNames (fun workspace => Std.Refl.refl workspace.ledger)
    (fun one two => IsTrans.trans (r := Ledger.OnlyNames) _ _ _ one two)
    (fun workspace file => ?_) library.files workspace
  exact workspace.readTypedefs_onlyNames file.2

theorem numbered_readTypedefs (workspace : Workspace) :
    (library.readTypedefs workspace).ledger.names.numbered =
      workspace.ledger.names.numbered := by
  refine foldl_related
    (fun earlier later : Workspace =>
      later.ledger.names.numbered = earlier.ledger.names.numbered)
    (fun _ => rfl) (fun one two => two.trans one) (fun workspace file => ?_) library.files workspace
  exact workspace.numbered_readTypedefs file.2

/-- The callables that are found in a header. -/
def scan (scope : Scope) (header : String) : CallableScan :=
  scope.graph.scanCallables (library.declarations header)

/-- The scope in which the callables of a header are bound: finding them assembles types. -/
def scanScope (scope : Scope) (header : String) : Scope :=
  { scope with graph := (library.scan scope header).graph }

theorem sameShape_scanScope (scope : Scope) (header : String) :
    scope.SameShape (library.scanScope scope header) :=
  ⟨TypeGraph.sameShape_scanCallables scope.graph (library.declarations header), rfl⟩

variable {library}

theorem bindHeader_ok {skipUnsupported : Bool} {header : String} {workspace after : Workspace}
    {bound : BoundHeader}
    (done : (library.bindHeader skipUnsupported header).run workspace = .ok bound after) :
    ∃ middle,
      ((library.scanScope workspace.scope header).bindAll skipUnsupported
        (library.scan workspace.scope header).callbacks).run
          (workspace.afterScan header (library.scan workspace.scope header)).ledger =
            .ok bound.callbacks middle ∧
      ((library.scanScope workspace.scope header).bindAll skipUnsupported
        (library.scan workspace.scope header).functions).run middle =
          .ok bound.functions after.ledger ∧
      after.scope = library.scanScope workspace.scope header ∧ bound.header = header := by
  unfold bindHeader at done
  obtain ⟨same, start, read, done⟩ := bind_ok_iff.1 done
  cases read
  obtain ⟨⟨⟩, scanned, noted, done⟩ := bind_ok_iff.1 done
  cases noted
  obtain ⟨callbacks, first, one, done⟩ := bind_ok_iff.1 done
  obtain ⟨middle, callbacks, rfl⟩ := Work.inScope_ok_iff.1 one
  obtain ⟨functions, second, two, done⟩ := bind_ok_iff.1 done
  obtain ⟨last, functions, rfl⟩ := Work.inScope_ok_iff.1 two
  obtain ⟨rfl, rfl⟩ := pure_ok_iff.1 done
  exact ⟨middle, callbacks, functions, rfl, rfl⟩

theorem bindHeaders_ok {skipUnsupported : Bool} {workspace after : Workspace}
    {bound : List BoundHeader}
    (done : (library.bindHeaders skipUnsupported).run workspace = .ok bound after) :
    (library.headers.mapM (library.bindHeader skipUnsupported)).run
      (library.readTypedefs workspace) = .ok bound after := by
  obtain ⟨⟨⟩, read, typedefs, done⟩ := bind_ok_iff.1 done
  cases typedefs
  exact done

/-- Binding the needed types leaves them, and the typedefs, as they are. -/
theorem bind_stages {skipUnsupported : Bool} {workspace after : Workspace} {bindings : Bindings}
    (done : (library.bind skipUnsupported).run workspace = .ok bindings after) :
    ∃ bound middle ledger,
      (library.bindHeaders skipUnsupported).run workspace = .ok bound middle ∧
      middle.scope.bindEnums.run middle.ledger = .ok bindings.enums ledger ∧
      middle.scope.bindRecords.run ledger = .ok bindings.records after.ledger ∧
      bindings.headers = bound.map BoundHeader.toBindings ∧ after.scope = middle.scope := by
  unfold bind at done
  obtain ⟨bound, middle, headers, done⟩ := bind_ok_iff.1 done
  obtain ⟨enums, second, one, done⟩ := bind_ok_iff.1 done
  obtain ⟨ledger, enums, rfl⟩ := Work.inScope_ok_iff.1 one
  obtain ⟨records, third, two, done⟩ := bind_ok_iff.1 done
  obtain ⟨last, records, rfl⟩ := Work.inScope_ok_iff.1 two
  obtain ⟨rfl, rfl⟩ := pure_ok_iff.1 done
  exact ⟨bound, middle, ledger, headers, enums, records, rfl, rfl⟩

theorem bind_ok {skipUnsupported : Bool} {workspace after : Workspace} {bindings : Bindings}
    (done : (library.bind skipUnsupported).run workspace = .ok bindings after) :
    ∃ bound middle ledger,
      (library.bindHeaders skipUnsupported).run workspace = .ok bound middle ∧
      middle.scope.bindEnums.run middle.ledger = .ok bindings.enums ledger ∧
      middle.scope.bindRecords.run ledger = .ok bindings.records after.ledger ∧
      bindings.headers = bound.map BoundHeader.toBindings := by
  obtain ⟨bound, middle, ledger, headers, enums, records, same, -⟩ := bind_stages done
  exact ⟨bound, middle, ledger, headers, enums, records, same⟩

end HeaderLibrary

end HeaderBind
