/-
# HeaderBind.Proofs.TypeName.Decided — the name of a type is decided once

Typedefs, members written in place, questions for a name and numbered fallbacks all write to
one table of names.  Whatever is done to it, in any order and whether or not it ends with a
fault, a type keeps the name that was answered first, and a name of its own is always the
answer (`names_decided`).  Reading the typedefs of a library comes before every question, so
there a type without a name of its own has the name of its first typedef, and every
definition, field, parameter and result tells that name.
-/
import HeaderBind.Proofs.Binding.Described
import HeaderBind.Proofs.Binding.Once
import HeaderBind.Proofs.Typedef.Declared

namespace HeaderBind

set_option autoImplicit false

open Outcome

/-! ## What may be done to the names -/

/-- One thing that may be done with the names and typedefs of a run. -/
inductive NamingStep where
  | declareTypedef (name : String) (type : TypeRef)
  | readTypedefs (declarations : List ExternalDeclaration)
  | giveName (id : NodeId) (name : String)
  | askName (id : NodeId)
  | need (type : TypeRef) (user : String) (viaPointer : Bool)
  | needMembers (record : NodeId) (user : String)
  | neededFfiType (type : TypeRef) (user : String)
  | knownFfiType (type : TypeRef) (user : String)
  | bindEnums
  | bindRecords
  /-- Another table of needs is used from now on. -/
  | useNeeds (needs : NeedTable)

namespace NamingStep

/-- The step as a computation; what it gives is left aside. -/
def work : NamingStep → Work Unit
  | declareTypedef name type => modify fun workspace => workspace.declareTypedef name type
  | readTypedefs declarations => modify fun workspace => workspace.readTypedefs declarations
  | giveName id name => do let _ ← Work.inScope fun _ => Run.giveName id name
  | askName id => do let _ ← Work.inScope fun scope => scope.nameFor id
  | need type user viaPointer => Work.inScope fun scope => scope.need type user viaPointer
  | needMembers record user => Work.inScope fun scope => scope.needMembers record user
  | neededFfiType type user => do let _ ← Work.inScope fun scope => scope.neededFfiType type user
  | knownFfiType type user => do let _ ← Work.inScope fun scope => scope.knownFfiType type user
  | bindEnums => do let _ ← Work.inScope fun scope => scope.bindEnums
  | bindRecords => do let _ ← Work.inScope fun scope => scope.bindRecords
  | useNeeds needs => modify fun workspace =>
      { workspace with ledger := { workspace.ledger with needs } }

end NamingStep

namespace Workspace

/-- The workspace after a step, whether or not it ended with a fault. -/
def perform (workspace : Workspace) (step : NamingStep) : Workspace :=
  left (step.work.run workspace)

def performAll (workspace : Workspace) (steps : List NamingStep) : Workspace :=
  steps.foldl perform workspace

/-- To ask for the name of a type is to get this name. -/
def Answers (workspace : Workspace) (id : NodeId) (name : String) : Prop :=
  ∃ after, (workspace.scope.nameFor id).run workspace.ledger = .ok name after

/-! ## Names stay -/

/-- The types kept their shape, and every name stayed. -/
structure KeepsNames (earlier later : Workspace) : Prop where
  graph : earlier.scope.graph.SameShape later.scope.graph
  names : earlier.ledger.names.KeptIn later.ledger.names

instance : Std.Refl KeepsNames := ⟨fun _ => ⟨.refl _, .refl _⟩⟩

instance : IsTrans Workspace KeepsNames :=
  ⟨fun _ _ _ one two => ⟨one.graph.trans two.graph, one.names.trans two.names⟩⟩

theorem inScope_keepsNames {α : Type} {computation : Scope → Run α}
    (names : ∀ scope, Keeps (fun first second => first.names.KeptIn second.names)
      (computation scope)) : Keeps KeepsNames (Work.inScope computation) := by
  intro workspace
  have kept := names workspace.scope workspace.ledger
  show KeepsNames workspace (left (Work.inScope computation workspace))
  unfold Work.inScope
  cases run : (computation workspace.scope).run workspace.ledger with
  | ok value ledger =>
    rw [run] at kept
    exact ⟨.refl _, kept⟩
  | error fault ledger =>
    rw [run] at kept
    exact ⟨.refl _, kept⟩

theorem declareTypedef_keepsNames (workspace : Workspace) (name : String) (type : TypeRef) :
    workspace.KeepsNames (workspace.declareTypedef name type) :=
  ⟨(workspace.declareTypedef_declares name type).graph,
    (workspace.declareTypedef_onlyNames name type).names⟩

theorem readTypedefs_keepsNames (workspace : Workspace)
    (declarations : List ExternalDeclaration) :
    workspace.KeepsNames (workspace.readTypedefs declarations) :=
  ⟨(Declares.foldl readExternal_declares declarations workspace).graph,
    (workspace.readTypedefs_onlyNames declarations).names⟩

/-- Whatever is done, and however it ends, names stay. -/
theorem work_keepsNames (step : NamingStep) : Keeps KeepsNames step.work := by
  have only : ∀ {α : Type} {x : Run α}, Keeps Ledger.OnlyNames x →
      Keeps (fun first second => first.names.KeptIn second.names) x :=
    fun kept => kept.mono fun _ _ => Ledger.OnlyNames.names
  have grows : ∀ {α : Type} {x : Run α}, Keeps Ledger.Grows x →
      Keeps (fun first second => first.names.KeptIn second.names) x :=
    fun kept => kept.mono fun _ _ grown => grown.names
  have dropped : ∀ {α : Type} {x : Work α}, Keeps KeepsNames x →
      Keeps KeepsNames (do let _ ← x : Work Unit) :=
    fun kept => kept.bind fun _ => Keeps.pure ()
  cases step with
  | declareTypedef name type =>
    exact Keeps.modify fun workspace => workspace.declareTypedef_keepsNames name type
  | readTypedefs declarations =>
    exact Keeps.modify fun workspace => workspace.readTypedefs_keepsNames declarations
  | giveName id name =>
    exact dropped (inScope_keepsNames fun _ => only (Run.giveName_onlyNames id name))
  | askName id => exact dropped (inScope_keepsNames fun scope => only (scope.nameFor_onlyNames id))
  | need type user viaPointer =>
    exact inScope_keepsNames fun scope => grows (scope.collecting_grows.need user type viaPointer)
  | needMembers record user =>
    exact inScope_keepsNames fun scope => grows (scope.collecting_grows.needMembers user record)
  | neededFfiType type user =>
    exact dropped (inScope_keepsNames fun scope => grows (scope.neededFfiType_grows type user))
  | knownFfiType type user =>
    exact dropped (inScope_keepsNames fun scope => only (scope.knownFfiType_onlyNames type user))
  | bindEnums => exact dropped (inScope_keepsNames fun scope => only scope.bindEnums_onlyNames)
  | bindRecords => exact dropped (inScope_keepsNames fun scope => only scope.bindRecords_onlyNames)
  | useNeeds needs => exact Keeps.modify fun _ => ⟨.refl _, .refl _⟩

theorem performAll_keepsNames (workspace : Workspace) (steps : List NamingStep) :
    workspace.KeepsNames (workspace.performAll steps) :=
  foldl_related KeepsNames (fun _ => Std.Refl.refl _) (fun one two => IsTrans.trans _ _ _ one two)
    (fun workspace step => work_keepsNames step workspace) steps workspace

/-! ## Answers -/

/-- A name that is settled is the answer, and to ask for it changes nothing. -/
theorem answers_of_settled {workspace : Workspace} {id : NodeId} {name : String}
    (settled : workspace.scope.settledName? workspace.ledger.names id = some name) :
    workspace.Answers id name := by
  obtain ⟨type, tagged, named⟩ := Option.bind_eq_some_iff.1 settled
  have unchanged : workspace.ledger.names.nameFor id type = (name, workspace.ledger.names) := by
    unfold NameTable.nameFor
    cases own : type.ownName? with
    | some other =>
      rw [own] at named
      cases named
      rfl
    | none =>
      rw [own, Option.none_or] at named
      rw [named]
  refine ⟨workspace.ledger, ?_⟩
  unfold Scope.nameFor
  rw [tagged]
  show EStateM.Result.ok (workspace.ledger.names.nameFor id type).1
    { workspace.ledger with names := (workspace.ledger.names.nameFor id type).2 } = _
  rw [unchanged]

/-- What is no tagged type has the empty name. -/
theorem answers_untagged {workspace : Workspace} {id : NodeId}
    (untagged : workspace.scope.graph.tagged? id = none) : workspace.Answers id "" := by
  refine ⟨workspace.ledger, ?_⟩
  unfold Scope.nameFor
  rw [untagged]
  rfl

/-- The name that was answered once is answered ever after. -/
theorem Answers.stays {workspace : Workspace} {id : NodeId} {name : String}
    (h : workspace.Answers id name) (steps : List NamingStep) :
    ((workspace.perform (.askName id)).performAll steps).Answers id name := by
  obtain ⟨after, run⟩ := h
  have asked : workspace.perform (.askName id) = { workspace with ledger := after } := by
    show left ((do
      let _ ← Work.inScope fun scope => scope.nameFor id : Work Unit).run workspace) = _
    rw [EStateM.run_bind, Work.inScope_ok_iff.2 ⟨after, run, rfl⟩]
    rfl
  have kept := (workspace.perform (.askName id)).performAll_keepsNames steps
  rw [asked] at kept ⊢
  cases tagged : workspace.scope.graph.tagged? id with
  | none =>
    have empty : name = "" := by
      unfold Scope.nameFor at run
      rw [tagged] at run
      exact (pure_ok_iff.1 run).1
    rw [empty]
    exact answers_untagged ((kept.graph.tagged?_eq id).trans tagged)
  | some type =>
    have settled := workspace.scope.nameFor_settles tagged run
    refine answers_of_settled (Scope.settledName?_kept _ kept.names ?_)
    rw [Scope.settledName?, kept.graph.tagged?_eq]
    exact settled

/-- A name of its own is always the answer. -/
theorem answers_own {workspace : Workspace} {id : NodeId} {type : TaggedType} {own : String}
    (tagged : workspace.scope.graph.tagged? id = some type) (named : type.ownName? = some own)
    (steps : List NamingStep) : (workspace.performAll steps).Answers id own := by
  have kept := workspace.performAll_keepsNames steps
  refine answers_of_settled ?_
  rw [Scope.settledName?, kept.graph.tagged?_eq, tagged, Option.bind_some, named]
  rfl

end Workspace

/-! ## The first typedef of a type -/

/-- The first name, the variadic marker aside, that goes with the type. -/
def firstNamed (entries : List (String × TypeRef)) (marker : String) (id : NodeId) :
    Option String :=
  (entries.find? fun entry => entry.1 ≠ marker ∧ entry.2 = some id).map Prod.fst

theorem firstNamed_append (entries more : List (String × TypeRef)) (marker : String)
    (id : NodeId) :
    firstNamed (entries ++ more) marker id =
      (firstNamed entries marker id).or (firstNamed more marker id) := by
  unfold firstNamed
  rw [List.find?_append]
  cases entries.find? fun entry => entry.1 ≠ marker ∧ entry.2 = some id <;> rfl

/-- The names that a declaration declares as typedefs, each with the type that it gives. -/
def ExternalDeclaration.typedefEntries : ExternalDeclaration → List (String × TypeRef)
  | .declaration base declarators true =>
      declarators.map fun declarator => (declarator.name, declarator.type.or base)
  | .declaration _ _ false => []
  | .functionBody _ _ => []

/-- The name of the first typedef of a type, in the order of files, declarations and
declarators. -/
def HeaderLibrary.firstTypedef? (library : HeaderLibrary) (marker : String) (id : NodeId) :
    Option String :=
  firstNamed ((library.files.flatMap Prod.snd).flatMap ExternalDeclaration.typedefEntries)
    marker id

namespace Workspace

/-- Typedefs were read: a type without a name of its own kept the name it was given, or else
got the first of the entries. -/
structure NamesByTypedef (entries : List (String × TypeRef)) (earlier later : Workspace) :
    Prop where
  graph : earlier.scope.graph.SameShape later.scope.graph
  marker : later.scope.typedefs.marker = earlier.scope.typedefs.marker
  names : ∀ id type, earlier.scope.graph.tagged? id = some type → type.ownName? = none →
    later.ledger.names.find? id = (earlier.ledger.names.find? id).or
      (firstNamed entries earlier.scope.typedefs.marker id)

namespace NamesByTypedef

variable {entries more : List (String × TypeRef)} {first second third : Workspace}

theorem refl (workspace : Workspace) : NamesByTypedef [] workspace workspace :=
  ⟨.refl _, rfl, fun _ _ _ _ => Option.or_none.symm⟩

theorem trans (one : NamesByTypedef entries first second)
    (two : NamesByTypedef more second third) :
    NamesByTypedef (entries ++ more) first third := by
  refine ⟨one.graph.trans two.graph, two.marker.trans one.marker, fun id type tagged unnamed => ?_⟩
  rw [two.names id type ((one.graph.tagged?_eq id).trans tagged) unnamed,
    one.names id type tagged unnamed, one.marker, firstNamed_append, Option.or_assoc]

/-- The entries of a list are those of its elements. -/
theorem foldl {α : Type} {step : Workspace → α → Workspace}
    {entriesOf : α → List (String × TypeRef)}
    (each : ∀ workspace a, NamesByTypedef (entriesOf a) workspace (step workspace a))
    (list : List α) (workspace : Workspace) :
    NamesByTypedef (list.flatMap entriesOf) workspace (list.foldl step workspace) := by
  induction list generalizing workspace with
  | nil => exact refl workspace
  | cons a list ih => exact (each workspace a).trans (ih (step workspace a))

end NamesByTypedef

/-- A typedef names its type if that is a tagged one without a name. -/
theorem find?_nameByTypedef (workspace : Workspace) (name : String) (type : TypeRef) {id : NodeId}
    {tagged : TaggedType} (isTagged : workspace.scope.graph.tagged? id = some tagged)
    (unnamed : tagged.ownName? = none) :
    (workspace.nameByTypedef name type).ledger.names.find? id =
      (workspace.ledger.names.find? id).or (if type = some id then some name else none) := by
  cases type with
  | none =>
    rw [if_neg (by simp), Option.or_none]
    rfl
  | some other =>
    by_cases same : other = id
    · subst same
      have nameless : ((workspace.scope.graph.tagged? other).any fun tagged =>
          tagged.ownName?.isNone) = true := by
        rw [isTagged, Option.any_some, unnamed]
        rfl
      unfold nameByTypedef
      rw [if_pos rfl]
      simp only [nameless, if_true]
      rw [NameTable.find?_give_self, NameTable.give]
      cases workspace.ledger.names.find? other <;> rfl
    · rw [if_neg (by simpa using same), Option.or_none]
      unfold nameByTypedef
      dsimp only
      split
      · exact NameTable.find?_give_ne _ (Ne.symm same) name
      · rfl

theorem declareTypedef_namesByTypedef (workspace : Workspace) (name : String) (type : TypeRef) :
    NamesByTypedef [(name, type)] workspace (workspace.declareTypedef name type) := by
  have graph := (workspace.declareTypedef_declares name type).graph
  have unchanged := workspace.scope_nameByTypedef name type
  unfold declareTypedef at graph ⊢
  split
  · rename_i isMarker
    refine ⟨.refl _, rfl, fun id tagged _ _ => ?_⟩
    have passed : firstNamed [(name, type)] workspace.scope.typedefs.marker id = none := by
      simp [firstNamed, isMarker]
    rw [passed, Option.or_none]
    rfl
  · rename_i notMarker
    rw [if_neg notMarker] at graph
    refine ⟨graph, ?_, fun id tagged isTagged unnamed => ?_⟩
    · show (workspace.nameByTypedef name type).scope.typedefs.marker = _
      rw [unchanged]
    · have single : firstNamed [(name, type)] workspace.scope.typedefs.marker id =
          if type = some id then some name else none := by
        by_cases same : type = some id <;> simp [firstNamed, notMarker, same]
      rw [single]
      exact workspace.find?_nameByTypedef name type isTagged unnamed

theorem readDeclarator_namesByTypedef (base : TypeRef) (workspace : Workspace)
    (declarator : Declarator) :
    NamesByTypedef [(declarator.name, declarator.type.or base)] workspace
      (readDeclarator base workspace declarator) := by
  have assembled := TypeGraph.sameShape_assemble workspace.scope.graph declarator.type base
  have declared := (workspace.withGraph
    (workspace.scope.graph.assemble declarator.type base).2).declareTypedef_namesByTypedef
      declarator.name (declarator.type.or base)
  rw [readDeclarator_eq]
  refine ⟨assembled.trans declared.graph, declared.marker, fun id tagged isTagged unnamed => ?_⟩
  exact declared.names id tagged ((assembled.tagged?_eq id).trans isTagged) unnamed

theorem readExternal_namesByTypedef (workspace : Workspace) (declaration : ExternalDeclaration) :
    NamesByTypedef declaration.typedefEntries workspace (workspace.readExternal declaration) := by
  cases declaration with
  | functionBody name function => exact .refl workspace
  | declaration base declarators isTypedef =>
    cases isTypedef with
    | false => exact .refl workspace
    | true =>
      have each := NamesByTypedef.foldl (readDeclarator_namesByTypedef base) declarators workspace
      rwa [← List.map_eq_flatMap] at each

end Workspace

namespace HeaderLibrary

variable {library : HeaderLibrary}

/-- **Once the typedefs are read, a type without a name of its own has that of its first
typedef.** -/
theorem find?_readTypedefs {graph : TypeGraph} {marker : String} {id : NodeId} {type : TaggedType}
    (tagged : graph.tagged? id = some type) (unnamed : type.ownName? = none) :
    (library.readTypedefs (.start graph marker)).ledger.names.find? id =
      library.firstTypedef? marker id := by
  have read : Workspace.NamesByTypedef
      ((library.files.flatMap Prod.snd).flatMap ExternalDeclaration.typedefEntries)
      (.start graph marker) (library.readTypedefs (.start graph marker)) := by
    rw [List.flatMap_assoc]
    refine Workspace.NamesByTypedef.foldl (fun workspace file => ?_) library.files _
    exact Workspace.NamesByTypedef.foldl Workspace.readExternal_namesByTypedef file.2 workspace
  exact read.names id type tagged unnamed

end HeaderLibrary

/-! ## Names in bindings -/

theorem Scope.bindEnums_describes {scope : Scope} {enums : List EnumBinding}
    {ledger after : Ledger} (done : scope.bindEnums.run ledger = .ok enums after) :
    List.Forall₂ (fun (binding : EnumBinding) id =>
        scope.settledName? after.names id = some binding.cName ∧
          binding.name = Identifier.camelCase binding.cName)
      enums (after.needs.types.filter scope.graph.isEnum) := by
  rw [(scope.bindEnums_onlyNames.ok done).needs]
  obtain ⟨same, start, read, rest⟩ := bind_ok_iff.1 done
  cases read
  have between := mapM_ok_between (fun place => scope.bindEnum_onlyNames _ _ _) rest
  have listed : ((ledger.needs.entries.filter fun entry => scope.graph.isEnum entry.1).zipIdx.map
      fun place => place.1.1) = ledger.needs.types.filter scope.graph.isEnum := by
    have places := List.map_map (f := Prod.fst) (g := Prod.fst)
      (l := (ledger.needs.entries.filter fun entry => scope.graph.isEnum entry.1).zipIdx)
    rw [List.zipIdx_map_fst] at places
    rw [NeedTable.types, List.filter_map]
    exact places.symm
  rw [← listed, List.forall₂_map_right_iff]
  refine (forall₂_imp_of_mem between fun place member binding gave => ?_).flip
  obtain ⟨first, last, -, bound, kept⟩ := gave
  obtain ⟨cName, named, asked, done⟩ := bind_ok_iff.1 bound
  obtain ⟨rfl, rfl⟩ := pure_ok_iff.1 done
  have isEnum := (List.mem_filter.1 (List.fst_mem_of_mem_zipIdx member)).2
  obtain ⟨type, node, -⟩ := TypeGraph.isEnum_iff.1 isEnum
  have settled := scope.nameFor_settles (TypeGraph.tagged?_eq_some_iff.2 node) asked
  exact ⟨scope.settledName?_kept kept.names settled, rfl⟩

/-- Every definition tells the name that its type has in the end, and every field, parameter
and result the name of what its type is. -/
structure Workspace.Named (workspace : Workspace) (headers : List ScannedHeader)
    (bindings : Bindings) : Prop where
  enums : List.Forall₂ (fun (binding : EnumBinding) id =>
      workspace.scope.settledName? workspace.ledger.names id = some binding.cName ∧
        binding.name = Identifier.camelCase binding.cName)
    bindings.enums (workspace.ledger.needs.types.filter workspace.scope.graph.isEnum)
  records : ∃ nodes : List NodeId,
    (∀ id, id ∈ nodes ↔
      workspace.scope.graph.Placed (workspace.scope.Wants workspace.ledger.needs) id) ∧
    List.Forall₂ (workspace.scope.Describes workspace.ledger.names) bindings.records nodes
  headers : List.Forall₂ workspace.DescribesHeader headers bindings.headers

namespace HeaderLibrary

variable {library : HeaderLibrary} {skipUnsupported : Bool} {graph : TypeGraph} {marker : String}
  {bindings : Bindings} {after : Workspace}

theorem named_of_bind
    (done : (library.bind skipUnsupported).run (.start graph marker) = .ok bindings after) :
    after.Named (library.scanned graph marker) bindings := by
  have records := (defined_of_bind done).1
  have headers := described_of_bind done
  obtain ⟨bound, middle, ledger, -, enums, last, -, scope⟩ := bind_stages done
  have names := middle.scope.bindRecords_onlyNames.ok last
  refine ⟨?_, records, headers⟩
  rw [scope, names.needs]
  exact (Scope.bindEnums_describes enums).imp fun binding id told =>
    ⟨middle.scope.settledName?_kept names.names told.1, told.2⟩

/-- After a run, a type has its own name, or else that of its first typedef if it has one. -/
theorem settledName?_of_bind
    (done : (library.bind skipUnsupported).run (.start graph marker) = .ok bindings after)
    {id : NodeId} {type : TaggedType} {name : String} (tagged : graph.tagged? id = some type)
    (named : type.ownName?.or (library.firstTypedef? marker id) = some name) :
    after.scope.settledName? after.ledger.names id = some name := by
  obtain ⟨bound, middle, ledger, headers, enums, records, -, scope⟩ := bind_stages done
  have read := library.sameShape_readTypedefs (.start graph marker)
  have grown := (bindHeadersFrom_backed (bindHeaders_ok headers)).1
  have emitted := middle.scope.bindEnums_onlyNames.ok enums
  have last := middle.scope.bindRecords_onlyNames.ok records
  have kept := grown.ledger.names.trans (emitted.names.trans last.names)
  refine Scope.settledName?_kept _ kept ?_
  rw [Scope.settledName?, scope, grown.scope.graph.tagged?_eq, read.tagged?_eq]
  show (graph.tagged? id).bind _ = _
  rw [tagged, Option.bind_some]
  cases own : type.ownName? with
  | some other => rwa [own] at named
  | none =>
    rw [own] at named
    rw [find?_readTypedefs tagged own]
    exact named

end HeaderLibrary

/-- **The name of a type is decided once.**  Whatever is done to the names of a run, and
whether or not it ends with a fault, a name that was answered stays the answer, and a name of
its own is the answer always.  Where a library is bound, a type without a name of its own that
is the type of a typedef has the name of the first one, and all bindings tell the names that
types have in the end. -/
theorem names_decided :
    (∀ (workspace : Workspace) (id : NodeId) (name : String) (steps : List NamingStep),
      workspace.Answers id name →
        ((workspace.perform (.askName id)).performAll steps).Answers id name) ∧
    (∀ (workspace : Workspace) (id : NodeId) (type : TaggedType) (own : String)
        (steps : List NamingStep),
      workspace.scope.graph.tagged? id = some type → type.ownName? = some own →
        (workspace.performAll steps).Answers id own) ∧
    ∀ (library : HeaderLibrary) (skipUnsupported : Bool) (graph : TypeGraph) (marker : String)
        (bindings : Bindings) (after : Workspace),
      (library.bind skipUnsupported).run (.start graph marker) = .ok bindings after →
        (∀ id type name, graph.tagged? id = some type → type.ownName? = none →
          library.firstTypedef? marker id = some name →
            after.scope.settledName? after.ledger.names id = some name) ∧
        after.Named (library.scanned graph marker) bindings := by
  refine ⟨fun workspace id name steps answered => answered.stays steps, ?_, ?_⟩
  · exact fun workspace id type own steps tagged named => Workspace.answers_own tagged named steps
  · intro library skipUnsupported graph marker bindings after done
    refine ⟨fun id type name tagged unnamed first => ?_, HeaderLibrary.named_of_bind done⟩
    refine HeaderLibrary.settledName?_of_bind done tagged ?_
    rw [unnamed, Option.none_or]
    exact first

/-- A structure without a name, and an array. -/
def vertexTypes : TypeGraph := ⟨#[
  .builtin "int",
  .tagged ⟨.struct, none, some [⟨"x", some ⟨0⟩⟩], []⟩,
  .function ⟨[⟨none, some ⟨1⟩⟩], none, false⟩,
  .uncovered "int[4]"]⟩

/-- Two typedefs of the structure, and a function that takes it. -/
def vertexLibrary : HeaderLibrary where
  headers := ["vertex.h"]
  files := [("vertex.h", [
    .declaration (some ⟨1⟩) [⟨"point", none⟩, ⟨"vertex", none⟩] true,
    .declaration (some ⟨0⟩) [⟨"move", some ⟨2⟩⟩] false])]

/-- The structure has the name of its first typedef, and without typedefs the numbered one that
was answered, whatever is given later and although the array cannot be needed. -/
theorem names_decided_vertices :
    ((Workspace.perform (.start vertexTypes "va") (.askName ⟨1⟩)).performAll
      [.giveName ⟨1⟩ "late", .need (some ⟨3⟩) "move" false]).Answers ⟨1⟩ "anonymous_struct_one" ∧
    ∃ bindings after,
      (vertexLibrary.bind false).run (.start vertexTypes "va") = .ok bindings after ∧
      after.scope.settledName? after.ledger.names ⟨1⟩ = some "point" ∧
      after.Named (vertexLibrary.scanned vertexTypes "va") bindings ∧
      bindings.records.map RecordBinding.cName = ["point"] := by
  obtain ⟨stays, -, inBindings⟩ := names_decided
  constructor
  · refine stays _ ⟨1⟩ "anonymous_struct_one" _ ?_
    have asked : gives (fun name _ => decide (name = "anonymous_struct_one"))
        ((Scope.nameFor ⟨vertexTypes, .seeded "va"⟩ ⟨1⟩).run .empty) = true := by decide +kernel
    obtain ⟨name, after, run, same⟩ := exists_of_gives asked
    exact ⟨after, of_decide_eq_true same ▸ run⟩
  · have tested : gives (fun bindings _ => decide
          (bindings.records.map RecordBinding.cName = ["point"]))
        ((vertexLibrary.bind false).run (.start vertexTypes "va")) = true := by decide +kernel
    obtain ⟨bindings, after, done, shown⟩ := exists_of_gives tested
    obtain ⟨first, named⟩ := inBindings vertexLibrary false vertexTypes "va" bindings after done
    have settled := first ⟨1⟩ ⟨.struct, none, some [⟨"x", some ⟨0⟩⟩], []⟩ "point" rfl rfl
      (by decide +kernel)
    exact ⟨bindings, after, done, settled, named, of_decide_eq_true shown⟩

end HeaderBind
