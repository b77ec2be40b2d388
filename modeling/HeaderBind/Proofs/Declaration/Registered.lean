/-
# HeaderBind.Proofs.Declaration.Registered — what is stored for a typedef

Reading the typedefs of a library goes through its declarations in the order of the files.
What a name stands for afterwards is the type of the last declaration of that name, the
declarator's or, where it has none, the base type itself (`lookup_readTypedefs`).

The slot that a declarator leaves open holds the base type of its declaration then, if that
is the only base type that is put there: however many other types are assembled before and
after, none of them comes by that slot (`filledSlot?_readTypedefs`).
-/
import HeaderBind.Proofs.Declaration.Assembled
import HeaderBind.Proofs.Typedef.Followed

namespace HeaderBind

set_option autoImplicit false

open TypeGraph

/-! ## The last typedef of a name -/

namespace Workspace

theorem lookup_readDeclarator (base : TypeRef) (workspace : Workspace) (declarator : Declarator)
    (name : String) :
    (readDeclarator base workspace declarator).scope.typedefs.lookup name =
      if name = declarator.name ∧ declarator.name ≠ workspace.scope.typedefs.marker then
        some (.type (declarator.type.or base))
      else workspace.scope.typedefs.lookup name := by
  rw [readDeclarator_eq, lookup_declareTypedef]
  rfl

theorem marker_readDeclarator (base : TypeRef) (workspace : Workspace)
    (declarator : Declarator) :
    (readDeclarator base workspace declarator).scope.typedefs.marker =
      workspace.scope.typedefs.marker := by
  rw [readDeclarator_eq]
  exact (declareTypedef_keeps _ _ _).2

theorem marker_readExternal (workspace : Workspace) (declaration : ExternalDeclaration) :
    (workspace.readExternal declaration).scope.typedefs.marker =
      workspace.scope.typedefs.marker := by
  cases declaration with
  | functionBody name function => rfl
  | declaration base declarators isTypedef =>
    cases isTypedef with
    | false => rfl
    | true =>
      show (declarators.foldl (readDeclarator base) workspace).scope.typedefs.marker = _
      induction declarators generalizing workspace with
      | nil => rfl
      | cons declarator declarators ih =>
        rw [List.foldl_cons, ih, marker_readDeclarator]

theorem marker_readTypedefs (workspace : Workspace) (declarations : List ExternalDeclaration) :
    (workspace.readTypedefs declarations).scope.typedefs.marker =
      workspace.scope.typedefs.marker := by
  induction declarations generalizing workspace with
  | nil => rfl
  | cons declaration declarations ih =>
    rw [readTypedefs, List.foldl_cons, ← readTypedefs, ih, marker_readExternal]

/-- A declaration leaves the names that it does not declare as they are. -/
theorem lookup_readExternal {workspace : Workspace} {declaration : ExternalDeclaration}
    {name : String} (other : name ∉ declaration.declaredTypedefs) :
    (workspace.readExternal declaration).scope.typedefs.lookup name =
      workspace.scope.typedefs.lookup name := by
  cases declaration with
  | functionBody name function => rfl
  | declaration base declarators isTypedef =>
    cases isTypedef with
    | false => rfl
    | true =>
      show (declarators.foldl (readDeclarator base) workspace).scope.typedefs.lookup name = _
      have differ : ∀ declarator ∈ declarators, name ≠ declarator.name := by
        intro declarator member same
        exact other (List.mem_map.2 ⟨declarator, member, same.symm⟩)
      clear other
      induction declarators generalizing workspace with
      | nil => rfl
      | cons declarator declarators ih =>
        rw [List.foldl_cons, ih fun later member => differ later (.tail _ member),
          lookup_readDeclarator, if_neg]
        intro both
        exact differ declarator (.head _) both.1

theorem lookup_readTypedefs {workspace : Workspace} {declarations : List ExternalDeclaration}
    {name : String}
    (others : name ∉ declarations.flatMap ExternalDeclaration.declaredTypedefs) :
    (workspace.readTypedefs declarations).scope.typedefs.lookup name =
      workspace.scope.typedefs.lookup name := by
  induction declarations generalizing workspace with
  | nil => rfl
  | cons declaration declarations ih =>
    rw [List.flatMap_cons, List.mem_append, not_or] at others
    rw [readTypedefs, List.foldl_cons, ← readTypedefs, ih others.2, lookup_readExternal others.1]

end Workspace

namespace HeaderLibrary

variable {library : HeaderLibrary}

/-- File by file is declaration by declaration. -/
theorem readTypedefs_eq (library : HeaderLibrary) (workspace : Workspace) :
    library.readTypedefs workspace = workspace.readTypedefs library.allDeclarations := by
  unfold readTypedefs allDeclarations Workspace.readTypedefs
  rw [List.foldl_flatMap]

/-- **The last typedef of a name is what it stands for.** -/
theorem lookup_readTypedefs {graph : TypeGraph} {marker : String}
    {front back : List ExternalDeclaration} {base : TypeRef} {declarator : Declarator}
    (order : library.allDeclarations = front ++ .declaration base [declarator] true :: back)
    (notMarker : declarator.name ≠ marker)
    (last : declarator.name ∉ back.flatMap ExternalDeclaration.declaredTypedefs) :
    (library.readTypedefs (.start graph marker)).scope.typedefs.lookup declarator.name =
      some (.type (declarator.type.or base)) := by
  have marked := (Workspace.start graph marker).marker_readTypedefs front
  rw [readTypedefs_eq, order, Workspace.readTypedefs, List.foldl_append, List.foldl_cons,
    ← Workspace.readTypedefs, ← Workspace.readTypedefs, Workspace.lookup_readTypedefs last]
  show (Workspace.readDeclarator base _ declarator).scope.typedefs.lookup _ = _
  rw [Workspace.lookup_readDeclarator, if_pos]
  constructor
  · rfl
  · rw [marked]
    exact notMarker

end HeaderLibrary

/-! ## The slot of a declarator -/

namespace TypeGraph

variable {graph first second : TypeGraph} {entries : List Assembly} {type base : TypeRef}
  {hole : NodeId}

/-- A spine that does not lead to the slot that is filled leads where it led. -/
theorem OpensAt.assembled {declarator : TypeRef} (opens : graph.OpensAt type hole)
    (other : ¬ graph.OpensAt declarator hole) :
    (graph.assemble declarator base).2.OpensAt type hole := by
  induction opens with
  | here isOpen =>
    apply OpensAt.here
    rw [slot?_assemble, if_neg other, isOpen]
  | @next id hole next slot rest ih =>
    have notOpen : some next ≠ some none := by
      intro same
      cases same
      cases rest
    exact .next (slot?_assemble_of_ne slot notOpen) (ih other)

/-- No base type has a spine to an open slot. -/
def Sealed (graph : TypeGraph) (entries : List Assembly) : Prop :=
  ∀ entry ∈ entries, graph.Closed entry.2

theorem Sealed.assemble {entry : Assembly} (isSealed : graph.Sealed entries)
    (member : entry ∈ entries) : (graph.assemble entry.1 entry.2).2.Sealed entries := by
  intro other isEntry hole opens
  exact isSealed other isEntry hole (opensAt_of_assemble (isSealed entry member) opens)

/-- Then no spine leads to an open slot to which it did not lead at first. -/
theorem Sealed.assembled (isSealed : first.Sealed entries)
    (later : Assembled entries first second) :
    second.Sealed entries ∧
      ∀ type hole, second.OpensAt type hole → first.OpensAt type hole := by
  induction later with
  | refl => exact ⟨isSealed, fun _ _ opens => opens⟩
  | tail _ step ih =>
    obtain ⟨entry, member, rfl⟩ := step
    obtain ⟨still, back⟩ := ih
    refine ⟨still.assemble member, fun type hole opens => ?_⟩
    exact back type hole (opensAt_of_assemble (still entry member) opens)

/-- A slot in which only one base type is put is open, or holds that base type. -/
theorem Assembled.opensAt_or_slot? (later : Assembled entries first second)
    (isSealed : first.Sealed entries) (opens : first.OpensAt type hole)
    (only : ∀ entry ∈ entries, first.OpensAt entry.1 hole → entry.2 = base) :
    second.OpensAt type hole ∨ second.slot? hole = some base := by
  induction later with
  | refl => exact .inl opens
  | @tail middle _ before step ih =>
    obtain ⟨entry, member, rfl⟩ := step
    by_cases here : middle.OpensAt entry.1 hole
    · right
      rw [slot?_assemble, if_pos here]
      have atFirst := (isSealed.assembled before).2 _ _ here
      rw [only entry member atFirst]
    · rcases ih with still | holds
      · exact .inl (still.assembled here)
      · right
        rw [slot?_assemble, if_neg here, holds]

theorem Filled.slot?_eq (filled : first.Filled second) {id : NodeId}
    (notOpen : first.slot? id ≠ some none) : second.slot? id = first.slot? id := by
  unfold slot?
  rw [filled.kept id notOpen]

end TypeGraph

/-- **The open slot of a typedef holds its base type** once the typedefs are read, if no other
base type is put there. -/
theorem HeaderLibrary.filledSlot?_readTypedefs {library : HeaderLibrary} {graph : TypeGraph}
    {base : NodeId} {declarators : List Declarator} {declarator : Declarator} {hole : NodeId}
    (isSealed : graph.Sealed library.assemblies)
    (isTypedef : .declaration (some base) declarators true ∈ library.allDeclarations)
    (isDeclarator : declarator ∈ declarators) (opens : graph.OpensAt declarator.type hole)
    (only : ∀ entry ∈ library.assemblies, graph.OpensAt entry.1 hole → entry.2 = some base)
    (marker : String) :
    (library.readTypedefs (.start graph marker)).graph.slot? hole = some (some base) := by
  obtain ⟨before, reached, later⟩ :=
    assembled_of_readTypedefs isTypedef isDeclarator (.start graph marker)
  have reached : Assembled library.assemblies graph before := reached
  have filled : (before.assemble declarator.type (some base)).2.slot? hole = some (some base) := by
    rw [slot?_assemble]
    split
    · rfl
    · rename_i other
      exact (reached.opensAt_or_slot? isSealed opens only).resolve_left other
  rw [later.filled.slot?_eq, filled]
  rw [filled]
  intro isOpen
  cases isOpen

end HeaderBind
