/-
# HeaderBind.Proofs.Clang.Members — the members that a definition of a record gives

The children of a record's definition that give members are its fields and the unnamed
records that `isAnonymousMember` lets through, in order (`members_of_definition`).

An unnamed record in a record declares a member of its own unless the type of a field
mentions it, be it behind pointers or in a function type (`declaresMember`).  The reader
looks at the types of the fields themselves only, so `struct window { struct { int w; } *size; }`
gets a second member that no C compiler knows (`phantom_member`).  The members are right
if and only if no unnamed record is mentioned in another way.
-/
import HeaderBind.Proofs.Clang.Kept
import HeaderBind.Proofs.CType.Shape

namespace HeaderBind.Clang

set_option autoImplicit false

open Outcome

/-! ## What C declares -/

namespace SourceType

mutual

/-- The declarations of the types that a type reaches, its own first. -/
def mentioned : SourceType → List (Option CursorId)
  | .elaborated named => named.mentioned
  | .pointer pointee declaration => declaration :: pointee.mentioned
  | .typedefName declaration => [declaration]
  | .tagged declaration => [declaration]
  | .prototype params result _ declaration =>
      declaration :: (mentionedByAll params ++ result.mentioned)
  | .noPrototype result declaration => declaration :: result.mentioned
  | .leaf _ _ declaration => [declaration]

def mentionedByAll : List SourceType → List (Option CursorId)
  | [] => []
  | type :: rest => type.mentioned ++ mentionedByAll rest

end

end SourceType

/-- The keys of the tagged types that the types of the fields mention. -/
def mentionedKeys (unit : SourceUnit) (children : List Cursor) : List String :=
  (children.filter fun child => child.kind = .fieldDecl).flatMap fun field =>
    ((field.type.mentioned.map unit.declaration).filter fun declaration =>
      declaration.kind.tag?.isSome).map Cursor.key

/-- The child is a record without a name. -/
def Cursor.isUnnamedRecord (child : Cursor) : Bool :=
  (child.kind = .structDecl || child.kind = .unionDecl) && isUnnamed child.spelling

/-- The child of a record declares a member of it: it is a field, or a record without a
name that the type of no field mentions. -/
def declaresMember (unit : SourceUnit) (children : List Cursor) (child : Cursor) : Bool :=
  child.kind = .fieldDecl ||
    child.isUnnamedRecord && !(mentionedKeys unit children).contains child.key

/-- The child of a record gives a member of it. -/
def givesMember (unit : SourceUnit) (children : List Cursor) (child : Cursor) : Bool :=
  child.kind = .fieldDecl || isAnonymousMember (fieldTypes unit children) child

/-! ## What a conversion keeps -/

namespace Conversion

/-- Nodes were added, and every key keeps its node. -/
structure Extends (earlier later : Conversion) : Prop where
  size : earlier.graph.size ≤ later.graph.size
  nodes : ∀ key id, earlier.nodes.lookup key = some id → later.nodes.lookup key = some id

instance : Std.Refl Extends := ⟨fun _ => ⟨Nat.le_refl _, fun _ _ found => found⟩⟩

instance : IsTrans Conversion Extends :=
  ⟨fun _ _ _ one two => ⟨Nat.le_trans one.size two.size,
    fun key id found => two.nodes key id (one.nodes key id found)⟩⟩

end Conversion

theorem note_extends (text : String) : Keeps Conversion.Extends (Convert.note text) :=
  Keeps.modify fun _ => ⟨Nat.le_refl _, fun _ _ found => found⟩

theorem addNode_extends (type : CType) : Keeps Conversion.Extends (Convert.addNode type) :=
  Keeps.modifyGet fun state =>
    ⟨by simp [TypeGraph.add, TypeGraph.size], fun _ _ found => found⟩

theorem addType_extends (type : CType) : Keeps Conversion.Extends (Convert.addType type) :=
  (addNode_extends type).bind fun _ => Keeps.pure _

/-- The type that a declaration makes: its tag and name, without a body. -/
def Cursor.bareType (cursor : Cursor) (tag : Tag) : TaggedType :=
  ⟨tag, if isUnnamed cursor.spelling then none else some cursor.spelling, none, []⟩

/-- A declaration has the node of its key, or its key gets a new one. -/
theorem bareNode_cases (cursor : Cursor) (state : Conversion) :
    (∃ id, (bareNode cursor).run state = .ok id state ∧
        state.nodes.lookup cursor.key = some id) ∨
      (∃ fault, (bareNode cursor).run state = .error fault state) ∨
      (state.nodes.lookup cursor.key = none ∧ ∃ tag, cursor.kind.tag? = some tag ∧
        (bareNode cursor).run state = .ok ⟨state.graph.size⟩
          { state with
            graph := (state.graph.add (.tagged (cursor.bareType tag))).2
            nodes := (cursor.key, ⟨state.graph.size⟩) :: state.nodes }) := by
  unfold bareNode
  simp only [EStateM.run_bind, EStateM.run_get]
  cases known : state.nodes.lookup cursor.key with
  | some id => exact .inl ⟨id, rfl, rfl⟩
  | none =>
    cases cursor.kind.tag? with
    | none => exact .inr (.inl ⟨_, rfl⟩)
    | some tag => exact .inr (.inr ⟨rfl, tag, rfl, rfl⟩)

theorem bareNode_extends (cursor : Cursor) : Keeps Conversion.Extends (bareNode cursor) := by
  intro state
  rcases bareNode_cases cursor state with ⟨id, run, -⟩ | ⟨fault, run⟩ | ⟨fresh, tag, -, run⟩
  · rw [run]
    exact Std.Refl.refl state
  · rw [run]
    exact Std.Refl.refl state
  · rw [run]
    refine ⟨by simp [left, TypeGraph.add, TypeGraph.size], fun key other found => ?_⟩
    by_cases same : key = cursor.key
    · rw [same, fresh] at found
      cases found
    · simpa [left, List.lookup_cons, beq_false_of_ne same] using found

theorem bareNode_defined {cursor : Cursor} {id : NodeId} {state after : Conversion}
    (done : (bareNode cursor).run state = .ok id after) : after.defined = state.defined := by
  rcases bareNode_cases cursor state with ⟨other, run, -⟩ | ⟨fault, run⟩ | ⟨-, tag, -, run⟩
  all_goals cases run.symm.trans done
  all_goals rfl

theorem bareNode_key {cursor : Cursor} {id : NodeId} {state after : Conversion}
    (done : (bareNode cursor).run state = .ok id after) :
    after.nodes.lookup cursor.key = some id := by
  rcases bareNode_cases cursor state with ⟨other, run, known⟩ | ⟨fault, run⟩ | ⟨-, tag, -, run⟩
  · cases run.symm.trans done
    exact known
  · cases run.symm.trans done
  · cases run.symm.trans done
    exact List.lookup_cons_self

/-- Every step of a reader adds to its state. -/
theorem extends_kept : ReaderKeeps (fun _ => True) Conversion.Extends where
  note := note_extends
  addType type _ := addType_extends type
  bareNode := bareNode_extends
  mark _ := Keeps.modify fun _ => ⟨Nat.le_refl _, fun _ _ found => found⟩
  fill _ _ := Keeps.modify fun _ => ⟨by simp, fun _ _ found => found⟩

section Readers

variable {unit : SourceUnit} {tagged : Cursor → Convert NodeId}
  (each : ∀ cursor, Keeps Conversion.Extends (tagged cursor))

include each

theorem memberOf?_extends (named : List String) (child : Cursor) :
    Keeps Conversion.Extends (memberOf? unit tagged named child) :=
  extends_kept.memberOf? each named fun _ _ => trivial

theorem membersOf_extends (definition : Cursor) :
    Keeps Conversion.Extends (membersOf unit tagged definition) :=
  extends_kept.membersOf each (fun _ _ _ _ _ _ => trivial) definition

theorem fillNode_extends (id : NodeId) (definition : Cursor) :
    Keeps Conversion.Extends (fillNode unit tagged id definition) :=
  extends_kept.fillNode each (fun _ _ _ _ _ _ => trivial) id definition

end Readers

theorem taggedNodeWithin_extends (unit : SourceUnit) (fuel : Nat) (cursor : Cursor) :
    Keeps Conversion.Extends (taggedNodeWithin unit fuel cursor) :=
  extends_kept.taggedNodeWithin (fun _ _ _ _ _ _ => trivial) fuel cursor

/-! ## A visit -/

section Level

variable {unit : SourceUnit} {tagged : Cursor → Convert NodeId} {cursor : Cursor} {id : NodeId}
  {state middle after : Conversion}

/-- What a visit does once the declaration has its node. -/
theorem taggedLevel_run (tagged : Cursor → Convert NodeId)
    (named : (bareNode cursor).run state = .ok id middle) :
    (taggedLevel unit tagged cursor).run state =
      if cursor.key ∈ middle.defined then .ok id middle
      else
        match unit.definition? cursor with
        | none => .ok id middle
        | some definition =>
            (fillNode unit tagged id definition >>= fun _ => pure id).run
              (middle.mark cursor.key) := by
  unfold taggedLevel
  rw [EStateM.run_bind, named]
  show EStateM.run (if cursor.key ∈ middle.defined then _ else _) middle = _
  split
  · rfl
  · cases unit.definition? cursor with
    | none => rfl
    | some definition => rfl

theorem taggedLevel_run_error {fault : ReadFault} (tagged : Cursor → Convert NodeId)
    (failed : (bareNode cursor).run state = .error fault middle) :
    (taggedLevel unit tagged cursor).run state = .error fault middle := by
  unfold taggedLevel
  rw [EStateM.run_bind, failed]

/-- A visit that gives a node: a definition of its key was met before, or it has none, or
its definition is read. -/
theorem taggedLevel_ok (done : (taggedLevel unit tagged cursor).run state = .ok id after) :
    ∃ middle, (bareNode cursor).run state = .ok id middle ∧
      ((cursor.key ∈ middle.defined ∧ after = middle) ∨
        (unit.definition? cursor = none ∧ after = middle) ∨
        ∃ definition, cursor.key ∉ middle.defined ∧ unit.definition? cursor = some definition ∧
          (fillNode unit tagged id definition).run (middle.mark cursor.key) = .ok () after) := by
  cases named : (bareNode cursor).run state with
  | error fault middle =>
    rw [taggedLevel_run_error tagged named] at done
    cases done
  | ok bare middle =>
    rw [taggedLevel_run tagged named] at done
    split at done
    · rename_i known
      cases done
      exact ⟨_, rfl, .inl ⟨known, rfl⟩⟩
    · rename_i fresh
      cases leads : unit.definition? cursor with
      | none =>
        rw [leads] at done
        cases done
        exact ⟨_, rfl, .inr (.inl ⟨rfl, rfl⟩)⟩
      | some definition =>
        rw [leads] at done
        obtain ⟨⟨⟩, filled, fill, last⟩ := bind_ok_iff.1 done
        obtain ⟨rfl, rfl⟩ := pure_ok_iff.1 last
        exact ⟨middle, rfl, .inr (.inr ⟨definition, fresh, rfl, fill⟩)⟩

end Level

/-- The node of a declaration is that of its key from then on. -/
theorem taggedNodeWithin_key {unit : SourceUnit} {fuel : Nat} {cursor : Cursor} {id : NodeId}
    {state after : Conversion}
    (done : (taggedNodeWithin unit fuel cursor).run state = .ok id after) :
    after.nodes.lookup cursor.key = some id := by
  cases fuel with
  | zero => exact bareNode_key done
  | succ fuel =>
    obtain ⟨middle, named, ⟨-, rfl⟩ | ⟨-, rfl⟩ | ⟨definition, -, -, fill⟩⟩ := taggedLevel_ok done
    · exact bareNode_key named
    · exact bareNode_key named
    · have found := bareNode_key named
      exact ((fillNode_extends (taggedNodeWithin_extends unit fuel) _ _).ok fill).nodes _ _ found

/-! ## Members -/

/-- The member that a child gives.  A field has its own name and the node of its type; a
record without a name is the node of its key. -/
def Declares (unit : SourceUnit) (tagged : Cursor → Convert NodeId) (before after : Conversion)
    (child : Cursor) (member : Member) : Prop :=
  if child.kind = .fieldDecl then
    member.name = Identifier.nonempty? child.spelling ∧
      GaveBetween Conversion.Extends (typeNode unit tagged child.type) before after member.type
  else
    member.name = none ∧ ∃ id, member.type = some id ∧ after.nodes.lookup child.key = some id

theorem memberOf?_declares {unit : SourceUnit} {fuel : Nat} {children : List Cursor}
    {child : Cursor} {before after : Conversion} {found : Option Member}
    (ran : GaveBetween Conversion.Extends
      (memberOf? unit (taggedNodeWithin unit fuel) (fieldTypes unit children) child)
      before after found) :
    (givesMember unit children child = true ∧ ∃ member, found = some member ∧
        Declares unit (taggedNodeWithin unit fuel) before after child member) ∨
      (givesMember unit children child = false ∧ found = none) := by
  obtain ⟨start, last, earlier, done, later⟩ := ran
  unfold memberOf? at done
  split at done
  · rename_i isField
    obtain ⟨type, middle, converted, rest⟩ := bind_ok_iff.1 done
    obtain ⟨rfl, rfl⟩ := pure_ok_iff.1 rest
    refine .inl ⟨by simp [givesMember, isField], _, rfl, ?_⟩
    rw [Declares, if_pos isField]
    exact ⟨rfl, start, last, earlier, converted, later⟩
  · rename_i noField
    split at done
    · rename_i unnamed
      obtain ⟨id, middle, node, rest⟩ := bind_ok_iff.1 done
      obtain ⟨rfl, rfl⟩ := pure_ok_iff.1 rest
      refine .inl ⟨by simp [givesMember, unnamed], _, rfl, ?_⟩
      rw [Declares, if_neg noField]
      exact ⟨rfl, id, rfl, later.nodes _ _ (taggedNodeWithin_key node)⟩
    · rename_i other
      obtain ⟨rfl, -⟩ := pure_ok_iff.1 done
      exact .inr ⟨by simp [givesMember, noField, other], rfl⟩

theorem membersOf_declares {unit : SourceUnit} {fuel : Nat} {definition : Cursor}
    {state after : Conversion} {members : List Member}
    (done : (membersOf unit (taggedNodeWithin unit fuel) definition).run state =
      .ok members after) :
    List.Forall₂ (Declares unit (taggedNodeWithin unit fuel) state after)
      ((unit.cursorsAt definition.children).filter
        (givesMember unit (unit.cursorsAt definition.children))) members := by
  obtain ⟨found, middle, each, rest⟩ := bind_ok_iff.1 done
  obtain ⟨rfl, rfl⟩ := pure_ok_iff.1 rest
  have between := mapM_ok_between
    (fun child => memberOf?_extends (taggedNodeWithin_extends unit fuel) _ child) each
  exact forall₂_filter_filterMap between fun child _ member? ran => memberOf?_declares ran

theorem Declares.between {unit : SourceUnit} {tagged : Cursor → Convert NodeId}
    {before first last after : Conversion} {child : Cursor} {member : Member}
    (earlier : before.Extends first) (later : last.Extends after)
    (h : Declares unit tagged first last child member) :
    Declares unit tagged before after child member := by
  unfold Declares at h ⊢
  split
  · rename_i isField
    rw [if_pos isField] at h
    obtain ⟨named, start, final, one, converted, two⟩ := h
    exact ⟨named, start, final, IsTrans.trans _ _ _ earlier one, converted,
      IsTrans.trans _ _ _ two later⟩
  · rename_i noField
    rw [if_neg noField] at h
    obtain ⟨named, id, isType, known⟩ := h
    exact ⟨named, id, isType, later.nodes _ _ known⟩

/-- Reading a definition into the node of a tagged type gives it members if it is a record,
and constants if it is not. -/
theorem fillNode_ok {unit : SourceUnit} {tagged : Cursor → Convert NodeId} {id : NodeId}
    {definition : Cursor} {state after : Conversion} {type : TaggedType}
    (done : (fillNode unit tagged id definition).run state = .ok () after)
    (node : state.graph.tagged? id = some type) :
    ∃ text noted, (Convert.note text).run state = .ok () noted ∧
      ((type.isRecord = true ∧ ∃ members middle,
          (membersOf unit tagged definition).run noted = .ok members middle ∧
          after = { middle with
            graph := middle.graph.set id (.tagged { type with members := some members }) }) ∨
        (type.isRecord = false ∧ after = { noted with
          graph := noted.graph.set id
            (.tagged { type with constants := constantsOf unit definition }) })) := by
  unfold fillNode at done
  obtain ⟨same, start, read, rest⟩ := bind_ok_iff.1 done
  cases read
  rw [node] at rest
  obtain ⟨⟨⟩, noted, note, rest⟩ := bind_ok_iff.1 rest
  refine ⟨_, noted, note, ?_⟩
  split at rest
  · rename_i isRecord
    obtain ⟨members, middle, given, last⟩ := bind_ok_iff.1 rest
    cases last
    exact .inl ⟨isRecord, members, middle, given, rfl⟩
  · rename_i noRecord
    cases rest
    exact .inr ⟨Bool.eq_false_iff.2 noRecord, rfl⟩

/-- A record whose definition is read has the members that the definition gives. -/
theorem fillNode_members {unit : SourceUnit} {fuel : Nat} {id : NodeId} {definition : Cursor}
    {state after : Conversion}
    (done : (fillNode unit (taggedNodeWithin unit fuel) id definition).run state = .ok () after)
    (isRecord : after.graph.isRecord id = true) :
    ∃ members, after.graph.members? id = some members ∧
      List.Forall₂ (Declares unit (taggedNodeWithin unit fuel) state after)
        ((unit.cursorsAt definition.children).filter
          (givesMember unit (unit.cursorsAt definition.children))) members := by
  cases node : state.graph.tagged? id with
  | none =>
    unfold fillNode at done
    obtain ⟨same, start, read, rest⟩ := bind_ok_iff.1 done
    cases read
    rw [node] at rest
    obtain ⟨-, rfl⟩ := pure_ok_iff.1 rest
    rw [TypeGraph.isRecord, node] at isRecord
    cases isRecord
  | some type =>
    obtain ⟨text, noted, note, read⟩ := fillNode_ok done node
    have first := (note_extends text).ok note
    rcases read with ⟨-, members, middle, given, rfl⟩ | ⟨noRecord, rfl⟩
    · have grown := (membersOf_extends (taggedNodeWithin_extends unit fuel) definition).ok given
      have stored : middle.Extends { middle with
          graph := middle.graph.set id (.tagged { type with members := some members }) } :=
        ⟨by simp, fun _ _ found => found⟩
      refine ⟨members, ?_, ?_⟩
      · have grownSince := Nat.le_trans first.size grown.size
        rw [TypeGraph.members?, TypeGraph.tagged?_set_self node grownSince]
        rfl
      · refine (membersOf_declares given).imp fun child member declares => ?_
        exact declares.between first stored
    · rw [TypeGraph.isRecord, TypeGraph.tagged?_set_self node first.size] at isRecord
      exact absurd (isRecord.symm.trans noRecord) Bool.noConfusion

/-- The same children are taken from a list if and only if each is taken by both. -/
theorem filter_eq_filter_iff {α : Type} {p q : α → Bool} {list : List α} :
    list.filter p = list.filter q ↔ ∀ a ∈ list, p a = q a := by
  constructor
  · intro same a member
    have taken : a ∈ list.filter p ↔ a ∈ list.filter q := by rw [same]
    rw [List.mem_filter, List.mem_filter, and_iff_right member, and_iff_right member] at taken
    exact Bool.eq_iff_iff.2 taken
  · exact fun same => List.filter_congr same

/-- The two take or leave a child alike, unless it is an unnamed record that fields mention
in one way and not in the other. -/
theorem givesMember_eq_iff {unit : SourceUnit} {children : List Cursor} {child : Cursor} :
    givesMember unit children child = declaresMember unit children child ↔
      (child.isUnnamedRecord = true →
        (child.usr ∈ fieldTypes unit children ↔ child.key ∈ mentionedKeys unit children)) := by
  have given : givesMember unit children child = (child.kind = .fieldDecl ||
      child.isUnnamedRecord && !(fieldTypes unit children).contains child.usr) := rfl
  rw [given, declaresMember]
  cases unnamed : child.isUnnamedRecord with
  | false => simp
  | true =>
    have noField : child.kind ≠ .fieldDecl := by
      intro isField
      simp [Cursor.isUnnamedRecord, isField] at unnamed
    rw [Bool.eq_iff_iff]
    simp [noField, not_iff_not]

/-- **The members that a definition gives**, and when they are those that C declares: if
and only if each unnamed record in it that some field mentions is the type of a field
itself, and is told by its identification. -/
theorem members_of_definition {unit : SourceUnit} {fuel : Nat} {cursor definition : Cursor}
    {id : NodeId} {state after : Conversion}
    (fresh : cursor.key ∉ state.defined)
    (defined : cursor.definition.bind unit.cursor? = some definition)
    (done : (taggedNodeWithin unit (fuel + 1) cursor).run state = .ok id after)
    (isRecord : after.graph.isRecord id = true) :
    (∃ members, after.graph.members? id = some members ∧
      List.Forall₂ (Declares unit (taggedNodeWithin unit fuel) state after)
        ((unit.cursorsAt definition.children).filter
          (givesMember unit (unit.cursorsAt definition.children))) members) ∧
    ((unit.cursorsAt definition.children).filter
        (givesMember unit (unit.cursorsAt definition.children)) =
      (unit.cursorsAt definition.children).filter
        (declaresMember unit (unit.cursorsAt definition.children)) ↔
      ∀ child ∈ unit.cursorsAt definition.children, child.isUnnamedRecord = true →
        (child.usr ∈ fieldTypes unit (unit.cursorsAt definition.children) ↔
          child.key ∈ mentionedKeys unit (unit.cursorsAt definition.children))) := by
  constructor
  · obtain ⟨middle, named, ⟨known, -⟩ | ⟨undefined, -⟩ | ⟨other, -, leads, fill⟩⟩ :=
      taggedLevel_ok done
    · exact absurd known (by rwa [bareNode_defined named])
    · cases undefined.symm.trans defined
    · cases leads.symm.trans defined
      obtain ⟨members, held, each⟩ := fillNode_members fill isRecord
      have first := (bareNode_extends cursor).ok named
      have begun : state.Extends (middle.mark cursor.key) := ⟨first.size, first.nodes⟩
      refine ⟨members, held, each.imp fun child member declares => ?_⟩
      exact declares.between begun (Std.Refl.refl _)
  · rw [filter_eq_filter_iff]
    exact forall₂_congr fun child _ => givesMember_eq_iff

/-! ## A nested record behind a pointer -/

/-- The cursor of a named record with its children. -/
def recordCursor (place : CursorId) (spelling usr : String) (children : List CursorId) : Cursor :=
  { Cursor.bare .structDecl with
    spelling, usr, children
    type := .tagged place
    definition := place
    isDefinition := true }

/-- The cursor of a field of a type. -/
def fieldCursor (spelling : String) (type : SourceType) : Cursor :=
  { Cursor.bare .fieldDecl with spelling, type }

/-- `struct window` with an unnamed record and a field, whose type is given. -/
def windowUnit (type : SourceType) : SourceUnit where
  cursors := #[
    recordCursor ⟨0⟩ "window" "c:@S@window" [⟨1⟩, ⟨3⟩],
    recordCursor ⟨1⟩ "" "c:@S@window@Sa" [⟨2⟩],
    fieldCursor "w" (.leaf "INT" "int" none),
    fieldCursor "size" type]
  top := [⟨0⟩]
  diagnostics := []

def windowRecord : Cursor := recordCursor ⟨0⟩ "window" "c:@S@window" [⟨1⟩, ⟨3⟩]

/-- In `struct window { struct { int w; } size; }` the field is the only member. -/
theorem members_of_window : ∃ id after,
    let unit := windowUnit (.elaborated (.tagged (some ⟨1⟩)))
    let children := unit.cursorsAt windowRecord.children
    (taggedNodeWithin unit (3 + 1) windowRecord).run (.start #[]) = .ok id after ∧
      ((∃ members, after.graph.members? id = some members ∧
          List.Forall₂ (Declares unit (taggedNodeWithin unit 3) (.start #[]) after)
            (children.filter (givesMember unit children)) members) ∧
        (children.filter (givesMember unit children) =
            children.filter (declaresMember unit children) ↔
          ∀ child ∈ children, child.isUnnamedRecord = true →
            (child.usr ∈ fieldTypes unit children ↔ child.key ∈ mentionedKeys unit children))) ∧
      (after.graph.members? id).map (List.map Member.name) = some [some "size"] := by
  have tested : gives (fun id after => decide (after.graph.isRecord id = true ∧
      (after.graph.members? id).map (List.map Member.name) = some [some "size"]))
      ((taggedNodeWithin (windowUnit (.elaborated (.tagged (some ⟨1⟩)))) (3 + 1) windowRecord).run
        (.start #[])) = true := by decide +kernel
  obtain ⟨id, after, done, shown⟩ := exists_of_gives tested
  obtain ⟨isRecord, names⟩ := of_decide_eq_true shown
  exact ⟨id, after, done, members_of_definition List.not_mem_nil rfl done isRecord, names⟩

/-- **A phantom member**: `struct window { struct { int w; } *size; }` declares one member
and gets two. -/
theorem phantom_member : ∃ id after,
    let unit := windowUnit (.pointer (.elaborated (.tagged (some ⟨1⟩))) none)
    let children := unit.cursorsAt windowRecord.children
    (taggedNode unit windowRecord).run (.start #[]) = .ok id after ∧
      (after.graph.members? id).map (List.map Member.name) = some [none, some "size"] ∧
      (children.filter (declaresMember unit children)).map Cursor.spelling = ["size"] := by
  have tested : gives (fun id after => decide (
      (after.graph.members? id).map (List.map Member.name) = some [none, some "size"]))
      ((taggedNode (windowUnit (.pointer (.elaborated (.tagged (some ⟨1⟩))) none)) windowRecord).run
        (.start #[])) = true := by decide +kernel
  obtain ⟨id, after, done, names⟩ := exists_of_gives tested
  exact ⟨id, after, done, of_decide_eq_true names, by decide +kernel⟩

end HeaderBind.Clang
