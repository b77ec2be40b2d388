/-
# HeaderBind.Proofs.Clang.Depth — how deep the reading of definitions goes

A definition has children, their types refer to declarations, and these lead to
definitions again, in circles if the unit has any.  `taggedLevel` is one round of this,
with the rounds below it left open, and every reader takes them as an argument.  A unit is
read with as many rounds as it has cursors, and one more.

It never gets that far (`unitLibrary_settled`).  Whatever stands below those rounds, be it
a fault or another reader, the unit is read the same, to a library or to an error: each
round marks a key that was not marked, which leaves fewer cursors to read (`Agrees`).  So
the reader does what the recursion without a bound does (`taggedNode_eq_level`), and it
goes into no definition for a key that has had one.
-/
import HeaderBind.Proofs.Clang.Visit

namespace HeaderBind.Clang

set_option autoImplicit false

open Outcome

/-! ## Rounds -/

/-- So many rounds, and `beyond` below them. -/
def taggedDown (unit : SourceUnit) (beyond : Cursor → Convert NodeId) :
    Nat → Cursor → Convert NodeId
  | 0 => beyond
  | depth + 1 => taggedLevel unit (taggedDown unit beyond depth)

/-- The reader goes down by such rounds, and gives a bare node below them. -/
theorem taggedDown_bareNode (unit : SourceUnit) (depth : Nat) :
    taggedDown unit bareNode depth = taggedNodeWithin unit depth := by
  induction depth with
  | zero => rfl
  | succ depth ih => rw [taggedDown, ih, taggedNodeWithin]

/-! ## Two readers that agree -/

/-- More keys are marked, none of them twice, and each at the cost of a cursor that was left
to read. -/
structure Conversion.Marks (unit : SourceUnit) (earlier later : Conversion) : Prop where
  kept : earlier.defined ⊆ later.defined
  once : earlier.defined.Nodup → later.defined.Nodup
  spent : (unread unit later.defined).length + later.defined.length ≤
    (unread unit earlier.defined).length + earlier.defined.length

namespace Conversion.Marks

variable {unit : SourceUnit}

theorem of_eq {earlier later : Conversion} (same : later.defined = earlier.defined) :
    earlier.Marks unit later := by
  constructor
  · rw [same]
    exact List.Subset.refl _
  · rw [same]
    exact id
  · apply Nat.le_of_eq
    rw [same]

instance : Std.Refl (Conversion.Marks unit) := ⟨fun _ => .of_eq rfl⟩

instance : IsTrans Conversion (Conversion.Marks unit) :=
  ⟨fun _ _ _ one two => ⟨List.Subset.trans one.kept two.kept, two.once ∘ one.once,
    Nat.le_trans two.spent one.spent⟩⟩

theorem mark {state : Conversion} {cursor : Cursor} (holds : unit.Holds cursor)
    (leads : (unit.definition? cursor).isSome = true) (fresh : cursor.key ∉ state.defined) :
    state.Marks unit (state.mark cursor.key) := by
  constructor
  · exact List.subset_cons_self _ _
  · exact fun once => List.nodup_cons.2 ⟨fresh, once⟩
  · have fewer := unread_cons_lt holds leads fresh
    show (unread unit (cursor.key :: state.defined)).length +
      (cursor.key :: state.defined).length ≤ _
    rw [List.length_cons]
    omega

end Conversion.Marks

open Conversion (Marks)

/-- The two do the same wherever fewer than `bound` cursors are left to read, and the first
goes into no definition twice. -/
structure Agrees {α : Type} (unit : SourceUnit) (bound : Nat) (x y : Convert α) : Prop where
  same : ∀ state, (unread unit state.defined).length < bound → x.run state = y.run state
  marks : Keeps (Marks unit) x

namespace Agrees

variable {α β : Type} {unit : SourceUnit} {bound : Nat} {x y : Convert α}

theorem refl (marks : Keeps (Marks unit) x) : Agrees unit bound x x := ⟨fun _ _ => rfl, marks⟩

theorem pure (a : α) : Agrees unit bound (pure a) (pure a) := .refl (Keeps.pure a)

/-- What comes next has no more cursors left to read. -/
theorem bind {f g : α → Convert β} (first : Agrees unit bound x y)
    (rest : ∀ a, Agrees unit bound (f a) (g a)) : Agrees unit bound (x >>= f) (y >>= g) where
  same state left := by
    rw [EStateM.run_bind, EStateM.run_bind, ← first.same state left]
    cases done : x.run state with
    | error fault middle => rfl
    | ok a middle =>
      have marked := first.marks.ok done
      have fewer := unread_length_mono unit marked.kept
      exact (rest a).same middle (Nat.lt_of_le_of_lt fewer left)
  marks := first.marks.bind fun a => (rest a).marks

theorem mapM {f g : α → Convert β} {as : List α}
    (each : ∀ a ∈ as, Agrees unit bound (f a) (g a)) :
    Agrees unit bound (as.mapM f) (as.mapM g) := by
  induction as with
  | nil => exact .pure []
  | cons a as ih =>
    rw [List.mapM_cons, List.mapM_cons]
    refine (each a List.mem_cons_self).bind fun b => ?_
    exact (ih fun other member => each other (List.mem_cons_of_mem a member)).bind fun _ => .pure _

theorem foldlM {f g : β → α → Convert β} {as : List α}
    (each : ∀ b, ∀ a ∈ as, Agrees unit bound (f b a) (g b a)) (b : β) :
    Agrees unit bound (as.foldlM f b) (as.foldlM g b) := by
  induction as generalizing b with
  | nil => exact .pure b
  | cons a as ih =>
    rw [List.foldlM_cons, List.foldlM_cons]
    refine (each b a List.mem_cons_self).bind fun c => ?_
    exact ih (fun d other member => each d other (List.mem_cons_of_mem a member)) c

/-- Where the bound is never reached, the two are one. -/
theorem eq (agree : Agrees unit (unit.cursors.size + 1) x y) : x = y := by
  funext state
  exact agree.same state (Nat.lt_succ_of_le (unread_length_le unit _))

end Agrees

/-! ## Steps that go into no definition -/

section Plain

variable {unit : SourceUnit}

theorem note_marks (text : String) : Keeps (Marks unit) (Convert.note text) :=
  Keeps.modify fun _ => .of_eq rfl

theorem addType_marks (type : CType) : Keeps (Marks unit) (Convert.addType type) := by
  intro state
  exact .of_eq rfl

theorem fill_marks (id : NodeId) (type : TaggedType) :
    Keeps (Marks unit) (modify fun state : Conversion =>
      { state with graph := state.graph.set id (.tagged type) } : Convert Unit) :=
  Keeps.modify fun _ => .of_eq rfl

theorem bareNode_marks (cursor : Cursor) : Keeps (Marks unit) (bareNode cursor) := by
  intro state
  rcases bareNode_cases cursor state with ⟨id, run, -⟩ | ⟨fault, run⟩ | ⟨-, tag, -, run⟩
  all_goals
    rw [run]
    exact .of_eq rfl

end Plain

/-! ## Readers of types and members -/

section Levels

variable {unit : SourceUnit} {bound : Nat} {tagged other : Cursor → Convert NodeId}

mutual

theorem typeNode_agrees
    (each : ∀ cursor, unit.Holds cursor → Agrees unit bound (tagged cursor) (other cursor))
    (type : SourceType) :
    Agrees unit bound (typeNode unit tagged type) (typeNode unit other type) := by
  cases type with
  | elaborated named =>
    rw [typeNode, typeNode]
    exact typeNode_agrees each named
  | pointer pointee declaration =>
    rw [typeNode, typeNode]
    exact (typeNode_agrees each pointee).bind fun _ => .refl (addType_marks _)
  | typedefName declaration =>
    rw [typeNode, typeNode]
    exact .refl (addType_marks _)
  | tagged declaration =>
    rw [typeNode, typeNode]
    exact (each _ (unit.holds_declaration declaration)).bind fun _ => .pure _
  | prototype params result variadic declaration =>
    rw [typeNode, typeNode]
    refine (typeNodes_agrees each params).bind fun _ => ?_
    exact (typeNode_agrees each result).bind fun _ => .refl (addType_marks _)
  | noPrototype result declaration =>
    rw [typeNode, typeNode]
    exact (typeNode_agrees each result).bind fun _ => .refl (addType_marks _)
  | leaf kind spelling declaration =>
    rw [typeNode, typeNode]
    split
    · exact .refl (addType_marks _)
    · exact .refl ((note_marks _).bind fun _ => addType_marks _)

theorem typeNodes_agrees
    (each : ∀ cursor, unit.Holds cursor → Agrees unit bound (tagged cursor) (other cursor))
    (types : List SourceType) :
    Agrees unit bound (typeNodes unit tagged types) (typeNodes unit other types) := by
  cases types with
  | nil =>
    rw [typeNodes, typeNodes]
    exact .pure []
  | cons type rest =>
    rw [typeNodes, typeNodes]
    refine (typeNode_agrees each type).bind fun _ => ?_
    exact (typeNodes_agrees each rest).bind fun _ => .pure _

end

variable (each : ∀ cursor, unit.Holds cursor → Agrees unit bound (tagged cursor) (other cursor))

include each

theorem memberOf?_agrees (fields : List String) {child : Cursor} (holds : unit.Holds child) :
    Agrees unit bound (memberOf? unit tagged fields child) (memberOf? unit other fields child) := by
  unfold memberOf?
  split
  · exact (typeNode_agrees each child.type).bind fun _ => .pure _
  · split
    · exact (each child holds).bind fun _ => .pure _
    · exact .pure none

theorem membersOf_agrees (definition : Cursor) :
    Agrees unit bound (membersOf unit tagged definition) (membersOf unit other definition) := by
  refine (Agrees.mapM fun child member => ?_).bind fun _ => .pure _
  exact memberOf?_agrees each _ (SourceUnit.holds_of_mem member)

theorem fillNode_agrees (id : NodeId) (definition : Cursor) :
    Agrees unit bound (fillNode unit tagged id definition) (fillNode unit other id definition) := by
  unfold fillNode
  refine (Agrees.refl Keeps.get).bind fun state => ?_
  split
  · exact .pure ()
  · refine (Agrees.refl (note_marks _)).bind fun _ => ?_
    split
    · exact (membersOf_agrees each definition).bind fun _ => .refl (fill_marks id _)
    · exact .refl (fill_marks id _)

/-- A round marks its own key, if that leads to a definition, and those of the rounds below. -/
theorem taggedLevel_marks {cursor : Cursor} (holds : unit.Holds cursor) :
    Keeps (Marks unit) (taggedLevel unit tagged cursor) := by
  intro state
  have bare : state.Marks unit (left ((bareNode cursor).run state)) := bareNode_marks cursor state
  cases named : (bareNode cursor).run state with
  | error fault middle =>
    rw [named] at bare
    rwa [taggedLevel_run_error _ named]
  | ok id middle =>
    rw [named] at bare
    rw [taggedLevel_run _ named]
    by_cases known : cursor.key ∈ middle.defined
    · rwa [if_pos known]
    · rw [if_neg known]
      cases leads : unit.definition? cursor with
      | none => exact bare
      | some definition =>
        have marked := Marks.mark holds (by rw [leads, Option.isSome_some]) known
        have below := ((fillNode_agrees each id definition).bind fun _ => .pure id).marks
        exact IsTrans.trans _ _ _ (IsTrans.trans _ _ _ bare marked) (below _)

/-- A round marks its key before it goes on, so that one cursor less is left to read. -/
theorem taggedLevel_agrees {cursor : Cursor} (holds : unit.Holds cursor) :
    Agrees unit (bound + 1) (taggedLevel unit tagged cursor) (taggedLevel unit other cursor) := by
  refine ⟨fun state left => ?_, taggedLevel_marks each holds⟩
  cases named : (bareNode cursor).run state with
  | error fault middle => rw [taggedLevel_run_error _ named, taggedLevel_run_error _ named]
  | ok id middle =>
    rw [taggedLevel_run _ named, taggedLevel_run _ named]
    by_cases known : cursor.key ∈ middle.defined
    · rw [if_pos known, if_pos known]
    · rw [if_neg known, if_neg known]
      cases leads : unit.definition? cursor with
      | none => rfl
      | some definition =>
        rw [← bareNode_defined named] at left
        have fewer := unread_cons_lt holds (Option.isSome_iff_exists.2 ⟨_, leads⟩) known
        exact ((fillNode_agrees each id definition).bind fun _ => .pure id).same _
          (Nat.lt_of_lt_of_le fewer (Nat.le_of_lt_succ left))

end Levels

/-- The rounds above `beyond` do not get there.  By induction on the rounds: each leaves one
cursor less, and with none there is no round to make. -/
theorem taggedDown_agrees {unit : SourceUnit} (beyond : Cursor → Convert NodeId) (depth : Nat)
    {cursor : Cursor} (holds : unit.Holds cursor) :
    Agrees unit depth (taggedDown unit bareNode depth cursor)
      (taggedDown unit beyond depth cursor) := by
  induction depth generalizing cursor with
  | zero => exact ⟨fun _ left => absurd left (Nat.not_lt_zero _), bareNode_marks cursor⟩
  | succ depth ih => exact taggedLevel_agrees (fun _ held => ih held) holds

/-- A visit is the same whatever stands below the rounds. -/
theorem taggedNode_agrees (unit : SourceUnit) (beyond : Cursor → Convert NodeId)
    (cursor : Cursor) (holds : unit.Holds cursor) :
    Agrees unit (unit.cursors.size + 1) (taggedNode unit cursor)
      (taggedDown unit beyond (unit.cursors.size + 1) cursor) := by
  have visit := taggedDown_agrees beyond (unit.cursors.size + 1) holds
  rwa [taggedDown_bareNode] at visit

theorem taggedDown_level (unit : SourceUnit) (beyond : Cursor → Convert NodeId) (depth : Nat) :
    taggedDown unit (taggedLevel unit beyond) depth =
      taggedLevel unit (taggedDown unit beyond depth) := by
  induction depth with
  | zero => rfl
  | succ depth ih => rw [taggedDown, ih, ← taggedDown, ← taggedDown]

/-- **The recursion without a bound**: a visit reads the definition, if it is the first of its
key, by visits. -/
theorem taggedNode_eq_level {unit : SourceUnit} {cursor : Cursor} (holds : unit.Holds cursor) :
    taggedNode unit cursor = taggedLevel unit (taggedNode unit) cursor := by
  have visit := (taggedNode_agrees unit (taggedLevel unit bareNode) cursor holds).eq
  rwa [taggedDown_level, taggedDown_bareNode] at visit

/-! ## Declarations -/

section Declarations

variable {unit : SourceUnit} {bound : Nat} {tagged other : Cursor → Convert NodeId}
  (each : ∀ cursor, unit.Holds cursor → Agrees unit bound (tagged cursor) (other cursor))

include each

theorem functionTypedef_agrees (name : String) (parts : FunctionParts)
    {declaratorType : TypeRef → Convert TypeRef}
    (declarator : ∀ function, Keeps (Marks unit) (declaratorType function)) :
    Agrees unit bound (functionTypedef unit tagged name parts declaratorType)
      (functionTypedef unit other name parts declaratorType) := by
  refine (typeNode_agrees each parts.result).bind fun _ => ?_
  refine (typeNodes_agrees each parts.params).bind fun _ => ?_
  refine (Agrees.refl (addType_marks _)).bind fun function => ?_
  exact (Agrees.refl (declarator function)).bind fun _ => .pure _

theorem typedefDeclaration_agrees (cursor : Cursor) :
    Agrees unit bound (typedefDeclaration unit tagged cursor)
      (typedefDeclaration unit other cursor) := by
  unfold typedefDeclaration
  dsimp only
  split
  · exact functionTypedef_agrees each _ _ fun _ => addType_marks _
  · split
    · exact functionTypedef_agrees each _ _ fun _ => Keeps.pure _
    · exact (typeNode_agrees each cursor.underlying).bind fun _ => .pure _

theorem argumentParams_agrees (arguments : List CursorId) :
    Agrees unit bound (argumentParams unit tagged arguments)
      (argumentParams unit other arguments) := by
  refine Agrees.mapM fun argument _ => ?_
  exact (typeNode_agrees each argument.type).bind fun _ => .pure _

theorem functionDeclaration_agrees (cursor : Cursor) :
    Agrees unit bound (functionDeclaration unit tagged cursor)
      (functionDeclaration unit other cursor) := by
  refine (argumentParams_agrees each cursor.arguments).bind fun _ => ?_
  refine (typeNode_agrees each cursor.resultType).bind fun _ => ?_
  split
  · exact (Agrees.refl (addType_marks _)).bind fun _ => .pure _
  · exact (Agrees.refl (addType_marks _)).bind fun _ => .pure _

theorem declarationReader?_agrees {cursor : Cursor} {reader : DeclarationReader}
    (isReader : declarationReader? cursor.kind = some reader) (holds : unit.Holds cursor) :
    Agrees unit bound (reader unit tagged cursor) (reader unit other cursor) := by
  rcases declarationReader?_cases isReader with ⟨-, rfl⟩ | ⟨-, rfl⟩ | ⟨-, rfl⟩ | ⟨-, rfl⟩
  · exact (each cursor holds).bind fun _ => .pure _
  · exact functionDeclaration_agrees each cursor
  · exact typedefDeclaration_agrees each cursor
  · exact (typeNode_agrees each cursor.type).bind fun _ => .pure _

theorem addCursor_agrees {cursor : Cursor} (holds : unit.Holds cursor) (files : FileTable) :
    Agrees unit bound (addCursor unit tagged files cursor)
      (addCursor unit other files cursor) := by
  unfold addCursor
  cases cursor.file with
  | none => exact .pure files
  | some file =>
    cases isReader : declarationReader? cursor.kind with
    | none => exact .pure files
    | some reader => exact (declarationReader?_agrees each isReader holds).bind fun _ => .pure _

theorem unitLibraryWith_agrees (headers : List String) :
    Agrees unit bound (unitLibraryWith unit tagged headers)
      (unitLibraryWith unit other headers) := by
  refine (Agrees.foldlM (fun files cursor member => ?_) _).bind fun _ => .pure _
  exact addCursor_agrees each (SourceUnit.holds_of_mem member) files

end Declarations

/-! ## A unit -/

/-- **Reading a unit ends.**  Going down by one round more than the unit has cursors, it gives
the library or the error that it gives with anything else below those rounds, which is what
the recursion without a bound gives.  However it ends, it went into the definition of each key
at most once, and into no more definitions than there are cursors. -/
theorem unitLibrary_settled (unit : SourceUnit) (headers : List String) :
    (∀ beyond : Cursor → Convert NodeId,
      unitLibraryWith unit (taggedDown unit beyond (unit.cursors.size + 1)) headers =
        unitLibrary unit headers) ∧
      (∀ cursor, unit.Holds cursor →
        taggedNode unit cursor = taggedLevel unit (taggedNode unit) cursor) ∧
      ∀ journal,
        (left ((unitLibrary unit headers).run (.start journal))).defined.Nodup ∧
        (left ((unitLibrary unit headers).run (.start journal))).defined.length ≤
          unit.cursors.size := by
  refine ⟨fun beyond => ?_, fun cursor holds => taggedNode_eq_level holds, fun journal => ?_⟩
  · exact (unitLibraryWith_agrees (taggedNode_agrees unit beyond) headers).eq.symm
  · have keeps : Keeps (Marks unit) (unitLibrary unit headers) :=
      (unitLibraryWith_agrees (taggedNode_agrees unit bareNode) headers).marks
    have marks := keeps (.start journal)
    constructor
    · exact marks.once List.nodup_nil
    · have few := unread_length_le unit (Conversion.start journal).defined
      have spent := marks.spent
      have none : (Conversion.start journal).defined.length = 0 := rfl
      omega

end HeaderBind.Clang
