/-
# HeaderBind.Proofs.Clang.Visits — which declarations of tagged types are visited

Reading a unit visits declarations of structures, unions and enumerations: those at
the top level, and those that the types it converts refer to.  The first visited
declaration of a key that has a definition leads on to what the members of that
definition refer to, before anything else is visited; every other visit leads nowhere.

`Visits unit visited pending last` tells this without nodes or states: with `visited`
behind it and `pending` before it, reading the unit ends up having visited `last`.
There is one such list (`Visits.unique`), and it continues what was visited before
(`Visits.continues`).
-/
import HeaderBind.Clang.Reading

namespace HeaderBind.Clang

set_option autoImplicit false

/-! ## What refers to a declaration -/

mutual

/-- The declarations of tagged types that a type refers to, in order. -/
def references (unit : SourceUnit) : SourceType → List Cursor
  | .elaborated named => references unit named
  | .pointer pointee _ => references unit pointee
  | .typedefName _ => []
  | .tagged declaration => [unit.declaration declaration]
  | .prototype params result _ _ => allReferences unit params ++ references unit result
  | .noPrototype result _ => references unit result
  | .leaf _ _ _ => []

def allReferences (unit : SourceUnit) : List SourceType → List Cursor
  | [] => []
  | type :: rest => references unit type ++ allReferences unit rest

end

/-- The declarations that a child of a record refers to as a member. -/
def childReferences (unit : SourceUnit) (named : List String) (child : Cursor) : List Cursor :=
  if child.kind = .fieldDecl then references unit child.type
  else if isAnonymousMember named child then [child]
  else []

/-- The declarations that the members of a record refer to. -/
def memberReferences (unit : SourceUnit) (definition : Cursor) : List Cursor :=
  (unit.cursorsAt definition.children).flatMap
    (childReferences unit (fieldTypes unit (unit.cursorsAt definition.children)))

/-- The declarations that a typedef of a function type refers to. -/
def partsReferences (unit : SourceUnit) (parts : FunctionParts) : List Cursor :=
  references unit parts.result ++ allReferences unit parts.params

def typedefReferences (unit : SourceUnit) (underlying : SourceType) : List Cursor :=
  match underlying.stripped.pointedParts? with
  | some parts => partsReferences unit parts
  | none =>
      match underlying.stripped.functionParts? with
      | some parts => partsReferences unit parts
      | none => references unit underlying

def functionReferences (unit : SourceUnit) (cursor : Cursor) : List Cursor :=
  ((unit.cursorsAt cursor.arguments).flatMap fun argument => references unit argument.type) ++
    references unit cursor.resultType

/-- The declarations that a top-level cursor refers to; one of a tagged type is among
them. -/
def declarationReferences (unit : SourceUnit) (cursor : Cursor) : List Cursor :=
  match cursor.kind with
  | .functionDecl => functionReferences unit cursor
  | .typedefDecl => typedefReferences unit cursor.underlying
  | .varDecl => references unit cursor.type
  | .structDecl => [cursor]
  | .unionDecl => [cursor]
  | .enumDecl => [cursor]
  | _ => []

/-- A cursor with the file its declaration is listed under. -/
def listed? (cursor : Cursor) : Option (String × Cursor) :=
  match cursor.file, declarationReader? cursor.kind with
  | some file, some _ => some (file, cursor)
  | _, _ => none

namespace SourceUnit

/-- The top-level cursors that are declarations and stand in a file, with that file. -/
def listed (unit : SourceUnit) : List (String × Cursor) :=
  (unit.cursorsAt unit.top).filterMap listed?

/-- The declarations of tagged types that those cursors refer to. -/
def references (unit : SourceUnit) : List Cursor :=
  unit.listed.flatMap fun entry => declarationReferences unit entry.2

end SourceUnit

/-! ## Declarations of one key -/

/-- The first visited declaration of a key. -/
def firstOf? (visited : List Cursor) (key : String) : Option Cursor :=
  visited.find? fun cursor => cursor.key = key

/-- The definition of the first visited declaration of a key that has one. -/
def definitionOf? (unit : SourceUnit) (visited : List Cursor) (key : String) : Option Cursor :=
  (visited.filter fun cursor => cursor.key = key).findSome? unit.definition?

section Keys

variable {unit : SourceUnit} {visited more : List Cursor} {cursor first definition : Cursor}
  {key : String}

theorem firstOf?_append (known : firstOf? visited key = some first) :
    firstOf? (visited ++ more) key = some first := by
  rw [firstOf?, List.find?_append, ← firstOf?, known, Option.some_or]

theorem firstOf?_concat_self (fresh : key ∉ visited.map Cursor.key) (same : cursor.key = key) :
    firstOf? (visited ++ [cursor]) key = some cursor := by
  have none : visited.find? (fun cursor => cursor.key = key) = none := by
    rw [List.find?_eq_none]
    intro other member isKey
    exact fresh (List.mem_map.2 ⟨other, member, of_decide_eq_true isKey⟩)
  rw [firstOf?, List.find?_append, none, Option.none_or, List.find?_cons_of_pos]
  exact decide_eq_true same

theorem definitionOf?_append :
    definitionOf? unit (visited ++ more) key =
      (definitionOf? unit visited key).or (definitionOf? unit more key) := by
  rw [definitionOf?, List.filter_append, List.findSome?_append]
  rfl

theorem definitionOf?_append_of_some (known : definitionOf? unit visited key = some definition) :
    definitionOf? unit (visited ++ more) key = some definition := by
  rw [definitionOf?_append, known, Option.some_or]

theorem definitionOf?_concat_ne (other : cursor.key ≠ key) :
    definitionOf? unit (visited ++ [cursor]) key = definitionOf? unit visited key := by
  have skipped : definitionOf? unit [cursor] key = none := by
    rw [definitionOf?, List.filter_cons_of_neg (by simpa using other)]
    rfl
  rw [definitionOf?_append, skipped, Option.or_none]

theorem definitionOf?_concat_self :
    definitionOf? unit (visited ++ [cursor]) cursor.key =
      (definitionOf? unit visited cursor.key).or (unit.definition? cursor) := by
  have taken : definitionOf? unit [cursor] cursor.key = unit.definition? cursor := by
    rw [definitionOf?, List.filter_cons_of_pos (by simp), List.filter_nil,
      List.findSome?_singleton]
  rw [definitionOf?_append, taken]

/-- A visit that brings no new definition. -/
theorem definitionOf?_concat_of_known
    (settled : (definitionOf? unit visited cursor.key).isSome = true ∨
      unit.definition? cursor = none) (key : String) :
    definitionOf? unit (visited ++ [cursor]) key = definitionOf? unit visited key := by
  by_cases same : cursor.key = key
  · subst same
    rw [definitionOf?_concat_self]
    rcases settled with known | missing
    · obtain ⟨definition, known⟩ := Option.isSome_iff_exists.1 known
      rw [known, Option.some_or]
    · rw [missing, Option.or_none]
  · exact definitionOf?_concat_ne same

theorem definitionOf?_eq_none_iff :
    definitionOf? unit visited key = none ↔
      ∀ cursor ∈ visited, cursor.key = key → unit.definition? cursor = none := by
  simp [definitionOf?, List.findSome?_eq_none_iff]

end Keys

/-! ## The order of the visits -/

/-- The tag of a key is that of its first visited declaration. -/
def tagOf? (visited : List Cursor) (key : String) : Option Tag :=
  (firstOf? visited key).bind fun first => first.kind.tag?

/-- What a visit leads on to. -/
def next (unit : SourceUnit) (visited : List Cursor) (cursor : Cursor) : List Cursor :=
  if (definitionOf? unit visited cursor.key).isSome then []
  else
    match unit.definition? cursor with
    | none => []
    | some definition =>
        if tagOf? (visited ++ [cursor]) cursor.key = some .enum then []
        else memberReferences unit definition

theorem next_of_settled {unit : SourceUnit} {visited : List Cursor} {cursor : Cursor}
    (settled : (definitionOf? unit visited cursor.key).isSome = true ∨
      unit.definition? cursor = none) : next unit visited cursor = [] := by
  unfold next
  split
  · rfl
  · rename_i unmet
    rw [settled.resolve_left unmet]

theorem next_of_definition {unit : SourceUnit} {visited : List Cursor} {cursor definition : Cursor}
    (fresh : definitionOf? unit visited cursor.key = none)
    (leads : unit.definition? cursor = some definition) :
    next unit visited cursor =
      if tagOf? (visited ++ [cursor]) cursor.key = some .enum then []
      else memberReferences unit definition := by
  simp [next, fresh, leads]

/-- With the first list visited, and the second to be visited, the last will be. -/
inductive Visits (unit : SourceUnit) : List Cursor → List Cursor → List Cursor → Prop where
  | done (visited : List Cursor) : Visits unit visited [] visited
  | step {visited pending last : List Cursor} {cursor : Cursor}
      (rest : Visits unit (visited ++ [cursor]) (next unit visited cursor ++ pending) last) :
      Visits unit visited (cursor :: pending) last

namespace Visits

variable {unit : SourceUnit} {visited pending more middle last : List Cursor}

theorem append (one : Visits unit visited pending middle) (two : Visits unit middle more last) :
    Visits unit visited (pending ++ more) last := by
  induction one with
  | done visited => exact two
  | step rest ih =>
    have continued := ih two
    rw [List.append_assoc] at continued
    exact .step continued

/-- One declaration and all it leads on to. -/
theorem single {cursor : Cursor}
    (rest : Visits unit (visited ++ [cursor]) (next unit visited cursor) last) :
    Visits unit visited [cursor] last := by
  refine .step ?_
  rwa [List.append_nil]

theorem continues (visits : Visits unit visited pending last) : visited <+: last := by
  induction visits with
  | done visited => exact List.prefix_refl visited
  | step rest ih => exact (List.prefix_append _ _).trans ih

theorem unique {other : List Cursor} (one : Visits unit visited pending last)
    (two : Visits unit visited pending other) : other = last := by
  induction one with
  | done visited =>
    cases two
    rfl
  | step rest ih =>
    cases two with
    | step others => exact ih others

end Visits

end HeaderBind.Clang
