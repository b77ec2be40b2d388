/-
# HeaderBind.TypeName.Table — names given to types that have none of their own

The first name given to a type stays.  Types that nothing names are numbered in
the order in which their names are asked for.
-/
import HeaderBind.CType.Basic

namespace HeaderBind

set_option autoImplicit false

/-- The names given so far, and how many of them are numbered. -/
structure NameTable where
  given : List (NodeId × String)
  numbered : Nat
deriving DecidableEq, Repr, Inhabited

namespace NameTable

def empty : NameTable := ⟨[], 0⟩

/-- The name given to a type. -/
def find? (names : NameTable) (id : NodeId) : Option String := names.given.lookup id

/-- Gives a type a name unless it was given one before; the name that holds. -/
def give (names : NameTable) (id : NodeId) (name : String) : String × NameTable :=
  match names.find? id with
  | some earlier => (earlier, names)
  | none => (name, { names with given := (id, name) :: names.given })

/-- Gives a type of the given tag the next numbered name. -/
def number (names : NameTable) (id : NodeId) (tag : Tag) : String × NameTable :=
  let count := names.numbered + 1
  { names with numbered := count }.give id (Identifier.numberedName tag.keyword count)

/-- The name of a tagged type: its own, else the given one, else a new numbered one. -/
def nameFor (names : NameTable) (id : NodeId) (type : TaggedType) : String × NameTable :=
  match type.ownName? with
  | some own => (own, names)
  | none =>
      match names.find? id with
      | some given => (given, names)
      | none => names.number id type.tag

theorem find?_give_self (names : NameTable) (id : NodeId) (name : String) :
    (names.give id name).2.find? id = some (names.give id name).1 := by
  unfold give
  split
  · next h => exact h
  · simp [find?]

theorem find?_give_ne (names : NameTable) {id other : NodeId} (h : other ≠ id) (name : String) :
    (names.give id name).2.find? other = names.find? other := by
  have hb : (other == id) = false := by simpa using h
  unfold give
  split
  · rfl
  · simp [find?, List.lookup_cons, hb]

end NameTable

end HeaderBind
