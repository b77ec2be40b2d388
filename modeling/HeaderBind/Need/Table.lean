/-
# HeaderBind.Need.Table — the types that bindings need, and what uses them

Types stand in the order in which they were first needed, each with the names of
its users, in order and without repetition.  A user is a function or a callback.
-/
import HeaderBind.CType.Basic

namespace HeaderBind

set_option autoImplicit false

structure NeedTable where
  entries : List (NodeId × List String)
deriving DecidableEq, Repr, Inhabited

namespace NeedTable

def empty : NeedTable := ⟨[]⟩

/-- The users of a type, if it is needed. -/
def find? (needs : NeedTable) (id : NodeId) : Option (List String) := needs.entries.lookup id

def contains (needs : NeedTable) (id : NodeId) : Bool := (needs.find? id).isSome

/-- The users of a type. -/
def users (needs : NeedTable) (id : NodeId) : List String := (needs.find? id).getD []

/-- The needed types in order. -/
def types (needs : NeedTable) : List NodeId := needs.entries.map (·.1)

def size (needs : NeedTable) : Nat := needs.entries.length

/-- Users with one more at the end, unless it is there. -/
def addUser (users : List String) (user : String) : List String :=
  if user ∈ users then users else users ++ [user]

/-- The entries with one more user of one type. -/
def addEntry (id : NodeId) (user : String) :
    List (NodeId × List String) → List (NodeId × List String)
  | [] => [(id, [user])]
  | (key, users) :: rest =>
      if key = id then (key, addUser users user) :: rest
      else (key, users) :: addEntry id user rest

/-- Records that a type has a user. -/
def add (needs : NeedTable) (id : NodeId) (user : String) : NeedTable :=
  ⟨addEntry id user needs.entries⟩

theorem lookup_addEntry_self (id : NodeId) (user : String)
    (entries : List (NodeId × List String)) :
    (addEntry id user entries).lookup id = some (addUser ((entries.lookup id).getD []) user) := by
  induction entries with
  | nil => simp [addEntry, addUser]
  | cons entry rest ih =>
    obtain ⟨key, users⟩ := entry
    by_cases h : key = id
    · subst h; simp [addEntry]
    · have hb : (id == key) = false := by simpa using fun e => h (Eq.symm e)
      simp [addEntry, h, List.lookup_cons, hb, ih]

theorem lookup_addEntry_ne {id other : NodeId} (h : other ≠ id) (user : String)
    (entries : List (NodeId × List String)) :
    (addEntry id user entries).lookup other = entries.lookup other := by
  induction entries with
  | nil =>
    have hb : (other == id) = false := by simpa using h
    simp [addEntry, List.lookup_cons, hb]
  | cons entry rest ih =>
    obtain ⟨key, users⟩ := entry
    by_cases hk : key = id
    · subst hk
      have hb : (other == key) = false := by simpa using h
      simp [addEntry, List.lookup_cons, hb]
    · simp [addEntry, hk, List.lookup_cons, ih]

/-- The users of a type after it got one more. -/
theorem users_add_self (needs : NeedTable) (id : NodeId) (user : String) :
    (needs.add id user).users id = addUser (needs.users id) user := by
  simp [users, find?, add, lookup_addEntry_self]

/-- Another type keeps its users. -/
theorem find?_add_ne (needs : NeedTable) {id other : NodeId} (h : other ≠ id) (user : String) :
    (needs.add id user).find? other = needs.find? other := by
  simp [find?, add, lookup_addEntry_ne h]

theorem find?_add (needs : NeedTable) (id other : NodeId) (user : String) :
    (needs.add id user).find? other =
      if other = id then some (addUser (needs.users id) user) else needs.find? other := by
  split
  · rename_i same
    subst same
    exact lookup_addEntry_self other user needs.entries
  · rename_i differ
    exact find?_add_ne needs differ user

/-- What was needed is needed still. -/
theorem contains_add {needs : NeedTable} {other : NodeId} (h : needs.contains other = true)
    (id : NodeId) (user : String) : (needs.add id user).contains other = true := by
  rw [contains, find?_add]
  split
  · rfl
  · exact h

/-- The types in the table are those that are needed. -/
theorem mem_types_iff {needs : NeedTable} {id : NodeId} :
    id ∈ needs.types ↔ needs.contains id = true := by
  rw [types, contains, find?, List.lookup_isSome_iff, List.mem_map]
  exact exists_congr fun entry => and_congr_right fun _ => by rw [beq_iff_eq, eq_comm]

end NeedTable

end HeaderBind
