/-
# HeaderBind.Typedef.Table — what typedef names stand for

A table holds the typedefs of one run, the latest first, and the latest typedef
of a name counts.  The name that marks variadic arguments is in every table, and
no typedef changes what it stands for.
-/
import HeaderBind.CType.Basic

namespace HeaderBind

set_option autoImplicit false

/-- What a typedef name stands for. -/
inductive Meaning where
  /-- The rest of a variadic argument list. -/
  | variadic
  | type (ref : TypeRef)
deriving DecidableEq, Repr, Inhabited

/-- The variadic marker, and the typedefs, the latest first. -/
structure TypedefTable where
  marker : String
  entries : List (String × TypeRef)
deriving Repr, Inhabited

namespace TypedefTable

/-- The name that C compilers give the variadic marker. -/
def standardMarker : String := "__builtin_va_list"

/-- The table before any typedef. -/
def seeded (marker : String) : TypedefTable := ⟨marker, []⟩

/-- What a name stands for, if it is in the table. -/
def lookup (table : TypedefTable) (name : String) : Option Meaning :=
  if name = table.marker then some .variadic else (table.entries.lookup name).map .type

/-- The table with one more typedef. -/
def declare (table : TypedefTable) (name : String) (type : TypeRef) : TypedefTable :=
  { table with entries := (name, type) :: table.entries }

def contains (table : TypedefTable) (name : String) : Bool := (table.lookup name).isSome

/-- How many names the table holds, the marker included. -/
def size (table : TypedefTable) : Nat := (table.entries.map (·.1)).eraseDups.length + 1

@[simp] theorem marker_declare (table : TypedefTable) (name : String) (type : TypeRef) :
    (table.declare name type).marker = table.marker := rfl

theorem lookup_marker (table : TypedefTable) : table.lookup table.marker = some .variadic := by
  simp [lookup]

/-- The latest typedef of a name counts. -/
theorem lookup_declare_self {table : TypedefTable} {name : String} (h : name ≠ table.marker)
    (type : TypeRef) : (table.declare name type).lookup name = some (.type type) := by
  simp [lookup, declare, h]

/-- A typedef leaves the other names as they are. -/
theorem lookup_declare_ne (table : TypedefTable) {name other : String} (h : other ≠ name)
    (type : TypeRef) : (table.declare name type).lookup other = table.lookup other := by
  have hb : (other == name) = false := by simpa using h
  simp [lookup, declare, List.lookup_cons, hb]

end TypedefTable

end HeaderBind
