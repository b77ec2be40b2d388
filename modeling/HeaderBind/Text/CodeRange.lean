/-
# HeaderBind.Text.CodeRange — character classes as lists of code-point intervals

A class beyond ASCII is a table of closed intervals of code points.  Every class
of this library decides ASCII by a comparison of its own and looks only the
other characters up.
-/
namespace HeaderBind.Text

set_option autoImplicit false

/-- A closed interval of code points, first and last. -/
abbrev CodeRange := Nat × Nat

/-- Some interval of the table holds the code point. -/
def covers (table : List CodeRange) (code : Nat) : Bool :=
  table.any fun range => range.1 ≤ code && code ≤ range.2

/-- One of the first 128 code points. -/
def isAscii (c : Char) : Bool := c.toNat < 128

/-- A class given by its ASCII members and by a table of the others. -/
def inClass (ascii : Char → Bool) (table : List CodeRange) (c : Char) : Bool :=
  if isAscii c then ascii c else covers table c.toNat

theorem inClass_of_ascii {ascii : Char → Bool} {table : List CodeRange} {c : Char}
    (h : isAscii c = true) : inClass ascii table c = ascii c := by
  simp [inClass, h]

end HeaderBind.Text
