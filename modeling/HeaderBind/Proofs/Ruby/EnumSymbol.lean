/-
# HeaderBind.Proofs.Ruby.EnumSymbol — the symbols of enumerations

The source makes the symbol of an enumeration from its constant, which is the camel case of its
C name.  Where the C name is made of parts, the symbol is the C name again
(`enumSymbol_of_parts`): camel case leaves a capital at the beginning of each part, and what
opens words finds all of these but the first, and nothing else.

A part of one letter would not do.  Its capital stands next to that of the part after it, where
no word is opened: `a_b_c` has the symbol `abc`.
-/
import HeaderBind.Proofs.Identifier.Case
import HeaderBind.Proofs.Identifier.Substitution
import HeaderBind.Proofs.Ruby.Definitions
import HeaderBind.Proofs.TypeName.Decided

namespace HeaderBind.Ruby

set_option autoImplicit false

open Identifier Outcome

/-- The name that is made of parts, with an underscore between each two. -/
def joinedParts (parts : List String) : String := "_".intercalate parts

theorem toList_joinedParts (parts : List String) :
    (joinedParts parts).toList = List.intercalate ['_'] (parts.map String.toList) := by
  rw [joinedParts, String.toList_intercalate]
  rfl

/-- An enumeration is bound to the camel case of its C name. -/
theorem name_of_bindEnums {scope : Scope} {enums : List EnumBinding} {ledger after : Ledger}
    (done : scope.bindEnums.run ledger = .ok enums after) :
    ∀ binding ∈ enums, binding.name = camelCase binding.cName := by
  intro binding member
  obtain ⟨id, -, -, named⟩ := exists_of_forall₂ (Scope.bindEnums_describes done) member
  exact named

section

variable {parts : List String}

theorem isPart_of_mem_chars (each : ∀ part ∈ parts, isPart part.toList = true) :
    ∀ part ∈ parts.map String.toList, isPart part = true := by
  intro part member
  obtain ⟨text, isText, rfl⟩ := List.mem_map.1 member
  exact each text isText

theorem separateFrom_camelCase_joinedParts (nonempty : parts ≠ [])
    (each : ∀ part ∈ parts, isPart part.toList = true) :
    separateFrom none (camelCase (joinedParts parts)).toList =
      List.intercalate ['_'] (parts.map fun part => capitalPart part.toList) := by
  have chars : parts.map String.toList ≠ [] := by simpa using nonempty
  rw [camelCase, String.toList_ofList, toList_joinedParts,
    separateFrom_camelCaseChars chars (isPart_of_mem_chars each), List.map_map]
  rfl

theorem snakeCase_camelCase_joinedParts (nonempty : parts ≠ [])
    (each : ∀ part ∈ parts, isPart part.toList = true) :
    snakeCase (camelCase (joinedParts parts)) = joinedParts parts := by
  have chars : parts.map String.toList ≠ [] := by simpa using nonempty
  rw [snakeCase, camelCase, String.toList_ofList, toList_joinedParts,
    snakeCaseChars_camelCaseChars chars (isPart_of_mem_chars each), ← toList_joinedParts,
    String.ofList_toList]

example : snakeCase (camelCase "a_b_c") = "abc" := by decide +kernel

/-- **An enumeration whose C name is made of parts has its C name for a symbol.**  Snake case
undoes camel case on such names: of the constant, every part but the first is opened, and
nothing else.  So the lines of the enumeration have the C name for its symbol, whatever else is
bound with it. -/
theorem enumSymbol_of_parts (nonempty : parts ≠ [])
    (each : ∀ part ∈ parts, isPart part.toList = true) :
    snakeCase (camelCase (joinedParts parts)) = joinedParts parts ∧
    (∀ opened, Opened (camelCase (joinedParts parts)).toList opened ↔
      opened = List.intercalate ['_'] (parts.map fun part => capitalPart part.toList)) ∧
    ∀ (scope : Scope) (ledger after : Ledger) (enums : List EnumBinding),
      scope.bindEnums.run ledger = .ok enums after →
        ∀ binding ∈ enums, binding.cName = joinedParts parts →
          enumLines binding = [usersComment binding.users,
            camelCase (joinedParts parts) ++ " = enum " ++ symbol (joinedParts parts) ++ ", ["] ++
            binding.entries.map entryLine ++ ["]"] := by
  have undone := snakeCase_camelCase_joinedParts nonempty each
  refine ⟨undone, fun opened => ?_, ?_⟩
  · rw [← separateFrom_eq_iff, separateFrom_camelCase_joinedParts nonempty each, eq_comm]
  · intro scope ledger after enums done binding member named
    rw [enumLines, name_of_bindEnums done binding member, named, undone]

end

/-- Parts with a digit at the end. -/
def formatParts : List String := ["pixel", "fmt2", "x11"]

/-- An enumeration with the name that they make. -/
def formatScope : Scope where
  graph := ⟨#[.tagged ⟨.enum, "pixel_fmt2_x11", none, [⟨"RGB", none⟩, ⟨"BGR", some "1 << 2"⟩]⟩]⟩
  typedefs := .seeded "va"

def formatBinding : EnumBinding :=
  ⟨"PixelFmt2X11", "pixel_fmt2_x11", [⟨"RGB", none⟩, ⟨"BGR", some "1 << 2"⟩], ["draw"], 0⟩

theorem enumSymbol_of_parts_format :
    formatParts ≠ [] ∧ (∀ part ∈ formatParts, isPart part.toList = true) ∧
    snakeCase (camelCase (joinedParts formatParts)) = "pixel_fmt2_x11" ∧
    Opened "PixelFmt2X11".toList "Pixel_Fmt2_X11".toList ∧
    ∃ after, formatScope.bindEnums.run { Ledger.empty with needs := ⟨[(⟨0⟩, ["draw"])]⟩ } =
        .ok [formatBinding] after ∧
      enumLines formatBinding =
        ["# draw", "PixelFmt2X11 = enum :pixel_fmt2_x11, [", "  :RGB,", "  :BGR, 1 << 2,",
          "]"] := by
  have nonempty : formatParts ≠ [] := by decide
  have each : ∀ part ∈ formatParts, isPart part.toList = true := by decide +kernel
  have name : joinedParts formatParts = "pixel_fmt2_x11" := by decide +kernel
  have constant : camelCase "pixel_fmt2_x11" = "PixelFmt2X11" := by decide +kernel
  have tested : gives (fun enums _ => decide (enums = [formatBinding]))
      (formatScope.bindEnums.run { Ledger.empty with needs := ⟨[(⟨0⟩, ["draw"])]⟩ }) = true := by
    decide +kernel
  obtain ⟨enums, after, done, shown⟩ := exists_of_gives tested
  obtain rfl := of_decide_eq_true shown
  obtain ⟨undone, opened, symbols⟩ := enumSymbol_of_parts nonempty each
  rw [name, constant] at opened
  have lines := symbols formatScope _ after _ done formatBinding List.mem_cons_self name.symm
  rw [name, constant] at lines
  refine ⟨nonempty, each, undone.trans name, (opened _).2 (by decide +kernel), after, done, ?_⟩
  rw [lines]
  decide +kernel

end HeaderBind.Ruby
