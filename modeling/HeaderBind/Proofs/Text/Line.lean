/-
# HeaderBind.Proofs.Text.Line — texts without line ends

A line is a text without line ends.  Lines put together are a line, and so is the snake-case
form of one: no character has a line end for its small form (`snakeCase_isLine`).
-/
import HeaderBind.Identifier.Case
import HeaderBind.Proofs.Text.Ascii
import HeaderBind.Proofs.Text.Reading

namespace HeaderBind.Text

set_option autoImplicit false

/-- The text holds no line end. -/
def IsLine (text : String) : Prop := '\n' ∉ text.toList

instance (text : String) : Decidable (IsLine text) := inferInstanceAs (Decidable (¬ _))

theorem IsLine.append {text more : String} (first : IsLine text) (rest : IsLine more) :
    IsLine (text ++ more) := by
  rw [IsLine, String.toList_append, List.mem_append]
  exact fun member => member.elim first rest

theorem IsLine.intercalate {separator : String} (between : IsLine separator)
    {items : List String} (each : ∀ item ∈ items, IsLine item) :
    IsLine (separator.intercalate items) := notMem_intercalate between each

theorem IsWord.isLine {text : String} (h : IsWord text) : IsLine text := h.notMem (by decide)

/-! ## Small forms -/

/-- No run of the table leads down to the line end. -/
theorem newline_lt_shifted : ∀ run ∈ lowerRuns, 10 < run.first + run.shift := by decide +kernel

theorem ofNat_ne_newline {code : Nat} (beyond : 10 < code) : Char.ofNat code ≠ '\n' := by
  intro newline
  by_cases valid : code.isValidChar
  · have made : Char.ofNat code = Char.ofNatAux code valid := dif_pos valid
    have codes : code = 10 := congrArg Char.toNat (made.symm.trans newline)
    omega
  · have null : Char.ofNat code = '\x00' := dif_neg valid
    exact absurd (null.symm.trans newline) (by decide)

theorem casePartner?_ne_newline {c partner : Char}
    (found : casePartner? lowerRuns c = some partner) : partner ≠ '\n' := by
  obtain ⟨run, inTable, rfl⟩ := Option.map_eq_some_iff.1 found
  have shifted := newline_lt_shifted run (List.mem_of_find?_eq_some inTable)
  have holds := List.find?_some inTable
  simp only [CaseRun.holds, Bool.and_eq_true, decide_eq_true_eq] at holds
  refine ofNat_ne_newline ?_
  rw [CaseRun.partner]
  omega

theorem newline_notMem_lowerChar {c : Char} (line : c ≠ '\n') (before : Bool) (rest : List Char) :
    '\n' ∉ lowerChar before c rest := by
  rw [lowerChar]
  split
  case isTrue ascii =>
    have codes : c ≠ '\n' → c.toLower ≠ '\n' :=
      forall_ascii (P := fun c => c ≠ '\n' → c.toLower ≠ '\n') (by decide) ascii
    exact fun member => codes line (List.mem_singleton.1 member).symm
  case isFalse =>
    split
    · split <;> decide
    · rw [lowerBeyondAscii]
      split
      · decide
      · cases found : casePartner? lowerRuns c with
        | none => exact fun member => line (List.mem_singleton.1 member).symm
        | some partner =>
          exact fun member => casePartner?_ne_newline found (List.mem_singleton.1 member).symm

theorem newline_notMem_lowerFrom {cs : List Char} (line : '\n' ∉ cs) (before : Bool) :
    '\n' ∉ lowerFrom before cs := by
  induction cs generalizing before with
  | nil => exact List.not_mem_nil
  | cons c rest ih =>
    obtain ⟨isLine, areLine⟩ := not_or.1 (fun found => line (List.mem_cons.2 found))
    rw [lowerFrom, List.mem_append]
    exact fun member => member.elim (newline_notMem_lowerChar (Ne.symm isLine) before rest)
      (ih areLine _)

/-- Underscores before capitals are all that `separateFrom` adds. -/
theorem mem_separateFrom {before : Option Char} {cs : List Char} {c : Char}
    (member : c ∈ Identifier.separateFrom before cs) : c = '_' ∨ c ∈ cs := by
  induction cs generalizing before with
  | nil => exact .inr member
  | cons d rest ih =>
    rw [Identifier.separateFrom, List.mem_append] at member
    rcases member with member | member
    · split at member
      · rcases List.mem_cons.1 member with isUnderscore | member
        · exact .inl isUnderscore
        · exact .inr (List.mem_cons.2 (.inl (List.mem_singleton.1 member)))
      · exact .inr (List.mem_cons.2 (.inl (List.mem_singleton.1 member)))
    · exact (ih member).imp_right (List.mem_cons_of_mem d)

theorem snakeCase_isLine {name : String} (line : IsLine name) :
    IsLine (Identifier.snakeCase name) := by
  rw [IsLine, Identifier.snakeCase, String.toList_ofList]
  refine newline_notMem_lowerFrom (fun member => ?_) false
  obtain ⟨c, separated, mapped⟩ := List.mem_map.1 member
  split at mapped
  · cases mapped
  · subst mapped
    rcases mem_separateFrom separated with isUnderscore | member
    · cases isUnderscore
    · exact line member

end HeaderBind.Text
