/-
# HeaderBind.Proofs.Ruby.Constant — which names are constants of Ruby

Modules, classes and enumerations are constants: a capital letter, and after it letters, digits
and underscores.  Camel case drops every underscore and makes the first character that is left
a capital, so a name in camel case is a constant exactly when its first letter or digit is a
letter (`isConstantName_camelCaseSegment`).  The underscore that guards a leading digit is
dropped like any other, and a name of underscores only leaves nothing: that is where the names
of modules and definitions are no constants (`constantNames_iff`, `not_all_constantNames`).
-/
import HeaderBind.Proofs.Binding.Constants
import HeaderBind.Proofs.Identifier.Segments

namespace HeaderBind.Ruby

set_option autoImplicit false

open Identifier Text

/-! ## Constants and C names -/

/-- A letter or digit of ASCII, or the underscore. -/
def isNameChar (c : Char) : Bool := c.isAlphanum || c == '_'

/-- A capital letter, and after it letters, digits and underscores. -/
def isConstantName : List Char → Bool
  | [] => false
  | first :: rest => first.isUpper && rest.all isNameChar

/-- A letter or an underscore, and after it letters, digits and underscores. -/
def isCName : List Char → Bool
  | [] => false
  | first :: rest => (first.isAlpha || first == '_') && rest.all isNameChar

/-- The first letter or digit of a text. -/
def firstAlphanumeric? (cs : List Char) : Option Char := cs.find? Char.isAlphanum

theorem isAscii_of_isNameChar {c : Char} (h : isNameChar c = true) : isAscii c = true := by
  simp only [isNameChar, Bool.or_eq_true, beq_iff_eq] at h
  rcases h with alphanumeric | rfl
  · exact isAscii_of_isAlphanum alphanumeric
  · decide

/-- What is no underscore is a letter or a digit, and has a capital form that is one too. -/
theorem isNameChar_spec {c : Char} (h : isNameChar c = true) :
    c.isAlphanum = (c != '_') ∧
      (c ≠ '_' → c.toUpper.isAlphanum = true ∧ c.toUpper.isUpper = c.isAlpha) := by
  have codes : ∀ {c : Char}, isAscii c = true → isNameChar c = true →
      c.isAlphanum = (c != '_') ∧
        (c ≠ '_' → c.toUpper.isAlphanum = true ∧ c.toUpper.isUpper = c.isAlpha) :=
    fun ascii => forall_ascii (P := fun c => isNameChar c = true →
      c.isAlphanum = (c != '_') ∧
        (c ≠ '_' → c.toUpper.isAlphanum = true ∧ c.toUpper.isUpper = c.isAlpha))
      (by decide) ascii
  exact codes (isAscii_of_isNameChar h) h

theorem isNameChar_of_mem_cName {name : List Char} (h : isCName name = true) :
    ∀ c ∈ name, isNameChar c = true := by
  cases name with
  | nil => cases h
  | cons first rest =>
    simp only [isCName, Bool.and_eq_true, Bool.or_eq_true, List.all_eq_true, beq_iff_eq] at h
    intro c member
    rcases List.mem_cons.1 member with rfl | member
    · rcases h.1 with letter | rfl
      · simp [isNameChar, Char.isAlphanum, letter]
      · decide
    · exact h.2 c member

/-! ## Camel case -/

variable {cs : List Char}

/-- Underscores aside, the first character begins a word. -/
theorem head?_camelCaseSegment (each : ∀ c ∈ cs, isNameChar c = true) :
    (camelCaseSegment cs).head? = (firstAlphanumeric? cs).map Char.toUpper := by
  induction cs with
  | nil => rfl
  | cons c rest ih =>
    obtain ⟨isName, others⟩ := List.forall_mem_cons.1 each
    obtain ⟨alphanumeric, -⟩ := isNameChar_spec isName
    by_cases underscore : c = '_'
    · rw [underscore, camelCaseSegment_underscore, ih others]
      rfl
    · obtain ⟨first, more, pieces⟩ :=
        List.exists_cons_of_ne_nil (List.splitOn_ne_nil '_' rest)
      rw [camelCaseSegment, List.splitOn_cons_eq_if_modifyHead, if_neg (by simpa using underscore),
        pieces, List.modifyHead_cons, List.flatMap_cons, capitalize,
        upper_of_ascii (isAscii_of_isNameChar isName), firstAlphanumeric?,
        List.find?_cons_of_pos (by simp [alphanumeric, underscore])]
      rfl

theorem isAlphanum_of_mem_camelCaseSegment (each : ∀ c ∈ cs, isNameChar c = true) :
    ∀ c ∈ camelCaseSegment cs, c.isAlphanum = true := by
  have word : ∀ piece ∈ cs.splitOn '_', ∀ c ∈ piece, isNameChar c = true ∧ c ≠ '_' :=
    fun piece isPiece c member => ⟨each c (mem_of_mem_splitOn isPiece member),
      fun underscore => notMem_of_mem_splitOn isPiece (underscore ▸ member)⟩
  intro c member
  obtain ⟨piece, isPiece, member⟩ := List.mem_flatMap.1 member
  cases piece with
  | nil => cases member
  | cons first rest =>
    obtain ⟨isFirst, others⟩ := List.forall_mem_cons.1 (word _ isPiece)
    rw [capitalize, upper_of_ascii (isAscii_of_isNameChar isFirst.1)] at member
    rcases List.mem_cons.1 member with rfl | member
    · exact ((isNameChar_spec isFirst.1).2 isFirst.2).1
    · obtain ⟨isName, underscore⟩ := others c member
      simp [(isNameChar_spec isName).1, underscore]

/-- **A name in camel case is a constant exactly when its first letter or digit is a letter.** -/
theorem isConstantName_camelCaseSegment (each : ∀ c ∈ cs, isNameChar c = true) :
    isConstantName (camelCaseSegment cs) = (firstAlphanumeric? cs).any Char.isAlpha := by
  have first := head?_camelCaseSegment each
  have alphanumeric := isAlphanum_of_mem_camelCaseSegment each
  cases found : firstAlphanumeric? cs with
  | none =>
    rw [found, Option.map_none, List.head?_eq_none_iff] at first
    rw [first]
    rfl
  | some c =>
    rw [found, Option.map_some] at first
    obtain ⟨rest, segment⟩ := List.head?_eq_some_iff.1 first
    rw [segment] at alphanumeric ⊢
    have isName := each c (List.mem_of_find?_eq_some found)
    have underscore : c ≠ '_' := by
      rintro rfl
      exact absurd (List.find?_some found) (by decide)
    have others : rest.all isNameChar = true := by
      refine List.all_eq_true.2 fun d member => ?_
      simp [isNameChar, alphanumeric d (List.mem_cons_of_mem _ member)]
    simp [isConstantName, others, ((isNameChar_spec isName).2 underscore).2]

/-! ## Segments of paths -/

/-- Underscores in front of capitals do not change what is found first otherwise. -/
theorem find?_separateFrom {p : Char → Bool} (underscore : p '_' = false) (before : Option Char)
    (cs : List Char) : (separateFrom before cs).find? p = cs.find? p := by
  induction cs generalizing before with
  | nil => rfl
  | cons c rest ih =>
    rw [separateFrom]
    split <;> simp [List.find?_cons, underscore, ih]

/-- Snake case and cleaning keep letters and digits, and make letters small. -/
theorem firstAlphanumeric?_small (ascii : ∀ c ∈ cs, isAscii c = true) :
    firstAlphanumeric? ((cs.map smallLetter).map fun c => if c.isAlphanum then c else '_') =
      (firstAlphanumeric? cs).map Char.toLower := by
  have small : ∀ {c : Char}, isAscii c = true →
      (smallLetter c).isAlphanum = c.isAlphanum ∧
        (c.isAlphanum = true → smallLetter c = c.toLower) := fun ascii =>
    forall_ascii (P := fun c => (smallLetter c).isAlphanum = c.isAlphanum ∧
      (c.isAlphanum = true → smallLetter c = c.toLower)) (by decide) ascii
  induction cs with
  | nil => rfl
  | cons c rest ih =>
    obtain ⟨isAsciiC, others⟩ := List.forall_mem_cons.1 ascii
    obtain ⟨same, lowered⟩ := small isAsciiC
    simp only [firstAlphanumeric?] at ih
    by_cases alphanumeric : c.isAlphanum = true
    · have found : (smallLetter c).isAlphanum = true := same.trans alphanumeric
      simp [firstAlphanumeric?, found, alphanumeric, ← lowered alphanumeric]
    · have passed : (smallLetter c).isAlphanum = false := by simpa [same] using alphanumeric
      have underscore : Char.isAlphanum '_' = false := by decide
      simp only [firstAlphanumeric?, List.map_cons, List.find?_cons, passed, underscore,
        alphanumeric, ih others, Bool.false_eq_true, if_false]

variable {segment : List Char}

theorem firstAlphanumeric?_snakeCase (ascii : ∀ c ∈ segment, isAscii c = true) :
    firstAlphanumeric? ((snakeCaseChars segment).map fun c => if c.isAlphanum then c else '_') =
      (firstAlphanumeric? segment).map Char.toLower := by
  have opened : ∀ c ∈ separateFrom none segment, isAscii c = true := fun c member =>
    (mem_separateFrom member).elim (fun underscore => underscore ▸ by decide) (ascii c)
  rw [snakeCaseChars_of_ascii ascii, firstAlphanumeric?_small opened, firstAlphanumeric?,
    find?_separateFrom (by decide)]
  rfl

/-- A segment gives a constant exactly when its first letter or digit is a letter, and nothing
when it has none. -/
theorem isConstantName_segmentModule (ascii : ∀ c ∈ segment, isAscii c = true) :
    isConstantName (segmentModule segment) = (firstAlphanumeric? segment).any Char.isAlpha ∧
      (segmentModule segment = [] ↔ firstAlphanumeric? segment = none) := by
  have first := firstAlphanumeric?_snakeCase ascii
  have each : ∀ c ∈ (snakeCaseChars segment).map fun c => if c.isAlphanum then c else '_',
      isNameChar c = true := by
    simp only [List.forall_mem_map]
    intro c _
    split
    · rename_i alphanumeric
      simp [isNameChar, alphanumeric]
    · decide
  have noSlash : '/' ∉ (snakeCaseChars segment).map fun c => if c.isAlphanum then c else '_' :=
    fun member => absurd (each '/' member) (by decide)
  have letter : ∀ c, firstAlphanumeric? segment = some c → c.toLower.isAlpha = c.isAlpha := by
    intro c found
    exact forall_ascii (P := fun c => c.toLower.isAlpha = c.isAlpha) (by decide)
      (ascii c (List.mem_of_find?_eq_some found))
  rw [segmentModule, camelCaseChars_of_segment noSlash]
  constructor
  · rw [isConstantName_camelCaseSegment each, first]
    cases found : firstAlphanumeric? segment with
    | none => rfl
    | some c => exact letter c found
  · rw [← List.head?_eq_none_iff, head?_camelCaseSegment each, first, Option.map_eq_none_iff,
      Option.map_eq_none_iff]

/-! ## Names of modules and definitions -/

/-- The camel case of a C name keeps its letters and digits. -/
theorem isConstantName_camelCase {name : String} (isName : isCName name.toList = true) :
    isConstantName (camelCase name).toList =
      (firstAlphanumeric? name.toList).any Char.isAlpha := by
  have each := isNameChar_of_mem_cName isName
  have noSlash : '/' ∉ name.toList := fun member => absurd (each '/' member) (by decide)
  rw [camelCase, String.toList_ofList, camelCaseChars_of_segment noSlash,
    isConstantName_camelCaseSegment each]

theorem isConstantName_headerModules {header : String}
    (ascii : ∀ c ∈ header.toList, isAscii c = true) :
    (∀ name ∈ headerModules header, isConstantName name.toList = true) ↔
      ∀ segment ∈ stemSegments header.toList,
        (firstAlphanumeric? segment).all Char.isAlpha = true := by
  rw [headerModules, headerModulesChars_eq ascii]
  simp only [List.forall_mem_map, List.mem_filter, and_imp, String.toList_ofList,
    Bool.not_eq_true', List.isEmpty_eq_false_iff]
  refine forall₂_congr fun segment member => ?_
  obtain ⟨constant, empty⟩ :=
    isConstantName_segmentModule (isAscii_of_mem_stemSegments ascii member)
  rw [constant, ne_eq, empty]
  cases firstAlphanumeric? segment <;> simp

/-- **Which modules and definitions have constants for their names.**  The modules of a header
do if and only if in every segment that is left of its path the first letter or digit, if there
is one, is a letter.  A definition has the camel case of a C name, which is a constant if and
only if the C name has a letter or digit and the first one is a letter. -/
theorem constantNames_iff (header name : String) (ascii : ∀ c ∈ header.toList, isAscii c = true)
    (isName : isCName name.toList = true) :
    ((∀ constant ∈ headerModules header, isConstantName constant.toList = true) ↔
      ∀ segment ∈ stemSegments header.toList,
        (firstAlphanumeric? segment).all Char.isAlpha = true) ∧
    (isConstantName (camelCase name).toList = true ↔
      (firstAlphanumeric? name.toList).any Char.isAlpha = true) ∧
    ∀ (library : HeaderLibrary) (skipUnsupported : Bool) (graph : TypeGraph) (marker : String)
        (bindings : Bindings) (after : Workspace),
      (library.bind skipUnsupported).run (.start graph marker) = .ok bindings after →
        ∀ definition ∈ bindings.definitions,
          definition.constant = camelCase definition.cName := by
  refine ⟨isConstantName_headerModules ascii, by rw [isConstantName_camelCase isName], ?_⟩
  intro library skipUnsupported graph marker bindings after done definition member
  obtain ⟨nodes, -, named⟩ := HeaderLibrary.defines_of_bind done
  obtain ⟨id, -, -, constant⟩ := Outcome.exists_of_forall₂ named member
  exact constant

/-- The modules of a header, the struct of a C name, and the definitions of a library. -/
theorem constantNames_stat :
    (∀ constant ∈ headerModules "/usr/include/__x2d/sys-stat.h",
      isConstantName constant.toList = true) ∧
    isConstantName (camelCase "__stat_64").toList = true ∧
    ∃ bindings after, (clashLibrary.bind false).run (.start clashTypes "va") = .ok bindings after ∧
      bindings.records.map (fun binding => (binding.name, binding.cName, binding.isUnion)) =
        clashRecords ∧
      ∀ definition ∈ bindings.definitions, definition.constant = camelCase definition.cName := by
  obtain ⟨bindings, after, done, -, records⟩ := bind_clash
  obtain ⟨modules, names, definitions⟩ := constantNames_iff "/usr/include/__x2d/sys-stat.h"
    "__stat_64" (List.all_eq_true.1 (by decide +kernel)) (by decide +kernel)
  exact ⟨modules.2 (by decide +kernel), names.2 (by decide +kernel), bindings, after, done, records,
    definitions clashLibrary false clashTypes "va" bindings after done⟩

/-- **Not every name is a constant.**  A directory may begin with a digit, and a C name may
have nothing but a digit, or nothing at all, after its underscores. -/
theorem not_all_constantNames :
    ¬((∀ header : String, (∀ c ∈ header.toList, isAscii c = true) →
        ∀ name ∈ headerModules header, isConstantName name.toList = true) ∧
      ∀ name : String, isCName name.toList = true →
        isConstantName (camelCase name).toList = true) ∧
    headerModules "3d/math.h" = ["3d", "Math"] ∧
    isCName "_3d".toList = true ∧ camelCase "_3d" = "3d" ∧
    isCName "_".toList = true ∧ camelCase "_" = "" := by
  have modules : headerModules "3d/math.h" = ["3d", "Math"] := by decide +kernel
  refine ⟨?_, modules, by decide, by decide +kernel, by decide, by decide +kernel⟩
  rintro ⟨headers, -⟩
  have constant := headers "3d/math.h" (List.all_eq_true.1 (by decide +kernel)) "3d"
    (by simp [modules])
  exact absurd constant (by decide)

end HeaderBind.Ruby
