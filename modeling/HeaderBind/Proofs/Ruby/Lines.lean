/-
# HeaderBind.Proofs.Ruby.Lines — the lines that stand in the source

The source is one text, made of the texts that definitions and modules give and that may have
line ends of their own.  Splitting it at the line ends gives back the lines of these texts,
each of them indented (`splitLines_source`); and the indentation of a line loses nothing.  So
the source tells the name of its module, the native library and the lines of all blocks
(`lines_of_source`).
-/
import HeaderBind.Proofs.Text.Line
import HeaderBind.Ruby

namespace HeaderBind.Ruby

set_option autoImplicit false

open Text (IsLine)

/-! ## Splitting at line ends -/

theorem splitLines_of_isLine {line : String} (h : IsLine line) : splitLines line = [line] := by
  rw [splitLines, List.splitOn_eq_singleton h, List.map_singleton, String.ofList_toList]

theorem splitLines_newline (text more : String) :
    splitLines (text ++ "\n" ++ more) = splitLines text ++ splitLines more := by
  have chars : (text ++ "\n" ++ more).toList = text.toList ++ '\n' :: more.toList := by
    rw [String.toList_append, String.toList_append, List.append_assoc]
    rfl
  rw [splitLines, chars, List.splitOn_append_cons_self, List.map_append]
  rfl

theorem splitLines_intercalate {texts : List String} (nonempty : texts ≠ []) :
    splitLines ("\n".intercalate texts) = texts.flatMap splitLines := by
  induction texts with
  | nil => exact absurd rfl nonempty
  | cons first rest ih =>
    cases rest with
    | nil => rw [String.intercalate_singleton, List.flatMap_singleton]
    | cons next more =>
      rw [String.intercalate_cons_cons, splitLines_newline, ih (List.cons_ne_nil _ _),
        ← List.flatMap_cons]

/-- A text is its lines, put together again. -/
theorem intercalate_splitLines (text : String) : "\n".intercalate (splitLines text) = text := by
  have chars : (splitLines text).map String.toList = text.toList.splitOn '\n' := by
    rw [splitLines, List.map_map]
    exact (List.map_congr_left fun _ _ => String.toList_ofList).trans (List.map_id _)
  refine String.toList_inj.1 ?_
  rw [String.toList_intercalate, chars]
  exact List.intercalate_splitOn '\n'

theorem splitLines_ne_nil (text : String) : splitLines text ≠ [] := by
  rw [splitLines, ne_eq, List.map_eq_nil_iff]
  exact List.splitOn_ne_nil _ _

theorem isLine_of_mem_splitLines {text line : String} (member : line ∈ splitLines text) :
    IsLine line := by
  obtain ⟨chars, piece, rfl⟩ := List.mem_map.1 member
  rw [IsLine, String.toList_ofList]
  exact Text.notMem_of_mem_splitOn piece

/-- Lines are split no further. -/
theorem flatMap_splitLines_of_isLine {lines : List String} (each : ∀ line ∈ lines, IsLine line) :
    lines.flatMap splitLines = lines := by
  induction lines with
  | nil => rfl
  | cons line rest ih =>
    obtain ⟨isLine, areLines⟩ := List.forall_mem_cons.1 each
    rw [List.flatMap_cons, splitLines_of_isLine isLine, ih areLines, List.singleton_append]

/-! ## Indentation -/

theorem indentation_succ (level : Nat) : indentation (level + 1) = indentation level ++ indent := by
  rw [indentation, List.replicate_succ', String.join_append]
  rfl

theorem indentation_isLine (level : Nat) : IsLine (indentation level) := by
  induction level with
  | zero => decide
  | succ level ih =>
    rw [indentation_succ]
    exact ih.append (by decide)

theorem indentLine_isLine {line : String} (h : IsLine line) (level : Nat) :
    IsLine (indentLine level line) := by
  rw [indentLine]
  split
  · decide
  · exact (indentation_isLine level).append h

theorem indentLine_of_ne {line : String} (nonempty : line ≠ "") (level : Nat) :
    indentLine level line = indentation level ++ line := if_neg nonempty

theorem indentLine_injective (level : Nat) : Function.Injective (indentLine level) := by
  intro line other same
  have blank : ∀ text : String, indentLine level text = "" → text = "" := by
    intro text isBlank
    by_contra nonempty
    rw [indentLine_of_ne nonempty] at isBlank
    exact nonempty (String.append_eq_empty_iff.1 isBlank).2
  by_cases isBlank : line = ""
  · rw [isBlank] at same ⊢
    exact (blank other same.symm).symm
  · by_cases isOther : other = ""
    · rw [isOther] at same
      exact absurd (blank line same) isBlank
    · rw [indentLine_of_ne isBlank, indentLine_of_ne isOther] at same
      exact (String.append_right_inj _).1 same

theorem splitLines_indentText (text : String) :
    splitLines (indentText text) = (splitLines text).map (indentLine 1) := by
  have nonempty : (splitLines text).map (indentLine 1) ≠ [] :=
    fun none => splitLines_ne_nil text (List.map_eq_nil_iff.1 none)
  rw [indentText, splitLines_intercalate nonempty]
  refine flatMap_splitLines_of_isLine fun line member => ?_
  obtain ⟨inner, isInner, rfl⟩ := List.mem_map.1 member
  exact indentLine_isLine (isLine_of_mem_splitLines isInner) 1

/-! ## The source -/

variable {moduleName nativeLibrary otherName otherLibrary : String} {one other : Bindings}

theorem libraryLines_isLine (isLibrary : IsLine nativeLibrary) :
    ∀ line ∈ libraryLines nativeLibrary, IsLine line := by
  rw [libraryLines, List.forall_mem_cons, List.forall_mem_singleton]
  exact ⟨by decide, (IsLine.append (by decide) isLibrary).append (by decide)⟩

/-- The lines above the module. -/
def preamble : List String :=
  ["# Generated Ruby FFI bindings", "# This file was automatically generated by ffigen.",
    "require 'ffi'", ""]

/-- The lines in the module of the source, without their indentation. -/
def moduleLines (nativeLibrary : String) (bindings : Bindings) : List String :=
  libraryLines nativeLibrary ++ (blockLines nativeLibrary bindings).flatMap splitLines

theorem flatMap_splitLines_indentText (texts : List String) :
    (texts.map indentText).flatMap splitLines = (texts.flatMap splitLines).map (indentLine 1) := by
  rw [List.flatMap_map, List.map_flatMap]
  exact List.flatMap_congr fun text _ => splitLines_indentText text

/-- The lines of the source, up to what the last line end ends. -/
theorem splitLines_source (isName : IsLine moduleName) (isLibrary : IsLine nativeLibrary) :
    splitLines (source one moduleName nativeLibrary) =
      preamble ++ ("module " ++ moduleName) ::
        ((moduleLines nativeLibrary one).map (indentLine 1) ++ ["end", ""]) := by
  have ended : source one moduleName nativeLibrary =
      "\n".intercalate (sourceLines one moduleName nativeLibrary) ++ "\n" ++ "" :=
    (String.append_empty).symm
  have lines : sourceLines one moduleName nativeLibrary = preamble ++ (("module " ++ moduleName) ::
      ((libraryLines nativeLibrary ++ blockLines nativeLibrary one).map indentText ++ ["end"])) :=
    rfl
  have above : ∀ line ∈ preamble, IsLine line := by decide
  have named : IsLine ("module " ++ moduleName) := IsLine.append (by decide) isName
  rw [ended, splitLines_newline, splitLines_intercalate (by rw [lines]; simp), lines,
    List.flatMap_append, flatMap_splitLines_of_isLine above, List.flatMap_cons,
    splitLines_of_isLine named, List.flatMap_append, flatMap_splitLines_indentText,
    List.flatMap_append, flatMap_splitLines_of_isLine (libraryLines_isLine isLibrary),
    List.append_assoc, List.append_assoc, List.append_assoc]
  rfl

/-- **The source tells the name of its module, the library and the lines of the blocks.** -/
theorem lines_of_source (isName : IsLine moduleName) (isOtherName : IsLine otherName)
    (isLibrary : IsLine nativeLibrary) (isOtherLibrary : IsLine otherLibrary)
    (same : source one moduleName nativeLibrary = source other otherName otherLibrary) :
    moduleName = otherName ∧ nativeLibrary = otherLibrary ∧
      (blockLines nativeLibrary one).flatMap splitLines =
        (blockLines otherLibrary other).flatMap splitLines := by
  have lines := congrArg splitLines same
  rw [splitLines_source isName isLibrary, splitLines_source isOtherName isOtherLibrary] at lines
  obtain ⟨named, below⟩ := List.cons.inj (List.append_cancel_left lines)
  have inside : moduleLines nativeLibrary one = moduleLines otherLibrary other :=
    (indentLine_injective 1).list_map (List.append_cancel_right below)
  obtain ⟨library, blocks⟩ := List.append_inj inside rfl
  have quoted := (List.cons.inj (List.cons.inj library).2).1
  exact ⟨(String.append_right_inj _).1 named,
    (String.append_right_inj _).1 ((String.append_left_inj _).1 quoted), blocks⟩

end HeaderBind.Ruby
