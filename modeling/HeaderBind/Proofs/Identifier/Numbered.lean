/-
# HeaderBind.Proofs.Identifier.Numbered — numbered names tell their numbers

A numbered name is made of parts: `anonymous`, the keyword of the tag and the words of the
number.  Parts are told apart by the underscores between them, and the words of a number
tell it, so two types with different numbers have different names, in camel case too
(`camelCase_numberedName_inj`).
-/
import HeaderBind.CType.Basic
import HeaderBind.Proofs.Identifier.Case
import HeaderBind.Proofs.Numeral.Reading

namespace HeaderBind

set_option autoImplicit false

namespace Numeral.English

open Identifier

/-! ## The words of numbers -/

/-- Every word is a part of a name. -/
def ArePartWords (words : List String) : Prop := ∀ word ∈ words, isPart word.toList = true

instance (words : List String) : Decidable (ArePartWords words) :=
  inferInstanceAs (Decidable (∀ word ∈ words, isPart word.toList = true))

theorem ArePartWords.cons {word : String} {words : List String}
    (first : isPart word.toList = true) (rest : ArePartWords words) :
    ArePartWords (word :: words) := List.forall_mem_cons.2 ⟨first, rest⟩

theorem ArePartWords.nil : ArePartWords [] := List.forall_mem_nil _

theorem small_part : ∀ n < 20, isPart (small.getD n "").toList = true := by decide +kernel

theorem tens_part : ∀ n < 8, isPart (tens.getD n "").toList = true := by decide +kernel

theorem belowHundred_parts {n : Nat} (bound : n < 100) : ArePartWords (belowHundred n) := by
  unfold belowHundred
  split
  · rename_i few
    exact .cons (small_part n few) .nil
  · refine .cons (tens_part (n / 10 - 2) (by omega)) ?_
    split
    · exact .nil
    · exact .cons (small_part (n % 10) (by omega)) .nil

/-- The characters of the words are small letters. -/
def AreLower (words : List String) : Prop := ∀ word ∈ words, word.toList.all Char.isLower = true

theorem lower_getD {words : List String} (lower : AreLower words) (i : Nat) :
    (words.getD i "").toList.all Char.isLower = true := by
  rw [List.getD_eq_getElem?_getD]
  cases found : words[i]? with
  | none => rfl
  | some word => exact lower word (List.mem_of_getElem? found)

theorem stem_lower (i : Nat) : (stem i).toList.all Char.isLower = true := by
  have firsts : AreLower firstStems := by unfold AreLower; decide +kernel
  have units : AreLower unitStems := by unfold AreLower; decide +kernel
  have tens : AreLower tenStems := by unfold AreLower; decide +kernel
  unfold stem
  split
  · exact lower_getD firsts (i - 1)
  · split
    · rw [String.toList_append, List.all_append, lower_getD units, lower_getD tens]
      rfl
    · decide +kernel

theorem scale_part (k : Nat) : isPart (scale k).toList = true := by
  unfold scale
  split
  · decide +kernel
  · have illion : "illion".toList = ['i', 'l', 'l', 'i', 'o', 'n'] := by decide +kernel
    rw [String.toList_append, illion]
    refine isPart_of_lower ?_ ?_
    · rw [List.all_append, stem_lower (k - 1)]
      rfl
    · simp

theorem belowThousand_parts {n : Nat} (bound : n < 1000) : ArePartWords (belowThousand n) := by
  unfold belowThousand
  split
  · rename_i few
    exact belowHundred_parts few
  · refine .cons (small_part (n / 100) (by omega)) (.cons (by decide +kernel) ?_)
    split
    · exact .nil
    · exact .cons (by decide +kernel) (belowHundred_parts (Nat.mod_lt n (by decide)))

theorem spellGroups_parts {k n : Nat} (scales : k ≤ largestScale) (bound : n < 1000 ^ (k + 1)) :
    ArePartWords (spellGroups k n) := by
  induction k generalizing n with
  | zero => exact belowThousand_parts (by simpa using bound)
  | succ k ih =>
    rw [spellGroups_succ]
    split
    · rename_i few
      exact ih (by omega) few
    · refine List.forall_mem_append.2 ⟨belowThousand_parts (first_group bound), ?_⟩
      refine ArePartWords.cons (scale_part _) ?_
      split
      · exact .nil
      · split
        · rename_i few
          exact .cons (by decide +kernel) (belowHundred_parts few)
        · exact ih (by omega) (Nat.mod_lt n (Nat.pow_pos (by decide)))

/-- The words of a number below the limit are parts of names. -/
theorem spell_parts {n : Nat} (bound : n < limit) : ArePartWords (spell n) :=
  spellGroups_parts (Nat.le_refl largestScale) bound

theorem belowThousand_ne_nil (n : Nat) : belowThousand n ≠ [] := by
  unfold belowThousand
  split
  · unfold belowHundred
    split
    · exact List.cons_ne_nil _ _
    · exact List.cons_ne_nil _ _
  · exact List.cons_ne_nil _ _

theorem spellGroups_ne_nil (k n : Nat) : spellGroups k n ≠ [] := by
  induction k generalizing n with
  | zero => exact belowThousand_ne_nil n
  | succ k ih =>
    rw [spellGroups_succ]
    split
    · exact ih n
    · exact List.append_ne_nil_of_right_ne_nil _ (List.cons_ne_nil _ _)

end Numeral.English

namespace Identifier

open Numeral.English

/-! ## Numbered names -/

/-- The parts of a numbered name. -/
def numberedParts (tag : Tag) (count : Nat) : List (List Char) :=
  "anonymous".toList :: tag.keyword.toList :: (spell count).map String.toList

theorem toList_numberedName (tag : Tag) (count : Nat) :
    (numberedName tag.keyword count).toList =
      List.intercalate ['_'] (numberedParts tag count) := by
  have start : "anonymous_".toList = "anonymous".toList ++ ['_'] := by decide +kernel
  have underscore : "_".toList = ['_'] := by decide +kernel
  have words : (spell count).map String.toList ≠ [] := by
    rw [ne_eq, List.map_eq_nil_iff]
    exact spellGroups_ne_nil largestScale count
  obtain ⟨word, rest, spelled⟩ := List.exists_cons_of_ne_nil words
  rw [numberedName, numberedFromWords, String.toList_append, String.toList_append,
    String.toList_append, String.toList_intercalate, start, underscore, numberedParts, spelled,
    List.intercalate_cons_cons, List.intercalate_cons_cons]
  simp only [List.append_assoc]

theorem isPart_of_mem_numberedParts {tag : Tag} {count : Nat} (bound : count < limit) :
    ∀ part ∈ numberedParts tag count, isPart part = true := by
  refine List.forall_mem_cons.2 ⟨by decide +kernel, List.forall_mem_cons.2 ⟨?_, ?_⟩⟩
  · cases tag <;> decide +kernel
  · intro part member
    obtain ⟨word, isWord, rfl⟩ := List.mem_map.1 member
    exact spell_parts bound word isWord

/-- **Numbered names tell their numbers**, below the limit and in camel case too. -/
theorem camelCase_numberedName_inj {tag other : Tag} {m n : Nat} (boundM : m < limit)
    (boundN : n < limit)
    (same : camelCase (numberedName tag.keyword m) = camelCase (numberedName other.keyword n)) :
    m = n := by
  have chars := String.ofList_injective same
  rw [toList_numberedName, toList_numberedName] at chars
  have parts := parts_of_camelCaseChars (List.cons_ne_nil _ _)
    (isPart_of_mem_numberedParts boundM) (List.cons_ne_nil _ _)
    (isPart_of_mem_numberedParts boundN) chars
  have words := (List.cons.inj (List.cons.inj parts).2).2
  exact eq_of_spell boundM boundN
    (List.map_injective_iff.2 (fun _ _ => String.toList_inj.1) words)

end Identifier

end HeaderBind
