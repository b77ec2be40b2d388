/-
# HeaderBind.Proofs.Numeral.Phrase — numbers as they are written out

Written out, a number has more than its words: a hyphen after a ten, `and` after the hundreds
and before a last group under one hundred, and commas after scales, as in `one million, two
hundred and thirty-four thousand and five`.  Its words are the maximal runs of small letters in
that phrase (`letterRuns_phrase`), so nothing of the punctuation is left in a numbered name.
-/
import HeaderBind.Proofs.Identifier.Numbered
import HeaderBind.Proofs.Text.Reading

namespace HeaderBind.Numeral.English

set_option autoImplicit false

open Text

/-! ## Phrases -/

/-- A number under one hundred. -/
def hundredPhrase (n : Nat) : String :=
  if n < 20 then small.getD n ""
  else tens.getD (n / 10 - 2) "" ++
    if n % 10 = 0 then "" else "-" ++ small.getD (n % 10) ""

/-- A number under one thousand. -/
def thousandPhrase (n : Nat) : String :=
  if n < 100 then hundredPhrase n
  else small.getD (n / 100) "" ++ (" " ++ ("hundred" ++
    if n % 100 = 0 then "" else " " ++ ("and" ++ (" " ++ hundredPhrase (n % 100)))))

/-- A number below 1000^(k+1). -/
def groupsPhrase : Nat → Nat → String
  | 0, n => thousandPhrase n
  | k + 1, n =>
      let unit := Nat.pow 1000 (k + 1)
      if n < unit then groupsPhrase k n
      else
        let rest := n % unit
        thousandPhrase (n / unit) ++ (" " ++ (scale (k + 1) ++
          if rest = 0 then "" else if rest < 100 then " " ++ ("and" ++ (" " ++ hundredPhrase rest))
          else ", " ++ groupsPhrase k rest))

/-- A number written out. -/
def phrase (n : Nat) : String := groupsPhrase largestScale n

theorem groupsPhrase_succ (k n : Nat) :
    groupsPhrase (k + 1) n =
      if n < 1000 ^ (k + 1) then groupsPhrase k n
      else
        thousandPhrase (n / 1000 ^ (k + 1)) ++ (" " ++ (scale (k + 1) ++
          if n % 1000 ^ (k + 1) = 0 then ""
          else if n % 1000 ^ (k + 1) < 100 then
            " " ++ ("and" ++ (" " ++ hundredPhrase (n % 1000 ^ (k + 1))))
          else ", " ++ groupsPhrase k (n % 1000 ^ (k + 1)))) := rfl

/-! ## Runs of letters -/

/-- The maximal runs of small letters. -/
def letterRuns (text : String) : List String :=
  (runsOutside (fun c => !c.isLower) text.toList).map String.ofList

/-- A nonempty text of small letters. -/
def IsLetters (word : String) : Prop := word ≠ "" ∧ word.toList.all Char.isLower = true

instance (word : String) : Decidable (IsLetters word) := inferInstanceAs (Decidable (_ ∧ _))

/-- A nonempty text without small letters. -/
def IsBetween (separator : String) : Prop :=
  separator ≠ "" ∧ (separator.toList.all fun c => !c.isLower) = true

instance (separator : String) : Decidable (IsBetween separator) :=
  inferInstanceAs (Decidable (_ ∧ _))

theorem letterRuns_word {word : String} (letters : IsLetters word) : letterRuns word = [word] := by
  have nonempty : word.toList ≠ [] := fun none => letters.1 (String.toList_eq_nil_iff.1 none)
  have outside : ∀ c ∈ word.toList, (!c.isLower) = false := fun c member => by
    simp [List.all_eq_true.1 letters.2 c member]
  rw [letterRuns, runsOutside_singleton nonempty outside]
  simp

theorem letterRuns_between {separator : String} (between : IsBetween separator)
    (text more : String) :
    letterRuns (text ++ (separator ++ more)) = letterRuns text ++ letterRuns more := by
  have nonempty : separator.toList ≠ [] := fun none => between.1 (String.toList_eq_nil_iff.1 none)
  rw [letterRuns, String.toList_append, String.toList_append,
    runsOutside_between nonempty (List.all_eq_true.1 between.2), List.map_append]
  rfl

/-- A word and what goes on after a separator. -/
theorem letterRuns_word_between {word separator : String} (letters : IsLetters word)
    (between : IsBetween separator) (more : String) :
    letterRuns (word ++ (separator ++ more)) = word :: letterRuns more := by
  rw [letterRuns_between between, letterRuns_word letters]
  rfl

/-! ## The words of a phrase -/

theorem small_letters : ∀ n < 20, IsLetters (small.getD n "") := by decide +kernel

theorem tens_letters : ∀ n < 8, IsLetters (tens.getD n "") := by decide +kernel

theorem scale_letters (k : Nat) : IsLetters (scale k) := by
  unfold scale
  split
  · decide +kernel
  · have illion : IsLetters "illion" := by decide +kernel
    refine ⟨fun empty => illion.1 (String.append_eq_empty_iff.1 empty).2, ?_⟩
    rw [String.toList_append, List.all_append, stem_lower, illion.2]
    rfl

theorem letterRuns_hundredPhrase {n : Nat} (bound : n < 100) :
    letterRuns (hundredPhrase n) = belowHundred n := by
  have ten := tens_letters (n / 10 - 2)
  unfold hundredPhrase belowHundred
  split
  · rename_i few
    exact letterRuns_word (small_letters n few)
  · split
    · rw [String.append_empty]
      exact letterRuns_word (ten (by omega))
    · rw [letterRuns_word_between (ten (by omega)) (by decide +kernel),
        letterRuns_word (small_letters (n % 10) (by omega))]

/-- The word `and` in front of what follows. -/
theorem letterRuns_and {word : String} (letters : IsLetters word) (more : String) :
    letterRuns (word ++ (" " ++ ("and" ++ (" " ++ more)))) = word :: "and" :: letterRuns more := by
  rw [letterRuns_word_between letters (by decide +kernel),
    letterRuns_word_between (by decide +kernel) (by decide +kernel)]

theorem letterRuns_thousandPhrase {n : Nat} (bound : n < 1000) :
    letterRuns (thousandPhrase n) = belowThousand n := by
  have hundred : IsLetters "hundred" := by decide +kernel
  unfold thousandPhrase belowThousand
  split
  · rename_i few
    exact letterRuns_hundredPhrase few
  · rw [letterRuns_word_between (small_letters (n / 100) (by omega)) (by decide +kernel)]
    split
    · rw [String.append_empty, letterRuns_word hundred]
    · rw [letterRuns_and hundred, letterRuns_hundredPhrase (Nat.mod_lt n (by decide))]

theorem letterRuns_groupsPhrase {k n : Nat} (bound : n < 1000 ^ (k + 1)) :
    letterRuns (groupsPhrase k n) = spellGroups k n := by
  induction k generalizing n with
  | zero => exact letterRuns_thousandPhrase (by simpa using bound)
  | succ k ih =>
    rw [groupsPhrase_succ, spellGroups_succ]
    split
    · rename_i few
      exact ih few
    · rw [letterRuns_between (by decide +kernel), letterRuns_thousandPhrase (first_group bound)]
      have named := scale_letters (k + 1)
      split
      · rw [String.append_empty, letterRuns_word named]
      · split
        · rename_i few
          rw [letterRuns_and named, letterRuns_hundredPhrase few]
        · rw [letterRuns_word_between named (by decide +kernel),
            ih (Nat.mod_lt n (Nat.pow_pos (by decide)))]

/-- **The runs of letters in a number that is written out are its words.** -/
theorem letterRuns_phrase {n : Nat} (bound : n < limit) : letterRuns (phrase n) = spell n :=
  letterRuns_groupsPhrase bound

example : phrase 1234021 =
    "one million, two hundred and thirty-four thousand and twenty-one" := by decide +kernel

/-- The runs of small letters with one underscore between any two of them. -/
def underscored (text : String) : String := "_".intercalate (letterRuns text)

end HeaderBind.Numeral.English
