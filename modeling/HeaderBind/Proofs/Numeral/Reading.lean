/-
# HeaderBind.Proofs.Numeral.Reading — a spelled number is read back from its words

A reader of the words keeps two numbers: what the groups up to the last scale come to, and
what the words since then come to.  A word of a small number or of a ten is added to the
second, `hundred` multiplies it, and a scale moves it over to the first.  `and` says nothing.
So a number below the limit is read back from its words (`read_spell`), and no two of them
are spelled alike (`eq_of_spell`).
-/
import HeaderBind.Numeral.English
import Mathlib.Algebra.Group.Nat.Defs

namespace HeaderBind.Numeral.English

set_option autoImplicit false

/-! ## The reader -/

/-- What the word of a small number or of a ten adds. -/
def wordValue (word : String) : Nat :=
  if word ∈ small then small.idxOf word else 10 * (tens.idxOf word + 2)

/-- The scale that a word names. -/
def scaleOf? (word : String) : Option Nat :=
  (List.range' 1 largestScale).find? fun k => scale k == word

/-- What was read: the groups up to the last scale, and the words since then. -/
structure Reading where
  groups : Nat
  group : Nat
deriving DecidableEq, Repr

namespace Reading

/-- Reads one more word. -/
def next (reading : Reading) (word : String) : Reading :=
  if word = "and" then reading
  else if word = "hundred" then { reading with group := reading.group * 100 }
  else
    match scaleOf? word with
    | some k => ⟨reading.groups + reading.group * 1000 ^ k, 0⟩
    | none => { reading with group := reading.group + wordValue word }

def all (reading : Reading) (words : List String) : Reading := words.foldl next reading

/-- The number read so far. -/
def value (reading : Reading) : Nat := reading.groups + reading.group

theorem all_append (reading : Reading) (words more : List String) :
    reading.all (words ++ more) = (reading.all words).all more := List.foldl_append

theorem all_cons (reading : Reading) (word : String) (words : List String) :
    reading.all (word :: words) = (reading.next word).all words := rfl

end Reading

/-- The number that words spell. -/
def read (words : List String) : Nat := (Reading.all ⟨0, 0⟩ words).value

/-! ## Single words -/

/-- The word stands for its own value, and for nothing else. -/
def IsPlain (word : String) : Prop := word ≠ "and" ∧ word ≠ "hundred" ∧ scaleOf? word = none

instance (word : String) : Decidable (IsPlain word) := inferInstanceAs (Decidable (_ ∧ _ ∧ _))

theorem next_plain {word : String} (plain : IsPlain word) (reading : Reading) :
    reading.next word = { reading with group := reading.group + wordValue word } := by
  obtain ⟨notAnd, notHundred, noScale⟩ := plain
  unfold Reading.next
  rw [if_neg notAnd, if_neg notHundred, noScale]

theorem small_plain : ∀ n < 20, IsPlain (small.getD n "") ∧ wordValue (small.getD n "") = n := by
  decide +kernel

theorem tens_plain :
    ∀ n < 8, IsPlain (tens.getD n "") ∧ wordValue (tens.getD n "") = 10 * (n + 2) := by
  decide +kernel

theorem scaleOf?_scale :
    ∀ k ∈ List.range' 1 largestScale,
      scale k ≠ "and" ∧ scale k ≠ "hundred" ∧ scaleOf? (scale k) = some k := by
  decide +kernel

/-- A scale closes the group before it. -/
theorem next_scale {k : Nat} (positive : 0 < k) (bound : k ≤ largestScale) (reading : Reading) :
    reading.next (scale k) = ⟨reading.groups + reading.group * 1000 ^ k, 0⟩ := by
  have member : k ∈ List.range' 1 largestScale := List.mem_range'_1.2 (by omega)
  obtain ⟨notAnd, notHundred, isScale⟩ := scaleOf?_scale k member
  unfold Reading.next
  rw [if_neg notAnd, if_neg notHundred, isScale]

/-! ## Groups -/

theorem all_belowHundred {n : Nat} (bound : n < 100) (reading : Reading) :
    reading.all (belowHundred n) = { reading with group := reading.group + n } := by
  unfold belowHundred
  split
  · rename_i few
    obtain ⟨plain, value⟩ := small_plain n few
    rw [Reading.all_cons, next_plain plain, value]
    rfl
  · have ten : n / 10 - 2 < 8 := by omega
    obtain ⟨plainTen, valueTen⟩ := tens_plain _ ten
    rw [Reading.all_cons, next_plain plainTen, valueTen]
    split
    · have sum : 10 * (n / 10 - 2 + 2) = n := by omega
      rw [sum]
      rfl
    · obtain ⟨plain, value⟩ := small_plain (n % 10) (by omega)
      rw [Reading.all_cons, next_plain plain, value]
      have sum : reading.group + 10 * (n / 10 - 2 + 2) + n % 10 = reading.group + n := by omega
      rw [sum]
      rfl

/-- A group is read with nothing before it, as `hundred` multiplies all of the group. -/
theorem all_belowThousand {n : Nat} (bound : n < 1000) (groups : Nat) :
    Reading.all ⟨groups, 0⟩ (belowThousand n) = ⟨groups, n⟩ := by
  unfold belowThousand
  split
  · rename_i few
    rw [all_belowHundred few, Nat.zero_add]
  · obtain ⟨plain, value⟩ := small_plain (n / 100) (by omega)
    rw [Reading.all_cons, next_plain plain, value, Reading.all_cons]
    have hundreds : (Reading.mk groups (0 + n / 100)).next "hundred" =
        ⟨groups, n / 100 * 100⟩ := by
      rw [Nat.zero_add]
      rfl
    rw [hundreds]
    split
    · have sum : n / 100 * 100 = n := by omega
      rw [sum]
      rfl
    · rw [Reading.all_cons]
      show Reading.all ⟨groups, n / 100 * 100⟩ (belowHundred (n % 100)) = _
      rw [all_belowHundred (Nat.mod_lt n (by decide))]
      have sum : n / 100 * 100 + n % 100 = n := by omega
      rw [sum]

theorem spellGroups_succ (k n : Nat) :
    spellGroups (k + 1) n =
      if n < 1000 ^ (k + 1) then spellGroups k n
      else
        belowThousand (n / 1000 ^ (k + 1)) ++ scale (k + 1) ::
          (if n % 1000 ^ (k + 1) = 0 then []
          else if n % 1000 ^ (k + 1) < 100 then "and" :: belowHundred (n % 1000 ^ (k + 1))
          else spellGroups k (n % 1000 ^ (k + 1))) := rfl

/-- What stands in front of the largest scale is a group. -/
theorem first_group {k n : Nat} (bound : n < 1000 ^ (k + 2)) : n / 1000 ^ (k + 1) < 1000 := by
  rw [Nat.div_lt_iff_lt_mul (Nat.pow_pos (by decide)), Nat.mul_comm]
  rwa [Nat.pow_succ] at bound

/-- By induction on the scales: after the groups read so far, a number is read to its end. -/
theorem value_spellGroups {k n : Nat} (scales : k ≤ largestScale) (bound : n < 1000 ^ (k + 1))
    (groups : Nat) : (Reading.all ⟨groups, 0⟩ (spellGroups k n)).value = groups + n := by
  induction k generalizing n groups with
  | zero =>
    rw [spellGroups, all_belowThousand (by simpa using bound)]
    rfl
  | succ k ih =>
    rw [spellGroups_succ]
    split
    · rename_i few
      exact ih (by omega) few groups
    · rename_i many
      have positive : 0 < 1000 ^ (k + 1) := Nat.pow_pos (by decide)
      have last : n % 1000 ^ (k + 1) < 1000 ^ (k + 1) := Nat.mod_lt n positive
      have sum : n / 1000 ^ (k + 1) * 1000 ^ (k + 1) + n % 1000 ^ (k + 1) = n :=
        Nat.div_add_mod' n (1000 ^ (k + 1))
      rw [Reading.all_append, all_belowThousand (first_group bound), Reading.all_cons,
        next_scale k.add_one_pos scales]
      dsimp only
      split
      · rename_i none
        rw [none, Nat.add_zero] at sum
        rw [sum]
        rfl
      · split
        · rename_i few
          rw [Reading.all_cons]
          show (Reading.all ⟨groups + n / 1000 ^ (k + 1) * 1000 ^ (k + 1), 0⟩
            (belowHundred (n % 1000 ^ (k + 1)))).value = _
          rw [all_belowHundred few, Reading.value]
          dsimp only
          rw [Nat.zero_add, Nat.add_assoc, sum]
        · rw [ih (by omega) last, Nat.add_assoc, sum]

/-! ## Numbers -/

/-- **A number below the limit is read back from its words.** -/
theorem read_spell {n : Nat} (bound : n < limit) : read (spell n) = n := by
  unfold read spell
  rw [value_spellGroups (Nat.le_refl largestScale) bound, Nat.zero_add]

/-- No two numbers are spelled alike. -/
theorem eq_of_spell {m n : Nat} (boundM : m < limit) (boundN : n < limit)
    (same : spell m = spell n) : m = n := by
  rw [← read_spell boundM, same, read_spell boundN]

end HeaderBind.Numeral.English
