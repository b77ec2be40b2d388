/-
# HeaderBind.Proofs.Identifier.Substitution — snake case as two substitutions

`separateFrom` looks at the two neighbours of each capital.  The same underscores can be told
by whole matches: first one is put between capitals and the last of them, where a small letter
follows, and then one between a small letter or digit and a capital.  Each search goes from
left to right and does not return to what it has matched (`Substituted`).

Both searches find every boundary that the neighbours tell, and no other
(`separateFrom_eq_iff`).  A match never covers the start of another one: the first kind ends
with a small letter, the second with a capital.  And the underscores of the first search stand
between capitals, where the second finds nothing.
-/
import HeaderBind.Identifier.Case
import HeaderBind.Proofs.Text.Ascii
import HeaderBind.Proofs.Text.Reading

namespace HeaderBind.Identifier

set_option autoImplicit false

open Text

/-! ## Substitutions -/

/-- What a pattern of two groups matches: the text of its first group and of its second. -/
abbrev Pattern := List Char → List Char → Prop

/-- A match of the pattern begins the text. -/
def Pattern.Begins (pattern : Pattern) (cs : List Char) : Prop :=
  ∃ first second rest, pattern first second ∧ cs = first ++ (second ++ rest)

/-- From left to right, an underscore is put between the two groups of a match, and the search
goes on behind it.  A character where no match begins is passed over. -/
inductive Substituted (pattern : Pattern) : List Char → List Char → Prop where
  | done : Substituted pattern [] []
  | found {first second rest out : List Char} (isMatch : pattern first second)
      (later : Substituted pattern rest out) :
      Substituted pattern (first ++ (second ++ rest)) (first ++ '_' :: (second ++ out))
  | passed {c : Char} {rest out : List Char} (nothing : ¬ pattern.Begins (c :: rest))
      (later : Substituted pattern rest out) : Substituted pattern (c :: rest) (c :: out)

/-- Matches are not empty, and at most one begins a text. -/
structure Pattern.Definite (pattern : Pattern) : Prop where
  nonempty : ∀ {first second}, pattern first second → first ≠ []
  unique : ∀ {first second rest first' second' rest'}, pattern first second →
    pattern first' second' → first ++ (second ++ rest) = first' ++ (second' ++ rest') →
      first = first' ∧ second = second' ∧ rest = rest'

theorem Substituted.unique {pattern : Pattern} (definite : pattern.Definite)
    {cs out other : List Char} (one : Substituted pattern cs out)
    (two : Substituted pattern cs other) : out = other := by
  induction one generalizing other with
  | done =>
    generalize empty : ([] : List Char) = cs at two
    cases two with
    | done => rfl
    | found isMatch =>
      exact absurd (List.append_eq_nil_iff.1 empty.symm).1 (definite.nonempty isMatch)
    | passed => cases empty
  | @found first second rest out isMatch later ih =>
    generalize same : first ++ (second ++ rest) = cs at two
    cases two with
    | done => exact absurd (List.append_eq_nil_iff.1 same).1 (definite.nonempty isMatch)
    | found isOther laterOther =>
      obtain ⟨rfl, rfl, rfl⟩ := definite.unique isMatch isOther same
      rw [ih laterOther]
    | passed nothing => exact absurd ⟨_, _, _, isMatch, same.symm⟩ nothing
  | @passed c rest out nothing later ih =>
    generalize same : c :: rest = cs at two
    cases two with
    | done => cases same
    | found isMatch => exact absurd ⟨_, _, _, isMatch, same⟩ nothing
    | passed _ laterOther =>
      obtain ⟨rfl, rfl⟩ := List.cons.inj same
      rw [ih laterOther]

/-! ## Rules -/

/-- Whether an underscore goes in front of a character, by what stands before and after it. -/
abbrev Rule := Option Char → Char → Option Char → Bool

/-- An underscore in front of every character that the rule holds of. -/
def separateBy (rule : Rule) (before : Option Char) : List Char → List Char
  | [] => []
  | c :: rest =>
      (if rule before c rest.head? then ['_', c] else [c]) ++ separateBy rule (some c) rest

variable {rule : Rule} {pattern : Pattern}

theorem separateBy_of_false {before : Option Char} {c : Char} {rest : List Char}
    (h : rule before c rest.head? = false) :
    separateBy rule before (c :: rest) = c :: separateBy rule (some c) rest := by
  rw [separateBy, h]
  rfl

theorem separateBy_of_true {before : Option Char} {c : Char} {rest : List Char}
    (h : rule before c rest.head? = true) :
    separateBy rule before (c :: rest) = '_' :: c :: separateBy rule (some c) rest := by
  rw [separateBy, h]
  rfl

/-- The rule does not hold of the first character. -/
def Rule.Silent (rule : Rule) (before : Option Char) (cs : List Char) : Prop :=
  ∀ c rest, cs = c :: rest → rule before c rest.head? = false

/-- The rule holds inside the matches of the pattern, once in each and between its groups. -/
structure Rule.Finds (rule : Rule) (pattern : Pattern) : Prop where
  inside : ∀ {first second}, pattern first second → ∀ before rest, ∃ last,
    separateBy rule before (first ++ (second ++ rest)) =
        first ++ '_' :: (second ++ separateBy rule (some last) rest) ∧
      rule.Silent (some last) rest
  begins : ∀ {before c rest}, rule (some before) c rest.head? = true →
    pattern.Begins (before :: c :: rest)

/-- By induction on the length of what is left of the text.  Where no match begins, the rule
does not hold of the next character, as it would be inside a match that begins here. -/
theorem Rule.Finds.substituted (finds : rule.Finds pattern) (definite : pattern.Definite)
    {before : Option Char} {cs : List Char} (silent : rule.Silent before cs) :
    Substituted pattern cs (separateBy rule before cs) := by
  induction size : cs.length using Nat.strongRecOn generalizing before cs with
  | ind n ih =>
    by_cases begins : pattern.Begins cs
    · obtain ⟨first, second, rest, isMatch, rfl⟩ := begins
      obtain ⟨last, separated, quiet⟩ := finds.inside isMatch before rest
      have nonempty : 0 < first.length := List.length_pos_iff.2 (definite.nonempty isMatch)
      have shorter : rest.length < n := by
        simp only [List.length_append] at size
        omega
      rw [separated]
      exact .found isMatch (ih rest.length shorter quiet rfl)
    · cases cs with
      | nil => exact .done
      | cons c rest =>
        have shorter : rest.length < n := by
          rw [List.length_cons] at size
          omega
        rw [separateBy_of_false (silent c rest rfl)]
        refine .passed begins (ih rest.length shorter ?_ rfl)
        rintro d more rfl
        exact Bool.eq_false_iff.2 fun holds => begins (finds.begins holds)

/-! ## The two patterns -/

/-- Capitals, and then the capital and the small letter that a word begins with. -/
def capitalsThenWord : Pattern := fun first second =>
  first ≠ [] ∧ (∀ c ∈ first, c.isUpper = true) ∧
    ∃ capital small, second = [capital, small] ∧ capital.isUpper = true ∧ small.isLower = true

/-- A small letter or a digit, and then a capital. -/
def smallThenCapital : Pattern := fun first second =>
  ∃ small capital, first = [small] ∧ second = [capital] ∧
    (small.isLower || isDecimal small) = true ∧ capital.isUpper = true

/-- The last of several capitals, with a small letter after it. -/
def endsCapitals : Rule := fun before c next =>
  before.any Char.isUpper && c.isUpper && next.any Char.isLower

/-- A capital after a small letter or a digit. -/
def followsSmall : Rule := fun before c _ =>
  before.any (fun b => b.isLower || isDecimal b) && c.isUpper

theorem not_small_of_isUpper {c : Char} (capital : c.isUpper = true) :
    (c.isLower || isDecimal c) = false := by
  have ascii : isAscii c = true := isAscii_of_isAlphanum (isAlphanum_of_isUpper capital)
  revert capital
  exact forall_ascii (P := fun c => c.isUpper = true → (c.isLower || isDecimal c) = false)
    (by decide) ascii

theorem not_isUpper_of_small {c : Char} (small : (c.isLower || isDecimal c) = true) :
    c.isUpper = false := by
  refine Bool.eq_false_iff.2 fun capital => ?_
  rw [not_small_of_isUpper capital] at small
  cases small

theorem not_isLower_of_isUpper {c : Char} (capital : c.isUpper = true) : c.isLower = false :=
  (Bool.or_eq_false_iff.1 (not_small_of_isUpper capital)).1

theorem not_isUpper_of_isLower {c : Char} (small : c.isLower = true) : c.isUpper = false :=
  not_isUpper_of_small (by rw [small, Bool.true_or])

theorem capitalsThenWord_definite : capitalsThenWord.Definite where
  nonempty isMatch := isMatch.1
  unique := by
    rintro first _ rest first' _ rest' ⟨-, capitals, u, l, rfl, isU, isL⟩
      ⟨-, capitals', u', l', rfl, isU', isL'⟩ same
    -- The capitals of a match end at its only small letter.
    have run : (first ++ [u]) ++ (l :: rest) = (first' ++ [u']) ++ (l' :: rest') := by
      simpa using same
    have all : ∀ c ∈ first ++ [u], c.isUpper = true :=
      List.forall_mem_append.2 ⟨capitals, by simpa using isU⟩
    have all' : ∀ c ∈ first' ++ [u'], c.isUpper = true :=
      List.forall_mem_append.2 ⟨capitals', by simpa using isU'⟩
    obtain ⟨runs, rests⟩ := run_unique all all' (by simp [not_isUpper_of_isLower isL])
      (by simp [not_isUpper_of_isLower isL']) run
    obtain ⟨rfl, last⟩ := List.append_inj' runs rfl
    obtain ⟨rfl, rfl⟩ := List.cons.inj rests
    obtain rfl := List.singleton_inj.1 last
    exact ⟨rfl, rfl, rfl⟩

theorem smallThenCapital_definite : smallThenCapital.Definite where
  nonempty := by
    rintro _ _ ⟨small, capital, rfl, -⟩
    exact List.cons_ne_nil _ _
  unique := by
    rintro _ _ rest _ _ rest' ⟨small, capital, rfl, rfl, -⟩ ⟨small', capital', rfl, rfl, -⟩ same
    obtain ⟨rfl, more⟩ := List.cons.inj same
    obtain ⟨rfl, rfl⟩ := List.cons.inj more
    exact ⟨rfl, rfl, rfl⟩

/-! ## What the rules find -/

/-- Through the capitals of a match: none but the last has a small letter after it. -/
theorem separateBy_capitals {first : List Char} (capitals : ∀ c ∈ first, c.isUpper = true)
    {capital small : Char} (isCapital : capital.isUpper = true) (isSmall : small.isLower = true)
    {before : Option Char} (after : first = [] → before.any Char.isUpper = true)
    (rest : List Char) :
    separateBy endsCapitals before (first ++ capital :: small :: rest) =
      first ++ '_' :: capital :: small :: separateBy endsCapitals (some small) rest := by
  induction first generalizing before with
  | nil =>
    have ends : endsCapitals before capital (small :: rest).head? = true := by
      simp [endsCapitals, after rfl, isCapital, isSmall]
    have stays : endsCapitals (some capital) small rest.head? = false := by
      simp [endsCapitals, not_isUpper_of_isLower isSmall]
    rw [List.nil_append, separateBy_of_true ends, separateBy_of_false stays]
    rfl
  | cons c first ih =>
    obtain ⟨isC, others⟩ := List.forall_mem_cons.1 capitals
    have next : (first ++ capital :: small :: rest).head?.any Char.isLower = false := by
      cases first with
      | nil => simp [not_isLower_of_isUpper isCapital]
      | cons d first => simp [not_isLower_of_isUpper (others d List.mem_cons_self)]
    have stays : endsCapitals before c (first ++ capital :: small :: rest).head? = false := by
      rw [endsCapitals, next, Bool.and_false]
    rw [List.cons_append, separateBy_of_false stays, ih others fun _ => by simpa using isC]
    rfl

theorem endsCapitals_finds : Rule.Finds endsCapitals capitalsThenWord where
  inside := by
    rintro first _ ⟨nonempty, capitals, capital, small, rfl, isCapital, isSmall⟩ before rest
    refine ⟨small, ?_, fun c more _ => ?_⟩
    · exact separateBy_capitals capitals isCapital isSmall (fun empty => absurd empty nonempty) rest
    · simp [endsCapitals, not_isUpper_of_isLower isSmall]
  begins := by
    intro before c rest holds
    cases rest with
    | nil => simp [endsCapitals] at holds
    | cons small rest =>
      simp only [endsCapitals, Option.any_some, List.head?_cons, Bool.and_eq_true] at holds
      obtain ⟨⟨isBefore, isCapital⟩, isSmall⟩ := holds
      exact ⟨[before], [c, small], rest, ⟨List.cons_ne_nil _ _, by simpa using isBefore,
        c, small, rfl, isCapital, isSmall⟩, rfl⟩

theorem followsSmall_finds : Rule.Finds followsSmall smallThenCapital where
  inside := by
    rintro _ _ ⟨small, capital, rfl, rfl, isSmall, isCapital⟩ before rest
    have stays : followsSmall before small (capital :: rest).head? = false := by
      rw [followsSmall, not_isUpper_of_small isSmall, Bool.and_false]
    have follows : followsSmall (some small) capital rest.head? = true := by
      rw [followsSmall, Option.any_some, isSmall, isCapital]
      rfl
    refine ⟨capital, ?_, fun c more _ => ?_⟩
    · rw [List.singleton_append, List.singleton_append, separateBy_of_false stays,
        separateBy_of_true follows]
      rfl
    · rw [followsSmall, Option.any_some, not_small_of_isUpper isCapital, Bool.false_and]
  begins := by
    intro before c rest holds
    simp only [followsSmall, Option.any_some, Bool.and_eq_true] at holds
    exact ⟨[before], [c], rest, ⟨before, c, rfl, rfl, holds.1, holds.2⟩, rfl⟩

/-! ## Both together -/

theorem opensWord_eq (before : Option Char) (c : Char) (next : Option Char) :
    opensWord before c next = (followsSmall before c next || endsCapitals before c next) := by
  cases before with
  | none => rfl
  | some b =>
    cases upper : c.isUpper <;> simp [opensWord, followsSmall, endsCapitals, upper]

/-- Underscores of the first rule hide nothing from the second: after them, and in front of
them, it does not hold. -/
theorem separateBy_separateBy (before : Option Char) (cs : List Char) :
    separateBy followsSmall before (separateBy endsCapitals before cs) =
      separateFrom before cs := by
  induction cs generalizing before with
  | nil => rfl
  | cons c rest ih =>
    rw [separateFrom, opensWord_eq]
    by_cases ends : endsCapitals before c rest.head? = true
    · have isMark : followsSmall before '_' (c :: separateBy endsCapitals (some c) rest).head? =
          false := by
        rw [followsSmall, show Char.isUpper '_' = false by decide, Bool.and_false]
      have afterMark : followsSmall (some '_') c
          (separateBy endsCapitals (some c) rest).head? = false := by
        rw [followsSmall, Option.any_some,
          show (Char.isLower '_' || isDecimal '_') = false by decide, Bool.false_and]
      rw [separateBy_of_true ends, separateBy_of_false isMark, separateBy_of_false afterMark, ih,
        ends, Bool.or_true]
      rfl
    · rw [Bool.not_eq_true] at ends
      rw [separateBy_of_false ends, separateBy, ih, ends, Bool.or_false]
      rfl

/-- The text with its words opened by one substitution after the other. -/
def Opened (cs out : List Char) : Prop :=
  ∃ middle, Substituted capitalsThenWord cs middle ∧ Substituted smallThenCapital middle out

/-- **The neighbours of the capitals tell what the two substitutions find.** -/
theorem separateFrom_eq_iff {cs out : List Char} :
    separateFrom none cs = out ↔ Opened cs out := by
  have first : Substituted capitalsThenWord cs (separateBy endsCapitals none cs) :=
    endsCapitals_finds.substituted capitalsThenWord_definite fun _ _ _ => rfl
  have second : ∀ middle,
      Substituted smallThenCapital middle (separateBy followsSmall none middle) := fun middle =>
    followsSmall_finds.substituted smallThenCapital_definite fun _ _ _ => rfl
  constructor
  · rintro rfl
    refine ⟨_, first, ?_⟩
    rw [← separateBy_separateBy]
    exact second _
  · rintro ⟨middle, one, two⟩
    obtain rfl := one.unique capitalsThenWord_definite first
    rw [← separateBy_separateBy]
    exact (second _).unique smallThenCapital_definite two

end HeaderBind.Identifier
