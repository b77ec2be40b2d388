/-
# HeaderBind.Proofs.Ffi.Builtin — scalar symbols, word by word

The symbol of a built-in type is made by searching the spelling for `unsigned ` and for a last
` int`.  Where the words are made of letters, digits and underscores, both searches act on
whole words: `unsigned ` begins a word only where that word is `unsigned` and another follows
(`fuseFrom_joined`), and ` int` ends the text only where the last word is `int` and is not the
only one (`dropEnding_joined`).  So the symbol is a function of the list of words
(`builtinSymbol_wordwise`), and white space and qualifiers do not show in it.

The rewrite of the words is told on its own: `IsQualifier`, `spellOutInt`, `fuseUnsigned` and
`dropLastInt` share nothing with the search.
-/
import HeaderBind.Ffi.Builtin
import HeaderBind.Proofs.Text.Reading
import Mathlib.Logic.Relation

namespace HeaderBind.Ffi

set_option autoImplicit false

open Text

/-! ## The symbol of a list of words -/

def unsignedWord : List Char := "unsigned".toList

def intWord : List Char := "int".toList

/-- `const`, `restrict` and `volatile`, and other ways in which compilers spell them. -/
def IsQualifier (word : List Char) : Prop :=
  word = "const".toList ∨ word = "restrict".toList ∨ word = "volatile".toList ∨
    word = "__restrict".toList ∨ word = "__restrict__".toList ∨ word = "__const".toList ∨
    word = "__volatile__".toList

instance : DecidablePred IsQualifier := fun _ => inferInstanceAs (Decidable (_ ∨ _))

/-- The words that are no qualifiers. -/
def unqualified (words : List (List Char)) : List (List Char) :=
  words.filter fun word => ¬ IsQualifier word

/-- An `unsigned` that is the only word has an `int` added to it. -/
def spellOutInt : List (List Char) → List (List Char)
  | [word] => if word = unsignedWord then [unsignedWord, intWord] else [word]
  | words => words

/-- Every `unsigned` that has a successor becomes a `u` in front of what follows. -/
def fuseUnsigned : List (List Char) → List (List Char)
  | [] => []
  | [last] => [last]
  | word :: next :: more =>
      if word = unsignedWord then (fuseUnsigned (next :: more)).modifyHead ('u' :: ·)
      else word :: fuseUnsigned (next :: more)

/-- A last `int` after another word goes. -/
def dropLastInt (words : List (List Char)) : List (List Char) :=
  if 1 < words.length ∧ words.getLast? = some intWord then words.dropLast else words

/-- The scalar symbol of a built-in type with the given words, none of them a qualifier. -/
def wordSymbol (words : List (List Char)) : List Char :=
  let symbol := List.intercalate ['_'] (dropLastInt (fuseUnsigned (spellOutInt words)))
  if symbol = "_Bool".toList then "bool".toList else symbol

theorem mem_qualifiers_iff {word : List Char} : word ∈ qualifiers ↔ IsQualifier word := by
  simp only [qualifiers, IsQualifier, List.mem_cons, List.not_mem_nil, or_false]

theorem plainWords_eq (spelling : List Char) :
    plainWords spelling = unqualified (Text.words spelling) := by
  refine List.filter_congr fun word _ => ?_
  rw [Bool.eq_iff_iff, Bool.not_eq_true', ← Bool.not_eq_true, List.contains_iff_mem,
    mem_qualifiers_iff, decide_eq_true_iff]

theorem withImpliedInt_eq (words : List (List Char)) :
    withImpliedInt words = spellOutInt words := by
  unfold withImpliedInt
  fun_cases spellOutInt words with
  | case1 => rfl
  | case2 word other => exact if_neg fun alone => other (List.singleton_inj.1 alone)
  | case3 words several => exact if_neg (several _)

/-- A nonempty run of letters, digits and underscores. -/
def IsWordRun (word : List Char) : Prop := word ≠ [] ∧ ∀ c ∈ word, isWordChar c = true

instance (word : List Char) : Decidable (IsWordRun word) :=
  decidable_of_iff (word ≠ [] ∧ word.all isWordChar = true)
    (and_congr_right fun _ => List.all_eq_true)

theorem IsWordRun.cons {word : List Char} (h : IsWordRun word) : IsWordRun ('u' :: word) := by
  refine ⟨List.cons_ne_nil _ _, fun c member => ?_⟩
  rcases List.mem_cons.1 member with rfl | member
  · decide
  · exact h.2 c member

theorem IsWordRun.noSpace {word : List Char} (h : IsWordRun word) : ' ' ∉ word := by
  intro member
  exact absurd (h.2 ' ' member) (by decide)

variable {words : List (List Char)}

theorem isWordRun_spellOutInt (each : ∀ word ∈ words, IsWordRun word) :
    ∀ word ∈ spellOutInt words, IsWordRun word := by
  have both : ∀ word ∈ [unsignedWord, intWord], IsWordRun word := by decide
  fun_cases spellOutInt words with
  | case1 => exact both
  | case2 => exact each
  | case3 => exact each

theorem fuseUnsigned_ne_nil (nonempty : words ≠ []) : fuseUnsigned words ≠ [] := by
  fun_induction fuseUnsigned words with
  | case1 => exact absurd rfl nonempty
  | case2 => exact List.cons_ne_nil _ _
  | case3 next more ih => simpa using ih (List.cons_ne_nil _ _)
  | case4 => exact List.cons_ne_nil _ _

theorem isWordRun_fuseUnsigned (each : ∀ word ∈ words, IsWordRun word) :
    ∀ word ∈ fuseUnsigned words, IsWordRun word := by
  fun_induction fuseUnsigned words with
  | case1 => exact each
  | case2 => exact each
  | case3 next more ih =>
    have rest := ih fun word member => each word (List.mem_cons_of_mem _ member)
    obtain ⟨first, others, fused⟩ :=
      List.exists_cons_of_ne_nil (fuseUnsigned_ne_nil (List.cons_ne_nil next more))
    rw [fused] at rest ⊢
    intro word member
    rcases List.mem_cons.1 member with rfl | member
    · exact (rest first List.mem_cons_self).cons
    · exact rest word (List.mem_cons_of_mem first member)
  | case4 word next more _ ih =>
    exact List.forall_mem_cons.2 ⟨each word List.mem_cons_self,
      ih fun other member => each other (List.mem_cons_of_mem word member)⟩

theorem isWordRun_dropLastInt (each : ∀ word ∈ words, IsWordRun word) :
    ∀ word ∈ dropLastInt words, IsWordRun word := by
  unfold dropLastInt
  split
  · exact fun word member => each word (List.dropLast_subset _ member)
  · exact each

/-! ## Joined words -/

/-- Words with a space between any two of them. -/
def joined (words : List (List Char)) : List Char := List.intercalate [' '] words

@[simp] theorem joined_singleton (word : List Char) : joined [word] = word :=
  List.intercalate_singleton

theorem joined_cons_cons (word next : List Char) (more : List (List Char)) :
    joined (word :: next :: more) = word ++ ' ' :: joined (next :: more) := by
  rw [joined, List.intercalate_cons_cons, List.append_assoc]
  rfl

theorem joined_concat (nonempty : words ≠ []) (last : List Char) :
    joined (words ++ [last]) = joined words ++ ' ' :: last := by
  induction words with
  | nil => exact absurd rfl nonempty
  | cons word rest ih =>
    cases rest with
    | nil => simp [joined_cons_cons]
    | cons next more =>
      have rest := ih (List.cons_ne_nil next more)
      rw [List.cons_append, List.cons_append, joined_cons_cons, joined_cons_cons,
        List.append_assoc, List.cons_append, ← rest, List.cons_append]

theorem joined_modifyHead (nonempty : words ≠ []) (c : Char) :
    joined (words.modifyHead (c :: ·)) = c :: joined words := by
  obtain ⟨word, rest, rfl⟩ := List.exists_cons_of_ne_nil nonempty
  cases rest with
  | nil => simp [joined]
  | cons next more => simp [joined_cons_cons]

/-- The words are read back from the text. -/
theorem splitOn_joined (each : ∀ word ∈ words, IsWordRun word) (nonempty : words ≠ []) :
    (joined words).splitOn ' ' = words :=
  List.splitOn_intercalate ' ' (fun word member => (each word member).noSpace) nonempty

/-- With an underscore for every space, the words have underscores between them. -/
theorem map_joined (each : ∀ word ∈ words, IsWordRun word) :
    (joined words).map (fun c => if c = ' ' then '_' else c) = List.intercalate ['_'] words := by
  have same : ∀ {word : List Char}, IsWordRun word →
      word.map (fun c => if c = ' ' then '_' else c) = word := fun {word} run => by
    have kept : ∀ c ∈ word, (if c = ' ' then '_' else c) = id c := by
      rintro c member
      refine if_neg ?_
      rintro rfl
      exact run.noSpace member
    rw [List.map_congr_left kept, List.map_id]
  induction words with
  | nil => rfl
  | cons word rest ih =>
    obtain ⟨run, others⟩ := List.forall_mem_cons.1 each
    cases rest with
    | nil => rw [joined_singleton, List.intercalate_singleton, same run]
    | cons next more =>
      rw [joined_cons_cons, List.map_append, List.map_cons, same run, ih others,
        List.intercalate_cons_cons, List.append_assoc]
      rfl

/-! ## The two searches -/

/-- Within a word nothing is found. -/
theorem fuseFrom_inWord {word : List Char} (each : ∀ c ∈ word, isWordChar c = true)
    (rest : List Char) : fuseFrom 0 true (word ++ rest) = word ++ fuseFrom 0 true rest := by
  induction word with
  | nil => rfl
  | cons c word ih =>
    obtain ⟨wordChar, others⟩ := List.forall_mem_cons.1 each
    simp [fuseFrom, wordChar, ih others]

/-- `unsigned ` stands in front of a text with a word only if that is the word. -/
theorem isPrefixOf_unsignedLead {word rest : List Char} (run : IsWordRun word)
    (stops : ∀ c ∈ rest.head?, ¬ isWordChar c = true) :
    unsignedLead.isPrefixOf (word ++ rest) = true →
      word = unsignedWord ∧ rest.head? = some ' ' := by
  intro found
  obtain ⟨more, split⟩ := List.isPrefixOf_iff_prefix.1 found
  have lead : unsignedLead ++ more = unsignedWord ++ ' ' :: more := rfl
  have whole : IsWordRun unsignedWord := by decide
  obtain ⟨same, tails⟩ := run_unique run.2 whole.2 stops (by simp; decide)
    (split.symm.trans lead)
  exact ⟨same, by rw [tails]; rfl⟩

/-- **The search for `unsigned ` finds the words that are `unsigned` and have a successor.** -/
theorem fuseFrom_joined (each : ∀ word ∈ words, IsWordRun word) :
    fuseFrom 0 false (joined words) = joined (fuseUnsigned words) := by
  have passed : ∀ {word rest : List Char}, IsWordRun word →
      unsignedLead.isPrefixOf (word ++ rest) = false →
      fuseFrom 0 false (word ++ rest) = word ++ fuseFrom 0 true rest := by
    intro word rest run unfound
    obtain ⟨c, tail, rfl⟩ := List.exists_cons_of_ne_nil run.1
    obtain ⟨wordChar, others⟩ := List.forall_mem_cons.1 run.2
    rw [List.cons_append] at unfound ⊢
    simp [fuseFrom, unfound, wordChar, fuseFrom_inWord others]
  fun_induction fuseUnsigned words with
  | case1 => rfl
  | case2 last =>
    have run := each last List.mem_cons_self
    have unfound : unsignedLead.isPrefixOf (last ++ []) = false := Bool.eq_false_iff.2 fun found =>
      absurd (isPrefixOf_unsignedLead run (by simp) found).2 (by simp)
    have whole := passed run unfound
    rw [joined_singleton]
    rwa [List.append_nil, fuseFrom, List.append_nil] at whole
  | case3 next more ih =>
    -- What was found is passed over, and a word begins behind it.
    have rest := ih fun word member => each word (List.mem_cons_of_mem _ member)
    rw [joined_modifyHead (fuseUnsigned_ne_nil (List.cons_ne_nil next more)), ← rest,
      joined_cons_cons]
    rfl
  | case4 word next more differ ih =>
    obtain ⟨run, others⟩ := List.forall_mem_cons.1 each
    obtain ⟨first, left, fused⟩ :=
      List.exists_cons_of_ne_nil (fuseUnsigned_ne_nil (List.cons_ne_nil next more))
    have unfound : unsignedLead.isPrefixOf (word ++ ' ' :: joined (next :: more)) = false :=
      Bool.eq_false_iff.2 fun found =>
        differ (isPrefixOf_unsignedLead run (by simp; decide) found).1
    have space : fuseFrom 0 true (' ' :: joined (next :: more)) =
        ' ' :: fuseFrom 0 false (joined (next :: more)) := by
      have blank : isWordChar ' ' = false := by decide
      simp [fuseFrom, blank]
    rw [joined_cons_cons, passed run unfound, space, ih others, fused, joined_cons_cons]

/-- **The text ends in ` int` if the last word is `int` and another one precedes it.** -/
theorem dropEnding_joined (each : ∀ word ∈ words, IsWordRun word) :
    dropEnding " int".toList (joined words) = joined (dropLastInt words) := by
  have ending : " int".toList = ' ' :: intWord := rfl
  have unbroken : intWord.splitOn ' ' = [intWord] := List.splitOn_eq_singleton (by decide)
  unfold dropLastInt
  split
  · rename_i last
    obtain ⟨before, rfl⟩ := List.getLast?_eq_some_iff.1 last.2
    have nonempty : before ≠ [] := by
      rintro rfl
      simp at last
    have suffix : (' ' :: intWord).isSuffixOf (joined before ++ ' ' :: intWord) = true :=
      List.isSuffixOf_iff_suffix.2 (List.suffix_append _ _)
    rw [joined_concat nonempty, List.dropLast_concat, dropEnding, ending, if_pos suffix]
    simp
  · rename_i kept
    -- The space in front of the ending makes its `int` a word of its own.
    refine if_neg fun found => kept ?_
    obtain ⟨before, split⟩ := List.isSuffixOf_iff_suffix.1 found
    have nonempty : words ≠ [] := by
      rintro rfl
      simp [joined, ending] at split
    have pieces : words = before.splitOn ' ' ++ [intWord] := by
      rw [← splitOn_joined each nonempty, ← split, ending, ← unbroken]
      exact List.splitOnP_append_cons before intWord rfl
    have preceded := List.length_pos_iff.2 (List.splitOn_ne_nil ' ' before)
    rw [pieces]
    simp only [List.length_append, List.length_singleton, List.getLast?_concat, and_true]
    omega

/-! ## Words of a spelling -/

/-- No word runs over the place between the two texts. -/
def WordsApart (left right : List Char) : Prop :=
  left.getLast?.all isBlank = true ∨ right.head?.all isBlank = true

theorem words_blank (left right : List Char) {c : Char} (blank : isBlank c = true) :
    Text.words (left ++ c :: right) = Text.words left ++ Text.words right :=
  runsOutside_append_cons left right blank

theorem words_append {left right : List Char} (apart : WordsApart left right) :
    Text.words (left ++ right) = Text.words left ++ Text.words right := by
  rcases apart with ends | starts
  · cases last : left.getLast? with
    | none => rw [List.getLast?_eq_none_iff.1 last]; rfl
    | some c =>
      obtain ⟨before, rfl⟩ := List.getLast?_eq_some_iff.1 last
      have blank : isBlank c = true := by simpa using ends
      have empty : Text.words [] = [] := rfl
      rw [List.append_assoc, List.singleton_append, words_blank _ _ blank,
        words_blank _ _ blank, empty, List.append_nil]
  · cases right with
    | nil => simp [Text.words]
    | cons c right =>
      have blank : isBlank c = true := by simpa using starts
      have first := words_blank [] right blank
      rw [words_blank _ _ blank, ← List.nil_append (c :: right), first]
      rfl

/-- A blank or a qualifier is put in at a place that no word runs over. -/
inductive Respelled : List Char → List Char → Prop
  | blank {left right : List Char} {c : Char} (isSpace : isBlank c = true)
      (apart : WordsApart left right) : Respelled (left ++ right) (left ++ c :: right)
  | qualifier {left right word : List Char} (isQualifier : IsQualifier word)
      (ends : left.getLast?.all isBlank = true) (starts : right.head?.all isBlank = true) :
      Respelled (left ++ right) (left ++ (word ++ right))

theorem unqualified_append (words more : List (List Char)) :
    unqualified (words ++ more) = unqualified words ++ unqualified more :=
  List.filter_append words more

theorem unqualified_of_respelled {one other : List Char} (respelled : Respelled one other) :
    unqualified (Text.words one) = unqualified (Text.words other) := by
  cases respelled with
  | @blank left right c isSpace apart =>
    rw [words_append apart, words_blank left right isSpace]
  | @qualifier left right word isQualifier ends starts =>
    have single : ∀ word ∈ qualifiers, Text.words word = [word] := by decide
    have dropped : unqualified [word] = [] := by simp [unqualified, isQualifier]
    rw [words_append (.inl ends), words_append (.inl ends), words_append (.inr starts),
      single word (mem_qualifiers_iff.2 isQualifier), unqualified_append, unqualified_append,
      unqualified_append, dropped, List.nil_append]

theorem unqualified_of_eqvGen {one other : List Char}
    (respelled : Relation.EqvGen Respelled one other) :
    unqualified (Text.words one) = unqualified (Text.words other) := by
  induction respelled with
  | rel _ _ once => exact unqualified_of_respelled once
  | refl => rfl
  | symm _ _ _ ih => exact ih.symm
  | trans _ _ _ _ _ first second => exact first.trans second

theorem isWordRun_unqualified {spelling : List Char}
    (each : ∀ word ∈ Text.words spelling, ∀ c ∈ word, isWordChar c = true) :
    ∀ word ∈ unqualified (Text.words spelling), IsWordRun word := by
  intro word member
  have isOne : word ∈ Text.words spelling := List.mem_of_mem_filter member
  have nonempty : word ≠ [] := by simpa using List.of_mem_filter isOne
  exact ⟨nonempty, each word isOne⟩

/-- **The symbol of a built-in type is a function of its words that are no qualifiers.**  Blanks
and qualifiers that are put in between words or taken out never change it. -/
theorem builtinSymbol_wordwise :
    (∀ spelling : String,
      (∀ word ∈ Text.words spelling.toList, ∀ c ∈ word, isWordChar c = true) →
        builtinSymbol spelling =
          String.ofList (wordSymbol (unqualified (Text.words spelling.toList)))) ∧
    ∀ one other : String, Relation.EqvGen Respelled one.toList other.toList →
      builtinSymbol one = builtinSymbol other := by
  constructor
  · intro spelling each
    have runs := isWordRun_spellOutInt (isWordRun_unqualified each)
    have fused := isWordRun_fuseUnsigned runs
    have left := isWordRun_dropLastInt fused
    have searched : dropEnding " int".toList (fuseFrom 0 false (List.intercalate [' ']
        (spellOutInt (unqualified (Text.words spelling.toList))))) =
          joined (dropLastInt (fuseUnsigned
            (spellOutInt (unqualified (Text.words spelling.toList))))) := by
      rw [← dropEnding_joined fused, ← fuseFrom_joined runs]
      rfl
    rw [builtinSymbol, builtinSymbolChars, plainWords_eq, withImpliedInt_eq, searched,
      map_joined left]
    rfl
  · intro one other respelled
    rw [builtinSymbol, builtinSymbol, builtinSymbolChars, builtinSymbolChars, plainWords_eq,
      plainWords_eq, unqualified_of_eqvGen respelled]

/-- A qualifier is put in between two words, after a blank of its own; a lone `unsigned`, which
qualifiers do not count against; and the one symbol that is renamed. -/
theorem builtinSymbol_wordwise_ulong :
    (builtinSymbol "unsigned const long\tint" = String.ofList (wordSymbol
          (unqualified (Text.words "unsigned const long\tint".toList))) ∧
        wordSymbol (unqualified (Text.words "unsigned const long\tint".toList)) =
          "ulong".toList) ∧
      (builtinSymbol "volatile unsigned" = String.ofList (wordSymbol
          (unqualified (Text.words "volatile unsigned".toList))) ∧
        wordSymbol (unqualified (Text.words "volatile unsigned".toList)) = "uint".toList) ∧
      (builtinSymbol "_Bool" = String.ofList (wordSymbol
          (unqualified (Text.words "_Bool".toList))) ∧
        wordSymbol (unqualified (Text.words "_Bool".toList)) = "bool".toList) ∧
      builtinSymbol "unsigned long\tint" = builtinSymbol "unsigned const long\tint" := by
  obtain ⟨wordwise, unchanged⟩ := builtinSymbol_wordwise
  have blank : Respelled ("unsigned ".toList ++ "long\tint".toList)
      ("unsigned ".toList ++ ' ' :: "long\tint".toList) := .blank (by decide) (.inl (by decide))
  have qualifier : Respelled ("unsigned ".toList ++ " long\tint".toList)
      ("unsigned ".toList ++ ("const".toList ++ " long\tint".toList)) :=
    .qualifier (by decide) (by decide) (by decide)
  have each : ∀ spelling ∈ ["unsigned const long\tint", "volatile unsigned", "_Bool"],
      ∀ word ∈ Text.words spelling.toList, word.all isWordChar = true := by decide
  have symbol := fun spelling member => wordwise spelling fun word isWord =>
    List.all_eq_true.1 (each spelling member word isWord)
  exact ⟨⟨symbol _ (by decide), by decide⟩, ⟨symbol _ (by decide), by decide⟩,
    ⟨symbol _ (by decide), by decide⟩,
    unchanged _ _ (.trans _ _ _ (.rel _ _ blank) (.rel _ _ qualifier))⟩

end HeaderBind.Ffi
