/-
# HeaderBind.Proofs.Text.Reading — texts that are read in one way only

A text that is put together from parts tells its parts if each of them ends where something
stands that it cannot hold: a run of elements of a class ends before the first that is not in
it (`run_unique`), a word before a character that is none of a word (`read_word`), and texts
between separators end at the separator (`intercalate_inj`).
-/
import HeaderBind.Text.Alphanumeric
import Mathlib.Data.List.Basic

namespace HeaderBind.Text

set_option autoImplicit false

/-! ## Runs -/

/-- A run of elements of a class, before something that does not start with one. -/
theorem run_unique {α : Type} {p : α → Prop} {one other rest more : List α}
    (isOne : ∀ a ∈ one, p a) (isOther : ∀ a ∈ other, p a)
    (stops : ∀ a ∈ rest.head?, ¬ p a) (ends : ∀ a ∈ more.head?, ¬ p a)
    (same : one ++ rest = other ++ more) : one = other ∧ rest = more := by
  induction one generalizing other with
  | nil =>
    cases other with
    | nil => exact ⟨rfl, same⟩
    | cons b other =>
      rw [List.nil_append] at same
      exact absurd (isOther b List.mem_cons_self) (stops b (by rw [same]; rfl))
  | cons a one ih =>
    cases other with
    | nil =>
      rw [List.nil_append] at same
      exact absurd (isOne a List.mem_cons_self) (ends a (by rw [← same]; rfl))
    | cons b other =>
      obtain ⟨rfl, tails⟩ := List.cons.inj same
      obtain ⟨rfl, rests⟩ := ih (fun c member => isOne c (List.mem_cons_of_mem a member))
        (fun c member => isOther c (List.mem_cons_of_mem a member)) tails
      exact ⟨rfl, rests⟩

/-- Where a function tells what another one gives, element by element, it tells it of lists. -/
theorem map_eq_of_map_eq {α β γ : Type} {f : α → β} {g : α → γ} {items others : List α}
    (told : ∀ item ∈ items, ∀ other ∈ others, f item = f other → g item = g other)
    (same : items.map f = others.map f) : items.map g = others.map g := by
  induction items generalizing others with
  | nil => rw [List.map_eq_nil_iff.1 same.symm]
  | cons item items ih =>
    cases others with
    | nil => cases same
    | cons other others =>
      obtain ⟨heads, tails⟩ := List.cons.inj same
      rw [List.map_cons, List.map_cons, told item List.mem_cons_self other List.mem_cons_self heads,
        ih (fun one isOne two isTwo => told one (List.mem_cons_of_mem item isOne) two
          (List.mem_cons_of_mem other isTwo)) tails]

theorem eq_of_map_eq {α β : Type} {f : α → β} {items others : List α}
    (told : ∀ item ∈ items, ∀ other ∈ others, f item = f other → item = other)
    (same : items.map f = others.map f) : items = others := by
  have ids := map_eq_of_map_eq (g := id) told same
  rwa [List.map_id, List.map_id] at ids

/-- Lists between separators that start with an element of none of them. -/
theorem intercalate_inj {α : Type} [DecidableEq α] {a : α} {separator : List α}
    {one other : List (List α)}
    (isOne : ∀ item ∈ one, a ∉ item) (isOther : ∀ item ∈ other, a ∉ item)
    (nonempty : one ≠ []) (nonemptyOther : other ≠ [])
    (same : List.intercalate (a :: separator) one = List.intercalate (a :: separator) other) :
    one = other := by
  have goesOn : ∀ (first next : List α) (rest : List (List α)),
      List.intercalate (a :: separator) (first :: next :: rest) =
        first ++ a :: (separator ++ List.intercalate (a :: separator) (next :: rest)) := by
    intro first next rest
    rw [List.intercalate_cons_cons, List.append_assoc]
    rfl
  induction one generalizing other with
  | nil => exact absurd rfl nonempty
  | cons first rest ih =>
    obtain ⟨second, more, rfl⟩ := List.exists_cons_of_ne_nil nonemptyOther
    obtain ⟨isFirst, areRest⟩ := List.forall_mem_cons.1 isOne
    obtain ⟨isSecond, areMore⟩ := List.forall_mem_cons.1 isOther
    cases rest with
    | nil =>
      cases more with
      | nil =>
        rw [List.intercalate_singleton, List.intercalate_singleton] at same
        rw [same]
      | cons next more =>
        rw [List.intercalate_singleton, goesOn] at same
        exact absurd (same ▸ List.mem_append_right _ List.mem_cons_self) isFirst
    | cons next rest =>
      cases more with
      | nil =>
        rw [List.intercalate_singleton, goesOn] at same
        exact absurd (same ▸ List.mem_append_right _ List.mem_cons_self) isSecond
      | cons other more =>
        rw [goesOn, goesOn] at same
        have passes : ∀ {item : List α}, a ∉ item → ∀ b ∈ item, b ≠ a :=
          fun outside b member isA => outside (isA ▸ member)
        obtain ⟨rfl, tails⟩ :=
          run_unique (passes isFirst) (passes isSecond) (by simp) (by simp) same
        have items := ih areRest areMore (List.cons_ne_nil _ _) (List.cons_ne_nil _ _)
          (List.append_cancel_left (List.cons.inj tails).2)
        rw [items]

/-- Texts between separators that start with a character of none of them. -/
theorem texts_of_intercalate {separator : String} {c : Char} {tail : List Char}
    {items others : List String} (starts : separator.toList = c :: tail)
    (each : ∀ item ∈ items, c ∉ item.toList) (eachOther : ∀ item ∈ others, c ∉ item.toList)
    (nonempty : items ≠ []) (nonemptyOther : others ≠ [])
    (same : separator.intercalate items = separator.intercalate others) : items = others := by
  have chars := congrArg String.toList same
  rw [String.toList_intercalate, String.toList_intercalate, starts] at chars
  refine List.map_injective_iff.2 (fun _ _ => String.toList_inj.1) (intercalate_inj
    (List.forall_mem_map.2 each) (List.forall_mem_map.2 eachOther) ?_ ?_ chars)
  · exact fun none => nonempty (List.map_eq_nil_iff.1 none)
  · exact fun none => nonemptyOther (List.map_eq_nil_iff.1 none)

theorem notMem_intercalate {separator : String} {c : Char} (between : c ∉ separator.toList)
    {items : List String} (each : ∀ item ∈ items, c ∉ item.toList) :
    c ∉ (separator.intercalate items).toList := by
  induction items with
  | nil =>
    rw [String.intercalate_nil]
    exact List.not_mem_nil
  | cons first rest ih =>
    obtain ⟨inFirst, inRest⟩ := List.forall_mem_cons.1 each
    cases rest with
    | nil => rwa [String.intercalate_singleton]
    | cons next rest =>
      rw [String.intercalate_cons_cons, String.toList_append, String.toList_append,
        List.mem_append, List.mem_append]
      exact not_or.2 ⟨not_or.2 ⟨inFirst, between⟩, ih inRest⟩

/-- The pieces between the places where an element stands do not hold it. -/
theorem notMem_of_mem_splitOn {α : Type} [DecidableEq α] {a : α} {items piece : List α}
    (member : piece ∈ items.splitOn a) : a ∉ piece := by
  induction items generalizing piece with
  | nil =>
    rw [List.splitOn_nil, List.mem_singleton] at member
    exact member ▸ List.not_mem_nil
  | cons b items ih =>
    rw [List.splitOn_cons_eq_if_modifyHead] at member
    split at member
    · rcases List.mem_cons.1 member with rfl | member
      · exact List.not_mem_nil
      · exact ih member
    · rename_i other
      cases pieces : items.splitOn a with
      | nil => exact absurd pieces (List.splitOn_ne_nil _ _)
      | cons first rest =>
        rw [pieces] at member
        rcases List.mem_cons.1 member with rfl | member
        · have unbroken := ih (pieces ▸ List.mem_cons_self)
          rw [List.mem_cons, not_or]
          exact ⟨fun same => other (beq_iff_eq.2 same.symm), unbroken⟩
        · exact ih (pieces ▸ List.mem_cons_of_mem first member)

/-- The pieces are made of elements of the list. -/
theorem mem_of_mem_splitOn {α : Type} [DecidableEq α] {a b : α} {items piece : List α}
    (member : piece ∈ items.splitOn a) (inPiece : b ∈ piece) : b ∈ items := by
  induction items generalizing piece with
  | nil =>
    rw [List.splitOn_nil, List.mem_singleton] at member
    exact member ▸ inPiece
  | cons c items ih =>
    rw [List.splitOn_cons_eq_if_modifyHead] at member
    split at member
    · rcases List.mem_cons.1 member with rfl | member
      · cases inPiece
      · exact List.mem_cons_of_mem c (ih member inPiece)
    · obtain ⟨first, rest, pieces⟩ := List.exists_cons_of_ne_nil (List.splitOn_ne_nil a items)
      rw [pieces] at member
      rcases List.mem_cons.1 member with rfl | member
      · rcases List.mem_cons.1 inPiece with rfl | inFirst
        · exact List.mem_cons_self
        · exact List.mem_cons_of_mem c (ih (pieces ▸ List.mem_cons_self) inFirst)
      · exact List.mem_cons_of_mem c (ih (pieces ▸ List.mem_cons_of_mem first member) inPiece)

/-- The maximal runs of elements that are not in the class. -/
def runsOutside {α : Type} (p : α → Bool) (items : List α) : List (List α) :=
  (items.splitOnP p).filter fun run => !run.isEmpty

section RunsOutside

variable {α : Type} {p : α → Bool}

/-- An element of the class ends the runs before it. -/
theorem runsOutside_append_cons (items more : List α) {a : α} (inClass : p a = true) :
    runsOutside p (items ++ a :: more) = runsOutside p items ++ runsOutside p more := by
  rw [runsOutside, List.splitOnP_append_cons items more inClass, List.filter_append]
  rfl

/-- Elements of the class are passed over. -/
theorem runsOutside_append_left {between : List α} (inClass : ∀ a ∈ between, p a = true)
    (items : List α) : runsOutside p (between ++ items) = runsOutside p items := by
  induction between with
  | nil => rfl
  | cons a between ih =>
    obtain ⟨first, others⟩ := List.forall_mem_cons.1 inClass
    have split := runsOutside_append_cons [] (between ++ items) first
    exact split.trans (ih others)

/-- Two parts with elements of the class between them. -/
theorem runsOutside_between {between : List α} (nonempty : between ≠ [])
    (inClass : ∀ a ∈ between, p a = true) (items more : List α) :
    runsOutside p (items ++ (between ++ more)) = runsOutside p items ++ runsOutside p more := by
  obtain ⟨a, rest, rfl⟩ := List.exists_cons_of_ne_nil nonempty
  obtain ⟨first, others⟩ := List.forall_mem_cons.1 inClass
  rw [List.cons_append, runsOutside_append_cons _ _ first, runsOutside_append_left others]

theorem runsOutside_singleton {run : List α} (nonempty : run ≠ [])
    (outside : ∀ a ∈ run, p a = false) : runsOutside p run = [run] := by
  rw [runsOutside, List.splitOnP_eq_singleton outside]
  simp [nonempty]

end RunsOutside

/-! ## Words -/

/-- The first character of a text. -/
def first? (text : String) : Option Char := text.toList.head?

theorem first?_append {text : String} (nonempty : text ≠ "") (more : String) :
    first? (text ++ more) = first? text := by
  have chars : text.toList ≠ [] := fun none => nonempty (String.toList_eq_nil_iff.1 none)
  rw [first?, first?, String.toList_append, List.head?_append_of_ne_nil _ chars]

theorem first?_append_of_some {text : String} {c : Char} (first : first? text = some c)
    (more : String) : first? (text ++ more) = some c := by
  refine (first?_append (fun empty => ?_) more).trans first
  rw [empty] at first
  cases first

theorem ne_of_first? {text other : String} {c d : Char} (first : first? text = some c)
    (second : first? other = some d) (distinct : c ≠ d) : text ≠ other := by
  rintro rfl
  exact distinct (Option.some.inj (first.symm.trans second))

/-- A text is read up to the first place where a character stands. -/
theorem read_until {c : Char} {one other rest more : String} (inOne : c ∉ one.toList)
    (inOther : c ∉ other.toList) (stops : first? rest = some c) (ends : first? more = some c)
    (same : one ++ rest = other ++ more) : one = other ∧ rest = more := by
  have passes : ∀ {text : String}, c ∉ text.toList → ∀ d ∈ text.toList, d ≠ c :=
    fun outside d member isC => outside (isC ▸ member)
  have halts : ∀ {text : String}, first? text = some c → ∀ d ∈ text.toList.head?, ¬ d ≠ c :=
    fun first d found => not_not.2 (Option.some.inj (found.symm.trans first))
  have chars := congrArg String.toList same
  rw [String.toList_append, String.toList_append] at chars
  obtain ⟨texts, rests⟩ :=
    run_unique (passes inOne) (passes inOther) (halts stops) (halts ends) chars
  exact ⟨String.toList_inj.1 texts, String.toList_inj.1 rests⟩

/-- A nonempty text of word characters. -/
def IsWord (text : String) : Prop := text ≠ "" ∧ ∀ c ∈ text.toList, isWordChar c = true

instance (text : String) : Decidable (IsWord text) :=
  decidable_of_iff (text ≠ "" ∧ text.toList.all isWordChar = true)
    (and_congr_right fun _ => List.all_eq_true)

/-- A word ends before this text. -/
def endsWord (text : String) : Bool := (first? text).all fun c => !isWordChar c

theorem endsWord_append {text : String} (nonempty : text ≠ "") (ends : endsWord text = true)
    (more : String) : endsWord (text ++ more) = true := by
  rwa [endsWord, first?_append nonempty]

theorem outside_of_endsWord {text : String} (ends : endsWord text = true) :
    ∀ c ∈ first? text, ¬ isWordChar c = true := by
  intro c first
  rw [endsWord, Option.mem_def.1 first] at ends
  simpa using ends

/-- A word is read up to where it ends. -/
theorem read_word {one other rest more : String} (isOne : IsWord one) (isOther : IsWord other)
    (stops : endsWord rest = true) (ends : endsWord more = true)
    (same : one ++ rest = other ++ more) : one = other ∧ rest = more := by
  have chars := congrArg String.toList same
  rw [String.toList_append, String.toList_append] at chars
  obtain ⟨words, rests⟩ := run_unique isOne.2 isOther.2 (outside_of_endsWord stops)
    (outside_of_endsWord ends) chars
  exact ⟨String.toList_inj.1 words, String.toList_inj.1 rests⟩

/-- A character that no word holds. -/
theorem IsWord.notMem {text : String} (h : IsWord text) {c : Char}
    (outside : isWordChar c = false) : c ∉ text.toList := by
  intro member
  cases outside.symm.trans (h.2 c member)

/-- What starts with a word does not start like what ends one. -/
theorem IsWord.ne_append {word start : String} (h : IsWord word) (nonempty : start ≠ "")
    (ends : endsWord start = true) (rest more : String) : word ++ rest ≠ start ++ more := by
  have chars : word.toList ≠ [] := fun none => h.1 (String.toList_eq_nil_iff.1 none)
  obtain ⟨c, tail, split⟩ := List.exists_cons_of_ne_nil chars
  have inside := h.2 c (by rw [split]; exact List.mem_cons_self)
  cases second : first? start with
  | none => exact absurd (String.toList_eq_nil_iff.1 (List.head?_eq_none_iff.1 second)) nonempty
  | some d =>
    have first : first? word = some c := by rw [first?, split, List.head?_cons]
    refine ne_of_first? (first?_append_of_some first rest) (first?_append_of_some second more) ?_
    rintro rfl
    exact outside_of_endsWord ends c second inside

end HeaderBind.Text
