/-
# HeaderBind.Proofs.Identifier.Case — snake case undoes camel case

A part is a small letter followed by one or more small letters or digits.  Camel case runs
parts together, each with a capital; snake case opens them up again exactly there, as the
only capitals are those of the parts and each but the first follows a small letter or a
digit (`snakeCaseChars_camelCaseChars`).  So names made of such parts that are the same in
camel case are the same.
-/
import HeaderBind.Identifier.Case
import HeaderBind.Proofs.Text.Ascii
import Mathlib.Data.List.Basic

namespace HeaderBind.Identifier

set_option autoImplicit false

/-! ## Parts -/

/-- A small letter or a digit of ASCII. -/
def isSmall (c : Char) : Bool := c.isLower || c.isDigit

/-- A small letter followed by one or more small letters or digits. -/
def isPart : List Char → Bool
  | first :: second :: rest => first.isLower && (second :: rest).all isSmall
  | _ => false

theorem exists_of_isPart {part : List Char} (h : isPart part = true) :
    ∃ first second rest, part = first :: second :: rest ∧ first.isLower = true ∧
      ∀ c ∈ second :: rest, isSmall c = true := by
  match part, h with
  | first :: second :: rest, h =>
    obtain ⟨lower, small⟩ := Bool.and_eq_true_iff.1 h
    exact ⟨first, second, rest, rfl, lower, List.all_eq_true.1 small⟩

/-- Two or more small letters are a part. -/
theorem isPart_of_lower {cs : List Char} (lower : cs.all Char.isLower = true)
    (long : 2 ≤ cs.length) : isPart cs = true := by
  match cs, lower, long with
  | first :: second :: rest, lower, _ =>
    obtain ⟨isFirst, others⟩ := List.forall_mem_cons.1 (List.all_eq_true.1 lower)
    refine Bool.and_eq_true_iff.2 ⟨isFirst, List.all_eq_true.2 fun c member => ?_⟩
    rw [isSmall, others c member, Bool.true_or]

/-- What a small letter or digit is, and is not. -/
theorem isSmall_spec {c : Char} (small : isSmall c = true) :
    Text.isAscii c = true ∧ c.isUpper = false ∧ c.toLower = c ∧ c ≠ '_' ∧ c ≠ '/' ∧ c ≠ '-' ∧
      (c.isLower || Text.isDecimal c) = true := by
  have ascii : Text.isAscii c = true := by
    refine Text.isAscii_of_isAlphanum ?_
    rcases Bool.or_eq_true_iff.1 small with lower | digit
    · exact Text.isAlphanum_of_isLower lower
    · exact Bool.or_eq_true_iff.2 (.inr digit)
  have decimal : Text.isDecimal c = c.isDigit := Text.inClass_of_ascii ascii
  rw [decimal]
  have codes : isSmall c = true → c.isUpper = false ∧ c.toLower = c ∧ c ≠ '_' ∧ c ≠ '/' ∧
      c ≠ '-' := Text.forall_ascii (P := fun c => isSmall c = true → c.isUpper = false ∧
        c.toLower = c ∧ c ≠ '_' ∧ c ≠ '/' ∧ c ≠ '-') (by decide) ascii
  obtain ⟨upper, lower, underscore, slash, dash⟩ := codes small
  exact ⟨ascii, upper, lower, underscore, slash, dash, small⟩

theorem isSmall_of_mem_part {part : List Char} (h : isPart part = true) :
    ∀ c ∈ part, isSmall c = true := by
  obtain ⟨first, second, rest, rfl, lower, small⟩ := exists_of_isPart h
  intro c member
  rcases List.mem_cons.1 member with rfl | member
  · rw [isSmall, lower, Bool.true_or]
  · exact small c member

/-! ## Camel case -/

/-- A part with its first letter as a capital. -/
def capitalPart : List Char → List Char
  | [] => []
  | first :: rest => first.toUpper :: rest

theorem capitalize_part {part : List Char} (h : isPart part = true) :
    capitalize part = capitalPart part := by
  obtain ⟨first, second, rest, rfl, lower, -⟩ := exists_of_isPart h
  have small : isSmall first = true := by rw [isSmall, lower, Bool.true_or]
  rw [capitalize, Text.upper_of_ascii (isSmall_spec small).1]
  rfl

variable {parts : List (List Char)}

/-- The characters of a name made of parts are small, and underscores stand between them. -/
theorem mem_intercalate_parts (each : ∀ part ∈ parts, isPart part = true) {c : Char}
    (member : c ∈ List.intercalate ['_'] parts) : isSmall c = true ∨ c = '_' := by
  induction parts with
  | nil => cases member
  | cons part rest ih =>
    cases rest with
    | nil =>
      rw [List.intercalate_singleton] at member
      exact .inl (isSmall_of_mem_part (each part List.mem_cons_self) c member)
    | cons next more =>
      rw [List.intercalate_cons_cons, List.append_assoc] at member
      rcases List.mem_append.1 member with member | member
      · exact .inl (isSmall_of_mem_part (each part List.mem_cons_self) c member)
      · rcases List.mem_append.1 member with member | member
        · exact .inr (List.mem_singleton.1 member)
        · exact ih (fun other isPart => each other (List.mem_cons_of_mem part isPart)) member

theorem splitOn_parts (nonempty : parts ≠ []) (each : ∀ part ∈ parts, isPart part = true) :
    (List.intercalate ['_'] parts).splitOn '_' = parts := by
  refine List.splitOn_intercalate '_' (fun part isPart member => ?_) nonempty
  exact (isSmall_spec (isSmall_of_mem_part (each part isPart) _ member)).2.2.2.1 rfl

/-- Camel case runs the parts together. -/
theorem camelCaseChars_parts (nonempty : parts ≠ [])
    (each : ∀ part ∈ parts, isPart part = true) :
    camelCaseChars (List.intercalate ['_'] parts) = parts.flatMap capitalPart := by
  have noSlash : '/' ∉ List.intercalate ['_'] parts := by
    intro member
    rcases mem_intercalate_parts each member with small | underscore
    · exact (isSmall_spec small).2.2.2.2.1 rfl
    · cases underscore
  rw [camelCaseChars, camelSegments, List.splitOn_eq_singleton noSlash, List.map_singleton,
    List.intercalate_singleton, camelCaseSegment, splitOn_parts nonempty each]
  exact List.flatMap_congr fun part isPart => capitalize_part (each part isPart)

/-! ## Snake case -/

/-- Small letters and digits open no word, and what follows them is read after one of them. -/
theorem separateFrom_run {c : Char} {rest : List Char}
    (small : ∀ d ∈ c :: rest, isSmall d = true) (before : Option Char) (more : List Char) :
    ∃ last, isSmall last = true ∧
      separateFrom before (c :: rest ++ more) = c :: rest ++ separateFrom (some last) more := by
  obtain ⟨isC, others⟩ := List.forall_mem_cons.1 small
  have step : separateFrom before (c :: rest ++ more) =
      c :: separateFrom (some c) (rest ++ more) := by
    have closed : opensWord before c (rest ++ more).head? = false := by
      cases before with
      | none => rfl
      | some b => rw [opensWord, (isSmall_spec isC).2.1, Bool.false_and]
    rw [List.cons_append, separateFrom, closed]
    rfl
  rw [step]
  cases rest with
  | nil => exact ⟨c, isC, rfl⟩
  | cons d rest =>
    obtain ⟨last, isLast, passed⟩ := separateFrom_run others (some c) more
    exact ⟨last, isLast, by rw [passed]; rfl⟩

/-- A capital that follows a small letter or a digit opens a word. -/
theorem separateFrom_capital {before first : Char} (isBefore : isSmall before = true)
    (lower : first.isLower = true) (more : List Char) :
    separateFrom (some before) (first.toUpper :: more) =
      '_' :: first.toUpper :: separateFrom (some first.toUpper) more := by
  have opens : opensWord (some before) first.toUpper more.head? = true := by
    rw [opensWord, (Text.capital_of_isLower lower).2.1, (isSmall_spec isBefore).2.2.2.2.2.2]
    rfl
  rw [separateFrom, opens]
  rfl

/-- By induction on the parts: after a small letter or a digit, each part is opened by an
underscore. -/
theorem separateFrom_parts {before : Char} (isBefore : isSmall before = true)
    (each : ∀ part ∈ parts, isPart part = true) :
    separateFrom (some before) (parts.flatMap capitalPart) =
      parts.flatMap fun part => '_' :: capitalPart part := by
  induction parts generalizing before with
  | nil => rfl
  | cons part rest ih =>
    obtain ⟨first, second, tail, rfl, lower, small⟩ :=
      exists_of_isPart (each part List.mem_cons_self)
    obtain ⟨last, isLast, passed⟩ :=
      separateFrom_run small (some first.toUpper) (rest.flatMap capitalPart)
    rw [List.flatMap_cons, List.flatMap_cons, capitalPart, List.cons_append,
      separateFrom_capital isBefore lower, passed,
      ih isLast fun part isPart => each part (List.mem_cons_of_mem _ isPart)]
    rfl

/-- The first part is opened by nothing. -/
theorem separateFrom_none_parts {part : List Char} (isFirst : isPart part = true)
    (each : ∀ part ∈ parts, isPart part = true) :
    separateFrom none (capitalPart part ++ parts.flatMap capitalPart) =
      capitalPart part ++ parts.flatMap fun part => '_' :: capitalPart part := by
  obtain ⟨first, second, tail, rfl, -, small⟩ := exists_of_isPart isFirst
  obtain ⟨last, isLast, passed⟩ :=
    separateFrom_run small (some first.toUpper) (parts.flatMap capitalPart)
  have start : ∀ more, separateFrom none (first.toUpper :: more) =
      first.toUpper :: separateFrom (some first.toUpper) more := fun _ => rfl
  rw [capitalPart, List.cons_append, start, passed, separateFrom_parts isLast each]
  rfl

/-- A capitalized part is ASCII without dashes, and small again it is the part. -/
theorem capitalPart_spec {part : List Char} (h : isPart part = true) :
    (∀ c ∈ capitalPart part, Text.isAscii c = true ∧ c ≠ '-') ∧
      (capitalPart part).map Char.toLower = part := by
  obtain ⟨first, second, tail, rfl, lower, small⟩ := exists_of_isPart h
  obtain ⟨ascii, upper, again⟩ := Text.capital_of_isLower lower
  have kept : (second :: tail).map Char.toLower = second :: tail :=
    (List.map_congr_left fun c member => (isSmall_spec (small c member)).2.2.1).trans
      (List.map_id _)
  constructor
  · intro c member
    rcases List.mem_cons.1 member with rfl | member
    · refine ⟨ascii, fun dash => ?_⟩
      rw [dash] at upper
      cases upper
    · exact ⟨(isSmall_spec (small c member)).1, (isSmall_spec (small c member)).2.2.2.2.2.1⟩
  · rw [capitalPart, List.map_cons, again, kept]

theorem intercalate_cons_eq_flatMap (part : List Char) (rest : List (List Char)) :
    List.intercalate ['_'] (part :: rest) = part ++ rest.flatMap fun other => '_' :: other := by
  induction rest generalizing part with
  | nil => simp
  | cons next more ih =>
    rw [List.intercalate_cons_cons, ih, List.flatMap_cons, List.append_assoc]
    rfl

/-- Each part but the first is opened, and nothing else is. -/
theorem separateFrom_camelCaseChars (nonempty : parts ≠ [])
    (each : ∀ part ∈ parts, isPart part = true) :
    separateFrom none (camelCaseChars (List.intercalate ['_'] parts)) =
      List.intercalate ['_'] (parts.map capitalPart) := by
  obtain ⟨part, rest, rfl⟩ := List.exists_cons_of_ne_nil nonempty
  obtain ⟨isFirst, areParts⟩ := List.forall_mem_cons.1 each
  rw [camelCaseChars_parts nonempty each, List.flatMap_cons,
    separateFrom_none_parts isFirst areParts, List.map_cons, intercalate_cons_eq_flatMap,
    List.flatMap_map]

/-- **Snake case undoes camel case on names made of parts.** -/
theorem snakeCaseChars_camelCaseChars (nonempty : parts ≠ [])
    (each : ∀ part ∈ parts, isPart part = true) :
    snakeCaseChars (camelCaseChars (List.intercalate ['_'] parts)) =
      List.intercalate ['_'] parts := by
  rw [snakeCaseChars, separateFrom_camelCaseChars nonempty each]
  obtain ⟨part, rest, rfl⟩ := List.exists_cons_of_ne_nil nonempty
  obtain ⟨isFirst, areParts⟩ := List.forall_mem_cons.1 each
  rw [List.map_cons, intercalate_cons_eq_flatMap, List.flatMap_map]
  have spelled : ∀ c ∈ capitalPart part ++ rest.flatMap fun part => '_' :: capitalPart part,
      Text.isAscii c = true ∧ c ≠ '-' := by
    intro c member
    rcases List.mem_append.1 member with member | member
    · exact (capitalPart_spec isFirst).1 c member
    · obtain ⟨other, isOther, member⟩ := List.mem_flatMap.1 member
      rcases List.mem_cons.1 member with rfl | member
      · decide
      · exact (capitalPart_spec (areParts other isOther)).1 c member
  have noDash : (capitalPart part ++ rest.flatMap fun part => '_' :: capitalPart part).map
      (fun c => if c = '-' then '_' else c) =
        capitalPart part ++ rest.flatMap fun part => '_' :: capitalPart part :=
    (List.map_congr_left fun c member => if_neg (spelled c member).2).trans (List.map_id _)
  rw [noDash, Text.lower_of_ascii fun c member => (spelled c member).1, List.map_append,
    (capitalPart_spec isFirst).2, List.map_flatMap, intercalate_cons_eq_flatMap]
  congr 1
  refine List.flatMap_congr fun other isOther => ?_
  rw [List.map_cons, (capitalPart_spec (areParts other isOther)).2]
  rfl

/-- Names made of parts that are the same in camel case have the same parts. -/
theorem parts_of_camelCaseChars {others : List (List Char)} (nonempty : parts ≠ [])
    (each : ∀ part ∈ parts, isPart part = true) (nonemptyOthers : others ≠ [])
    (eachOther : ∀ part ∈ others, isPart part = true)
    (same : camelCaseChars (List.intercalate ['_'] parts) =
      camelCaseChars (List.intercalate ['_'] others)) : parts = others := by
  have names := congrArg snakeCaseChars same
  rw [snakeCaseChars_camelCaseChars nonempty each,
    snakeCaseChars_camelCaseChars nonemptyOthers eachOther] at names
  rw [← splitOn_parts nonempty each, names, splitOn_parts nonemptyOthers eachOther]

end HeaderBind.Identifier
