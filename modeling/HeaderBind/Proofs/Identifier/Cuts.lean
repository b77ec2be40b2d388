/-
# HeaderBind.Proofs.Identifier.Cuts — what a path loses, as matches of two patterns

In front, a path loses what `^(?:/(?:usr|local|lib|include|Library|opt))*/` matches: install
directories, each after a slash, and one slash more.  At its end it loses what `\.\w+$`
matches: a dot with word characters behind it, up to the end or to one last line end.

`relativeToInstall` goes from segment to segment instead, and `dropExtension` from the end
backwards.  They cut off what a search for the patterns finds, and no more
(`relativeToInstall_eq_iff`, `dropExtension_eq_iff`).
-/
import HeaderBind.Proofs.Identifier.Segments

namespace HeaderBind.Identifier

set_option autoImplicit false

open Text

/-! ## In front -/

/-- One of the words `usr`, `local`, `lib`, `include`, `Library` and `opt`. -/
def IsInstallDirectory (name : List Char) : Prop :=
  name = "usr".toList ∨ name = "local".toList ∨ name = "lib".toList ∨
    name = "include".toList ∨ name = "Library".toList ∨ name = "opt".toList

/-- What the pattern matches: any number of install directories, each after a slash, and a
slash. -/
inductive InstallPrefix : List Char → Prop
  | slash : InstallPrefix ['/']
  | directory {name later : List Char} (installed : IsInstallDirectory name)
      (isMatch : InstallPrefix later) : InstallPrefix ('/' :: (name ++ later))

/-- The longest match that begins the text, and what is left behind it. -/
structure LongestMatch (pattern : List Char → Prop) (text found rest : List Char) : Prop where
  isMatch : pattern found
  split : text = found ++ rest
  longest : ∀ other more, pattern other → text = other ++ more → other.length ≤ found.length

/-- The longest match that begins the text is cut off, if there is one.  As no install
directory begins another, it is the one that repeats directories as often as possible. -/
inductive CutInFront (pattern : List Char → Prop) (text : List Char) : List Char → Prop
  | found {found rest : List Char} (here : LongestMatch pattern text found rest) :
      CutInFront pattern text rest
  | nothing (none : ∀ found rest, pattern found → text ≠ found ++ rest) :
      CutInFront pattern text text

theorem CutInFront.unique {pattern : List Char → Prop} {text rest other : List Char}
    (one : CutInFront pattern text rest) (two : CutInFront pattern text other) : rest = other := by
  cases one with
  | nothing none =>
    cases two with
    | nothing => rfl
    | found there => exact absurd there.split (none _ _ there.isMatch)
  | found here =>
    cases two with
    | nothing none => exact absurd here.split (none _ _ here.isMatch)
    | found there =>
      have lengths := Nat.le_antisymm (there.longest _ _ here.isMatch here.split)
        (here.longest _ _ there.isMatch there.split)
      exact (List.append_inj (here.split.symm.trans there.split) lengths).2

theorem mem_installDirectories_iff {name : List Char} :
    name ∈ installDirectories ↔ IsInstallDirectory name := by
  simp only [installDirectories, IsInstallDirectory, List.mem_cons, List.not_mem_nil, or_false]

theorem IsInstallDirectory.noSlash {name : List Char} (installed : IsInstallDirectory name) :
    '/' ∉ name := by
  have each : ∀ directory ∈ installDirectories, '/' ∉ directory := by decide
  exact each name (mem_installDirectories_iff.2 installed)

namespace InstallPrefix

variable {found more segment rest : List Char}

theorem starts (isMatch : InstallPrefix found) : ∃ later, found = '/' :: later := by
  cases isMatch with
  | slash => exact ⟨[], rfl⟩
  | directory => exact ⟨_, rfl⟩

/-- In front of a segment that another one follows, a match ends behind the slash, or it takes
the segment and goes on. -/
theorem of_segment (isMatch : InstallPrefix found) (inside : '/' ∉ segment)
    (same : found ++ more = '/' :: (segment ++ '/' :: rest)) :
    found = ['/'] ∨ IsInstallDirectory segment ∧ ∃ later, InstallPrefix later ∧
      found = '/' :: (segment ++ later) ∧ later ++ more = '/' :: rest := by
  cases isMatch with
  | slash => exact .inl rfl
  | @directory name later installed isLater =>
    obtain ⟨tail, rfl⟩ := isLater.starts
    have runs : name ++ '/' :: (tail ++ more) = segment ++ '/' :: rest := by
      simpa using same
    obtain ⟨rfl, tails⟩ := run_unique (p := (· ≠ '/'))
      (fun c member slash => installed.noSlash (slash ▸ member))
      (fun c member slash => inside (slash ▸ member)) (by simp) (by simp) runs
    exact .inr ⟨installed, _, isLater, rfl, tails⟩

/-- In front of the last segment a match ends behind the slash. -/
theorem of_last (isMatch : InstallPrefix found) (inside : '/' ∉ segment)
    (same : found ++ more = '/' :: segment) : found = ['/'] := by
  cases isMatch with
  | slash => rfl
  | @directory name later installed isLater =>
    obtain ⟨tail, rfl⟩ := isLater.starts
    have member : '/' ∈ segment := by
      rw [← (List.cons.inj same).2]
      simp
    exact absurd member inside

end InstallPrefix

/-- Going from segment to segment finds the longest match.  By recursion on the segments, as
`dropInstall` goes. -/
theorem longestMatch_dropInstall {segments : List (List Char)} (nonempty : segments ≠ [])
    (each : ∀ segment ∈ segments, '/' ∉ segment) :
    ∃ found, LongestMatch InstallPrefix ('/' :: List.intercalate ['/'] segments) found
      (List.intercalate ['/'] (dropInstall segments)) := by
  fun_induction dropInstall segments with
  | case1 segment next more installed ih =>
    obtain ⟨inside, others⟩ := List.forall_mem_cons.1 each
    obtain ⟨later, isMatch, split, longest⟩ := ih (List.cons_ne_nil next more) others
    have isDirectory := mem_installDirectories_iff.1 (List.contains_iff_mem.1 installed)
    rw [List.intercalate_cons_cons, List.append_assoc, List.singleton_append]
    refine ⟨'/' :: (segment ++ later), .directory isDirectory isMatch, ?_, ?_⟩
    · rw [split, List.cons_append, List.append_assoc]
    · intro other tail isOther same
      rcases isOther.of_segment inside same.symm with rfl | ⟨-, behind, isBehind, rfl, tails⟩
      · simp
      · have shorter := longest behind tail isBehind tails.symm
        simp only [List.length_cons, List.length_append]
        omega
  | case2 segment next more kept =>
    have inside := each segment List.mem_cons_self
    rw [List.intercalate_cons_cons, List.append_assoc, List.singleton_append]
    refine ⟨['/'], .slash, rfl, fun other tail isOther same => ?_⟩
    rcases isOther.of_segment inside same.symm with rfl | ⟨installed, -⟩
    · exact Nat.le_refl _
    · exact absurd (List.contains_iff_mem.2 (mem_installDirectories_iff.2 installed)) kept
  | case3 segments short =>
    obtain ⟨last, rfl⟩ : ∃ last, segments = [last] := by
      cases segments with
      | nil => exact absurd rfl nonempty
      | cons last later =>
        cases later with
        | nil => exact ⟨last, rfl⟩
        | cons next more => exact absurd rfl (short last next more)
    rw [List.intercalate_singleton]
    refine ⟨['/'], .slash, rfl, fun other tail isOther same => ?_⟩
    exact Nat.le_of_eq (by rw [isOther.of_last (each last List.mem_cons_self) same.symm])

theorem cutInFront_relativeToInstall (path : List Char) :
    CutInFront InstallPrefix path (relativeToInstall path) := by
  unfold relativeToInstall
  split
  · rename_i rest
    obtain ⟨found, here⟩ := longestMatch_dropInstall (List.splitOn_ne_nil '/' rest)
      fun segment => notMem_of_mem_splitOn
    rw [List.intercalate_splitOn] at here
    exact .found here
  · rename_i relative
    refine .nothing fun found rest isMatch split => ?_
    obtain ⟨later, rfl⟩ := isMatch.starts
    exact relative _ split

/-- **A path relative to where headers are installed is what the pattern leaves of it.** -/
theorem relativeToInstall_eq_iff {path out : List Char} :
    relativeToInstall path = out ↔ CutInFront InstallPrefix path out :=
  ⟨fun same => same ▸ cutInFront_relativeToInstall path,
    (cutInFront_relativeToInstall path).unique⟩

-- What comes last is no directory, whatever its name.
example : relativeToInstall "/usr/local/lib".toList = "lib".toList := by decide

/-! ## At the end -/

/-- What the pattern matches, and in front of what: a dot and word characters, one at least, up
to the end of the text or to its last character, if that is a line end. -/
def ExtensionMatch (found rest : List Char) : Prop :=
  (∃ word, word ≠ [] ∧ (∀ c ∈ word, isWordChar c = true) ∧ found = '.' :: word) ∧
    (rest = [] ∨ rest = ['\n'])

/-- From left to right, matches are taken out of the text.  A character where none begins is
kept. -/
inductive TakenOut (pattern : List Char → List Char → Prop) : List Char → List Char → Prop
  | done : TakenOut pattern [] []
  | found {found rest out : List Char} (isMatch : pattern found rest)
      (later : TakenOut pattern rest out) : TakenOut pattern (found ++ rest) out
  | passed {c : Char} {rest out : List Char}
      (nothing : ∀ found more, pattern found more → c :: rest ≠ found ++ more)
      (later : TakenOut pattern rest out) : TakenOut pattern (c :: rest) (c :: out)

namespace ExtensionMatch

variable {found rest found' rest' : List Char}

theorem ne_nil (isMatch : ExtensionMatch found rest) : found ≠ [] := by
  obtain ⟨⟨word, -, -, rfl⟩, -⟩ := isMatch
  exact List.cons_ne_nil _ _

/-- A line end is no word character, so that matches at one place are the same. -/
theorem unique (one : ExtensionMatch found rest) (two : ExtensionMatch found' rest')
    (same : found ++ rest = found' ++ rest') : found = found' ∧ rest = rest' := by
  obtain ⟨⟨word, -, words, rfl⟩, ends⟩ := one
  obtain ⟨⟨word', -, words', rfl⟩, ends'⟩ := two
  have stops : ∀ {rest : List Char}, rest = [] ∨ rest = ['\n'] →
      ∀ c ∈ rest.head?, ¬ isWordChar c = true := by
    rintro _ (rfl | rfl)
    · simp
    · simp; decide
  obtain ⟨rfl, rfl⟩ := run_unique words words' (stops ends) (stops ends') (List.cons.inj same).2
  exact ⟨rfl, rfl⟩

end ExtensionMatch

theorem TakenOut.unique {cs out other : List Char} (one : TakenOut ExtensionMatch cs out)
    (two : TakenOut ExtensionMatch cs other) : out = other := by
  induction one generalizing other with
  | done =>
    generalize empty : ([] : List Char) = cs at two
    cases two with
    | done => rfl
    | found isMatch => exact absurd (List.append_eq_nil_iff.1 empty.symm).1 isMatch.ne_nil
    | passed => cases empty
  | @found found rest out isMatch later ih =>
    generalize same : found ++ rest = cs at two
    cases two with
    | done => exact absurd (List.append_eq_nil_iff.1 same).1 isMatch.ne_nil
    | found isOther laterOther =>
      obtain ⟨-, rfl⟩ := isMatch.unique isOther same
      exact ih laterOther
    | passed nothing => exact absurd same.symm (nothing _ _ isMatch)
  | @passed c rest out nothing later ih =>
    generalize same : c :: rest = cs at two
    cases two with
    | done => cases same
    | found isMatch => exact absurd same (nothing _ _ isMatch)
    | passed _ laterOther =>
      obtain ⟨rfl, rfl⟩ := List.cons.inj same
      rw [ih laterOther]

/-- Word characters in front of the same end are the same. -/
theorem word_eq_of_ends {body tail word more : List Char}
    (ends : tail = [] ∨ tail = ['\n']) (whole : tail = [] → body.getLast? ≠ some '\n')
    (words : ∀ c ∈ word, isWordChar c = true) (ends' : more = [] ∨ more = ['\n'])
    (same : body ++ tail = word ++ more) : word = body := by
  rcases ends with rfl | rfl <;> rcases ends' with rfl | rfl
  · simpa using same.symm
  · rw [List.append_nil] at same
    exact absurd (by rw [same, List.getLast?_concat]) (whole rfl)
  · have lineEnd : '\n' ∈ word := by
      rw [List.append_nil] at same
      rw [← same]
      simp
    exact absurd (words '\n' lineEnd) (by decide)
  · exact (List.append_inj' same rfl).1.symm

/-- The last line end apart, which both keep.  By induction on the text in front of it. -/
theorem takenOut_withoutExtension {path tail : List Char} (ends : tail = [] ∨ tail = ['\n'])
    (whole : tail = [] → path.getLast? ≠ some '\n') :
    TakenOut ExtensionMatch (path ++ tail) (withoutExtension path ++ tail) := by
  have kept : TakenOut ExtensionMatch tail tail := by
    rcases ends with rfl | rfl
    · exact .done
    · refine .passed (fun found more isMatch split => ?_) .done
      obtain ⟨⟨word, -, -, rfl⟩, -⟩ := isMatch
      cases split
  induction path with
  | nil => exact kept
  | cons c rest ih =>
    have shorter : tail = [] → rest.getLast? ≠ some '\n' := fun empty last =>
      whole empty (by rw [List.getLast?_cons, last]; rfl)
    rw [withoutExtension]
    split
    · rename_i isExt
      obtain ⟨rfl, isExt⟩ : c = '.' ∧ isExtension rest = true := by simpa using isExt
      obtain ⟨nonempty, words⟩ := isExtension_iff.1 isExt
      exact .found ⟨⟨rest, nonempty, words, rfl⟩, ends⟩ kept
    · rename_i noExt
      refine .passed (fun found more isMatch split => noExt ?_) (ih shorter)
      obtain ⟨⟨word, nonempty, words, rfl⟩, ends'⟩ := isMatch
      obtain ⟨rfl, same⟩ := List.cons.inj split
      obtain rfl := word_eq_of_ends ends shorter words ends' same
      simp [isExtension_iff.2 ⟨nonempty, words⟩]

theorem takenOut_dropExtension (path : List Char) :
    TakenOut ExtensionMatch path (dropExtension path) := by
  unfold dropExtension
  split
  · rename_i last
    obtain ⟨body, rfl⟩ := List.getLast?_eq_some_iff.1 last
    rw [List.dropLast_concat, dropExtensionOf_eq]
    exact takenOut_withoutExtension (.inr rfl) fun empty => by cases empty
  · rename_i last
    have whole := takenOut_withoutExtension (.inl rfl) fun _ => last
    rwa [List.append_nil, List.append_nil, ← dropExtensionOf_eq] at whole

/-- **A path without its extension is what the pattern leaves of it.** -/
theorem dropExtension_eq_iff {path out : List Char} :
    dropExtension path = out ↔ TakenOut ExtensionMatch path out :=
  ⟨fun same => same ▸ takenOut_dropExtension path, (takenOut_dropExtension path).unique⟩

end HeaderBind.Identifier
