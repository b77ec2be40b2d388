/-
# HeaderBind.Proofs.Identifier.Segments — the modules of a header, segment by segment

The modules of a header are found on its whole path: install directories and the extension are
cut off, and what is left goes through snake case, cleaning and camel case in one piece.  None
of these steps looks over a slash (`SegmentWise`), and the underscore that guards a leading
digit is dropped again by camel case.  So the modules are those that the segments of the path
give each by itself (`headerModules_segmentwise`), and one more install directory in front of
an absolute path changes nothing.

Only the extension looks at the end of the path, where a line end may follow it.
-/
import HeaderBind.Identifier.HeaderModules
import HeaderBind.Proofs.Text.Line

namespace HeaderBind.Identifier

set_option autoImplicit false

open Text

/-! ## Segment by segment -/

/-- Both kinds of path separators. -/
def isSeparator (c : Char) : Bool := c == '/' || c == '\\'

/-- The segments of a path between its separators. -/
def pathSegments (path : List Char) : List (List Char) := path.splitOnP isSeparator

/-- The run of install directories in front goes, but for one that is the last segment. -/
def withoutInstall (segments : List (List Char)) : List (List Char) :=
  segments.dropLast.dropWhile installDirectories.contains ++ segments.getLast?.toList

/-- The segments that count.  Only an absolute path loses the empty segment in front of its
first separator, and install directories after it. -/
def keptSegments (path : List Char) : List (List Char) :=
  if path.head?.any isSeparator then withoutInstall (pathSegments path).tail
  else pathSegments path

/-- Word characters up to the end, one at least. -/
def isExtension (cs : List Char) : Bool := !cs.isEmpty && cs.all isWordChar

/-- A segment up to the dot that an extension follows. -/
def withoutExtension : List Char → List Char
  | [] => []
  | c :: rest => if c = '.' && isExtension rest then [] else c :: withoutExtension rest

/-- Only the last element of a list is changed. -/
def onLast {α : Type} (f : α → α) : List α → List α
  | [] => []
  | [last] => [f last]
  | first :: second :: rest => first :: onLast f (second :: rest)

/-- The module that one segment gives by itself. -/
def segmentModule (segment : List Char) : List Char :=
  camelCaseChars ((snakeCaseChars segment).map fun c => if c.isAlphanum then c else '_')

/-- The modules of a path, each found on its own segment. -/
def segmentModules (path : List Char) : List (List Char) :=
  ((onLast withoutExtension (keptSegments path)).map segmentModule).filter
    fun name => !name.isEmpty

/-! ## Rewritings that do not look over a slash -/

/-- The rewriting gives each segment what it gives it alone, and makes no slashes. -/
structure SegmentWise (f : List Char → List Char) : Prop where
  across : ∀ segment rest, '/' ∉ segment → f (segment ++ '/' :: rest) = f segment ++ '/' :: f rest
  within : ∀ segment, '/' ∉ segment → '/' ∉ f segment

namespace SegmentWise

variable {f g : List Char → List Char}

theorem comp (hf : SegmentWise f) (hg : SegmentWise g) : SegmentWise (f ∘ g) where
  across segment rest inside := by
    rw [Function.comp, hg.across segment rest inside, hf.across _ _ (hg.within segment inside)]
    rfl
  within segment inside := hf.within _ (hg.within segment inside)

theorem map {f : Char → Char} (slash : f '/' = '/') (only : ∀ c, f c = '/' → c = '/') :
    SegmentWise (List.map f) where
  across segment rest _ := by simp [slash]
  within segment inside := by
    simp only [List.mem_map, not_exists, not_and]
    intro c member made
    exact inside (only c made ▸ member)

/-- By induction on the segments, as the first one is followed by a slash. -/
theorem intercalate (h : SegmentWise f) {segments : List (List Char)} (nonempty : segments ≠ [])
    (each : ∀ segment ∈ segments, '/' ∉ segment) :
    f (List.intercalate ['/'] segments) = List.intercalate ['/'] (segments.map f) := by
  induction segments with
  | nil => exact absurd rfl nonempty
  | cons segment rest ih =>
    cases rest with
    | nil => simp
    | cons next more =>
      have later := ih (List.cons_ne_nil next more) fun s member =>
        each s (List.mem_cons_of_mem segment member)
      simp only [List.map_cons] at later ⊢
      rw [List.intercalate_cons_cons, List.intercalate_cons_cons, List.append_assoc,
        List.append_assoc, List.singleton_append, List.singleton_append,
        h.across segment _ (each segment List.mem_cons_self), later]

theorem splitOn (h : SegmentWise f) (path : List Char) :
    (f path).splitOn '/' = (path.splitOn '/').map f := by
  have each : ∀ segment ∈ path.splitOn '/', '/' ∉ segment := fun _ => notMem_of_mem_splitOn
  have whole : f path = List.intercalate ['/'] ((path.splitOn '/').map f) := by
    rw [← h.intercalate (List.splitOn_ne_nil _ _) each, List.intercalate_splitOn]
  rw [whole, List.splitOn_intercalate]
  · simp only [List.forall_mem_map]
    exact fun segment member => h.within segment (each segment member)
  · simp [List.splitOn_ne_nil]

end SegmentWise

/-! ## Snake case and cleaning -/

/-- A slash opens no word, and none is opened because of it. -/
theorem separateFrom_slash (cs : List Char) :
    separateFrom (some '/') cs = separateFrom none cs := by
  cases cs with
  | nil => rfl
  | cons c rest =>
    have closed : opensWord (some '/') c rest.head? = false := by
      have decimal : isDecimal '/' = false := by decide
      simp [opensWord, decimal]
    rw [separateFrom, separateFrom, closed]
    rfl

theorem separateFrom_across (before : Option Char) {segment : List Char} (rest : List Char) :
    separateFrom before (segment ++ '/' :: rest) =
      separateFrom before segment ++ '/' :: separateFrom none rest := by
  induction segment generalizing before with
  | nil =>
    have closed : opensWord before '/' rest.head? = false := by cases before <;> rfl
    simp [separateFrom, closed, separateFrom_slash]
  | cons c segment ih =>
    have next : opensWord before c (segment ++ '/' :: rest).head? =
        opensWord before c segment.head? := by
      cases before with
      | none => rfl
      | some b => cases segment <;> simp [opensWord]
    rw [List.cons_append, separateFrom, separateFrom, next, ih, List.append_assoc]

theorem separateFrom_segmentWise : SegmentWise (separateFrom none) where
  across segment rest _ := separateFrom_across none rest
  within segment inside member :=
    (mem_separateFrom member).elim (fun underscore => by cases underscore) inside

/-- What snake case does to a character of ASCII once words are opened. -/
def smallLetter (c : Char) : Char := (if c = '-' then '_' else c).toLower

theorem toLower_eq_slash {c : Char} (h : c.toLower = '/') : c = '/' := by
  by_cases ascii : isAscii c = true
  · revert h
    exact forall_ascii (P := fun c => c.toLower = '/' → c = '/') (by decide) ascii
  · unfold Char.toLower at h
    split at h
    · rename_i capital
      exact absurd (decide_eq_true (lt_of_le_code capital.2 (by decide))) ascii
    · exact h

theorem smallLetter_segmentWise : SegmentWise (List.map smallLetter) := by
  refine .map (by decide) fun c made => ?_
  have slash := toLower_eq_slash made
  split at slash
  · cases slash
  · exact slash

theorem snakeCaseChars_of_ascii {cs : List Char} (ascii : ∀ c ∈ cs, isAscii c = true) :
    snakeCaseChars cs = (separateFrom none cs).map smallLetter := by
  have spelled : ∀ c ∈ (separateFrom none cs).map fun c => if c = '-' then '_' else c,
      isAscii c = true := by
    simp only [List.forall_mem_map]
    intro c member
    split
    · decide
    · rcases mem_separateFrom member with rfl | member
      · decide
      · exact ascii c member
  rw [snakeCaseChars, lower_of_ascii spelled, List.map_map]
  rfl

/-- Small letters of ASCII are ASCII, the opened words too. -/
theorem isAscii_of_mem_snakeCase {cs : List Char} (ascii : ∀ c ∈ cs, isAscii c = true) {c : Char}
    (member : c ∈ snakeCaseChars cs) : isAscii c = true := by
  rw [snakeCaseChars_of_ascii ascii] at member
  obtain ⟨d, separated, rfl⟩ := List.mem_map.1 member
  have small : isAscii d = true → isAscii (smallLetter d) = true := fun isAsciiD =>
    forall_ascii (P := fun d => isAscii (smallLetter d) = true) (by decide) isAsciiD
  rcases mem_separateFrom separated with rfl | member
  · decide
  · exact small (ascii d member)

theorem cleanChars_segmentWise : SegmentWise cleanChars := by
  refine .map (by decide) fun c made => ?_
  split at made
  · exact made
  · cases made

/-! ## Camel case -/

/-- An underscore in front opens an empty word. -/
theorem camelCaseSegment_underscore (cs : List Char) :
    camelCaseSegment ('_' :: cs) = camelCaseSegment cs := by
  rw [camelCaseSegment, List.splitOn_cons_eq_if_modifyHead, if_pos (by decide)]
  rfl

/-- The guard of a leading digit does not show in camel case. -/
theorem camelSegments_guardDigit (cs : List Char) :
    camelSegments (guardDigit cs) = camelSegments cs := by
  cases cs with
  | nil => rfl
  | cons c rest =>
    rw [guardDigit]
    split
    · obtain ⟨first, more, pieces⟩ :=
        List.exists_cons_of_ne_nil (List.splitOn_ne_nil '/' (c :: rest))
      rw [camelSegments, camelSegments, List.splitOn_cons_eq_if_modifyHead, if_neg (by decide),
        pieces]
      simp [camelCaseSegment_underscore]
    · rfl

theorem camelCaseChars_of_segment {segment : List Char} (inside : '/' ∉ segment) :
    camelCaseChars segment = camelCaseSegment segment := by
  rw [camelCaseChars, camelSegments, List.splitOn_eq_singleton inside, List.map_singleton,
    List.intercalate_singleton]

theorem segmentModule_eq {segment : List Char} (ascii : ∀ c ∈ segment, isAscii c = true)
    (inside : '/' ∉ segment) :
    segmentModule segment = camelCaseSegment (cleanChars (snakeCaseChars segment)) := by
  have noSlash : '/' ∉ snakeCaseChars segment := by
    rw [snakeCaseChars_of_ascii ascii]
    exact (smallLetter_segmentWise.comp separateFrom_segmentWise).within segment inside
  have cleaned : (snakeCaseChars segment).map (fun c => if c.isAlphanum then c else '_') =
      cleanChars (snakeCaseChars segment) := by
    refine List.map_congr_left fun c member => ?_
    have slash : c ≠ '/' := fun isSlash => noSlash (isSlash ▸ member)
    have alphanumeric : isAlphanumeric c = c.isAlphanum :=
      inClass_of_ascii (isAscii_of_mem_snakeCase ascii member)
    by_cases letter : c.isAlphanum = true <;> by_cases underscore : c = '_' <;>
      simp_all
  rw [segmentModule, cleaned]
  exact camelCaseChars_of_segment (cleanChars_segmentWise.within _ noSlash)

/-- **What is left of a path gives its modules segment by segment.** -/
theorem camelSegments_eq {stem : List Char} (ascii : ∀ c ∈ stem, isAscii c = true) :
    camelSegments (toIdentifierChars (snakeCaseChars stem)) =
      (stem.splitOn '/').map segmentModule := by
  have each : SegmentWise (cleanChars ∘ List.map smallLetter ∘ separateFrom none) :=
    cleanChars_segmentWise.comp (smallLetter_segmentWise.comp separateFrom_segmentWise)
  have split : (cleanChars (snakeCaseChars stem)).splitOn '/' =
      (stem.splitOn '/').map (cleanChars ∘ List.map smallLetter ∘ separateFrom none) := by
    rw [snakeCaseChars_of_ascii ascii]
    exact each.splitOn stem
  rw [toIdentifierChars, camelSegments_guardDigit, camelSegments, split, List.map_map]
  refine List.map_congr_left fun segment member => ?_
  have asciiSegment : ∀ c ∈ segment, isAscii c = true := fun c inSegment =>
    ascii c (mem_of_mem_splitOn member inSegment)
  rw [segmentModule_eq asciiSegment (notMem_of_mem_splitOn member),
    snakeCaseChars_of_ascii asciiSegment]
  rfl

/-! ## Install directories -/

theorem withSlashes_cons (c : Char) (rest : List Char) :
    withSlashes (c :: rest) = (if c = '\\' then '/' else c) :: withSlashes rest := rfl

theorem withSlashes_separator {c : Char} (separator : isSeparator c = true) (rest : List Char) :
    withSlashes (c :: rest) = '/' :: withSlashes rest := by
  simp only [isSeparator, Bool.or_eq_true, beq_iff_eq] at separator
  rw [withSlashes_cons]
  rcases separator with rfl | rfl <;> rfl

theorem splitOn_withSlashes (path : List Char) :
    (withSlashes path).splitOn '/' = pathSegments path := by
  induction path with
  | nil => rfl
  | cons c rest ih =>
    rw [withSlashes_cons, pathSegments, List.splitOn_cons_eq_if_modifyHead,
      List.splitOnP_cons_eq_if_modifyHead, ih, pathSegments]
    by_cases backslash : c = '\\' <;> by_cases slash : c = '/' <;>
      simp [isSeparator, backslash, slash]

theorem dropInstall_eq (segments : List (List Char)) :
    dropInstall segments = withoutInstall segments := by
  have whole : ∀ list : List (List Char), list.dropLast ++ list.getLast?.toList = list := by
    intro list
    rcases List.eq_nil_or_concat list with rfl | ⟨init, last, rfl⟩ <;> simp
  fun_induction dropInstall segments with
  | case1 segment next more installed ih =>
    rw [ih, withoutInstall, withoutInstall, List.dropLast_cons_cons,
      List.dropWhile_cons_of_pos installed, List.getLast?_cons_cons]
  | case2 segment next more kept =>
    rw [withoutInstall, List.dropLast_cons_cons, List.dropWhile_cons_of_neg kept,
      ← List.dropLast_cons_cons, whole]
  | case3 segments short =>
    match segments, short with
    | [], _ => rfl
    | [last], _ => rfl
    | segment :: next :: more, short => exact absurd rfl (short segment next more)

/-- Segments of the path are left, and at least the last one. -/
theorem dropInstall_spec {segments : List (List Char)} (nonempty : segments ≠ []) :
    dropInstall segments ≠ [] ∧ ∀ segment ∈ dropInstall segments, segment ∈ segments := by
  fun_induction dropInstall segments with
  | case1 first next more _ ih =>
    obtain ⟨left, each⟩ := ih (List.cons_ne_nil next more)
    exact ⟨left, fun segment member => List.mem_cons_of_mem first (each segment member)⟩
  | case2 => exact ⟨nonempty, fun _ member => member⟩
  | case3 => exact ⟨nonempty, fun _ member => member⟩

theorem splitOn_relativeToInstall (path : List Char) :
    (relativeToInstall (withSlashes path)).splitOn '/' = keptSegments path := by
  cases path with
  | nil => rfl
  | cons c rest =>
    by_cases separator : isSeparator c = true
    · obtain ⟨left, each⟩ := dropInstall_spec (List.splitOn_ne_nil '/' (withSlashes rest))
      have apart : ∀ segment ∈ dropInstall ((withSlashes rest).splitOn '/'), '/' ∉ segment :=
        fun segment member => notMem_of_mem_splitOn (each segment member)
      rw [withSlashes_separator separator, relativeToInstall,
        List.splitOn_intercalate _ apart left, splitOn_withSlashes, dropInstall_eq]
      simp [keptSegments, separator, pathSegments, List.splitOnP_cons_eq_if_modifyHead]
    · have kept : relativeToInstall (withSlashes (c :: rest)) = withSlashes (c :: rest) := by
        simp only [isSeparator, Bool.or_eq_true, beq_iff_eq, not_or] at separator
        rw [withSlashes_cons, if_neg separator.2]
        unfold relativeToInstall
        split
        · rename_i rooted
          exact absurd (List.cons.inj rooted).1 separator.1
        · rfl
      rw [kept, splitOn_withSlashes]
      simp [keptSegments, separator]

/-- An install directory in front of an absolute path is dropped again. -/
theorem relativeToInstall_install {separator : Char} {directory path : List Char}
    (isSep : isSeparator separator = true) (installed : directory ∈ installDirectories)
    (absolute : path.head?.any isSeparator = true) :
    relativeToInstall (withSlashes (separator :: (directory ++ path))) =
      relativeToInstall (withSlashes path) := by
  obtain ⟨c, rest, rfl⟩ : ∃ c rest, path = c :: rest := by
    cases path with
    | nil => cases absolute
    | cons c rest => exact ⟨c, rest, rfl⟩
  have plain : ∀ d ∈ installDirectories, withSlashes d = d ∧ '/' ∉ d := by decide
  obtain ⟨same, outside⟩ := plain directory installed
  have noSlash : ∀ c ∈ directory, (c == '/') = false := fun c member =>
    beq_eq_false_iff_ne.2 fun slash => outside (slash ▸ member)
  have spelled : withSlashes (directory ++ c :: rest) = directory ++ '/' :: withSlashes rest := by
    rw [withSlashes, List.map_append]
    exact congrArg₂ _ same (withSlashes_separator absolute rest)
  have split : (directory ++ '/' :: withSlashes rest).splitOn '/' =
      directory :: (withSlashes rest).splitOn '/' :=
    List.splitOnP_append_cons_of_forall_mem noSlash '/' rfl _
  obtain ⟨next, more, pieces⟩ :=
    List.exists_cons_of_ne_nil (List.splitOn_ne_nil '/' (withSlashes rest))
  rw [withSlashes_separator isSep, withSlashes_separator absolute, relativeToInstall,
    relativeToInstall, spelled, split, pieces, dropInstall,
    if_pos (List.contains_iff_mem.2 installed)]

/-- What is cut off in front leaves an end of the path. -/
theorem relativeToInstall_suffix (path : List Char) : relativeToInstall path <:+ path := by
  have each : ∀ segments : List (List Char),
      List.intercalate ['/'] (dropInstall segments) <:+ List.intercalate ['/'] segments := by
    intro segments
    fun_induction dropInstall segments with
    | case1 segment next more _ ih =>
      rw [List.intercalate_cons_cons]
      exact ih.trans (List.suffix_append _ _)
    | case2 => exact List.suffix_rfl
    | case3 => exact List.suffix_rfl
  unfold relativeToInstall
  split
  · rename_i rest
    have shorter := each (rest.splitOn '/')
    rw [List.intercalate_splitOn] at shorter
    exact shorter.trans (List.suffix_cons '/' rest)
  · exact List.suffix_rfl

/-! ## Extensions -/

theorem isExtension_iff {cs : List Char} :
    isExtension cs = true ↔ cs ≠ [] ∧ ∀ c ∈ cs, isWordChar c = true := by
  simp [isExtension]

theorem withoutExtension_append {extension : List Char} (isExt : isExtension extension = true)
    (stem : List Char) : withoutExtension (stem ++ '.' :: extension) = stem := by
  induction stem with
  | nil => simp [withoutExtension, isExt]
  | cons c stem ih =>
    have dot : isExtension (stem ++ '.' :: extension) = false := by
      refine Bool.eq_false_iff.2 fun ext => ?_
      have word := (isExtension_iff.1 ext).2 '.' (by simp)
      exact absurd word (by decide)
    rw [List.cons_append, withoutExtension, dot, Bool.and_false, ih]
    rfl

theorem withoutExtension_eq_self {path : List Char}
    (none : ∀ stem extension, path = stem ++ '.' :: extension → isExtension extension = false) :
    withoutExtension path = path := by
  induction path with
  | nil => rfl
  | cons c rest ih =>
    have open' : (decide (c = '.') && isExtension rest) = false := by
      by_cases dot : c = '.'
      · simp [none [] rest (by rw [dot]; rfl)]
      · simp [dot]
    rw [withoutExtension, open', ih fun stem extension split =>
      none (c :: stem) extension (by rw [split]; rfl)]
    rfl

theorem dropExtensionOf_append {extension : List Char} (isExt : isExtension extension = true)
    (stem : List Char) : dropExtensionOf (stem ++ '.' :: extension) = stem := by
  obtain ⟨nonempty, word⟩ := isExtension_iff.1 isExt
  have words : ∀ c ∈ extension.reverse, isWordChar c = true := by simpa using word
  have dot : ¬ isWordChar '.' = true := by decide
  have reversed : (stem ++ '.' :: extension).reverse =
      extension.reverse ++ '.' :: stem.reverse := by simp
  rw [dropExtensionOf, reversed, List.dropWhile_append_of_pos words,
    List.dropWhile_cons_of_neg dot, List.takeWhile_append_of_pos words,
    List.takeWhile_cons_of_neg dot]
  simp [nonempty]

/-- **The scan from the end finds the extension that a scan from the front finds.** -/
theorem dropExtensionOf_eq (path : List Char) : dropExtensionOf path = withoutExtension path := by
  by_cases found : ∃ stem extension, path = stem ++ '.' :: extension ∧ isExtension extension = true
  · obtain ⟨stem, extension, rfl, isExt⟩ := found
    rw [dropExtensionOf_append isExt, withoutExtension_append isExt]
  · have none : ∀ stem extension, path = stem ++ '.' :: extension →
        isExtension extension = false := fun stem extension split =>
      Bool.eq_false_iff.2 fun isExt => found ⟨stem, extension, split, isExt⟩
    rw [withoutExtension_eq_self none, dropExtensionOf]
    split
    · rename_i stem stops
      split
      · rfl
      · rename_i nonempty
        have whole := List.takeWhile_append_dropWhile (p := isWordChar) (l := path.reverse)
        have split : path = stem.reverse ++ '.' :: (path.reverse.takeWhile isWordChar).reverse := by
          have joined := congrArg List.reverse whole
          rw [stops] at joined
          simpa using joined.symm
        have isExt : isExtension (path.reverse.takeWhile isWordChar).reverse = true := by
          refine isExtension_iff.2 ⟨by simpa using nonempty, fun c member => ?_⟩
          exact List.all_eq_true.1 List.all_takeWhile c (List.mem_reverse.1 member)
        exact absurd (none _ _ split) (by simp [isExt])
    · rfl

theorem splitOn_withoutExtension (path : List Char) :
    (withoutExtension path).splitOn '/' = onLast withoutExtension (path.splitOn '/') := by
  induction path with
  | nil => rfl
  | cons c rest ih =>
    by_cases isExt : (decide (c = '.') && isExtension rest) = true
    · have noSlash : '/' ∉ c :: rest := by
        simp only [Bool.and_eq_true, decide_eq_true_eq] at isExt
        obtain ⟨rfl, ext⟩ := isExt
        simp only [List.mem_cons, not_or]
        refine ⟨by decide, fun member => ?_⟩
        exact absurd ((isExtension_iff.1 ext).2 '/' member) (by decide)
      rw [List.splitOn_eq_singleton noSlash, onLast, withoutExtension, if_pos isExt]
      rfl
    · obtain ⟨first, more, pieces⟩ := List.exists_cons_of_ne_nil (List.splitOn_ne_nil '/' rest)
      rw [withoutExtension, if_neg isExt, List.splitOn_cons_eq_if_modifyHead,
        List.splitOn_cons_eq_if_modifyHead, ih, pieces]
      split
      · rfl
      · cases more with
        | nil =>
          have whole : first = rest := by
            have joined : List.intercalate ['/'] (rest.splitOn '/') = rest :=
              List.intercalate_splitOn '/'
            rwa [pieces, List.intercalate_singleton] at joined
          rw [onLast, whole, List.modifyHead_cons, List.modifyHead_cons, onLast, withoutExtension,
            if_neg isExt]
        | cons second more => rfl

theorem mem_of_mem_withoutExtension {path : List Char} {c : Char}
    (member : c ∈ withoutExtension path) : c ∈ path := by
  induction path with
  | nil => exact member
  | cons d rest ih =>
    rw [withoutExtension] at member
    split at member
    · cases member
    · exact (List.mem_cons.1 member).elim (fun isD => isD ▸ List.mem_cons_self)
        fun inRest => List.mem_cons_of_mem d (ih inRest)

theorem mem_of_mem_dropExtension {path : List Char} {c : Char}
    (member : c ∈ dropExtension path) : c ∈ path := by
  rw [dropExtension, dropExtensionOf_eq, dropExtensionOf_eq] at member
  split at member
  · rename_i ends
    rcases List.mem_append.1 member with member | isEnd
    · exact List.dropLast_subset path (mem_of_mem_withoutExtension member)
    · rw [List.mem_singleton.1 isEnd]
      exact List.mem_of_getLast? ends
  · exact mem_of_mem_withoutExtension member

/-! ## The whole path -/

/-- What the modules of a path are named after: the segments that are left of it. -/
def stemSegments (path : List Char) : List (List Char) :=
  (dropExtension (relativeToInstall (withSlashes path))).splitOn '/'

theorem isAscii_withSlashes {path : List Char} (ascii : ∀ c ∈ path, isAscii c = true) :
    ∀ c ∈ withSlashes path, isAscii c = true := by
  simp only [withSlashes, List.forall_mem_map]
  intro c member
  split
  · decide
  · exact ascii c member

theorem isAscii_of_mem_stem {path : List Char} (ascii : ∀ c ∈ path, isAscii c = true) :
    ∀ c ∈ dropExtension (relativeToInstall (withSlashes path)), isAscii c = true :=
  fun c member => isAscii_withSlashes ascii c
    ((relativeToInstall_suffix _).subset (mem_of_mem_dropExtension member))

theorem isAscii_of_mem_stemSegments {path segment : List Char}
    (ascii : ∀ c ∈ path, isAscii c = true) (member : segment ∈ stemSegments path) :
    ∀ c ∈ segment, isAscii c = true :=
  fun c inSegment => isAscii_of_mem_stem ascii c (mem_of_mem_splitOn member inSegment)

/-- **The modules of a path of ASCII are those of the segments that are left of it.** -/
theorem headerModulesChars_eq {path : List Char} (ascii : ∀ c ∈ path, isAscii c = true) :
    headerModulesChars path =
      ((stemSegments path).map segmentModule).filter fun name => !name.isEmpty := by
  rw [headerModulesChars, camelSegments_eq (isAscii_of_mem_stem ascii), stemSegments]

/-- Where no line end follows it, the extension is that of the last segment. -/
theorem stemSegments_eq {path : List Char} (line : '\n' ∉ path) :
    stemSegments path = onLast withoutExtension (keptSegments path) := by
  have kept : '\n' ∉ relativeToInstall (withSlashes path) := by
    intro member
    obtain ⟨c, inPath, same⟩ := List.mem_map.1 ((relativeToInstall_suffix _).subset member)
    split at same
    · cases same
    · exact line (same ▸ inPath)
  have ends : (relativeToInstall (withSlashes path)).getLast? ≠ some '\n' := fun last =>
    kept (List.mem_of_getLast? last)
  rw [stemSegments, dropExtension, if_neg ends, dropExtensionOf_eq, splitOn_withoutExtension,
    splitOn_relativeToInstall]

/-- **The modules of a header are found segment by segment.**  For a path of ASCII without line
ends, each segment that counts gives its own module, the last one without its extension.  And
no install directory in front of an absolute path makes a difference. -/
theorem headerModules_segmentwise :
    (∀ header : String, (∀ c ∈ header.toList, isAscii c = true) → IsLine header →
      headerModules header = (segmentModules header.toList).map String.ofList) ∧
    ∀ (separator : Char) (directory path : List Char), isSeparator separator = true →
      directory ∈ installDirectories → path.head?.any isSeparator = true →
        headerModules (String.ofList (separator :: (directory ++ path))) =
          headerModules (String.ofList path) := by
  constructor
  · intro header ascii line
    rw [headerModules, headerModulesChars_eq ascii, stemSegments_eq line]
    rfl
  · intro separator directory path isSep installed absolute
    simp only [headerModules, headerModulesChars, String.toList_ofList,
      relativeToInstall_install isSep installed absolute]

/-- A system header, and the same below another install directory. -/
theorem headerModules_segmentwise_stat :
    headerModules "/usr/include/sys/HTTPStat.v2.h" = ["Sys", "HttpStatV2"] ∧
    headerModules "\\opt/usr/include/sys/HTTPStat.v2.h" = ["Sys", "HttpStatV2"] := by
  obtain ⟨each, install⟩ := headerModules_segmentwise
  have header : headerModules "/usr/include/sys/HTTPStat.v2.h" = ["Sys", "HttpStatV2"] := by
    rw [each _ (List.all_eq_true.1 (by decide +kernel)) (by decide +kernel)]
    decide +kernel
  have below := install '\\' "opt".toList "/usr/include/sys/HTTPStat.v2.h".toList (by decide)
    (by decide +kernel) (by decide +kernel)
  have spelled : String.ofList ('\\' :: ("opt".toList ++
      "/usr/include/sys/HTTPStat.v2.h".toList)) = "\\opt/usr/include/sys/HTTPStat.v2.h" := by
    decide +kernel
  rw [spelled, String.ofList_toList] at below
  exact ⟨header, below.trans header⟩

end HeaderBind.Identifier
