/-
# HeaderBind.Proofs.File.Absolute — the absolute form of a path is its own

Seen from a working directory that begins with a slash, the absolute form of a path begins
with one too, and its segments are plain: none is empty, `.` or `..`
(`normalSegments_plain`).  Taking plain segments leaves them as they are, so making a path
absolute once more changes nothing (`Store.absolute_absolute`).
-/
import HeaderBind.File.Path
import HeaderBind.Proofs.Text.Reading

namespace HeaderBind.File

set_option autoImplicit false

/-! ## Plain segments -/

/-- The segment stays where it is when it is taken. -/
structure IsPlain (segment : List Char) : Prop where
  nonempty : segment ≠ []
  noDot : segment ≠ ['.']
  noParent : segment ≠ ['.', '.']
  noSlash : '/' ∉ segment

theorem takeSegment_plain {segment : List Char} (plain : IsPlain segment) (isRooted : Bool)
    (kept : List (List Char)) : takeSegment isRooted kept segment = segment :: kept := by
  simp [takeSegment, plain.nonempty, plain.noDot, plain.noParent]

theorem foldl_takeSegment_plain {segments : List (List Char)}
    (plain : ∀ segment ∈ segments, IsPlain segment) (isRooted : Bool)
    (kept : List (List Char)) :
    segments.foldl (takeSegment isRooted) kept = segments.reverse ++ kept := by
  induction segments generalizing kept with
  | nil => rfl
  | cons segment segments ih =>
    rw [List.foldl_cons, takeSegment_plain (plain segment List.mem_cons_self),
      ih fun other member => plain other (List.mem_cons_of_mem segment member)]
    simp

/-- Below a root every segment that is kept is plain. -/
theorem plain_of_takeSegment {kept : List (List Char)} {segment : List Char}
    (plain : ∀ other ∈ kept, IsPlain other) (noSlash : '/' ∉ segment) :
    ∀ other ∈ takeSegment true kept segment, IsPlain other := by
  unfold takeSegment
  split
  · exact plain
  · rename_i named
    obtain ⟨nonempty, noDot⟩ : segment ≠ [] ∧ segment ≠ ['.'] := by simpa using named
    split
    · cases kept with
      | nil => exact fun other member => absurd member List.not_mem_nil
      | cons last before =>
        simp only [(plain last List.mem_cons_self).noParent, if_false]
        exact fun other member => plain other (List.mem_cons_of_mem last member)
    · rename_i noParent
      intro other member
      rcases List.mem_cons.1 member with rfl | member
      · exact ⟨nonempty, noDot, noParent, noSlash⟩
      · exact plain other member

theorem plain_of_foldl_takeSegment {segments kept : List (List Char)}
    (plain : ∀ other ∈ kept, IsPlain other) (noSlash : ∀ segment ∈ segments, '/' ∉ segment) :
    ∀ other ∈ segments.foldl (takeSegment true) kept, IsPlain other := by
  induction segments generalizing kept with
  | nil => exact plain
  | cons segment segments ih =>
    rw [List.foldl_cons]
    exact ih (plain_of_takeSegment plain (noSlash segment List.mem_cons_self))
      fun other member => noSlash other (List.mem_cons_of_mem segment member)

/-! ## Rooted paths -/

section Rooted

variable {path : List Char}

theorem rootOf_cases (rooted : path.head? = some '/') :
    rootOf path = ['/'] ∨ rootOf path = ['/', '/'] := by
  cases path with
  | nil => cases rooted
  | cons c path =>
    cases Option.some.inj rooted
    unfold rootOf
    split <;> simp_all

theorem normalSegments_plain (rooted : path.head? = some '/') :
    ∀ segment ∈ normalSegments path, IsPlain segment := by
  have isRooted : (rootOf path).isEmpty = false := by
    rcases rootOf_cases rooted with root | root <;> rw [root] <;> rfl
  intro segment member
  rw [normalSegments, isRooted, Bool.not_false, List.mem_reverse] at member
  exact plain_of_foldl_takeSegment (fun _ none => absurd none List.not_mem_nil)
    (fun _ => Text.notMem_of_mem_splitOn) segment member

theorem normalizeChars_of_rooted (rooted : path.head? = some '/') :
    normalizeChars path = rootOf path ++ List.intercalate ['/'] (normalSegments path) := by
  have nonempty : rootOf path ++ List.intercalate ['/'] (normalSegments path) ≠ [] := by
    rcases rootOf_cases rooted with root | root <;> rw [root] <;> exact List.cons_ne_nil _ _
  rw [normalizeChars, if_neg nonempty]

theorem head?_normalizeChars (rooted : path.head? = some '/') :
    (normalizeChars path).head? = some '/' := by
  rw [normalizeChars_of_rooted rooted]
  rcases rootOf_cases rooted with root | root <;> rw [root] <;> rfl

/-- Joined plain segments do not begin with a slash. -/
theorem head?_intercalate {segments : List (List Char)}
    (plain : ∀ segment ∈ segments, IsPlain segment) :
    (List.intercalate ['/'] segments).head? ≠ some '/' := by
  cases segments with
  | nil => simp
  | cons first rest =>
    have isPlain := plain first List.mem_cons_self
    cases first with
    | nil => exact absurd rfl isPlain.nonempty
    | cons c first =>
      have noSlash : c ≠ '/' := by
        rintro rfl
        exact isPlain.noSlash List.mem_cons_self
      cases rest <;> simpa [List.intercalate, List.intersperse] using noSlash

theorem rootOf_append {rest : List Char} (rooted : path.head? = some '/')
    (relative : rest.head? ≠ some '/') : rootOf (rootOf path ++ rest) = rootOf path := by
  rcases rootOf_cases rooted with root | root <;> rw [root]
  · cases rest with
    | nil => rfl
    | cons c rest =>
      have noSlash : c ≠ '/' := fun same => relative (by rw [same]; rfl)
      simp [rootOf, noSlash]
  · cases rest with
    | nil => rfl
    | cons c rest =>
      have noSlash : c ≠ '/' := fun same => relative (by rw [same]; rfl)
      simp [rootOf, noSlash]

/-- The slashes in front give empty segments only. -/
theorem foldl_splitOn_root (rooted : path.head? = some '/') (rest : List Char)
    (isRooted : Bool) :
    ((rootOf path ++ rest).splitOn '/').foldl (takeSegment isRooted) [] =
      (rest.splitOn '/').foldl (takeSegment isRooted) [] := by
  rcases rootOf_cases rooted with root | root <;> rw [root] <;>
    simp [List.splitOn_cons_eq_if_modifyHead, takeSegment]

theorem foldl_splitOn_intercalate {segments : List (List Char)}
    (plain : ∀ segment ∈ segments, IsPlain segment) (isRooted : Bool) :
    ((List.intercalate ['/'] segments).splitOn '/').foldl (takeSegment isRooted) [] =
      segments.reverse := by
  cases segments with
  | nil => simp [takeSegment]
  | cons first rest =>
    rw [List.splitOn_intercalate '/' (fun segment member => (plain segment member).noSlash)
      (List.cons_ne_nil first rest), foldl_takeSegment_plain plain, List.append_nil]

theorem normalizeChars_normalizeChars (rooted : path.head? = some '/') :
    normalizeChars (normalizeChars path) = normalizeChars path := by
  have plain := normalSegments_plain rooted
  have root := rootOf_append rooted (head?_intercalate plain)
  rw [normalizeChars_of_rooted (head?_normalizeChars rooted), normalizeChars_of_rooted rooted,
    root, normalSegments, foldl_splitOn_root rooted, foldl_splitOn_intercalate plain,
    List.reverse_reverse]

end Rooted

/-! ## Absolute paths -/

namespace Store

/-- The working directory is an absolute path. -/
def IsRooted (store : Store) : Prop := store.directory.toList.head? = some '/'

instance (store : Store) : Decidable store.IsRooted := inferInstanceAs (Decidable (_ = _))

variable {store : Store}

theorem head?_joinChars (rooted : store.IsRooted) (path : List Char) :
    (joinChars store.directory.toList path).head? = some '/' := by
  unfold joinChars
  split
  · assumption
  · cases directory : store.directory.toList with
    | nil =>
      rw [IsRooted, directory] at rooted
      cases rooted
    | cons c rest =>
      rw [IsRooted, directory] at rooted
      split <;> exact rooted

theorem absolute_absolute (rooted : store.IsRooted) (path : String) :
    store.absolute (store.absolute path) = store.absolute path := by
  have joined := head?_joinChars rooted path.toList
  have again : joinChars store.directory.toList (store.absolute path).toList =
      (store.absolute path).toList := by
    rw [joinChars, if_pos]
    rw [absolute, String.toList_ofList]
    exact head?_normalizeChars joined
  rw [absolute, again, absolute, String.toList_ofList, normalizeChars_normalizeChars joined]

end Store

end HeaderBind.File
