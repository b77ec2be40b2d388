/-
# HeaderBind.Proofs.Ruby.Modules — the bindings of a header are read from their lines

The modules of a header are nested one level deeper each, until the line that binds the native
library stands in place of another module (`read_modules`); this tells how deep the callables
are indented.  A callable is told by its line (`callableLine_inj`), and the callables end with
the first line that is blank or indented less.
-/
import HeaderBind.Proofs.Ruby.Lines
import HeaderBind.Proofs.Ruby.Shown

namespace HeaderBind.Ruby

set_option autoImplicit false

open Text (IsWord IsLine first? read_word run_unique)

/-! ## Callables -/

def keyword (isCallback : Bool) : String := if isCallback then "callback" else "attach_function"

/-- What follows the keyword of a callable. -/
def signatureText (binding : CallableBinding) : String :=
  binding.name ++ (", [" ++ (commaSeparated (binding.params.map FfiType.spelling) ++
    ("], " ++ binding.result.spelling)))

theorem callableLine_eq (binding : CallableBinding) :
    callableLine binding = keyword binding.isCallback ++ (" :" ++ signatureText binding) := by
  have lead : " :" = " " ++ ":" := rfl
  rw [callableLine, signatureText, symbol, lead]
  simp only [String.append_assoc]
  rfl

theorem keyword_append_inj {isCallback other : Bool} {rest more : String}
    (same : keyword isCallback ++ rest = keyword other ++ more) :
    isCallback = other ∧ rest = more := by
  have callback : first? (keyword true) = some 'c' := by decide
  have function : first? (keyword false) = some 'a' := by decide
  cases isCallback <;> cases other
  · exact ⟨rfl, (String.append_right_inj _).1 same⟩
  · exact absurd same (Text.ne_of_first? (Text.first?_append_of_some function rest)
      (Text.first?_append_of_some callback more) (by decide))
  · exact absurd same (Text.ne_of_first? (Text.first?_append_of_some callback rest)
      (Text.first?_append_of_some function more) (by decide))
  · exact ⟨rfl, (String.append_right_inj _).1 same⟩

theorem params_inj {types others : List FfiType} (words : ∀ type ∈ types, IsWord type.word)
    (wordsOther : ∀ type ∈ others, IsWord type.word)
    (same : commaSeparated (types.map FfiType.spelling) =
      commaSeparated (others.map FfiType.spelling)) : types = others := by
  have spelled := commaSeparated_inj
    (List.forall_mem_map.2 fun type member => isItem_spelling (words type member))
    (List.forall_mem_map.2 fun type member => isItem_spelling (wordsOther type member)) same
  exact Text.eq_of_map_eq (fun type member other isOther =>
    spelling_inj (words type member) (wordsOther other isOther)) spelled

/-- The parameters are read up to the bracket, which none of them holds. -/
theorem signatureText_inj {one other : CallableBinding} (worded : one.Worded)
    (wordedOther : other.Worded) (same : signatureText one = signatureText other) :
    one.name = other.name ∧ one.params = other.params ∧ one.result = other.result := by
  have unclosed : ∀ {types : List FfiType}, (∀ type ∈ types, IsWord type.word) →
      ']' ∉ (commaSeparated (types.map FfiType.spelling)).toList := fun words =>
    Text.notMem_intercalate (by decide) (List.forall_mem_map.2 fun type member =>
      notMem_spelling (words type member) (by decide))
  obtain ⟨names, signatures⟩ := read_word worded.name wordedOther.name
    (Text.endsWord_append (by decide) (by decide) _)
    (Text.endsWord_append (by decide) (by decide) _) same
  obtain ⟨params, results⟩ := Text.read_until (unclosed worded.params)
    (unclosed wordedOther.params) (Text.first?_append_of_some (by decide) _)
    (Text.first?_append_of_some (by decide) _) ((String.append_right_inj _).1 signatures)
  exact ⟨names, params_inj worded.params wordedOther.params params,
    spelling_inj worded.result wordedOther.result ((String.append_right_inj _).1 results)⟩

/-- A callable is read from its line. -/
theorem callableLine_inj {one other : CallableBinding} (worded : one.Worded)
    (wordedOther : other.Worded) (same : callableLine one = callableLine other) :
    one.shown = other.shown := by
  rw [callableLine_eq, callableLine_eq] at same
  obtain ⟨kinds, signatures⟩ := keyword_append_inj same
  obtain ⟨names, params, results⟩ := signatureText_inj worded wordedOther
    ((String.append_right_inj _).1 signatures)
  rw [CallableBinding.shown, CallableBinding.shown, kinds, names, params, results]

theorem callableLine_isLine {binding : CallableBinding} (worded : binding.Worded) :
    IsLine (callableLine binding) := by
  have isKeyword : ∀ isCallback : Bool, IsLine (keyword isCallback) := by decide
  have params : IsLine (commaSeparated (binding.params.map FfiType.spelling)) :=
    commaSeparated_isLine (List.forall_mem_map.2 fun type member =>
      spelling_isLine (worded.params type member))
  rw [callableLine_eq, signatureText]
  exact (isKeyword _).append (IsLine.append (by decide) (worded.name.isLine.append
    (IsLine.append (by decide) (params.append (IsLine.append (by decide)
      (spelling_isLine worded.result))))))

/-! ## Nested modules -/

/-- The lines that open modules from a level on. -/
def openingLines (level : Nat) (modules : List String) : List String :=
  (modules.zipIdx level).map fun (name, level) => indentation level ++ "module " ++ name

/-- The lines that close as many modules. -/
def closingLines (depth : Nat) : List String :=
  (List.range depth).reverse.map fun level => indentation level ++ "end"

theorem openingLines_cons (level : Nat) (name : String) (modules : List String) :
    openingLines level (name :: modules) =
      (indentation level ++ "module " ++ name) :: openingLines (level + 1) modules := rfl

theorem module_ne_extend (level : Nat) (name : String) :
    indentation level ++ "module " ++ name ≠ indentLine level "extend FFI::Library" := by
  rw [indentLine_of_ne (by decide), String.append_assoc]
  intro same
  exact Text.ne_of_first? (Text.first?_append_of_some (c := 'm') (by decide) name)
    (by decide : first? "extend FFI::Library" = some 'e') (by decide)
    ((String.append_right_inj _).1 same)

/-- The modules are read up to the line that stands in place of another one.  By induction on
them, at any level. -/
theorem read_modules {modules others : List String} {level : Nat} {rest more : List String}
    (same : openingLines level modules ++
        indentLine (level + modules.length) "extend FFI::Library" :: rest =
      openingLines level others ++
        indentLine (level + others.length) "extend FFI::Library" :: more) :
    modules = others ∧ rest = more := by
  induction modules generalizing level others with
  | nil =>
    cases others with
    | nil => exact ⟨rfl, (List.cons.inj same).2⟩
    | cons name others => exact absurd (List.cons.inj same).1.symm (module_ne_extend level name)
  | cons name modules ih =>
    cases others with
    | nil => exact absurd (List.cons.inj same).1 (module_ne_extend level name)
    | cons other others =>
      have deeper : ∀ names : List String, level + (names.length + 1) = level + 1 + names.length :=
        fun names => by omega
      simp only [openingLines_cons, List.cons_append, List.cons.injEq, List.length_cons,
        deeper] at same
      obtain ⟨names, below⟩ := same
      obtain ⟨rfl, rests⟩ := ih below
      exact ⟨by rw [(String.append_right_inj _).1 names], rests⟩

/-! ## Headers -/

/-- The lines of the callables of a header. -/
def callableLines (bindings : HeaderBindings) : List String :=
  (bindings.callbacks ++ bindings.functions).map callableLine

theorem headerLines_eq (nativeLibrary : String) (bindings : HeaderBindings) :
    headerLines nativeLibrary bindings = openingLines 0 bindings.modules ++
      indentLine (0 + bindings.modules.length) "extend FFI::Library" ::
        indentLine bindings.modules.length ("ffi_lib '" ++ nativeLibrary ++ "'") :: "" ::
          ((callableLines bindings).map (indentLine bindings.modules.length) ++
            closingLines bindings.modules.length) := by
  simp only [headerLines, callableLines, List.map_append, List.append_assoc, Nat.zero_add]
  rfl

theorem closingLines_succ (depth : Nat) :
    closingLines (depth + 1) = (indentation depth ++ "end") :: closingLines depth := by
  rw [closingLines, List.range_succ, List.reverse_append]
  rfl

theorem headerLines_areLines {nativeLibrary : String} {bindings : HeaderBindings}
    (isLibrary : IsLine nativeLibrary) (worded : bindings.Worded) :
    ∀ line ∈ headerLines nativeLibrary bindings, IsLine line := by
  have opening : ∀ (modules : List String) (level : Nat), (∀ name ∈ modules, IsWord name) →
      ∀ line ∈ openingLines level modules, IsLine line := by
    intro modules
    induction modules with
    | nil => exact fun _ _ line none => absurd none List.not_mem_nil
    | cons name modules ih =>
      intro level words
      obtain ⟨isName, areNames⟩ := List.forall_mem_cons.1 words
      rw [openingLines_cons, List.forall_mem_cons]
      exact ⟨((indentation_isLine level).append (by decide)).append isName.isLine,
        ih (level + 1) areNames⟩
  have closing : ∀ depth : Nat, ∀ line ∈ closingLines depth, IsLine line := fun depth =>
    List.forall_mem_map.2 fun level _ => (indentation_isLine level).append (by decide)
  rw [headerLines_eq, List.forall_mem_append, List.forall_mem_cons, List.forall_mem_cons,
    List.forall_mem_cons, List.forall_mem_append]
  exact ⟨opening _ 0 worded.modules, indentLine_isLine (by decide) _,
    indentLine_isLine ((IsLine.append (by decide) isLibrary).append (by decide)) _, by decide,
    List.forall_mem_map.2 (List.forall_mem_map.2 fun callable member =>
      indentLine_isLine (callableLine_isLine (worded.callables callable member)) _), closing _⟩

/-- Something stands in the line, after the indentation of a level. -/
def IsBelow (depth : Nat) (line : String) : Prop :=
  ∃ text, text ≠ "" ∧ line = indentation depth ++ text

theorem isBelow_callableLine (depth : Nat) (binding : CallableBinding) :
    IsBelow depth (indentLine depth (callableLine binding)) := by
  have nonempty : callableLine binding ≠ "" := by
    intro empty
    rw [callableLine_eq] at empty
    exact absurd (String.append_eq_empty_iff.1 (String.append_eq_empty_iff.1 empty).2).1 (by decide)
  exact ⟨callableLine binding, nonempty, indentLine_of_ne nonempty depth⟩

/-- Neither a blank line nor the one that closes the innermost module is below it. -/
theorem not_isBelow_closing {depth : Nat} {rest : List String}
    (blank : ∀ line ∈ rest.head?, line = "") :
    ∀ line ∈ (closingLines depth ++ rest).head?, ¬ IsBelow depth line := by
  rintro line first ⟨text, nonempty, rfl⟩
  cases depth with
  | zero => exact nonempty (String.append_eq_empty_iff.1 (blank _ first)).2
  | succ depth =>
    rw [closingLines_succ, indentation_succ, String.append_assoc] at first
    exact Text.ne_of_first? (by decide : first? "end" = some 'e')
      (Text.first?_append_of_some (c := ' ') (by decide) text) (by decide)
      ((String.append_right_inj _).1 (Option.some.inj first))

/-- Callbacks and functions are told apart by what they are. -/
theorem callables_split {one other : HeaderBindings} (worded : one.Worded)
    (wordedOther : other.Worded)
    (same : (one.callbacks ++ one.functions).map CallableBinding.shown =
      (other.callbacks ++ other.functions).map CallableBinding.shown) :
    one.callbacks.map CallableBinding.shown = other.callbacks.map CallableBinding.shown ∧
      one.functions.map CallableBinding.shown = other.functions.map CallableBinding.shown := by
  have callbacks : ∀ {bindings : HeaderBindings}, bindings.Worded →
      ∀ callable ∈ bindings.callbacks.map CallableBinding.shown, callable.isCallback = true :=
    fun worded => List.forall_mem_map.2 fun callable member => (worded.callbacks callable member).2
  have functions : ∀ {bindings : HeaderBindings}, bindings.Worded →
      ∀ callable ∈ (bindings.functions.map CallableBinding.shown).head?,
        ¬ callable.isCallback = true := by
    intro bindings worded callable first
    obtain ⟨function, member, rfl⟩ := List.mem_map.1 (List.mem_of_mem_head? first)
    exact Bool.eq_false_iff.1 (worded.functions function member).2
  rw [List.map_append, List.map_append] at same
  exact run_unique (callbacks worded) (callbacks wordedOther) (functions worded)
    (functions wordedOther) same

/-- **The bindings of a header are read from their lines**, where a blank line or nothing
follows them. -/
theorem read_header {one other : HeaderBindings} (worded : one.Worded)
    (wordedOther : other.Worded) {nativeLibrary : String} {rest more : List String}
    (blank : ∀ line ∈ rest.head?, line = "") (blankOther : ∀ line ∈ more.head?, line = "")
    (same : headerLines nativeLibrary one ++ rest = headerLines nativeLibrary other ++ more) :
    one.shown = other.shown ∧ rest = more := by
  rw [headerLines_eq, headerLines_eq, List.append_assoc, List.append_assoc] at same
  obtain ⟨modules, below⟩ := read_modules same
  simp only [modules, List.append_eq, List.cons_append, List.append_assoc, List.cons.injEq,
    true_and] at below
  have areBelow : ∀ (depth : Nat) (bindings : HeaderBindings),
      ∀ line ∈ (callableLines bindings).map (indentLine depth), IsBelow depth line :=
    fun depth bindings => List.forall_mem_map.2 (List.forall_mem_map.2
      fun callable _ => isBelow_callableLine depth callable)
  obtain ⟨lines, ends⟩ := run_unique (areBelow _ one) (areBelow _ other)
    (not_isBelow_closing blank) (not_isBelow_closing blankOther) below
  have callables := Text.map_eq_of_map_eq (fun callable member binding isOther =>
    callableLine_inj (worded.callables callable member) (wordedOther.callables binding isOther))
    ((indentLine_injective _).list_map lines)
  obtain ⟨callbacks, functions⟩ := callables_split worded wordedOther callables
  rw [HeaderBindings.shown, HeaderBindings.shown, modules, callbacks, functions]
  exact ⟨rfl, List.append_cancel_left ends⟩

end HeaderBind.Ruby
