/-
# HeaderBind.Proofs.Ruby.Definitions — enumerations and records are read from their lines

The lines of an enumeration begin with its users and its name; its constants are indented, and
the bracket that ends it is not (`read_enum`).  So are the fields of a record, of which each
but the last ends with a comma and a line end (`layoutText_inj`); a record ends with its first
line that is not indented (`read_record`).
-/
import HeaderBind.Proofs.Ruby.Lines
import HeaderBind.Proofs.Ruby.Shown

namespace HeaderBind.Ruby

set_option autoImplicit false

open Text (IsWord IsLine first? read_word run_unique eq_of_map_eq)

theorem symbol_isLine {name : String} (line : IsLine name) : IsLine (symbol name) :=
  IsLine.append (by decide) line

/-- The line is indented. -/
def IsIndented (line : String) : Prop := first? line = some ' '

instance (line : String) : Decidable (IsIndented line) :=
  inferInstanceAs (Decidable (first? line = some ' '))

theorem IsIndented.append {start : String} (h : IsIndented start) (more : String) :
    IsIndented (start ++ more) := Text.first?_append_of_some h more

/-! ## Enumerations -/

/-- What follows the name of a constant and its comma. -/
def valueText : Option String → String
  | none => ""
  | some value => " " ++ value ++ ","

theorem entryLine_eq (entry : EnumEntry) :
    entryLine entry = "  :" ++ (entry.name ++ ("," ++ valueText entry.value)) := by
  have lead : ∀ text : String, indent ++ symbol entry.name ++ text =
      "  :" ++ (entry.name ++ text) := by
    intro text
    rw [symbol, String.append_assoc, String.append_assoc, ← String.append_assoc]
    rfl
  cases value : entry.value with
  | none =>
    rw [entryLine, value, lead]
    rfl
  | some text =>
    have line : entryLine entry = indent ++ symbol entry.name ++ (", " ++ text ++ ",") := by
      rw [entryLine, value]
      simp only [String.append_assoc]
    have comma : ", " ++ text ++ "," = "," ++ valueText (some text) := by
      rw [valueText, ← String.append_assoc, ← String.append_assoc]
      rfl
    rw [line, lead, comma]

theorem valueText_injective : Function.Injective valueText := by
  have filled : ∀ value : String, valueText (some value) ≠ "" := by
    intro value empty
    rw [valueText, String.append_assoc] at empty
    exact absurd (String.append_eq_empty_iff.1 empty).1 (by decide)
  intro one other same
  cases one with
  | none =>
    cases other with
    | none => rfl
    | some value => exact absurd same.symm (filled value)
  | some value =>
    cases other with
    | none => exact absurd same (filled value)
    | some text =>
      have values := (String.append_left_inj _).1 same
      rw [(String.append_right_inj _).1 values]

theorem entryLine_inj {entry other : EnumEntry} (word : IsWord entry.name)
    (wordOther : IsWord other.name) (same : entryLine entry = entryLine other) :
    entry = other := by
  rw [entryLine_eq, entryLine_eq] at same
  obtain ⟨names, rests⟩ := read_word word wordOther
    (Text.endsWord_append (by decide) (by decide) _)
    (Text.endsWord_append (by decide) (by decide) _) ((String.append_right_inj _).1 same)
  have values := valueText_injective ((String.append_right_inj _).1 rests)
  cases entry
  cases other
  cases names
  cases values
  rfl

theorem entryLine_isLine {entry : EnumEntry}
    (worded : IsWord entry.name ∧ ∀ value ∈ entry.value, IsLine value) :
    IsLine (entryLine entry) := by
  have value : IsLine (valueText entry.value) := by
    cases written : entry.value with
    | none => decide
    | some value =>
      exact (IsLine.append (by decide) (worded.2 value written)).append (by decide)
  rw [entryLine_eq]
  exact IsLine.append (by decide) (worded.1.isLine.append (IsLine.append (by decide) value))

theorem isIndented_entryLine (entry : EnumEntry) : IsIndented (entryLine entry) := by
  rw [entryLine_eq]
  exact IsIndented.append (by decide) _

/-- What follows the name of an enumeration in its first line. -/
def enumHeadEnd (name : String) : String :=
  " = enum " ++ (symbol (Identifier.snakeCase name) ++ ", [")

theorem enumHead_isLine {name : String} (word : IsWord name) :
    IsLine (name ++ enumHeadEnd name) :=
  word.isLine.append (IsLine.append (by decide)
    ((symbol_isLine (Text.snakeCase_isLine word.isLine)).append (by decide)))

theorem endsWord_enumHeadEnd (name : String) : Text.endsWord (enumHeadEnd name) = true :=
  Text.endsWord_append (by decide) (by decide) _

theorem enumLines_eq (binding : EnumBinding) :
    enumLines binding = usersComment binding.users ::
      (binding.name ++ enumHeadEnd binding.name) :: (binding.entries.map entryLine ++ ["]"]) := by
  rw [enumLines, String.append_assoc, String.append_assoc]
  rfl

theorem enumLines_areLines {binding : EnumBinding} (worded : binding.Worded) :
    ∀ line ∈ enumLines binding, IsLine line := by
  rw [enumLines_eq, List.forall_mem_cons, List.forall_mem_cons, List.forall_mem_append]
  exact ⟨usersComment_isLine worded.users, enumHead_isLine worded.name,
    List.forall_mem_map.2 fun entry member => entryLine_isLine (worded.entries entry member),
    by decide⟩

/-- **An enumeration is read from its lines**, whatever follows them. -/
theorem read_enum {one other : EnumBinding} (worded : one.Worded) (wordedOther : other.Worded)
    {rest more : List String} (same : enumLines one ++ rest = enumLines other ++ more) :
    one.shown = other.shown ∧ rest = more := by
  simp only [enumLines_eq, List.cons_append, List.append_assoc, List.cons.injEq] at same
  obtain ⟨comments, heads, below⟩ := same
  have users := usersComment_inj worded.users wordedOther.users comments
  obtain ⟨names, -⟩ := read_word worded.name wordedOther.name (endsWord_enumHeadEnd _)
    (endsWord_enumHeadEnd _) heads
  have indented : ∀ entries : List EnumEntry, ∀ line ∈ entries.map entryLine,
      IsIndented line :=
    fun _ => List.forall_mem_map.2 fun entry _ => isIndented_entryLine entry
  have closed : ∀ rest : List String, ∀ line ∈ (["]"] ++ rest).head?, ¬ IsIndented line :=
    fun rest line first => Option.some.inj first ▸ (by decide)
  obtain ⟨lines, ends⟩ := run_unique (indented _) (indented _) (closed _) (closed _) below
  have entries := eq_of_map_eq (fun entry member other isOther => entryLine_inj
    (worded.entries entry member).1 (wordedOther.entries other isOther).1) lines
  rw [EnumBinding.shown, EnumBinding.shown, names, users, entries]
  exact ⟨rfl, List.append_cancel_left ends⟩

/-! ## Records -/

theorem fieldText_inj {field other : RecordField} (worded : IsWord field.name ∧
      IsWord field.type.word) (wordedOther : IsWord other.name ∧ IsWord other.type.word)
    (same : fieldText field = fieldText other) : field = other := by
  rw [fieldText, fieldText, symbol, symbol] at same
  simp only [String.append_assoc] at same
  obtain ⟨names, types⟩ := read_word worded.1 wordedOther.1
    (Text.endsWord_append (by decide) (by decide) _)
    (Text.endsWord_append (by decide) (by decide) _) ((String.append_right_inj _).1 same)
  have type := spelling_inj worded.2 wordedOther.2 ((String.append_right_inj _).1 types)
  cases field
  cases other
  cases names
  cases type
  rfl

theorem fieldText_isLine {field : RecordField} (worded : IsWord field.name ∧
    IsWord field.type.word) : IsLine (fieldText field) :=
  ((symbol_isLine worded.1.isLine).append (by decide)).append (spelling_isLine worded.2)

/-- The blanks below the word that introduces the fields. -/
def layoutPad : String := String.ofList (List.replicate layoutLead.length ' ')

theorem layoutText_eq (fields : List RecordField) : layoutText fields =
    layoutLead ++ (",\n" ++ layoutPad).intercalate (fields.map fieldText) := rfl

/-- Items between commas that each end a line: between line ends, each item with its comma. -/
theorem intercalate_comma {items : List String} (nonempty : items ≠ []) (pad : String) :
    (",\n" ++ pad).intercalate items ++ "," =
      ("\n" ++ pad).intercalate (items.map fun item => item ++ ",") := by
  induction items with
  | nil => exact absurd rfl nonempty
  | cons first rest ih =>
    cases rest with
    | nil => rw [String.intercalate_singleton, List.map_singleton, String.intercalate_singleton]
    | cons next more =>
      have between : first ++ (",\n" ++ pad) = first ++ "," ++ ("\n" ++ pad) := by
        have comma : ",\n" = "," ++ "\n" := rfl
        simp only [comma, String.append_assoc]
      rw [String.intercalate_cons_cons, String.append_assoc, ih (List.cons_ne_nil _ _), between]
      exact String.intercalate_cons_cons.symm

/-- The fields are read from their text. -/
theorem layoutText_inj {fields others : List RecordField}
    (worded : ∀ field ∈ fields, IsWord field.name ∧ IsWord field.type.word)
    (wordedOther : ∀ field ∈ others, IsWord field.name ∧ IsWord field.type.word)
    (nonempty : fields ≠ []) (nonemptyOther : others ≠ [])
    (same : layoutText fields = layoutText others) : fields = others := by
  have filled : ∀ {fields : List RecordField}, fields ≠ [] → fields.map fieldText ≠ [] :=
    fun nonempty none => nonempty (List.map_eq_nil_iff.1 none)
  have lines : ∀ {fields : List RecordField},
      (∀ field ∈ fields, IsWord field.name ∧ IsWord field.type.word) →
        ∀ line ∈ (fields.map fieldText).map (· ++ ","), IsLine line :=
    fun worded => List.forall_mem_map.2 (List.forall_mem_map.2 fun field member =>
      (fieldText_isLine (worded field member)).append (by decide))
  have ended := congrArg (· ++ ",") ((String.append_right_inj _).1 same)
  rw [intercalate_comma (filled nonempty), intercalate_comma (filled nonemptyOther)] at ended
  have items := Text.texts_of_intercalate rfl (lines worded) (lines wordedOther)
    (fun none => filled nonempty (List.map_eq_nil_iff.1 none))
    (fun none => filled nonemptyOther (List.map_eq_nil_iff.1 none)) ended
  have texts : fields.map fieldText = others.map fieldText :=
    List.map_injective_iff.2 (fun _ _ => (String.append_left_inj _).1) items
  exact eq_of_map_eq (fun field member other isOther =>
    fieldText_inj (worded field member) (wordedOther other isOther)) texts

/-- Texts below one another, each in its line after blanks. -/
theorem isIndented_of_mem_splitLines {lead pad : String} (isLead : IsLine lead)
    (isPad : IsLine pad) (leads : IsIndented lead) (pads : IsIndented pad)
    {items : List String} (each : ∀ item ∈ items, IsLine item) :
    ∀ line ∈ splitLines (lead ++ (",\n" ++ pad).intercalate items), IsIndented line := by
  induction items generalizing lead with
  | nil =>
    rw [String.intercalate_nil, String.append_empty, splitLines_of_isLine isLead,
      List.forall_mem_singleton]
    exact leads
  | cons first rest ih =>
    obtain ⟨isFirst, areRest⟩ := List.forall_mem_cons.1 each
    cases rest with
    | nil =>
      rw [String.intercalate_singleton, splitLines_of_isLine (isLead.append isFirst),
        List.forall_mem_singleton]
      exact leads.append first
    | cons next more =>
      have broken : lead ++ (",\n" ++ pad).intercalate (first :: next :: more) =
          lead ++ first ++ "," ++ "\n" ++ (pad ++ (",\n" ++ pad).intercalate (next :: more)) := by
        have comma : ",\n" = "," ++ "\n" := rfl
        rw [String.intercalate_cons_cons, comma]
        simp only [String.append_assoc]
      rw [broken, splitLines_newline, List.forall_mem_append, splitLines_of_isLine
        ((isLead.append isFirst).append (by decide)), List.forall_mem_singleton,
        String.append_assoc]
      exact ⟨leads.append _, ih isPad pads areRest⟩

/-- The lines between the first line of a record and its end. -/
def bodyLines (binding : RecordBinding) : List String := (recordBody binding).flatMap splitLines

theorem isIndented_of_mem_bodyLines {binding : RecordBinding} (worded : binding.Worded) :
    ∀ line ∈ bodyLines binding, IsIndented line := by
  rw [bodyLines, recordBody]
  split
  · decide
  · split
    · exact fun line none => absurd none List.not_mem_nil
    · rw [List.flatMap_singleton, layoutText_eq]
      exact isIndented_of_mem_splitLines (by decide) (by decide) (by decide) (by decide)
        (List.forall_mem_map.2 fun field member => fieldText_isLine (worded.fields field member))

section Body

variable {binding : RecordBinding}

theorem bodyLines_of_isOpaque (isOpaque : binding.isOpaque = true) :
    bodyLines binding = ["  # opaque"] := by
  rw [bodyLines, recordBody, if_pos isOpaque, List.flatMap_singleton]
  exact splitLines_of_isLine (by decide)

theorem bodyLines_of_empty (isOpen : binding.isOpaque = false) (empty : binding.fields = []) :
    bodyLines binding = [] := by
  rw [bodyLines, recordBody, isOpen, empty]
  rfl

theorem bodyLines_of_fields (isOpen : binding.isOpaque = false) (nonempty : binding.fields ≠ []) :
    bodyLines binding = splitLines (layoutText binding.fields) := by
  have filled : binding.fields.isEmpty ≠ true := fun empty => nonempty (List.isEmpty_iff.1 empty)
  rw [bodyLines, recordBody, isOpen, if_neg filled]
  exact List.flatMap_singleton _ _

end Body

theorem layoutText_ne_remark (fields : List RecordField) :
    splitLines (layoutText fields) ≠ ["  # opaque"] := by
  intro same
  have text := intercalate_splitLines (layoutText fields)
  have lead : layoutText fields = "  " ++ ("layout " ++
      (",\n" ++ layoutPad).intercalate (fields.map fieldText)) := by
    rw [layoutText_eq, ← String.append_assoc]
    rfl
  have remark : "  # opaque" = "  " ++ "# opaque" := rfl
  rw [same, String.intercalate_singleton, lead, remark] at text
  exact Text.ne_of_first? (by decide : first? "# opaque" = some '#')
    (Text.first?_append_of_some (c := 'l') (by decide) _) (by decide)
    ((String.append_right_inj _).1 text)

/-- Whether a record is opaque, and its fields, are read from the lines of its body. -/
theorem bodyLines_inj {one other : RecordBinding} (worded : one.Worded)
    (wordedOther : other.Worded) (same : bodyLines one = bodyLines other) :
    one.isOpaque = other.isOpaque ∧ one.fields = other.fields := by
  -- a body is the remark on an opaque record, nothing, or the text of one or more fields
  have kinds : ∀ binding : RecordBinding, binding.Worded →
      (binding.isOpaque = true ∧ binding.fields = [] ∧ bodyLines binding = ["  # opaque"]) ∨
      (binding.isOpaque = false ∧ binding.fields = [] ∧ bodyLines binding = []) ∨
      (binding.isOpaque = false ∧ binding.fields ≠ [] ∧
        bodyLines binding = splitLines (layoutText binding.fields)) := by
    intro binding worded
    cases isOpaque : binding.isOpaque with
    | true => exact .inl ⟨rfl, worded.fields_of_isOpaque isOpaque, bodyLines_of_isOpaque isOpaque⟩
    | false =>
      by_cases empty : binding.fields = []
      · exact .inr (.inl ⟨rfl, empty, bodyLines_of_empty isOpaque empty⟩)
      · exact .inr (.inr ⟨rfl, empty, bodyLines_of_fields isOpaque empty⟩)
  rcases kinds one worded with
      ⟨kind, fields, body⟩ | ⟨kind, fields, body⟩ | ⟨kind, fields, body⟩ <;>
    rcases kinds other wordedOther with ⟨kind', fields', body'⟩ | ⟨kind', fields', body'⟩ |
      ⟨kind', fields', body'⟩ <;> rw [body, body'] at same
  · exact ⟨kind.trans kind'.symm, fields.trans fields'.symm⟩
  · cases same
  · exact absurd same.symm (layoutText_ne_remark _)
  · cases same
  · exact ⟨kind.trans kind'.symm, fields.trans fields'.symm⟩
  · exact absurd same.symm (splitLines_ne_nil _)
  · exact absurd same (layoutText_ne_remark _)
  · exact absurd same (splitLines_ne_nil _)
  · have texts := congrArg "\n".intercalate same
    rw [intercalate_splitLines, intercalate_splitLines] at texts
    exact ⟨kind.trans kind'.symm,
      layoutText_inj worded.fields wordedOther.fields fields fields' texts⟩

/-- What follows the name of a record in its first line. -/
def recordHeadEnd (isUnion : Bool) : String :=
  " < " ++ if isUnion then "FFI::Union" else "FFI::Struct"

theorem recordHeadEnd_injective : Function.Injective recordHeadEnd := by
  intro isUnion other
  cases isUnion <;> cases other <;> decide

theorem endsWord_recordHeadEnd (isUnion : Bool) : Text.endsWord (recordHeadEnd isUnion) = true :=
  Text.endsWord_append (by decide) (by decide) _

theorem splitLines_recordLines {binding : RecordBinding} (worded : binding.Worded) :
    (recordLines binding).flatMap splitLines = usersComment binding.users ::
      ("class " ++ (binding.name ++ recordHeadEnd binding.isUnion)) ::
        (bodyLines binding ++ ["end"]) := by
  have head : IsLine ("class " ++ binding.name ++ " < " ++
      if binding.isUnion then "FFI::Union" else "FFI::Struct") := by
    refine ((IsLine.append (by decide) worded.name.isLine).append (by decide)).append ?_
    split <;> decide
  rw [recordLines, List.flatMap_append, List.flatMap_append, List.flatMap_cons,
    List.flatMap_singleton, List.flatMap_singleton, splitLines_of_isLine head,
    splitLines_of_isLine (usersComment_isLine worded.users),
    splitLines_of_isLine (by decide : IsLine "end"), String.append_assoc, String.append_assoc]
  rfl

/-- **A record is read from its lines**, whatever follows them. -/
theorem read_record {one other : RecordBinding} (worded : one.Worded) (wordedOther : other.Worded)
    {rest more : List String} (same : (recordLines one).flatMap splitLines ++ rest =
      (recordLines other).flatMap splitLines ++ more) : one.shown = other.shown ∧ rest = more := by
  simp only [splitLines_recordLines worded, splitLines_recordLines wordedOther, List.cons_append,
    List.append_assoc, List.cons.injEq] at same
  obtain ⟨comments, heads, below⟩ := same
  have users := usersComment_inj worded.users wordedOther.users comments
  obtain ⟨names, kinds⟩ := read_word worded.name wordedOther.name (endsWord_recordHeadEnd _)
    (endsWord_recordHeadEnd _) ((String.append_right_inj _).1 heads)
  have kind := recordHeadEnd_injective kinds
  have closed : ∀ rest : List String, ∀ line ∈ ("end" :: rest).head?, ¬ IsIndented line :=
    fun rest line first => Option.some.inj first ▸ (by decide)
  obtain ⟨bodies, ends⟩ := run_unique (isIndented_of_mem_bodyLines worded)
    (isIndented_of_mem_bodyLines wordedOther) (closed rest) (closed more) below
  obtain ⟨opacity, fields⟩ := bodyLines_inj worded wordedOther bodies
  rw [RecordBinding.shown, RecordBinding.shown, names, users, kind, opacity, fields]
  exact ⟨rfl, (List.cons.inj ends).2⟩

end HeaderBind.Ruby
