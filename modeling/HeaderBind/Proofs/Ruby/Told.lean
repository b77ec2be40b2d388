/-
# HeaderBind.Proofs.Ruby.Told — the source tells the bindings

The source is a line of blocks, each after a blank line.  Each kind of block begins in its own
way, so the first block of two equal lines of blocks is the same, and so are the blocks that
follow it (`read_block`, `read_blocks`).  Hence two bindings with the same source show the
same: nothing but C names, orders and the names of headers is lost (`shown_of_source`), and
these are lost indeed (`source_shown`).
-/
import HeaderBind.Proofs.Ruby.Definitions
import HeaderBind.Proofs.Ruby.Modules

namespace HeaderBind.Ruby

set_option autoImplicit false

open Text (IsLine first?)

/-! ## Blocks -/

/-- A definition, or the modules of a header. -/
inductive Block where
  | enum (binding : EnumBinding)
  | record (binding : RecordBinding)
  | header (bindings : HeaderBindings)

namespace Block

def shown : Block → Block
  | .enum binding => .enum binding.shown
  | .record binding => .record binding.shown
  | .header bindings => .header bindings.shown

def Worded : Block → Prop
  | .enum binding => binding.Worded
  | .record binding => binding.Worded
  | .header bindings => bindings.Worded

/-- The texts that the block is made of. -/
def texts (nativeLibrary : String) : Block → List String
  | .enum binding => enumLines binding
  | .record binding => recordLines binding
  | .header bindings => headerLines nativeLibrary bindings

/-- The lines of the block as they stand in the module of the source. -/
def lines (nativeLibrary : String) (block : Block) : List String :=
  (block.texts nativeLibrary).flatMap splitLines

end Block

/-- The blocks of a library in their order. -/
def blocks (bindings : Bindings) : List Block :=
  bindings.enums.map .enum ++ (bindings.records.map .record ++ bindings.headers.map .header)

theorem worded_blocks {bindings : Bindings} (worded : bindings.Worded) :
    ∀ block ∈ blocks bindings, block.Worded := by
  rw [blocks, List.forall_mem_append, List.forall_mem_append]
  exact ⟨List.forall_mem_map.2 worded.enums, List.forall_mem_map.2 worded.records,
    List.forall_mem_map.2 worded.headers⟩

/-- The lines of the blocks, each after a blank line. -/
theorem flatMap_splitLines_blockLines (nativeLibrary : String) (bindings : Bindings) :
    (blockLines nativeLibrary bindings).flatMap splitLines =
      (blocks bindings).flatMap fun block => "" :: block.lines nativeLibrary := by
  have texts : blockLines nativeLibrary bindings =
      (blocks bindings).flatMap fun block => "" :: block.texts nativeLibrary := by
    simp only [blockLines, blocks, List.flatMap_append, List.flatMap_map, List.append_assoc]
    rfl
  rw [texts, List.flatMap_assoc]
  refine List.flatMap_congr fun block _ => ?_
  rw [List.flatMap_cons, splitLines_of_isLine (by decide : IsLine "")]
  rfl

/-! ## The first block -/

section Distinct

variable {nativeLibrary : String} {rest more : List String}

theorem enum_ne_record {binding : EnumBinding} {record : RecordBinding} (worded : binding.Worded)
    (wordedRecord : record.Worded) :
    enumLines binding ++ rest ≠ (recordLines record).flatMap splitLines ++ more := by
  intro same
  rw [enumLines_eq, splitLines_recordLines wordedRecord] at same
  have heads := (List.cons.inj (List.cons.inj same).2).1
  have spaced : ∀ text : String, "class " ++ text = "class" ++ (" " ++ text) := by
    intro text
    rw [← String.append_assoc]
    rfl
  have equals : enumHeadEnd binding.name = " " ++ ("= enum " ++
      (symbol (Identifier.snakeCase binding.name) ++ ", [")) := by
    have equal : " = enum " = " " ++ "= enum " := rfl
    rw [enumHeadEnd, equal, String.append_assoc]
  rw [spaced] at heads
  obtain ⟨-, tails⟩ := Text.read_word worded.name (by decide) (endsWord_enumHeadEnd _)
    (Text.endsWord_append (by decide) (by decide) _) heads
  rw [equals] at tails
  exact wordedRecord.name.ne_append (by decide) (by decide) _ _
    ((String.append_right_inj _).1 tails).symm

/-- The lines of a header do not begin with a comment. -/
theorem comment_ne_header (users : List String) (below : List String)
    (bindings : HeaderBindings) :
    usersComment users :: below ≠ headerLines nativeLibrary bindings ++ more := by
  have comment : first? (usersComment users) = some '#' :=
    Text.first?_append_of_some (by decide) _
  intro same
  rw [headerLines_eq] at same
  cases modules : bindings.modules with
  | nil =>
    rw [modules] at same
    exact Text.ne_of_first? comment (by decide : first? (indentLine 0 "extend FFI::Library") =
      some 'e') (by decide) (List.cons.inj same).1
  | cons name rest =>
    rw [modules] at same
    have opens : first? (indentation 0 ++ "module " ++ name) = some 'm' :=
      Text.first?_append_of_some (by decide) name
    exact Text.ne_of_first? comment opens (by decide) (List.cons.inj same).1

end Distinct

section Read

variable {nativeLibrary : String} {rest more : List String}

/-- **A block is read from its lines**, where a blank line or nothing follows them. -/
theorem read_block (isLibrary : IsLine nativeLibrary) {one other : Block} (worded : one.Worded)
    (wordedOther : other.Worded) (blank : ∀ line ∈ rest.head?, line = "")
    (blankOther : ∀ line ∈ more.head?, line = "")
    (same : one.lines nativeLibrary ++ rest = other.lines nativeLibrary ++ more) :
    one.shown = other.shown ∧ rest = more := by
  have enum : ∀ {binding : EnumBinding}, binding.Worded →
      (Block.enum binding).lines nativeLibrary = enumLines binding :=
    fun worded => flatMap_splitLines_of_isLine (enumLines_areLines worded)
  have record : ∀ {binding : RecordBinding}, binding.Worded →
      (Block.record binding).lines nativeLibrary = usersComment binding.users :: _ :=
    splitLines_recordLines
  have header : ∀ {bindings : HeaderBindings}, bindings.Worded →
      (Block.header bindings).lines nativeLibrary = headerLines nativeLibrary bindings :=
    fun worded => flatMap_splitLines_of_isLine (headerLines_areLines isLibrary worded)
  cases one with
  | enum binding =>
    rw [enum worded] at same
    cases other with
    | enum binding' =>
      rw [enum wordedOther] at same
      obtain ⟨shown, rests⟩ := read_enum worded wordedOther same
      exact ⟨congrArg Block.enum shown, rests⟩
    | record binding' => exact absurd same (enum_ne_record worded wordedOther)
    | header bindings =>
      rw [header wordedOther, enumLines_eq] at same
      exact absurd same (comment_ne_header _ _ bindings)
  | record binding =>
    cases other with
    | enum binding' =>
      rw [enum wordedOther] at same
      exact absurd same.symm (enum_ne_record wordedOther worded)
    | record binding' =>
      obtain ⟨shown, rests⟩ := read_record worded wordedOther same
      exact ⟨congrArg Block.record shown, rests⟩
    | header bindings =>
      rw [header wordedOther, record worded] at same
      exact absurd same (comment_ne_header _ _ bindings)
  | header bindings =>
    rw [header worded] at same
    cases other with
    | enum binding' =>
      rw [enum wordedOther, enumLines_eq] at same
      exact absurd same.symm (comment_ne_header _ _ bindings)
    | record binding' =>
      rw [record wordedOther] at same
      exact absurd same.symm (comment_ne_header _ _ bindings)
    | header bindings' =>
      rw [header wordedOther] at same
      obtain ⟨shown, rests⟩ := read_header worded wordedOther blank blankOther same
      exact ⟨congrArg Block.header shown, rests⟩

/-- **The blocks are read from their lines.**  By induction on them, one block at a time. -/
theorem read_blocks (isLibrary : IsLine nativeLibrary) {one other : List Block}
    (worded : ∀ block ∈ one, block.Worded) (wordedOther : ∀ block ∈ other, block.Worded)
    (same : (one.flatMap fun block => "" :: block.lines nativeLibrary) =
      other.flatMap fun block => "" :: block.lines nativeLibrary) :
    one.map Block.shown = other.map Block.shown := by
  have blank : ∀ blocks : List Block, ∀ line ∈
      (blocks.flatMap fun block => "" :: block.lines nativeLibrary).head?, line = "" := by
    intro blocks line first
    cases blocks with
    | nil => cases first
    | cons block blocks => exact (Option.some.inj first).symm
  induction one generalizing other with
  | nil =>
    cases other with
    | nil => rfl
    | cons block other => cases same
  | cons block one ih =>
    cases other with
    | nil => cases same
    | cons next other =>
      obtain ⟨isBlock, areBlocks⟩ := List.forall_mem_cons.1 worded
      obtain ⟨isNext, areOther⟩ := List.forall_mem_cons.1 wordedOther
      rw [List.flatMap_cons, List.flatMap_cons] at same
      obtain ⟨first, below⟩ := read_block isLibrary isBlock isNext (blank one) (blank other)
        (List.cons.inj same).2
      rw [List.map_cons, List.map_cons, first, ih areBlocks areOther below]

end Read

/-! ## The whole source -/

/-- What is not shown does not stand in the source. -/
theorem source_shown (bindings : Bindings) (moduleName nativeLibrary : String) :
    source bindings.shown moduleName nativeLibrary = source bindings moduleName nativeLibrary := by
  have header : ∀ header : HeaderBindings, headerLines nativeLibrary header.shown =
      headerLines nativeLibrary header := by
    intro header
    simp only [headerLines, HeaderBindings.shown, List.map_map]
    rfl
  have headers : (headerLines nativeLibrary ∘ HeaderBindings.shown) = headerLines nativeLibrary :=
    funext header
  have blocks : blockLines nativeLibrary bindings.shown = blockLines nativeLibrary bindings := by
    simp only [blockLines, Bindings.shown, List.map_map, headers]
    rfl
  rw [source, source, sourceLines, sourceLines, blocks]

theorem map_shown_blocks (bindings : Bindings) :
    (blocks bindings).map Block.shown = blocks bindings.shown := by
  simp only [blocks, Bindings.shown, List.map_append, List.map_map]
  rfl

/-- The blocks tell the bindings: enumerations come first, records before headers. -/
theorem blocks_injective : Function.Injective blocks := by
  intro one other same
  have noEnum : ∀ bindings : Bindings, ∀ block ∈
      (bindings.records.map Block.record ++ bindings.headers.map Block.header).head?,
      ¬ ∃ binding, block = .enum binding := by
    rintro bindings _ first ⟨binding, rfl⟩
    simpa using List.mem_of_mem_head? first
  have noRecord : ∀ bindings : Bindings, ∀ block ∈ (bindings.headers.map Block.header).head?,
      ¬ ∃ binding, block = .record binding := by
    rintro bindings _ first ⟨binding, rfl⟩
    simpa using List.mem_of_mem_head? first
  obtain ⟨enums, below⟩ := Text.run_unique
    (List.forall_mem_map.2 fun binding _ => ⟨binding, rfl⟩)
    (List.forall_mem_map.2 fun binding _ => ⟨binding, rfl⟩) (noEnum one) (noEnum other) same
  obtain ⟨records, headers⟩ := Text.run_unique
    (List.forall_mem_map.2 fun binding _ => ⟨binding, rfl⟩)
    (List.forall_mem_map.2 fun binding _ => ⟨binding, rfl⟩) (noRecord one) (noRecord other) below
  cases one
  cases other
  cases List.map_injective_iff.2 (fun _ _ => Block.enum.inj) enums
  cases List.map_injective_iff.2 (fun _ _ => Block.record.inj) records
  cases List.map_injective_iff.2 (fun _ _ => Block.header.inj) headers
  rfl

/-- **The source tells the bindings**, as well as the name of its module and of the library. -/
theorem shown_of_source {one other : Bindings} (worded : one.Worded) (wordedOther : other.Worded)
    {moduleName nativeLibrary otherName otherLibrary : String} (isName : IsLine moduleName)
    (isOtherName : IsLine otherName) (isLibrary : IsLine nativeLibrary)
    (isOtherLibrary : IsLine otherLibrary)
    (same : source one moduleName nativeLibrary = source other otherName otherLibrary) :
    moduleName = otherName ∧ nativeLibrary = otherLibrary ∧ one.shown = other.shown := by
  obtain ⟨names, rfl, lines⟩ := lines_of_source isName isOtherName isLibrary isOtherLibrary same
  rw [flatMap_splitLines_blockLines, flatMap_splitLines_blockLines] at lines
  have shown := read_blocks isLibrary (worded_blocks worded) (worded_blocks wordedOther) lines
  rw [map_shown_blocks, map_shown_blocks] at shown
  exact ⟨names, rfl, blocks_injective shown⟩

/-! ## Bindings with the same source -/

/-- A small library with every kind of definition. -/
def drawing : Bindings where
  enums := [
    ⟨"Shape", "shape_t", [⟨"CIRCLE", none⟩, ⟨"SQUARE", some "1 << 2"⟩], ["Draw"], 3⟩,
    ⟨"Empty", "empty", [], [], 0⟩]
  records := [
    ⟨"Point", "point", false, false, [⟨"x", .scalar "int"⟩, ⟨"shape", .enum "Shape"⟩],
      ["Line", "Draw"], 1⟩,
    ⟨"Line", "line", true, false, [⟨"from", .byValue "Point"⟩], [], 2⟩,
    ⟨"Window", "window", false, true, [], ["Draw"], 0⟩]
  headers := [
    ⟨"draw/all.h", ["Draw", "All"], [⟨"onDraw", [], .scalar "void", true, -1⟩],
      [⟨"draw", [.byValue "Point", .scalar "pointer"], .enum "Shape", false, 0⟩]⟩,
    ⟨"top.h", [], [], []⟩]

/-- The same library with other C names, orders and headers. -/
def redrawing : Bindings where
  enums := drawing.enums.map fun binding => { binding with cName := "other" }
  records := drawing.records.map fun binding => { binding with order := binding.order + 1 }
  headers := drawing.headers.map fun bindings => { bindings with header := "other.h" }

theorem shown_of_source_drawing :
    drawing.Worded ∧ redrawing.Worded ∧ drawing ≠ redrawing ∧
      source drawing "Graphics" "draw" = source redrawing "Graphics" "draw" ∧
      drawing.shown = redrawing.shown := by
  have worded : drawing.Worded := by decide +kernel
  have worded' : redrawing.Worded := by decide +kernel
  have same : source drawing "Graphics" "draw" = source redrawing "Graphics" "draw" := by
    rw [← source_shown drawing, ← source_shown redrawing]
    rfl
  exact ⟨worded, worded', by decide, same,
    (shown_of_source worded worded' (by decide) (by decide) (by decide) (by decide) same).2.2⟩

end HeaderBind.Ruby
