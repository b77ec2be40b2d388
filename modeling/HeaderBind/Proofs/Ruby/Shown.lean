/-
# HeaderBind.Proofs.Ruby.Shown — what the source shows of the bindings

The source has no place for the C names of enumerations and records, for the orders and for the
names of headers.  All else it shows, of bindings whose names are words: `Worded` says that they
are, that the values of constants are lines, that opaque records have no fields, and that
callbacks and functions stand where they belong.

Types are spelled, and texts put between commas, so that they can be read again
(`spelling_inj`, `commaSeparated_inj`).
-/
import HeaderBind.Proofs.Text.Line
import HeaderBind.Ruby
import Mathlib.Tactic.MkIffOfInductiveProp

namespace HeaderBind

set_option autoImplicit false

open Text (IsWord IsLine isWordChar)

/-! ## Shown -/

def EnumBinding.shown (binding : EnumBinding) : EnumBinding :=
  { binding with cName := "", order := 0 }

def RecordBinding.shown (binding : RecordBinding) : RecordBinding :=
  { binding with cName := "", order := 0 }

def CallableBinding.shown (binding : CallableBinding) : CallableBinding :=
  { binding with order := 0 }

def HeaderBindings.shown (bindings : HeaderBindings) : HeaderBindings :=
  { bindings with
    header := ""
    callbacks := bindings.callbacks.map CallableBinding.shown
    functions := bindings.functions.map CallableBinding.shown }

/-- What the source shows: all but C names, orders and the names of headers. -/
def Bindings.shown (bindings : Bindings) : Bindings where
  enums := bindings.enums.map EnumBinding.shown
  records := bindings.records.map RecordBinding.shown
  headers := bindings.headers.map HeaderBindings.shown

/-! ## Worded -/

/-- The word that a type of the interface is spelled by. -/
def FfiType.word : FfiType → String
  | .scalar symbol => symbol
  | .byValue record => record
  | .enum name => name

@[mk_iff]
structure EnumBinding.Worded (binding : EnumBinding) : Prop where
  name : IsWord binding.name
  entries : ∀ entry ∈ binding.entries, IsWord entry.name ∧ ∀ value ∈ entry.value, IsLine value
  users : ∀ user ∈ binding.users, IsWord user

@[mk_iff]
structure RecordBinding.Worded (binding : RecordBinding) : Prop where
  name : IsWord binding.name
  fields : ∀ field ∈ binding.fields, IsWord field.name ∧ IsWord field.type.word
  fields_of_isOpaque : binding.isOpaque = true → binding.fields = []
  users : ∀ user ∈ binding.users, IsWord user

@[mk_iff]
structure CallableBinding.Worded (binding : CallableBinding) : Prop where
  name : IsWord binding.name
  params : ∀ type ∈ binding.params, IsWord type.word
  result : IsWord binding.result.word

@[mk_iff]
structure HeaderBindings.Worded (bindings : HeaderBindings) : Prop where
  modules : ∀ name ∈ bindings.modules, IsWord name
  callbacks : ∀ callable ∈ bindings.callbacks, callable.Worded ∧ callable.isCallback = true
  functions : ∀ callable ∈ bindings.functions, callable.Worded ∧ callable.isCallback = false

theorem HeaderBindings.Worded.callables {bindings : HeaderBindings} (worded : bindings.Worded) :
    ∀ callable ∈ bindings.callbacks ++ bindings.functions, callable.Worded :=
  List.forall_mem_append.2 ⟨fun callable member => (worded.callbacks callable member).1,
    fun callable member => (worded.functions callable member).1⟩

/-- The names in the bindings are words, and nothing stands where it is not shown. -/
@[mk_iff]
structure Bindings.Worded (bindings : Bindings) : Prop where
  enums : ∀ binding ∈ bindings.enums, binding.Worded
  records : ∀ binding ∈ bindings.records, binding.Worded
  headers : ∀ header ∈ bindings.headers, header.Worded

instance (binding : EnumBinding) : Decidable binding.Worded :=
  decidable_of_iff _ (EnumBinding.worded_iff binding).symm

instance (binding : RecordBinding) : Decidable binding.Worded :=
  decidable_of_iff _ (RecordBinding.worded_iff binding).symm

instance (binding : CallableBinding) : Decidable binding.Worded :=
  decidable_of_iff _ (CallableBinding.worded_iff binding).symm

instance (bindings : HeaderBindings) : Decidable bindings.Worded :=
  decidable_of_iff _ (HeaderBindings.worded_iff bindings).symm

instance (bindings : Bindings) : Decidable bindings.Worded :=
  decidable_of_iff _ (Bindings.worded_iff bindings).symm

namespace Ruby

/-! ## Spelled types -/

/-- A character that types are spelled with. -/
def isSpelled (c : Char) : Bool := isWordChar c || c == ':' || c == '.'

theorem mem_spelling {type : FfiType} (word : IsWord type.word) :
    ∀ c ∈ type.spelling.toList, isSpelled c = true := by
  have inWord : ∀ c ∈ type.word.toList, isSpelled c = true := by
    intro c member
    rw [isSpelled, word.2 c member]
    rfl
  have ending : ".by_value".toList.all isSpelled = true := by decide
  cases type with
  | scalar symbol =>
    rw [FfiType.spelling, String.toList_append, List.forall_mem_append]
    exact ⟨fun c colon => List.mem_singleton.1 colon ▸ (by decide), inWord⟩
  | byValue record =>
    rw [FfiType.spelling, String.toList_append, List.forall_mem_append]
    exact ⟨inWord, List.all_eq_true.1 ending⟩
  | enum name => exact inWord

theorem spelling_ne_empty {type : FfiType} (word : IsWord type.word) : type.spelling ≠ "" := by
  cases type with
  | scalar symbol => exact fun empty => absurd (String.append_eq_empty_iff.1 empty).1 (by decide)
  | byValue record => exact fun empty => word.1 (String.append_eq_empty_iff.1 empty).1
  | enum name => exact word.1

theorem notMem_spelling {type : FfiType} (word : IsWord type.word) {c : Char}
    (outside : isSpelled c = false) : c ∉ type.spelling.toList := by
  intro member
  cases outside.symm.trans (mem_spelling word c member)

theorem spelling_inj {type other : FfiType} (word : IsWord type.word)
    (wordOther : IsWord other.word) (same : type.spelling = other.spelling) : type = other := by
  have colon : ∀ {name : String} (rest symbol : String), IsWord name →
      name ++ rest ≠ ":" ++ symbol := fun rest symbol isName =>
    isName.ne_append (by decide) (by decide) rest symbol
  have byValue : ∀ {record name : String}, IsWord record → IsWord name →
      record ++ ".by_value" ≠ name := fun isRecord isName equal => by
    obtain ⟨-, ending⟩ := Text.read_word isRecord isName (by decide) (by decide)
      (equal.trans String.append_empty.symm)
    exact absurd ending (by decide)
  cases type with
  | scalar symbol =>
    cases other with
    | scalar name => rw [(String.append_right_inj _).1 same]
    | byValue record => exact absurd same.symm (colon _ _ wordOther)
    | enum name => exact absurd (String.append_empty.trans same.symm) (colon "" _ wordOther)
  | byValue record =>
    cases other with
    | scalar symbol => exact absurd same (colon _ _ word)
    | byValue name => rw [(String.append_left_inj _).1 same]
    | enum name => exact absurd same (byValue word wordOther)
  | enum name =>
    cases other with
    | scalar symbol => exact absurd (String.append_empty.trans same) (colon "" _ word)
    | byValue record => exact absurd same.symm (byValue wordOther word)
    | enum other => exact congrArg FfiType.enum same

theorem spelling_isLine {type : FfiType} (word : IsWord type.word) : IsLine type.spelling :=
  notMem_spelling word (by decide)

/-! ## Texts between commas -/

/-- A nonempty text without a comma. -/
def IsItem (text : String) : Prop := text ≠ "" ∧ ',' ∉ text.toList

theorem isItem_of_isWord {text : String} (h : IsWord text) : IsItem text :=
  ⟨h.1, h.notMem (by decide)⟩

theorem isItem_spelling {type : FfiType} (word : IsWord type.word) : IsItem type.spelling :=
  ⟨spelling_ne_empty word, notMem_spelling word (by decide)⟩

theorem commaSeparated_ne_empty {item : String} (nonempty : item ≠ "") (rest : List String) :
    commaSeparated (item :: rest) ≠ "" := by
  intro empty
  cases rest with
  | nil => exact nonempty (String.intercalate_singleton.symm.trans empty)
  | cons next more =>
    rw [commaSeparated, String.intercalate_cons_cons, String.append_assoc] at empty
    exact nonempty (String.append_eq_empty_iff.1 empty).1

theorem commaSeparated_inj {items others : List String} (each : ∀ item ∈ items, IsItem item)
    (eachOther : ∀ item ∈ others, IsItem item)
    (same : commaSeparated items = commaSeparated others) : items = others := by
  cases items with
  | nil =>
    cases others with
    | nil => rfl
    | cons item rest =>
      exact absurd same.symm (commaSeparated_ne_empty (eachOther item List.mem_cons_self).1 rest)
  | cons item rest =>
    cases others with
    | nil => exact absurd same (commaSeparated_ne_empty (each item List.mem_cons_self).1 rest)
    | cons other more =>
      exact Text.texts_of_intercalate rfl (fun item member => (each item member).2)
        (fun item member => (eachOther item member).2) (List.cons_ne_nil _ _)
        (List.cons_ne_nil _ _) same

theorem commaSeparated_isLine {items : List String} (each : ∀ item ∈ items, IsLine item) :
    IsLine (commaSeparated items) := IsLine.intercalate (by decide) each

theorem usersComment_isLine {users : List String} (each : ∀ user ∈ users, IsWord user) :
    IsLine (usersComment users) :=
  IsLine.append (by decide) (commaSeparated_isLine fun user member => (each user member).isLine)

theorem usersComment_inj {users others : List String} (each : ∀ user ∈ users, IsWord user)
    (eachOther : ∀ user ∈ others, IsWord user)
    (same : usersComment users = usersComment others) : users = others :=
  commaSeparated_inj (fun user member => isItem_of_isWord (each user member))
    (fun user member => isItem_of_isWord (eachOther user member))
    ((String.append_right_inj _).1 same)

end Ruby

end HeaderBind
