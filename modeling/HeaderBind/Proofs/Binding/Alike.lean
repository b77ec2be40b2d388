/-
# HeaderBind.Proofs.Binding.Alike — bindings that differ in names only

Two bindings are alike when they tell the same but for C names, which are related, and
the names that are made of them.  The order of callables is not told.  Bindings alike by
names that are the same are the same but for that order (`Bindings.Alike.eq`).
-/
import HeaderBind.Binding.Basic
import HeaderBind.Identifier.Case
import Mathlib.Data.List.Forall2

namespace HeaderBind

set_option autoImplicit false

/-! ## Bindings that are alike -/

section Alike

variable (named : String → String → Prop)

inductive FfiType.Alike : FfiType → FfiType → Prop
  | scalar (symbol : String) : Alike (.scalar symbol) (.scalar symbol)
  | byValue {name other : String} : named name other →
      Alike (.byValue (Identifier.camelCase name)) (.byValue (Identifier.camelCase other))
  | enum {name other : String} : named name other →
      Alike (.enum (Identifier.camelCase name)) (.enum (Identifier.camelCase other))

structure EnumBinding.Alike (binding other : EnumBinding) : Prop where
  cName : named binding.cName other.cName
  name : binding.name = Identifier.camelCase binding.cName
  otherwise : other = { binding with
    name := Identifier.camelCase other.cName
    cName := other.cName }

structure RecordField.Alike (field other : RecordField) : Prop where
  type : field.type.Alike named other.type
  name : other.name = field.name

structure RecordBinding.Alike (binding other : RecordBinding) : Prop where
  cName : named binding.cName other.cName
  fields : List.Forall₂ (RecordField.Alike named) binding.fields other.fields
  name : binding.name = Identifier.camelCase binding.cName
  otherwise : other = { binding with
    name := Identifier.camelCase other.cName
    cName := other.cName
    fields := other.fields }

/-- The order of callables may differ. -/
structure CallableBinding.Alike (binding other : CallableBinding) : Prop where
  params : List.Forall₂ (FfiType.Alike named) binding.params other.params
  result : binding.result.Alike named other.result
  otherwise : other = { binding with
    params := other.params
    result := other.result
    order := other.order }

structure HeaderBindings.Alike (bindings others : HeaderBindings) : Prop where
  callbacks : List.Forall₂ (CallableBinding.Alike named) bindings.callbacks others.callbacks
  functions : List.Forall₂ (CallableBinding.Alike named) bindings.functions others.functions
  otherwise : others = { bindings with
    callbacks := others.callbacks
    functions := others.functions }

structure Bindings.Alike (bindings others : Bindings) : Prop where
  enums : List.Forall₂ (EnumBinding.Alike named) bindings.enums others.enums
  records : List.Forall₂ (RecordBinding.Alike named) bindings.records others.records
  headers : List.Forall₂ (HeaderBindings.Alike named) bindings.headers others.headers

variable {named}

theorem HeaderBindings.Alike.of_callables {header : String} {modules : List String}
    {callbacks callbacks' functions functions' : List CallableBinding}
    (one : List.Forall₂ (CallableBinding.Alike named) callbacks callbacks')
    (two : List.Forall₂ (CallableBinding.Alike named) functions functions') :
    HeaderBindings.Alike named ⟨header, modules, callbacks, functions⟩
      ⟨header, modules, callbacks', functions'⟩ := ⟨one, two, rfl⟩

end Alike

section Mono

variable {named related : String → String → Prop}
  (weaker : ∀ name other, named name other → related name other)

include weaker

theorem FfiType.Alike.mono {type other : FfiType} (h : type.Alike named other) :
    type.Alike related other := by
  cases h with
  | scalar symbol => exact .scalar symbol
  | byValue same => exact .byValue (weaker _ _ same)
  | enum same => exact .enum (weaker _ _ same)

theorem CallableBinding.Alike.mono {binding other : CallableBinding}
    (h : binding.Alike named other) : binding.Alike related other :=
  ⟨h.params.imp fun _ _ => .mono weaker, h.result.mono weaker, h.otherwise⟩

theorem EnumBinding.Alike.mono {binding other : EnumBinding} (h : binding.Alike named other) :
    binding.Alike related other := ⟨weaker _ _ h.cName, h.name, h.otherwise⟩

theorem RecordField.Alike.mono {field other : RecordField} (h : field.Alike named other) :
    field.Alike related other := ⟨h.type.mono weaker, h.name⟩

theorem RecordBinding.Alike.mono {binding other : RecordBinding}
    (h : binding.Alike named other) : binding.Alike related other :=
  ⟨weaker _ _ h.cName, h.fields.imp fun _ _ => .mono weaker, h.name, h.otherwise⟩

theorem HeaderBindings.Alike.mono {bindings others : HeaderBindings}
    (h : bindings.Alike named others) : bindings.Alike related others :=
  ⟨h.callbacks.imp fun _ _ => .mono weaker, h.functions.imp fun _ _ => .mono weaker, h.otherwise⟩

end Mono

/-! ## The same but for the order of callables -/

def CallableBinding.unordered (binding : CallableBinding) : CallableBinding :=
  { binding with order := 0 }

def HeaderBindings.unordered (bindings : HeaderBindings) : HeaderBindings :=
  { bindings with
    callbacks := bindings.callbacks.map CallableBinding.unordered
    functions := bindings.functions.map CallableBinding.unordered }

/-- The bindings without the order of callables. -/
def Bindings.unordered (bindings : Bindings) : Bindings :=
  { bindings with headers := bindings.headers.map HeaderBindings.unordered }

theorem map_eq_of_forall₂ {α β : Type} {P : α → α → Prop} {f : α → β} {list others : List α}
    (h : List.Forall₂ P list others) (each : ∀ a b, P a b → f b = f a) :
    others.map f = list.map f := by
  induction h with
  | nil => rfl
  | cons first _ ih => rw [List.map_cons, List.map_cons, each _ _ first, ih]

theorem eq_of_forall₂ {α : Type} {P : α → α → Prop} {list others : List α}
    (h : List.Forall₂ P list others) (each : ∀ a b, P a b → b = a) : others = list := by
  have same := map_eq_of_forall₂ (f := id) h each
  rwa [List.map_id, List.map_id] at same

section Eq

variable {named : String → String → Prop} (same : ∀ name other, named name other → other = name)

include same

theorem FfiType.Alike.eq {type other : FfiType} (h : type.Alike named other) : other = type := by
  cases h with
  | scalar symbol => rfl
  | byValue isNamed => rw [same _ _ isNamed]
  | enum isNamed => rw [same _ _ isNamed]

theorem EnumBinding.Alike.eq {binding other : EnumBinding} (h : binding.Alike named other) :
    other = binding := by
  rw [h.otherwise, same _ _ h.cName, ← h.name]

theorem RecordField.Alike.eq {field other : RecordField} (h : field.Alike named other) :
    other = field := by
  cases field
  cases other
  cases h.name
  cases h.type.eq same
  rfl

theorem RecordBinding.Alike.eq {binding other : RecordBinding} (h : binding.Alike named other) :
    other = binding := by
  have fields := eq_of_forall₂ h.fields fun _ _ => RecordField.Alike.eq same
  rw [h.otherwise, same _ _ h.cName, ← h.name, fields]

theorem CallableBinding.Alike.eq {binding other : CallableBinding}
    (h : binding.Alike named other) : other.unordered = binding.unordered := by
  have params := eq_of_forall₂ h.params fun _ _ => FfiType.Alike.eq same
  rw [h.otherwise, unordered, unordered, params, h.result.eq same]

theorem HeaderBindings.Alike.eq {bindings others : HeaderBindings}
    (h : bindings.Alike named others) : others.unordered = bindings.unordered := by
  have callbacks := map_eq_of_forall₂ h.callbacks fun _ _ => CallableBinding.Alike.eq same
  have functions := map_eq_of_forall₂ h.functions fun _ _ => CallableBinding.Alike.eq same
  rw [h.otherwise, unordered, unordered, callbacks, functions]

/-- Bindings alike by names that are the same are the same, but for the order of callables. -/
theorem Bindings.Alike.eq {bindings others : Bindings} (h : bindings.Alike named others) :
    others.unordered = bindings.unordered := by
  have enums := eq_of_forall₂ h.enums fun _ _ => EnumBinding.Alike.eq same
  have records := eq_of_forall₂ h.records fun _ _ => RecordBinding.Alike.eq same
  have headers := map_eq_of_forall₂ h.headers fun _ _ => HeaderBindings.Alike.eq same
  rw [unordered, unordered, enums, records, headers]

end Eq

end HeaderBind
