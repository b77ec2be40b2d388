/-
# HeaderBind.Walk — what is met on the way through a type

A walk lists what is met in order.  A fault cuts it short: nothing after the fault
is met, and whoever follows the walk comes to the fault last.
-/
import HeaderBind.Fault

namespace HeaderBind

set_option autoImplicit false

structure Walk (α : Type) where
  items : List α
  fault : Option Fault
deriving Repr, Inhabited

namespace Walk

variable {α β : Type}

/-- Nothing is met. -/
def empty : Walk α := ⟨[], none⟩

def single (a : α) : Walk α := ⟨[a], none⟩

/-- A fault at once. -/
def stop (fault : Fault) : Walk α := ⟨[], some fault⟩

def cons (a : α) (walk : Walk α) : Walk α := ⟨a :: walk.items, walk.fault⟩

/-- The walks of all elements one after the other, up to the first fault. -/
def concatMap (f : β → Walk α) : List β → Walk α
  | [] => empty
  | b :: rest =>
      let first := f b
      match first.fault with
      | some _ => first
      | none =>
          let more := concatMap f rest
          ⟨first.items ++ more.items, more.fault⟩

theorem concatMap_cons_of_fault {f : β → Walk α} {b : β} {fault : Fault}
    (h : (f b).fault = some fault) (rest : List β) : concatMap f (b :: rest) = f b := by
  simp [concatMap, h]

theorem concatMap_cons_of_none {f : β → Walk α} {b : β} (h : (f b).fault = none)
    (rest : List β) :
    concatMap f (b :: rest) =
      ⟨(f b).items ++ (concatMap f rest).items, (concatMap f rest).fault⟩ := by
  simp [concatMap, h]

/-- What the walks of a list meet, one of them meets. -/
theorem exists_of_mem_concatMap {f : β → Walk α} {list : List β} {a : α}
    (h : a ∈ (concatMap f list).items) : ∃ b ∈ list, a ∈ (f b).items := by
  induction list with
  | nil => cases h
  | cons b rest ih =>
    cases stop : (f b).fault with
    | some fault =>
      rw [concatMap_cons_of_fault stop] at h
      exact ⟨b, List.mem_cons_self, h⟩
    | none =>
      rw [concatMap_cons_of_none stop] at h
      rcases List.mem_append.1 h with h | h
      · exact ⟨b, List.mem_cons_self, h⟩
      · obtain ⟨c, member, met⟩ := ih h
        exact ⟨c, List.mem_cons_of_mem b member, met⟩

/-- The fault that ends the walks of a list ends one of them. -/
theorem exists_of_fault_concatMap {f : β → Walk α} {list : List β} {fault : Fault}
    (h : (concatMap f list).fault = some fault) : ∃ b ∈ list, (f b).fault = some fault := by
  induction list with
  | nil => cases h
  | cons b rest ih =>
    cases stop : (f b).fault with
    | some other =>
      rw [concatMap_cons_of_fault stop, stop] at h
      exact ⟨b, List.mem_cons_self, stop.trans h⟩
    | none =>
      rw [concatMap_cons_of_none stop] at h
      obtain ⟨c, member, failed⟩ := ih h
      exact ⟨c, List.mem_cons_of_mem b member, failed⟩

/-- Walks that all end are walked to the end. -/
theorem concatMap_ended {f : β → Walk α} {list : List β} (each : ∀ b ∈ list, (f b).fault = none) :
    (concatMap f list).fault = none := by
  cases stop : (concatMap f list).fault with
  | none => rfl
  | some fault =>
    obtain ⟨b, member, failed⟩ := exists_of_fault_concatMap stop
    cases (each b member).symm.trans failed

/-- Walks of a list that no fault cuts short are walked one by one, each to its end. -/
theorem of_concatMap_of_none {f : β → Walk α} {list : List β} {b : β} (member : b ∈ list)
    (h : (concatMap f list).fault = none) :
    (f b).fault = none ∧ ∀ a ∈ (f b).items, a ∈ (concatMap f list).items := by
  induction list with
  | nil => cases member
  | cons c rest ih =>
    cases stop : (f c).fault with
    | some fault =>
      rw [concatMap_cons_of_fault stop, stop] at h
      cases h
    | none =>
      rw [concatMap_cons_of_none stop] at h ⊢
      rcases List.mem_cons.1 member with rfl | member
      · exact ⟨stop, fun a met => List.mem_append_left _ met⟩
      · obtain ⟨ended, kept⟩ := ih member h
        exact ⟨ended, fun a met => List.mem_append_right _ (kept a met)⟩

end Walk

end HeaderBind
