/-
# HeaderBind.Proofs.Outcome — how computations with a state end

A computation on a state gives a value or ends with a fault, and leaves a state
either way.  This module inverts the ways computations are put together: what gave
a value did so part by part (`bind_ok_iff`, `mapM_cons_ok_iff`), and what ended with
a fault did so in one of its parts (`bind_error_iff`).

`Keeps R` says that a computation relates every state to the state it leaves by
`R`, however it ends.  For a reflexive and transitive `R` the parts of a loop may
then be looked at one by one: each ran somewhere between the first state and the
last (`mapM_ok_of_mem`, `mapM_ok_of_mem_values`).
-/
import Mathlib.Data.List.Forall2
import Mathlib.Order.Defs.Unbundled

namespace HeaderBind.Outcome

set_option autoImplicit false

variable {ε σ α β : Type}

/-! ## Parts of a computation -/

theorem bind_ok_iff {x : EStateM ε σ α} {f : α → EStateM ε σ β} {s s'' : σ} {b : β} :
    (x >>= f).run s = .ok b s'' ↔
      ∃ a s', x.run s = .ok a s' ∧ (f a).run s' = .ok b s'' := by
  rw [EStateM.run_bind]
  cases h : x.run s with
  | ok a s' => simp
  | error e s' => simp

theorem bind_error_iff {x : EStateM ε σ α} {f : α → EStateM ε σ β} {s s'' : σ} {e : ε} :
    (x >>= f).run s = .error e s'' ↔
      x.run s = .error e s'' ∨ ∃ a s', x.run s = .ok a s' ∧ (f a).run s' = .error e s'' := by
  rw [EStateM.run_bind]
  cases h : x.run s with
  | ok a s' => simp
  | error e s' => simp

theorem pure_ok_iff {a b : α} {s s' : σ} :
    (pure a : EStateM ε σ α).run s = .ok b s' ↔ b = a ∧ s' = s := by
  rw [EStateM.run_pure]
  constructor
  · intro h
    cases h
    exact ⟨rfl, rfl⟩
  · rintro ⟨rfl, rfl⟩
    rfl

theorem throw_run (e : ε) (s : σ) : (throw e : EStateM ε σ α).run s = .error e s := rfl

theorem mapM_nil_ok_iff {f : α → EStateM ε σ β} {s s' : σ} {bs : List β} :
    (([] : List α).mapM f).run s = .ok bs s' ↔ bs = [] ∧ s' = s := by
  rw [List.mapM_nil, pure_ok_iff]

theorem mapM_cons_ok_iff {f : α → EStateM ε σ β} {a : α} {as : List α} {s s'' : σ}
    {bs : List β} :
    ((a :: as).mapM f).run s = .ok bs s'' ↔
      ∃ b rest s', (f a).run s = .ok b s' ∧ (as.mapM f).run s' = .ok rest s'' ∧
        bs = b :: rest := by
  rw [List.mapM_cons, bind_ok_iff]
  constructor
  · rintro ⟨b, s', first, rest⟩
    obtain ⟨tail, t, others, done⟩ := bind_ok_iff.1 rest
    obtain ⟨rfl, rfl⟩ := pure_ok_iff.1 done
    exact ⟨b, tail, s', first, others, rfl⟩
  · rintro ⟨b, rest, s', first, others, rfl⟩
    exact ⟨b, s', first, bind_ok_iff.2 ⟨rest, s'', others, rfl⟩⟩

theorem forM_cons_ok_iff {f : α → EStateM ε σ PUnit} {a : α} {as : List α} {s s'' : σ} :
    (forM (a :: as) f).run s = .ok ⟨⟩ s'' ↔
      ∃ s', (f a).run s = .ok ⟨⟩ s' ∧ (forM as f).run s' = .ok ⟨⟩ s'' := by
  rw [List.forM_cons, bind_ok_iff]
  constructor
  · rintro ⟨⟨⟩, s', first, rest⟩
    exact ⟨s', first, rest⟩
  · rintro ⟨s', first, rest⟩
    exact ⟨⟨⟩, s', first, rest⟩

/-- Every element of a loop that ends well was run, and ended well. -/
theorem forM_ok_of_mem {f : α → EStateM ε σ PUnit} {as : List α} {s s' : σ} {a : α}
    (h : (forM as f).run s = .ok ⟨⟩ s') (member : a ∈ as) :
    ∃ t t', (f a).run t = .ok ⟨⟩ t' := by
  induction as generalizing s with
  | nil => cases member
  | cons b as ih =>
    obtain ⟨t, first, others⟩ := forM_cons_ok_iff.1 h
    rcases List.mem_cons.1 member with rfl | member
    · exact ⟨s, t, first⟩
    · exact ih others member

/-- What every element of a loop preserves that gives a value, the loop preserves. -/
theorem mapM_ok_preserves {P : σ → Prop} {f : α → EStateM ε σ β} {as : List α} {bs : List β}
    {s s' : σ} (each : ∀ a ∈ as, ∀ t b t', P t → (f a).run t = .ok b t' → P t') (before : P s)
    (h : (as.mapM f).run s = .ok bs s') : P s' := by
  induction as generalizing s bs with
  | nil =>
    obtain ⟨-, rfl⟩ := mapM_nil_ok_iff.1 h
    exact before
  | cons a as ih =>
    obtain ⟨b, rest, t, first, others, -⟩ := mapM_cons_ok_iff.1 h
    refine ih (fun c member => each c (List.mem_cons_of_mem a member)) ?_ others
    exact each a List.mem_cons_self s b t before first

theorem foldlM_cons_ok_iff {f : β → α → EStateM ε σ β} {a : α} {as : List α} {b c : β}
    {s s'' : σ} :
    ((a :: as).foldlM f b).run s = .ok c s'' ↔
      ∃ d s', (f b a).run s = .ok d s' ∧ (as.foldlM f d).run s' = .ok c s'' := by
  rw [List.foldlM_cons, bind_ok_iff]

/-- A loop that ends with a fault does so at one of its elements. -/
theorem forM_error {f : α → EStateM ε σ PUnit} {as : List α} {s s'' : σ} {e : ε}
    (h : (forM as f).run s = .error e s'') :
    ∃ a ∈ as, ∃ s', (f a).run s' = .error e s'' := by
  induction as generalizing s with
  | nil => cases h
  | cons a as ih =>
    rw [List.forM_cons] at h
    rcases bind_error_iff.1 h with first | ⟨⟨⟩, s', -, rest⟩
    · exact ⟨a, List.mem_cons_self, s, first⟩
    · obtain ⟨b, member, t, fault⟩ := ih rest
      exact ⟨b, List.mem_cons_of_mem a member, t, fault⟩

/-! ## Ends that can be tested -/

/-- The computation gave a value that passes the test together with the state it left. -/
def gives (test : α → σ → Bool) : EStateM.Result ε σ α → Bool
  | .ok a s => test a s
  | .error _ _ => false

theorem exists_of_gives {test : α → σ → Bool} {result : EStateM.Result ε σ α}
    (h : gives test result = true) : ∃ a s, result = .ok a s ∧ test a s = true := by
  cases result with
  | ok a s => exact ⟨a, s, rfl, h⟩
  | error e s => cases h

/-- The computation ended with a fault that passes the test. -/
def fails (test : ε → Bool) : EStateM.Result ε σ α → Bool
  | .ok _ _ => false
  | .error e _ => test e

theorem exists_of_fails {test : ε → Bool} {result : EStateM.Result ε σ α}
    (h : fails test result = true) : ∃ e s, result = .error e s ∧ test e = true := by
  cases result with
  | ok a s => cases h
  | error e s => exact ⟨e, s, rfl, h⟩

theorem exists_of_ok {test : α → Bool} {result : Except ε α}
    (h : result.toOption.any test = true) : ∃ a, result = .ok a ∧ test a = true := by
  cases result with
  | ok a => exact ⟨a, rfl, h⟩
  | error e => cases h

/-! ## Computations that never fail -/

/-- From every state the computation gives a value. -/
def Succeeds (x : EStateM ε σ α) : Prop := ∀ s, ∃ a s', x.run s = .ok a s'

namespace Succeeds

theorem ne_error {x : EStateM ε σ α} (h : Succeeds x) {s s' : σ} {e : ε} :
    x.run s ≠ .error e s' := by
  intro failed
  obtain ⟨a, t, done⟩ := h s
  cases done.symm.trans failed

theorem pure (a : α) : Succeeds (pure a : EStateM ε σ α) := fun s => ⟨a, s, rfl⟩

theorem get : Succeeds (get : EStateM ε σ σ) := fun s => ⟨s, s, rfl⟩

theorem modifyGet (f : σ → α × σ) : Succeeds (modifyGet f : EStateM ε σ α) :=
  fun s => ⟨(f s).1, (f s).2, rfl⟩

theorem modify (f : σ → σ) : Succeeds (modify f : EStateM ε σ PUnit) :=
  fun s => ⟨⟨⟩, f s, rfl⟩

theorem bind {x : EStateM ε σ α} {f : α → EStateM ε σ β} (first : Succeeds x)
    (rest : ∀ a, Succeeds (f a)) : Succeeds (x >>= f) := by
  intro s
  obtain ⟨a, s', one⟩ := first s
  obtain ⟨b, s'', two⟩ := rest a s'
  exact ⟨b, s'', bind_ok_iff.2 ⟨a, s', one, two⟩⟩

theorem mapM {f : α → EStateM ε σ β} {as : List α} (each : ∀ a ∈ as, Succeeds (f a)) :
    Succeeds (as.mapM f) := by
  induction as with
  | nil =>
    rw [List.mapM_nil]
    exact pure []
  | cons a as ih =>
    rw [List.mapM_cons]
    refine (each a List.mem_cons_self).bind fun b => ?_
    exact (ih fun c member => each c (List.mem_cons_of_mem a member)).bind fun rest => pure _

theorem foldlM {f : β → α → EStateM ε σ β} {as : List α}
    (each : ∀ b, ∀ a ∈ as, Succeeds (f b a)) (b : β) : Succeeds (as.foldlM f b) := by
  induction as generalizing b with
  | nil => exact pure b
  | cons a as ih =>
    rw [List.foldlM_cons]
    refine (each b a List.mem_cons_self).bind fun c => ?_
    exact ih (fun d e member => each d e (List.mem_cons_of_mem a member)) c

end Succeeds

/-! ## The faults that a computation may end with -/

/-- Wherever the computation ends with a fault, `P` holds of it. -/
def FailsWith (P : ε → Prop) (x : EStateM ε σ α) : Prop :=
  ∀ s e s', x.run s = .error e s' → P e

namespace FailsWith

variable {P : ε → Prop} {x : EStateM ε σ α}

theorem of_succeeds (h : Succeeds x) : FailsWith P x :=
  fun _ _ _ failed => absurd failed h.ne_error

theorem pure (a : α) : FailsWith P (pure a : EStateM ε σ α) := of_succeeds (.pure a)

theorem get : FailsWith P (get : EStateM ε σ σ) := of_succeeds .get

theorem modify (f : σ → σ) : FailsWith P (modify f : EStateM ε σ PUnit) :=
  of_succeeds (.modify f)

theorem throw {e : ε} (fault : P e) : FailsWith P (throw e : EStateM ε σ α) := by
  intro s other s' failed
  cases failed
  exact fault

theorem bind {f : α → EStateM ε σ β} (first : FailsWith P x) (rest : ∀ a, FailsWith P (f a)) :
    FailsWith P (x >>= f) := by
  intro s e s'' failed
  rcases bind_error_iff.1 failed with one | ⟨a, s', -, two⟩
  · exact first s e s'' one
  · exact rest a s' e s'' two

theorem mapM {f : α → EStateM ε σ β} {as : List α} (each : ∀ a ∈ as, FailsWith P (f a)) :
    FailsWith P (as.mapM f) := by
  induction as with
  | nil =>
    rw [List.mapM_nil]
    exact pure []
  | cons a as ih =>
    rw [List.mapM_cons]
    refine (each a List.mem_cons_self).bind fun b => ?_
    exact (ih fun c member => each c (List.mem_cons_of_mem a member)).bind fun rest => pure _

theorem foldlM {f : β → α → EStateM ε σ β} {as : List α}
    (each : ∀ b, ∀ a ∈ as, FailsWith P (f b a)) (b : β) : FailsWith P (as.foldlM f b) := by
  induction as generalizing b with
  | nil => exact pure b
  | cons a as ih =>
    rw [List.foldlM_cons]
    refine (each b a List.mem_cons_self).bind fun c => ?_
    exact ih (fun d e member => each d e (List.mem_cons_of_mem a member)) c

end FailsWith

/-! ## What a computation keeps -/

/-- The state that a computation leaves. -/
def left : EStateM.Result ε σ α → σ
  | .ok _ s => s
  | .error _ s => s

/-- However the computation ends, `R` relates the first state to the last. -/
def Keeps (R : σ → σ → Prop) (x : EStateM ε σ α) : Prop := ∀ s, R s (left (x.run s))

namespace Keeps

variable {R : σ → σ → Prop} {x : EStateM ε σ α}

theorem ok (h : Keeps R x) {s s' : σ} {a : α} (done : x.run s = .ok a s') : R s s' := by
  have := h s
  rwa [done] at this

theorem error (h : Keeps R x) {s s' : σ} {e : ε} (failed : x.run s = .error e s') : R s s' := by
  have := h s
  rwa [failed] at this

theorem mono {S : σ → σ → Prop} (weaker : ∀ s s', R s s' → S s s') (h : Keeps R x) :
    Keeps S x := fun s => weaker s _ (h s)

theorem modifyGet {f : σ → α × σ} (h : ∀ s, R s (f s).2) :
    Keeps R (modifyGet f : EStateM ε σ α) := h

theorem modify {f : σ → σ} (h : ∀ s, R s (f s)) :
    Keeps R (modify f : EStateM ε σ PUnit) := h

section Reflexive

variable [Std.Refl R]

theorem pure (a : α) : Keeps R (pure a : EStateM ε σ α) := fun s => Std.Refl.refl s

theorem throw (e : ε) : Keeps R (throw e : EStateM ε σ α) := fun s => Std.Refl.refl s

theorem get : Keeps R (get : EStateM ε σ σ) := fun s => Std.Refl.refl s

/-- What comes after a computation goes on from the state that it leaves, or is not reached. -/
theorem left_bind {f : α → EStateM ε σ β} (rest : ∀ a, Keeps R (f a)) (s : σ) :
    R (left (x.run s)) (left ((x >>= f).run s)) := by
  rw [EStateM.run_bind]
  cases x.run s with
  | ok a s' => exact rest a s'
  | error e s' => exact Std.Refl.refl s'

end Reflexive

section Transitive

variable [IsTrans σ R]

theorem bind {f : α → EStateM ε σ β} (first : Keeps R x) (rest : ∀ a, Keeps R (f a)) :
    Keeps R (x >>= f) := by
  intro s
  have one := first s
  rw [EStateM.run_bind]
  cases h : x.run s with
  | error e s' => rwa [h] at one
  | ok a s' =>
    rw [h] at one
    exact IsTrans.trans _ _ _ one (rest a s')

variable [Std.Refl R]

theorem mapM {f : α → EStateM ε σ β} {as : List α} (each : ∀ a ∈ as, Keeps R (f a)) :
    Keeps R (as.mapM f) := by
  induction as with
  | nil => rw [List.mapM_nil]; exact pure []
  | cons a as ih =>
    rw [List.mapM_cons]
    refine (each a List.mem_cons_self).bind fun b => ?_
    refine (ih fun c member => each c (List.mem_cons_of_mem a member)).bind fun rest => ?_
    exact pure _

theorem forM {f : α → EStateM ε σ PUnit} {as : List α} (each : ∀ a ∈ as, Keeps R (f a)) :
    Keeps R (forM as f) := by
  induction as with
  | nil => exact pure PUnit.unit
  | cons a as ih =>
    rw [List.forM_cons]
    refine (each a List.mem_cons_self).bind fun _ => ?_
    exact ih fun c member => each c (List.mem_cons_of_mem a member)

theorem foldlM {f : β → α → EStateM ε σ β} {as : List α} (each : ∀ b, ∀ a ∈ as, Keeps R (f b a))
    (b : β) : Keeps R (as.foldlM f b) := by
  induction as generalizing b with
  | nil => exact pure b
  | cons a as ih =>
    rw [List.foldlM_cons]
    refine (each b a List.mem_cons_self).bind fun c => ?_
    exact ih (fun d e member => each d e (List.mem_cons_of_mem a member)) c

end Transitive

end Keeps

/-! ## Loops -/

/-- A loop does to a state what each of its steps may do to it. -/
theorem foldl_related (R : σ → σ → Prop) (refl : ∀ s, R s s)
    (trans : ∀ {s t u}, R s t → R t u → R s u) {f : σ → α → σ} (each : ∀ s a, R s (f s a))
    (as : List α) (s : σ) : R s (as.foldl f s) := by
  induction as generalizing s with
  | nil => exact refl s
  | cons a as ih => exact trans (each s a) (ih (f s a))

section Loops

variable {R : σ → σ → Prop} [Std.Refl R] [IsTrans σ R]

/-- The computation gave the value somewhere between the two states. -/
def GaveBetween (R : σ → σ → Prop) (x : EStateM ε σ α) (s s' : σ) (a : α) : Prop :=
  ∃ t t', R s t ∧ x.run t = .ok a t' ∧ R t' s'

/-- Every element of a loop that gave its values gave one between the first state and the
last. -/
theorem mapM_ok_between {f : α → EStateM ε σ β} {as : List α} {bs : List β} {s s' : σ}
    (each : ∀ a, Keeps R (f a)) (h : (as.mapM f).run s = .ok bs s') :
    List.Forall₂ (fun a b => GaveBetween R (f a) s s' b) as bs := by
  induction as generalizing s bs with
  | nil =>
    obtain ⟨rfl, -⟩ := mapM_nil_ok_iff.1 h
    exact .nil
  | cons a as ih =>
    obtain ⟨b, rest, t, first, others, rfl⟩ := mapM_cons_ok_iff.1 h
    have step := (each a).ok first
    have later := (Keeps.mapM fun c _ => each c).ok others
    refine .cons ⟨s, t, Std.Refl.refl s, first, later⟩ ?_
    refine (ih others).imp ?_
    rintro c d ⟨u, u', before, run, after⟩
    exact ⟨u, u', IsTrans.trans _ _ _ step before, run, after⟩

theorem exists_of_forall₂ {P : α → β → Prop} {as : List α} {bs : List β}
    (h : List.Forall₂ P as bs) {a : α} (member : a ∈ as) : ∃ b ∈ bs, P a b := by
  induction h with
  | nil => cases member
  | cons first _ ih =>
    rcases List.mem_cons.1 member with rfl | member
    · exact ⟨_, List.mem_cons_self, first⟩
    · obtain ⟨b, isValue, holds⟩ := ih member
      exact ⟨b, List.mem_cons_of_mem _ isValue, holds⟩

theorem forall₂_imp_of_mem {P Q : α → β → Prop} {as : List α} {bs : List β}
    (h : List.Forall₂ P as bs) (each : ∀ a ∈ as, ∀ b, P a b → Q a b) : List.Forall₂ Q as bs := by
  induction h with
  | nil => exact .nil
  | cons first _ ih =>
    refine .cons (each _ List.mem_cons_self _ first) (ih fun a member => ?_)
    exact each a (List.mem_cons_of_mem _ member)

theorem found_some (b : β) (found : List (Option β)) :
    (some b :: found).filterMap id = b :: found.filterMap id := List.filterMap_cons_some rfl

theorem found_none (found : List (Option β)) :
    ((none : Option β) :: found).filterMap id = found.filterMap id := List.filterMap_cons_none rfl

/-- What is selected on the left and what is there on the right belong together. -/
theorem forall₂_filter_filterMap {P : α → Option β → Prop} {S : α → β → Prop}
    {selects : α → Bool} {as : List α} {found : List (Option β)}
    (h : List.Forall₂ P as found)
    (each : ∀ a ∈ as, ∀ b?, P a b? →
      (selects a = true ∧ ∃ b, b? = some b ∧ S a b) ∨ (selects a = false ∧ b? = none)) :
    List.Forall₂ S (as.filter selects) (found.filterMap id) := by
  induction h with
  | nil => exact .nil
  | @cons a b? as found first _ ih =>
    have rest := ih fun c member => each c (List.mem_cons_of_mem a member)
    rcases each a List.mem_cons_self b? first with ⟨selected, b, rfl, holds⟩ | ⟨left, rfl⟩
    · rw [List.filter_cons_of_pos selected]
      exact .cons holds rest
    · rw [List.filter_cons_of_neg (by rw [left]; exact Bool.false_ne_true)]
      exact rest

theorem mapM_ok_of_mem {f : α → EStateM ε σ β} {as : List α} {bs : List β} {s s' : σ} {a : α}
    (each : ∀ a, Keeps R (f a)) (h : (as.mapM f).run s = .ok bs s') (member : a ∈ as) :
    ∃ b ∈ bs, GaveBetween R (f a) s s' b :=
  exists_of_forall₂ (mapM_ok_between each h) member

theorem mapM_ok_of_mem_values {f : α → EStateM ε σ β} {as : List α} {bs : List β} {s s' : σ}
    {b : β} (each : ∀ a, Keeps R (f a)) (h : (as.mapM f).run s = .ok bs s') (member : b ∈ bs) :
    ∃ a ∈ as, GaveBetween R (f a) s s' b :=
  exists_of_forall₂ (mapM_ok_between each h).flip member

end Loops

end HeaderBind.Outcome
