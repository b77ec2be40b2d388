/-
# HeaderBind.Proofs.Run.Follows — two runs side by side

What is bound and what is needed never depends on the names that types were given on the
way.  Two ledgers are parallel when they need the same types for the same users and both
keep the names of a common table; their other names may differ.  One computation follows
another (`Run.Follows`) if from parallel ledgers it gives a value whenever the other does,
and leaves parallel ledgers.

With `strict` the ledgers have the same names as well, and then the names that the two
computations ask for are the same.
-/
import HeaderBind.Proofs.TypeName.Settled

namespace HeaderBind

set_option autoImplicit false

open Outcome

/-- The two ledgers need the same, and both keep the names of a table.  Under the condition
`strict` they have the same names. -/
structure Ledger.Parallel (base : NameTable) (strict : Prop) (first second : Ledger) : Prop where
  needs : second.needs = first.needs
  left : base.KeptIn first.names
  right : base.KeptIn second.names
  names : strict → second.names = first.names

/-- The ledgers are parallel after two computations, and both keep the names they had. -/
structure Ledger.Abreast (base : NameTable) (strict : Prop) (first second after last : Ledger) :
    Prop where
  parallel : Parallel base strict after last
  left : first.names.KeptIn after.names
  right : second.names.KeptIn last.names

namespace Ledger.Abreast

variable {base : NameTable} {strict : Prop} {first second middle between after last : Ledger}

theorem refl (parallel : Parallel base strict first second) :
    Abreast base strict first second first second := ⟨parallel, .refl _, .refl _⟩

theorem trans (one : Abreast base strict first second middle between)
    (two : Abreast base strict middle between after last) :
    Abreast base strict first second after last :=
  ⟨two.parallel, one.left.trans two.left, one.right.trans two.right⟩

end Ledger.Abreast

namespace Run

variable {α β γ δ : Type} {base : NameTable} {strict : Prop}

/-- Where the first computation gives a value, the second gives one too, and the values are
related at the names that the two have then. -/
def Follows (base : NameTable) (strict : Prop) (S : NameTable → NameTable → α → β → Prop)
    (x : Run α) (y : Run β) : Prop :=
  ∀ first second a after, Ledger.Parallel base strict first second →
    x.run first = .ok a after →
      ∃ b last, y.run second = .ok b last ∧
        Ledger.Abreast base strict first second after last ∧ S after.names last.names a b

/-- The values are the same. -/
def Same (_ _ : NameTable) (a b : α) : Prop := b = a

namespace Follows

variable {S : NameTable → NameTable → α → β → Prop} {T : NameTable → NameTable → γ → δ → Prop}
  {x : Run α} {y : Run β}

theorem pure {a : α} {b : β} (related : ∀ n m, S n m a b) :
    Follows base strict S (pure a) (pure b) := by
  intro first second value after parallel done
  obtain ⟨rfl, rfl⟩ := pure_ok_iff.1 done
  exact ⟨b, second, rfl, .refl parallel, related _ _⟩

theorem same (a : α) : Follows base strict Same (Pure.pure a : Run α) (Pure.pure a) :=
  .pure fun _ _ => rfl

/-- Nothing has to be shown of a computation that gives no value. -/
theorem of_never (never : ∀ ledger a after, x.run ledger ≠ .ok a after) :
    Follows base strict S x y :=
  fun first _ a after _ done => absurd done (never first a after)

theorem throw (fault : Fault) : Follows base strict S (throw fault) y :=
  .of_never fun _ _ _ done => nomatch done

theorem mono {S' : NameTable → NameTable → α → β → Prop} (h : Follows base strict S x y)
    (weaker : ∀ n m a b, S n m a b → S' n m a b) : Follows base strict S' x y := by
  intro first second a after parallel done
  obtain ⟨b, last, run, abreast, related⟩ := h first second a after parallel done
  exact ⟨b, last, run, abreast, weaker _ _ _ _ related⟩

/-- What the first computation gives has what it gives from every ledger. -/
theorem of_ok {P : α → Prop} (h : Follows base strict S x y)
    (given : ∀ ledger a after, x.run ledger = .ok a after → P a) :
    Follows base strict (fun n m a b => P a ∧ S n m a b) x y := by
  intro first second a after parallel done
  obtain ⟨b, last, run, abreast, related⟩ := h first second a after parallel done
  exact ⟨b, last, run, abreast, given _ _ _ done, related⟩

/-- What comes next may use that the names which related the first values are kept. -/
theorem bind {f : α → Run γ} {g : β → Run δ} (one : Follows base strict S x y)
    (rest : ∀ a b n m, S n m a b → Follows base strict
      (fun n' m' c d => n.KeptIn n' → m.KeptIn m' → T n' m' c d) (f a) (g b)) :
    Follows base strict T (x >>= f) (y >>= g) := by
  intro first second c after parallel done
  obtain ⟨a, middle, here, next⟩ := bind_ok_iff.1 done
  obtain ⟨b, between, run, abreast, related⟩ := one first second a middle parallel here
  obtain ⟨d, last, run', later, given⟩ :=
    rest a b _ _ related middle between c after abreast.parallel next
  exact ⟨d, last, bind_ok_iff.2 ⟨b, between, run, run'⟩, abreast.trans later,
    given later.left later.right⟩

theorem bind_same {y : Run α} {f : α → Run γ} {g : α → Run δ} (one : Follows base strict Same x y)
    (rest : ∀ a, Follows base strict T (f a) (g a)) :
    Follows base strict T (x >>= f) (y >>= g) := by
  refine one.bind fun a b n m isSame => ?_
  cases isSame
  exact (rest a).mono fun _ _ _ _ related _ _ => related

theorem mapM {f : α → Run γ} {g : α → Run δ} {list : List α}
    (kept : ∀ n m n' m' c d, NameTable.KeptIn n n' → NameTable.KeptIn m m' → T n m c d →
      T n' m' c d)
    (each : ∀ a ∈ list, Follows base strict T (f a) (g a)) :
    Follows base strict (fun n m cs ds => List.Forall₂ (T n m) cs ds)
      (list.mapM f) (list.mapM g) := by
  induction list with
  | nil =>
    rw [List.mapM_nil, List.mapM_nil]
    exact .pure fun _ _ => .nil
  | cons a rest ih =>
    rw [List.mapM_cons, List.mapM_cons]
    refine (each a List.mem_cons_self).bind fun c d n m related => ?_
    have others := ih fun b member => each b (List.mem_cons_of_mem a member)
    refine others.bind fun cs ds n' m' all => .pure fun n'' m'' one one' two two' => ?_
    refine .cons (kept _ _ _ _ _ _ two two' related) (all.imp fun _ _ => kept _ _ _ _ _ _ one one')

theorem forM {f g : α → Run PUnit} {list : List α}
    (each : ∀ a ∈ list, Follows base strict Same (f a) (g a)) :
    Follows base strict Same (forM list f) (forM list g) := by
  induction list with
  | nil => exact .same PUnit.unit
  | cons a rest ih =>
    rw [List.forM_cons, List.forM_cons]
    refine (each a List.mem_cons_self).bind_same fun _ => ?_
    exact ih fun b member => each b (List.mem_cons_of_mem a member)

theorem foldlM {f g : γ → α → Run γ} {list : List α}
    (each : ∀ c, ∀ a ∈ list, Follows base strict Same (f c a) (g c a)) (c : γ) :
    Follows base strict Same (list.foldlM f c) (list.foldlM g c) := by
  induction list generalizing c with
  | nil => exact .same c
  | cons a rest ih =>
    rw [List.foldlM_cons, List.foldlM_cons]
    refine (each c a List.mem_cons_self).bind_same fun d => ?_
    exact ih (fun e b member => each e b (List.mem_cons_of_mem a member)) d

end Follows

/-! ## Operations on the ledger -/

theorem needs_follows : Follows base strict (fun _ _ a b => b.needs = a.needs)
    (get : Run Ledger) (get : Run Ledger) := by
  intro first second a after parallel done
  cases done
  exact ⟨second, second, rfl, .refl parallel, parallel.needs⟩

theorem ofExcept_follows (result : Except Fault α) :
    Follows base strict Same (ofExcept result) (ofExcept result) := by
  cases result with
  | ok value => exact .same value
  | error fault => exact .throw fault

theorem note_follows (level : Level) (reporter : Reporter) (text text' : String) :
    Follows base strict Same (note level reporter text) (note level reporter text') := by
  intro first second a after parallel done
  cases done
  exact ⟨(), _, rfl, ⟨⟨parallel.needs, parallel.left, parallel.right, parallel.names⟩,
    .refl _, .refl _⟩, rfl⟩

theorem addNeed_follows (id : NodeId) (user : String) :
    Follows base strict Same (addNeed id user) (addNeed id user) := by
  intro first second a after parallel done
  cases done
  refine ⟨(), _, rfl, ⟨⟨?_, parallel.left, parallel.right, parallel.names⟩, .refl _, .refl _⟩, rfl⟩
  exact congrArg (fun needs => NeedTable.add needs id user) parallel.needs

/-- Names may be given that differ, unless the ledgers are to have the same. -/
theorem giveName_follows (id : NodeId) {name name' : String} (agree : strict → name' = name) :
    Follows base strict (fun _ _ _ _ => True) (giveName id name) (giveName id name') := by
  intro first second a after parallel done
  cases done
  have kept := first.names.keptIn_give id name
  have kept' := second.names.keptIn_give id name'
  refine ⟨_, _, rfl, ⟨⟨parallel.needs, ?_, ?_, fun isStrict => ?_⟩, kept, kept'⟩, trivial⟩
  · exact parallel.left.trans kept
  · exact parallel.right.trans kept'
  · show (second.names.give id name').2 = (first.names.give id name).2
    rw [agree isStrict, parallel.names isStrict]

theorem followWalk_follows {walk : Walk α} {f : α → Run Unit}
    (each : ∀ a ∈ walk.items, Follows base strict Same (f a) (f a)) :
    Follows base strict Same (followWalk walk f) (followWalk walk f) := by
  refine (Follows.forM each).bind_same fun _ => ?_
  cases walk.fault with
  | none => exact .same ()
  | some fault => exact .throw fault

end Run

/-! ## Names -/

namespace Scope

variable (scope : Scope) {base : NameTable} {strict : Prop}

/-- The names are those of one tagged type.  They are the same unless it has no name yet in
the table `base`, neither its own nor a given one. -/
def Renamed (base first second : NameTable) (name other : String) : Prop :=
  ∃ id, scope.settledName? first id = some name ∧ scope.settledName? second id = some other ∧
    (other = name ∨ scope.settledName? base id = none)

variable {scope}

theorem Renamed.kept {first second first' second' : NameTable} {name other : String}
    (h : scope.Renamed base first second name other) (kept : first.KeptIn first')
    (kept' : second.KeptIn second') : scope.Renamed base first' second' name other := by
  obtain ⟨id, one, two, same⟩ := h
  exact ⟨id, scope.settledName?_kept kept one, scope.settledName?_kept kept' two, same⟩

theorem Renamed.eq {names : NameTable} {name other : String}
    (h : scope.Renamed base names names name other) : other = name := by
  obtain ⟨id, one, two, -⟩ := h
  exact Option.some.inj (two.symm.trans one)

/-- A type that has a name in the table has no other in one that keeps it. -/
theorem settledName?_eq_of_kept {earlier later : NameTable} (kept : earlier.KeptIn later)
    {id : NodeId} {name other : String} (known : scope.settledName? earlier id = some name)
    (settled : scope.settledName? later id = some other) : other = name :=
  Option.some.inj (settled.symm.trans (scope.settledName?_kept kept known))

/-- The name that is answered depends on the names given alone. -/
theorem nameFor_names {id : NodeId} {name other : String} {first second after last : Ledger}
    (same : second.names = first.names) (one : (scope.nameFor id).run first = .ok name after)
    (two : (scope.nameFor id).run second = .ok other last) : last.names = after.names := by
  unfold nameFor at one two
  cases tagged : scope.graph.tagged? id with
  | none =>
    rw [tagged] at one two
    cases one
    cases two
    exact same
  | some type =>
    rw [tagged] at one two
    cases one
    cases two
    show (second.names.nameFor id type).2 = (first.names.nameFor id type).2
    rw [same]

theorem nameFor_follows (id : NodeId) : Run.Follows base strict
    (fun n m name other => (strict → other = name) ∧
      ((∃ type, scope.graph.tagged? id = some type) → scope.Renamed base n m name other))
    (scope.nameFor id) (scope.nameFor id) := by
  intro first second name after parallel done
  cases tagged : scope.graph.tagged? id with
  | none =>
    unfold nameFor at done ⊢
    rw [tagged] at done ⊢
    obtain ⟨rfl, rfl⟩ := pure_ok_iff.1 done
    refine ⟨"", second, rfl, .refl parallel, fun _ => rfl, ?_⟩
    rintro ⟨type, isTagged⟩
    cases isTagged
  | some type =>
    obtain ⟨other, last, run⟩ := scope.nameFor_succeeds id second
    have one := (scope.nameFor_onlyNames id).ok done
    have two := (scope.nameFor_onlyNames id).ok run
    have settled := scope.nameFor_settles tagged done
    have settled' := scope.nameFor_settles tagged run
    have kept := parallel.left.trans one.names
    have kept' := parallel.right.trans two.names
    have names : strict → last.names = after.names := fun isStrict =>
      nameFor_names (parallel.names isStrict) done run
    refine ⟨other, last, run, ⟨⟨?_, kept, kept', names⟩, one.names, two.names⟩, ?_, fun _ => ?_⟩
    · rw [two.needs, one.needs, parallel.needs]
    · intro isStrict
      rw [names isStrict] at settled'
      exact Option.some.inj (settled'.symm.trans settled)
    · refine ⟨id, settled, settled', ?_⟩
      cases known : scope.settledName? base id with
      | none => exact .inr rfl
      | some earlier =>
        have same := settledName?_eq_of_kept kept known settled
        have same' := settledName?_eq_of_kept kept' known settled'
        exact .inl (same'.trans same.symm)

end Scope

end HeaderBind
