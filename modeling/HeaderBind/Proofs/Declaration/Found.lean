/-
# HeaderBind.Proofs.Declaration.Found — the callables of a file are those it declares

A file declares a function by each declarator that is one, outside of typedefs, and a
callback by each typedef of a pointer to a function (`declaredFunctions`,
`declaredCallbacks`).  Looking for callables finds exactly these, in their order
(`finds_scanCallables`).  It assembles types meanwhile, but no slot that was filled before
changes, and so no declarator turns into a function or a callback on the way.
-/
import HeaderBind.Proofs.Declaration.Assembled

namespace HeaderBind

set_option autoImplicit false

namespace TypeGraph

/-! ## What a file declares -/

/-- The function that a declarator declares. -/
def functionOf (graph : TypeGraph) (isTypedef : Bool) (declarator : Declarator) :
    Option (String × Prototype) :=
  if isTypedef then none
  else (graph.prototype? declarator.type).map fun prototype => (declarator.name, prototype)

/-- The callback that a declarator declares. -/
def callbackOf (graph : TypeGraph) (isTypedef : Bool) (declarator : Declarator) :
    Option (String × Prototype) :=
  if isTypedef then
    (graph.pointedFunction? declarator.type).bind fun function =>
      (graph.prototype? function).map fun prototype => (declarator.name, prototype)
  else none

/-- What the declarators of a declaration declare; a function with its body declares
nothing. -/
def declared (each : Bool → Declarator → Option (String × Prototype)) :
    ExternalDeclaration → List (String × Prototype)
  | .declaration _ declarators isTypedef => declarators.filterMap (each isTypedef)
  | .functionBody _ _ => []

/-- The functions that a file declares, by name and prototype, in order. -/
def declaredFunctions (graph : TypeGraph) (declarations : List ExternalDeclaration) :
    List (String × Prototype) :=
  declarations.flatMap (declared graph.functionOf)

/-- The callbacks that a file declares, by name and prototype, in order. -/
def declaredCallbacks (graph : TypeGraph) (declarations : List ExternalDeclaration) :
    List (String × Prototype) :=
  declarations.flatMap (declared graph.callbackOf)

/-! ## Prototypes -/

namespace SameShape

variable {first second : TypeGraph}

theorem builtin (same : first.SameShape second) {id : NodeId} {spelling : String}
    (node : first.node? id = some (.builtin spelling)) :
    second.node? id = some (.builtin spelling) := by
  have shapes := same id
  rw [node] at shapes
  obtain ⟨other, found, shape⟩ := Option.map_eq_some_iff.1 shapes.symm
  cases other with
  | builtin spelling' =>
    cases shape
    exact found
  | _ => cases shape

theorem isVoid_eq (same : first.SameShape second) (type : TypeRef) :
    second.isVoid type = first.isVoid type := by
  have kept : ∀ {one two : TypeGraph}, one.SameShape two → one.isVoid type = true →
      two.isVoid type = true := by
    intro one two shape known
    unfold TypeGraph.isVoid at known
    split at known
    · rename_i spelling there
      obtain ⟨id, rfl, node⟩ := Option.bind_eq_some_iff.1 there
      unfold TypeGraph.isVoid
      rw [at?, Option.bind_some, shape.builtin node]
      exact known
    · cases known
  exact Bool.eq_iff_iff.2 ⟨kept same.symm, kept same⟩

theorem paramTypes_eq (same : first.SameShape second) (prototype : Prototype) (result : TypeRef) :
    second.paramTypes { prototype with result } = first.paramTypes prototype := by
  obtain ⟨params, -, variadic⟩ := prototype
  unfold paramTypes
  rcases params with _ | ⟨only, _ | ⟨another, rest⟩⟩
  · rfl
  · show (if second.isVoid only.type = true then [] else [only.type]) = _
    rw [same.isVoid_eq]
  · rfl

theorem prototype? (same : first.SameShape second) {type : TypeRef} {prototype : Prototype}
    (there : first.prototype? type = some prototype) :
    ∃ result, second.prototype? type = some { prototype with result } := by
  unfold TypeGraph.prototype? at there
  split at there
  · rename_i found node
    cases there
    obtain ⟨id, rfl, node⟩ := Option.bind_eq_some_iff.1 node
    obtain ⟨result, other⟩ := same.function node
    refine ⟨result, ?_⟩
    unfold TypeGraph.prototype?
    rw [at?, Option.bind_some, other]
  · cases there

theorem isSome_prototype? (same : first.SameShape second) (type : TypeRef) :
    (second.prototype? type).isSome = (first.prototype? type).isSome := by
  have kept : ∀ {one two : TypeGraph}, one.SameShape two →
      (one.prototype? type).isSome = true → (two.prototype? type).isSome = true := by
    intro one two shape known
    obtain ⟨prototype, there⟩ := Option.isSome_iff_exists.1 known
    obtain ⟨result, other⟩ := shape.prototype? there
    rw [other, Option.isSome_some]
  exact Bool.eq_iff_iff.2 ⟨kept same.symm, kept same⟩

theorem prototype?_eq_none (same : first.SameShape second) {type : TypeRef}
    (there : first.prototype? type = none) : second.prototype? type = none := by
  have none := same.isSome_prototype? type
  rw [there] at none
  exact Option.isNone_iff_eq_none.1 (by simpa using none)

end SameShape

theorem pointedFunction?_eq_some_iff {graph : TypeGraph} {type function : TypeRef} :
    graph.pointedFunction? type = some function ↔
      graph.at? type = some (.pointer function) ∧ (graph.prototype? function).isSome = true := by
  unfold pointedFunction?
  constructor
  · intro found
    split at found
    · rename_i pointee node
      split at found
      · cases found
        exact ⟨node, ‹_›⟩
      · cases found
    · cases found
  · rintro ⟨node, known⟩
    rw [node]
    exact if_pos known

/-- A declarator whose own slot is filled points to the same function ever after. -/
theorem Filled.pointedFunction?_eq {first second : TypeGraph} (later : first.Filled second)
    {type : TypeRef} (filled : ∀ id, type = some id → first.slot? id ≠ some none) :
    second.pointedFunction? type = first.pointedFunction? type := by
  cases type with
  | none => rfl
  | some id =>
    apply Option.ext
    intro function
    rw [pointedFunction?_eq_some_iff, pointedFunction?_eq_some_iff,
      later.shape.isSome_prototype?, at?, at?, Option.bind_some, Option.bind_some,
      later.kept id (filled id rfl)]

end TypeGraph

/-! ## What is found -/

/-- The callable is made from the declared name and prototype. -/
structure Callable.MadeOf (graph : TypeGraph) (isCallback : Bool) (declared : String × Prototype)
    (callable : Callable) : Prop where
  name : callable.name = declared.1
  params : callable.params = graph.paramTypes declared.2
  variadic : callable.variadic = declared.2.variadic
  isCallback : callable.isCallback = isCallback

namespace TypeGraph

/-- What a function type makes in a graph of the same shape. -/
theorem SameShape.callable?_madeOf {first second : TypeGraph} (same : first.SameShape second)
    (name : String) (function : TypeRef) (isCallback : Bool) :
    List.Forall₂ (Callable.MadeOf first isCallback)
      ((first.prototype? function).map fun prototype => (name, prototype)).toList
      (second.callable? name function isCallback).toList := by
  cases there : first.prototype? function with
  | none =>
    rw [callable?, same.prototype?_eq_none there]
    exact .nil
  | some prototype =>
    obtain ⟨result, other⟩ := same.prototype? there
    rw [callable?, other]
    exact .cons ⟨rfl, same.paramTypes_eq prototype result, rfl, rfl⟩ .nil

end TypeGraph

namespace CallableScan

/-- The callables found so far are those that are declared so far. -/
structure Finds (graph : TypeGraph) (functions callbacks : List (String × Prototype))
    (scan : CallableScan) : Prop where
  later : graph.Filled scan.graph
  functions : List.Forall₂ (Callable.MadeOf graph false) functions scan.functions
  callbacks : List.Forall₂ (Callable.MadeOf graph true) callbacks scan.callbacks

variable {graph : TypeGraph} {functions callbacks : List (String × Prototype)}

theorem Finds.addDeclarator (base : TypeRef) {isTypedef : Bool} {declarator : Declarator}
    {scan : CallableScan} (h : scan.Finds graph functions callbacks)
    (filled : isTypedef = true → ∀ id, declarator.type = some id → graph.slot? id ≠ some none) :
    (scan.addDeclarator base isTypedef declarator).Finds graph
      (functions ++ (graph.functionOf isTypedef declarator).toList)
      (callbacks ++ (graph.callbackOf isTypedef declarator).toList) := by
  have assembled := h.later.trans (TypeGraph.filled_assemble scan.graph declarator.type base)
  unfold CallableScan.addDeclarator TypeGraph.functionOf TypeGraph.callbackOf
  rw [h.later.shape.isSome_prototype?]
  cases isTypedef with
  | false =>
    simp only [Bool.false_eq_true, if_false, Option.toList_none, List.append_nil]
    split
    · have found := assembled.shape.callable?_madeOf declarator.name declarator.type false
      exact ⟨assembled, List.rel_append h.functions found, h.callbacks⟩
    · rename_i noFunction
      have none : graph.prototype? declarator.type = none := by simpa using noFunction
      rw [none, Option.map_none, Option.toList_none, List.append_nil]
      split
      · exact h
      · exact h
  | true =>
    simp only [if_true, Option.toList_none, List.append_nil]
    rw [h.later.pointedFunction?_eq (filled rfl)]
    split
    · rename_i isFunction
      -- A function is no pointer, so it declares no callback either.
      have noPointer : graph.pointedFunction? declarator.type = none := by
        obtain ⟨prototype, there⟩ := Option.isSome_iff_exists.1 isFunction
        refine Option.eq_none_iff_forall_not_mem.2 fun function pointed => ?_
        have node := (TypeGraph.pointedFunction?_eq_some_iff.1 pointed).1
        unfold TypeGraph.prototype? at there
        rw [node] at there
        cases there
      rw [noPointer, Option.bind_none, Option.toList_none, List.append_nil]
      exact h
    · cases pointed : graph.pointedFunction? declarator.type with
      | none =>
        rw [Option.bind_none, Option.toList_none, List.append_nil]
        exact h
      | some function =>
        have found := assembled.shape.callable?_madeOf declarator.name function true
        exact ⟨assembled, h.functions, List.rel_append h.callbacks found⟩

theorem Finds.addDeclarators {base : TypeRef} {isTypedef : Bool} {declarators : List Declarator}
    {scan : CallableScan} (h : scan.Finds graph functions callbacks)
    (filled : isTypedef = true → ∀ declarator ∈ declarators, ∀ id,
      declarator.type = some id → graph.slot? id ≠ some none) :
    (declarators.foldl (CallableScan.addDeclarator base isTypedef) scan).Finds graph
      (functions ++ declarators.filterMap (graph.functionOf isTypedef))
      (callbacks ++ declarators.filterMap (graph.callbackOf isTypedef)) := by
  induction declarators generalizing scan functions callbacks with
  | nil =>
    rw [List.filterMap_nil, List.filterMap_nil, List.append_nil, List.append_nil]
    exact h
  | cons declarator declarators ih =>
    have here := h.addDeclarator base fun typedef => filled typedef declarator
      List.mem_cons_self
    have rest := ih here fun typedef other member => filled typedef other
      (List.mem_cons_of_mem declarator member)
    rw [List.append_assoc, List.append_assoc] at rest
    have first : ∀ each : Declarator → Option (String × Prototype),
        (declarator :: declarators).filterMap each =
          (each declarator).toList ++ declarators.filterMap each := by
      intro each
      rw [List.filterMap_cons]
      cases each declarator <;> rfl
    rw [first, first]
    exact rest

theorem Finds.addExternals {declarations : List ExternalDeclaration} {scan : CallableScan}
    (h : scan.Finds graph functions callbacks)
    (filled : ∀ base declarators, .declaration base declarators true ∈ declarations →
      ∀ declarator ∈ declarators, ∀ id, declarator.type = some id → graph.slot? id ≠ some none) :
    (declarations.foldl CallableScan.addExternal scan).Finds graph
      (functions ++ graph.declaredFunctions declarations)
      (callbacks ++ graph.declaredCallbacks declarations) := by
  induction declarations generalizing scan functions callbacks with
  | nil =>
    rw [TypeGraph.declaredFunctions, TypeGraph.declaredCallbacks, List.flatMap_nil,
      List.flatMap_nil, List.append_nil, List.append_nil]
    exact h
  | cons declaration declarations ih =>
    have here : (scan.addExternal declaration).Finds graph
        (functions ++ TypeGraph.declared graph.functionOf declaration)
        (callbacks ++ TypeGraph.declared graph.callbackOf declaration) := by
      cases declaration with
      | functionBody name function =>
        show scan.Finds graph (functions ++ []) (callbacks ++ [])
        rw [List.append_nil, List.append_nil]
        exact h
      | declaration base declarators isTypedef =>
        refine h.addDeclarators fun typedef => ?_
        subst typedef
        exact filled base declarators List.mem_cons_self
    have rest := ih here fun base declarators member =>
      filled base declarators (List.mem_cons_of_mem declaration member)
    rw [List.append_assoc, List.append_assoc] at rest
    rw [TypeGraph.declaredFunctions, TypeGraph.declaredCallbacks, List.flatMap_cons,
      List.flatMap_cons]
    exact rest

end CallableScan

/-- **Looking for callables finds those that the file declares**, in a graph whose typedefs
are assembled and in any later one. -/
theorem TypeGraph.finds_scanCallables {graph later : TypeGraph} (filledIn : graph.Filled later)
    (declarations : List ExternalDeclaration)
    (filled : ∀ base declarators, .declaration base declarators true ∈ declarations →
      ∀ declarator ∈ declarators, ∀ id, declarator.type = some id → graph.slot? id ≠ some none) :
    (later.scanCallables declarations).Finds graph (graph.declaredFunctions declarations)
      (graph.declaredCallbacks declarations) := by
  have start : (CallableScan.start later).Finds graph [] [] := ⟨filledIn, .nil, .nil⟩
  exact start.addExternals filled

end HeaderBind
