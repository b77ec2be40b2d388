/-
# HeaderBind.Proofs.Clang.Visit — a visit of a declaration of a tagged type

A visit gives the key of the declaration its node, if the key has none yet
(`Identifies.visit`).  Where it is the first of its key with a definition, it opens the
key (`Tells.open`), reads the definition, which may come back to the same key, and closes
it with the members or constants that were read (`Tells.close`).  Any other visit
changes nothing more (`Tells.settle`).  `taggedNodeWithin_reads` joins the three.
-/
import HeaderBind.Proofs.Clang.Reads

namespace HeaderBind.Clang

set_option autoImplicit false

open Outcome

theorem lookup_cons_eq {α : Type} (key other : String) (a : α) (entries : List (String × α)) :
    ((key, a) :: entries).lookup other = if other = key then some a else entries.lookup other := by
  by_cases same : other = key
  · rw [if_pos same, same, List.lookup_cons_self]
  · simp [List.lookup_cons, beq_false_of_ne same, same]

section Visit

variable {unit : SourceUnit} {opened : List String} {visited : List Cursor} {cursor : Cursor}
  {id : NodeId} {state middle : Conversion}

/-! ## A node for every key -/

theorem Identifies.node?_some (names : Identifies visited state) {key : String}
    (found : state.nodes.lookup key = some id) : ∃ node, state.graph.node? id = some node := by
  obtain ⟨first, type, -, tagged, -⟩ := names.named key id found
  exact ⟨_, TypeGraph.tagged?_eq_some_iff.1 tagged⟩

theorem bareNode_grows (done : (bareNode cursor).run state = .ok id middle) :
    state.Grows middle := by
  have extended := (bareNode_extends cursor).ok done
  refine .of_kept extended.size extended.nodes ?_ ?_
  · rcases bareNode_cases cursor state with ⟨other, run, -⟩ | ⟨fault, run⟩ | ⟨-, tag, -, run⟩
    · cases run.symm.trans done
      exact fun _ _ node => node
    · cases run.symm.trans done
    · cases run.symm.trans done
      intro other type node
      rw [TypeGraph.node?_add_of_lt _ _ (TypeGraph.node?_lt node), node]
  · rw [bareNode_defined done]
    exact List.Subset.refl _

/-- The key has a node already. -/
theorem Identifies.again (names : Identifies visited state)
    (found : state.nodes.lookup cursor.key = some id) : Identifies (visited ++ [cursor]) state where
  known key := by
    rw [names.known, List.map_append, List.mem_append, List.map_singleton, List.mem_singleton]
    refine ⟨.inl, fun either => either.elim (fun member => member) ?_⟩
    rintro rfl
    exact (names.known _).1 ⟨id, found⟩
  apart := names.apart
  owned := names.owned
  named key node there := by
    obtain ⟨first, type, isFirst, rest⟩ := names.named key node there
    exact ⟨first, type, firstOf?_append isFirst, rest⟩

/-- The state with a node for the key of a declaration. -/
def Conversion.withNode (state : Conversion) (cursor : Cursor) (tag : Tag) : Conversion :=
  { state with
    graph := (state.graph.add (.tagged (cursor.bareType tag))).2
    nodes := (cursor.key, ⟨state.graph.size⟩) :: state.nodes }

/-- The key gets a node. -/
theorem Identifies.add {tag : Tag} (names : Identifies visited state)
    (fresh : state.nodes.lookup cursor.key = none) (isTag : cursor.kind.tag? = some tag) :
    Identifies (visited ++ [cursor]) (state.withNode cursor tag) where
  known key := by
    simp only [Conversion.withNode, lookup_cons_eq, List.map_append, List.mem_append,
      List.map_singleton, List.mem_singleton, ← names.known]
    by_cases same : key = cursor.key <;> simp [same]
  apart key other node := by
    have old : ∀ {key}, state.nodes.lookup key ≠ some ⟨state.graph.size⟩ := by
      intro key found
      obtain ⟨type, there⟩ := names.node?_some found
      exact absurd (TypeGraph.node?_lt there) (Nat.lt_irrefl _)
    simp only [Conversion.withNode, lookup_cons_eq]
    split <;> split
    · rename_i one two
      exact fun _ _ => one.trans two.symm
    · exact fun new there => absurd (there.trans new.symm) old
    · exact fun there new => absurd (there.trans new.symm) old
    · exact names.apart key other node
  owned node type tagged := by
    have added := TypeGraph.tagged?_eq_some_iff.1 tagged
    rw [Conversion.withNode, TypeGraph.node?_add] at added
    split at added
    · rename_i isNew
      refine ⟨cursor.key, ?_⟩
      rw [Conversion.withNode, List.lookup_cons_self, ← isNew]
    · obtain ⟨key, found⟩ := names.owned node type (TypeGraph.tagged?_eq_some_iff.2 added)
      refine ⟨key, ?_⟩
      rw [Conversion.withNode, lookup_cons_eq, if_neg, found]
      rintro rfl
      cases fresh.symm.trans found
  named key node found := by
    rw [Conversion.withNode, lookup_cons_eq] at found
    split at found
    · rename_i same
      cases Option.some.inj found
      have unvisited : key ∉ visited.map Cursor.key := by
        rw [← names.known]
        rintro ⟨node, there⟩
        cases (same ▸ fresh).symm.trans there
      refine ⟨cursor, _, firstOf?_concat_self unvisited same.symm, ?_, tag, isTag, rfl, rfl⟩
      exact TypeGraph.tagged?_eq_some_iff.2 (TypeGraph.node?_add_self _ _)
    · obtain ⟨first, type, isFirst, tagged, name⟩ := names.named key node found
      refine ⟨first, type, firstOf?_append isFirst, ?_, name⟩
      have there := TypeGraph.tagged?_eq_some_iff.1 tagged
      rw [TypeGraph.tagged?_eq_some_iff, Conversion.withNode,
        TypeGraph.node?_add_of_lt _ _ (TypeGraph.node?_lt there), there]

theorem Identifies.visit (names : Identifies visited state)
    (done : (bareNode cursor).run state = .ok id middle) :
    Identifies (visited ++ [cursor]) middle := by
  rcases bareNode_cases cursor state with
    ⟨other, run, found⟩ | ⟨fault, run⟩ | ⟨fresh, tag, isTag, run⟩
  · cases run.symm.trans done
    exact names.again found
  · cases run.symm.trans done
  · cases run.symm.trans done
    exact names.add fresh isTag

/-- Every node has the body it had, and a new one has none. -/
theorem Tells.body_visit (tells : Tells unit opened visited state)
    (done : (bareNode cursor).run state = .ok id middle) {key : String} {node : NodeId}
    {type : TaggedType} (found : middle.nodes.lookup key = some node) (closed : key ∉ opened)
    (tagged : middle.graph.tagged? node = some type) :
    HasBody unit middle (definitionOf? unit visited key) type := by
  have grown := bareNode_grows done
  rcases bareNode_cases cursor state with ⟨other, run, -⟩ | ⟨fault, run⟩ | ⟨fresh, tag, isTag, run⟩
  · cases run.symm.trans done
    exact tells.body key node type found closed tagged
  · cases run.symm.trans done
  · cases run.symm.trans done
    rw [lookup_cons_eq] at found
    split at found
    · rename_i same
      cases Option.some.inj found
      have new := (TypeGraph.node?_add_self state.graph _).symm.trans
        (TypeGraph.tagged?_eq_some_iff.1 tagged)
      have unmet : definitionOf? unit visited key = none := by
        rw [definitionOf?_eq_none_iff]
        intro other member isKey
        have visitedKey := List.mem_map.2 ⟨other, member, isKey.trans same⟩
        obtain ⟨old, found⟩ := (tells.known _).2 visitedKey
        cases fresh.symm.trans found
      rw [unmet]
      cases new
      exact .undefined rfl rfl
    · obtain ⟨first, old, -, there, -⟩ := tells.named key node found
      have kept := grown.toRetains
      have inside := TypeGraph.tagged?_eq_some_iff.1 there
      have same := (TypeGraph.node?_add_of_lt state.graph (.tagged (cursor.bareType tag))
        (TypeGraph.node?_lt inside)).symm.trans (TypeGraph.tagged?_eq_some_iff.1 tagged)
      cases inside.symm.trans same
      exact (tells.body key node type found closed there).retained kept

/-- A visit that brings no new definition. -/
theorem Tells.settle (tells : Tells unit opened visited state)
    (done : (bareNode cursor).run state = .ok id middle)
    (settled : (definitionOf? unit visited cursor.key).isSome = true ∨
      unit.definition? cursor = none) :
    Tells unit opened (visited ++ [cursor]) middle where
  toIdentifies := tells.toIdentifies.visit done
  marked key := by
    rw [bareNode_defined done, definitionOf?_concat_of_known settled]
    exact tells.marked key
  once := bareNode_defined done ▸ tells.once
  begun := bareNode_defined done ▸ tells.begun
  body key node type found closed tagged := by
    rw [definitionOf?_concat_of_known settled]
    exact tells.body_visit done found closed tagged

theorem Tells.settle_visits (tells : Tells unit opened visited state)
    (done : (bareNode cursor).run state = .ok id middle)
    (settled : (definitionOf? unit visited cursor.key).isSome = true ∨
      unit.definition? cursor = none) :
    ∃ last, Visits unit visited [cursor] last ∧ Tells unit opened last middle := by
  refine ⟨_, .single ?_, tells.settle done settled⟩
  rw [next_of_settled settled]
  exact .done _

/-! ## Opening and closing a key -/

namespace Conversion

/-- The node has another tagged type. -/
def fill (state : Conversion) (id : NodeId) (type : TaggedType) : Conversion :=
  { state with graph := state.graph.set id (.tagged type) }

theorem mark_grows (state : Conversion) (key : String) : state.Grows (state.mark key) :=
  .of_kept (Nat.le_refl _) (fun _ _ found => found) (fun _ _ node => node)
    (List.subset_cons_self _ _)

variable {filled old type : TaggedType} {other : NodeId}

theorem tagged?_fill_self (tagged : state.graph.tagged? id = some old) :
    (state.fill id filled).graph.tagged? id = some filled :=
  TypeGraph.tagged?_set_self tagged (Nat.le_refl _) filled

theorem node?_fill_ne (different : other ≠ id) :
    (state.fill id filled).graph.node? other = state.graph.node? other :=
  TypeGraph.node?_set_ne state.graph different _

theorem tagged?_fill_ne (different : other ≠ id) :
    (state.fill id filled).graph.tagged? other = state.graph.tagged? other := by
  refine Option.ext fun type => ?_
  rw [TypeGraph.tagged?_eq_some_iff, TypeGraph.tagged?_eq_some_iff, node?_fill_ne different]

theorem fill_retains (tagged : state.graph.tagged? id = some old) :
    state.Retains (state.fill id filled) where
  size := by simp [fill]
  nodes _ _ found := found
  untagged other node there noTag := by
    rw [node?_fill_ne, there]
    rintro rfl
    cases (TypeGraph.tagged?_eq_some_iff.1 tagged).symm.trans there
    exact noTag old rfl

end Conversion

theorem Tells.open {definition : Cursor} (tells : Tells unit opened visited state)
    (done : (bareNode cursor).run state = .ok id middle)
    (fresh : definitionOf? unit visited cursor.key = none)
    (leads : unit.definition? cursor = some definition) :
    Tells unit (cursor.key :: opened) (visited ++ [cursor]) (middle.mark cursor.key) where
  toIdentifies :=
    have names := tells.toIdentifies.visit done
    ⟨names.known, names.apart, names.owned, names.named⟩
  marked key := by
    have before := tells.marked key
    rw [← bareNode_defined done] at before
    rw [Conversion.mark, List.mem_cons, before]
    by_cases same : cursor.key = key
    · subst same
      simp [definitionOf?_concat_self, leads]
    · rw [definitionOf?_concat_ne same]
      exact or_iff_right (Ne.symm same)
  once := by
    refine List.nodup_cons.2 ⟨?_, bareNode_defined done ▸ tells.once⟩
    rw [bareNode_defined done, tells.marked, fresh]
    exact Bool.false_ne_true
  begun key member := by
    refine (List.mem_cons.1 member).elim (fun same => same ▸ List.mem_cons_self) fun earlier => ?_
    have before := tells.begun key earlier
    rw [← bareNode_defined done] at before
    exact List.mem_cons_of_mem _ before
  body key node type found closed tagged := by
    obtain ⟨other, still⟩ := not_or.1 (mt List.mem_cons.2 closed)
    rw [definitionOf?_concat_ne (Ne.symm other)]
    exact (tells.body_visit done found still tagged).retained
      (middle.mark_grows cursor.key).toRetains

theorem Tells.close {key : String} {definition : Cursor} {old filled : TaggedType}
    (tells : Tells unit (key :: opened) visited state)
    (found : state.nodes.lookup key = some id) (node : state.graph.tagged? id = some old)
    (sameTag : filled.tag = old.tag) (sameName : filled.name = old.name)
    (known : definitionOf? unit visited key = some definition)
    (body : HasBody unit state (some definition) filled) :
    Tells unit opened visited (state.fill id filled) where
  known := tells.known
  apart := tells.apart
  owned other type tagged := by
    by_cases same : other = id
    · exact ⟨key, same ▸ found⟩
    · rw [Conversion.tagged?_fill_ne same] at tagged
      exact tells.owned other type tagged
  named otherKey other there := by
    obtain ⟨first, type, isFirst, tagged, tag, isTag, hasTag, hasName⟩ :=
      tells.named otherKey other there
    by_cases same : other = id
    · subst same
      cases node.symm.trans tagged
      exact ⟨first, filled, isFirst, Conversion.tagged?_fill_self node, tag, isTag,
        sameTag.trans hasTag, sameName.trans hasName⟩
    · refine ⟨first, type, isFirst, ?_, tag, isTag, hasTag, hasName⟩
      rw [Conversion.tagged?_fill_ne same, tagged]
  marked := tells.marked
  once := tells.once
  begun otherKey member := tells.begun otherKey (List.mem_cons_of_mem key member)
  body otherKey other type there closed tagged := by
    have kept : state.Retains (state.fill id filled) := Conversion.fill_retains node
    by_cases same : otherKey = key
    · subst same
      cases found.symm.trans there
      cases (Conversion.tagged?_fill_self node).symm.trans tagged
      rw [known]
      exact body.retained kept
    · have apart : other ≠ id := by
        rintro rfl
        exact same (tells.apart _ _ _ there found)
      rw [Conversion.tagged?_fill_ne apart] at tagged
      have outer : otherKey ∉ key :: opened := fun member =>
        (List.mem_cons.1 member).elim same closed
      exact (tells.body otherKey other type there outer tagged).retained kept

/-! ## A visit -/

/-- Whether a key is one of enumerations is told by its node. -/
theorem Identifies.isEnum_iff (names : Identifies visited state) {key : String}
    {type : TaggedType} (found : state.nodes.lookup key = some id)
    (node : state.graph.tagged? id = some type) :
    tagOf? visited key = some .enum ↔ type.isRecord = false := by
  obtain ⟨first, same, isFirst, there, tag, isTag, rfl, -⟩ := names.named key id found
  cases node.symm.trans there
  rw [tagOf?, isFirst, Option.bind_some, isTag, Option.some_inj, TaggedType.isRecord]
  cases type.tag <;> simp [Tag.isRecord]

/-- What a definition is read for: the members of a record, or constants. -/
theorem fillNode_reads {bound : Nat} {tagged : Cursor → Convert NodeId} {key : String}
    {definition : Cursor} {after : Conversion}
    (each : ∀ cursor, unit.Holds cursor → Reads unit bound (tagged cursor) [cursor]
      (IsNodeOf cursor))
    (tells : Tells unit opened visited state) (left : (unread unit state.defined).length < bound)
    (found : state.nodes.lookup key = some id)
    (bare : ∀ type, state.graph.tagged? id = some type → HasBody unit state none type)
    (done : (fillNode unit tagged id definition).run state = .ok () after) :
    ∃ last inner old filled,
      Visits unit visited
        (if tagOf? visited key = some .enum then [] else memberReferences unit definition) last ∧
      Tells unit opened last inner ∧ state.Grows inner ∧ state.graph.tagged? id = some old ∧
      filled.tag = old.tag ∧ filled.name = old.name ∧
      HasBody unit inner (some definition) filled ∧ after = inner.fill id filled := by
  obtain ⟨first, type, -, node, -⟩ := tells.named key id found
  have isEnum := tells.isEnum_iff found node
  have noBody := bare type node
  obtain ⟨text, noted, note, read⟩ := fillNode_ok done node
  obtain ⟨grown, graph, nodes, defined⟩ := note_grows text note
  have told := tells.same grown.toRetains nodes defined fun id => by rw [graph]
  rcases read with ⟨isRecord, members, inner, given, rfl⟩ | ⟨noRecord, rfl⟩
  · obtain ⟨last, visits, toldInner, grownInner, shown⟩ :=
      membersOf_reads each definition opened visited noted members inner told
        (defined ▸ left) given
    refine ⟨last, inner, type, { type with members := some members }, ?_, toldInner,
      grown.trans grownInner, node, rfl, rfl, ?_, rfl⟩
    · rwa [if_neg (by rw [isEnum, isRecord]; exact Bool.noConfusion)]
    · cases noBody with
      | undefined _ noConstants => exact .record isRecord rfl shown noConstants
  · refine ⟨visited, noted, type, { type with constants := constantsOf unit definition }, ?_, told,
      grown, node, rfl, rfl, ?_, rfl⟩
    · rw [if_pos (isEnum.2 noRecord)]
      exact .done visited
    · cases noBody with
      | undefined noMembers _ =>
        exact .enumeration noRecord (constantsOf_shows unit definition) noMembers

/-- A visit that leads on to a definition. -/
theorem definition_reads {fuel : Nat} {tagged : Cursor → Convert NodeId} {definition : Cursor}
    {after : Conversion}
    (each : ∀ cursor, unit.Holds cursor → Reads unit fuel (tagged cursor) [cursor]
      (IsNodeOf cursor))
    (holds : unit.Holds cursor) (tells : Tells unit opened visited state)
    (left : (unread unit state.defined).length < fuel + 1)
    (named : (bareNode cursor).run state = .ok id middle)
    (unmet : definitionOf? unit visited cursor.key = none)
    (leads : unit.definition? cursor = some definition)
    (done : (fillNode unit tagged id definition).run (middle.mark cursor.key) = .ok () after) :
    ∃ last, Visits unit visited [cursor] last ∧ Tells unit opened last after ∧
      state.Grows after := by
  have unknown : cursor.key ∉ state.defined := by
    rw [tells.marked, unmet]
    exact Bool.false_ne_true
  have found := bareNode_key named
  have marks := middle.mark_grows cursor.key
  have fewer : (unread unit (middle.mark cursor.key).defined).length < fuel := by
    have step := unread_cons_lt holds (Option.isSome_iff_exists.2 ⟨_, leads⟩) unknown
    rw [Conversion.mark, bareNode_defined named]
    exact Nat.lt_of_lt_of_le step (Nat.le_of_lt_succ left)
  have bare : ∀ type, (middle.mark cursor.key).graph.tagged? id = some type →
      HasBody unit (middle.mark cursor.key) none type := by
    intro type node
    have body := tells.body_visit named found (mt (tells.begun _) unknown) node
    rw [unmet] at body
    exact body.retained marks.toRetains
  obtain ⟨last, inner, old, filled, visits, told, grownInner, node, sameTag, sameName, body, rfl⟩ :=
    fillNode_reads each (tells.open named unmet leads) fewer found bare done
  have grown := ((bareNode_grows named).trans marks).trans grownInner
  -- reading the definition came back to the key, but left its node as it was
  have nodeInner : inner.graph.tagged? id = some old :=
    TypeGraph.tagged?_eq_some_iff.2 (grownInner.settled _ _ _ List.mem_cons_self found
      (TypeGraph.tagged?_eq_some_iff.1 node))
  have foundInner := grownInner.nodes _ _ found
  have met : definitionOf? unit last cursor.key = some definition := by
    obtain ⟨more, rfl⟩ := visits.continues
    refine definitionOf?_append_of_some ?_
    rw [definitionOf?_concat_self, unmet, leads, Option.none_or]
  refine ⟨last, .single ?_, told.close foundInner nodeInner sameTag sameName met body, ?_⟩
  · rwa [next_of_definition unmet leads]
  · refine ⟨grown.toRetains.trans (Conversion.fill_retains nodeInner), grown.defined, ?_⟩
    intro key other type member there isType
    have apart : other ≠ id := by
      rintro rfl
      exact unknown (told.apart _ _ _ foundInner (grown.nodes _ _ there) ▸ member)
    rw [Conversion.node?_fill_ne apart]
    exact grown.settled key other type member there isType

theorem taggedNodeWithin_reads (unit : SourceUnit) (fuel : Nat) {cursor : Cursor}
    (holds : unit.Holds cursor) :
    Reads unit fuel (taggedNodeWithin unit fuel cursor) [cursor] (IsNodeOf cursor) := by
  induction fuel generalizing cursor with
  | zero => exact fun _ _ _ _ _ _ left => absurd left (Nat.not_lt_zero _)
  | succ fuel ih =>
    intro opened visited state id after tells left done
    have node := taggedNodeWithin_key done
    obtain ⟨middle, named, ⟨known, rfl⟩ | ⟨undefined, rfl⟩ | ⟨definition, unknown, leads, fill⟩⟩ :=
      taggedLevel_ok done
    · rw [bareNode_defined named, tells.marked] at known
      obtain ⟨last, visits, told⟩ := tells.settle_visits named (.inl known)
      exact ⟨last, visits, told, bareNode_grows named, node⟩
    · obtain ⟨last, visits, told⟩ := tells.settle_visits named (.inr undefined)
      exact ⟨last, visits, told, bareNode_grows named, node⟩
    · have unmet : definitionOf? unit visited cursor.key = none := by
        rwa [bareNode_defined named, tells.marked, Bool.not_eq_true, Option.isSome_eq_false_iff,
          Option.isNone_iff_eq_none] at unknown
      obtain ⟨last, visits, told, grown⟩ :=
        definition_reads (fun _ holds => ih holds) holds tells left named unmet leads fill
      exact ⟨last, visits, told, grown, node⟩

/-- **A visit**, from any state: the number of levels never cuts it short. -/
theorem taggedNode_reads (unit : SourceUnit) {cursor : Cursor} (holds : unit.Holds cursor) :
    Reads unit (unit.cursors.size + 1) (taggedNode unit cursor) [cursor] (IsNodeOf cursor) :=
  taggedNodeWithin_reads unit _ holds

end Visit

end HeaderBind.Clang
