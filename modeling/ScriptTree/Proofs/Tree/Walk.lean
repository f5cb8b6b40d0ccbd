import ScriptTree.Proofs.Json.Objects
import ScriptTree.Proofs.Tree.Location

namespace ScriptTree

namespace Value

/-- All nodes with their addresses, in preorder and wherever they stand. -/
def nodesAt (v : Value) : List (Address × Value) :=
  (if v.isNode then [([], v)] else []) ++
    v.held.zipIdx.attach.flatMap fun x => (nodesAt x.1.1.value).map fun p => (x.1.2 :: p.1, p.2)
termination_by sizeOf v
decreasing_by exact sizeOf_lt_of_mem_held (List.fst_mem_of_mem_zipIdx x.2)

theorem nodesAt_eq (v : Value) :
    v.nodesAt = (if v.isNode then [([], v)] else []) ++
      v.held.zipIdx.flatMap fun x => (nodesAt x.1.value).map fun p => (x.2 :: p.1, p.2) := by
  rw [nodesAt]
  congr 1
  rw [List.flatMap_subtype (g := fun x => (nodesAt x.1.value).map fun p => (x.2 :: p.1, p.2))
    fun _ _ => rfl,
    List.unattach_attach]

theorem mem_nodesAt {v : Value} {a : Address} {part : Value} :
    (a, part) ∈ v.nodesAt ↔ v.part? a = some part ∧ part.isNode = true := by
  induction v using held_induction generalizing a with
  | step v ih =>
    rw [nodesAt_eq, List.mem_append]
    cases a with
    | nil =>
      have hrest : (([], part) : Address × Value) ∉
          v.held.zipIdx.flatMap fun x => (nodesAt x.1.value).map fun p => (x.2 :: p.1, p.2) := by
        simp
      rw [or_iff_left hrest, part?]
      split <;> grind
    | cons i a =>
      have hroot : (i :: a, part) ∉ if v.isNode then [([], v)] else [] := by
        split <;> simp
      rw [or_iff_right hroot, part?_cons, List.mem_flatMap]
      constructor
      · rintro ⟨⟨inner, j⟩, hinner, hmem⟩
        obtain ⟨⟨b, p⟩, hp, heq⟩ := List.mem_map.mp hmem
        cases heq
        obtain ⟨hpart, hnode⟩ := (ih inner (List.fst_mem_of_mem_zipIdx hinner)).mp hp
        exact ⟨⟨inner, List.mem_zipIdx_iff_getElem?.mp hinner, hpart⟩, hnode⟩
      · rintro ⟨⟨inner, hinner, hpart⟩, hnode⟩
        have hp := (ih inner (List.mem_of_getElem? hinner)).mpr ⟨hpart, hnode⟩
        exact ⟨(inner, i), List.mem_zipIdx_iff_getElem?.mpr hinner,
          List.mem_map.mpr ⟨(a, part), hp, rfl⟩⟩

theorem pairwise_nodesAt (v : Value) : v.nodesAt.Pairwise fun p q => p.1.Before q.1 := by
  induction v using held_induction with
  | step v ih =>
    have hnumbers : (v.held.zipIdx.map Prod.snd).Pairwise (· < ·) := by
      rw [List.zipIdx_map_snd]
      exact List.pairwise_lt_range'
    rw [nodesAt_eq, List.pairwise_append]
    refine ⟨by split <;> simp, List.pairwise_flatMap.mpr ⟨fun x hx => ?_, ?_⟩, ?_⟩
    · have hinner := ih x.1 (List.fst_mem_of_mem_zipIdx hx)
      exact List.pairwise_map.mpr (hinner.imp fun h => Address.before_cons.mpr (Or.inr ⟨rfl, h⟩))
    · refine (List.pairwise_map.mp hnumbers).imp fun {x y} hlt p hp q hq => ?_
      obtain ⟨_, -, rfl⟩ := List.mem_map.mp hp
      obtain ⟨_, -, rfl⟩ := List.mem_map.mp hq
      exact Address.before_cons.mpr (Or.inl hlt)
    · intro p hp q hq
      obtain ⟨x, -, hq⟩ := List.mem_flatMap.mp hq
      obtain ⟨_, -, rfl⟩ := List.mem_map.mp hq
      split at hp
      · rw [List.mem_singleton.mp hp]
        exact Address.before_nil_cons _ _
      · cases hp

/-- All nodes in preorder, wherever they stand. -/
def nodes (v : Value) : List Value := v.nodesAt.map (·.2)

theorem nodes_eq (v : Value) :
    v.nodes = (if v.isNode then [v] else []) ++ v.held.flatMap fun inner => inner.value.nodes := by
  have hheld : v.held.zipIdx.flatMap (fun x => x.1.value.nodes) =
      v.held.flatMap fun inner => inner.value.nodes := by
    rw [← List.flatMap_map Prod.fst fun inner : Held => inner.value.nodes, List.zipIdx_map_fst]
  rw [← hheld, nodes, nodesAt_eq, List.map_append, List.map_flatMap]
  congr 1
  · split <;> rfl
  · simp [nodes, Function.comp_def]

theorem mem_nodes {v n : Value} : n ∈ v.nodes ↔ n.isNode = true ∧ ∃ a, v.part? a = some n := by
  rw [nodes, List.mem_map]
  constructor
  · rintro ⟨⟨a, n⟩, hmem, rfl⟩
    obtain ⟨hpart, hnode⟩ := mem_nodesAt.mp hmem
    exact ⟨hnode, a, hpart⟩
  · rintro ⟨hnode, a, hpart⟩
    exact ⟨(a, n), mem_nodesAt.mpr ⟨hpart, hnode⟩, rfl⟩

/-- Nodes stand only as fields of nodes and as items of tuples that are fields of nodes. -/
def IsPlaced (root : Value) : Prop :=
  ∀ a i part, root.part? (a ++ [i]) = some part → part.isNode = true →
    ∃ holder, root.part? a = some holder ∧ (holder.isNode = true ∨ (∃ items, holder = tuple items) ∧
      ∃ b j outer, a = b ++ [j] ∧ root.part? b = some outer ∧ outer.isNode = true)

section Placed

variable {root : Value}

/-- Nodes come only from nodes: what is no node, and no tuple that a node holds, has none in it. -/
theorem IsPlaced.isNode_eq_false (h : root.IsPlaced) {a : Address}
    {v : Value} (hv : root.part? a = some v) (hnode : v.isNode = false)
    (htuple : ∀ b j outer items, a = b ++ [j] → root.part? b = some outer →
      outer.isNode = true → v ≠ tuple items)
    {c : Address} {part : Value} (hpart : v.part? c = some part) : part.isNode = false := by
  have hbelow (d : Address) : root.part? (a ++ d) = v.part? d := by
    rw [part?_append, hv]
    rfl
  -- The holder of a node stands one step above it, or two where a tuple lies between.
  induction hn : c.length using Nat.strong_induction_on generalizing c part with
  | h n ih =>
    rcases List.eq_nil_or_concat c with rfl | ⟨c, i, rfl⟩
    · cases hpart
      exact hnode
    · rw [List.concat_eq_append] at hpart hn
      rw [List.length_append, List.length_singleton] at hn
      by_contra hpartNode
      rw [← hbelow, ← List.append_assoc] at hpart
      obtain ⟨holder, hholder, hplace⟩ := h _ i part hpart (by simpa using hpartNode)
      rw [hbelow] at hholder
      rcases hplace with hplace | ⟨⟨items, rfl⟩, b, j, outer, hb, houter, hplace⟩
      · rw [ih c.length (by omega) hholder rfl] at hplace
        cases hplace
      · rcases List.eq_nil_or_concat c with rfl | ⟨c, k, rfl⟩
        · cases hholder
          rw [List.append_nil] at hb
          exact htuple b j outer items hb houter hplace rfl
        · rw [List.concat_eq_append] at hb hn
          rw [List.length_append, List.length_singleton] at hn
          rw [← List.append_assoc] at hb
          obtain ⟨rfl, -⟩ := List.append_inj' hb rfl
          rw [hbelow] at houter
          rw [ih c.length (by omega) houter rfl] at hplace
          cases hplace

theorem IsPlaced.nodes_eq_nil (h : root.IsPlaced) {a : Address} {v : Value} (hv : root.part? a = some v)
    (hnode : v.isNode = false)
    (htuple : ∀ b j outer items, a = b ++ [j] → root.part? b = some outer →
      outer.isNode = true → v ≠ tuple items) :
    v.nodes = [] := by
  refine List.eq_nil_iff_forall_not_mem.mpr fun n hn => ?_
  obtain ⟨hnode', c, hpart⟩ := mem_nodes.mp hn
  rw [h.isNode_eq_false hv hnode htuple hpart] at hnode'
  cases hnode'

theorem walk_eq_nil {v : Value} (h : v.isNode = false) : v.walk = [] := by
  cases v <;> first | rfl | cases h

theorem walkFields_eq_flatMap (fields : Fields Value) :
    walkFields fields = fields.flatMap fun field => walkField field.2 := by
  induction fields with
  | nil => rfl
  | cons field fields ih =>
    obtain ⟨name, value⟩ := field
    rw [walkFields, ih, List.flatMap_cons]

theorem walkItems_eq_flatMap (items : List Value) : walkItems items = items.flatMap walk := by
  induction items with
  | nil => rfl
  | cons item items ih => rw [walkItems, ih, List.flatMap_cons]

theorem IsPlaced.walkField_eq_nodes (h : root.IsPlaced) {a : Address}
    {v : Value} (hv : root.part? a = some v) (hself : v.isNode = true → v.walk = v.nodes)
    (hitems : ∀ inner ∈ v.held, inner.value.isNode = true → inner.value.walk = inner.value.nodes) :
    walkField v = v.nodes := by
  cases v with
  | node tag fields => exact hself rfl
  | tuple items =>
    rw [walkField, walkItems_eq_flatMap, nodes_eq, if_neg (by simp [isNode]), List.nil_append, held,
      List.flatMap_map]
    refine List.flatMap_congr fun item hitem => ?_
    have hmem := mem_held_of_item hitem
    cases hnode : item.isNode with
    | true => exact hitems ⟨none, item⟩ hmem hnode
    | false =>
      obtain ⟨k, hk⟩ := List.mem_iff_getElem?.mp hmem
      have hpart : root.part? (a ++ [k]) = some item := by
        rw [part?_append, hv]
        exact part?_cons.mpr ⟨_, hk, rfl⟩
      rw [walk_eq_nil hnode, h.nodes_eq_nil hpart hnode]
      rintro b j outer _ hb houter houterNode rfl
      obtain ⟨rfl, -⟩ := List.append_inj' hb rfl
      cases hv.symm.trans houter
      cases houterNode
  | _ => exact (h.nodes_eq_nil hv rfl (by simp)).symm

theorem IsPlaced.walk_eq_nodes (h : root.IsPlaced) (v : Value)
    {a : Address} (hv : root.part? a = some v) :
    (v.isNode = true → v.walk = v.nodes) ∧
      ∀ inner ∈ v.held, inner.value.isNode = true → inner.value.walk = inner.value.nodes := by
  -- Tuples are walked by the node that holds them, so the induction speaks of what a value holds as
  -- well.
  induction v using held_induction generalizing a with
  | step v ih =>
    have hpart {inner : Held} (hmem : inner ∈ v.held) :
        ∃ i, root.part? (a ++ [i]) = some inner.value := by
      obtain ⟨i, hi⟩ := List.mem_iff_getElem?.mp hmem
      refine ⟨i, ?_⟩
      rw [part?_append, hv]
      exact part?_cons.mpr ⟨inner, hi, rfl⟩
    refine ⟨fun hnode => ?_, fun inner hmem => ?_⟩
    · cases v with
      | node tag fields =>
        rw [walk, nodes_eq, if_pos (by rfl), walkFields_eq_flatMap, held, List.flatMap_map,
          List.singleton_append]
        congr 1
        refine List.flatMap_congr fun field hfield => ?_
        have hmem : ⟨some field.1, field.2⟩ ∈ (node tag fields).held := mem_held_of_field hfield
        obtain ⟨i, hi⟩ := hpart hmem
        obtain ⟨hself, hitems⟩ := ih _ hmem hi
        exact h.walkField_eq_nodes hi hself hitems
      | _ => cases hnode
    · obtain ⟨i, hi⟩ := hpart hmem
      exact (ih inner hmem hi).1

end Placed

theorem walkField_eq_flatMap (v : Value) : walkField v = (childrenIn v).flatMap walk := by
  cases v with
  | node tag fields => simp [walkField, childrenIn, walk]
  | tuple items =>
    rw [walkField, walkItems_eq_flatMap, childrenIn]
    induction items with
    | nil => rfl
    | cons item items ih =>
      rw [List.flatMap_cons, ih]
      cases hnode : item.isNode with
      | true => rw [List.filter_cons_of_pos hnode, List.flatMap_cons]
      | false => rw [List.filter_cons_of_neg (by simp [hnode]), walk_eq_nil hnode, List.nil_append]
  | _ => rfl

/-- The walk from a node starts with it and goes on with the walks from its children, in order. -/
theorem walk_eq_cons_children {v : Value} (h : v.isNode = true) :
    v.walk = v :: v.children.flatMap walk := by
  cases v with
  | node tag fields =>
    rw [walk, walkFields_eq_flatMap, children, List.flatMap_assoc]
    simp only [walkField_eq_flatMap]
    rfl
  | _ => cases h

/-- No name stands twice, and none is the one under which a document shows the tag. -/
structure IsNamed (v : Value) : Prop where
  distinct : v.keys.Nodup
  untyped : Text.ofString "type" ∉ v.keys

/-- The members of the object that shows a node. -/
def members (n : Value) : Fields Json := ("type", .leaf n.tag) :: normalFields n.fields

/-- The tag of a node and the names of its fields. -/
def shape (n : Value) : Json × List Text := (.leaf n.tag, n.keys)

theorem names_members (n : Value) : Fields.names n.members = Text.ofString "type" :: n.keys := by
  rw [members, Fields.names, List.map_cons]
  exact congrArg _ (names_normalFields n.fields)

/-- The objects with a `type` in the document of a tree show its nodes. -/
theorem filter_objects_normal {key : Text} {v : Value} (h : IsTree key v)
    (hnamed : v.Everywhere IsNamed) :
    v.normal.objects.filter Json.isTyped = v.nodes.map members := by
  have hfields {fields : Fields Value} (ih : ∀ field ∈ fields, field.2.Everywhere IsNamed →
      field.2.normal.objects.filter Json.isTyped = field.2.nodes.map members)
      (hnamed : ∀ field ∈ fields, field.2.Everywhere IsNamed) :
      (Json.objectsOfMembers (normalFields fields)).filter Json.isTyped =
        (fields.flatMap fun field => field.2.nodes).map members := by
    rw [Json.objectsOfMembers_eq_flatMap, normalFields_eq_map, List.flatMap_map,
      List.filter_flatMap, List.map_flatMap]
    exact List.flatMap_congr fun field hfield => ih field hfield (hnamed field hfield)
  induction h with
  | scalar s => rw [nodes_eq]; rfl
  | @tuple _ items _ ih =>
    rw [normal, Json.objects, Json.objectsOfItems_eq_flatMap, normalItems_eq_map, List.flatMap_map,
      List.filter_flatMap, nodes_eq, if_neg (by simp [isNode]), List.nil_append, held, List.flatMap_map,
      List.map_flatMap]
    exact List.flatMap_congr fun item hitem => ih item hitem (hnamed.of_item hitem)
  | @record _ fields _ ih =>
    obtain ⟨hdistinct, htype⟩ := hnamed.self
    have hdistinct : (Fields.names (normalFields fields)).Nodup := by
      rw [names_normalFields]
      exact hdistinct
    have huntyped : Json.isTyped (normalFields fields) = false := by
      rw [Json.isTyped, Fields.get?_eq_none]
      · rfl
      · rw [names_normalFields]
        exact htype
    rw [normal, Fields.latest_eq_self hdistinct, Json.objects,
      List.filter_cons_of_neg (by simp [huntyped]), hfields ih fun field => hnamed.of_field,
      nodes_eq, if_neg (by simp [isNode]), List.nil_append, held, List.flatMap_map]
  | @node _ tag fields _ ih =>
    obtain ⟨hdistinct, htype⟩ := hnamed.self
    have hdistinct : (Fields.names (node (.str tag) fields).members).Nodup := by
      rw [names_members]
      exact List.nodup_cons.mpr ⟨htype, hdistinct⟩
    have hdocument : (node (.str tag) fields).normal = .obj (node (.str tag) fields).members :=
      congrArg Json.obj (Fields.latest_eq_self hdistinct)
    rw [hdocument, Json.objects, List.filter_cons_of_pos (by rfl), members, Json.objectsOfMembers,
      Json.objects, List.nil_append, Value.fields, hfields ih fun field => hnamed.of_field,
      nodes_eq, if_pos (by rfl), List.singleton_append, List.map_cons, held, List.flatMap_map]
    rfl
  | regex p flags => rw [nodes_eq]; rfl

theorem typed?_members {n : Value} (h : Text.ofString "type" ∉ n.keys) :
    Json.typed? n.members = some n.shape := by
  have hother : ∀ member ∈ normalFields n.fields, member.1 ≠ Text.ofString "type" := by
    intro member hmem heq
    refine h ?_
    rw [keys, ← names_normalFields, ← heq]
    exact List.mem_map_of_mem hmem
  have hfilter : n.members.filter (·.1 ≠ Text.ofString "type") = normalFields n.fields := by
    rw [members, List.filter_cons_of_neg (by simp), List.filter_eq_self]
    simpa using hother
  rw [Json.typed?, hfilter, names_normalFields, members, Fields.get?, if_pos rfl]
  rfl

theorem isOfType_members (tag : Text) (n : Value) :
    Json.isOfType tag n.members = decide (n.tag = .str tag) := by
  rw [Json.isOfType, members, Fields.get?, if_pos rfl]

/-- A syntax tree as a document shows it node by node. -/
structure IsSyntaxTree (tree : Value) : Prop where
  isNode : tree.isNode = true
  hasTexts : tree.Everywhere HasTexts
  isEncoded : ∃ document, tree.encode = .ok document
  isNamed : tree.Everywhere IsNamed
  isPlaced : tree.IsPlaced

/-- The walk visits every node once, in preorder, and what it visits are the objects with a `type`
in the document, by type and names of the other members and in the order of their opening braces. -/
theorem walk_eq_objects {tree : Value} (h : tree.IsSyntaxTree) :
    ∃ (document : Json) (text : Text) (tokens : List Token) (placed : List (Address × Value)),
    tree.encode = .ok document ∧ tree.serialize standardLayout = .ok text ∧
      text.tokens? = some tokens ∧
      List.Forall₂ (fun members start => (Json.obj members).joined.tokens <+: start) document.objects
        (Token.openings tokens) ∧
      tree.walk.map shape = document.objects.filterMap Json.typed? ∧
      placed.map Prod.snd = tree.walk ∧ placed.Pairwise (fun p q => Address.Before p.1 q.1) ∧
      (∀ a part, (a, part) ∈ placed ↔ tree.part? a = some part ∧ part.isNode = true) ∧
      ∀ tag, (tree.nodesOfType tag).map shape =
        (document.objects.filter (Json.isOfType tag)).filterMap Json.typed? := by
  have htree : tree.IsTree [] := isTree_iff_encode.mpr ⟨h.hasTexts, h.isEncoded⟩
  have hwalk : tree.walk = tree.nodes := (h.isPlaced.walk_eq_nodes tree (a := []) rfl).1 h.isNode
  have hobjects := filter_objects_normal htree h.isNamed
  have htyped {n : Value} (hn : n ∈ tree.nodes) : Json.typed? n.members = some n.shape := by
    obtain ⟨-, a, hpart⟩ := mem_nodes.mp hn
    exact typed?_members (h.isNamed a n hpart).untyped
  have hshape {ns : List Value} (hns : ∀ n ∈ ns, n ∈ tree.nodes) :
      (ns.map members).filterMap Json.typed? = ns.map shape := by
    rw [List.filterMap_map, ← List.filterMap_eq_map]
    exact List.filterMap_congr fun n hn => htyped (hns n hn)
  refine ⟨tree.normal, _, _, tree.nodesAt, encodeAt_of_isTree htree [],
    serialize_of_isTree htree standardLayout,
    Json.tokens?_write isBlank_standardLayout (isFinite_normal htree),
      Json.openings_tokens _, ?_, hwalk.symm,
    pairwise_nodesAt tree, fun a part => mem_nodesAt, fun tag => ?_⟩
  · rw [← Json.filterMap_typed?, hobjects, hwalk, hshape fun n hn => hn]
  · have htag : Json.isOfType tag ∘ members = fun n => decide (n.tag = .str tag) :=
      funext fun n => isOfType_members tag n
    rw [← Json.filter_isOfType, hobjects, List.filter_map,
      hshape fun n hn => List.mem_of_mem_filter hn, htag, nodesOfType, hwalk]

theorem walk_eq_objects_program :
    ∃ tree document, tree = node (.str "Program")
      [("body", tuple [null, node (.str "EmptyStatement") []])] ∧
      tree.IsSyntaxTree ∧ tree.encode = .ok document ∧
      tree.walk.map shape = document.objects.filterMap Json.typed? := by
  have hencode : IsTree []
      (node (.str "Program") [("body", tuple [null, node (.str "EmptyStatement") []])]) := by
    refine .node "Program" fun field hfield => ?_
    cases List.mem_singleton.mp hfield
    refine .tuple fun item hitem => ?_
    simp only [List.mem_cons, List.not_mem_nil, or_false] at hitem
    rcases hitem with rfl | rfl
    · exact .scalar _
    · exact .node "EmptyStatement" fun field hfield => by cases hfield
  have htree : IsSyntaxTree
      (node (.str "Program") [("body", tuple [null, node (.str "EmptyStatement") []])]) := by
    refine ⟨rfl, hencode.hasTexts, ⟨_, encodeAt_of_isTree hencode []⟩, ?_, fun a i part hpart _ => ?_⟩
    · refine everywhere_of_held ⟨by decide, by decide⟩ fun inner hinner => ?_
      cases List.mem_singleton.mp hinner
      refine everywhere_of_held ⟨by decide, by decide⟩ fun inner hinner => ?_
      simp only [held, List.map_cons, List.map_nil, List.mem_cons, List.not_mem_nil, or_false] at hinner
      rcases hinner with rfl | rfl <;>
        exact everywhere_of_held_eq_nil ⟨by decide, by decide⟩ rfl
    · -- The holder is the program, its body, or below one of the items, which hold nothing.
      rcases a with _ | ⟨j, _ | ⟨k, a⟩⟩
      · exact ⟨_, rfl, Or.inl rfl⟩
      · obtain ⟨inner, hinner, -⟩ := part?_cons.mp hpart
        cases List.mem_singleton.mp (List.mem_of_getElem? hinner)
        exact ⟨_, part?_cons.mpr ⟨_, hinner, rfl⟩, Or.inr ⟨⟨_, rfl⟩, [], j, _, rfl, rfl, rfl⟩⟩
      · obtain ⟨inner, hinner, hpart⟩ := part?_cons.mp hpart
        cases List.mem_singleton.mp (List.mem_of_getElem? hinner)
        obtain ⟨item, hitem, hpart⟩ := part?_cons.mp hpart
        have hitem := List.mem_of_getElem? hitem
        simp only [held, List.map_cons, List.map_nil, List.mem_cons, List.not_mem_nil,
          or_false] at hitem
        rcases hitem with rfl | rfl <;> cases a <;> cases hpart
  obtain ⟨document, _, _, _, hdocument, -, -, -, hwalk, -⟩ := walk_eq_objects htree
  exact ⟨_, document, rfl, htree, hdocument, hwalk⟩

end Value

end ScriptTree
