import ScriptTree.Proofs.Tree.Refusal
import ScriptTree.Proofs.Tree.Walk

namespace ScriptTree

namespace Value

/-- A raw value in which no two attributes of an object become fields of one name. -/
inductive IsUnambiguous : Value → Prop where
  | scalar (s : Scalar) : IsUnambiguous (.scalar s)
  | list {items : List Value} : (∀ item ∈ items, IsUnambiguous item) → IsUnambiguous (.list items)
  | tuple {items : List Value} : (∀ item ∈ items, IsUnambiguous item) → IsUnambiguous (.tuple items)
  | dict {entries : Fields Value} : HasApartNames entries → (∀ a ∈ entries, IsUnambiguous a.2) →
    IsUnambiguous (.dict entries)
  | bag {attributes : Fields Value} : HasApartNames attributes → (∀ a ∈ attributes, IsUnambiguous a.2) →
    IsUnambiguous (.bag attributes)
  | pattern (source : Text) : IsUnambiguous (.pattern source)
  | foreign (kind : Text) : IsUnambiguous (.foreign kind)

theorem fields_assemble (tag : Option Value) (fields : Fields Value) :
    (assemble tag fields).fields = fields := by
  unfold assemble
  split <;> rfl

theorem held_assemble (tag : Option Value) (fields : Fields Value) :
    (assemble tag fields).held = fields.map fun field => ⟨some field.1, field.2⟩ := by
  unfold assemble
  split <;> rfl

theorem isNamed_of_fields_eq_nil {v : Value} (h : v.fields = []) : v.IsNamed := by
  constructor <;> simp [keys, h, Fields.names]

/-- The fields of a converted object have distinct names, none of them `type`. -/
theorem isNamed_assemble {attributes : Fields Value} (h : HasApartNames attributes)
    (tag regex : Option Value) :
    (assemble tag (convertFields regex attributes)).IsNamed := by
  have hkeys : (assemble tag (convertFields regex attributes)).keys =
      (attributes.filter (·.1 ≠ ("type" : Text))).map fun a => fieldName a.1 := by
    rw [keys, fields_assemble, convertFields_eq_map, Fields.names, List.map_map]
    rfl
  obtain ⟨huntyped, hdistinct⟩ := List.nodup_cons.mp (nodup_fieldNames h)
  exact ⟨hkeys ▸ hdistinct, hkeys ▸ huntyped⟩

theorem everywhere_isNamed_assemble {attributes : Fields Value} (h : HasApartNames attributes)
    (ih : ∀ a ∈ attributes, a.2.convert.Everywhere IsNamed) (tag : Option Value) :
    (assemble tag (convertFields (regexBeside attributes) attributes)).Everywhere IsNamed := by
  refine everywhere_of_held (isNamed_assemble h tag _) fun inner hinner => ?_
  rw [held_assemble] at hinner
  obtain ⟨field, hfield, rfl⟩ := List.mem_map.mp hinner
  obtain ⟨a, ha, -, rfl⟩ := mem_convertFields.mp hfield
  by_cases hreplaced : IsReplaced attributes a
  · obtain ⟨p, flags, heq⟩ := fieldValue_of_isReplaced hreplaced
    simp only [heq]
    exact everywhere_of_held_eq_nil (isNamed_of_fields_eq_nil rfl) rfl
  · simp only [fieldValue_of_not_isReplaced hreplaced]
    exact ih a ha

theorem everywhere_isNamed_items {items : List Value}
    (ih : ∀ item ∈ items, item.convert.Everywhere IsNamed) :
    (tuple (convertItems items)).Everywhere IsNamed := by
  refine everywhere_of_held (isNamed_of_fields_eq_nil rfl) fun inner hinner => ?_
  rw [held, convertItems_eq_map, List.map_map] at hinner
  obtain ⟨item, hitem, rfl⟩ := List.mem_map.mp hinner
  exact ih item hitem

/-- Conversion names the fields of every node and record apart. -/
theorem everywhere_isNamed_convert {r : Value} (h : r.IsUnambiguous) :
    r.convert.Everywhere IsNamed := by
  induction h with
  | scalar s => exact everywhere_of_held_eq_nil (isNamed_of_fields_eq_nil rfl) rfl
  | list _ ih => exact everywhere_isNamed_items ih
  | tuple _ ih => exact everywhere_isNamed_items ih
  | dict hnames _ ih => exact everywhere_isNamed_assemble hnames ih _
  | bag hnames _ ih => exact everywhere_isNamed_assemble hnames ih _
  | pattern source => exact everywhere_of_held_eq_nil (isNamed_of_fields_eq_nil rfl) rfl
  | foreign kind => exact everywhere_of_held_eq_nil (isNamed_of_fields_eq_nil rfl) rfl

/-- The document of a value under a name, wherever the value stands. -/
def EncodesTo (key : Text) (v : Value) (d : Json) : Prop := ∀ path, encodeAt key path v = .ok d

/-- A member of an object for a field. -/
def FieldEncodesTo (field : Text × Value) (member : Text × Json) : Prop :=
  field.1 = member.1 ∧ EncodesTo field.1 field.2 member.2

section Encoded

variable {key path : Text} {v : Value} {d : Json}

theorem encodeItems_ok {items : List Value} {index : Nat} {ds : List Json}
    (h : encodeItems path index items = .ok ds)
    (ih : ∀ item ∈ items, ∀ path d, encodeAt [] path item = .ok d → EncodesTo [] item d) :
    List.Forall₂ (EncodesTo []) items ds := by
  induction items generalizing index ds with
  | nil =>
    cases h
    exact .nil
  | cons item items ihs =>
    rw [encodeItems] at h
    cases hitem : encodeAt [] (itemPath path index) item with
    | error e => simp [hitem, bind, Except.bind] at h
    | ok d =>
      rw [hitem] at h
      obtain ⟨rest, hrest, rfl⟩ := bind_ok_eq_ok.mp h
      exact .cons (ih item List.mem_cons_self _ _ hitem)
        (ihs hrest fun other hmem => ih other (List.mem_cons_of_mem item hmem))

theorem encodeFields_ok {fields : Fields Value} {members : Fields Json}
    (h : encodeFields path fields = .ok members)
    (ih : ∀ field ∈ fields, ∀ path d, encodeAt field.1 path field.2 = .ok d →
      EncodesTo field.1 field.2 d) :
    List.Forall₂ FieldEncodesTo fields members := by
  induction fields generalizing members with
  | nil =>
    cases h
    exact .nil
  | cons field fields ihs =>
    obtain ⟨name, value⟩ := field
    rw [encodeFields] at h
    cases hvalue : encodeAt name (fieldPath path name) value with
    | error e => simp [hvalue, bind, Except.bind] at h
    | ok d =>
      rw [hvalue] at h
      obtain ⟨rest, hrest, rfl⟩ := bind_ok_eq_ok.mp h
      exact .cons ⟨rfl, ih (name, value) List.mem_cons_self _ _ hvalue⟩
        (ihs hrest fun other hmem => ih other (List.mem_cons_of_mem _ hmem))

theorem encodeItems_of_forall₂ {items : List Value} {ds : List Json}
    (h : List.Forall₂ (EncodesTo []) items ds)
    (path : Text) (index : Nat) : encodeItems path index items = .ok ds := by
  induction h generalizing index with
  | nil => rfl
  | cons hitem _ ih =>
    rw [encodeItems, hitem, ih]
    rfl

theorem encodeFields_of_forall₂ {fields : Fields Value} {members : Fields Json}
    (h : List.Forall₂ FieldEncodesTo fields members) (path : Text) :
      encodeFields path fields = .ok members := by
  induction h with
  | nil => rfl
  | @cons field member _ _ hfield _ ih =>
    obtain ⟨name, value⟩ := field
    obtain ⟨name', d⟩ := member
    obtain ⟨rfl, hvalue⟩ := hfield
    rw [encodeFields, hvalue, ih]
    rfl

/-- The document of a value does not depend on where the value stands, if there is one. -/
theorem encodesTo_of_ok (h : encodeAt key path v = .ok d) : EncodesTo key v d := by
  induction v using held_induction generalizing key path d with
  | step v ih =>
    intro path'
    cases v with
    | scalar s => exact h
    | tuple items =>
      obtain ⟨ds, hitems, rfl⟩ := bind_ok_eq_ok.mp h
      have hall := encodeItems_ok hitems fun item hmem _ _ hd => ih _ (mem_held_of_item hmem) hd
      exact bind_ok_eq_ok.mpr ⟨ds, encodeItems_of_forall₂ hall path' 0, rfl⟩
    | record fields =>
      obtain ⟨members, hfields, rfl⟩ := bind_ok_eq_ok.mp h
      have hall := encodeFields_ok hfields fun field hmem _ _ hd =>
        ih _ (mem_held_of_field (v := record fields) hmem) hd
      exact bind_ok_eq_ok.mpr ⟨members, encodeFields_of_forall₂ hall path', rfl⟩
    | node tag fields =>
      obtain ⟨members, hfields, rfl⟩ := bind_ok_eq_ok.mp h
      have hall := encodeFields_ok hfields fun field hmem _ _ hd =>
        ih _ (mem_held_of_field (v := node tag fields) hmem) hd
      exact bind_ok_eq_ok.mpr ⟨members, encodeFields_of_forall₂ hall path', rfl⟩
    | regex p flags =>
      rw [encodeAt] at h ⊢
      split at h
      next hkey => rw [if_pos hkey, h]
      next => cases h
    | list items => cases h
    | dict entries => cases h
    | bag attributes => cases h
    | pattern source => cases h
    | foreign kind => cases h

theorem EncodesTo.items {items : List Value} (h : EncodesTo key (tuple items) d) :
    ∃ ds, d = .arr ds ∧ List.Forall₂ (EncodesTo []) items ds := by
  obtain ⟨ds, hitems, rfl⟩ := bind_ok_eq_ok.mp (h [])
  exact ⟨ds, rfl, encodeItems_ok hitems fun _ _ _ _ hd => encodesTo_of_ok hd⟩

theorem names_of_forall₂ {fields : Fields Value} {members : Fields Json}
    (h : List.Forall₂ FieldEncodesTo fields members) : members.names = fields.names := by
  induction h with
  | nil => rfl
  | cons hfield _ ih => exact List.cons_eq_cons.mpr ⟨hfield.1.symm, ih⟩

theorem get?_of_forall₂ {fields : Fields Value} {members : Fields Json} {name : Text} {value : Value}
    (h : List.Forall₂ FieldEncodesTo fields members) (hget : Fields.get? name fields = some value) :
    ∃ d, Fields.get? name members = some d ∧ EncodesTo name value d := by
  induction h with
  | nil => cases hget
  | @cons field member _ _ hfield _ ih =>
    obtain ⟨first, v⟩ := field
    obtain ⟨first', d⟩ := member
    obtain ⟨rfl, hv⟩ := hfield
    rw [Fields.get?] at hget ⊢
    split at hget
    next hname =>
      cases hget
      subst hname
      exact ⟨d, if_pos rfl, hv⟩
    next hname =>
      rw [if_neg hname]
      exact ih hget

/-- A node or a record. -/
def IsObject (v : Value) : Prop := (∃ fields, v = record fields) ∨ ∃ tag fields, v = node tag fields

/-- The object of a node or record has one member for each field, in order, after the tag of a node. -/
theorem EncodesTo.members (h : EncodesTo key v d) (hobject : v.IsObject) (hnamed : v.IsNamed) :
    ∃ tag members : Fields Json, d = .obj (tag ++ members) ∧ (∀ m ∈ tag, m.1 = "type") ∧
      List.Forall₂ FieldEncodesTo v.fields members := by
  rcases hobject with ⟨fields, rfl⟩ | ⟨tag, fields, rfl⟩
  · obtain ⟨members, hfields, rfl⟩ := bind_ok_eq_ok.mp (h [])
    have hall := encodeFields_ok hfields fun _ _ _ _ hd => encodesTo_of_ok hd
    have hnodup : (Fields.names members).Nodup := by
      rw [names_of_forall₂ hall]
      exact hnamed.distinct
    refine ⟨[], members, ?_, by simp, hall⟩
    rw [Fields.dictionary_eq_latest, Fields.latest_eq_self hnodup, List.nil_append]
  · obtain ⟨members, hfields, rfl⟩ := bind_ok_eq_ok.mp (h [])
    have hall := encodeFields_ok hfields fun _ _ _ _ hd => encodesTo_of_ok hd
    have hnodup : (Fields.names ((Text.ofString "type", Json.leaf tag) :: members)).Nodup := by
      rw [Fields.names, List.map_cons, ← Fields.names, names_of_forall₂ hall]
      exact List.nodup_cons.mpr ⟨hnamed.untyped, hnamed.distinct⟩
    refine ⟨[("type", .leaf tag)], members, ?_, by simp, hall⟩
    rw [Fields.dictionary_eq_latest, Fields.latest_eq_self hnodup, List.singleton_append]

theorem exists_of_forall₂ {α β : Type} {p : α → β → Prop} {as : List α}
    {bs : List β} (h : List.Forall₂ p as bs) {a : α} (ha : a ∈ as) : ∃ b ∈ bs, p a b := by
  induction h with
  | nil => cases ha
  | cons hab _ ih =>
    rcases List.mem_cons.mp ha with rfl | ha
    · exact ⟨_, List.mem_cons_self, hab⟩
    · obtain ⟨b, hb, hab⟩ := ih ha
      exact ⟨b, List.mem_cons_of_mem _ hb, hab⟩

/-- What a value holds directly has its document inside that of the value. -/
theorem EncodesTo.held (h : EncodesTo key v d) (hnamed : v.IsNamed)
    {inner : Held} (hinner : inner ∈ v.held) :
    ∃ d', EncodesTo inner.key inner.value d' ∧ d'.objects ⊆ d.objects := by
  have hfields (hobject : v.IsObject) {field : Text × Value} (hfield : field ∈ v.fields) :
      ∃ d', EncodesTo field.1 field.2 d' ∧ d'.objects ⊆ d.objects := by
    obtain ⟨tag, members, rfl, -, hall⟩ := h.members hobject hnamed
    obtain ⟨member, hmember, -, hvalue⟩ := exists_of_forall₂ hall hfield
    refine ⟨member.2, hvalue, fun object hmem => ?_⟩
    rw [Json.objects, Json.objectsOfMembers_eq_flatMap]
    exact List.mem_cons_of_mem _
      (List.mem_flatMap.mpr ⟨member, List.mem_append_right tag hmember, hmem⟩)
  cases v with
  | tuple items =>
    obtain ⟨ds, rfl, hall⟩ := h.items
    obtain ⟨item, hitem, rfl⟩ := List.mem_map.mp hinner
    obtain ⟨d', hd', hitem⟩ := exists_of_forall₂ hall hitem
    refine ⟨d', hitem, fun object hmem => ?_⟩
    rw [Json.objects, Json.objectsOfItems_eq_flatMap]
    exact List.mem_flatMap.mpr ⟨d', hd', hmem⟩
  | record fields =>
    obtain ⟨field, hfield, rfl⟩ := List.mem_map.mp hinner
    exact hfields (Or.inl ⟨fields, rfl⟩) hfield
  | node tag fields =>
    obtain ⟨field, hfield, rfl⟩ := List.mem_map.mp hinner
    exact hfields (Or.inr ⟨tag, fields, rfl⟩) hfield
  | _ => cases hinner

/-- Every part of a value has its document inside that of the value. -/
theorem EncodesTo.part (h : EncodesTo key v d) (hnamed : v.Everywhere IsNamed) {a : Address} {x : Value}
    (hx : v.part? a = some x) : ∃ key' d', EncodesTo key' x d' ∧ d'.objects ⊆ d.objects := by
  induction a generalizing v key d with
  | nil =>
    cases hx
    exact ⟨key, d, h, List.Subset.refl _⟩
  | cons i a ih =>
    obtain ⟨inner, hinner, hx⟩ := part?_cons.mp hx
    have hmem := List.mem_of_getElem? hinner
    obtain ⟨d', hd', hsub⟩ := h.held hnamed.self hmem
    obtain ⟨key'', d'', hd'', hsub'⟩ := ih hd' (hnamed.of_held hmem) hx
    exact ⟨key'', d'', hd'', List.Subset.trans hsub' hsub⟩

/-- The object of a node or record shows a field under each of its names, and the value that a
lookup finds. -/
theorem EncodesTo.lookup (h : EncodesTo key v d) (hobject : v.IsObject) (hnamed : v.IsNamed) :
    ∃ members : Fields Json, d = .obj members ∧ ∀ name ≠ Text.ofString "type",
      (name ∈ members.names ↔ name ∈ v.keys) ∧
      ∀ value, v.get? name = some value → ∃ d', members.get? name = some d' ∧
        EncodesTo name value d' := by
  obtain ⟨tag, members, rfl, htag, hall⟩ := h.members hobject hnamed
  refine ⟨tag ++ members, rfl, fun name hname => ?_⟩
  have hnot : name ∉ tag.names := by
    intro hmem
    obtain ⟨m, hm, rfl⟩ := List.mem_map.mp hmem
    exact hname (htag m hm)
  constructor
  · rw [Fields.names, List.map_append, List.mem_append, ← Fields.names, or_iff_right hnot,
      ← Fields.names, names_of_forall₂ hall]
    rfl
  · intro value hget
    rw [Fields.get?_append, Fields.get?_eq_none hnot, Option.none_or]
    exact get?_of_forall₂ hall hget

end Encoded

/-- In a converted tree no node or record has a name twice or a field `type`. If the tree has a
text, the object that its document shows for a node or record has, but for `type`, the names of its
fields, and under each the document of what a lookup of the name finds. -/
theorem lookup_agrees {r : Value} (h : r.IsUnambiguous) :
    r.convert.Everywhere IsNamed ∧
    ∀ layout text, r.convert.serialize layout = .ok text →
      ∃ document, r.convert.encode = .ok document ∧
        ∀ a x, r.convert.part? a = some x → x.IsObject →
          ∃ members ∈ document.objects, (∀ key path, encodeAt key path x = .ok (.obj members)) ∧
            ∀ name ≠ Text.ofString "type",
              (name ∈ members.names ↔ name ∈ x.keys) ∧
              ∀ value, x.get? name = some value →
                ∃ d, members.get? name = some d ∧ ∀ path, encodeAt name path value = .ok d := by
  have hnamed := everywhere_isNamed_convert h
  refine ⟨hnamed, fun layout text htext => ?_⟩
  obtain ⟨document, hdocument, -⟩ := bind_ok_eq_ok.mp htext
  refine ⟨document, hdocument, fun a x hx hobject => ?_⟩
  obtain ⟨key, d, hd, hsub⟩ := (encodesTo_of_ok hdocument).part hnamed hx
  obtain ⟨members, rfl, hlookup⟩ := hd.lookup hobject (hnamed a x hx)
  refine ⟨members, hsub ?_, fun key' path => ?_, hlookup⟩
  · rw [Json.objects]
    exact List.mem_cons_self
  · -- The name under which it stands matters to a literal alone.
    rcases hobject with ⟨fields, rfl⟩ | ⟨tag, fields, rfl⟩
    · exact hd path
    · exact hd path

theorem lookup_agrees_async :
    ∃ document, (convert (bag [("isAsync", bool true), ("type", str "Program"),
        ("body", list [dict [("async", bool false), ("allowAwait", null)]])])).encode = .ok document ∧
      ∃ members ∈ document.objects, Fields.get? "async" members = some (.bool false) ∧
        ("await" : Text) ∈ Fields.names members := by
  have hinner : IsUnambiguous (dict [("async", bool false), ("allowAwait", null)]) := by
    refine .dict ⟨by decide, by decide, by decide⟩ fun a ha => ?_
    simp only [List.mem_cons, List.not_mem_nil, or_false] at ha
    rcases ha with rfl | rfl <;> exact .scalar _
  have hraw : IsUnambiguous (bag [("isAsync", bool true), ("type", str "Program"),
      ("body", list [dict [("async", bool false), ("allowAwait", null)]])]) := by
    refine .bag ⟨by decide, by decide, by decide⟩ fun a ha => ?_
    simp only [List.mem_cons, List.not_mem_nil, or_false] at ha
    rcases ha with rfl | rfl | rfl
    · exact .scalar _
    · exact .scalar _
    · refine .list fun item hitem => ?_
      rw [List.mem_singleton.mp hitem]
      exact hinner
  obtain ⟨document, hdocument, hlookup⟩ := (lookup_agrees hraw).2 standardLayout _ rfl
  obtain ⟨members, hmembers, -, hfields⟩ := hlookup [1, 0] _ rfl (Or.inl ⟨_, rfl⟩)
  obtain ⟨d, hget, hd⟩ := (hfields "async" (by decide)).2 (bool false) rfl
  cases (hd []).symm.trans rfl
  exact ⟨document, hdocument, members, hmembers, hget, (hfields "await" (by decide)).1.mpr (by decide)⟩

end Value

end ScriptTree
