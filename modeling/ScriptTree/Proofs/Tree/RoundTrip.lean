import ScriptTree.Proofs.Fields
import ScriptTree.Proofs.Json.RoundTrip
import ScriptTree.Tree.Encode

namespace ScriptTree

namespace Value

/-- A value that stands as a field of the name `key` and is built from scalars, tuples, records, nodes
and literals; a literal stands only under `value`. -/
inductive IsTree : Text → Value → Prop where
  | scalar {key : Text} (s : Scalar) : IsTree key (.scalar s)
  | tuple {key : Text} {items : List Value} :
      (∀ item ∈ items, IsTree [] item) → IsTree key (.tuple items)
  | record {key : Text} {fields : Fields Value} :
    (∀ field ∈ fields, IsTree field.1 field.2) → IsTree key (.record fields)
  | node {key : Text} (tag : Text) {fields : Fields Value} :
    (∀ field ∈ fields, IsTree field.1 field.2) → IsTree key (.node (.str tag) fields)
  | regex (p flags : Text) : IsTree "value" (.regex (str p) (str flags))

mutual

/-- The document that a tree denotes: the tag of a node comes first and a field of the same name
replaces it, a repeated name keeps its first position and its last value. -/
def normal : Value → Json
  | scalar s => .leaf (encodeScalar s)
  | tuple items => .arr (normalItems items)
  | record fields => .obj (Fields.latest (normalFields fields))
  | node tag fields => .obj (Fields.latest (("type", .leaf tag) :: normalFields fields))
  | regex (scalar (.str p)) (scalar (.str flags)) => .str ("/" ++ p ++ "/" ++ flags)
  | _ => .null

def normalItems : List Value → List Json
  | [] => []
  | item :: items => normal item :: normalItems items

def normalFields : List (Text × Value) → List (Text × Json)
  | [] => []
  | (name, value) :: fields => (name, normal value) :: normalFields fields

end

theorem normalItems_eq_map (items : List Value) : normalItems items = items.map normal := by
  induction items with
  | nil => rfl
  | cons item items ih => rw [normalItems, ih, List.map_cons]

theorem normalFields_eq_map (fields : Fields Value) :
    normalFields fields = fields.map fun field => (field.1, field.2.normal) := by
  induction fields with
  | nil => rfl
  | cons field fields ih =>
    obtain ⟨name, value⟩ := field
    rw [normalFields, ih, List.map_cons]

theorem names_normalFields (fields : Fields Value) :
    Fields.names (normalFields fields) = Fields.names fields := by
  rw [normalFields_eq_map, Fields.names, List.map_map]
  rfl

theorem isFinite_encodeScalar (s : Scalar) : (encodeScalar s).IsFinite := by
  intro x hx
  cases s with
  | null => cases hx
  | bool b => cases hx
  | str t => cases hx
  | int i =>
    rw [encodeScalar, encodeInt] at hx
    split at hx
    next => cases hx
    next =>
      simp only at hx
      split at hx
      next hfinite =>
        cases hx
        exact hfinite
      next => cases hx
  | float y =>
    rw [encodeScalar, encodeFloat] at hx
    split at hx
    next => cases hx
    next hfinite =>
      split at hx
      next => cases hx
      next =>
        cases hx
        simpa using hfinite

theorem encodeItems_of_forall {items : List Value}
    (h : ∀ item ∈ items, ∀ path, encodeAt [] path item = .ok item.normal) (path : Text) (index : Nat) :
    encodeItems path index items = .ok (normalItems items) := by
  induction items generalizing index with
  | nil => rfl
  | cons item items ih =>
    have hrest := ih (fun other hmem => h other (List.mem_cons_of_mem item hmem)) (index + 1)
    rw [encodeItems, h item List.mem_cons_self, hrest]
    rfl

theorem encodeFields_of_forall {fields : Fields Value}
    (h : ∀ field ∈ fields, ∀ path, encodeAt field.1 path field.2 = .ok field.2.normal) (path : Text) :
    encodeFields path fields = .ok (normalFields fields) := by
  induction fields with
  | nil => rfl
  | cons field fields ih =>
    obtain ⟨name, value⟩ := field
    have hvalue (path : Text) : encodeAt name path value = .ok value.normal :=
      h (name, value) List.mem_cons_self path
    have hrest := ih fun other hmem => h other (List.mem_cons_of_mem _ hmem)
    rw [encodeFields, hvalue, hrest]
    rfl

/-- The document of a tree is its normal form, wherever the tree stands. -/
theorem encodeAt_of_isTree {key : Text} {v : Value} (h : IsTree key v) (path : Text) :
    encodeAt key path v = .ok v.normal := by
  induction h generalizing path with
  | scalar s => rfl
  | tuple _ ih =>
    rw [encodeAt, encodeItems_of_forall ih]
    rfl
  | record _ ih =>
    rw [encodeAt, encodeFields_of_forall ih, normal, ← Fields.dictionary_eq_latest]
    rfl
  | node tag _ ih =>
    rw [encodeAt, encodeFields_of_forall ih, normal, ← Fields.dictionary_eq_latest]
    rfl
  | regex p flags =>
    rw [encodeAt, if_pos rfl]
    rfl

theorem isFinite_normal {key : Text} {v : Value} (h : IsTree key v) : v.normal.IsFinite := by
  have hfields {fields : Fields Value} (ih : ∀ field ∈ fields, field.2.normal.IsFinite) :
      ∀ member ∈ normalFields fields, member.2.IsFinite := by
    intro member hmem
    rw [normalFields_eq_map] at hmem
    obtain ⟨field, hfield, rfl⟩ := List.mem_map.mp hmem
    exact ih field hfield
  induction h with
  | scalar s => exact .leaf (isFinite_encodeScalar s)
  | tuple _ ih =>
    refine .arr fun item hmem => ?_
    rw [normalItems_eq_map] at hmem
    obtain ⟨value, hvalue, rfl⟩ := List.mem_map.mp hmem
    exact ih value hvalue
  | record _ ih => exact .obj fun member hmem => hfields ih member (Fields.mem_of_mem_latest hmem)
  | node tag _ ih =>
    refine .obj fun member hmem => ?_
    rcases List.mem_cons.mp (Fields.mem_of_mem_latest hmem) with rfl | hmem
    · exact .leaf fun x hx => by cases hx
    · exact hfields ih member hmem
  | regex p flags => exact .leaf fun x hx => by cases hx

theorem isBlank_standardLayout : standardLayout.IsBlank := Json.isBlank_spaces 4

theorem serialize_of_isTree {v : Value} (h : v.IsTree []) (layout : Json.Layout) :
    v.serialize layout = .ok (Text.escapeSurrogates (v.normal.write layout)) := by
  rw [serialize, encode, encodeAt_of_isTree h]
  rfl

/-- The text of a tree holds no half of a pair and is read back as the normal form of the tree, with
the pairs joined. -/
theorem serialize_reads_back {v : Value} (h : v.IsTree []) :
    ∃ t, v.serialize standardLayout = .ok t ∧ (∀ c ∈ t, ¬ c.IsSurrogate) ∧
      Json.read? t = some v.normal.joined :=
  ⟨_, serialize_of_isTree h standardLayout, fun _ => Text.not_isSurrogate_of_mem_escapeSurrogates,
    Json.read?_write isBlank_standardLayout (isFinite_normal h)⟩

/-- A literal, and numbers of which one becomes an integer, one null and one a double. -/
theorem serialize_reads_back_literal :
    let two : Double := .finite false (Nat.pow 2 52) 1023 (by decide)
    let half : Double := .finite false (Nat.pow 2 52) 1021 (by decide)
    let bound : Double := .finite false (Nat.pow 5 21 * 16) 1091 (by decide)
    let tree := node (.str "Literal") [("raw", .null), ("value", regex (str "\\\"") (str "g")),
      ("raw", str [CodePoint.ofNat 0xD83D, CodePoint.ofNat 0xDE00, CodePoint.ofNat 0xDC00]),
      ("range", tuple [scalar (.float two), scalar (.float half),
        scalar (.float .nan), scalar (.int (10 ^ 21))])]
    ∃ t, serialize standardLayout tree = .ok t ∧ (∀ c ∈ t, ¬ c.IsSurrogate) ∧
      Json.read? t = some (.obj [("type", .str "Literal"),
        ("raw", .str [CodePoint.ofNat 0x1F600, CodePoint.ofNat 0xDC00]), ("value", .str "/\\\"/g"),
        ("range", .arr [.leaf (.int 2), .leaf (.float half), .null, .leaf (.float bound)])]) := by
  intro two half bound tree
  have htree : tree.IsTree [] := by
    refine .node "Literal" fun field hmem => ?_
    simp only [List.mem_cons, List.not_mem_nil, or_false] at hmem
    rcases hmem with rfl | rfl | rfl | rfl
    · exact .scalar _
    · exact .regex _ _
    · exact .scalar _
    · refine .tuple fun item hitem => ?_
      simp only [List.mem_cons, List.not_mem_nil, or_false] at hitem
      rcases hitem with rfl | rfl | rfl | rfl <;> exact .scalar _
  have htwo : encodeScalar (.float two) = .int 2 := by decide +kernel
  have hhalf : encodeScalar (.float half) = .float half := by decide +kernel
  have hbound : encodeScalar (.int (10 ^ 21)) = .float bound := by decide +kernel
  have hnormal : tree.normal = .obj [("type", .str "Literal"),
      ("raw", .str [CodePoint.ofNat 0xD83D, CodePoint.ofNat 0xDE00, CodePoint.ofNat 0xDC00]),
        ("value", .str "/\\\"/g"),
      ("range", .arr [.leaf (.int 2), .leaf (.float half), .null, .leaf (.float bound)])] := by
    simp only [tree, normal, normalFields, normalItems, htwo, hhalf, hbound]
    rfl
  obtain ⟨t, ht, hclean, hread⟩ := serialize_reads_back htree
  refine ⟨t, ht, hclean, ?_⟩
  rw [hread, hnormal]
  rfl

end Value

end ScriptTree
