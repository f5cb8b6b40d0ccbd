import ScriptTree.Proofs.Json.Joined
import ScriptTree.Proofs.Tree.Location
import ScriptTree.Proofs.Tree.Number

namespace ScriptTree

namespace Value

mutual

/-- A document as a tree: objects become records and arrays tuples. -/
def ofJson : Json → Value
  | .leaf s => scalar s
  | .arr items => tuple (ofItems items)
  | .obj members => record (ofMembers members)

def ofItems : List Json → List Value
  | [] => []
  | item :: items => ofJson item :: ofItems items

def ofMembers : List (Text × Json) → List (Text × Value)
  | [] => []
  | (name, value) :: members => (name, ofJson value) :: ofMembers members

end

theorem ofItems_eq_map (items : List Json) : ofItems items = items.map ofJson := by
  induction items with
  | nil => rfl
  | cons item items ih => rw [ofItems, ih, List.map_cons]

theorem ofMembers_eq_map (members : Fields Json) :
    ofMembers members = members.map fun member => (member.1, ofJson member.2) := by
  induction members with
  | nil => rfl
  | cons member members ih =>
    obtain ⟨name, value⟩ := member
    rw [ofMembers, ih, List.map_cons]

theorem isTree_ofJson (key : Text) (d : Json) : IsTree key (ofJson d) := by
  induction d using Json.induction generalizing key with
  | leaf s => exact .scalar s
  | arr items ih =>
    refine .tuple fun item hmem => ?_
    rw [ofItems_eq_map] at hmem
    obtain ⟨value, hvalue, rfl⟩ := List.mem_map.mp hmem
    exact ih value hvalue []
  | obj members ih =>
    refine .record fun field hmem => ?_
    rw [ofMembers_eq_map] at hmem
    obtain ⟨member, hmember, rfl⟩ := List.mem_map.mp hmem
    exact ih member hmember member.1

/-- A document that a tree can have: numbers are encoded as they are and no name of an object stands
twice. -/
inductive IsCanonical : Json → Prop where
  | leaf {s : Scalar} : encodeScalar s = s → IsCanonical (.leaf s)
  | arr {items : List Json} : (∀ item ∈ items, IsCanonical item) → IsCanonical (.arr items)
  | obj {members : Fields Json} :
    members.names.Nodup → (∀ member ∈ members, IsCanonical member.2) → IsCanonical (.obj members)

theorem normal_ofJson {d : Json} (h : IsCanonical d) : (ofJson d).normal = d := by
  induction h with
  | leaf hs => exact congrArg Json.leaf hs
  | @arr items _ ih =>
    have hitems : items.map (normal ∘ ofJson) = items :=
      (List.map_congr_left ih).trans (List.map_id items)
    rw [ofJson, normal, normalItems_eq_map, ofItems_eq_map, List.map_map, hitems]
  | @obj members hn _ ih =>
    have hmembers : normalFields (ofMembers members) = members := by
      rw [normalFields_eq_map, ofMembers_eq_map, List.map_map]
      refine (List.map_congr_left fun member hm => ?_).trans (List.map_id members)
      exact Prod.ext rfl (ih member hm)
    rw [ofJson, normal, hmembers, Fields.latest_eq_self hn]

/-- No two names become equal when their pairs are joined. -/
def KeepsNames (v : Value) : Prop :=
  ∀ a ∈ v.keys, ∀ b ∈ v.keys, Text.joinPairs a = Text.joinPairs b → a = b

theorem eq_type_of_joinPairs {name : Text} (h : Text.joinPairs name = Text.ofString "type") :
    name = Text.ofString "type" := by
  have hsmall : ∀ c ∈ Text.joinPairs name, c.val < 0x10000 := by
    rw [h]
    decide
  rw [← h, Text.joinPairs_eq_self_of_small hsmall]

theorem encodeScalar_joined {s : Scalar} (h : encodeScalar s = s) :
    encodeScalar s.joined = s.joined := by
  cases s <;> first | rfl | exact h

theorem isCanonical_joined_latest {members : Fields Json}
    (hnames : ∀ a ∈ members.names, ∀ b ∈ members.names, Text.joinPairs a = Text.joinPairs b → a = b)
    (h : ∀ member ∈ members, IsCanonical member.2.joined) :
      IsCanonical (Json.obj (Fields.latest members)).joined := by
  rw [Json.joined, Json.joinedMembers_eq_map]
  constructor
  · have hnodup := (Fields.nodup_names_latest members).map_on fun a ha b hb =>
      hnames a (Fields.mem_names_of_mem_latest ha) b (Fields.mem_names_of_mem_latest hb)
    rw [Fields.names, List.map_map] at hnodup ⊢
    exact hnodup
  · intro member hmem
    obtain ⟨other, hother, rfl⟩ := List.mem_map.mp hmem
    exact h other (Fields.mem_of_mem_latest hother)

/-- The document of a tree with its pairs joined is one that a tree can have. -/
theorem isCanonical_joined_normal {key : Text} {v : Value} (h : IsTree key v)
    (hnames : v.Everywhere KeepsNames) :
    IsCanonical v.normal.joined := by
  -- Records and nodes need the same of their fields.
  have hfields {fields : Fields Value} (hnames : ∀ field ∈ fields, field.2.Everywhere KeepsNames)
      (ih : ∀ field ∈ fields, field.2.Everywhere KeepsNames → IsCanonical field.2.normal.joined) :
      ∀ member ∈ normalFields fields, IsCanonical member.2.joined := by
    intro member hmem
    rw [normalFields_eq_map] at hmem
    obtain ⟨field, hfield, rfl⟩ := List.mem_map.mp hmem
    exact ih field hfield (hnames field hfield)
  induction h with
  | scalar s => exact .leaf (encodeScalar_joined (encodeScalar_encodeScalar s))
  | @tuple _ items _ ih =>
    rw [normal, normalItems_eq_map, Json.joined, Json.joinedItems_eq_map, List.map_map]
    refine .arr fun item hmem => ?_
    obtain ⟨value, hvalue, rfl⟩ := List.mem_map.mp hmem
    exact ih value hvalue (hnames.of_item hvalue)
  | @record _ fields _ ih =>
    refine isCanonical_joined_latest ?_ (hfields (fun field => hnames.of_field) ih)
    rw [names_normalFields]
    exact hnames.self
  | @node _ tag fields _ ih =>
    refine isCanonical_joined_latest ?_ fun member hmem => ?_
    · have htype : Text.joinPairs (Text.ofString "type") = Text.ofString "type" := rfl
      intro a ha b hb heq
      rcases List.mem_cons.mp ha with rfl | ha <;> rcases List.mem_cons.mp hb with rfl | hb
      · rfl
      · rw [htype] at heq
        exact (eq_type_of_joinPairs heq.symm).symm
      · rw [htype] at heq
        exact eq_type_of_joinPairs heq
      · rw [← Fields.names, names_normalFields] at ha hb
        exact hnames.self a ha b hb heq
    · rcases List.mem_cons.mp hmem with rfl | hmem
      · exact .leaf rfl
      · exact hfields (fun field => hnames.of_field) ih member hmem
  | regex p flags => exact .leaf rfl

/-- The text of a value is read as a document whose own text, with objects as records, is the same. -/
theorem serialize_fixed_point {v : Value} {t : Text} (htexts : v.Everywhere HasTexts)
    (hnames : v.Everywhere KeepsNames) (h : v.serialize standardLayout = .ok t) :
    ∃ d, Json.read? t = some d ∧ (ofJson d).serialize standardLayout = .ok t := by
  have htree : v.IsTree [] := by
    refine isTree_iff_encode.mpr ⟨htexts, ?_⟩
    cases hencode : v.encode with
    | ok d => exact ⟨d, rfl⟩
    | error e =>
      rw [serialize, hencode] at h
      cases h
  cases h.symm.trans (serialize_of_isTree htree standardLayout)
  -- What is read has the pairs joined, which the final text does not show.
  refine ⟨_, Json.read?_write isBlank_standardLayout (isFinite_normal htree), ?_⟩
  rw [serialize_of_isTree (isTree_ofJson [] _) standardLayout,
    normal_ofJson (isCanonical_joined_normal htree hnames), Json.escapeSurrogates_write_joined]

theorem serialize_fixed_point_halves :
    ∃ t d, serialize standardLayout (node (.str "Literal") [("value", regex (str "\\\\") (str "g")),
        ([CodePoint.ofNat 0xD83D, CodePoint.ofNat 0xDE00], scalar (.int (10 ^ 21))),
        ([CodePoint.ofNat 0xD83D],
          str [CodePoint.ofNat 0xD83D, CodePoint.ofNat 0xDE00, CodePoint.ofNat 0xDC00])]) =
          .ok t ∧
      Json.read? t = some d ∧ (ofJson d).serialize standardLayout = .ok t := by
  have htree : IsTree [] (node (.str "Literal") [("value", regex (str "\\\\") (str "g")),
      ([CodePoint.ofNat 0xD83D, CodePoint.ofNat 0xDE00], scalar (.int (10 ^ 21))),
      ([CodePoint.ofNat 0xD83D],
        str [CodePoint.ofNat 0xD83D, CodePoint.ofNat 0xDE00, CodePoint.ofNat 0xDC00])]) := by
    refine .node "Literal" fun field hmem => ?_
    simp only [List.mem_cons, List.not_mem_nil, or_false] at hmem
    rcases hmem with rfl | rfl | rfl
    · exact .regex _ _
    · exact .scalar _
    · exact .scalar _
  have hnames : (node (.str "Literal") [("value", regex (str "\\\\") (str "g")),
      ([CodePoint.ofNat 0xD83D, CodePoint.ofNat 0xDE00], scalar (.int (10 ^ 21))),
      ([CodePoint.ofNat 0xD83D],
        str [CodePoint.ofNat 0xD83D, CodePoint.ofNat 0xDE00, CodePoint.ofNat 0xDC00])]).Everywhere
        KeepsNames := by
    refine everywhere_of_held (by unfold KeepsNames; decide) fun inner hinner => ?_
    simp only [held, List.map_cons, List.map_nil, List.mem_cons, List.not_mem_nil, or_false] at hinner
    rcases hinner with rfl | rfl | rfl <;>
      exact everywhere_of_held_eq_nil (fun name hname => by cases hname) rfl
  have hserialize := serialize_of_isTree htree standardLayout
  obtain ⟨d, hread, hagain⟩ := serialize_fixed_point htree.hasTexts hnames hserialize
  exact ⟨_, d, hserialize, hread, hagain⟩

end Value

end ScriptTree
