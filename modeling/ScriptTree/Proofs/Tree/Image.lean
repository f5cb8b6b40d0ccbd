import ScriptTree.Proofs.Tree.Conversion
import ScriptTree.Proofs.Tree.RoundTrip

namespace ScriptTree

namespace Value

/-- A string or the absent value. -/
def IsTextOrNull (v : Value) : Prop := v = .null ∨ ∃ t, v = str t

/-- The source of the literal that the `regex` attribute describes: the pattern between slashes,
then the flags. -/
def literalText? (attributes : Fields Value) : Option Text :=
  match (regexInfo attributes).bind (Fields.get? "pattern") with
  | some (scalar (.str p)) =>
    match (regexInfo attributes).bind (Fields.get? "flags") with
    | some (scalar (.str flags)) => some ("/" ++ p ++ "/" ++ flags)
    | _ => some ("/" ++ p ++ "/")
  | _ => none

/-- The attributes of an object as a parser gives them. -/
structure IsRegular (attributes : Fields Value) : Prop where
  nodup : attributes.names.Nodup
  tag : ∀ v, Fields.get? "type" attributes = some v → ∃ t, v = str t
  pattern : ∀ v, (regexInfo attributes).bind (Fields.get? "pattern") = some v → v.IsTextOrNull
  flags : ∀ v, (regexInfo attributes).bind (Fields.get? "flags") = some v → v.IsTextOrNull
  async : ¬ (("isAsync" : Text) ∈ attributes.names ∧ ("async" : Text) ∈ attributes.names)
  await : ¬ (("allowAwait" : Text) ∈ attributes.names ∧ ("await" : Text) ∈ attributes.names)

theorem IsRegular.hasApartNames {attributes : Fields Value} (h : IsRegular attributes) :
    HasApartNames attributes :=
  ⟨h.nodup, h.async, h.await⟩

/-- An attribute that is not the `value` beside the description of a literal. -/
def IsPlain (attributes : Fields Value) (a : Text × Value) : Prop :=
  a.1 = "value" → literalText? attributes = none

/-- A value that a parser gives: scalars, lists, tuples and objects with regular attributes. The `value`
beside a `regex` attribute with a pattern may be anything, a compiled pattern above all. -/
inductive IsParsed : Value → Prop where
  | scalar (s : Scalar) : IsParsed (.scalar s)
  | list {items : List Value} : (∀ item ∈ items, IsParsed item) → IsParsed (.list items)
  | tuple {items : List Value} : (∀ item ∈ items, IsParsed item) → IsParsed (.tuple items)
  | dict {entries : Fields Value} : IsRegular entries →
      (∀ a ∈ entries, IsPlain entries a → IsParsed a.2) →
    IsParsed (.dict entries)
  | bag {attributes : Fields Value} : IsRegular attributes →
    (∀ a ∈ attributes, IsPlain attributes a → IsParsed a.2) → IsParsed (.bag attributes)

/-- The members of an object with the tag moved to the front and every name in the tree's spelling. -/
def reordered (members : Fields Json) : Fields Json :=
  (members.filter (·.1 = ("type" : Text)) ++ members.filter (·.1 ≠ ("type" : Text))).map
    fun m => (fieldName m.1, m.2)

mutual

/-- A parser's output itself as a document, in the order and the spelling of the tree and with each
literal in the place of its value. -/
def image : Value → Json
  | scalar s => .leaf (encodeScalar s)
  | list items => .arr (imageItems items)
  | tuple items => .arr (imageItems items)
  | dict entries => .obj (reordered (imageMembers (literalText? entries) entries))
  | bag attributes => .obj (reordered (imageMembers (literalText? attributes) attributes))
  | _ => .null

def imageItems : List Value → List Json
  | [] => []
  | item :: items => image item :: imageItems items

def imageMembers (literal : Option Text) : List (Text × Value) → List (Text × Json)
  | [] => []
  | (key, value) :: rest =>
    (key, if key = "value" then literal.elim (image value) Json.str else image value) ::
      imageMembers literal rest

end

theorem regexFlags_of_text {regex : Value} {flags : Text}
    (h : Fields.get? "flags" (regex.attributes?.getD []) = some (str flags)) :
      regexFlags regex = str flags := by
  rw [regexFlags, h]
  cases flags <;> rfl

theorem regexFlags_of_null {regex : Value}
    (h : ∀ flags, Fields.get? "flags" (regex.attributes?.getD []) = some flags → flags = .null) :
    regexFlags regex = str [] := by
  rw [regexFlags]
  cases hflags : Fields.get? "flags" (regex.attributes?.getD []) with
  | none => rfl
  | some flags =>
    cases h flags hflags
    rfl

section Regular

variable {attributes : Fields Value}

/-- Beside a `regex` attribute with a pattern the conversion builds the literal. -/
theorem fieldValue_of_literal (h : IsRegular attributes) {t : Text}
    (ht : literalText? attributes = some t)
    (value : Value) : ∃ p flags, fieldValue (regexBeside attributes) "value" value =
      .regex (str p) (str flags) ∧
      t = "/" ++ p ++ "/" ++ flags := by
  rw [literalText?] at ht
  split at ht
  next p hp =>
    obtain ⟨info, hinfo, _⟩ := Option.bind_eq_some_iff.mp hp
    obtain ⟨regex, hregex, hattributes⟩ := Option.bind_eq_some_iff.mp hinfo
    have hbeside : regexBeside attributes = some regex :=
      nonNull?_eq_some.mpr ⟨hregex, isNull_of_attributes? hattributes⟩
    have hfound : regexPattern? value regex = some (str p) := by
      rw [bind_regexInfo hregex] at hp
      simp only [regexPattern?, hp]
      rfl
    have hget := bind_regexInfo hregex "flags"
    rw [hbeside, fieldValue_of_pattern value hfound]
    split at ht
    next flags hf =>
      cases ht
      exact ⟨p, flags, by rw [regexFlags_of_text (hget.symm.trans hf)], rfl⟩
    next hf =>
      cases ht
      refine ⟨p, [], ?_, (List.append_nil _).symm⟩
      rw [regexFlags_of_null]
      intro flags hflags
      rcases h.flags flags (hget.trans hflags) with hnull | ⟨f, rfl⟩
      · exact hnull
      · exact absurd (hget.trans hflags) (hf f)
  next => cases ht

/-- Without a literal the value of an attribute is converted by itself. -/
theorem fieldValue_of_isPlain (h : IsRegular attributes) {a : Text × Value}
    (hplain : IsPlain attributes a) (hvalue : ∀ source, a.2 ≠ .pattern source) :
    fieldValue (regexBeside attributes) a.1 a.2 = a.2.convert := by
  by_cases hk : a.1 = "value"
  · cases hbeside : regexBeside attributes with
    | none => rfl
    | some regex =>
      obtain ⟨hregex, _⟩ := nonNull?_eq_some.mp hbeside
      refine fieldValue_of_no_pattern (regexPattern?_eq_none.mpr ⟨?_, hvalue⟩)
      have hget := bind_regexInfo hregex "pattern"
      cases hpattern : Fields.get? "pattern" (regex.attributes?.getD []) with
      | none => rfl
      | some p =>
        rcases h.pattern p (hget.trans hpattern) with rfl | ⟨t, rfl⟩
        · rfl
        · have hnot := hplain hk
          simp only [literalText?, hget.trans hpattern, str] at hnot
          split at hnot <;> cases hnot
  · exact fieldValue_of_ne hk _ _

/-- The document of an attribute's value in its object. -/
def memberImage (literal : Option Text) (key : Text) (value : Value) : Json :=
  if key = "value" then literal.elim (image value) Json.str else image value

theorem imageItems_eq_map (items : List Value) : imageItems items = items.map image := by
  induction items with
  | nil => rfl
  | cons item items ih => rw [imageItems, ih, List.map_cons]

theorem imageMembers_eq_map (literal : Option Text) (attributes : Fields Value) :
    imageMembers literal attributes = attributes.map fun a => (a.1, memberImage literal a.1 a.2) := by
  induction attributes with
  | nil => rfl
  | cons a attributes ih =>
    obtain ⟨key, value⟩ := a
    rw [imageMembers, ih, List.map_cons]
    rfl

/-- The fields of a regular object as a document: the tag, and the other attributes in their order. -/
theorem normal_assemble (h : IsRegular attributes)
    (hfields : ∀ a ∈ attributes, (fieldValue (regexBeside attributes) a.1 a.2).normal =
      memberImage (literalText? attributes) a.1 a.2) :
    (assemble (Fields.get? "type" attributes)
      (convertFields (regexBeside attributes) attributes)).normal =
      .obj (reordered (imageMembers (literalText? attributes) attributes)) := by
  have hrest : normalFields (convertFields (regexBeside attributes) attributes) =
      (attributes.filter (·.1 ≠ ("type" : Text))).map fun a =>
        (fieldName a.1, memberImage (literalText? attributes) a.1 a.2) := by
    rw [normalFields_eq_map, convertFields_eq_map, List.map_map]
    apply List.map_congr_left
    intro a ha
    rw [Function.comp_apply, hfields a (List.mem_filter.mp ha).1]
  have hnodup := nodup_fieldNames h.hasApartNames
  have himage : reordered (imageMembers (literalText? attributes) attributes) =
      (attributes.filter (·.1 = ("type" : Text))).map (fun a =>
        (fieldName a.1, memberImage (literalText? attributes) a.1 a.2)) ++
      normalFields (convertFields (regexBeside attributes) attributes) := by
    rw [hrest, reordered, imageMembers_eq_map, List.filter_map, List.filter_map, List.map_append,
      List.map_map, List.map_map]
    rfl
  cases htag : Fields.get? "type" attributes with
  | none =>
    rw [himage, Fields.filter_eq_nil htag, List.map_nil, List.nil_append, assemble, normal,
      Fields.latest_eq_self]
    · rw [hrest, Fields.names, List.map_map]
      exact (List.nodup_cons.mp hnodup).2
    · simp
  | some tag =>
    obtain ⟨t, rfl⟩ := h.tag tag htag
    rw [himage, Fields.filter_eq_singleton h.nodup htag, str, assemble, normal, Fields.latest_eq_self]
    · rfl
    · rw [hrest, Fields.names, List.map_cons, List.map_map]
      exact hnodup

theorem isTree_assemble {key : Text} (h : IsRegular attributes)
    (hfields : ∀ a ∈ attributes, IsTree (fieldName a.1) (fieldValue (regexBeside attributes) a.1 a.2)) :
    IsTree key (assemble (Fields.get? "type" attributes)
      (convertFields (regexBeside attributes) attributes)) := by
  have hall : ∀ field ∈ convertFields (regexBeside attributes) attributes, IsTree field.1 field.2 := by
    intro field hmem
    obtain ⟨a, ha, _, rfl⟩ := mem_convertFields.mp hmem
    exact hfields a ha
  cases htag : Fields.get? "type" attributes with
  | none => exact .record hall
  | some tag =>
    obtain ⟨t, rfl⟩ := h.tag tag htag
    exact .node t hall

/-- What an attribute of a regular object becomes: the literal, or the conversion of a value that is
itself a parser's output. -/
theorem fieldValue_cases (h : IsRegular attributes)
    (hparsed : ∀ a ∈ attributes, IsPlain attributes a → IsParsed a.2)
    {a : Text × Value} (ha : a ∈ attributes) :
    (∃ p flags : Text, a.1 = "value" ∧ literalText? attributes = some ("/" ++ p ++ "/" ++ flags) ∧
      fieldValue (regexBeside attributes) a.1 a.2 = .regex (str p) (str flags)) ∨
    (IsPlain attributes a ∧ fieldValue (regexBeside attributes) a.1 a.2 = a.2.convert) := by
  by_cases hplain : IsPlain attributes a
  · right
    have hvalue : ∀ source, a.2 ≠ .pattern source := by
      intro source heq
      have hp := hparsed a ha hplain
      rw [heq] at hp
      cases hp
    exact ⟨hplain, fieldValue_of_isPlain h hplain hvalue⟩
  · left
    rw [IsPlain, Classical.not_imp] at hplain
    obtain ⟨hk, hsome⟩ := hplain
    obtain ⟨t, ht⟩ := Option.ne_none_iff_exists'.mp hsome
    obtain ⟨p, flags, hvalue, htext⟩ := fieldValue_of_literal h ht a.2
    exact ⟨p, flags, hk, htext ▸ ht, hk ▸ hvalue⟩

theorem isTree_fieldValue (h : IsRegular attributes)
    (hparsed : ∀ a ∈ attributes, IsPlain attributes a → IsParsed a.2)
    (hconvert : ∀ a ∈ attributes, IsPlain attributes a → ∀ key, IsTree key a.2.convert)
    {a : Text × Value} (ha : a ∈ attributes) :
    IsTree (fieldName a.1) (fieldValue (regexBeside attributes) a.1 a.2) := by
  rcases fieldValue_cases h hparsed ha with ⟨p, flags, hk, _, hvalue⟩ | ⟨hplain, hvalue⟩
  · rw [hvalue, fieldName_eq_value hk]
    exact .regex p flags
  · rw [hvalue]
    exact hconvert a ha hplain _

theorem normal_fieldValue (h : IsRegular attributes)
    (hparsed : ∀ a ∈ attributes, IsPlain attributes a → IsParsed a.2)
    (hconvert : ∀ a ∈ attributes, IsPlain attributes a → a.2.convert.normal = a.2.image)
    {a : Text × Value} (ha : a ∈ attributes) :
    (fieldValue (regexBeside attributes) a.1 a.2).normal =
      memberImage (literalText? attributes) a.1 a.2 := by
  rw [memberImage]
  rcases fieldValue_cases h hparsed ha with ⟨p, flags, hk, hliteral, hvalue⟩ | ⟨hplain, hvalue⟩
  · rw [hvalue, if_pos hk, hliteral]
    rfl
  · rw [hvalue, hconvert a ha hplain]
    split
    next hk => rw [hplain hk, Option.elim_none]
    next => rfl

end Regular

theorem isTree_convertItems {items : List Value} (h : ∀ item ∈ items, ∀ key, IsTree key item.convert) :
    ∀ item ∈ convertItems items, IsTree [] item := by
  intro item hmem
  rw [convertItems_eq_map] at hmem
  obtain ⟨value, hvalue, rfl⟩ := List.mem_map.mp hmem
  exact h value hvalue []

theorem normal_convertItems {items : List Value}
    (h : ∀ item ∈ items, item.convert.normal = item.image) :
    normalItems (convertItems items) = imageItems items := by
  rw [normalItems_eq_map, convertItems_eq_map, imageItems_eq_map, List.map_map]
  exact List.map_congr_left h

/-- The conversion of a parser's output is a tree, whatever field it becomes. -/
theorem isTree_convert {r : Value} (h : r.IsParsed) (key : Text) : IsTree key r.convert := by
  induction h generalizing key with
  | scalar s => exact .scalar s
  | list _ ih => exact .tuple (isTree_convertItems ih)
  | tuple _ ih => exact .tuple (isTree_convertItems ih)
  | dict h hparsed ih => exact isTree_assemble h fun a ha => isTree_fieldValue h hparsed ih ha
  | bag h hparsed ih => exact isTree_assemble h fun a ha => isTree_fieldValue h hparsed ih ha

/-- The tree of a parser's output denotes the output itself, reordered and respelled. -/
theorem normal_convert {r : Value} (h : r.IsParsed) : r.convert.normal = r.image := by
  induction h with
  | scalar s => rfl
  | list _ ih => rw [convert, normal, normal_convertItems ih, image]
  | tuple _ ih => rw [convert, normal, normal_convertItems ih, image]
  | dict h hparsed ih => exact normal_assemble h fun a ha => normal_fieldValue h hparsed ih ha
  | bag h hparsed ih => exact normal_assemble h fun a ha => normal_fieldValue h hparsed ih ha

/-- The text of a converted parser's output is read back as this output with the tag of each object in
front, two names respelled, the literals in the place of their values and the pairs joined. -/
theorem serialize_convert_reads_back {r : Value} (h : r.IsParsed) :
    ∃ t, r.convert.serialize standardLayout = .ok t ∧ Json.read? t = some r.image.joined := by
  have htree := isTree_convert h []
  refine ⟨_, serialize_of_isTree htree standardLayout, ?_⟩
  rw [Json.read?_write isBlank_standardLayout (isFinite_normal htree), normal_convert h]

/-- A literal beside its pattern, and a number that becomes an integer. -/
theorem serialize_convert_reads_back_literal :
    let two : Double := .finite false (Nat.pow 2 52) 1023 (by decide)
    let half : Double := .finite false (Nat.pow 2 52) 1021 (by decide)
    let raw := bag [("isAsync", bool true), ("type", str "Literal"), ("value", pattern "a"),
      ("regex", .dict [("flags", .null), ("pattern", str "b")]),
      ("range", .list [scalar (.float two), scalar (.float half)])]
    ∃ t, raw.convert.serialize standardLayout = .ok t ∧
      Json.read? t = some
        (.obj [("type", .str "Literal"), ("async", Json.bool true), ("value", .str "/b/"),
        ("regex", .obj [("flags", Json.null), ("pattern", .str "b")]),
        ("range", .arr [.leaf (.int 2), .leaf (.float half)])]) := by
  intro two half raw
  have hinfo : IsRegular [("flags", Value.null), ("pattern", str "b")] :=
    ⟨by decide, (fun _ h => by cases h), (fun _ h => by cases h),
      (fun _ h => by cases h), by decide, by decide⟩
  have hparsed : raw.IsParsed := by
    refine .bag ⟨by decide, fun _ h => ?_, fun _ h => ?_, fun _ h => ?_, by decide, by decide⟩
      fun a ha hplain => ?_
    · cases h
      exact ⟨_, rfl⟩
    · cases h
      exact Or.inr ⟨_, rfl⟩
    · cases h
      exact Or.inl rfl
    · simp only [List.mem_cons, List.not_mem_nil, or_false] at ha
      rcases ha with rfl | rfl | rfl | rfl | rfl
      · exact .scalar _
      · exact .scalar _
      · cases hplain rfl
      · refine .dict hinfo fun b hb _ => ?_
        simp only [List.mem_cons, List.not_mem_nil, or_false] at hb
        rcases hb with rfl | rfl <;> exact .scalar _
      · refine .list fun item hitem => ?_
        simp only [List.mem_cons, List.not_mem_nil, or_false] at hitem
        rcases hitem with rfl | rfl <;> exact .scalar _
  have htwo : encodeScalar (.float two) = .int 2 := by decide +kernel
  have hhalf : encodeScalar (.float half) = .float half := by decide +kernel
  have himage : raw.image =
      .obj [("type", .str "Literal"), ("async", Json.bool true), ("value", .str "/b/"),
      ("regex", .obj [("flags", Json.null), ("pattern", .str "b")]),
      ("range", .arr [.leaf (.int 2), .leaf (.float half)])] := by
    simp only [raw, image, imageMembers, imageItems, htwo, hhalf]
    rfl
  obtain ⟨t, ht, hread⟩ := serialize_convert_reads_back hparsed
  refine ⟨t, ht, ?_⟩
  rw [hread, himage]
  rfl

end Value

end ScriptTree
