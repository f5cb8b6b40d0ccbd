import ScriptTree.Proofs.Tree.Conversion
import ScriptTree.Proofs.Tree.Location

namespace ScriptTree

namespace Value

/-- A value without a part that belongs to the tree proper only. -/
inductive IsRaw : Value → Prop where
  | scalar (s : Scalar) : IsRaw (.scalar s)
  | list {items : List Value} : (∀ item ∈ items, IsRaw item) → IsRaw (.list items)
  | tuple {items : List Value} : (∀ item ∈ items, IsRaw item) → IsRaw (.tuple items)
  | dict {entries : Fields Value} : (∀ a ∈ entries, IsRaw a.2) → IsRaw (.dict entries)
  | bag {attributes : Fields Value} : (∀ a ∈ attributes, IsRaw a.2) → IsRaw (.bag attributes)
  | pattern (source : Text) : IsRaw (.pattern source)
  | foreign (kind : Text) : IsRaw (.foreign kind)

/-- A compiled pattern or an object of some other class. -/
def IsOpaque (v : Value) : Prop := (∃ source, v = .pattern source) ∨ ∃ kind, v = .foreign kind

/-- An attribute that a literal replaces: the `value` beside a `regex` attribute that is not null, where
`regex` is an object with a pattern or the value is a compiled pattern. -/
def IsReplaced (attributes : Fields Value) (a : Text × Value) : Prop :=
  a.1 = "value" ∧ ∃ regex, Fields.get? "regex" attributes = some regex ∧ regex.isNull = false ∧
    ((∃ info p, regex.attributes? = some info ∧ Fields.get? "pattern" info = some p ∧
      p.isNull = false) ∨
      ∃ source, a.2 = .pattern source)

/-- A part at a live position of a whole: in it are all items, and of an object all attributes but the
tag and a replaced one. -/
inductive IsLive (part : Value) : Value → Prop where
  | self : IsLive part part
  | list {items : List Value} {item : Value} :
      item ∈ items → IsLive part item → IsLive part (.list items)
  | tuple {items : List Value} {item : Value} :
      item ∈ items → IsLive part item → IsLive part (.tuple items)
  | dict {entries : Fields Value} {a : Text × Value} :
    a ∈ entries → a.1 ≠ "type" → ¬ IsReplaced entries a → IsLive part a.2 → IsLive part (.dict entries)
  | bag {attributes : Fields Value} {a : Text × Value} :
    a ∈ attributes → a.1 ≠ "type" → ¬ IsReplaced attributes a →
      IsLive part a.2 → IsLive part (.bag attributes)

section Attributes

variable {attributes : Fields Value} {a : Text × Value}

theorem fieldValue_of_isReplaced (h : IsReplaced attributes a) :
    ∃ p flags, fieldValue (regexBeside attributes) a.1 a.2 = .regex p flags := by
  obtain ⟨hk, regex, hregex, hnull, hpattern⟩ := h
  have hbeside : regexBeside attributes = some regex := nonNull?_eq_some.mpr ⟨hregex, hnull⟩
  cases hp : regexPattern? a.2 regex with
  | some p => exact ⟨p, _, by rw [hk, hbeside, fieldValue_of_pattern a.2 hp]⟩
  | none =>
    obtain ⟨hnone, hvalue⟩ := regexPattern?_eq_none.mp hp
    rcases hpattern with ⟨info, p, hinfo, hget, hpnull⟩ | ⟨source, hsource⟩
    · rw [hinfo, Option.getD_some, nonNull?_eq_some.mpr ⟨hget, hpnull⟩] at hnone
      cases hnone
    · exact absurd hsource (hvalue source)

theorem fieldValue_of_not_isReplaced (h : ¬ IsReplaced attributes a) :
    fieldValue (regexBeside attributes) a.1 a.2 = a.2.convert := by
  by_cases hk : a.1 = "value"
  · cases hbeside : regexBeside attributes with
    | none => rfl
    | some regex =>
      obtain ⟨hregex, hnull⟩ := nonNull?_eq_some.mp hbeside
      refine fieldValue_of_no_pattern (regexPattern?_eq_none.mpr ⟨?_, fun source hsource => ?_⟩)
      · cases hp : nonNull? (Fields.get? "pattern" (regex.attributes?.getD [])) with
        | none => rfl
        | some p =>
          obtain ⟨hget, hpnull⟩ := nonNull?_eq_some.mp hp
          cases hinfo : regex.attributes? with
          | none =>
            rw [hinfo] at hget
            cases hget
          | some info =>
            rw [hinfo] at hget
            exact absurd ⟨hk, regex, hregex, hnull, Or.inl ⟨info, p, hinfo, hget, hpnull⟩⟩ h
      · exact h ⟨hk, regex, hregex, hnull, Or.inr ⟨source, hsource⟩⟩
  · exact fieldValue_of_ne hk _ _

end Attributes

theorem encodeItems_error {items : List Value} {path : Text} {index : Nat} {e : EncodeError}
    (h : encodeItems path index items = .error e) :
      ∃ item ∈ items, ∃ path, encodeAt [] path item = .error e := by
  obtain ⟨_, inner, hinner, he, -⟩ := firstRefusal?_eq_some (encodeItems_eq_error.mp h)
  obtain ⟨item, hitem, rfl⟩ := List.mem_map.mp (List.mem_of_getElem? hinner)
  exact ⟨item, hitem, _, he⟩

theorem encodeItems_refused {items : List Value} {item : Value} (hmem : item ∈ items)
    (h : ∀ path, ∃ e, encodeAt [] path item = .error e) (path : Text) (index : Nat) :
    ∃ e, encodeItems path index items = .error e := by
  have hheld : (⟨none, item⟩ : Held) ∈ items.map fun item => ⟨none, item⟩ :=
    List.mem_map.mpr ⟨item, hmem, rfl⟩
  obtain ⟨_, hinner⟩ := List.mem_iff_getElem?.mp hheld
  obtain ⟨e, he⟩ := exists_firstRefusal? hinner h
  exact ⟨e, encodeItems_eq_error.mpr he⟩

theorem encodeFields_error {fields : Fields Value} {path : Text} {e : EncodeError}
    (h : encodeFields path fields = .error e) :
    ∃ field ∈ fields, ∃ path, encodeAt field.1 path field.2 = .error e := by
  obtain ⟨_, inner, hinner, he, -⟩ := firstRefusal?_eq_some (encodeFields_eq_error (i := 0).mp h)
  obtain ⟨field, hfield, rfl⟩ := List.mem_map.mp (List.mem_of_getElem? hinner)
  exact ⟨field, hfield, _, he⟩

theorem encodeFields_refused {fields : Fields Value} {field : Text × Value} (hmem : field ∈ fields)
    (h : ∀ path, ∃ e, encodeAt field.1 path field.2 = .error e) (path : Text) :
    ∃ e, encodeFields path fields = .error e := by
  have hheld : (⟨some field.1, field.2⟩ : Held) ∈ fields.map fun field => ⟨some field.1, field.2⟩ :=
    List.mem_map.mpr ⟨field, hmem, rfl⟩
  obtain ⟨_, hinner⟩ := List.mem_iff_getElem?.mp hheld
  obtain ⟨e, he⟩ := exists_firstRefusal? hinner h
  exact ⟨e, (encodeFields_eq_error (i := 0)).mpr he⟩

theorem encodeAt_tuple_error {key path : Text} {items : List Value} {e : EncodeError} :
    encodeAt key path (.tuple items) = .error e ↔ encodeItems path 0 items = .error e := by
  rw [encodeAt]
  exact bind_ok_eq_error

/-- An object is refused for one of its fields, whether it has a tag or not. -/
theorem encodeAt_assemble_error {key path : Text} {tag : Option Value}
    {fields : Fields Value} {e : EncodeError} :
    encodeAt key path (assemble tag fields) = .error e ↔ encodeFields path fields = .error e := by
  unfold assemble
  split
  · rw [encodeAt]
    exact bind_ok_eq_error
  · rw [encodeAt]
    exact bind_ok_eq_error

/-- A value whose refusals, wherever it stands, name a live opaque part of it. -/
def RefusesLive (r : Value) : Prop :=
  ∀ {key path : Text} {e : EncodeError}, encodeAt key path r.convert = .error e →
    IsLive e.value r ∧ e.value.IsOpaque

/-- A value that is refused wherever it stands. -/
def IsRefused (r : Value) : Prop := ∀ key path, ∃ e, encodeAt key path r.convert = .error e

theorem convertItems_error {items : List Value} {path : Text} {e : EncodeError}
    (h : ∀ item ∈ items, RefusesLive item) (he : encodeItems path 0 (convertItems items) = .error e) :
    ∃ item ∈ items, IsLive e.value item ∧ e.value.IsOpaque := by
  obtain ⟨item, hitem, path, hrefused⟩ := encodeItems_error he
  rw [convertItems_eq_map] at hitem
  obtain ⟨value, hvalue, rfl⟩ := List.mem_map.mp hitem
  exact ⟨value, hvalue, h value hvalue hrefused⟩

/-- A literal that the conversion builds is never what is refused. -/
theorem convertFields_error {attributes : Fields Value} {path : Text} {e : EncodeError}
    (h : ∀ a ∈ attributes, RefusesLive a.2)
    (he : encodeFields path (convertFields (regexBeside attributes) attributes) = .error e) :
    ∃ a ∈ attributes, a.1 ≠ "type" ∧ ¬ IsReplaced attributes a ∧
      IsLive e.value a.2 ∧ e.value.IsOpaque := by
  obtain ⟨field, hfield, path, hrefused⟩ := encodeFields_error he
  obtain ⟨a, ha, hne, rfl⟩ := mem_convertFields.mp hfield
  by_cases hreplaced : IsReplaced attributes a
  · obtain ⟨p, flags, hvalue⟩ := fieldValue_of_isReplaced hreplaced
    rw [hvalue, fieldName_eq_value hreplaced.1, encodeAt, if_pos rfl] at hrefused
    cases hrefused
  · rw [fieldValue_of_not_isReplaced hreplaced] at hrefused
    obtain ⟨hlive, hclass⟩ := h a ha hrefused
    exact ⟨a, ha, hne, hreplaced, hlive, hclass⟩

/-- A refused value of a conversion is a live part of what has been converted, and no literal. -/
theorem IsRaw.refusesLive {r : Value} (h : r.IsRaw) : RefusesLive r := by
  induction h with
  | scalar s =>
    intro key path e he
    cases he
  | list _ ih =>
    intro key path e he
    obtain ⟨item, hitem, hlive, hclass⟩ := convertItems_error ih (encodeAt_tuple_error.mp he)
    exact ⟨.list hitem hlive, hclass⟩
  | tuple _ ih =>
    intro key path e he
    obtain ⟨item, hitem, hlive, hclass⟩ := convertItems_error ih (encodeAt_tuple_error.mp he)
    exact ⟨.tuple hitem hlive, hclass⟩
  | dict _ ih =>
    intro key path e he
    obtain ⟨a, ha, hne, hreplaced, hlive, hclass⟩ :=
      convertFields_error ih (encodeAt_assemble_error.mp he)
    exact ⟨.dict ha hne hreplaced hlive, hclass⟩
  | bag _ ih =>
    intro key path e he
    obtain ⟨a, ha, hne, hreplaced, hlive, hclass⟩ :=
      convertFields_error ih (encodeAt_assemble_error.mp he)
    exact ⟨.bag ha hne hreplaced hlive, hclass⟩
  | pattern source =>
    intro key path e he
    cases he
    exact ⟨.self, Or.inl ⟨source, rfl⟩⟩
  | foreign kind =>
    intro key path e he
    cases he
    exact ⟨.self, Or.inr ⟨kind, rfl⟩⟩

theorem IsRefused.convertItems {items : List Value} {item : Value}
    (h : IsRefused item) (hitem : item ∈ items)
    (path : Text) : ∃ e, encodeItems path 0 (convertItems items) = .error e := by
  rw [convertItems_eq_map]
  exact encodeItems_refused (List.mem_map_of_mem hitem) (h []) path 0

theorem IsRefused.convertFields {attributes : Fields Value} {a : Text × Value} (h : IsRefused a.2)
    (ha : a ∈ attributes) (hne : a.1 ≠ "type") (hreplaced : ¬ IsReplaced attributes a) (path : Text) :
    ∃ e, encodeFields path (convertFields (regexBeside attributes) attributes) = .error e := by
  have hfield := fieldValue_of_not_isReplaced hreplaced
  exact encodeFields_refused (mem_convertFields.mpr ⟨a, ha, hne, rfl⟩)
    (fun path => by rw [hfield]; exact h _ path) path

/-- An opaque value at a live position is reached by the writer, which refuses it or something before
it. -/
theorem IsLive.isRefused {part r : Value} (h : IsLive part r) (hpart : part.IsOpaque) :
    IsRefused r := by
  induction h with
  | self =>
    intro key path
    rcases hpart with ⟨source, rfl⟩ | ⟨kind, rfl⟩ <;> exact ⟨_, rfl⟩
  | list hitem _ ih =>
    exact fun key path => (ih.convertItems hitem path).imp fun _ => encodeAt_tuple_error.mpr
  | tuple hitem _ ih =>
    exact fun key path => (ih.convertItems hitem path).imp fun _ => encodeAt_tuple_error.mpr
  | dict ha hne hreplaced _ ih =>
    exact fun key path => (ih.convertFields ha hne hreplaced path).imp
      fun _ => encodeAt_assemble_error.mpr
  | bag ha hne hreplaced _ ih =>
    exact fun key path => (ih.convertFields ha hne hreplaced path).imp
      fun _ => encodeAt_assemble_error.mpr

theorem serialize_eq_error {v : Value} {layout : Json.Layout} {e : EncodeError} :
    v.serialize layout = .error e ↔ encodeAt [] [] v = .error e :=
  bind_ok_eq_error

/-- The text of a converted raw value is refused exactly when a compiled pattern or a foreign object
stands at a live position, and then one of these is what is refused, never a literal. -/
theorem serialize_convert_error_iff {r : Value} (h : r.IsRaw) (layout : Json.Layout) :
    ((∃ e, r.convert.serialize layout = .error e) ↔ ∃ part, part.IsOpaque ∧ IsLive part r) ∧
      ∀ e, r.convert.serialize layout = .error e → e.value.IsOpaque ∧ IsLive e.value r := by
  have hrefused {e : EncodeError} (he : r.convert.serialize layout = .error e) :
      e.value.IsOpaque ∧ IsLive e.value r := by
    obtain ⟨hlive, hclass⟩ := h.refusesLive (serialize_eq_error.mp he)
    exact ⟨hclass, hlive⟩
  refine ⟨⟨fun ⟨e, he⟩ => ⟨e.value, hrefused he⟩, fun ⟨part, hclass, hlive⟩ => ?_⟩, fun e => hrefused⟩
  obtain ⟨e, he⟩ := hlive.isRefused hclass [] []
  exact ⟨e, serialize_eq_error.mpr he⟩

/-- The `value` of the first object is replaced, and that of the second, without a `regex`, is not. -/
theorem serialize_convert_error_patterns :
    ∃ e, serialize standardLayout (convert (.list [.bag [("value", pattern "a"), ("regex", .bag [])],
        .dict [("value", pattern "b")]])) = .error e ∧ e.value.IsOpaque := by
  have hraw : IsRaw (.list [.bag [("value", pattern "a"), ("regex", .bag [])],
      .dict [("value", pattern "b")]]) := by
    refine .list fun item hitem => ?_
    simp only [List.mem_cons, List.not_mem_nil, or_false] at hitem
    rcases hitem with rfl | rfl
    · refine .bag fun a ha => ?_
      simp only [List.mem_cons, List.not_mem_nil, or_false] at ha
      rcases ha with rfl | rfl
      · exact .pattern "a"
      · exact .bag fun b hb => by cases hb
    · refine .dict fun a ha => ?_
      cases List.mem_singleton.mp ha
      exact .pattern "b"
  have hspec := serialize_convert_error_iff hraw standardLayout
  have hlive : IsLive (pattern "b") (.dict [("value", pattern "b")]) := by
    refine .dict List.mem_cons_self (by decide) ?_ .self
    rintro ⟨_, regex, hregex, _⟩
    cases hregex
  obtain ⟨e, he⟩ := hspec.1.mpr ⟨pattern "b", Or.inl ⟨"b", rfl⟩, .list (by simp) hlive⟩
  exact ⟨e, he, (hspec.2 e he).1⟩

end Value

end ScriptTree
