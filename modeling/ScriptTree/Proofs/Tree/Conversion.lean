import ScriptTree.Proofs.Fields
import ScriptTree.Tree.Convert

namespace ScriptTree

namespace Value

/-- The field value of an attribute, given the `regex` attribute of its object. -/
def fieldValue (regex : Option Value) (key : Text) (value : Value) : Value :=
  match regex with
  | some r => if key = "value" then besideRegex value r value.convert else value.convert
  | none => value.convert

/-- The `regex` attribute that a conversion looks at. -/
def regexBeside (attributes : Fields Value) : Option Value := nonNull? (Fields.get? "regex" attributes)

/-- The attributes of the `regex` attribute, if this is an object. -/
def regexInfo (attributes : Fields Value) : Option (Fields Value) :=
  (Fields.get? "regex" attributes).bind attributes?

theorem convertItems_eq_map (items : List Value) : convertItems items = items.map convert := by
  induction items with
  | nil => rfl
  | cons item items ih => rw [convertItems, ih, List.map_cons]

theorem convertFields_cons (regex : Option Value) (key : Text) (value : Value) (rest : Fields Value) :
    convertFields regex ((key, value) :: rest) =
      if key = "type" then convertFields regex rest
      else (fieldName key, fieldValue regex key value) :: convertFields regex rest := by
  rw [convertFields.eq_def]
  rfl

theorem convertFields_eq_map (regex : Option Value) (attributes : Fields Value) :
    convertFields regex attributes =
      (attributes.filter (·.1 ≠ ("type" : Text))).map fun a =>
        (fieldName a.1, fieldValue regex a.1 a.2) := by
  induction attributes with
  | nil => rfl
  | cons a attributes ih =>
    obtain ⟨key, value⟩ := a
    rw [convertFields_cons]
    split
    next hk => rw [ih, List.filter_cons_of_neg (by simpa using hk)]
    next hk => rw [ih, List.filter_cons_of_pos (by simpa using hk), List.map_cons]

theorem mem_convertFields {regex : Option Value} {attributes : Fields Value} {field : Text × Value} :
    field ∈ convertFields regex attributes ↔
      ∃ a ∈ attributes, a.1 ≠ "type" ∧ (fieldName a.1, fieldValue regex a.1 a.2) = field := by
  rw [convertFields_eq_map, List.mem_map]
  simp only [List.mem_filter, decide_eq_true_eq, ne_eq, and_assoc]

/-- Elsewhere than under `value` the `regex` attribute does not matter. -/
theorem fieldValue_of_ne {key : Text} (h : key ≠ "value") (regex : Option Value) (value : Value) :
    fieldValue regex key value = value.convert := by
  cases regex with
  | none => rfl
  | some r => rw [fieldValue, if_neg h]

theorem fieldValue_of_pattern {regex p : Value} (value : Value)
    (h : regexPattern? value regex = some p) :
    fieldValue (some regex) "value" value = .regex p (regexFlags regex) := by
  rw [fieldValue, if_pos rfl, besideRegex, h]

theorem fieldValue_of_no_pattern {regex : Value} {key : Text} {value : Value}
    (h : regexPattern? value regex = none) : fieldValue (some regex) key value = value.convert := by
  rw [fieldValue]
  split
  · rw [besideRegex, h]
  · rfl

theorem nonNull?_eq_some {value : Option Value} {v : Value} :
    nonNull? value = some v ↔ value = some v ∧ v.isNull = false := by
  cases value with
  | none => simp [nonNull?]
  | some w =>
    cases hw : w.isNull with
    | true =>
      simp only [nonNull?, Option.bind_some, hw, if_true, reduceCtorEq, false_iff, not_and,
        Option.some.injEq]
      rintro rfl
      simp [hw]
    | false =>
      simp only [nonNull?, Option.bind_some, hw, Bool.false_eq_true, if_false, Option.some.injEq]
      constructor
      · rintro rfl
        exact ⟨rfl, hw⟩
      · exact fun h => h.1

theorem isNull_of_attributes? {v : Value} {attributes : Fields Value}
    (h : v.attributes? = some attributes) :
    v.isNull = false := by
  cases v <;> first | rfl | cases h

theorem regexPattern?_eq_none {value regex : Value} :
    regexPattern? value regex = none ↔
      nonNull? (Fields.get? "pattern" (regex.attributes?.getD [])) = none ∧
        ∀ source, value ≠ .pattern source := by
  cases hp : nonNull? (Fields.get? "pattern" (regex.attributes?.getD [])) with
  | some p => simp [regexPattern?, hp]
  | none =>
    cases value with
    | pattern source => simp [regexPattern?, hp]
    | _ => simp [regexPattern?, hp]

theorem bind_regexInfo {attributes : Fields Value} {regex : Value}
    (h : Fields.get? "regex" attributes = some regex) (name : Text) :
    (regexInfo attributes).bind (Fields.get? name) = Fields.get? name (regex.attributes?.getD []) := by
  rw [regexInfo, h, Option.bind_some]
  cases regex.attributes? <;> rfl

theorem fieldName_eq_value {key : Text} (h : key = "value") : fieldName key = "value" := by
  rw [h]
  rfl

/-- Distinct names of which no two are respelled alike. -/
structure HasApartNames (attributes : Fields Value) : Prop where
  distinct : attributes.names.Nodup
  async : ¬ (("isAsync" : Text) ∈ attributes.names ∧ ("async" : Text) ∈ attributes.names)
  await : ¬ (("allowAwait" : Text) ∈ attributes.names ∧ ("await" : Text) ∈ attributes.names)

section Names

variable {attributes : Fields Value}

theorem fieldName_ne_type {key : Text} (h : key ≠ "type") : fieldName key ≠ "type" := by
  rw [fieldName]
  split
  · decide
  · split
    · decide
    · exact h

/-- Respelling keeps such names apart. -/
theorem fieldName_inj (h : HasApartNames attributes) {a b : Text} (ha : a ∈ attributes.names)
    (hb : b ∈ attributes.names) (hab : fieldName a = fieldName b) : a = b := by
  simp only [fieldName] at hab
  by_cases ha1 : a = "isAsync"
  · by_cases hb1 : b = "isAsync"
    · rw [ha1, hb1]
    · rw [if_pos ha1, if_neg hb1] at hab
      split at hab
      · exact absurd hab (by decide)
      · exact absurd ⟨ha1 ▸ ha, hab ▸ hb⟩ h.async
  · by_cases ha2 : a = "allowAwait"
    · by_cases hb2 : b = "allowAwait"
      · rw [ha2, hb2]
      · rw [if_neg ha1, if_pos ha2, if_neg hb2] at hab
        split at hab
        · exact absurd hab (by decide)
        · exact absurd ⟨ha2 ▸ ha, hab ▸ hb⟩ h.await
    · rw [if_neg ha1, if_neg ha2] at hab
      split at hab
      next hb1 => exact absurd ⟨hb1 ▸ hb, hab ▸ ha⟩ h.async
      next =>
        split at hab
        next hb2 => exact absurd ⟨hb2 ▸ hb, hab ▸ ha⟩ h.await
        next => exact hab

theorem nodup_fieldNames (h : HasApartNames attributes) :
    (("type" : Text) ::
      ((attributes.filter (·.1 ≠ ("type" : Text))).map fun a => fieldName a.1)).Nodup := by
  have hnames : (Fields.names (attributes.filter (·.1 ≠ ("type" : Text)))).Nodup :=
    h.distinct.sublist (List.filter_sublist.map _)
  rw [List.nodup_cons]
  constructor
  · intro hmem
    obtain ⟨a, ha, heq⟩ := List.mem_map.mp hmem
    have hne : a.1 ≠ "type" := by simpa using (List.mem_filter.mp ha).2
    exact fieldName_ne_type hne heq
  · have hmem {a : Text × Value} (ha : a ∈ attributes.filter (·.1 ≠ ("type" : Text))) :
        a.1 ∈ attributes.names := List.mem_map.mpr ⟨a, (List.mem_filter.mp ha).1, rfl⟩
    rw [Fields.names, List.nodup_iff_pairwise_ne, List.pairwise_map] at hnames
    rw [List.nodup_iff_pairwise_ne, List.pairwise_map]
    refine hnames.imp_of_mem fun ha hb hne heq => hne ?_
    exact fieldName_inj h (hmem ha) (hmem hb) heq

end Names

end Value

end ScriptTree
