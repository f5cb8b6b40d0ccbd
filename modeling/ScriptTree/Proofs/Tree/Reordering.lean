import ScriptTree.Proofs.Tree.Container

namespace ScriptTree

namespace Value

/-- Values that differ at most in the order in which the attributes of their objects stand. -/
inductive IsReordered : Value → Value → Prop where
  | same (v : Value) : IsReordered v v
  | list {as bs : List Value} : as.length = bs.length →
    (∀ (i : Nat) (a b : Value), as[i]? = some a → bs[i]? = some b → IsReordered a b) →
    IsReordered (list as) (list bs)
  | tuple {as bs : List Value} : as.length = bs.length →
    (∀ (i : Nat) (a b : Value), as[i]? = some a → bs[i]? = some b → IsReordered a b) →
    IsReordered (tuple as) (tuple bs)
  | dict {as bs : Fields Value} : as.names.Nodup → bs.names.Perm as.names →
    (∀ (key : Text) (a b : Value), Fields.get? key as = some a →
      Fields.get? key bs = some b → IsReordered a b) →
    IsReordered (dict as) (dict bs)
  | bag {as bs : Fields Value} : as.names.Nodup → bs.names.Perm as.names →
    (∀ (key : Text) (a b : Value), Fields.get? key as = some a →
      Fields.get? key bs = some b → IsReordered a b) →
    IsReordered (bag as) (bag bs)

end Value

/-- A reordering of the attributes of objects, at any depth of a value. -/
inductive Reordering where
  /-- All stays as it is. -/
  | stays
  /-- The items of a sequence keep their order, and each is reordered by itself. -/
  | items (parts : List Reordering)
  /-- The attributes that stood in one order come to stand in another one, and each value is
  reordered by itself. -/
  | attributes (before : List Text) (after : List (Text × Reordering))

namespace Reordering

open Value

mutual

/-- The reordered value. The fields of a record or a node stand in the places of the attributes that
they come from; these are all but the tag. -/
def apply : Reordering → Value → Value
  | items parts, .list values => .list (applyItems parts values)
  | items parts, .tuple values => .tuple (applyItems parts values)
  | attributes before after, .dict entries => .dict (applyFields after (before.zip entries))
  | attributes before after, .bag entries => .bag (applyFields after (before.zip entries))
  | attributes before after, .record fields =>
    .record (applyFields after ((before.filter (· ≠ ("type" : Text))).zip fields))
  | attributes before after, .node tag fields =>
    .node tag (applyFields after ((before.filter (· ≠ ("type" : Text))).zip fields))
  | _, value => value

def applyItems : List Reordering → List Value → List Value
  | part :: parts, value :: values => part.apply value :: applyItems parts values
  | _, _ => []

/-- The fields in their new order, each found by the attribute that it comes from. An attribute
without a field is passed over. -/
def applyFields : List (Text × Reordering) → Fields (Text × Value) → Fields Value
  | [], _ => []
  | (key, part) :: rest, known =>
    match Fields.get? key known with
    | some (name, value) => (name, part.apply value) :: applyFields rest known
    | none => applyFields rest known

end

/-- A reordering is one of a value if it names the attributes of each object that it reorders, which
have different names, each once. -/
inductive Fits : Reordering → Value → Prop where
  | stays (value : Value) : Fits stays value
  | items {value : Value} {values : List Value} {parts : List Reordering} : value.items? = some values →
    parts.length = values.length →
    (∀ (i : Nat) (part : Reordering) (v : Value), parts[i]? = some part →
      values[i]? = some v → Fits part v) →
    Fits (items parts) value
  | attributes {value : Value} {entries : Fields Value} {after : List (Text × Reordering)} :
    value.attributes? = some entries → entries.names.Nodup → (Fields.names after).Perm entries.names →
    (∀ (key : Text) (part : Reordering) (v : Value), (key, part) ∈ after →
      Fields.get? key entries = some v →
      Fits part v) →
    Fits (attributes entries.names after) value

section Parts

variable {part : Reordering} {v : Value}

@[simp] theorem apply_stays (v : Value) : stays.apply v = v := by
  cases v <;> rfl

theorem apply_scalar (part : Reordering) (s : Scalar) : part.apply (.scalar s) = .scalar s := by
  cases part <;> rfl

theorem apply_regex (part : Reordering) (p flags : Value) :
    part.apply (.regex p flags) = .regex p flags := by
  cases part <;> rfl

theorem apply_of_text_or_null (h : v.IsTextOrNull) (part : Reordering) : part.apply v = v := by
  rcases h with rfl | ⟨t, rfl⟩ <;> exact apply_scalar part _

theorem isNull_apply (part : Reordering) (v : Value) : (part.apply v).isNull = v.isNull := by
  cases part <;> cases v <;> rfl

theorem apply_eq_pattern_iff (part : Reordering) (v : Value) (source : Text) :
    part.apply v = pattern source ↔ v = pattern source := by
  cases v with
  | pattern s => cases part <;> exact Iff.rfl
  | _ => cases part <;> simp [apply]

theorem applyItems_eq_zipWith (parts : List Reordering) (values : List Value) :
    applyItems parts values = List.zipWith apply parts values := by
  induction parts generalizing values with
  | nil => cases values <;> rfl
  | cons part parts ih =>
    cases values with
    | nil => rfl
    | cons value values => rw [applyItems, ih, List.zipWith_cons_cons]

theorem attributes?_apply {entries : Fields Value} (h : v.attributes? = some entries)
    (before : List Text) (after : List (Text × Reordering)) :
    ((attributes before after).apply v).attributes? =
      some (applyFields after (before.zip entries)) := by
  cases v <;> cases h <;> rfl

theorem attributes?_apply_items (parts : List Reordering) (h : v.attributes? = none) :
    ((items parts).apply v).attributes? = none := by
  cases v with
  | dict _ | bag _ => cases h
  | _ => rfl

/-- Only a string is a tag, and strings have no attributes. -/
theorem assemble_apply (part : Reordering) (tag : Value) (fields : Fields Value) :
    assemble (some (part.apply tag)) fields = assemble (some tag) fields := by
  cases tag with
  | scalar s => rw [apply_scalar]
  | _ => cases part <;> rfl

theorem apply_assemble (before : List Text) (after : List (Text × Reordering)) (tag : Option Value)
    (fields : Fields Value) :
    (attributes before after).apply (assemble tag fields) =
      assemble tag (applyFields after ((before.filter (· ≠ ("type" : Text))).zip fields)) := by
  cases tag with
  | none => rfl
  | some tag =>
    cases tag with
    | scalar s => cases s <;> rfl
    | _ => rfl

theorem apply_besideRegex (part : Reordering) (value regex converted : Value) :
    part.apply (besideRegex value regex converted) =
      besideRegex value regex (part.apply converted) := by
  rw [besideRegex, besideRegex]
  split
  · exact apply_regex part _ _
  · rfl

end Parts

section Attributes

variable {entries : Fields Value} {after : List (Text × Reordering)}

theorem get?_zip_names (key : Text) (entries : Fields Value) :
    Fields.get? key (entries.names.zip entries) =
      (Fields.get? key entries).map fun value => (key, value) := by
  induction entries with
  | nil => rfl
  | cons entry entries ih =>
    obtain ⟨name, value⟩ := entry
    rw [Fields.names, List.map_cons, List.zip_cons_cons, Fields.get?, Fields.get?]
    by_cases hname : name = key
    · rw [if_pos hname, if_pos hname, hname, Option.map_some]
    · rw [if_neg hname, if_neg hname]
      exact ih

/-- Every attribute but the tag has a field, in the order of the attributes. -/
theorem get?_zip_convertFields (regex : Option Value) (key : Text) (entries : Fields Value) :
    Fields.get? key ((entries.names.filter (· ≠ ("type" : Text))).zip (convertFields regex entries)) =
      if key = "type" then none
      else (Fields.get? key entries).map fun value => (fieldName key, fieldValue regex key value) := by
  induction entries with
  | nil => simp [Fields.names, Fields.get?]
  | cons entry entries ih =>
    obtain ⟨name, value⟩ := entry
    rw [Fields.names, List.map_cons, convertFields_cons]
    -- The tag is left out of the names and of the fields, so that both stay side by side.
    by_cases htag : name = "type"
    · rw [if_pos htag, List.filter_cons_of_neg (by simpa using htag)]
      refine ih.trans ?_
      split
      next => rfl
      next hkey => rw [Fields.get?, if_neg fun h => hkey (h.symm.trans htag)]
    · rw [if_neg htag, List.filter_cons_of_pos (by simpa using htag), List.zip_cons_cons,
        Fields.get?, Fields.get?]
      by_cases hname : name = key
      · rw [← hname, if_pos rfl, if_neg htag, if_pos rfl, Option.map_some]
      · rw [if_neg hname, if_neg hname]
        exact ih

theorem get?_applyFields (key : Text) (after : List (Text × Reordering)) (entries : Fields Value) :
    Fields.get? key (applyFields after (entries.names.zip entries)) =
      (Fields.get? key after).bind fun part => (Fields.get? key entries).map part.apply := by
  induction after with
  | nil => rfl
  | cons entry after ih =>
    obtain ⟨name, part⟩ := entry
    rw [applyFields, get?_zip_names, Fields.get?]
    by_cases hname : name = key
    · rw [if_pos hname, hname, Option.bind_some]
      cases hkey : Fields.get? key entries with
      | none => rw [Option.map_none, Option.map_none, ih, hkey]; cases Fields.get? key after <;> rfl
      | some value => exact if_pos rfl
    · rw [if_neg hname, ← ih]
      cases Fields.get? name entries with
      | none => rfl
      | some value => exact if_neg hname

/-- An attribute is found on both sides, reordered by itself, or on neither. -/
theorem get?_applyFields_cases (hperm : (Fields.names after).Perm entries.names) (key : Text) :
    (Fields.get? key entries = none ∧
      Fields.get? key (applyFields after (entries.names.zip entries)) = none) ∨
      ∃ part value, (key, part) ∈ after ∧ Fields.get? key entries = some value ∧
        Fields.get? key (applyFields after (entries.names.zip entries)) = some (part.apply value) := by
  rw [get?_applyFields]
  cases hkey : Fields.get? key entries with
  | none => exact Or.inl ⟨rfl, by cases Fields.get? key after <;> rfl⟩
  | some value =>
    have hmem : key ∈ entries.names := List.mem_map.mpr ⟨(key, value), Fields.get?_eq_some hkey, rfl⟩
    obtain ⟨part, hpart⟩ := Fields.exists_get? (hperm.mem_iff.mpr hmem)
    exact Or.inr ⟨part, value, Fields.get?_eq_some hpart, rfl,
      by rw [hpart, Option.bind_some, Option.map_some]⟩

/-- What is reordered is one of the fields alone, each with its value reordered by itself. -/
theorem convertFields_applyFields {regex regex' : Option Value} (entries : Fields Value)
    (h : ∀ key part value, (key, part) ∈ after → Fields.get? key entries = some value →
      fieldValue regex' key (part.apply value) = part.apply (fieldValue regex key value)) :
    convertFields regex' (applyFields after (entries.names.zip entries)) =
      applyFields after ((entries.names.filter (· ≠ ("type" : Text))).zip
        (convertFields regex entries)) := by
  induction after with
  | nil => rfl
  | cons entry after ih =>
    obtain ⟨key, part⟩ := entry
    have hrest := ih fun key part value hmem => h key part value (List.mem_cons_of_mem _ hmem)
    rw [applyFields, applyFields, get?_zip_names, get?_zip_convertFields]
    cases hkey : Fields.get? key entries with
    | none =>
      simp only [Option.map_none, ite_self]
      exact hrest
    | some value =>
      simp only [Option.map_some, convertFields_cons, hrest]
      split
      · rfl
      · rw [h key part value List.mem_cons_self hkey]

end Attributes

theorem Fits.get?_eq {part : Reordering} {v : Value} (h : part.Fits v) {name : Text}
    (htext : ∀ u, Fields.get? name (v.attributes?.getD []) = some u → u.IsTextOrNull) :
    Fields.get? name ((part.apply v).attributes?.getD []) =
      Fields.get? name (v.attributes?.getD []) := by
  cases h with
  | stays => rw [apply_stays]
  | items hv =>
    have hnone := attributes?_of_items? hv
    rw [hnone, attributes?_apply_items _ hnone]
  | attributes hv _ hperm _ =>
    rw [hv, Option.getD_some] at htext ⊢
    rw [attributes?_apply hv, Option.getD_some]
    rcases get?_applyFields_cases hperm name with ⟨hentries, hafter⟩ | ⟨part, u, -, hentries, hafter⟩
    · rw [hentries, hafter]
    · rw [hentries, hafter, apply_of_text_or_null (htext u hentries)]

/-- The field of an attribute is the reordered field, whichever attribute it is and wherever `regex`
stands. -/
theorem fieldValue_apply {entries : Fields Value} {after : List (Text × Reordering)}
    (hperm : (Fields.names after).Perm entries.names) (htext : DescribesText entries)
    (hfits : ∀ key part v, (key, part) ∈ after → Fields.get? key entries = some v → Fits part v)
    {part : Reordering} {v : Value} (hconvert : (part.apply v).convert = part.apply v.convert)
    (key : Text) :
    fieldValue (regexBeside (applyFields after (entries.names.zip entries))) key (part.apply v) =
      part.apply (fieldValue (regexBeside entries) key v) := by
  rw [regexBeside, regexBeside]
  rcases get?_applyFields_cases hperm "regex" with ⟨hentries, hafter⟩ |
      ⟨rpart, regex, hmem, hentries, hafter⟩
  · rw [hentries, hafter]
    exact hconvert
  · have hregex := hfits "regex" rpart regex hmem hentries
    have hpattern := hregex.get?_eq fun u hu => htext.pattern u ((bind_regexInfo hentries _).trans hu)
    have hflags := hregex.get?_eq fun u hu => htext.flags u ((bind_regexInfo hentries _).trans hu)
    simp only [hentries, hafter, nonNull?, Option.bind_some, isNull_apply]
    split
    · exact hconvert
    · rw [fieldValue, fieldValue, hconvert]
      split
      · rw [apply_besideRegex, besideRegex_congr (apply_eq_pattern_iff part v) hpattern hflags]
      · rfl

/-- To convert a reordered value is to reorder the tree of the value. -/
theorem convert_apply {r : Reordering} {v : Value} (h : r.Fits v) (htext : v.HasTextRegexes) :
    (r.apply v).convert = r.apply v.convert := by
  -- On the way in which the reordering fits. An attribute has a reordering that fits its value, so
  -- the hypothesis of the induction is about it, and what is looked up beside it, the tag and
  -- `regex`, is found in either order.
  induction h with
  | stays v => rw [apply_stays, apply_stays]
  | @items v values parts hv hlength _ ih =>
    have happly : ((items parts).apply v).items? = some (applyItems parts values) := by
      cases v <;> cases hv <;> rfl
    rw [convert_of_items? happly, convert_of_items? hv, apply, applyItems_eq_zipWith,
      applyItems_eq_zipWith]
    refine congrArg tuple (List.ext_getElem (by simp) fun i hi hi' => ?_)
    simp only [List.length_map, List.length_zipWith] at hi
    have hparts : i < parts.length := by omega
    have hvalues : i < values.length := by omega
    have htexts := htext.of_items? hv values[i] (List.getElem_mem hvalues)
    simp only [List.getElem_map, List.getElem_zipWith]
    exact ih i parts[i] values[i] (List.getElem?_eq_getElem hparts)
      (List.getElem?_eq_getElem hvalues) htexts
  | @attributes v entries after hv _ hperm hfits ih =>
    obtain ⟨hdescribes, hall⟩ := htext.of_attributes? hv
    have hfields := convertFields_applyFields entries fun key part value hmem hkey =>
      fieldValue_apply hperm hdescribes hfits
        (ih key part value hmem hkey (hall (key, value) (Fields.get?_eq_some hkey))) key
    have htag : assemble (Fields.get? "type" (applyFields after (entries.names.zip entries))) =
        assemble (Fields.get? "type" entries) := by
      rcases get?_applyFields_cases hperm "type"
          with ⟨hentries, hafter⟩ | ⟨part, tag, -, hentries, hafter⟩
      · rw [hentries, hafter]
      · rw [hentries, hafter]
        exact funext (assemble_apply part tag)
    rw [convert_of_attributes? (attributes?_apply hv _ _), hfields, htag, convert_of_attributes? hv,
      apply_assemble]

section Relation

variable {as bs : List Value} {entries moved : Fields Value} {after : List (Text × Reordering)}

theorem getElem?_applyItems {parts : List Reordering} {i : Nat} {a b : Value} (ha : as[i]? = some a)
    (hb : (applyItems parts as)[i]? = some b) : ∃ part, parts[i]? = some part ∧ b = part.apply a := by
  rw [applyItems_eq_zipWith, List.getElem?_zipWith, ha] at hb
  cases hpart : parts[i]? with
  | none => simp [hpart] at hb
  | some part => exact ⟨part, rfl, by simpa [hpart, eq_comm] using hb⟩

theorem names_applyFields (h : ∀ key ∈ Fields.names after, key ∈ entries.names) :
    (applyFields after (entries.names.zip entries)).names = Fields.names after := by
  induction after with
  | nil => rfl
  | cons entry after ih =>
    obtain ⟨key, part⟩ := entry
    obtain ⟨hkey, hrest⟩ := List.forall_mem_cons.mp h
    obtain ⟨value, hvalue⟩ := Fields.exists_get? hkey
    rw [applyFields, get?_zip_names, hvalue]
    exact congrArg (key :: ·) (ih hrest)

/-- A reordering that fits a value makes a reordered value of it. -/
theorem Fits.isReordered {r : Reordering} {v : Value} (h : r.Fits v) : v.IsReordered (r.apply v) := by
  induction h with
  | stays v =>
    rw [apply_stays]
    exact .same v
  | @items v values parts hv hlength _ ih =>
    have hlen : values.length = (applyItems parts values).length := by
      rw [applyItems_eq_zipWith, List.length_zipWith, hlength, Nat.min_self]
    have hitems : ∀ (i : Nat) (a b : Value), values[i]? = some a →
        (applyItems parts values)[i]? = some b →
        a.IsReordered b := by
      intro i a b ha hb
      obtain ⟨part, hpart, rfl⟩ := getElem?_applyItems ha hb
      exact ih i part a hpart ha
    cases v with
    | list _ => cases hv; exact .list hlen hitems
    | tuple _ => cases hv; exact .tuple hlen hitems
    | _ => cases hv
  | @attributes v entries after hv hnodup hperm _ ih =>
    have hnames := names_applyFields fun key hkey => hperm.mem_iff.mp hkey
    have hvalues : ∀ (key : Text) (a b : Value), Fields.get? key entries = some a →
        Fields.get? key (applyFields after (entries.names.zip entries)) = some b → a.IsReordered b := by
      intro key a b ha hb
      rcases get?_applyFields_cases hperm key with ⟨hnone, -⟩ | ⟨part, value, hmem, hvalue, hafter⟩
      · cases hnone.symm.trans ha
      · cases hvalue.symm.trans ha
        cases hafter.symm.trans hb
        exact ih key part a hmem ha
    have hmoved := hnames ▸ hperm
    cases v with
    | dict _ => cases hv; exact .dict hnodup hmoved hvalues
    | bag _ => cases hv; exact .bag hnodup hmoved hvalues
    | _ => cases hv

/-- Reorderings of the items, one after the other. -/
theorem exists_parts (hlength : as.length = bs.length)
    (h : ∀ (i : Nat) (a b : Value), as[i]? = some a → bs[i]? = some b →
      ∃ r : Reordering, r.Fits a ∧ r.apply a = b) :
    ∃ parts : List Reordering, parts.length = as.length ∧ applyItems parts as = bs ∧
      ∀ (i : Nat) (part : Reordering) (v : Value), parts[i]? = some part →
        as[i]? = some v → part.Fits v := by
  induction as generalizing bs with
  | nil =>
    cases List.length_eq_zero_iff.mp hlength.symm
    exact ⟨[], rfl, rfl, fun i part v hpart => by simp at hpart⟩
  | cons a as ih =>
    cases bs with
    | nil => cases hlength
    | cons b bs =>
      obtain ⟨part, hfits, rfl⟩ := h 0 a b rfl rfl
      obtain ⟨parts, hparts, rfl, hall⟩ := ih (Nat.succ.inj hlength) fun i => h (i + 1)
      refine ⟨part :: parts, congrArg (· + 1) hparts, rfl, fun i p v hp hv => ?_⟩
      cases i with
      | zero =>
        cases hp
        cases hv
        exact hfits
      | succ i => exact hall i p v hp hv

/-- Reorderings of the values of attributes, in the order in which the attributes come to stand. -/
theorem exists_after
    (h : ∀ b ∈ moved, ∃ a, Fields.get? b.1 entries = some a ∧
      ∃ r : Reordering, r.Fits a ∧ r.apply a = b.2) :
    ∃ after : List (Text × Reordering), Fields.names after = moved.names ∧
      applyFields after (entries.names.zip entries) = moved ∧
      ∀ (key : Text) (part : Reordering) (v : Value), (key, part) ∈ after →
        Fields.get? key entries = some v →
        part.Fits v := by
  induction moved with
  | nil => exact ⟨[], rfl, rfl, fun key part v hmem => nomatch hmem⟩
  | cons b moved ih =>
    obtain ⟨hb, hrest⟩ := List.forall_mem_cons.mp h
    obtain ⟨a, ha, r, hfits, happly⟩ := hb
    obtain ⟨after, hnames, hmoved, hall⟩ := ih hrest
    refine ⟨(b.1, r) :: after, congrArg (b.1 :: ·) hnames, ?_, fun key part v hmem hv => ?_⟩
    · rw [applyFields, get?_zip_names, ha, Option.map_some, hmoved]
      simp only [happly]
    · rcases List.mem_cons.mp hmem with heq | hmem
      · cases heq
        cases ha.symm.trans hv
        exact hfits
      · exact hall key part v hmem hv

/-- An attribute of the one order is an attribute of the other, with a value that a reordering makes
of its value. -/
theorem exists_of_mem_moved (hnodup : entries.names.Nodup) (hperm : moved.names.Perm entries.names)
    (h : ∀ (key : Text) (a b : Value), Fields.get? key entries = some a →
      Fields.get? key moved = some b →
      ∃ r : Reordering, r.Fits a ∧ r.apply a = b) :
    ∀ b ∈ moved, ∃ a, Fields.get? b.1 entries = some a ∧ ∃ r : Reordering, r.Fits a ∧
      r.apply a = b.2 := by
  rintro ⟨key, b⟩ hmem
  obtain ⟨⟨key', a⟩, hentry, rfl⟩ :=
    List.mem_map.mp (hperm.mem_iff.mp (List.mem_map.mpr ⟨(key, b), hmem, rfl⟩))
  have ha := Fields.get?_of_mem hnodup hentry
  exact ⟨a, ha, h key' a b ha (Fields.get?_of_mem (hperm.nodup_iff.mpr hnodup) hmem)⟩

/-- Reordered values are those that the fitting reorderings make. -/
theorem isReordered_iff {v w : Value} : v.IsReordered w ↔
    ∃ r : Reordering, r.Fits v ∧ r.apply v = w := by
  constructor
  · intro h
    induction h with
    | same v => exact ⟨stays, .stays v, apply_stays v⟩
    | list hlength _ ih | tuple hlength _ ih =>
      obtain ⟨parts, hparts, happly, hfits⟩ := exists_parts hlength ih
      exact ⟨items parts, .items rfl hparts hfits, by rw [apply, happly]⟩
    | dict hnodup hperm _ ih | bag hnodup hperm _ ih =>
      obtain ⟨after, hnames, happly, hfits⟩ := exists_after (exists_of_mem_moved hnodup hperm ih)
      exact ⟨attributes _ after, .attributes rfl hnodup (hnames ▸ hperm) hfits, by rw [apply, happly]⟩
  · rintro ⟨r, hfits, rfl⟩
    exact hfits.isReordered

end Relation

end Reordering

namespace Value

variable {v w : Value} {as bs : Fields Value}

/-- Attributes in another order make the same fields in another order. -/
theorem convertFields_perm (hnodup : as.names.Nodup) (hperm : as.Perm bs) :
    (convertFields (regexBeside as) as).Perm (convertFields (regexBeside bs) bs) := by
  have hregex : regexBeside bs = regexBeside as := congrArg nonNull? (Fields.get?_of_perm hnodup hperm)
  rw [hregex, convertFields_eq_map, convertFields_eq_map]
  exact (hperm.filter _).map _

/-- Where the tag stands among the attributes makes no difference. -/
theorem convert_eq_of_perm (hv : v.attributes? = some as) (hw : w.attributes? = some bs)
    (hnodup : as.names.Nodup) (hperm : as.Perm bs)
    (hsame : as.filter (·.1 ≠ ("type" : Text)) = bs.filter (·.1 ≠ ("type" : Text))) :
    v.convert = w.convert := by
  have hregex : regexBeside bs = regexBeside as := congrArg nonNull? (Fields.get?_of_perm hnodup hperm)
  rw [convert_of_attributes? hv, convert_of_attributes? hw, Fields.get?_of_perm hnodup hperm, hregex,
    convertFields_eq_map, convertFields_eq_map, hsame]

/-- To convert a reordered value is to reorder the tree of the value, and every value with its
attributes in another order at any depth is a reordered one. So with the attributes of one object in
another order the same fields and the same tag are found, whether `regex` stands before `value` or
behind it, and another place of the tag alone changes nothing. -/
theorem convert_reordered :
    (∀ (r : Reordering) (v : Value), r.Fits v → v.HasTextRegexes →
      (r.apply v).convert = r.apply v.convert) ∧
    (∀ v w : Value, v.IsReordered w ↔ ∃ r : Reordering, r.Fits v ∧ r.apply v = w) ∧
    ∀ (v w : Value) (as bs : Fields Value), v.attributes? = some as →
      w.attributes? = some bs → as.names.Nodup →
      as.Perm bs →
      (∃ tag fields moved, v.convert = assemble tag fields ∧
        w.convert = assemble tag moved ∧ fields.Perm moved) ∧
      (as.filter (·.1 ≠ ("type" : Text)) = bs.filter (·.1 ≠ ("type" : Text)) →
        v.convert = w.convert) := by
  refine ⟨fun r v => Reordering.convert_apply, fun v w => Reordering.isReordered_iff,
    fun v w as bs hv hw hnodup hperm => ⟨?_, convert_eq_of_perm hv hw hnodup hperm⟩⟩
  refine ⟨Fields.get? "type" as, _, _, convert_of_attributes? hv, ?_, convertFields_perm hnodup hperm⟩
  rw [convert_of_attributes? hw, Fields.get?_of_perm hnodup hperm]

/-- A literal whose `value` moves before `regex` and the tag, with two attributes that are spelled
alike in the tree. -/
theorem convert_reordered_literal :
    let info : Value := bag [("flags", str "g"), ("pattern", str "a")]
    let literal : Value :=
      bag [("regex", info), ("isAsync", null), ("type", str "Literal"), ("value", pattern "b"),
        ("async", str "c")]
    let flipped : Reordering :=
      .attributes ["flags", "pattern"] [("pattern", .stays), ("flags", .stays)]
    let moved : Reordering := .attributes ["regex", "isAsync", "type", "value", "async"]
      [("value", .stays), ("async", .stays), ("regex", flipped), ("type", .stays), ("isAsync", .stays)]
    moved.Fits literal ∧ (moved.apply literal).convert = moved.apply literal.convert ∧
      (moved.apply literal).convert = node (.str "Literal")
      [("value", .regex (str "a") (str "g")), ("async", str "c"),
        ("regex", record [("pattern", str "a"), ("flags", str "g")]), ("async", null)] := by
  intro info literal flipped moved
  have hflipped : flipped.Fits info := by
    refine @Reordering.Fits.attributes info [("flags", str "g"), ("pattern", str "a")] _ rfl
      (by decide) (by decide)
      fun key part v hmem _ => ?_
    simp only [List.mem_cons, List.not_mem_nil, or_false, Prod.mk.injEq] at hmem
    rcases hmem with ⟨-, rfl⟩ | ⟨-, rfl⟩ <;> exact .stays v
  have hmoved : moved.Fits literal := by
    refine @Reordering.Fits.attributes literal [("regex", info),
      ("isAsync", null), ("type", str "Literal"),
      ("value", pattern "b"), ("async", str "c")] _ rfl (by decide)
      (by decide) fun key part v hmem hv => ?_
    simp only [List.mem_cons, List.not_mem_nil, or_false, Prod.mk.injEq] at hmem
    rcases hmem with ⟨-, rfl⟩ | ⟨-, rfl⟩ | ⟨rfl, rfl⟩ | ⟨-, rfl⟩ | ⟨-, rfl⟩
    case inr.inr.inl =>
      cases hv
      exact hflipped
    all_goals exact .stays v
  have hleaf : ∀ v : Value, v.items? = none → v.attributes? = none → v.HasTextRegexes := fun _ => .other
  have hinfo : info.HasTextRegexes := by
    refine .attributes rfl ⟨(fun _ h => nomatch h), (fun _ h => nomatch h)⟩ fun a ha => ?_
    simp only [List.mem_cons, List.not_mem_nil, or_false] at ha
    rcases ha with rfl | rfl <;> exact hleaf _ rfl rfl
  have htext : literal.HasTextRegexes := by
    refine .attributes rfl ⟨fun u h => ?_, fun u h => ?_⟩ fun a ha => ?_
    · cases h
      exact Or.inr ⟨_, rfl⟩
    · cases h
      exact Or.inr ⟨_, rfl⟩
    · simp only [List.mem_cons, List.not_mem_nil, or_false] at ha
      rcases ha with rfl | rfl | rfl | rfl | rfl
      · exact hinfo
      all_goals exact hleaf _ rfl rfl
  exact ⟨hmoved, convert_reordered.1 moved literal hmoved htext, rfl⟩

end Value

end ScriptTree
