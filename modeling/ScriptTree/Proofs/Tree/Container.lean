import ScriptTree.Proofs.Tree.Image

namespace ScriptTree

namespace Value

/-- The items of a list or of a tuple. -/
def items? : Value → Option (List Value)
  | list items | tuple items => some items
  | _ => none

/-- Values that differ at most in which of their objects are dictionaries and which are bags, and in
which of their sequences are lists and which are tuples. -/
inductive SameContents : Value → Value → Prop where
  | same (v : Value) : SameContents v v
  | items {v w : Value} {as bs : List Value} :
      v.items? = some as → w.items? = some bs → as.length = bs.length →
    (∀ (i : Nat) (a b : Value), as[i]? = some a → bs[i]? = some b → SameContents a b) → SameContents v w
  | attributes {v w : Value} {as bs : Fields Value} :
      v.attributes? = some as → w.attributes? = some bs →
    as.names = bs.names →
    (∀ (i : Nat) (a b : Text × Value), as[i]? = some a → bs[i]? = some b → SameContents a.2 b.2) →
      SameContents v w

/-- A `regex` attribute, if it is an object, has strings or null as its pattern and as its flags. -/
structure DescribesText (attributes : Fields Value) : Prop where
  pattern : ∀ v, (regexInfo attributes).bind (Fields.get? "pattern") = some v → v.IsTextOrNull
  flags : ∀ v, (regexInfo attributes).bind (Fields.get? "flags") = some v → v.IsTextOrNull

/-- Wherever a value has a `regex` attribute, this has strings or null as its pattern and as its
flags. -/
inductive HasTextRegexes : Value → Prop where
  | items {v : Value} {items : List Value} : v.items? = some items →
      (∀ item ∈ items, HasTextRegexes item) →
    HasTextRegexes v
  | attributes {v : Value} {attributes : Fields Value} : v.attributes? = some attributes →
    DescribesText attributes → (∀ a ∈ attributes, HasTextRegexes a.2) → HasTextRegexes v
  | other {v : Value} : v.items? = none → v.attributes? = none → HasTextRegexes v

section Kinds

variable {v w : Value} {items : List Value} {attributes : Fields Value}

theorem attributes?_of_items? (h : v.items? = some items) : v.attributes? = none := by
  cases v <;> first | rfl | cases h

theorem convert_of_items? (h : v.items? = some items) : v.convert = tuple (items.map convert) := by
  cases v <;> cases h
  all_goals rw [convert, convertItems_eq_map]

theorem convert_of_attributes? (h : v.attributes? = some attributes) :
    v.convert = assemble (Fields.get? "type" attributes)
      (convertFields (regexBeside attributes) attributes) := by
  cases v <;> cases h
  all_goals rfl

theorem convert_of_none (hitems : v.items? = none) (hattributes : v.attributes? = none) :
    v.convert = v := by
  cases v with
  | list _ | tuple _ => cases hitems
  | dict _ | bag _ => cases hattributes
  | _ => rfl

theorem sizeOf_lt_of_items? {item : Value} (h : v.items? = some items) (hmem : item ∈ items) :
    sizeOf item < sizeOf v := by
  have hlt := List.sizeOf_lt_of_mem hmem
  cases v <;> cases h <;> simp <;> omega

theorem HasTextRegexes.of_items? (h : v.HasTextRegexes) (hitems : v.items? = some items) :
    ∀ item ∈ items, item.HasTextRegexes := by
  cases h with
  | items hv hall =>
    cases hv.symm.trans hitems
    exact hall
  | attributes hv => cases hv.symm.trans (attributes?_of_items? hitems)
  | other hv => cases hv.symm.trans hitems

theorem HasTextRegexes.of_attributes? (h : v.HasTextRegexes)
    (hattributes : v.attributes? = some attributes) :
    DescribesText attributes ∧ ∀ a ∈ attributes, a.2.HasTextRegexes := by
  cases h with
  | items hv => cases hattributes.symm.trans (attributes?_of_items? hv)
  | attributes hv hdescribes hall =>
    cases hv.symm.trans hattributes
    exact ⟨hdescribes, hall⟩
  | other _ hv => cases hv.symm.trans hattributes

/-- What has no parts of its own to convert is the same on both sides. -/
theorem SameContents.cases_parts (h : SameContents v w) :
    v = w ∨ (∃ as bs, v.items? = some as ∧ w.items? = some bs) ∨
      ∃ as bs, v.attributes? = some as ∧ w.attributes? = some bs := by
  cases h with
  | same => exact Or.inl rfl
  | items hv hw => exact Or.inr (Or.inl ⟨_, _, hv, hw⟩)
  | attributes hv hw => exact Or.inr (Or.inr ⟨_, _, hv, hw⟩)

theorem SameContents.eq_of_text_or_null (h : SameContents v w) (hv : v.IsTextOrNull) : v = w := by
  rcases h.cases_parts with heq | ⟨as, bs, has, -⟩ | ⟨as, bs, has, -⟩
  · exact heq
  · rcases hv with rfl | ⟨t, rfl⟩ <;> cases has
  · rcases hv with rfl | ⟨t, rfl⟩ <;> cases has

/-- No list, tuple, dictionary or bag is a compiled pattern. -/
theorem SameContents.eq_pattern_iff (h : SameContents v w) (source : Text) :
    v = pattern source ↔ w = pattern source := by
  rcases h.cases_parts with rfl | ⟨as, bs, has, hbs⟩ | ⟨as, bs, has, hbs⟩
  · exact Iff.rfl
  all_goals
    constructor
    · rintro rfl
      cases has
    · rintro rfl
      cases hbs

theorem SameContents.isNull_eq (h : SameContents v w) : v.isNull = w.isNull := by
  rcases h.cases_parts with rfl | ⟨as, bs, has, hbs⟩ | ⟨as, bs, has, hbs⟩
  · rfl
  · cases v <;> cases has <;> cases w <;> cases hbs <;> rfl
  · rw [isNull_of_attributes? has, isNull_of_attributes? hbs]

end Kinds

/-- Fields of the same names in the same order with related values. -/
abbrev Alike (p : Value → Value → Prop) (as bs : Fields Value) : Prop :=
  List.Forall₂ (fun a b => a.1 = b.1 ∧ p a.2 b.2) as bs

section Alike

variable {p : Value → Value → Prop} {as bs : Fields Value} {v w : Value}

theorem alike_of_getElem? (hnames : as.names = bs.names)
    (h : ∀ (i : Nat) (a b : Text × Value), as[i]? = some a → bs[i]? = some b → p a.2 b.2) :
      Alike p as bs := by
  induction as generalizing bs with
  | nil =>
    rw [List.map_eq_nil_iff.mp hnames.symm]
    exact .nil
  | cons a as ih =>
    cases bs with
    | nil => cases hnames
    | cons b bs =>
      obtain ⟨hname, hrest⟩ := List.cons.inj hnames
      exact .cons ⟨hname, h 0 a b rfl rfl⟩ (ih hrest fun i => h (i + 1))

/-- A name is found on both sides, with related values, or on neither. -/
theorem Alike.get?_cases (h : Alike p as bs) (name : Text) :
    (Fields.get? name as = none ∧ Fields.get? name bs = none) ∨
      ∃ v w, Fields.get? name as = some v ∧ Fields.get? name bs = some w ∧ p v w := by
  induction h with
  | nil => exact Or.inl ⟨rfl, rfl⟩
  | @cons a b as bs hab _ ih =>
    obtain ⟨key, v⟩ := a
    obtain ⟨key', w⟩ := b
    obtain ⟨rfl, hvalue⟩ := hab
    rw [Fields.get?, Fields.get?]
    split
    · exact Or.inr ⟨v, w, rfl, rfl, hvalue⟩
    · exact ih

theorem Alike.names_eq (h : Alike p as bs) : as.names = bs.names := by
  induction h with
  | nil => rfl
  | cons hab _ ih => exact congrArg₂ List.cons hab.1 ih

theorem SameContents.of_forall₂ {items items' : List Value} (hv : v.items? = some items)
    (hw : w.items? = some items')
    (h : List.Forall₂ SameContents items items') : v.SameContents w := by
  refine .items hv hw h.length_eq fun i a b ha hb => ?_
  obtain ⟨hi, rfl⟩ := List.getElem?_eq_some_iff.mp ha
  obtain ⟨hi', rfl⟩ := List.getElem?_eq_some_iff.mp hb
  exact h.get hi hi'

theorem SameContents.of_alike (hv : v.attributes? = some as) (hw : w.attributes? = some bs)
    (h : Alike SameContents as bs) : v.SameContents w := by
  refine .attributes hv hw h.names_eq fun i a b ha hb => ?_
  obtain ⟨hi, rfl⟩ := List.getElem?_eq_some_iff.mp ha
  obtain ⟨hi', rfl⟩ := List.getElem?_eq_some_iff.mp hb
  exact (h.get hi hi').2

theorem SameContents.attributes?_getD (h : SameContents v w) :
    Alike SameContents (v.attributes?.getD []) (w.attributes?.getD []) := by
  cases h with
  | same => exact List.forall₂_same.mpr fun a _ => ⟨rfl, .same a.2⟩
  | items hv hw =>
    rw [attributes?_of_items? hv, attributes?_of_items? hw]
    exact .nil
  | attributes hv hw hnames hvalues =>
    rw [hv, hw]
    exact alike_of_getElem? hnames hvalues

/-- A string or null is found under a name on both sides or on neither. -/
theorem SameContents.get?_eq (h : SameContents v w) {name : Text}
    (htext : ∀ u, Fields.get? name (v.attributes?.getD []) = some u → u.IsTextOrNull) :
    Fields.get? name (v.attributes?.getD []) = Fields.get? name (w.attributes?.getD []) := by
  rcases h.attributes?_getD.get?_cases name with ⟨hv, hw⟩ | ⟨u, u', hv, hw, hu⟩
  · rw [hv, hw]
  · rw [hv, hw, hu.eq_of_text_or_null (htext u hv)]

/-- A pattern and flags that are found on both sides make the same literal of values that are
compiled alike. -/
theorem besideRegex_congr {r r' : Value} (hvalue : ∀ source, v = pattern source ↔ w = pattern source)
    (hpattern : Fields.get? "pattern" (r.attributes?.getD []) =
      Fields.get? "pattern" (r'.attributes?.getD []))
    (hflags : Fields.get? "flags" (r.attributes?.getD []) =
      Fields.get? "flags" (r'.attributes?.getD []))
    (converted : Value) : besideRegex v r converted = besideRegex w r' converted := by
  have hfound : regexPattern? v r = regexPattern? w r' := by
    cases hp : nonNull? (Fields.get? "pattern" (r'.attributes?.getD [])) with
    | some p => simp only [regexPattern?, hpattern, hp]
    | none =>
      by_cases hv : ∃ source, v = pattern source
      · obtain ⟨source, rfl⟩ := hv
        rw [(hvalue source).mp rfl]
        simp only [regexPattern?, hpattern]
      · have hnone : ∀ source, v ≠ pattern source := fun source h => hv ⟨source, h⟩
        have hnone' : ∀ source, w ≠ pattern source :=
          fun source h => hnone source ((hvalue source).mpr h)
        rw [regexPattern?_eq_none.mpr ⟨hpattern ▸ hp, hnone⟩, regexPattern?_eq_none.mpr ⟨hp, hnone'⟩]
  simp only [besideRegex, hfound, regexFlags, hflags]

/-- Attributes that differ in the kinds of containers only become fields of the same value. -/
theorem fieldValue_eq (h : Alike SameContents as bs) (htext : DescribesText as)
    (hvalue : SameContents v w) (hconvert : v.convert = w.convert) (key : Text) :
    fieldValue (regexBeside as) key v = fieldValue (regexBeside bs) key w := by
  rw [regexBeside, regexBeside]
  rcases h.get?_cases "regex" with ⟨has, hbs⟩ | ⟨r, r', has, hbs, hr⟩
  · rw [has, hbs]
    exact hconvert
  · have hpattern := hr.get?_eq fun u hu => htext.pattern u ((bind_regexInfo has _).trans hu)
    have hflags := hr.get?_eq fun u hu => htext.flags u ((bind_regexInfo has _).trans hu)
    simp only [has, hbs, nonNull?, Option.bind_some, hr.isNull_eq]
    split
    · exact hconvert
    · rw [fieldValue, fieldValue, hconvert, besideRegex_congr hvalue.eq_pattern_iff hpattern hflags]

theorem convertFields_eq {regex regex' : Option Value} {as bs : Fields Value}
    (h : Alike p as bs) (hvalue : ∀ key v w, p v w → fieldValue regex key v = fieldValue regex' key w) :
    convertFields regex as = convertFields regex' bs := by
  induction h with
  | nil => rfl
  | @cons a b as bs hab _ ih =>
    obtain ⟨key, v⟩ := a
    obtain ⟨key', w⟩ := b
    obtain ⟨rfl, hvw⟩ := hab
    rw [convertFields_cons, convertFields_cons, ih, hvalue key v w hvw]

/-- Only a string is looked at as a tag. -/
theorem assemble_eq (h : Alike SameContents as bs) (fields : Fields Value) :
    assemble (Fields.get? "type" as) fields = assemble (Fields.get? "type" bs) fields := by
  rcases h.get?_cases "type" with ⟨has, hbs⟩ | ⟨v, w, has, hbs, hvw⟩
  · rw [has, hbs]
  · rw [has, hbs]
    rcases hvw.cases_parts with rfl | ⟨as, bs, hv, hw⟩ | ⟨as, bs, hv, hw⟩
    · rfl
    all_goals cases v <;> cases hv <;> cases w <;> cases hw <;> rfl

end Alike

/-- Values that differ in the kinds of containers only are converted to the same value. -/
theorem convert_eq_of_sameContents {v w : Value} (h : SameContents v w) (htext : v.HasTextRegexes) :
    v.convert = w.convert := by
  induction h with
  | same => rfl
  | @items v w as bs hv hw hlen _ ih =>
    rw [convert_of_items? hv, convert_of_items? hw]
    refine congrArg tuple (List.ext_getElem (by simp [hlen]) fun i hi hi' => ?_)
    rw [List.length_map] at hi hi'
    rw [List.getElem_map, List.getElem_map]
    have htexts := htext.of_items? hv as[i] (List.getElem_mem hi)
    exact ih i as[i] bs[i] (List.getElem?_eq_getElem hi) (List.getElem?_eq_getElem hi') htexts
  | @attributes v w as bs hv hw hnames hsame ih =>
    obtain ⟨hdescribes, hall⟩ := htext.of_attributes? hv
    have halike := alike_of_getElem? hnames hsame
    rw [convert_of_attributes? hv, convert_of_attributes? hw, assemble_eq halike]
    refine congrArg _ (convertFields_eq (p :=
      fun v w => SameContents v w ∧ v.convert = w.convert) ?_ ?_)
    · exact alike_of_getElem? hnames fun i a b ha hb =>
        ⟨hsame i a b ha hb, ih i a b ha hb (hall a (List.mem_of_getElem? ha))⟩
    · rintro key v w ⟨hvw, hconvert⟩
      exact fieldValue_eq halike hdescribes hvw hconvert key

theorem convert_assemble (tag : Option Value) (fields : Fields Value) :
    (assemble tag fields).convert = assemble tag fields := by
  cases tag with
  | none => rfl
  | some tag =>
    cases tag with
    | scalar s => cases s <;> rfl
    | _ => rfl

/-- What conversion makes is not converted any further. -/
theorem convert_convert (v : Value) : v.convert.convert = v.convert := by
  cases hitems : v.items? with
  | some items =>
    rw [convert_of_items? hitems, convert_of_items? rfl, List.map_map]
    exact congrArg tuple (List.map_congr_left fun item hmem => convert_convert item)
  | none =>
    cases hattributes : v.attributes? with
    | some attributes =>
      rw [convert_of_attributes? hattributes]
      exact convert_assemble _ _
    | none => rw [convert_of_none hitems hattributes, convert_of_none hitems hattributes]
termination_by sizeOf v
decreasing_by exact sizeOf_lt_of_items? hitems hmem

/-- The tree does not tell dictionaries from bags nor lists from tuples, and the tree of a tree is
the tree itself, whatever foreign objects and finished parts it holds. -/
theorem convert_canonical :
    (∀ v w : Value, v.SameContents w → v.HasTextRegexes → v.convert = w.convert) ∧
      ∀ v : Value, v.convert.convert = v.convert :=
  ⟨fun _ _ h htext => convert_eq_of_sameContents h htext, convert_convert⟩

/-- A literal in a bag and in a dictionary, with no compiled value but a list in one and a tuple in
the other. -/
theorem convert_canonical_literal :
    convert (bag [("type", str "Literal"), ("regex", bag [("pattern", .null)]),
      ("value", list [.null])]) =
        convert (dict [("type", str "Literal"), ("regex", dict [("pattern", .null)]),
          ("value", tuple [.null])]) ∧
      (convert (list [foreign "Token", node (.str "Empty") []])).convert =
        convert (list [foreign "Token", node (.str "Empty") []]) := by
  refine ⟨convert_canonical.1 _ _ ?_ ?_, convert_canonical.2 _⟩
  · have hinfo : SameContents (bag [("pattern", .null)]) (dict [("pattern", .null)]) :=
      .of_alike rfl rfl (.cons ⟨rfl, .same _⟩ .nil)
    have hvalue : SameContents (list [.null]) (tuple [.null]) :=
      .of_forall₂ rfl rfl (.cons (.same _) .nil)
    exact .of_alike rfl rfl (.cons ⟨rfl, .same _⟩ (.cons ⟨rfl, hinfo⟩ (.cons ⟨rfl, hvalue⟩ .nil)))
  · have hnull : HasTextRegexes .null := .other rfl rfl
    have hinfo : HasTextRegexes (bag [("pattern", .null)]) := by
      refine .attributes rfl ⟨(fun _ h => nomatch h), (fun _ h => nomatch h)⟩ fun a ha => ?_
      cases List.mem_singleton.mp ha
      exact hnull
    have hvalue : HasTextRegexes (list [.null]) := by
      refine .items rfl fun item hitem => ?_
      cases List.mem_singleton.mp hitem
      exact hnull
    refine .attributes rfl ⟨fun u h => ?_, (fun _ h => nomatch h)⟩ fun a ha => ?_
    · cases h
      exact Or.inl rfl
    · simp only [List.mem_cons, List.not_mem_nil, or_false] at ha
      rcases ha with rfl | rfl | rfl
      · exact .other rfl rfl
      · exact hinfo
      · exact hvalue

/-- Flags that are no text would tell the two apart: an empty dictionary counts for no flags, an
empty bag does not. -/
example : besideRegex .null (dict [("pattern", str "a"), ("flags", dict [])]) .null =
  .regex (str "a") (str []) ∧
    besideRegex .null (dict [("pattern", str "a"), ("flags", bag [])]) .null = .regex (str "a")
      (bag []) := ⟨rfl, rfl⟩

end Value

end ScriptTree
