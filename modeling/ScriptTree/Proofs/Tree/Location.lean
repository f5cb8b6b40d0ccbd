import ScriptTree.Proofs.Fields
import ScriptTree.Proofs.Number.Digits
import ScriptTree.Proofs.Text.Lines
import ScriptTree.Proofs.Tree.Part
import ScriptTree.Proofs.Tree.RoundTrip

namespace ScriptTree

namespace Held

/-- The name under which a held value is encoded. -/
def key (x : Held) : Text := x.name?.getD []

/-- The path of a held value, from the path of what holds it and from its number there. -/
def pathFrom (path : Text) (i : Nat) (x : Held) : Text :=
  match x.name? with
  | some name => Value.fieldPath path name
  | none => Value.itemPath path i

/-- The path of the part at an address. -/
def pathTo : Address → Text → Held → Text
  | [], path, _ => path
  | i :: rest, path, x =>
    match x.value.held[i]? with
    | some inner => pathTo rest (inner.pathFrom path i) inner
    | none => path

/-- A literal that is not itself a field of the name `value`, or an object of none of the classes of
a tree. -/
inductive IsRefused : Held → Prop where
  | literal {name? : Option Text} (p flags : Value) :
      name? ≠ some "value" → IsRefused ⟨name?, .regex p flags⟩
  | list {name? : Option Text} (items : List Value) : IsRefused ⟨name?, .list items⟩
  | dict {name? : Option Text} (entries : Fields Value) : IsRefused ⟨name?, .dict entries⟩
  | bag {name? : Option Text} (attributes : Fields Value) : IsRefused ⟨name?, .bag attributes⟩
  | pattern {name? : Option Text} (source : Text) : IsRefused ⟨name?, .pattern source⟩
  | foreign {name? : Option Text} (kind : Text) : IsRefused ⟨name?, .foreign kind⟩

/-- A refused part stands at the address. -/
def RefusesAt : Address → Held → Prop
  | [], x => x.IsRefused
  | i :: rest, x => ∃ inner, x.value.held[i]? = some inner ∧ RefusesAt rest inner

theorem IsRefused.held_eq_nil {x : Held} (h : x.IsRefused) : x.value.held = [] := by
  cases h <;> rfl

theorem key_eq_value {x : Held} : x.key = "value" ↔ x.name? = some "value" := by
  obtain ⟨name?, value⟩ := x
  cases name? with
  | none => simp [key, Text.ofString]
  | some name => simp [key]

end Held

namespace Value

theorem bind_ok_eq_error {ε α β : Type} {x : Except ε α} {f : α → β} {e : ε} :
    (x >>= fun a => .ok (f a)) = .error e ↔ x = .error e := by
  cases x <;> simp [bind, Except.bind]

theorem bind_ok_eq_ok {ε α β : Type} {x : Except ε α} {f : α → β} {b : β} :
    (x >>= fun a => .ok (f a)) = .ok b ↔ ∃ a, x = .ok a ∧ f a = b := by
  cases x <;> simp [bind, Except.bind]

/-- The refusal of the first of some held values that is refused, if one is. -/
def firstRefusal? (path : Text) : Nat → List Held → Option EncodeError
  | _, [] => none
  | i, x :: rest =>
    match encodeAt x.key (x.pathFrom path i) x.value with
    | .error e => some e
    | .ok _ => firstRefusal? path (i + 1) rest

theorem encodeItems_eq_error {items : List Value} {path : Text} {i : Nat} {e : EncodeError} :
    encodeItems path i items = .error e ↔
      firstRefusal? path i (items.map fun item => ⟨none, item⟩) = some e := by
  induction items generalizing i with
  | nil => simp [encodeItems, firstRefusal?]
  | cons item items ih =>
    rw [encodeItems, List.map_cons, firstRefusal?, Held.key, Held.pathFrom, Option.getD_none]
    cases encodeAt [] (itemPath path i) item with
    | error e' => simp [bind, Except.bind]
    | ok d =>
      rw [← ih]
      cases encodeItems path (i + 1) items <;> simp [bind, Except.bind]

theorem encodeFields_eq_error {fields : Fields Value} {path : Text} {i : Nat} {e : EncodeError} :
    encodeFields path fields = .error e ↔
      firstRefusal? path i (fields.map fun field => ⟨some field.1, field.2⟩) = some e := by
  induction fields generalizing i with
  | nil => simp [encodeFields, firstRefusal?]
  | cons field fields ih =>
    obtain ⟨name, value⟩ := field
    rw [encodeFields, List.map_cons, firstRefusal?, Held.key, Held.pathFrom, Option.getD_some]
    cases encodeAt name (fieldPath path name) value with
    | error e' => simp [bind, Except.bind]
    | ok d =>
      rw [← ih]
      cases encodeFields path fields <;> simp [bind, Except.bind]

theorem encodeAt_eq_error {x : Held} {path : Text} {e : EncodeError} :
    encodeAt x.key path x.value = .error e ↔
      x.IsRefused ∧ e = ⟨path, x.value⟩ ∨ firstRefusal? path 0 x.value.held = some e := by
  obtain ⟨name?, v⟩ := x
  cases v with
  | scalar s =>
    simp only [encodeAt, held, firstRefusal?, reduceCtorEq, or_false, false_iff, not_and]
    rintro ⟨⟩
  | tuple items =>
    rw [encodeAt, bind_ok_eq_error, encodeItems_eq_error]
    exact (or_iff_right (by rintro ⟨⟨⟩, -⟩)).symm
  | record fields =>
    rw [encodeAt, bind_ok_eq_error, encodeFields_eq_error]
    exact (or_iff_right (by rintro ⟨⟨⟩, -⟩)).symm
  | node tag fields =>
    rw [encodeAt, bind_ok_eq_error, encodeFields_eq_error]
    exact (or_iff_right (by rintro ⟨⟨⟩, -⟩)).symm
  | regex p flags =>
    have hkey := Held.key_eq_value (x := ⟨name?, regex p flags⟩)
    simp only [encodeAt, held, firstRefusal?, reduceCtorEq, or_false]
    by_cases hname : name? = some "value"
    · rw [if_pos (hkey.mpr hname)]
      simp only [reduceCtorEq, false_iff, not_and]
      rintro ⟨⟩
      contradiction
    · rw [if_neg fun h => hname (hkey.mp h)]
      simp [Held.IsRefused.literal p flags hname, eq_comm]
  | list items => simp [encodeAt, held, firstRefusal?, Held.IsRefused.list, eq_comm]
  | dict entries => simp [encodeAt, held, firstRefusal?, Held.IsRefused.dict, eq_comm]
  | bag attributes => simp [encodeAt, held, firstRefusal?, Held.IsRefused.bag, eq_comm]
  | pattern source => simp [encodeAt, held, firstRefusal?, Held.IsRefused.pattern, eq_comm]
  | foreign kind => simp [encodeAt, held, firstRefusal?, Held.IsRefused.foreign, eq_comm]

theorem firstRefusal?_eq_some {path : Text} {k : Nat} {xs : List Held} {e : EncodeError}
    (h : firstRefusal? path k xs = some e) :
    ∃ (i : Nat) (x : Held), xs[i]? = some x ∧
      encodeAt x.key (x.pathFrom path (k + i)) x.value = .error e ∧
      ∀ j < i, ∀ earlier : Held, xs[j]? = some earlier →
        ∀ e', encodeAt earlier.key (earlier.pathFrom path (k + j)) earlier.value ≠ .error e' := by
  induction xs generalizing k with
  | nil => cases h
  | cons x xs ih =>
    rw [firstRefusal?] at h
    split at h
    next e' he =>
      cases h
      exact ⟨0, x, rfl, he, fun j hj => absurd hj (Nat.not_lt_zero j)⟩
    next d hd =>
      obtain ⟨i, y, hy, he, hfirst⟩ := ih h
      have hshift (n : Nat) : k + 1 + n = k + (n + 1) := by omega
      refine ⟨i + 1, y, hy, hshift i ▸ he, fun j hj earlier hearlier e' => ?_⟩
      cases j with
      | zero =>
        cases hearlier
        rw [Nat.add_zero, hd]
        simp
      | succ j => exact hshift j ▸ hfirst j (by omega) earlier hearlier e'

theorem exists_firstRefusal? {path : Text} {k i : Nat} {xs : List Held}
    {x : Held} (hx : xs[i]? = some x) (h : ∀ path, ∃ e, encodeAt x.key path x.value = .error e) :
      ∃ e, firstRefusal? path k xs = some e := by
  induction xs generalizing i k with
  | nil => simp at hx
  | cons first xs ih =>
    rw [firstRefusal?]
    split
    next e he => exact ⟨e, rfl⟩
    next d hd =>
      cases i with
      | zero =>
        cases hx
        obtain ⟨e, he⟩ := h (x.pathFrom path k)
        cases hd.symm.trans he
      | succ i => exact ih hx

theorem exists_error_of_refusesAt {a : Address} {x : Held} (h : x.RefusesAt a) (path : Text) :
    ∃ e, encodeAt x.key path x.value = .error e := by
  induction a generalizing x path with
  | nil => exact ⟨_, encodeAt_eq_error.mpr (Or.inl ⟨h, rfl⟩)⟩
  | cons i a ih =>
    obtain ⟨inner, hinner, h⟩ := h
    obtain ⟨e, he⟩ : ∃ e, firstRefusal? path 0 x.value.held = some e :=
      exists_firstRefusal? hinner (ih h)
    exact ⟨e, encodeAt_eq_error.mpr (Or.inr he)⟩

/-- A refusal names the first refused part. -/
theorem exists_first_of_error (x : Held) {path : Text} {e : EncodeError}
    (h : encodeAt x.key path x.value = .error e) :
    ∃ a, x.RefusesAt a ∧ (∀ b, x.RefusesAt b → b = a ∨ a.Before b) ∧ x.value.part? a = some e.value ∧
      e.path = x.pathTo a path := by
  obtain ⟨name?, v⟩ := x
  induction v using held_induction generalizing name? path with
  | step v ih =>
    rcases encodeAt_eq_error.mp h with ⟨hrefused, rfl⟩ | hheld
    · refine ⟨[], hrefused, fun b _ => ?_, rfl, rfl⟩
      cases b with
      | nil => exact Or.inl rfl
      | cons i b => exact Or.inr (Address.before_nil_cons i b)
    · obtain ⟨i, inner, hinner, he, hearlier⟩ := firstRefusal?_eq_some hheld
      rw [Nat.zero_add] at he
      obtain ⟨a, hat, hfirst, hpart, hpath⟩ := ih inner (List.mem_of_getElem? hinner) inner.name? he
      refine ⟨i :: a, ⟨inner, hinner, hat⟩, fun b hb => ?_, part?_cons.mpr ⟨inner, hinner, hpart⟩, ?_⟩
      · cases b with
        | nil =>
          have hnil : v.held = [] := Held.IsRefused.held_eq_nil hb
          simp [hnil] at hinner
        | cons j b =>
          obtain ⟨other, hother, hb⟩ := hb
          rcases Nat.lt_trichotomy j i with hj | rfl | hj
          · obtain ⟨e', he'⟩ := exists_error_of_refusesAt hb (other.pathFrom path (0 + j))
            exact absurd he' (hearlier j hj other hother e')
          · cases hinner.symm.trans hother
            rcases hfirst b hb with rfl | hbefore
            · exact Or.inl rfl
            · exact Or.inr (Address.before_cons.mpr (Or.inr ⟨rfl, hbefore⟩))
          · exact Or.inr (Address.before_cons.mpr (Or.inl hj))
      · rw [Held.pathTo]
        simp only [hinner]
        exact hpath

/-- Tags, patterns and flags are texts. -/
def HasTexts : Value → Prop
  | node tag _ => ∃ t, tag = .str t
  | regex p flags => (∃ t, p = str t) ∧ ∃ t, flags = str t
  | _ => True

theorem isTree_of_not_refusesAt {name? : Option Text} {v : Value} (htexts : v.Everywhere HasTexts)
    (h : ∀ a, ¬ Held.RefusesAt a ⟨name?, v⟩) : IsTree (Held.key ⟨name?, v⟩) v := by
  induction v using held_induction generalizing name? with
  | step v ih =>
    have hinner {inner : Held} (hmem : inner ∈ v.held) : IsTree inner.key inner.value := by
      obtain ⟨i, hi⟩ := List.mem_iff_getElem?.mp hmem
      exact ih inner hmem (htexts.of_held hmem) fun a ha => h (i :: a) ⟨inner, hi, ha⟩
    cases v with
    | scalar s => exact .scalar s
    | tuple items => exact .tuple fun item hitem => hinner (mem_held_of_item hitem)
    | record fields => exact .record fun field hfield => hinner (mem_held_of_field hfield)
    | node tag fields =>
      obtain ⟨t, rfl⟩ := htexts.self
      exact .node t fun field hfield => hinner (mem_held_of_field hfield)
    | regex p flags =>
      obtain ⟨⟨p, rfl⟩, flags, rfl⟩ := htexts.self
      have hname : name? = some (Text.ofString "value") := by
        by_contra hnot
        exact h [] (.literal (str p) (str flags) hnot)
      rw [hname]
      exact .regex p flags
    | list items => exact absurd (.list items) (h [])
    | dict entries => exact absurd (.dict entries) (h [])
    | bag attributes => exact absurd (.bag attributes) (h [])
    | pattern source => exact absurd (.pattern source) (h [])
    | foreign kind => exact absurd (.foreign kind) (h [])

theorem IsTree.hasTexts {key : Text} {v : Value} (h : IsTree key v) : v.Everywhere HasTexts := by
  induction h with
  | scalar s => exact everywhere_of_held_eq_nil trivial rfl
  | tuple _ ih =>
    refine everywhere_of_held trivial fun inner hinner => ?_
    obtain ⟨item, hitem, rfl⟩ := List.mem_map.mp hinner
    exact ih item hitem
  | record _ ih =>
    refine everywhere_of_held trivial fun inner hinner => ?_
    obtain ⟨field, hfield, rfl⟩ := List.mem_map.mp hinner
    exact ih field hfield
  | node tag _ ih =>
    refine everywhere_of_held ⟨tag, rfl⟩ fun inner hinner => ?_
    obtain ⟨field, hfield, rfl⟩ := List.mem_map.mp hinner
    exact ih field hfield
  | regex p flags => exact everywhere_of_held_eq_nil ⟨⟨p, rfl⟩, flags, rfl⟩ rfl

/-- The trees are the values of texts that are not refused. -/
theorem isTree_iff_encode {v : Value} :
    v.IsTree [] ↔ v.Everywhere HasTexts ∧ ∃ d, v.encode = .ok d := by
  constructor
  · exact fun h => ⟨h.hasTexts, v.normal, encodeAt_of_isTree h []⟩
  · rintro ⟨htexts, d, hd⟩
    have htree : IsTree (Held.key ⟨none, v⟩) v := by
      refine isTree_of_not_refusesAt htexts fun a ha => ?_
      obtain ⟨e, he⟩ := exists_error_of_refusesAt ha []
      cases hd.symm.trans he
    exact htree

def item? (i : Nat) : Value → Option Value
  | tuple items => items[i]?
  | _ => none

/-- The number in the brackets of a path, from what follows the opening one. -/
def bracketed? (t : Text) : Option Nat :=
  if t.getLast? = some (CodePoint.ofChar ']') ∧ t.dropLast.all CodePoint.isDigit then
    some (Text.decimalValue t.dropLast)
  else none

/-- The value that is reached by a name, if one is given, and then by numbers in brackets. -/
def followStep? (v : Value) (step : Text) : Option Value :=
  match Text.split '[' step with
  | [] => none
  | name :: numbers =>
    (if name.isEmpty then some v else v.get? name).bind fun w =>
      numbers.foldlM (fun w number => (bracketed? number).bind fun i => w.item? i) w

/-- The value at the end of a path whose steps are separated by dots. -/
def follow? (path : Text) (v : Value) : Option Value := (Text.split '.' path).foldlM followStep? v

/-- Every name stands once and can be told from the rest of a path. -/
structure HasPlainNames (v : Value) : Prop where
  distinct : v.keys.Nodup
  plain : ∀ name ∈ v.keys, name ≠ [] ∧ CodePoint.ofChar '.' ∉ name ∧ CodePoint.ofChar '[' ∉ name

theorem followStep?_name {v : Value} {name : Text} (hne : name ≠ [])
    (hbracket : CodePoint.ofChar '[' ∉ name) :
    v.followStep? name = v.get? name := by
  rw [followStep?, Text.split_eq_singleton hbracket]
  simp [hne]

theorem bracketed?_ofNat (i : Nat) : bracketed? (Text.ofNat i ++ "]") = some i := by
  have hlast : (Text.ofNat i ++ "]").getLast? = some (CodePoint.ofChar ']') := by
    simp [Text.ofString]
  have hdrop : (Text.ofNat i ++ "]").dropLast = Text.ofNat i := List.dropLast_concat
  have hdigits : (Text.ofNat i).all CodePoint.isDigit = true :=
    List.all_eq_true.mpr Text.isDigit_of_mem_ofNat
  rw [bracketed?, hdrop, if_pos ⟨hlast, hdigits⟩, Text.ofNat,
    Text.decimalValue_map_ofDigit fun _ => Text.lt_ten_of_mem_decimalDigits,
    Text.ofDigitValues_decimalDigits]

theorem followStep?_item {v w : Value} {step : Text} (h : v.followStep? step = some w) (i : Nat) :
    v.followStep? (step ++ ("[" ++ Text.ofNat i ++ "]")) = w.item? i := by
  have hnumber : CodePoint.ofChar '[' ∉ (Text.ofNat i ++ "]" : Text) := by
    intro hm
    rcases List.mem_append.mp hm with hm | hm
    · exact absurd (Text.isDigit_of_mem_ofNat _ hm) (by decide)
    · exact absurd hm (by decide)
  have hsplit : Text.split '[' (step ++ ("[" ++ Text.ofNat i ++ "]")) =
      Text.split '[' step ++ [Text.ofNat i ++ "]"] := by
    rw [← Text.split_eq_singleton hnumber]
    exact Text.split_append_separator _ step _
  obtain ⟨name, numbers, hparts⟩ := List.exists_cons_of_ne_nil (Text.split_ne_nil '[' step)
  rw [followStep?, hparts] at h
  obtain ⟨u, hu, hw⟩ := Option.bind_eq_some_iff.mp h
  rw [followStep?, hsplit, hparts, List.cons_append]
  simp only [hu, Option.bind_some, List.foldlM_append, hw]
  simp [bracketed?_ofNat]

theorem follow?_fieldPath {root v : Value} {path name : Text}
    (h : root.follow? path = some v) (hne : name ≠ [])
    (hdot : CodePoint.ofChar '.' ∉ name) (hbracket : CodePoint.ofChar '[' ∉ name) :
    root.follow? (fieldPath path name) = v.get? name := by
  have hstep := Text.split_eq_singleton hdot
  rw [fieldPath]
  split
  next hempty =>
    rw [List.isEmpty_iff.mp hempty] at h
    cases h
    rw [follow?, hstep]
    simp [followStep?_name hne hbracket]
  next hempty =>
    have hsplit : Text.split '.' (path ++ "." ++ name) = Text.split '.' path ++ [name] := by
      rw [← hstep, List.append_assoc]
      exact Text.split_append_separator _ path name
    rw [follow?] at h
    rw [follow?, hsplit, List.foldlM_append, h]
    simp [followStep?_name hne hbracket]

theorem follow?_itemPath {root v : Value} {path : Text} (h : root.follow? path = some v) (i : Nat) :
    root.follow? (itemPath path i) = v.item? i := by
  have hdot : CodePoint.ofChar '.' ∉ ("[" ++ Text.ofNat i ++ "]" : Text) := by
    intro hm
    rcases List.mem_append.mp hm with hm | hm
    · rcases List.mem_append.mp hm with hm | hm
      · exact absurd hm (by decide)
      · exact absurd (Text.isDigit_of_mem_ofNat _ hm) (by decide)
    · exact absurd hm (by decide)
  -- A bracket adds no step: it lengthens the last one.
  obtain ⟨steps, last, hpath, hitem⟩ := Text.exists_split_append hdot path
  have hassoc : itemPath path i = path ++ ("[" ++ Text.ofNat i ++ "]") := by
    simp [itemPath]
  rw [follow?, hpath, List.foldlM_append] at h
  obtain ⟨u, hu, hlast⟩ := Option.bind_eq_some_iff.mp h
  simp only [List.foldlM_cons, List.foldlM_nil, bind_pure] at hlast
  rw [follow?, hassoc, hitem, List.foldlM_append, hu]
  simp only [List.foldlM_cons, List.foldlM_nil, bind_pure, Option.bind_eq_bind, Option.bind_some]
  exact followStep?_item hlast i

theorem item?_of_held {v : Value} {i : Nat} {inner : Held} (h : v.held[i]? = some inner)
    (hname : inner.name? = none) :
    v.item? i = some inner.value := by
  have hnamed {fields : List (Text × Value)}
      (h : (fields.map fun field => (⟨some field.1, field.2⟩ : Held))[i]? = some inner) : False := by
    obtain ⟨field, -, rfl⟩ := List.mem_map.mp (List.mem_of_getElem? h)
    cases hname
  cases v with
  | tuple items =>
    rw [held, List.getElem?_map] at h
    obtain ⟨item, hitem, rfl⟩ := Option.map_eq_some_iff.mp h
    exact hitem
  | record fields => exact (hnamed h).elim
  | node tag fields => exact (hnamed h).elim
  | _ => cases h

/-- The path to an address leads to the part there. -/
theorem follow?_pathTo {root part : Value} {x : Held} {a : Address}
    {path : Text} (h : x.value.Everywhere HasPlainNames)
    (hpath : root.follow? path = some x.value) (hpart : x.value.part? a = some part) :
    root.follow? (x.pathTo a path) = some part := by
  -- The path so far leads to `x`; each number of the address makes it one name or one bracket longer.
  induction a generalizing x path with
  | nil =>
    cases hpart
    exact hpath
  | cons i a ih =>
    obtain ⟨inner, hinner, hpart⟩ := part?_cons.mp hpart
    rw [Held.pathTo]
    simp only [hinner]
    refine ih (h.of_held (List.mem_of_getElem? hinner)) ?_ hpart
    rw [Held.pathFrom]
    split
    next name hname =>
      have hfield := mem_fields_of_held hinner hname
      obtain ⟨hne, hdot, hbracket⟩ := h.self.plain name (List.mem_map_of_mem hfield)
      rw [follow?_fieldPath hpath hne hdot hbracket]
      exact Fields.get?_of_mem (h.self.distinct) hfield
    next hname =>
      rw [follow?_itemPath hpath]
      exact item?_of_held hinner hname

/-- A value is refused exactly when a literal that is no field `value`, or an object that no tree
holds, is one of its parts. The refusal carries the first such part in preorder, and its path leads
there. -/
theorem encode_error_iff_refusesAt (v : Value) :
    ((∃ e, v.encode = .error e) ↔ ∃ a, Held.RefusesAt a ⟨none, v⟩) ∧
      ∀ e, v.encode = .error e →
        (∃ a, Held.RefusesAt a ⟨none, v⟩ ∧ v.part? a = some e.value ∧
          e.path = Held.pathTo a [] ⟨none, v⟩ ∧
          ∀ b, Held.RefusesAt b ⟨none, v⟩ → b = a ∨ a.Before b) ∧
        (v.Everywhere HasPlainNames → v.follow? e.path = some e.value) := by
  refine ⟨⟨fun ⟨e, he⟩ => ?_, fun ⟨a, ha⟩ => exists_error_of_refusesAt ha []⟩, fun e he => ?_⟩
  · obtain ⟨a, ha, -⟩ := exists_first_of_error ⟨none, v⟩ he
    exact ⟨a, ha⟩
  · obtain ⟨a, ha, hfirst, hpart, hpath⟩ := exists_first_of_error ⟨none, v⟩ he
    refine ⟨⟨a, ha, hpart, hpath, hfirst⟩, fun h => ?_⟩
    rw [hpath]
    exact follow?_pathTo h rfl hpart

theorem encode_error_iff_refusesAt_tuple :
    ∃ e, encode (record [("value", tuple [null, regex (str "a") (str "g")])]) = .error e ∧
      follow? e.path (record [("value", tuple [null, regex (str "a") (str "g")])]) = some e.value := by
  have hspec := encode_error_iff_refusesAt (record [("value", tuple [null, regex (str "a") (str "g")])])
  have hnames : (record [("value", tuple [null, regex (str "a") (str "g")])]).Everywhere
      HasPlainNames := by
    refine everywhere_of_held ⟨by decide, by decide⟩ fun inner hinner => ?_
    cases List.mem_singleton.mp hinner
    refine everywhere_of_held ⟨by decide, by decide⟩ fun item hitem => ?_
    simp only [held, List.map_cons, List.map_nil, List.mem_cons, List.not_mem_nil, or_false] at hitem
    rcases hitem with rfl | rfl <;> exact everywhere_of_held_eq_nil ⟨by decide, by decide⟩ rfl
  obtain ⟨e, he⟩ := hspec.1.mpr ⟨[0, 1], _, rfl, _, rfl, .literal (str "a") (str "g") (by simp)⟩
  exact ⟨e, he, (hspec.2 e he).2 hnames⟩

/-- The first of two fields is refused although the second one would have replaced it. -/
example : (encode (record [("value", list []), ("value", null)])).map (fun _ => ()) =
    .error ⟨"value", list []⟩ := rfl

end Value

end ScriptTree
