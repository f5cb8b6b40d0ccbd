import ScriptTree.Tree.Walk

namespace ScriptTree

/-- A value where it stands, with the name of the field that holds it directly. -/
structure Held where
  name? : Option Text
  value : Value

/-- The number of a field or item at every step. -/
abbrev Address := List Nat

/-- Preorder: parts come after the values they are parts of, and all parts of a field or item before
the next. -/
def Address.Before (a b : Address) : Prop := List.Lex (· < ·) a b

theorem Address.before_nil_cons (i : Nat) (a : Address) : Before [] (i :: a) := List.Lex.nil

theorem Address.before_cons {i j : Nat} {a b : Address} :
    Before (i :: a) (j :: b) ↔ i < j ∨ i = j ∧ a.Before b := by
  constructor
  · intro h
    cases h with
    | rel h => exact Or.inl h
    | cons h => exact Or.inr ⟨rfl, h⟩
  · rintro (h | ⟨rfl, h⟩)
    · exact List.Lex.rel h
    · exact List.Lex.cons h

theorem Address.before_iff {a b : Address} :
    a.Before b ↔ (∃ i rest, b = a ++ i :: rest) ∨
      ∃ holder i j rest rest', i < j ∧ a = holder ++ i :: rest ∧ b = holder ++ j :: rest' := by
  -- Either `a` stands above `b`, or they part ways at a common holder and `a` takes the earlier way.
  constructor
  · intro h
    induction h with
    | @nil i b => exact Or.inl ⟨i, b, rfl⟩
    | @rel i a j b hlt => exact Or.inr ⟨[], i, j, a, b, hlt, rfl, rfl⟩
    | @cons k a b _ ih =>
      rcases ih with ⟨i, rest, rfl⟩ | ⟨holder, i, j, rest, rest', hlt, rfl, rfl⟩
      · exact Or.inl ⟨i, rest, rfl⟩
      · exact Or.inr ⟨k :: holder, i, j, rest, rest', hlt, rfl, rfl⟩
  · rintro (⟨i, rest, rfl⟩ | ⟨holder, i, j, rest, rest', hlt, rfl, rfl⟩)
    · induction a with
      | nil => exact before_nil_cons i rest
      | cons k a ih => exact before_cons.mpr (Or.inr ⟨rfl, ih⟩)
    · induction holder with
      | nil => exact before_cons.mpr (Or.inl hlt)
      | cons k holder ih => exact before_cons.mpr (Or.inr ⟨rfl, ih⟩)

namespace Value

/-- What a value holds directly, in order. -/
def held : Value → List Held
  | tuple items => items.map fun item => ⟨none, item⟩
  | record fields => fields.map fun field => ⟨some field.1, field.2⟩
  | node _ fields => fields.map fun field => ⟨some field.1, field.2⟩
  | _ => []

theorem mem_held_of_item {items : List Value} {item : Value} (h : item ∈ items) :
    ⟨none, item⟩ ∈ (tuple items).held :=
  List.mem_map.mpr ⟨item, h, rfl⟩

theorem mem_held_of_field {v : Value} {field : Text × Value} (h : field ∈ v.fields) :
    ⟨some field.1, field.2⟩ ∈ v.held := by
  cases v with
  | record fields => exact List.mem_map.mpr ⟨field, h, rfl⟩
  | node tag fields => exact List.mem_map.mpr ⟨field, h, rfl⟩
  | _ => cases h

theorem getElem?_held_of_item {items : List Value} {i : Nat}
    {item : Value} (h : items[i]? = some item) :
    (tuple items).held[i]? = some ⟨none, item⟩ := by
  rw [held, List.getElem?_map, h]
  rfl

theorem getElem?_held_of_field {v : Value} {i : Nat} {field : Text × Value}
    (h : v.fields[i]? = some field) :
    v.held[i]? = some ⟨some field.1, field.2⟩ := by
  cases v with
  | record fields =>
    rw [held, List.getElem?_map]
    exact congrArg (Option.map _) h
  | node tag fields =>
    rw [held, List.getElem?_map]
    exact congrArg (Option.map _) h
  | _ => cases h

/-- The part at an address. -/
def part? : Address → Value → Option Value
  | [], v => some v
  | i :: rest, v => v.held[i]?.bind fun inner => part? rest inner.value

theorem sizeOf_lt_of_mem_held {v : Value} {inner : Held} (h : inner ∈ v.held) :
    sizeOf inner.value < sizeOf v := by
  have hfields {fields : List (Text × Value)}
      (h : inner ∈ fields.map fun field => (⟨some field.1, field.2⟩ : Held)) :
      sizeOf inner.value < sizeOf fields := by
    obtain ⟨⟨name, value⟩, hm, rfl⟩ := List.mem_map.mp h
    have hlt := List.sizeOf_lt_of_mem hm
    simp only [Prod.mk.sizeOf_spec] at hlt ⊢
    omega
  cases v with
  | tuple items =>
    obtain ⟨item, hm, rfl⟩ := List.mem_map.mp h
    have hlt := List.sizeOf_lt_of_mem hm
    simp only [tuple.sizeOf_spec]
    omega
  | record fields =>
    have hlt := hfields h
    simp only [record.sizeOf_spec]
    omega
  | node tag fields =>
    have hlt := hfields h
    simp only [node.sizeOf_spec]
    omega
  | _ => cases h

@[elab_as_elim]
theorem held_induction {motive : Value → Prop}
    (step : ∀ v : Value, (∀ inner ∈ v.held, motive inner.value) → motive v) (v : Value) : motive v :=
  step v fun inner _ => held_induction step inner.value
termination_by sizeOf v
decreasing_by exact sizeOf_lt_of_mem_held ‹_›

theorem part?_append (a b : Address) (v : Value) : part? (a ++ b) v = (part? a v).bind (part? b) := by
  induction a generalizing v with
  | nil => rfl
  | cons i a ih =>
    rw [List.cons_append, part?, part?]
    cases v.held[i]? with
    | none => rfl
    | some inner => exact ih inner.value

theorem part?_cons {i : Nat} {a : Address} {v w : Value} :
    part? (i :: a) v = some w ↔ ∃ inner, v.held[i]? = some inner ∧ part? a inner.value = some w :=
  Option.bind_eq_some_iff

/-- Said of a value and of every part of it. -/
def Everywhere (p : Value → Prop) (v : Value) : Prop := ∀ a part, v.part? a = some part → p part

theorem Everywhere.self {p : Value → Prop} {v : Value} (h : v.Everywhere p) : p v := h [] v rfl

theorem Everywhere.of_held {p : Value → Prop} {v : Value} (h : v.Everywhere p)
    {inner : Held} (hmem : inner ∈ v.held) :
    inner.value.Everywhere p := by
  intro a part hpart
  obtain ⟨i, hi⟩ := List.mem_iff_getElem?.mp hmem
  exact h (i :: a) part (part?_cons.mpr ⟨inner, hi, hpart⟩)

theorem Everywhere.of_item {p : Value → Prop} {items : List Value}
    {item : Value} (h : (tuple items).Everywhere p) (hmem : item ∈ items) : item.Everywhere p :=
  h.of_held (mem_held_of_item hmem)

theorem Everywhere.of_field {p : Value → Prop} {v : Value} {field : Text × Value} (h : v.Everywhere p)
    (hmem : field ∈ v.fields) : field.2.Everywhere p :=
  h.of_held (mem_held_of_field hmem)

theorem everywhere_of_held {p : Value → Prop} {v : Value} (hv : p v)
    (h : ∀ inner ∈ v.held, inner.value.Everywhere p) : v.Everywhere p := by
  intro a part hpart
  cases a with
  | nil =>
    cases hpart
    exact hv
  | cons i a =>
    obtain ⟨inner, hinner, hpart⟩ := part?_cons.mp hpart
    exact h inner (List.mem_of_getElem? hinner) a part hpart

theorem everywhere_of_held_eq_nil {p : Value → Prop} {v : Value} (hv : p v) (h : v.held = []) :
    v.Everywhere p := by
  refine everywhere_of_held hv fun inner hinner => ?_
  rw [h] at hinner
  cases hinner

theorem mem_fields_of_held {v : Value} {i : Nat} {inner : Held}
    {name : Text} (h : v.held[i]? = some inner)
    (hname : inner.name? = some name) : (name, inner.value) ∈ v.fields := by
  have hfields {fields : List (Text × Value)}
      (h : (fields.map fun field => (⟨some field.1, field.2⟩ : Held))[i]? = some inner) :
      (name, inner.value) ∈ fields := by
    obtain ⟨field, hm, rfl⟩ := List.mem_map.mp (List.mem_of_getElem? h)
    cases hname
    exact hm
  cases v with
  | tuple items =>
    obtain ⟨item, -, rfl⟩ := List.mem_map.mp (List.mem_of_getElem? h)
    cases hname
  | record fields => exact hfields h
  | node tag fields => exact hfields h
  | _ => cases h

end Value

end ScriptTree
