import ScriptTree.Proofs.Tree.Location
import ScriptTree.Proofs.Tree.Number
import ScriptTree.Tree.Value

namespace ScriptTree

namespace Scalar

/-- One is a truth value and the other a number. -/
def Clashes : Scalar → Scalar → Prop
  | bool _, int _ | bool _, float _ | int _, bool _ | float _, bool _ => True
  | _, _ => False

end Scalar

namespace Value

section Scalars

variable {s t : Scalar}

theorem encodeFloat_of_sameValue {x y : Double} (h : x.sameValue y = true) :
    encodeFloat x = encodeFloat y := by
  cases x with
  | nan => cases h
  | infinite a =>
    cases y with
    | nan => cases h
    | infinite b => rw [encodeFloat_of_not_isFinite rfl, encodeFloat_of_not_isFinite rfl]
    | finite => cases h
  | finite a m s hms =>
    cases y with
    | nan => cases h
    | infinite b => cases h
    | finite b n u hnu =>
      have hvalue : (Double.finite a m s hms).value = (Double.finite b n u hnu).value :=
        Double.value_eq_iff.mpr (of_decide_eq_true h)
      have hleft := Scalar.value?_float (x := .finite a m s hms) rfl
      rw [hvalue] at hleft
      exact encodeScalar_eq_of_value_eq hleft (Scalar.value?_float rfl)

theorem encodeFloat_of_equalsInt {x : Double} {i : Int} (h : x.equalsInt i = true) :
    encodeFloat x = encodeInt i := by
  obtain ⟨hx, hunits⟩ := Bool.and_eq_true_iff.mp h
  exact encodeFloat_of_value_eq hx (Double.value_eq_intCast_iff.mpr (of_decide_eq_true hunits))

/-- Equal scalars are encoded alike, unless a truth value meets a number. -/
theorem encodeScalar_of_same (h : s.same t = true) (hclash : ¬ s.Clashes t) :
    encodeScalar s = encodeScalar t := by
  cases s <;> cases t <;> simp only [Scalar.same, Scalar.integer?,
    decide_eq_true_eq, Bool.false_eq_true] at h
  case null.null => rfl
  case bool.bool b c => cases b <;> cases c <;> simp_all
  case int.int => rw [h]
  case str.str => rw [h]
  case float.float => exact encodeFloat_of_sameValue h
  case int.float => exact (encodeFloat_of_equalsInt h).symm
  case float.int => exact encodeFloat_of_equalsInt h
  all_goals exact absurd trivial hclash

end Scalars

/-- Equality of trees: scalars are equal by value or are the same object, as a NaN may be, and
containers of one class part by part. -/
inductive Equal : Value → Value → Prop where
  | value {s t : Scalar} : s.same t = true → Equal (scalar s) (scalar t)
  | object (s : Scalar) : Equal (scalar s) (scalar s)
  | tuple {as bs : List Value} : as.length = bs.length →
    (∀ (i : Nat) (a b : Value), as[i]? = some a → bs[i]? = some b → Equal a b) →
      Equal (tuple as) (tuple bs)
  | record {as bs : Fields Value} : as.names = bs.names →
    (∀ (i : Nat) (a b : Text × Value), as[i]? = some a → bs[i]? = some b → Equal a.2 b.2) →
      Equal (record as) (record bs)
  | node (tag : Text) {as bs : Fields Value} : as.names = bs.names →
    (∀ (i : Nat) (a b : Text × Value), as[i]? = some a → bs[i]? = some b → Equal a.2 b.2) →
    Equal (node (.str tag) as) (node (.str tag) bs)
  | regex (p flags : Text) : Equal (regex (str p) (str flags)) (regex (str p) (str flags))

/-- Nowhere does a truth value in the one stand where the other has a number. -/
def NoClash (v w : Value) : Prop :=
  ∀ a s t, v.part? a = some (scalar s) → w.part? a = some (scalar t) → ¬ s.Clashes t

theorem NoClash.of_held {v w : Value} (h : NoClash v w) {i : Nat}
    {x y : Held} (hx : v.held[i]? = some x) (hy : w.held[i]? = some y) : NoClash x.value y.value :=
  fun a s t hs ht => h (i :: a) s t (part?_cons.mpr ⟨x, hx, hs⟩) (part?_cons.mpr ⟨y, hy, ht⟩)

theorem noClash_of_held {v w : Value} (hself : ∀ s t, v = scalar s → w = scalar t → ¬ s.Clashes t)
    (h : ∀ (i : Nat) (x y : Held), v.held[i]? = some x → w.held[i]? = some y →
      NoClash x.value y.value) :
    NoClash v w := by
  intro a s t hs ht
  cases a with
  | nil => exact hself s t (Option.some.inj hs) (Option.some.inj ht)
  | cons i a =>
    obtain ⟨x, hx, hs⟩ := part?_cons.mp hs
    obtain ⟨y, hy, ht⟩ := part?_cons.mp ht
    exact h i x y hx hy a s t hs ht

/-- Two runs with one result or with refusals at one path. -/
def Agree {α : Type} (x y : Except EncodeError α) : Prop :=
  (∃ r, x = .ok r ∧ y = .ok r) ∨ ∃ e e', x = .error e ∧ y = .error e' ∧ e.path = e'.path

theorem Agree.bind {α β : Type} {x y : Except EncodeError α}
    (h : Agree x y) {f g : α → Except EncodeError β}
    (hfg : ∀ r, Agree (f r) (g r)) : Agree (x >>= f) (y >>= g) := by
  rcases h with ⟨r, rfl, rfl⟩ | ⟨e, e', rfl, rfl, hpath⟩
  · exact hfg r
  · exact Or.inr ⟨e, e', rfl, rfl, hpath⟩

theorem Agree.ok {α : Type} (r : α) : Agree (.ok r) (.ok r) := Or.inl ⟨r, rfl, rfl⟩

theorem encodeItems_agree {as bs : List Value} (hlen : as.length = bs.length)
    (h : ∀ (i : Nat) (a b : Value), as[i]? = some a → bs[i]? = some b →
      ∀ path, Agree (encodeAt [] path a) (encodeAt [] path b))
    (path : Text) (index : Nat) : Agree (encodeItems path index as) (encodeItems path index bs) := by
  induction as generalizing bs index with
  | nil =>
    rw [List.eq_nil_of_length_eq_zero hlen.symm]
    exact .ok []
  | cons a as ih =>
    cases bs with
    | nil => cases hlen
    | cons b bs =>
      rw [encodeItems, encodeItems]
      refine (h 0 a b rfl rfl _).bind fun item => ?_
      refine (ih (Nat.succ.inj hlen) (fun i => h (i + 1)) (index + 1)).bind fun items => .ok _

theorem encodeFields_agree {as bs : Fields Value} (hnames : as.names = bs.names)
    (h : ∀ (i : Nat) (a b : Text × Value), as[i]? = some a → bs[i]? = some b →
      ∀ path, Agree (encodeAt a.1 path a.2) (encodeAt a.1 path b.2))
    (path : Text) : Agree (encodeFields path as) (encodeFields path bs) := by
  induction as generalizing bs with
  | nil =>
    rw [List.map_eq_nil_iff.mp hnames.symm]
    exact .ok []
  | cons a as ih =>
    cases bs with
    | nil => cases hnames
    | cons b bs =>
      obtain ⟨name, v⟩ := a
      obtain ⟨name', w⟩ := b
      obtain ⟨rfl, hrest⟩ := List.cons.inj hnames
      rw [encodeFields, encodeFields]
      refine (h 0 (name, v) (name, w) rfl rfl _).bind fun member => ?_
      refine (ih hrest fun i => h (i + 1)).bind fun members => .ok _

theorem encodeAt_agree {v w : Value} (h : Equal v w) (hclash : NoClash v w) (key path : Text) :
    Agree (encodeAt key path v) (encodeAt key path w) := by
  induction h generalizing key path with
  | value h =>
    rw [encodeAt, encodeAt, encodeScalar_of_same h (hclash [] _ _ rfl rfl)]
    exact .ok _
  | object s => exact .ok _
  | tuple hlen _ ih =>
    rw [encodeAt, encodeAt]
    refine (encodeItems_agree hlen (fun i a b ha hb => ih i a b ha hb ?_ []) path 0).bind
      fun items => .ok _
    exact hclash.of_held (getElem?_held_of_item ha) (getElem?_held_of_item hb)
  | record hnames _ ih =>
    rw [encodeAt, encodeAt]
    refine (encodeFields_agree hnames (fun i a b ha hb => ih i a b ha hb ?_ a.1) path).bind
      fun members => .ok _
    exact hclash.of_held (getElem?_held_of_field ha) (getElem?_held_of_field hb)
  | node tag hnames _ ih =>
    rw [encodeAt, encodeAt]
    refine (encodeFields_agree hnames (fun i a b ha hb => ih i a b ha hb ?_ a.1) path).bind
      fun members => .ok _
    exact hclash.of_held (getElem?_held_of_field ha) (getElem?_held_of_field hb)
  | regex p flags =>
    rw [encodeAt]
    split
    · exact .ok _
    · exact Or.inr ⟨_, _, rfl, rfl, rfl⟩

/-- A part of a tree, with texts for its tag, its pattern and its flags. -/
def IsTreePart : Value → Prop
  | scalar _ | tuple _ | record _ => True
  | node tag _ => ∃ t, tag = .str t
  | regex p flags => (∃ t, p = str t) ∧ ∃ t, flags = str t
  | _ => False

theorem sameItems_spec {as bs : List Value} (h : sameItems as bs = true) :
    as.length = bs.length ∧ ∀ (i : Nat) (a b : Value), as[i]? = some a →
      bs[i]? = some b → a.same b = true := by
  induction as generalizing bs with
  | nil =>
    cases bs with
    | nil => exact ⟨rfl, fun i a b ha => by simp at ha⟩
    | cons b bs => simp [sameItems] at h
  | cons a as ih =>
    cases bs with
    | nil => simp [sameItems] at h
    | cons b bs =>
      rw [sameItems, Bool.and_eq_true] at h
      obtain ⟨hlen, hrest⟩ := ih h.2
      refine ⟨congrArg (· + 1) hlen, fun i c d hc hd => ?_⟩
      cases i with
      | zero =>
        cases hc
        cases hd
        exact h.1
      | succ i => exact hrest i c d hc hd

theorem sameFields_spec {as bs : Fields Value} (h : sameFields as bs = true) :
    as.names = bs.names ∧
      ∀ (i : Nat) (a b : Text × Value), as[i]? = some a → bs[i]? = some b → a.2.same b.2 = true := by
  induction as generalizing bs with
  | nil =>
    cases bs with
    | nil => exact ⟨rfl, fun i a b ha => by simp at ha⟩
    | cons b bs => simp [sameFields] at h
  | cons a as ih =>
    obtain ⟨m, v⟩ := a
    cases bs with
    | nil => simp [sameFields] at h
    | cons b bs =>
      obtain ⟨n, w⟩ := b
      rw [sameFields, Bool.and_eq_true, Bool.and_eq_true, decide_eq_true_eq] at h
      obtain ⟨⟨rfl, hfirst⟩, hrest⟩ := h
      obtain ⟨hnames, hrest⟩ := ih hrest
      refine ⟨congrArg (m :: ·) hnames, fun i c d hc hd => ?_⟩
      cases i with
      | zero =>
        cases hc
        cases hd
        exact hfirst
      | succ i => exact hrest i c d hc hd

theorem eq_str_of_same {t : Text} {s : Scalar} (h : (Scalar.str t).same s = true) : s = .str t := by
  cases s <;> simp [Scalar.same, Scalar.integer?] at h
  rw [h]

theorem eq_str_of_same_str {t : Text} {v : Value} (h : (str t).same v = true) : v = str t := by
  cases v with
  | scalar s =>
    rw [str, same] at h
    exact congrArg scalar (eq_str_of_same h)
  | _ => simp [str, same] at h

/-- Trees are equal if their values are. -/
theorem equal_of_same {v w : Value} (hv : v.Everywhere IsTreePart) (h : v.same w = true) :
    Equal v w := by
  induction v using held_induction generalizing w with
  | step v ih =>
    cases v with
    | scalar s =>
      cases w with
      | scalar t => exact .value (by simpa [same] using h)
      | _ => simp [same] at h
    | tuple as =>
      cases w with
      | tuple bs =>
        obtain ⟨hlen, hitems⟩ := sameItems_spec (by simpa [same] using h)
        refine .tuple hlen fun i a b ha hb => ?_
        have hmem := List.mem_of_getElem? (getElem?_held_of_item ha)
        exact ih _ hmem (hv.of_held hmem) (hitems i a b ha hb)
      | _ => simp [same] at h
    | record as =>
      cases w with
      | record bs =>
        obtain ⟨hnames, hfields⟩ := sameFields_spec (by simpa [same] using h)
        refine .record hnames fun i a b ha hb => ?_
        have hmem := List.mem_of_getElem? (getElem?_held_of_field (v := record as) ha)
        exact ih _ hmem (hv.of_held hmem) (hfields i a b ha hb)
      | _ => simp [same] at h
    | node tag as =>
      obtain ⟨t, rfl⟩ := hv.self
      cases w with
      | node tag' bs =>
        rw [same, Bool.and_eq_true] at h
        obtain ⟨hnames, hfields⟩ := sameFields_spec h.2
        obtain rfl := eq_str_of_same h.1
        refine .node t hnames fun i a b ha hb => ?_
        have hmem := List.mem_of_getElem? (getElem?_held_of_field (v := node (.str t) as) ha)
        exact ih _ hmem (hv.of_held hmem) (hfields i a b ha hb)
      | _ => simp [same] at h
    | regex p flags =>
      obtain ⟨⟨p, rfl⟩, flags, rfl⟩ := hv.self
      cases w with
      | regex p' flags' =>
        rw [same, Bool.and_eq_true] at h
        obtain rfl := eq_str_of_same_str h.1
        obtain rfl := eq_str_of_same_str h.2
        exact .regex p flags
      | _ => simp [same] at h
    | list items => exact hv.self.elim
    | dict entries => exact hv.self.elim
    | bag attributes => exact hv.self.elim
    | pattern source => exact hv.self.elim
    | foreign kind => exact hv.self.elim

/-- Equal trees have equal text, or both are refused with one path. -/
theorem serialize_agree {v w : Value} (h : Equal v w) (hclash : NoClash v w) (layout : Json.Layout) :
    Agree (v.serialize layout) (w.serialize layout) :=
  (encodeAt_agree h hclash [] []).bind fun _ => .ok _

theorem serialize_agree_tuple :
    ∃ t, serialize standardLayout (tuple [scalar (.int 0), bool true]) = .ok t ∧
      serialize standardLayout (tuple [scalar (.float (Double.zero true)), bool true]) = .ok t := by
  have hparts : (tuple [scalar (.int 0), bool true]).Everywhere IsTreePart := by
    refine everywhere_of_held trivial fun inner hinner => ?_
    simp only [held, List.map_cons, List.map_nil, List.mem_cons, List.not_mem_nil, or_false] at hinner
    rcases hinner with rfl | rfl <;> exact everywhere_of_held_eq_nil trivial rfl
  have hclash : NoClash (tuple [scalar (.int 0), bool true])
      (tuple [scalar (.float (Double.zero true)), bool true]) := by
    refine noClash_of_held (fun s t hs => by cases hs) fun i x y hx hy => ?_
    rcases i with _ | _ | i <;> cases hx <;> cases hy
    all_goals
      refine noClash_of_held (fun s t hs ht => ?_) fun i x y hx => by cases hx
      cases hs
      cases ht
      exact id
  rcases serialize_agree (equal_of_same hparts (by decide +kernel)) hclash standardLayout with
    ⟨t, hv, hw⟩ | ⟨e, e', he, -⟩
  · exact ⟨t, hv, hw⟩
  · cases he

end Value

end ScriptTree
