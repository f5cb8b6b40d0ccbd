import ScriptTree.Files.Source
import ScriptTree.Proofs.Text.Lines

namespace ScriptTree

/-- A code point that may stand in the name of a file: not zero, and no surrogate half but one that
stands for a byte. -/
def CodePoint.IsNameable (c : CodePoint) : Prop := (c.IsSurrogate → c.isByteHalf = true) ∧ c.val ≠ 0

instance : DecidablePred CodePoint.IsNameable := fun c =>
  inferInstanceAs (Decidable ((c.IsSurrogate → c.isByteHalf = true) ∧ c.val ≠ 0))

namespace Text

theorem join_append_prefix (separator : Text) (parts more : List Text) :
    join separator parts <+: join separator (parts ++ more) := by
  induction parts with
  | nil => exact List.nil_prefix
  | cons part parts ih =>
    by_cases hend : parts ++ more = []
    · rw [List.append_eq_nil_iff.mp hend |>.1, List.append_eq_nil_iff.mp hend |>.2]
      exact List.prefix_refl _
    · rw [List.cons_append, join.eq_3 _ _ _ hend]
      by_cases hparts : parts = []
      · rw [hparts, join, List.append_assoc]
        exact List.prefix_append _ _
      · rw [join.eq_3 _ _ _ hparts]
        exact (List.prefix_append_right_inj _).mpr ih

theorem nameBytes_append (s t : Text) : nameBytes (s ++ t) = nameBytes s + nameBytes t := by
  have hfoldl : ∀ (t : Text) (n : Nat), t.foldl (fun n c => n + c.nameBytes) n = n + nameBytes t := by
    intro t
    induction t with
    | nil => exact fun n => rfl
    | cons c t ih =>
      intro n
      rw [nameBytes, List.foldl_cons, List.foldl_cons, ih, ih, Nat.zero_add, Nat.add_assoc]
  rw [nameBytes, List.foldl_append]
  exact hfoldl t _

theorem nameBytes_pos {t : Text} (h : t ≠ []) : 0 < nameBytes t := by
  obtain ⟨c, rest, rfl⟩ := List.exists_cons_of_ne_nil h
  have hc : 0 < c.nameBytes := by
    unfold CodePoint.nameBytes
    repeat' split
    all_goals decide
  have hcons : nameBytes (c :: rest) = nameBytes [c] + nameBytes rest := nameBytes_append [c] rest
  have hone : nameBytes [c] = c.nameBytes := Nat.zero_add _
  omega

theorem surrogateFlaw?_eq_none_iff {t : Text} (position : Nat) :
    surrogateFlaw? position t = none ↔ ∀ c ∈ t, c.IsSurrogate → c.isByteHalf = true := by
  induction t generalizing position with
  | nil => simp [surrogateFlaw?]
  | cons c t ih =>
    rw [surrogateFlaw?, List.forall_mem_cons]
    split
    next h =>
      simp only [reduceCtorEq, false_iff]
      rintro ⟨hhere, -⟩
      rw [hhere h.1] at h
      exact absurd h.2 (by decide)
    next h =>
      rw [ih]
      simp only [Bool.not_eq_true', not_and, Bool.not_eq_false] at h
      exact (and_iff_right h).symm

theorem pathFlaw?_eq_none_iff {t : Text} : t.pathFlaw? = none ↔ ∀ c ∈ t, c.IsNameable := by
  have hzero : (t.any (·.val = 0)) = true ↔ ∃ c ∈ t, c.val = 0 := by simp
  have hflaw : t.pathFlaw? = none ↔ surrogateFlaw? 0 t = none ∧
      (if t.any (·.val = 0) then some PathFlaw.zero else none) = none := by
    rw [pathFlaw?]
    cases surrogateFlaw? 0 t with
    | none => exact (and_iff_right rfl).symm
    | some flaw => simp
  rw [hflaw, surrogateFlaw?_eq_none_iff]
  constructor
  · rintro ⟨hs, hz⟩ c hc
    refine ⟨hs c hc, fun h0 => ?_⟩
    rw [if_pos (hzero.mpr ⟨c, hc, h0⟩)] at hz
    cases hz
  · intro h
    refine ⟨fun c hc => (h c hc).1, if_neg fun hz => ?_⟩
    obtain ⟨c, hc, h0⟩ := hzero.mp hz
    exact (h c hc).2 h0

end Text

namespace Path

/-- A name that stands between slashes and is not dropped there. -/
structure IsSegment (name : Text) : Prop where
  ne_nil : name ≠ []
  ne_dot : name ≠ "."
  slash : slash ∉ name

/-- All names of a path are segments of texts. -/
def IsProper (p : Path) : Prop := ∀ name ∈ p.names, IsSegment name

theorem IsSegment.isName {name : Text} (h : IsSegment name) : Path.isName name = true := by
  simp [Path.isName, h.ne_nil, h.ne_dot]

theorem isProper_ofText (t : Text) : (ofText t).IsProper := by
  intro name hname
  obtain ⟨hsplit, hkept⟩ := List.mem_filter.mp hname
  simp only [Path.isName, Bool.and_eq_true, decide_eq_true_eq] at hkept
  exact ⟨hkept.1, hkept.2, Text.not_mem_of_mem_split hsplit⟩

/-- The empty segments that an anchor makes at the start of a text. -/
def blanks : Anchor → List Text
  | .relative => []
  | .root => [[]]
  | .doubleRoot => [[], []]

theorem split_bareText {p : Path} (h : p.IsProper) (hne : p.names ≠ []) :
    Text.split slash p.bareText = blanks p.anchor ++ p.names := by
  have hjoin : Text.split slash (Text.join [slash] p.names) = p.names :=
    Text.split_join hne fun name hname => (h name hname).slash
  have hcons : ∀ t : Text, Text.split slash (Text.ofString "/" ++ t) = [] :: Text.split slash t :=
    fun t => Text.split_cons_self slash t
  rw [bareText]
  cases p.anchor with
  | relative => exact hjoin
  | root => exact (hcons _).trans (congrArg _ hjoin)
  | doubleRoot =>
    have htwo : Text.ofString "//" = Text.ofString "/" ++ Text.ofString "/" := rfl
    rw [Anchor.text, htwo, List.append_assoc, hcons, hcons, hjoin]
    rfl

theorem head_join_ne_slash {p : Path} (h : p.IsProper) :
    (Text.join [slash] p.names).takeWhile (· = slash) = [] := by
  cases hn : p.names with
  | nil => rfl
  | cons name names =>
    have hseg := h name (by simp [hn])
    obtain ⟨c, rest, hc⟩ := List.exists_cons_of_ne_nil hseg.ne_nil
    have hslash : c ≠ slash := fun e => hseg.slash (by simp [hc, e])
    rw [hc, Text.join_cons_head, List.takeWhile_cons_of_neg (by simpa using hslash)]

theorem anchorOf_bareText {p : Path} (h : p.IsProper) : anchorOf p.bareText = p.anchor := by
  have hhead := head_join_ne_slash h
  have hcons : ∀ t : Text, (slash :: t).takeWhile (· = slash) = slash :: t.takeWhile (· = slash) :=
    fun t => List.takeWhile_cons_of_pos (by simp)
  rw [anchorOf, bareText]
  cases p.anchor with
  | relative =>
    rw [show Anchor.relative.text ++ Text.join [slash] p.names =
      Text.join [slash] p.names from rfl, hhead]
    rfl
  | root =>
    rw [show Anchor.root.text ++ Text.join [slash] p.names =
      slash :: Text.join [slash] p.names from rfl, hcons,
      hhead]
    rfl
  | doubleRoot =>
    rw [show Anchor.doubleRoot.text ++ Text.join [slash] p.names =
      slash :: slash :: Text.join [slash] p.names from rfl,
      hcons, hcons, hhead]
    rfl

theorem text_eq_bareText {p : Path} (hne : p.names ≠ []) : p.text = p.bareText := by
  obtain ⟨anchor, names⟩ := p
  cases names with
  | nil => exact absurd rfl hne
  | cons name names => cases anchor <;> rfl

/-- The text of a path denotes the path. -/
theorem ofText_text {p : Path} (h : p.IsProper) : ofText p.text = p := by
  by_cases hne : p.names = []
  · obtain ⟨anchor, names⟩ := p
    cases hne
    cases anchor <;> decide +kernel
  · rw [text_eq_bareText hne, ofText, anchorOf_bareText h, split_bareText h hne, List.filter_append]
    have hblanks : (blanks p.anchor).filter Path.isName = [] := by cases p.anchor <;> rfl
    rw [hblanks, List.nil_append, List.filter_eq_self.mpr fun name hname => (h name hname).isName]

theorem mem_text {p : Path} {c : CodePoint} (h : c ∈ p.text) :
    c = slash ∨ c = CodePoint.ofChar '.' ∨ ∃ name ∈ p.names, c ∈ name := by
  by_cases hne : p.names = []
  · obtain ⟨anchor, names⟩ := p
    cases hne
    cases anchor with
    | relative => exact Or.inr (Or.inl (List.mem_singleton.mp h))
    | root => exact Or.inl (List.mem_singleton.mp h)
    | doubleRoot =>
      rcases List.mem_cons.mp h with h | h
      · exact Or.inl h
      · exact Or.inl (List.mem_singleton.mp h)
  · rw [text_eq_bareText hne, bareText] at h
    rcases List.mem_append.mp h with h | h
    · have hanchor : ∀ a : Anchor, c ∈ a.text → c = slash := by
        intro a ha
        cases a with
        | relative => cases ha
        | root => exact List.mem_singleton.mp ha
        | doubleRoot =>
          rcases List.mem_cons.mp ha with ha | ha
          · exact ha
          · exact List.mem_singleton.mp ha
      exact Or.inl (hanchor p.anchor h)
    · rcases Text.mem_join h with h | h
      · exact Or.inl (List.mem_singleton.mp h)
      · exact Or.inr (Or.inr h)

@[simp] theorem append_nil (p : Path) : p.append [] = p := by
  rw [append, List.append_nil]

@[simp] theorem append_append (p : Path) (names more : List Text) :
    (p.append names).append more = p.append (names ++ more) := by
  rw [append, append, append, List.append_assoc]

@[simp] theorem parent_append_singleton (p : Path) (name : Text) : (p.append [name]).parent = p := by
  rw [parent, append, List.dropLast_concat]

theorem parent_append_name {p : Path} (h : p.names ≠ []) : p.parent.append [p.name] = p := by
  simp only [append, parent, name, List.getLast?_eq_some_getLast h, Option.getD_some,
    List.dropLast_concat_getLast]

/-- A path is no longer than one that goes on below it. -/
theorem nameBytes_text_le (p : Path) {more : List Text} (h : (p.append more).IsProper) :
    Text.nameBytes p.text ≤ Text.nameBytes (p.append more).text := by
  by_cases hmore : more = []
  · exact Nat.le_of_eq (by rw [hmore, append_nil])
  by_cases hnames : p.names = []
  · obtain ⟨anchor, names⟩ := p
    cases hnames
    have hbare : (append ⟨anchor, []⟩ more).text = anchor.text ++ Text.join [slash] more :=
      text_eq_bareText hmore
    obtain ⟨first, rest, rfl⟩ := List.exists_cons_of_ne_nil hmore
    obtain ⟨tail, htail⟩ := Text.join_append_prefix [slash] [first] rest
    have hfirst := Text.nameBytes_pos (h first List.mem_cons_self).ne_nil
    change _ = Text.join [slash] (first :: rest) at htail
    rw [hbare, ← htail, Text.join, Text.nameBytes_append, Text.nameBytes_append]
    cases anchor with
    | relative => exact Nat.le_trans hfirst (by omega)
    | root => exact Nat.le_add_right _ _
    | doubleRoot => exact Nat.le_add_right _ _
  · have hlong : (p.append more).names ≠ [] := fun h => hnames (List.append_eq_nil_iff.mp h).1
    obtain ⟨tail, htail⟩ := Text.join_append_prefix [slash] p.names more
    rw [text_eq_bareText hnames, text_eq_bareText hlong, bareText, bareText]
    simp only [append, ← htail, Text.nameBytes_append]
    omega

theorem isLongPath_text {p : Path} {more : List Text} (h : (p.append more).IsProper)
    (hlong : (p.append more).text.isLongPath = false) : p.text.isLongPath = false := by
  have hle := nameBytes_text_le p h
  simp only [Text.isLongPath, decide_eq_false_iff_not] at hlong ⊢
  omega

/-- A path that a text can name: its names stand between slashes and hold only code points of names. -/
structure IsNameable (p : Path) : Prop where
  proper : p.IsProper
  nameable : ∀ name ∈ p.names, ∀ c ∈ name, c.IsNameable

theorem isNameable_ofText {t : Text} (h : t.pathFlaw? = none) : (ofText t).IsNameable := by
  refine ⟨isProper_ofText t, fun name hname c hc => ?_⟩
  exact Text.pathFlaw?_eq_none_iff.mp h c (Text.mem_of_mem_split (List.mem_filter.mp hname).1 hc)

theorem IsNameable.pathFlaw?_text {p : Path} (h : p.IsNameable) : p.text.pathFlaw? = none := by
  rw [Text.pathFlaw?_eq_none_iff]
  intro c hc
  rcases mem_text hc with rfl | rfl | ⟨name, hname, hc⟩
  · exact ⟨fun hs => absurd hs (by decide), by decide⟩
  · exact ⟨fun hs => absurd hs (by decide), by decide⟩
  · exact h.nameable name hname c hc

theorem mem_text_of_mem {p : Path} {name : Text} (hname : name ∈ p.names)
    {c : CodePoint} (hc : c ∈ name) :
    c ∈ p.text := by
  rw [text_eq_bareText (List.ne_nil_of_mem hname), bareText]
  exact List.mem_append_right _ (Text.mem_join_of_mem hname hc)

/-- A path that no text can name stays so with more names. -/
theorem pathFlaw?_text_append {p : Path} (hproper : p.IsProper)
    (h : ¬ p.IsNameable) (more : List Text) :
    ∃ flaw, (p.append more).text.pathFlaw? = some flaw := by
  cases hflaw : (p.append more).text.pathFlaw? with
  | some flaw => exact ⟨flaw, rfl⟩
  | none =>
    refine absurd ⟨hproper, fun name hname c hc => ?_⟩ h
    exact Text.pathFlaw?_eq_none_iff.mp hflaw c (mem_text_of_mem (List.mem_append_left more hname) hc)

end Path

/-- The text of a path that has names ends with the last of them. -/
theorem FileSystem.endingOf_text {p : Path} (h : p.IsProper) (hne : p.names ≠ []) :
    endingOf p.text = .plain := by
  obtain ⟨init, last, hnames⟩ : ∃ init last, p.names = init ++ [last] :=
    ⟨_, _, (List.dropLast_concat_getLast hne).symm⟩
  have hlast := h last (by simp [hnames])
  have hend : (Text.split Path.slash p.text).getLast?.getD [] = last := by
    rw [Path.text_eq_bareText hne, Path.split_bareText h hne, hnames, ← List.append_assoc,
      List.getLast?_concat]
    rfl
  rw [endingOf, hend]
  obtain ⟨c, rest, hc⟩ := List.exists_cons_of_ne_nil hlast.ne_nil
  subst hc
  exact if_neg hlast.ne_dot

end ScriptTree
