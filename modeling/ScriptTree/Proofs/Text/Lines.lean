import ScriptTree.Basic

namespace ScriptTree

namespace Text

theorem split_cons_self (separator : CodePoint) (rest : Text) :
    split separator (separator :: rest) = [] :: split separator rest := by
  obtain ⟨part, parts, h⟩ := List.exists_cons_of_ne_nil (split_ne_nil separator rest)
  simp [split, h]

theorem split_cons_ne {separator c : CodePoint} {rest part : Text} {parts : List Text}
    (hc : c ≠ separator) (h : split separator rest = part :: parts) :
    split separator (c :: rest) = (c :: part) :: parts := by
  simp [split, h, hc]

theorem join_cons_head (separator : Text) (c : CodePoint) (part : Text) (parts : List Text) :
    join separator ((c :: part) :: parts) = c :: join separator (part :: parts) := by
  cases parts with
  | nil => rfl
  | cons next parts => simp [join]

theorem join_split (separator : CodePoint) (t : Text) : join [separator] (split separator t) = t := by
  induction t with
  | nil => rfl
  | cons c rest ih =>
    obtain ⟨part, parts, h⟩ := List.exists_cons_of_ne_nil (split_ne_nil separator rest)
    rw [h] at ih
    by_cases hc : c = separator
    · subst c
      rw [split_cons_self, h]
      simp [join, ih]
    · rw [split_cons_ne hc h, join_cons_head, ih]

theorem split_eq_singleton {separator : CodePoint} {t : Text} (h : separator ∉ t) :
    split separator t = [t] := by
  induction t with
  | nil => rfl
  | cons c rest ih =>
    have hc : c ≠ separator := fun e => h (by simp [e])
    exact split_cons_ne hc (ih fun hm => h (by simp [hm]))

theorem split_append_cons {separator : CodePoint} {part : Text} (h : separator ∉ part) (rest : Text) :
    split separator (part ++ separator :: rest) = part :: split separator rest := by
  induction part with
  | nil => exact split_cons_self separator rest
  | cons c part ih =>
    have hc : c ≠ separator := fun e => h (by simp [e])
    exact split_cons_ne hc (ih fun hm => h (by simp [hm]))

theorem split_append_separator (separator : CodePoint) (s t : Text) :
    split separator (s ++ separator :: t) = split separator s ++ split separator t := by
  induction s with
  | nil => exact split_cons_self separator t
  | cons c s ih =>
    obtain ⟨part, parts, hs⟩ := List.exists_cons_of_ne_nil (split_ne_nil separator s)
    by_cases hc : c = separator
    · subst c
      rw [List.cons_append, split_cons_self, split_cons_self, ih, List.cons_append]
    · rw [hs, List.cons_append] at ih
      rw [List.cons_append, split_cons_ne hc ih, split_cons_ne hc hs, List.cons_append]

/-- What follows a text without a separator in it lengthens the last part. -/
theorem exists_split_append {separator : CodePoint} {t : Text} (h : separator ∉ t) (s : Text) :
    ∃ parts last, split separator s = parts ++ [last] ∧
      split separator (s ++ t) = parts ++ [last ++ t] := by
  induction s with
  | nil => exact ⟨[], [], rfl, split_eq_singleton h⟩
  | cons c s ih =>
    obtain ⟨parts, last, hs, hst⟩ := ih
    by_cases hc : c = separator
    · subst c
      refine ⟨[] :: parts, last, ?_, ?_⟩
      · rw [split_cons_self, hs, List.cons_append]
      · rw [List.cons_append, split_cons_self, hst, List.cons_append]
    · cases parts with
      | nil => exact ⟨[], c :: last, split_cons_ne hc hs, split_cons_ne hc hst⟩
      | cons part parts => exact ⟨(c :: part) :: parts, last, split_cons_ne hc hs, split_cons_ne hc hst⟩

theorem split_join {separator : CodePoint} {parts : List Text} (hne : parts ≠ [])
    (h : ∀ part ∈ parts, separator ∉ part) : split separator (join [separator] parts) = parts := by
  induction parts with
  | nil => exact absurd rfl hne
  | cons part parts ih =>
    have hp := h part (by simp)
    cases parts with
    | nil => exact split_eq_singleton hp
    | cons next parts =>
      have hrest := ih (by simp) fun q hq => h q (List.mem_cons_of_mem part hq)
      rw [join, List.append_assoc, List.singleton_append, split_append_cons hp, hrest]
      simp

theorem not_mem_of_mem_split {separator : CodePoint} {t part : Text}
    (h : part ∈ split separator t) : separator ∉ part := by
  induction t generalizing part with
  | nil => simp_all [split]
  | cons c rest ih =>
    obtain ⟨first, parts, hs⟩ := List.exists_cons_of_ne_nil (split_ne_nil separator rest)
    by_cases hc : c = separator
    · subst c
      rw [split_cons_self] at h
      rcases List.mem_cons.mp h with rfl | hm
      · simp
      · exact ih hm
    · rw [split_cons_ne hc hs] at h
      rcases List.mem_cons.mp h with rfl | hm
      · have hf : separator ∉ first := ih (by simp [hs])
        simp [hf, Ne.symm hc]
      · exact ih (by simp [hs, hm])

theorem mem_join {separator : Text} {parts : List Text} {c : CodePoint} (h : c ∈ join separator parts) :
    c ∈ separator ∨ ∃ part ∈ parts, c ∈ part := by
  induction parts with
  | nil => cases h
  | cons part parts ih =>
    cases parts with
    | nil => exact Or.inr ⟨part, by simp, h⟩
    | cons next parts =>
      change c ∈ part ++ separator ++ join separator (next :: parts) at h
      rcases List.mem_append.mp h with h | h
      · rcases List.mem_append.mp h with h | h
        · exact Or.inr ⟨part, by simp, h⟩
        · exact Or.inl h
      · rcases ih h with h | ⟨p, hp, hc⟩
        · exact Or.inl h
        · exact Or.inr ⟨p, List.mem_cons_of_mem part hp, hc⟩

theorem mem_join_of_mem {separator part : Text} {parts : List Text} (hp : part ∈ parts) {c : CodePoint}
    (hc : c ∈ part) :
    c ∈ join separator parts := by
  induction parts with
  | nil => cases hp
  | cons first parts ih =>
    by_cases hparts : parts = []
    · rw [hparts, List.mem_singleton] at hp
      rw [hparts, join, ← hp]
      exact hc
    · rw [join.eq_3 _ _ _ hparts]
      rcases List.mem_cons.mp hp with rfl | hp
      · exact List.mem_append_left _ (List.mem_append_left _ hc)
      · exact List.mem_append_right _ (ih hp)

theorem mem_of_mem_split {separator : CodePoint} {t part : Text}
    (hp : part ∈ split separator t) {c : CodePoint} (hc : c ∈ part) : c ∈ t := by
  induction t generalizing part with
  | nil =>
    rw [List.mem_singleton.mp hp] at hc
    exact hc
  | cons d t ih =>
    obtain ⟨first, parts, hs⟩ := List.exists_cons_of_ne_nil (split_ne_nil separator t)
    by_cases hd : d = separator
    · rw [hd, split_cons_self] at hp
      rcases List.mem_cons.mp hp with rfl | hp
      · cases hc
      · exact List.mem_cons_of_mem d (ih hp hc)
    · rw [split_cons_ne hd hs] at hp
      rcases List.mem_cons.mp hp with rfl | hp
      · rcases List.mem_cons.mp hc with rfl | hc
        · exact List.mem_cons_self
        · exact List.mem_cons_of_mem d (ih (by simp [hs]) hc)
      · exact List.mem_cons_of_mem d (ih (by simp [hs, hp]) hc)

theorem unlines_lines (t : Text) : unlines (lines t) = t := join_split _ t

theorem lines_unlines {ls : List Text} (hne : ls ≠ [])
    (h : ∀ l ∈ ls, CodePoint.ofChar '\n' ∉ l) : lines (unlines ls) = ls := split_join hne h

/-- The lines of joined texts are the lines of each of them. -/
theorem lines_unlines_eq_flatMap {texts : List Text} (hne : texts ≠ []) :
    lines (unlines texts) = texts.flatMap lines := by
  induction texts with
  | nil => exact absurd rfl hne
  | cons t texts ih =>
    cases texts with
    | nil => simp [unlines, join]
    | cons next texts =>
      have hjoin : unlines (t :: next :: texts) =
          t ++ CodePoint.ofChar '\n' :: unlines (next :: texts) := by
        simp [unlines, join]
      rw [hjoin, lines, split_append_separator, List.flatMap_cons, ← ih (List.cons_ne_nil _ _)]
      rfl

theorem newline_not_mem_line {t line : Text} (h : line ∈ lines t) : CodePoint.ofChar '\n' ∉ line :=
  not_mem_of_mem_split h

end Text

end ScriptTree
