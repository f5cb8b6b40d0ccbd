import ScriptTree.Text.Utf8

namespace ScriptTree

namespace CodePoint

theorem eq_of_val_eq {c d : CodePoint} (h : c.val = d.val) : c = d := by
  cases c
  cases d
  simp_all

theorem not_isHigh_of_not_isSurrogate {c : CodePoint} (h : ¬ c.IsSurrogate) : ¬ c.IsHigh :=
  fun hh => h ⟨hh.1, by have := hh.2; omega⟩

theorem not_isLow_of_not_isSurrogate {c : CodePoint} (h : ¬ c.IsSurrogate) : ¬ c.IsLow :=
  fun hl => h ⟨by have := hl.1; omega, hl.2⟩

theorem val_ofPair {high low : CodePoint} (hh : high.IsHigh) (hl : low.IsLow) :
    (ofPair high low).val = 0x10000 + (high.val - 0xD800) * 0x400 + (low.val - 0xDC00) := by
  obtain ⟨h1, h2⟩ := hh
  obtain ⟨h3, h4⟩ := hl
  exact val_ofNat (by omega)

theorem not_isSurrogate_ofPair {high low : CodePoint} (hh : high.IsHigh) (hl : low.IsLow) :
    ¬ (ofPair high low).IsSurrogate := by
  intro hs
  have hv := val_ofPair hh hl
  have := hs.2
  omega

end CodePoint

namespace Text

/-- No pair of halves stands across the border of two texts. -/
def Apart (a b : Text) : Prop := ∀ x ∈ a.getLast?, ∀ y ∈ b.head?, ¬ (x.IsHigh ∧ y.IsLow)

theorem apart_of_last {a : Text} (h : ∀ x ∈ a.getLast?, ¬ x.IsHigh) (b : Text) : Apart a b :=
  fun x hx _ _ hp => h x hx hp.1

theorem apart_nil (a : Text) : Apart a [] := by
  simp [Apart]

theorem joinPairs_pair {high low : CodePoint} (hh : high.IsHigh) (hl : low.IsLow) (rest : Text) :
    joinPairs (high :: low :: rest) = CodePoint.ofPair high low :: joinPairs rest := by
  rw [joinPairs, if_pos ⟨hh, hl⟩]

theorem joinPairs_cons {c : CodePoint} {rest : Text} (h : Apart [c] rest) :
    joinPairs (c :: rest) = c :: joinPairs rest := by
  cases rest with
  | nil => rfl
  | cons d rest =>
    have hp : ¬ (c.IsHigh ∧ d.IsLow) := h c rfl d rfl
    rw [joinPairs, if_neg hp]

theorem joinPairs_append {a b : Text} (h : Apart a b) :
    joinPairs (a ++ b) = joinPairs a ++ joinPairs b := by
  induction a using joinPairs.induct with
  | case1 => rfl
  | case2 c => exact joinPairs_cons h
  | case3 high low rest hp ih =>
    have hrest : Apart rest b := by
      intro x hx
      exact h x (by simp [List.getLast?_cons, Option.mem_def.mp hx])
    simp only [List.cons_append, joinPairs_pair hp.1 hp.2, ih hrest]
  | case4 high low rest hp ih =>
    have hrest : Apart (low :: rest) b := by
      intro x hx
      exact h x (by simpa [List.getLast?_cons] using hx)
    have hfirst : ∀ t : Text, Apart [high] (low :: t) := by
      intro t x hx y hy
      cases hx
      cases hy
      exact hp
    simp only [List.cons_append, joinPairs_cons (hfirst _)] at ih ⊢
    rw [ih hrest]

theorem joinPairs_eq_self {t : Text} (h : ∀ c ∈ t, ¬ c.IsHigh) : joinPairs t = t := by
  induction t with
  | nil => rfl
  | cons c rest ih =>
    have hc : Apart [c] rest := apart_of_last (by simpa using h c (by simp)) rest
    rw [joinPairs_cons hc, ih fun d hd => h d (List.mem_cons_of_mem c hd)]

/-- A pair that has been joined shows as a large code point. -/
theorem joinPairs_eq_self_of_small {t : Text} (h : ∀ c ∈ joinPairs t, c.val < 0x10000) :
    joinPairs t = t := by
  induction t using joinPairs.induct with
  | case1 => rfl
  | case2 c => rfl
  | case3 high low rest hp ih =>
    have hpair := CodePoint.val_ofPair hp.1 hp.2
    rw [joinPairs_pair hp.1 hp.2] at h
    have hsmall := h _ List.mem_cons_self
    omega
  | case4 high low rest hp ih =>
    rw [joinPairs, if_neg hp] at h ⊢
    rw [ih fun c hc => h c (List.mem_cons_of_mem high hc)]

/-- The first code point after joining is a low half only if it was one before. -/
theorem head_joinPairs_isLow {t : Text} {c : CodePoint} (hc : (joinPairs t).head? = some c)
    (hl : c.IsLow) : t.head? = some c := by
  cases t using joinPairs.fun_cases with
  | case1 => simp [joinPairs] at hc
  | case2 d => exact hc
  | case3 high low rest hp =>
    rw [joinPairs_pair hp.1 hp.2] at hc
    cases Option.some.inj hc
    exact absurd hl (CodePoint.not_isLow_of_not_isSurrogate
      (CodePoint.not_isSurrogate_ofPair hp.1 hp.2))
  | case4 high low rest hp =>
    rw [joinPairs, if_neg hp] at hc
    exact hc

theorem joinPairs_joinPairs (t : Text) : joinPairs (joinPairs t) = joinPairs t := by
  induction t using joinPairs.induct with
  | case1 => rfl
  | case2 c => rfl
  | case3 high low rest hp ih =>
    have hc := CodePoint.not_isHigh_of_not_isSurrogate (CodePoint.not_isSurrogate_ofPair hp.1 hp.2)
    rw [joinPairs_pair hp.1 hp.2, joinPairs_cons (apart_of_last (by simpa using hc) _), ih]
  | case4 high low rest hp ih =>
    have hjoin : joinPairs (high :: low :: rest) = high :: joinPairs (low :: rest) := by
      rw [joinPairs, if_neg hp]
    have hc : Apart [high] (joinPairs (low :: rest)) := by
      rintro x hx y hy ⟨hh, hl⟩
      cases hx
      cases head_joinPairs_isLow hy hl
      exact hp ⟨hh, hl⟩
    rw [hjoin, joinPairs_cons hc, ih]

theorem hexadecimal_succ (width : Nat) (n : Nat) :
    hexadecimal (width + 2) n = hexadecimal (width + 1)
      (n / 16) ++ [CodePoint.ofChar (n % 16).digitChar] := by
  simp only [hexadecimal]
  by_cases h : n < 16
  · rw [Nat.toDigits_of_lt_base h, Nat.div_eq_of_lt h, Nat.mod_eq_of_lt h, Nat.toDigits_zero]
    simp [List.replicate_succ']
  · rw [Nat.toDigits_of_base_le (by decide) (Nat.le_of_not_lt h)]
    simp

/-- A unit of sixteen bits as four digits. -/
theorem hexadecimal_four {n : Nat} (h : n < 0x10000) :
    hexadecimal 4 n = [n / 0x1000, n / 0x100 % 16, n / 0x10 % 16, n % 16].map
      fun d => CodePoint.ofChar d.digitChar := by
  have hone : hexadecimal 1 (n / 0x1000) = [CodePoint.ofChar (n / 0x1000).digitChar] := by
    rw [hexadecimal, Nat.toDigits_of_lt_base (by omega)]
    rfl
  have htwo : n / 0x10 / 0x10 = n / 0x100 := by omega
  have hthree : n / 0x100 / 0x10 = n / 0x1000 := by omega
  rw [hexadecimal_succ, hexadecimal_succ, hexadecimal_succ, htwo, hthree, hone]
  rfl

theorem hexValue_digitChar : ∀ d < 16, (CodePoint.ofChar (Nat.digitChar d)).hexValue? = some d := by
  decide

theorem not_isSurrogate_digitChar : ∀ d < 16, ¬ (CodePoint.ofChar (Nat.digitChar d)).IsSurrogate := by
  decide

theorem not_isSurrogate_of_mem_unitEscape {c d : CodePoint} (hc : c.val < 0x10000)
    (hd : d ∈ unitEscape c) : ¬ d.IsSurrogate := by
  have hmark : ∀ d ∈ ofString "\\u", ¬ d.IsSurrogate := by decide
  rw [unitEscape, hexadecimal_four hc] at hd
  rcases List.mem_append.mp hd with hd | hd
  · exact hmark d hd
  · obtain ⟨n, hn, rfl⟩ := List.mem_map.mp hd
    apply not_isSurrogate_digitChar
    simp only [List.mem_cons, List.not_mem_nil, or_false] at hn
    omega

theorem not_isSurrogate_of_mem_escapeHalves {t : Text} {d : CodePoint} (h : d ∈ escapeHalves t) :
    ¬ d.IsSurrogate := by
  obtain ⟨c, _, hd⟩ := List.mem_flatMap.mp h
  split at hd
  next hs =>
    have hlt := hs.2
    exact not_isSurrogate_of_mem_unitEscape (by omega) hd
  next hs =>
    cases List.mem_singleton.mp hd
    exact hs

theorem escapeHalves_append (a b : Text) : escapeHalves (a ++ b) = escapeHalves a ++ escapeHalves b :=
  List.flatMap_append

theorem escapeHalves_eq_self {t : Text} (h : ∀ c ∈ t, ¬ c.IsSurrogate) : escapeHalves t = t := by
  induction t with
  | nil => rfl
  | cons c rest ih =>
    have hrest := ih fun d hd => h d (List.mem_cons_of_mem c hd)
    rw [escapeHalves] at hrest ⊢
    rw [List.flatMap_cons, hrest, if_neg (h c (by simp))]
    rfl

theorem escapeSurrogates_append {a b : Text} (h : Apart a b) :
    escapeSurrogates (a ++ b) = escapeSurrogates a ++ escapeSurrogates b := by
  rw [escapeSurrogates, joinPairs_append h, escapeHalves_append]
  rfl

theorem escapeSurrogates_eq_self {t : Text} (h : ∀ c ∈ t, ¬ c.IsSurrogate) :
    escapeSurrogates t = t := by
  rw [escapeSurrogates, joinPairs_eq_self fun c hc => CodePoint.not_isHigh_of_not_isSurrogate (h c hc),
    escapeHalves_eq_self h]

/-- What stands before the first half of a text is left as it is. -/
theorem escapeSurrogates_append_left {a : Text} (h : ∀ c ∈ a, ¬ c.IsSurrogate) (b : Text) :
    escapeSurrogates (a ++ b) = a ++ escapeSurrogates b := by
  have happart : Apart a b := apart_of_last
    (fun c hc => CodePoint.not_isHigh_of_not_isSurrogate (h c (List.mem_of_getLast? hc))) b
  rw [escapeSurrogates_append happart, escapeSurrogates_eq_self h]

theorem escapeSurrogates_cons {c : CodePoint} (h : ¬ c.IsSurrogate) (rest : Text) :
    escapeSurrogates (c :: rest) = c :: escapeSurrogates rest :=
  escapeSurrogates_append_left (a := [c]) (by simpa using h) rest

theorem not_isSurrogate_of_mem_escapeSurrogates {t : Text} {d : CodePoint}
    (h : d ∈ escapeSurrogates t) : ¬ d.IsSurrogate :=
  not_isSurrogate_of_mem_escapeHalves h

end Text

end ScriptTree
