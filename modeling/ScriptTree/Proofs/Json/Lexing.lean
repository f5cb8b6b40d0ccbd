import ScriptTree.Proofs.Json.Quoted
import ScriptTree.Proofs.Number.Written

namespace ScriptTree

namespace Token

theorem length_lt_of_readQuoted {within : Within} {t content rest : Text}
    (h : readQuoted within t = some (content, rest)) : rest.length < t.length := by
  induction t generalizing within content with
  | nil => simp [readQuoted] at h
  | cons c t ih =>
    rw [List.length_cons]
    have hmap (d : CodePoint)
        (h : (readQuoted .plain t).map (fun r => (d :: r.1, r.2)) = some (content, rest)) :
        rest.length < t.length := by
      obtain ⟨⟨before, after⟩, hr, he⟩ := Option.map_eq_some_iff.mp h
      cases he
      exact ih hr
    cases within with
    | plain =>
      rw [readQuoted] at h
      split at h
      next =>
        cases h
        omega
      next =>
        split at h
        next => exact Nat.lt_succ_of_lt (ih h)
        next =>
          split at h
          next => cases h
          next => exact Nat.lt_succ_of_lt (hmap _ h)
    | escape =>
      rw [readQuoted] at h
      split at h
      next => exact Nat.lt_succ_of_lt (ih h)
      next =>
        obtain ⟨e, _, he⟩ := Option.bind_eq_some_iff.mp h
        exact Nat.lt_succ_of_lt (hmap _ he)
    | unit digits value =>
      rw [readQuoted] at h
      obtain ⟨d, _, hd⟩ := Option.bind_eq_some_iff.mp h
      split at hd
      next => exact Nat.lt_succ_of_lt (hmap _ hd)
      next => exact Nat.lt_succ_of_lt (ih hd)

theorem length_dropWhile_cons_le {p : CodePoint → Bool} {c : CodePoint} (h : p c = true) (t : Text) :
    ((c :: t).dropWhile p).length < (c :: t).length := by
  rw [List.dropWhile_cons_of_pos h, List.length_cons]
  exact Nat.lt_succ_of_le (List.dropWhile_sublist p).length_le

/-- A token is never empty. -/
theorem length_lt_of_next? {t rest : Text} {token : Token} (h : next? t = some (token, rest)) :
    rest.length < t.length := by
  cases t with
  | nil => cases h
  | cons c t =>
    rw [next?] at h
    split at h
    next => cases h; simp
    split at h
    next => cases h; simp
    split at h
    next => cases h; simp
    split at h
    next => cases h; simp
    split at h
    next => cases h; simp
    split at h
    next => cases h; simp
    split at h
    next =>
      obtain ⟨⟨content, after⟩, hread, hr⟩ := Option.bind_eq_some_iff.mp h
      cases hr
      exact Nat.lt_succ_of_lt (length_lt_of_readQuoted hread)
    split at h
    next hnum =>
      obtain ⟨value, _, hr⟩ := Option.bind_eq_some_iff.mp h
      cases hr
      exact length_dropWhile_cons_le hnum t
    next =>
      obtain ⟨value, hword, hr⟩ := Option.bind_eq_some_iff.mp h
      cases hr
      by_cases hletter : c.isLetter = true
      · exact length_dropWhile_cons_le hletter t
      · rw [List.takeWhile_cons_of_neg hletter] at hword
        cases hword

theorem next?_of_isBlank {c : CodePoint} (h : isBlank c = true) (t : Text) : next? (c :: t) = none := by
  simp only [isBlank, Bool.or_eq_true, decide_eq_true_eq] at h
  rcases h with ((rfl | rfl) | rfl) | rfl <;> rfl

/-- The fuel does not matter as long as there is more of it than code points. -/
theorem readAll_eq {a b : Nat} {t : Text} (ha : t.length < a) (hb : t.length < b) :
    readAll a t = readAll b t := by
  induction a generalizing b t with
  | zero => omega
  | succ a ih =>
    obtain ⟨b, rfl⟩ : ∃ k, b = k + 1 := ⟨b - 1, by omega⟩
    have hdrop : (t.dropWhile isBlank).length ≤ t.length := (List.dropWhile_sublist _).length_le
    rw [readAll, readAll]
    cases hcons : t.dropWhile isBlank with
    | nil => rfl
    | cons c rest =>
      rw [hcons] at hdrop
      simp only [Option.bind_eq_bind]
      cases hnext : next? (c :: rest) with
      | none => rfl
      | some r =>
        have hlt : r.2.length < (c :: rest).length := length_lt_of_next? hnext
        rw [Option.bind_some, Option.bind_some, ih (b := b) (by omega) (by omega)]

theorem readAll_of_lt {fuel : Nat} {t : Text} (h : t.length < fuel) : readAll fuel t = t.tokens? :=
  readAll_eq h (Nat.lt_succ_self _)

end Token

namespace Text

/-- The blanks before the first token are passed over. -/
theorem tokens?_blanks {blanks : Text} (h : ∀ c ∈ blanks, Token.isBlank c = true) (t : Text) :
    (blanks ++ t).tokens? = t.tokens? := by
  have hlt : t.length < (blanks ++ t).length + 1 := by
    rw [List.length_append]
    omega
  rw [← Token.readAll_of_lt hlt, tokens?, Token.readAll, Token.readAll, List.dropWhile_append_of_pos h]

/-- The first token is read off. -/
theorem tokens?_next {t rest : Text} {token : Token} (h : Token.next? t = some (token, rest)) :
    t.tokens? = rest.tokens?.map (token :: ·) := by
  have hlt := Token.length_lt_of_next? h
  cases t with
  | nil => cases h
  | cons c t =>
    have hc : Token.isBlank c ≠ true := by
      intro hblank
      rw [Token.next?_of_isBlank hblank] at h
      cases h
    rw [tokens?, Token.readAll, List.dropWhile_cons_of_neg hc]
    simp only [h, Option.bind_eq_bind, Option.bind_some, Token.readAll_of_lt hlt]
    cases rest.tokens? <;> rfl

end Text

/-- A scalar with the pairs of halves joined in a string. -/
def Scalar.joined : Scalar → Scalar
  | .str t => .str (Text.joinPairs t)
  | s => s

/-- A scalar that can be written in a document. -/
def Scalar.IsFinite (s : Scalar) : Prop := ∀ x, s = .float x → x.isFinite = true

/-- A text that continues no number and no word and completes no pair of halves. -/
def Text.IsDelimited (t : Text) : Prop :=
  ∀ c ∈ t.head?, ¬ c.IsSurrogate ∧ Token.isNumeric c = false ∧ c.isLetter = false

theorem Text.isDelimited_cons {c : CodePoint} (hs : ¬ c.IsSurrogate) (hn : Token.isNumeric c = false)
    (hl : c.isLetter = false) (t : Text) : Text.IsDelimited (c :: t) := by
  rintro d hd
  cases hd
  exact ⟨hs, hn, hl⟩

theorem Text.IsDelimited.escapeSurrogates {t : Text} (h : t.IsDelimited) :
    (Text.escapeSurrogates t).IsDelimited := by
  cases t with
  | nil => exact h
  | cons c t =>
    obtain ⟨hs, hn, hl⟩ := h c rfl
    rw [Text.escapeSurrogates_cons hs]
    exact Text.isDelimited_cons hs hn hl _

namespace Token

theorem next?_number {t rest : Text} {s : Scalar} (hread : readNumber t = some s)
    (hall : ∀ c ∈ t, isNumeric c = true) (hrest : ∀ c ∈ rest.head?, isNumeric c = false) :
    next? (t ++ rest) = some (.scalar s, rest) := by
  cases t with
  | nil => cases hread
  | cons c t =>
    have hnum := hall c List.mem_cons_self
    have hne (d : Char) (hd : isNumeric d = false) : c ≠ CodePoint.ofChar d := by
      rintro rfl
      rw [hnum] at hd
      cases hd
    have hstep : next? (c :: (t ++ rest)) =
        (readNumber ((c :: (t ++ rest)).takeWhile isNumeric)).bind fun value =>
          some (scalar value, (c :: (t ++ rest)).dropWhile isNumeric) := by
      rw [next?, if_neg (hne _ rfl), if_neg (hne _ rfl), if_neg (hne _ rfl), if_neg (hne _ rfl),
        if_neg (hne _ rfl), if_neg (hne _ rfl), if_neg (hne _ rfl), if_pos hnum]
      rfl
    rw [List.cons_append, hstep, ← List.cons_append, takeWhile_run hall hrest,
      dropWhile_run hall hrest, hread]
    rfl

theorem next?_word {t rest : Text} {s : Scalar} (hread : readWord t = some s)
    (hrest : ∀ c ∈ rest.head?, c.isLetter = false) : next? (t ++ rest) = some (.scalar s, rest) := by
  have hword : t = Text.ofString "null" ∨ t = Text.ofString "true" ∨ t = Text.ofString "false" := by
    by_contra hnot
    rw [not_or, not_or] at hnot
    rw [readWord, if_neg hnot.1, if_neg hnot.2.1, if_neg hnot.2.2] at hread
    cases hread
  have hstep : next? (t ++ rest) =
      (readWord ((t ++ rest).takeWhile CodePoint.isLetter)).bind fun value =>
      some (scalar value, (t ++ rest).dropWhile CodePoint.isLetter) := by
    rcases hword with rfl | rfl | rfl <;> rfl
  have hall : ∀ c ∈ t, c.isLetter = true := by
    rcases hword with rfl | rfl | rfl <;> decide
  rw [hstep, takeWhile_run hall hrest, dropWhile_run hall hrest, hread]
  rfl

theorem escapeSurrogates_quote (t rest : Text) :
    Text.escapeSurrogates (quote t ++ rest) =
      CodePoint.ofChar '"' :: ((Text.joinPairs t).flatMap finalForm ++
        CodePoint.ofChar '"' :: Text.escapeSurrogates rest) := by
  have hquote : ¬ (CodePoint.ofChar '"').IsSurrogate := by decide
  have happart : Text.Apart (t.flatMap escape) (CodePoint.ofChar '"' :: rest) := by
    rintro x _ y hy ⟨_, hl⟩
    cases hy
    exact CodePoint.not_isLow_of_not_isSurrogate hquote hl
  have hsplit : quote t ++ rest =
      CodePoint.ofChar '"' :: (t.flatMap escape ++ CodePoint.ofChar '"' :: rest) := by
    rw [quote, List.append_assoc, List.append_assoc]
    rfl
  rw [hsplit, Text.escapeSurrogates_cons hquote, Text.escapeSurrogates_append happart,
    Text.escapeSurrogates_cons hquote, escapeSurrogates_flatMap_escape]

/-- The text of a string is one token, whatever halves it holds and whatever follows it. -/
theorem next?_quote (t rest : Text) :
    next? (Text.escapeSurrogates (quote t ++ rest)) =
      some (.scalar (.str (Text.joinPairs t)), Text.escapeSurrogates rest) := by
  have hstep (content : Text) : next? (CodePoint.ofChar '"' :: content) =
      (readQuoted .plain content).bind fun r => some (scalar (.str (Text.joinPairs r.1)), r.2) := rfl
  rw [escapeSurrogates_quote, hstep, readQuoted_flatMap_finalForm, Option.bind_some,
    Text.joinPairs_joinPairs]

theorem not_isSurrogate_of_isNumeric {c : CodePoint} (h : isNumeric c = true) : ¬ c.IsSurrogate := by
  intro hs
  have hlarge : 128 ≤ c.val := by have := hs.1; omega
  simp only [isNumeric, Bool.or_eq_true, decide_eq_true_eq, CodePoint.isDigit, Bool.and_eq_true] at h
  rcases h with ((((h | rfl) | rfl) | rfl) | rfl) | rfl
  · omega
  all_goals exact absurd hlarge (by decide)

/-- A scalar in front of a delimiter is one token. -/
theorem next?_scalar {s : Scalar} (hs : s.IsFinite) {rest : Text} (hrest : rest.IsDelimited) :
    next? (Text.escapeSurrogates (scalarText s ++ rest)) =
      some (.scalar s.joined, Text.escapeSurrogates rest) := by
  have hafter := hrest.escapeSurrogates
  have hnumber {t : Text} (hread : readNumber t = some s) (hall : ∀ c ∈ t, isNumeric c = true) :
      next? (Text.escapeSurrogates (t ++ rest)) = some (.scalar s, Text.escapeSurrogates rest) := by
    rw [Text.escapeSurrogates_append_left fun c hc => not_isSurrogate_of_isNumeric (hall c hc)]
    exact next?_number hread hall fun c hc => (hafter c hc).2.1
  have hword {t : Text} (hread : readWord t = some s) (hall : ∀ c ∈ t, ¬ c.IsSurrogate) :
      next? (Text.escapeSurrogates (t ++ rest)) = some (.scalar s, Text.escapeSurrogates rest) := by
    rw [Text.escapeSurrogates_append_left hall]
    exact next?_word hread fun c hc => (hafter c hc).2.2
  cases s with
  | null => exact hword rfl (by decide)
  | bool b => cases b <;> exact hword rfl (by decide)
  | int i => exact hnumber (Double.readNumber_ofInt i) Double.isNumeric_of_mem_ofInt
  | float x =>
    have hx : x.isFinite = true := hs x rfl
    exact hnumber (Double.readNumber_write hx) (Double.isNumeric_of_mem_write hx)
  | str t => exact next?_quote t rest

end Token

end ScriptTree
