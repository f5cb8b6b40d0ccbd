import ScriptTree.Proofs.Json.RoundTrip

namespace ScriptTree

namespace Token

/-- Where a code point of a text stands. -/
inductive Place where
  | between
  | quoted
  /-- In a string, right after a backslash. -/
  | escaped

/-- A text from a place on, without the blanks that stand outside of its strings. -/
def bareText : Place → Text → Text
  | _, [] => []
  | .between, c :: rest =>
    if isBlank c then bareText .between rest
    else c :: bareText (if c = '"' then .quoted else .between) rest
  | .quoted, c :: rest =>
    c :: bareText (if c = '"' then .between else if c = '\\' then .escaped else .quoted) rest
  | .escaped, c :: rest => c :: bareText .quoted rest

theorem bareText_blanks {blanks : Text} (h : ∀ c ∈ blanks, isBlank c = true) (rest : Text) :
    bareText .between (blanks ++ rest) = bareText .between rest := by
  induction blanks with
  | nil => rfl
  | cons c blanks ih =>
    obtain ⟨hc, hblanks⟩ := List.forall_mem_cons.mp h
    rw [List.cons_append, bareText, if_pos hc, ih hblanks]

theorem bareText_plain {t : Text} (h : ∀ c ∈ t, IsPlain c) (rest : Text) :
    bareText .between (t ++ rest) = t ++ bareText .between rest := by
  induction t with
  | nil => rfl
  | cons c t ih =>
    obtain ⟨⟨-, hblank, hquote⟩, ht⟩ := List.forall_mem_cons.mp h
    rw [List.cons_append, bareText, hblank, if_neg hquote, ih ht]
    rfl

/-- A code point that can stand in a string as it is. -/
def IsInner (c : CodePoint) : Prop := c ≠ '"' ∧ c ≠ '\\' ∧ 32 ≤ c.val

theorem bareText_inner {t : Text} (h : ∀ c ∈ t, IsInner c) (rest : Text) :
    bareText .quoted (t ++ rest) = t ++ bareText .quoted rest := by
  induction t with
  | nil => rfl
  | cons c t ih =>
    obtain ⟨⟨hquote, hslash, -⟩, ht⟩ := List.forall_mem_cons.mp h
    rw [List.cons_append, bareText, if_neg hquote, if_neg hslash, ih ht]
    rfl

/-- A code point stands in a string as itself or as a backslash, a letter and what belongs to the
letter. -/
theorem finalForm_cases (c : CodePoint) :
    (finalForm c = [c] ∧ IsInner c) ∨
      ∃ letter more, finalForm c = CodePoint.ofChar '\\' :: letter :: more ∧
        32 ≤ letter.val ∧ ∀ d ∈ more, IsInner d := by
  have hdigit : ∀ d < 16, IsInner (CodePoint.ofChar (Nat.digitChar d)) := by
    unfold IsInner
    decide
  have hunit {c : CodePoint} (hc : c.val < 0x10000) :
      ∃ letter more, Text.unitEscape c = CodePoint.ofChar '\\' :: letter :: more ∧ 32 ≤ letter.val ∧
        ∀ d ∈ more, IsInner d := by
    refine ⟨CodePoint.ofChar 'u', _, rfl, by decide, fun d hd => ?_⟩
    rw [Text.hexadecimal_four hc] at hd
    obtain ⟨n, hn, rfl⟩ := List.mem_map.mp hd
    apply hdigit
    simp only [List.mem_cons, List.not_mem_nil, or_false] at hn
    omega
  have hletter (letter : Char) (h : 32 ≤ (CodePoint.ofChar letter).val) :
      ∃ l more, [CodePoint.ofChar '\\', CodePoint.ofChar letter] =
        CodePoint.ofChar '\\' :: l :: more ∧ 32 ≤ l.val ∧
        ∀ d ∈ more, IsInner d := ⟨_, [], rfl, h, List.forall_mem_nil _⟩
  unfold finalForm
  split
  next hs => exact Or.inr (hunit (by have := hs.2; omega))
  unfold escape
  split
  next => exact Or.inr (hletter '"' (by decide))
  next hquote =>
  split
  next => exact Or.inr (hletter '\\' (by decide))
  next hslash =>
  split
  next => exact Or.inr (hletter 'n' (by decide))
  split
  next => exact Or.inr (hletter 'r' (by decide))
  split
  next => exact Or.inr (hletter 't' (by decide))
  split
  next => exact Or.inr (hletter 'b' (by decide))
  split
  next => exact Or.inr (hletter 'f' (by decide))
  split
  next h => exact Or.inr (hunit (by omega))
  next h => exact Or.inl ⟨rfl, hquote, hslash, by omega⟩

theorem bareText_flatMap_finalForm (t rest : Text) :
    bareText .quoted (t.flatMap finalForm ++ rest) = t.flatMap finalForm ++ bareText .quoted rest := by
  induction t with
  | nil => rfl
  | cons c t ih =>
    rw [List.flatMap_cons, List.append_assoc, List.append_assoc, ← ih]
    rcases finalForm_cases c with ⟨hform, hinner⟩ | ⟨letter, more, hform, -, hmore⟩
    · rw [hform]
      exact bareText_inner (List.forall_mem_singleton.mpr hinner) _
    · rw [hform]
      exact congrArg (CodePoint.ofChar '\\' :: letter :: ·) (bareText_inner hmore _)

theorem bareText_finalText {token : Token} (h : token.IsFinite) (rest : Text) :
    bareText .between (token.finalText ++ rest) = token.finalText ++ bareText .between rest := by
  by_cases hstr : ∃ t, token = scalar (.str t)
  · obtain ⟨t, rfl⟩ := hstr
    have hopen (more : Text) :
        bareText .between (CodePoint.ofChar '"' :: more) =
          CodePoint.ofChar '"' :: bareText .quoted more := rfl
    rw [finalText_str, List.cons_append, List.append_assoc, hopen, bareText_flatMap_finalForm]
    simp only [List.cons_append, List.append_assoc]
    rfl
  · have hplain := (isPlain_of_mem_text h fun t ht => hstr ⟨t, ht⟩).2
    rw [finalText_of_isPlain hplain, bareText_plain hplain]

theorem newline_not_mem_finalText {token : Token} (h : token.IsFinite) :
    CodePoint.ofChar '\n' ∉ token.finalText := by
  by_cases hstr : ∃ t, token = scalar (.str t)
  · obtain ⟨t, rfl⟩ := hstr
    rw [finalText_str]
    intro hm
    rcases List.mem_cons.mp hm with hm | hm
    · exact absurd hm (by decide)
    rcases List.mem_append.mp hm with hm | hm
    · obtain ⟨c, -, hc⟩ := List.mem_flatMap.mp hm
      have hlow : ¬ 32 ≤ (CodePoint.ofChar '\n').val := by decide
      rcases finalForm_cases c with ⟨hform, hinner⟩ | ⟨letter, more, hform, hletter, hmore⟩
      · rw [hform, List.mem_singleton] at hc
        exact hlow (hc ▸ hinner.2.2)
      · rw [hform] at hc
        rcases List.mem_cons.mp hc with hc | hc
        · exact absurd hc (by decide)
        rcases List.mem_cons.mp hc with hc | hc
        · exact hlow (hc ▸ hletter)
        · exact hlow (hmore _ hc).2.2
    · exact absurd (List.mem_singleton.mp hm) (by decide)
  · have hplain := (isPlain_of_mem_text h fun t ht => hstr ⟨t, ht⟩).2
    rw [finalText_of_isPlain hplain]
    exact fun hm => absurd (hplain _ hm).2.1 (by decide)

/-- A token neither begins nor ends with a blank. -/
theorem finalText_ends {token : Token} (h : token.IsFinite) :
    (∃ c rest, token.finalText = c :: rest ∧ isBlank c = false) ∧
      ∃ rest c, token.finalText = rest ++ [c] ∧ isBlank c = false := by
  by_cases hstr : ∃ t, token = scalar (.str t)
  · obtain ⟨t, rfl⟩ := hstr
    rw [finalText_str]
    exact ⟨⟨_, _, rfl, rfl⟩, _ :: _, _, rfl, rfl⟩
  · obtain ⟨hne, hplain⟩ := isPlain_of_mem_text h fun t ht => hstr ⟨t, ht⟩
    rw [finalText_of_isPlain hplain]
    refine ⟨⟨_, _, (List.cons_head_tail hne).symm, (hplain _ (List.head_mem hne)).2.1⟩, ?_⟩
    exact ⟨_, _, (List.dropLast_concat_getLast hne).symm, (hplain _ (List.getLast_mem hne)).2.1⟩

/-- The number of brackets that are open where a line starts, without the one that its first token
closes. -/
def lineDepth (tokens more : List Token) : Nat :=
  openAfter 0 tokens - if more.head?.any isClosing then 1 else 0

end Token

/-- A line feed stands between two tokens that are no pair of brackets. The line before it does not
end with a blank, and the line after it begins with so many spaces for every open bracket and then
with no blank. -/
structure Text.IsLineBreak (step : Nat) (before after : Text) (tokens more : List Token) : Prop where
  before_tokens : before.tokens? = some tokens
  after_tokens : after.tokens? = some more
  between : ∃ last ∈ tokens.getLast?, ∃ next ∈ more.head?,
    ¬ (last.isOpening = true ∧ next.isClosing = true)
  indent : ∃ c rest, after = List.replicate (step * Token.lineDepth tokens more)
    (CodePoint.ofChar ' ') ++ c :: rest ∧
    Token.isBlank c = false
  trailing : ∀ c ∈ before.getLast?, Token.isBlank c = false

/-- Every line feed of a text is a line break between its tokens, and the last line does not end
with a blank. -/
structure Text.IsIndented (step : Nat) (t : Text) : Prop where
  breaks : ∀ before after, t = before ++ CodePoint.ofChar '\n' :: after →
    ∃ tokens more, t.tokens? = some (tokens ++ more) ∧ Text.IsLineBreak step before after tokens more
  trailing : ∀ c ∈ t.getLast?, Token.isBlank c = false

namespace Json

open Token

variable {layout : Layout} {tokens : List Token}

/-- Without its blanks the final text is the final texts of the tokens, one after the other. -/
theorem bareText_spread (hl : layout.IsBlank) (hfinite : ∀ token ∈ tokens, token.IsFinite)
    (depth : Nat) :
    bareText .between (spread layout finalText depth tokens) = tokens.flatMap finalText := by
  induction tokens generalizing depth with
  | nil => rfl
  | cons token tokens ih =>
    obtain ⟨htoken, hothers⟩ := List.forall_mem_cons.mp hfinite
    cases tokens with
    | nil =>
      have hbare := bareText_finalText htoken []
      rwa [List.append_nil] at hbare
    | cons next tokens =>
      rw [spread, List.append_assoc, bareText_finalText htoken,
        bareText_blanks (isBlank_of_mem_gap hl _ _ _), ih hothers]
      rfl

/-- A code point of two texts stands in the first or in the second. -/
theorem append_eq_append_cons {x y before after : Text} {c : CodePoint}
    (h : x ++ y = before ++ c :: after) :
    (∃ rest, x = before ++ c :: rest ∧ after = rest ++ y) ∨ ∃ rest, before = x ++ rest ∧
      y = rest ++ c :: after := by
  rcases List.append_eq_append_iff.mp h with ⟨rest, hbefore, hy⟩ | ⟨rest, hx, hafter⟩
  · exact Or.inr ⟨rest, hbefore, hy⟩
  · cases rest with
    | nil => exact Or.inr ⟨[], by rw [hx, List.append_nil, List.append_nil], hafter.symm⟩
    | cons d rest =>
      obtain ⟨rfl, rfl⟩ := List.cons.inj hafter
      exact Or.inl ⟨rest, hx, rfl⟩

/-- A line feed of a final text stands in the gap between two tokens. -/
theorem exists_gap_of_newline (hfinite : ∀ token ∈ tokens, token.IsFinite)
    {depth : Nat} {before after : Text}
    (h : spread layout finalText depth tokens = before ++ CodePoint.ofChar '\n' :: after) :
    ∃ init last next more blanks blanks', tokens = init ++ [last] ++ next :: more ∧
      layout.gap (openAfter depth (init ++ [last])) last next =
        blanks ++ CodePoint.ofChar '\n' :: blanks' ∧
      before = spread layout finalText depth (init ++ [last]) ++ blanks ∧
      after = blanks' ++ spread layout finalText (openAfter depth (init ++ [last])) (next :: more) := by
  induction tokens generalizing depth before with
  | nil => simp [spread] at h
  | cons token tokens ih =>
    obtain ⟨htoken, hothers⟩ := List.forall_mem_cons.mp hfinite
    have hnewline := newline_not_mem_finalText htoken
    cases tokens with
    | nil =>
      rw [spread] at h
      exact absurd (h ▸ List.mem_append_right before List.mem_cons_self) hnewline
    | cons next tokens =>
      rw [spread, List.append_assoc] at h
      rcases append_eq_append_cons h with ⟨rest, htext, -⟩ | ⟨tail, rfl, htail⟩
      · exact absurd (htext ▸ List.mem_append_right _ List.mem_cons_self) hnewline
      rcases append_eq_append_cons htail with ⟨rest, hgap, rfl⟩ | ⟨inner, rfl, hinner⟩
      · exact ⟨[], token, next, tokens, tail, rest, rfl, hgap, rfl, rfl⟩
      · -- The line feed stands behind the next token or further on.
        obtain ⟨init, last, next', more, blanks, blanks', htokens, hgap, rfl, rfl⟩ := ih hothers hinner
        refine ⟨token :: init, last, next', more, blanks, blanks', by rw [htokens]; rfl, hgap, ?_, rfl⟩
        obtain ⟨first, others, hfirst⟩ : ∃ first others, init ++ [last] = first :: others :=
          List.exists_cons_of_ne_nil (by simp)
        rw [hfirst, List.cons_append] at htokens
        rw [List.cons_append, hfirst, spread, ← (List.cons.inj htokens).1, List.append_assoc,
          List.append_assoc]

theorem newLine_spaces (step n : Nat) :
    (Layout.spaces step).newLine n = CodePoint.ofChar '\n' :: List.replicate (step * n)
    (CodePoint.ofChar ' ') := by
  rw [Layout.spaces, Layout.newLine, List.flatten_replicate_replicate, Nat.mul_comm]
  rfl

/-- The line feed of a new line is its first code point. -/
theorem newLine_spaces_eq {step n : Nat} {blanks blanks' : Text}
    (h : (Layout.spaces step).newLine n = blanks ++ CodePoint.ofChar '\n' :: blanks') :
    blanks = [] ∧ blanks' = List.replicate (step * n) (CodePoint.ofChar ' ') := by
  rw [newLine_spaces] at h
  cases blanks with
  | nil => exact ⟨rfl, (List.cons.inj h).2.symm⟩
  | cons c blanks =>
    have hm : CodePoint.ofChar '\n' ∈ List.replicate (step * n) (CodePoint.ofChar ' ') := by
      rw [(List.cons.inj h).2]
      exact List.mem_append_right blanks List.mem_cons_self
    exact absurd (List.eq_of_mem_replicate hm) (by decide)

/-- A gap of an indented layout that holds a line feed is a line feed and the indentation of its
depth. -/
theorem gap_spaces {step depth : Nat} {token next : Token} {blanks blanks' : Text}
    (h : (Layout.spaces step).gap depth token next = blanks ++ CodePoint.ofChar '\n' :: blanks') :
    blanks = [] ∧ ¬ (token.isOpening = true ∧ next.isClosing = true) ∧
      blanks' = List.replicate (step * (depth - if next.isClosing then 1 else 0))
        (CodePoint.ofChar ' ') := by
  have hspace : CodePoint.ofChar '\n' ∉ Text.ofString " " := by decide
  cases hnext : next.isClosing with
  | true =>
    cases htoken : token.isOpening with
    | true => simp [Layout.gap, htoken, hnext] at h
    | false =>
      simp only [Layout.gap, htoken, hnext, Bool.false_eq_true, ↓reduceIte] at h
      simpa using newLine_spaces_eq h
  | false =>
    cases htoken : token.isOpening with
    | true =>
      rw [gap_of_isOpening htoken hnext] at h
      simpa using newLine_spaces_eq h
    | false =>
      cases token with
      | comma =>
        rw [gap_comma hnext] at h
        simpa using newLine_spaces_eq h
      | colon =>
        rw [gap_colon hnext] at h
        refine absurd ?_ hspace
        rw [show Text.ofString " " = _ from h]
        exact List.mem_append_right blanks List.mem_cons_self
      | _ => simp [Layout.gap, isOpening, hnext] at h htoken

theorem lineDepth_joined (tokens : List Token) (next : Token) (more : List Token) :
    lineDepth (tokens.map Token.joined) (next.joined :: more) =
      openAfter 0 tokens - if next.isClosing then 1 else 0 := by
  have hopen (depth : Nat) : openAfter depth (tokens.map Token.joined) = openAfter depth tokens := by
    induction tokens generalizing depth with
    | nil => rfl
    | cons token tokens ih =>
      rw [List.map_cons, openAfter, List.foldl_cons, ← openAfter, ih]
      cases token <;> rfl
  rw [lineDepth, hopen]
  cases next <;> rfl

theorem isBlank_last_spread (init : List Token) {last : Token} (hlast : last.IsFinite) (depth : Nat) :
    ∀ c ∈ (spread layout finalText depth (init ++ [last])).getLast?, isBlank c = false := by
  obtain ⟨before, hbefore⟩ :
      ∃ before, spread layout finalText depth (init ++ [last]) = before ++ last.finalText := by
    rcases List.eq_nil_or_concat init with rfl | ⟨init, previous, rfl⟩
    · exact ⟨[], rfl⟩
    · rw [List.concat_eq_append, spread_append, ← List.append_assoc]
      exact ⟨_, rfl⟩
  obtain ⟨-, rest, c, htext, hc⟩ := finalText_ends hlast
  rw [hbefore, htext, ← List.append_assoc, List.getLast?_concat]
  rintro d hd
  cases hd
  exact hc

/-- Tokens that are spread out in an indented layout break lines as this layout says. -/
theorem isIndented_spread (step : Nat) (htouch : tokens.IsChain CanTouch)
    (hfinite : ∀ token ∈ tokens, token.IsFinite) :
    Text.IsIndented step (spread (Layout.spaces step) finalText 0 tokens) where
  breaks := by
    intro before after h
    have hl : (Layout.spaces step).IsBlank := isBlank_spaces step
    obtain ⟨init, last, next, more, blanks, blanks', rfl, hgap, rfl, rfl⟩ :=
      exists_gap_of_newline hfinite h
    obtain ⟨rfl, hpair, rfl⟩ := gap_spaces hgap
    obtain ⟨hinit, hmore⟩ := List.forall_mem_append.mp hfinite
    obtain ⟨⟨c, rest, htext, hc⟩, -⟩ := finalText_ends (hmore next List.mem_cons_self)
    refine ⟨(init ++ [last]).map Token.joined, (next :: more).map Token.joined, ?_, ?_⟩
    · rw [tokens?_spread hl htouch hfinite, List.map_append]
    · rw [List.append_nil]
      refine ⟨tokens?_spread hl htouch.left_of_append hinit 0, ?_, ?_, ?_, ?_⟩
      · rw [Text.tokens?_blanks (fun c hc => by rw [List.eq_of_mem_replicate hc]; rfl)]
        exact tokens?_spread hl htouch.right_of_append hmore _
      · refine ⟨last.joined, by simp, next.joined, rfl, ?_⟩
        cases last <;> cases next <;> exact hpair
      · obtain ⟨others, hothers⟩ := exists_spread_cons (Layout.spaces step) finalText
          (openAfter 0 (init ++ [last])) next more
        refine ⟨c, rest ++ others, ?_, hc⟩
        rw [hothers, htext, List.map_cons, lineDepth_joined]
        rfl
      · exact isBlank_last_spread init (hinit last (by simp)) 0
  trailing := by
    rcases List.eq_nil_or_concat tokens with rfl | ⟨init, last, rfl⟩
    · simp [spread]
    · rw [List.concat_eq_append] at hfinite ⊢
      exact isBlank_last_spread init (hfinite last (by simp)) 0

end Json

end ScriptTree
