import Mathlib.Data.List.Chain
import ScriptTree.Json.Writer
import ScriptTree.Proofs.Json.Lexing

namespace ScriptTree

namespace Token

/-- A bracket that opens. -/
def isOpening : Token → Bool
  | beginObject | beginArray => true
  | _ => false

/-- A bracket that closes. -/
def isClosing : Token → Bool
  | endObject | endArray => true
  | _ => false

/-- A token with which a document can end. -/
def isFinal : Token → Bool
  | endObject | endArray | scalar _ => true
  | _ => false

/-- The number of open brackets after a token. -/
def depthAfter (depth : Nat) (token : Token) : Nat :=
  if token.isOpening then depth + 1 else if token.isClosing then depth - 1 else depth

/-- The number of open brackets after some tokens. -/
def openAfter (depth : Nat) (tokens : List Token) : Nat := tokens.foldl depthAfter depth

theorem openAfter_append (depth : Nat) (tokens more : List Token) :
    openAfter depth (tokens ++ more) = openAfter (openAfter depth tokens) more :=
  List.foldl_append

theorem depthAfter_of_isOpening {token : Token} (h : token.isOpening = true) (depth : Nat) :
    token.depthAfter depth = depth + 1 := by
  rw [depthAfter, if_pos h]

theorem depthAfter_of_isClosing {token : Token} (h : token.isClosing = true) (depth : Nat) :
    token.depthAfter depth = depth - 1 := by
  cases token <;> first | rfl | cases h

/-- Two tokens that can stand side by side without a blank. -/
def CanTouch : Token → Token → Prop
  | scalar _, scalar _ => False
  | _, _ => True

end Token

namespace Json

open Token

/-- What holds of scalars, of arrays of such documents and of objects with such members holds of every
document. -/
@[elab_as_elim]
theorem induction {motive : Json → Prop} (leaf : ∀ s, motive (.leaf s))
    (arr : ∀ items, (∀ item ∈ items, motive item) → motive (.arr items))
    (obj : ∀ members, (∀ member ∈ members, motive member.2) → motive (.obj members)) (d : Json) :
    motive d :=
  @Json.rec motive (fun items => ∀ item ∈ items, motive item)
    (fun members => ∀ member ∈ members, motive member.2) (fun member => motive member.2)
    leaf arr obj (by simp) (by simp_all) (by simp) (by simp_all) (by simp_all) d

/-- A layout that puts nothing but blanks between tokens. -/
def Layout.IsBlank : Layout → Prop
  | line | tight => True
  | indented step => ∀ c ∈ step, Token.isBlank c = true

theorem isBlank_spaces (step : Nat) : (Layout.spaces step).IsBlank := by
  intro c hc
  rw [List.eq_of_mem_replicate hc]
  rfl

theorem isBlank_of_mem_newLine {layout : Layout} (hl : layout.IsBlank) (depth : Nat) :
    ∀ c ∈ layout.newLine depth, Token.isBlank c = true := by
  intro c hc
  cases layout with
  | line => cases hc
  | tight => cases hc
  | indented step =>
    rcases List.mem_append.mp hc with hc | hc
    · cases List.mem_singleton.mp hc
      rfl
    · obtain ⟨part, hpart, hmem⟩ := List.mem_flatten.mp hc
      rw [List.eq_of_mem_replicate hpart] at hmem
      exact hl c hmem

/-- What stands between two tokens, where a number of brackets is open after the first. -/
def Layout.gap (layout : Layout) (depth : Nat) (token next : Token) : Text :=
  if token.isOpening then
    if next.isClosing then [] else layout.newLine depth
  else if next.isClosing then layout.newLine (depth - 1)
  else match token with
    | .comma => (layout.separator depth).tail
    | .colon => layout.colon.tail
    | _ => []

/-- Tokens as they are written, with the gaps between them. -/
def spread (layout : Layout) (write : Token → Text) (depth : Nat) : List Token → Text
  | [] => []
  | [token] => write token
  | token :: next :: tokens =>
    write token ++ layout.gap (token.depthAfter depth) token next
      ++ spread layout write (token.depthAfter depth) (next :: tokens)

variable {layout : Layout} {write : Token → Text}

theorem spread_append (depth : Nat) (tokens : List Token) (last next : Token) (more : List Token) :
    spread layout write depth (tokens ++ [last] ++ next :: more) =
      spread layout write depth (tokens ++ [last]) ++
        (layout.gap (openAfter depth (tokens ++ [last])) last next ++
          spread layout write (openAfter depth (tokens ++ [last])) (next :: more)) := by
  induction tokens generalizing depth with
  | nil => simp [spread, openAfter]
  | cons token tokens ih =>
    cases tokens with
    | nil => simp [spread, openAfter]
    | cons second tokens =>
      have hrest := ih (token.depthAfter depth)
      simp only [List.cons_append, List.append_assoc, spread, openAfter, List.foldl_cons] at hrest ⊢
      rw [hrest]

theorem gap_of_isFinal {token : Token} (h : token.isFinal = true) (depth : Nat) (next : Token) :
    layout.gap depth token next = if next.isClosing then layout.newLine (depth - 1) else [] := by
  cases token <;> first | rfl | cases h

theorem gap_of_isOpening {token next : Token} (h : token.isOpening = true)
    (hnext : next.isClosing = false)
    (depth : Nat) : layout.gap depth token next = layout.newLine depth := by
  simp [Layout.gap, h, hnext]

theorem gap_comma {next : Token} (h : next.isClosing = false) (depth : Nat) :
    layout.gap depth .comma next = (layout.separator depth).tail := by
  rw [Layout.gap, h]
  rfl

theorem gap_colon {next : Token} (h : next.isClosing = false) (depth : Nat) :
    layout.gap depth .colon next = layout.colon.tail := by
  rw [Layout.gap, h]
  rfl

theorem separator_eq_cons (depth : Nat) :
    layout.separator depth = CodePoint.ofChar ',' :: (layout.separator depth).tail := by
  cases layout <;> rfl

theorem colon_eq_cons : layout.colon = CodePoint.ofChar ':' :: layout.colon.tail := by
  cases layout <;> rfl

/-- Tokens of a part of a document, and the text of this part at every depth. -/
structure Writes (layout : Layout) (tokens : List Token) (text : Nat → Text) : Prop where
  first : ∃ token rest, tokens = token :: rest ∧ token.isClosing = false
  last : ∃ rest token, tokens = rest ++ [token] ∧ token.isFinal = true
  touch : tokens.IsChain CanTouch
  level : ∀ depth, openAfter depth tokens = depth
  text : ∀ depth, spread layout Token.text depth tokens = text depth

variable {tokens more : List Token} {text text' : Nat → Text}

theorem Writes.scalar (layout : Layout) (s : Scalar) :
    Writes layout [.scalar s] fun _ => Token.scalarText s where
  first := ⟨_, _, rfl, rfl⟩
  last := ⟨[], _, rfl, rfl⟩
  touch := .singleton _
  level _ := rfl
  text _ := rfl

/-- What follows the last token of a part directly. -/
theorem Writes.spread_append (h : Writes layout tokens text)
    (depth : Nat) (next : Token) (more : List Token) :
    spread layout Token.text depth (tokens ++ next :: more) =
      text depth ++ ((if next.isClosing then layout.newLine (depth - 1) else []) ++
        spread layout Token.text depth (next :: more)) := by
  obtain ⟨rest, token, rfl, hfinal⟩ := h.last
  rw [Json.spread_append, h.text, h.level, gap_of_isFinal hfinal]

theorem Writes.separated (h : Writes layout tokens text) (h' : Writes layout more text') :
    Writes layout (tokens ++ .comma :: more) fun depth => text depth ++
      layout.separator depth ++ text' depth where
  first := by
    obtain ⟨token, rest, rfl, hopen⟩ := h.first
    exact ⟨token, _, rfl, hopen⟩
  last := by
    obtain ⟨rest, token, rfl, hfinal⟩ := h'.last
    exact ⟨tokens ++ .comma :: rest, token, by simp, hfinal⟩
  touch := by
    refine List.isChain_append.mpr ⟨h.touch, h'.touch.cons fun _ _ => trivial, ?_⟩
    rintro token - next hnext
    cases hnext
    cases token <;> trivial
  level depth := by
    rw [openAfter_append, h.level]
    exact h'.level depth
  text depth := by
    obtain ⟨next, rest, rfl, hnext⟩ := h'.first
    have hcomma : spread layout Token.text depth (.comma :: next :: rest) =
        layout.separator depth ++ text' depth := by
      rw [spread, show Token.comma.depthAfter depth = depth from rfl, gap_comma hnext, h'.text,
        separator_eq_cons]
      rfl
    rw [h.spread_append, hcomma, List.append_assoc]
    rfl

theorem Writes.named (name : Text) (h : Writes layout tokens text) :
    Writes layout (.scalar (.str name) :: .colon :: tokens) fun depth =>
      Token.quote name ++ layout.colon ++ text depth where
  first := ⟨_, _, rfl, rfl⟩
  last := by
    obtain ⟨rest, token, rfl, hfinal⟩ := h.last
    exact ⟨.scalar (.str name) :: .colon :: rest, token, rfl, hfinal⟩
  touch := .cons_cons trivial (h.touch.cons fun _ _ => trivial)
  level := h.level
  text depth := by
    obtain ⟨next, rest, rfl, hnext⟩ := h.first
    have hcolon : spread layout Token.text depth (.colon :: next :: rest) =
        layout.colon ++ text depth := by
      rw [spread, show Token.colon.depthAfter depth = depth from rfl, gap_colon hnext, h.text,
        colon_eq_cons]
      rfl
    have hname := (Writes.scalar layout (.str name)).spread_append depth .colon (next :: rest)
    rw [hcolon] at hname
    rw [List.append_assoc]
    exact hname

theorem Writes.bracketed {opening closing : Token} (ho : opening.isOpening = true)
    (hc : closing.isClosing = true) (h : Writes layout tokens text) :
    Writes layout (opening :: (tokens ++ [closing])) fun depth =>
      opening.text ++ layout.newLine (depth + 1) ++ text (depth + 1) ++
        layout.newLine depth ++ closing.text where
  first := ⟨opening, _, rfl, by cases opening <;> first | rfl | cases ho⟩
  last := ⟨opening :: tokens, closing, rfl, by cases closing <;> first | rfl | cases hc⟩
  touch := by
    have hclose : (tokens ++ [closing]).IsChain CanTouch := by
      refine List.isChain_append.mpr ⟨h.touch, .singleton _, ?_⟩
      rintro token - next hnext
      cases hnext
      cases token <;> cases closing <;> trivial
    exact hclose.cons fun _ _ => by cases opening <;> trivial
  level depth := by
    have hrest := openAfter_append (depth + 1) tokens [closing]
    rw [h.level] at hrest
    rw [openAfter, List.foldl_cons, depthAfter_of_isOpening ho, ← openAfter, hrest]
    exact depthAfter_of_isClosing hc (depth + 1)
  text depth := by
    obtain ⟨next, rest, rfl, hnext⟩ := h.first
    have hrest := h.spread_append (depth + 1) closing []
    rw [hc, if_pos rfl] at hrest
    rw [List.cons_append, spread, depthAfter_of_isOpening ho, gap_of_isOpening ho hnext,
      ← List.cons_append, hrest]
    simp [spread]

theorem Writes.empty {opening closing : Token} (ho : opening.isOpening = true)
    (hc : closing.isClosing = true) :
    Writes layout [opening, closing] fun _ => opening.text ++ closing.text where
  first := ⟨opening, _, rfl, by cases opening <;> first | rfl | cases ho⟩
  last := ⟨[opening], closing, rfl, by cases closing <;> first | rfl | cases hc⟩
  touch := .cons_cons (by cases opening <;> trivial) (.singleton closing)
  level depth := by
    rw [openAfter, List.foldl_cons, depthAfter_of_isOpening ho]
    exact depthAfter_of_isClosing hc (depth + 1)
  text depth := by
    simp [spread, Layout.gap, ho, hc]

theorem writes_items {items : List Json} (hne : items ≠ [])
    (h : ∀ item ∈ items, Writes layout item.tokens fun depth => writeAt layout depth item) :
    Writes layout (tokensOfItems items) fun depth => writeItems layout depth items := by
  induction items with
  | nil => exact absurd rfl hne
  | cons item items ih =>
    have hitem := h item List.mem_cons_self
    cases items with
    | nil => exact hitem
    | cons second items =>
      exact hitem.separated
        (ih (List.cons_ne_nil _ _) fun other hm => h other (List.mem_cons_of_mem item hm))

theorem writes_members {members : List (Text × Json)} (hne : members ≠ [])
    (h : ∀ member ∈ members, Writes layout member.2.tokens fun depth => writeAt layout depth member.2) :
    Writes layout (tokensOfMembers members) fun depth => writeMembers layout depth members := by
  induction members with
  | nil => exact absurd rfl hne
  | cons member members ih =>
    obtain ⟨name, value⟩ := member
    have hmember := (h (name, value) List.mem_cons_self).named name
    cases members with
    | nil => exact hmember
    | cons second members =>
      exact hmember.separated
        (ih (List.cons_ne_nil _ _) fun other hm => h other (List.mem_cons_of_mem _ hm))

/-- The tokens of a document with the gaps between them are its text. -/
theorem writes_tokens (layout : Layout) (d : Json) :
    Writes layout d.tokens fun depth => writeAt layout depth d := by
  induction d using Json.induction with
  | leaf s => exact .scalar layout s
  | arr items ih =>
    cases items with
    | nil => exact .empty rfl rfl
    | cons item items => exact (writes_items (List.cons_ne_nil _ _) ih).bracketed rfl rfl
  | obj members ih =>
    cases members with
    | nil => exact .empty rfl rfl
    | cons member members => exact (writes_members (List.cons_ne_nil _ _) ih).bracketed rfl rfl

end Json

namespace Token

/-- A token in the final text, where pairs are joined and halves escaped. -/
def finalText (token : Token) : Text := Text.escapeSurrogates token.text

/-- A token with the pairs of halves joined in a string. -/
def joined : Token → Token
  | scalar s => scalar s.joined
  | token => token

/-- A token that can be written in a document. -/
def IsFinite (token : Token) : Prop := ∀ s, token = scalar s → s.IsFinite

theorem isFinite_mark {token : Token} (h : ∀ s, token ≠ scalar s) : token.IsFinite :=
  fun s hs => absurd hs (h s)

/-- A code point that is neither half nor blank nor quote. -/
def IsPlain (c : CodePoint) : Prop := ¬ c.IsSurrogate ∧ isBlank c = false ∧ c ≠ '"'

theorem isPlain_of_isNumeric {c : CodePoint} (h : isNumeric c = true) : IsPlain c := by
  refine ⟨not_isSurrogate_of_isNumeric h, ?_, ?_⟩
  · rw [Bool.eq_false_iff]
    intro hblank
    simp only [isBlank, Bool.or_eq_true, decide_eq_true_eq] at hblank
    rcases hblank with ((rfl | rfl) | rfl) | rfl <;> exact absurd h (by decide)
  · rintro rfl
    exact absurd h (by decide)

/-- Every token but a string is written with plain code points. -/
theorem isPlain_of_mem_text {token : Token} (h : token.IsFinite) (hstr : ∀ t, token ≠ scalar (.str t)) :
    token.text ≠ [] ∧ ∀ c ∈ token.text, IsPlain c := by
  have hnumber {t : Text} {s : Scalar} (hread : readNumber t = some s)
      (hall : ∀ c ∈ t, isNumeric c = true) :
      t ≠ [] ∧ ∀ c ∈ t, IsPlain c :=
    ⟨(by rintro rfl; cases hread), fun c hc => isPlain_of_isNumeric (hall c hc)⟩
  cases token with
  | scalar s =>
    cases s with
    | null => exact ⟨by decide, by unfold IsPlain; decide⟩
    | bool b => cases b <;> exact ⟨by decide, by unfold IsPlain; decide⟩
    | int i => exact hnumber (Double.readNumber_ofInt i) Double.isNumeric_of_mem_ofInt
    | float x =>
      have hx : x.isFinite = true := h _ rfl x rfl
      exact hnumber (Double.readNumber_write hx) (Double.isNumeric_of_mem_write hx)
    | str t => exact absurd rfl (hstr t)
  | _ => exact ⟨by decide, by unfold IsPlain; decide⟩

theorem finalText_of_isPlain {token : Token} (h : ∀ c ∈ token.text, IsPlain c) :
    token.finalText = token.text :=
  Text.escapeSurrogates_eq_self fun c hc => (h c hc).1

theorem finalText_str (t : Text) :
    (scalar (.str t)).finalText =
      CodePoint.ofChar '"' :: ((Text.joinPairs t).flatMap finalForm ++ [CodePoint.ofChar '"']) := by
  have h := escapeSurrogates_quote t []
  rwa [List.append_nil] at h

theorem escapeSurrogates_text_append {token : Token} (h : token.IsFinite) (rest : Text) :
    Text.escapeSurrogates (token.text ++ rest) = token.finalText ++ Text.escapeSurrogates rest := by
  by_cases hstr : ∃ t, token = scalar (.str t)
  · obtain ⟨t, rfl⟩ := hstr
    rw [finalText_str, List.cons_append, List.append_assoc]
    exact escapeSurrogates_quote t rest
  · have hplain := (isPlain_of_mem_text h fun t ht => hstr ⟨t, ht⟩).2
    rw [finalText_of_isPlain hplain, Text.escapeSurrogates_append_left fun c hc => (hplain c hc).1]

/-- A token in front of a final text that does not continue it. -/
theorem next?_finalText {token : Token} (h : token.IsFinite)
    {rest : Text} (hwhole : ∀ c ∈ rest, ¬ c.IsSurrogate)
    (hrest : ∀ s, token = scalar s → rest.IsDelimited) :
    next? (token.finalText ++ rest) = some (token.joined, rest) := by
  cases token with
  | scalar s =>
    have hsplit := escapeSurrogates_text_append h rest
    have hnext := next?_scalar (h s rfl) (hrest s rfl)
    rw [Text.escapeSurrogates_eq_self hwhole] at hsplit hnext
    rw [← hsplit]
    exact hnext
  | _ => rfl

end Token

namespace Json

open Token

variable {layout : Layout} {tokens : List Token}

theorem isBlank_of_mem_gap (hl : layout.IsBlank) (depth : Nat) (token next : Token) :
    ∀ c ∈ layout.gap depth token next, isBlank c = true := by
  have hspace : ∀ c ∈ Text.ofString " ", isBlank c = true := by decide
  have hcomma : ∀ c ∈ (layout.separator depth).tail, isBlank c = true := by
    cases layout with
    | line => exact hspace
    | tight => exact List.forall_mem_nil _
    | indented step => exact isBlank_of_mem_newLine hl depth
  have hcolon : ∀ c ∈ layout.colon.tail, isBlank c = true := by
    cases layout <;> first | exact hspace | exact List.forall_mem_nil _
  unfold Layout.gap
  split_ifs
  · exact List.forall_mem_nil _
  · exact isBlank_of_mem_newLine hl depth
  · exact isBlank_of_mem_newLine hl (depth - 1)
  · cases token <;> first | exact hcomma | exact hcolon | exact List.forall_mem_nil _

theorem not_isSurrogate_of_isBlank {c : CodePoint} (h : isBlank c = true) : ¬ c.IsSurrogate := by
  simp only [isBlank, Bool.or_eq_true, decide_eq_true_eq] at h
  rcases h with ((rfl | rfl) | rfl) | rfl <;> decide

/-- Joining pairs and escaping halves changes tokens only, each by itself. -/
theorem escapeSurrogates_spread (hl : layout.IsBlank) (hfinite : ∀ token ∈ tokens, token.IsFinite)
    (depth : Nat) :
    Text.escapeSurrogates (spread layout Token.text depth tokens) =
      spread layout finalText depth tokens := by
  induction tokens generalizing depth with
  | nil => rfl
  | cons token tokens ih =>
    have htoken := hfinite token List.mem_cons_self
    cases tokens with
    | nil => rfl
    | cons next tokens =>
      have hrest := ih (fun other hm => hfinite other (List.mem_cons_of_mem token hm))
          (token.depthAfter depth)
      rw [spread, List.append_assoc, escapeSurrogates_text_append htoken,
        Text.escapeSurrogates_append_left, hrest, spread, List.append_assoc]
      exact fun c hc => not_isSurrogate_of_isBlank (isBlank_of_mem_gap hl _ token next c hc)

theorem exists_spread_cons (layout : Layout) (write : Token → Text)
    (depth : Nat) (token : Token) (tokens : List Token) :
    ∃ rest, spread layout write depth (token :: tokens) = write token ++ rest := by
  cases tokens with
  | nil => exact ⟨[], (List.append_nil _).symm⟩
  | cons next tokens => exact ⟨_, List.append_assoc _ _ _⟩

/-- A scalar is followed by a blank, a bracket, a comma or a colon. -/
theorem isDelimited_gap (hl : layout.IsBlank) {s : Scalar} {next : Token}
    (htouch : CanTouch (.scalar s) next) (depth depth' : Nat) (tokens : List Token) :
    Text.IsDelimited (layout.gap depth (.scalar s) next ++ spread layout finalText depth'
      (next :: tokens)) := by
  obtain ⟨rest, hrest⟩ := exists_spread_cons layout finalText depth' next tokens
  have hblank := isBlank_of_mem_gap hl depth (.scalar s) next
  cases hgap : layout.gap depth (.scalar s) next with
  | nil =>
    rw [hrest, List.nil_append]
    cases next <;> first | exact Text.isDelimited_cons (by decide) rfl rfl rest | cases htouch
  | cons c blanks =>
    have hc := hblank c (hgap ▸ List.mem_cons_self)
    simp only [isBlank, Bool.or_eq_true, decide_eq_true_eq] at hc
    rcases hc with ((rfl | rfl) | rfl) | rfl <;> exact Text.isDelimited_cons (by decide) rfl rfl _

/-- Tokens are read off a final text whatever blanks a layout puts between them. -/
theorem tokens?_spread (hl : layout.IsBlank) (htouch : tokens.IsChain CanTouch)
    (hfinite : ∀ token ∈ tokens, token.IsFinite) (depth : Nat) :
    (spread layout finalText depth tokens).tokens? = some (tokens.map Token.joined) := by
  induction tokens generalizing depth with
  | nil => rfl
  | cons token tokens ih =>
    obtain ⟨htoken, hothers⟩ := List.forall_mem_cons.mp hfinite
    have hrest := ih htouch.tail hothers
    cases tokens with
    | nil =>
      have hnext : next? (token.finalText ++ []) = some (token.joined, []) :=
        next?_finalText htoken (List.forall_mem_nil _) fun _ _ => by simp [Text.IsDelimited]
      rw [List.append_nil] at hnext
      rw [spread, Text.tokens?_next hnext]
      rfl
    | cons next tokens =>
      have hblank := isBlank_of_mem_gap hl (token.depthAfter depth) token next
      have hwhole : ∀ c ∈ layout.gap (token.depthAfter depth) token next
          ++ spread layout finalText (token.depthAfter depth) (next :: tokens), ¬ c.IsSurrogate := by
        intro c hc
        rcases List.mem_append.mp hc with hc | hc
        · exact not_isSurrogate_of_isBlank (hblank c hc)
        · rw [← escapeSurrogates_spread hl hothers] at hc
          exact Text.not_isSurrogate_of_mem_escapeSurrogates hc
      have hnext := next?_finalText htoken hwhole fun s hs => by
        cases hs
        exact isDelimited_gap hl (List.isChain_cons_cons.mp htouch).1 _ _ _
      rw [spread, List.append_assoc, Text.tokens?_next hnext, Text.tokens?_blanks hblank, hrest]
      rfl

end Json

end ScriptTree
