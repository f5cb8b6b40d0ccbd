import ScriptTree.Proofs.Text.Surrogates
import ScriptTree.Proofs.Text.Utf8

namespace ScriptTree

namespace Utf16

/-- The units of a code point: its own number, or two halves for a number that is too large for a
unit. -/
def units (c : CodePoint) : List Nat :=
  if c.val < 0x10000 then [c.val]
  else [0xD800 + (c.val - 0x10000) / 0x400, 0xDC00 + (c.val - 0x10000) % 0x400]

/-- The units of a text. -/
def encode (t : Text) : List Nat := t.flatMap units

/-- Two units that make one character together. -/
def IsPair (u v : Nat) : Prop := (0xD800 ≤ u ∧ u < 0xDC00) ∧ 0xDC00 ≤ v ∧ v < 0xE000

instance (u v : Nat) : Decidable (IsPair u v) := inferInstanceAs (Decidable (_ ∧ _))

/-- The text that units stand for. A half without its other half stands for itself. -/
def decode : List Nat → Text
  | [] => []
  | [u] => [CodePoint.ofNat u]
  | u :: v :: rest =>
    if IsPair u v then CodePoint.ofNat (0x10000 + (u - 0xD800) * 0x400 + (v - 0xDC00)) :: decode rest
    else CodePoint.ofNat u :: decode (v :: rest)

theorem units_of_small {c : CodePoint} (h : c.val < 0x10000) : units c = [c.val] := if_pos h

theorem units_of_large {c : CodePoint} (h : 0x10000 ≤ c.val) :
    units c = [0xD800 + (c.val - 0x10000) / 0x400, 0xDC00 + (c.val - 0x10000) % 0x400] :=
      if_neg (by omega)

/-- Two halves are the units of the character that they denote, and of no other one. -/
theorem units_eq_pair_iff {c high low : CodePoint} :
    units c = [high.val, low.val] ↔ high.IsHigh ∧ low.IsLow ∧ c = CodePoint.ofPair high low := by
  constructor
  · intro h
    by_cases hc : c.val < 0x10000
    · have hlength := congrArg List.length ((units_of_small hc).symm.trans h)
      cases hlength
    · have hlt := c.isLt
      rw [units_of_large (by omega), List.cons.injEq, List.cons.injEq] at h
      obtain ⟨hhigh, hlow, -⟩ := h
      have hh : high.IsHigh := ⟨by omega, by omega⟩
      have hl : low.IsLow := ⟨by omega, by omega⟩
      refine ⟨hh, hl, CodePoint.eq_of_val_eq ?_⟩
      rw [CodePoint.val_ofPair hh hl]
      omega
  · rintro ⟨hh, hl, hc⟩
    have hval := hc ▸ CodePoint.val_ofPair hh hl
    obtain ⟨h1, h2⟩ := hh
    obtain ⟨h3, h4⟩ := hl
    rw [units_of_large (by omega), hval]
    simp only [List.cons.injEq, and_true]
    omega

theorem decode_pair {u v : Nat} (h : IsPair u v) (rest : List Nat) :
    decode (u :: v :: rest) =
      CodePoint.ofNat (0x10000 + (u - 0xD800) * 0x400 + (v - 0xDC00)) :: decode rest := by
  rw [decode, if_pos h]

theorem decode_cons {u : Nat} {rest : List Nat} (h : ∀ v ∈ rest.head?, ¬ IsPair u v) :
    decode (u :: rest) = CodePoint.ofNat u :: decode rest := by
  cases rest with
  | nil => rfl
  | cons v rest => rw [decode, if_neg (h v rfl)]

/-- A large code point is read back whatever follows it, and a small one unless it is the first half
of a pair. -/
theorem decode_units_append {c : CodePoint} {rest : List Nat} (h : ∀ v ∈ rest.head?, ¬ IsPair c.val v) :
    decode (units c ++ rest) = c :: decode rest := by
  by_cases hc : c.val < 0x10000
  · rw [units_of_small hc, List.singleton_append, decode_cons h, CodePoint.ofNat_val]
  · have hlt := c.isLt
    have hpair : IsPair (0xD800 + (c.val - 0x10000) / 0x400) (0xDC00 + (c.val - 0x10000) % 0x400) :=
      ⟨⟨by omega, by omega⟩, by omega, by omega⟩
    have hval : 0x10000 + (0xD800 + (c.val - 0x10000) / 0x400 - 0xD800) * 0x400
        + (0xDC00 + (c.val - 0x10000) % 0x400 - 0xDC00) = c.val := by omega
    rw [units_of_large (by omega), List.cons_append, List.singleton_append, decode_pair hpair, hval,
      CodePoint.ofNat_val]

theorem encode_cons (c : CodePoint) (t : Text) : encode (c :: t) = units c ++ encode t :=
  List.flatMap_cons

/-- The first unit of a text is a low half only if its first code point is. -/
theorem not_isPair_head_encode {c d : CodePoint} {t : Text} (h : ¬ (c.IsHigh ∧ d.IsLow)) :
    ∀ v ∈ (encode (d :: t)).head?, ¬ IsPair c.val v := by
  intro v hv hpair
  rw [encode_cons] at hv
  by_cases hd : d.val < 0x10000
  · rw [units_of_small hd] at hv
    cases hv
    exact h hpair
  · have hlt := d.isLt
    rw [units_of_large (by omega)] at hv
    cases hv
    have hlow := hpair.2.1
    omega

/-- To join pairs is to write a text in units and to read it back. -/
theorem decode_encode (t : Text) : decode (encode t) = Text.joinPairs t := by
  -- A large code point is read back from its own two units, so only small ones can make a pair with
  -- what follows.
  induction t using Text.joinPairs.induct with
  | case1 => rfl
  | case2 c => exact decode_units_append (by simp)
  | case3 high low rest hp ih =>
    have hunits : encode (high :: low :: rest) = high.val :: low.val :: encode rest := by
      obtain ⟨⟨_, hhigh⟩, _, hlow⟩ := hp
      rw [encode_cons, encode_cons, units_of_small (by omega), units_of_small (by omega)]
      rfl
    rw [hunits, decode_pair hp, ih, Text.joinPairs_pair hp.1 hp.2]
    rfl
  | case4 high low rest hp ih =>
    rw [encode_cons, decode_units_append (not_isPair_head_encode hp), ih, Text.joinPairs, if_neg hp]

end Utf16

namespace Text

/-- A backslash, `u` and the four digits of a half in base sixteen, lower case. -/
def fourDigitEscape (c : CodePoint) : Text :=
  CodePoint.ofChar '\\' :: CodePoint.ofChar 'u' ::
    [c.val / 0x1000, c.val / 0x100 % 0x10, c.val / 0x10 % 0x10, c.val % 0x10].map CodePoint.ofDigit

/-- How a text is written, from its left end on: two halves that are the units of a character become
this character, and any other half becomes its escape. -/
inductive IsWritten : Text → Text → Prop where
  | nil : IsWritten [] []
  | kept {c : CodePoint} {t out : Text} : ¬ c.IsSurrogate → IsWritten t out →
      IsWritten (c :: t) (c :: out)
  | pair {high low c : CodePoint} {t out : Text} :
      Utf16.units c = [high.val, low.val] → IsWritten t out →
    IsWritten (high :: low :: t) (c :: out)
  | alone {c : CodePoint} {t out : Text} : c.IsSurrogate → Apart [c] t → IsWritten t out →
    IsWritten (c :: t) (fourDigitEscape c ++ out)

theorem unitEscape_eq {c : CodePoint} (h : c.val < 0x10000) : unitEscape c = fourDigitEscape c := by
  have hdigit : ∀ d < 16, CodePoint.ofChar (Nat.digitChar d) = CodePoint.ofDigit d := by decide
  rw [unitEscape, hexadecimal_four h, fourDigitEscape]
  simp only [List.map_cons, List.map_nil]
  rw [hdigit _ (by omega), hdigit _ (by omega), hdigit _ (by omega), hdigit _ (by omega)]
  rfl

theorem escapeSurrogates_half {c : CodePoint} (h : c.IsSurrogate) :
    escapeSurrogates [c] = fourDigitEscape c := by
  have hsmall : c.val < 0x10000 := Nat.lt_trans h.2 (by decide)
  rw [← unitEscape_eq hsmall]
  simp only [escapeSurrogates, joinPairs, escapeHalves, List.flatMap_cons, List.flatMap_nil,
    if_pos h, List.append_nil]

theorem escapeSurrogates_pair {high low : CodePoint} (hh : high.IsHigh) (hl : low.IsLow) (rest : Text) :
    escapeSurrogates (high :: low :: rest) = CodePoint.ofPair high low :: escapeSurrogates rest := by
  have hkept : escapeHalves [CodePoint.ofPair high low] = [CodePoint.ofPair high low] :=
    escapeHalves_eq_self (by simpa using CodePoint.not_isSurrogate_ofPair hh hl)
  rw [escapeSurrogates, joinPairs_pair hh hl, ← List.singleton_append, escapeHalves_append, hkept]
  rfl

/-- A pair across the border of two texts is joined, and the rest of each text is written as before. -/
theorem escapeSurrogates_append_pair {high low : CodePoint} (hh : high.IsHigh)
    (hl : low.IsLow) (a b : Text) :
    escapeSurrogates (a ++ high :: low :: b)
      = escapeSurrogates a ++ CodePoint.ofPair high low :: escapeSurrogates b := by
  have happart : Apart a (high :: low :: b) := by
    rintro x - y hy ⟨-, hy'⟩
    cases hy
    have hbelow := hh.2
    have habove := hy'.1
    omega
  rw [escapeSurrogates_append happart, escapeSurrogates_pair hh hl]

theorem IsWritten.eq {t out : Text} (h : IsWritten t out) : out = escapeSurrogates t := by
  induction h with
  | nil => rfl
  | kept hc _ ih => rw [escapeSurrogates_cons hc, ih]
  | @pair high low c t out hunits _ ih =>
    obtain ⟨hh, hl, hc⟩ := Utf16.units_eq_pair_iff.mp hunits
    rw [ih, hc, escapeSurrogates_pair hh hl]
  | @alone c t out hc happart _ ih =>
    rw [ih, ← escapeSurrogates_half hc]
    exact (escapeSurrogates_append happart).symm

/-- A code point that opens no pair is kept or becomes its escape. -/
theorem isWritten_cons {c : CodePoint} {t : Text} (happart : Apart [c] t)
    (ht : IsWritten t (escapeSurrogates t)) :
    IsWritten (c :: t) (escapeSurrogates (c :: t)) := by
  by_cases hc : c.IsSurrogate
  · have halone := escapeSurrogates_append happart
    rw [List.singleton_append, escapeSurrogates_half hc] at halone
    rw [halone]
    exact .alone hc happart ht
  · rw [escapeSurrogates_cons hc]
    exact .kept hc ht

theorem isWritten_escapeSurrogates (t : Text) : IsWritten t (escapeSurrogates t) := by
  induction t using joinPairs.induct with
  | case1 => exact .nil
  | case2 c => exact isWritten_cons (apart_nil [c]) .nil
  | case3 high low rest hp ih =>
    rw [escapeSurrogates_pair hp.1 hp.2]
    exact .pair (Utf16.units_eq_pair_iff.mpr ⟨hp.1, hp.2, rfl⟩) ih
  | case4 high low rest hp ih =>
    refine isWritten_cons (fun x hx y hy => ?_) ih
    cases hx
    cases hy
    exact hp

theorem isWritten_iff {t out : Text} : IsWritten t out ↔ out = escapeSurrogates t :=
  ⟨IsWritten.eq, fun h => h ▸ isWritten_escapeSurrogates t⟩

/-- What is no half is kept, in its order. -/
theorem IsWritten.sublist {t out : Text} (h : IsWritten t out) :
    (t.filter fun c => ¬ c.IsSurrogate).Sublist out := by
  induction h with
  | nil => exact .slnil
  | kept hc _ ih =>
    rw [List.filter_cons_of_pos (by simpa using hc)]
    exact ih.cons_cons _
  | @pair high low c t out hunits _ ih =>
    obtain ⟨hh, hl, -⟩ := Utf16.units_eq_pair_iff.mp hunits
    have hhigh : high.IsSurrogate :=
      Decidable.byContradiction fun h => CodePoint.not_isHigh_of_not_isSurrogate h hh
    have hlow : low.IsSurrogate :=
      Decidable.byContradiction fun h => CodePoint.not_isLow_of_not_isSurrogate h hl
    rw [List.filter_cons_of_neg (by simpa using hhigh), List.filter_cons_of_neg (by simpa using hlow)]
    exact ih.cons _
  | alone hc _ _ ih =>
    rw [List.filter_cons_of_neg (by simpa using hc)]
    exact ih.trans (List.sublist_append_right _ _)

theorem exists_encode?_escapeSurrogates (t : Text) :
    ∃ bytes, Utf8.encode? (escapeSurrogates t) = some bytes :=
  Utf8.exists_encode?_iff.mpr fun _ => not_isSurrogate_of_mem_escapeSurrogates

theorem escapeSurrogates_escapeSurrogates (t : Text) :
    escapeSurrogates (escapeSurrogates t) = escapeSurrogates t :=
  escapeSurrogates_eq_self fun _ => not_isSurrogate_of_mem_escapeSurrogates

/-- The rewriting of a text has no halves and can be encoded, leaves a text without halves alone and
so changes nothing the second time, and keeps what is no half in its order. It is the text read back
from its units with escapes for the halves that remain, and it is how the text is written from its
left end on. Two texts are rewritten apart unless a pair stands where they meet, which then becomes
the character that it denotes. -/
theorem escapeSurrogates_safe :
    (∀ t : Text, (∀ c ∈ escapeSurrogates t, ¬ c.IsSurrogate) ∧
      (∃ bytes, Utf8.encode? (escapeSurrogates t) = some bytes) ∧
      ((∀ c ∈ t, ¬ c.IsSurrogate) → escapeSurrogates t = t) ∧
      escapeSurrogates (escapeSurrogates t) = escapeSurrogates t ∧
      (t.filter fun c => ¬ c.IsSurrogate).Sublist (escapeSurrogates t) ∧
      escapeSurrogates t = escapeHalves (Utf16.decode (Utf16.encode t)) ∧
      ∀ out, IsWritten t out ↔ out = escapeSurrogates t) ∧
    ∀ a b : Text, (Apart a b → escapeSurrogates (a ++ b) = escapeSurrogates a ++ escapeSurrogates b) ∧
      ∀ high low : CodePoint, high.IsHigh → low.IsLow →
        escapeSurrogates ((a ++ [high]) ++ (low :: b))
          = escapeSurrogates a ++ CodePoint.ofPair high low :: escapeSurrogates b := by
  refine ⟨fun t => ⟨fun _ => not_isSurrogate_of_mem_escapeSurrogates, exists_encode?_escapeSurrogates t,
    escapeSurrogates_eq_self, escapeSurrogates_escapeSurrogates t,
      (isWritten_escapeSurrogates t).sublist, ?_,
    fun _ => isWritten_iff⟩, fun a b => ⟨escapeSurrogates_append, fun high low hh hl => ?_⟩⟩
  · rw [Utf16.decode_encode, escapeSurrogates]
  · rw [List.append_assoc, List.singleton_append]
    exact escapeSurrogates_append_pair hh hl a b

/-- A text cut after a character, and two high and two low halves in a row, cut between the inner
ones. -/
theorem escapeSurrogates_safe_between_halves :
    let high : CodePoint := ⟨0xD83D, by decide⟩
    let low : CodePoint := ⟨0xDE00, by decide⟩
    escapeSurrogates (ofString "a😀") = ofString "a😀" ∧
      escapeSurrogates (ofString "a😀" ++ [low]) =
        escapeSurrogates (ofString "a😀") ++ escapeSurrogates [low] ∧
      escapeSurrogates (([high] ++ [high]) ++ (low :: [low]))
        = escapeSurrogates [high] ++ CodePoint.ofPair high low :: escapeSurrogates [low] ∧
      escapeSurrogates [high, high, low, low] = ofString "\\ud83d😀\\ude00" := by
  intro high low
  have happart : Apart (ofString "a😀") [low] := apart_of_last (by decide) _
  exact ⟨(escapeSurrogates_safe.1 _).2.2.1 (by decide), (escapeSurrogates_safe.2 _ _).1 happart,
    (escapeSurrogates_safe.2 _ _).2 high low (by decide) (by decide), by decide⟩

end Text

end ScriptTree
