import ScriptTree.Json.Token
import ScriptTree.Proofs.Text.Surrogates

namespace ScriptTree

namespace Token

/-- How a code point stands between quotes once the halves that remain are escaped. -/
def finalForm (c : CodePoint) : Text := if c.IsSurrogate then Text.unitEscape c else escape c

theorem escape_eq_self {c : CodePoint} (hq : c ≠ '"') (hb : c ≠ '\\') (h : 32 ≤ c.val) :
    escape c = [c] := by
  have hn : c ≠ '\n' := by rintro rfl; exact absurd h (by decide)
  have hr : c ≠ '\r' := by rintro rfl; exact absurd h (by decide)
  have ht : c ≠ '\t' := by rintro rfl; exact absurd h (by decide)
  simp only [escape, if_neg hq, if_neg hb, if_neg hn, if_neg hr, if_neg ht,
    if_neg (show c.val ≠ 8 by omega), if_neg (show c.val ≠ 12 by omega),
      if_neg (show ¬ c.val < 32 by omega)]

theorem escape_of_large {c : CodePoint} (h : 128 ≤ c.val) : escape c = [c] := by
  apply escape_eq_self
  · rintro rfl; exact absurd h (by decide)
  · rintro rfl; exact absurd h (by decide)
  · omega

theorem escape_of_isSurrogate {c : CodePoint} (h : c.IsSurrogate) : escape c = [c] :=
  escape_of_large (by have := h.1; omega)

/-- What stands for a code point is the code point itself or an ASCII text. -/
theorem escape_eq_self_or (c : CodePoint) :
    escape c = [c] ∨ (escape c ≠ [] ∧ ∀ d ∈ escape c, ¬ d.IsSurrogate) := by
  by_cases hlarge : 128 ≤ c.val
  · exact Or.inl (escape_of_large hlarge)
  right
  unfold escape
  repeat' split
  all_goals first
    | exact ⟨by decide, by decide⟩
    | skip
  next hlt =>
    exact ⟨by simp [Text.unitEscape, Text.ofString],
      fun d hd => Text.not_isSurrogate_of_mem_unitEscape (by omega) hd⟩
  next =>
    refine ⟨by simp, ?_⟩
    intro d hd hs
    cases List.mem_singleton.mp hd
    have := hs.1
    omega

theorem last_escape_isHigh {c x : CodePoint} (hx : (escape c).getLast? = some x) (hh : x.IsHigh) :
    x = c := by
  rcases escape_eq_self_or c with hc | ⟨_, hc⟩
  · simpa [hc, eq_comm] using hx
  · exact absurd hh (CodePoint.not_isHigh_of_not_isSurrogate (hc x (List.mem_of_getLast? hx)))

theorem head_escape_isLow {c y : CodePoint} {t : Text} (hy : (escape c ++ t).head? = some y)
    (hl : y.IsLow) : y = c := by
  rcases escape_eq_self_or c with hc | ⟨hne, hc⟩
  · simpa [hc, eq_comm] using hy
  · obtain ⟨d, tail, he⟩ := List.exists_cons_of_ne_nil hne
    have hd : d = y := by simpa [he] using hy
    have hm : y ∈ escape c := by simp [he, hd]
    exact absurd hl (CodePoint.not_isLow_of_not_isSurrogate (hc y hm))

theorem joinPairs_escape (c : CodePoint) : Text.joinPairs (escape c) = escape c := by
  rcases escape_eq_self_or c with hc | ⟨_, hc⟩
  · rw [hc]
    rfl
  · exact Text.joinPairs_eq_self fun d hd => CodePoint.not_isHigh_of_not_isSurrogate (hc d hd)

/-- Joining halves and escaping the rest of the string do not disturb each other. -/
theorem joinPairs_flatMap_escape (t : Text) :
    Text.joinPairs (t.flatMap escape) = (Text.joinPairs t).flatMap escape := by
  induction t using Text.joinPairs.induct with
  | case1 => rfl
  | case2 c => simp [joinPairs_escape, Text.joinPairs]
  | case3 high low rest hp ih =>
    have hpair := CodePoint.val_ofPair hp.1 hp.2
    have hhigh : escape high = [high] := escape_of_large (by have := hp.1.1; omega)
    have hlow : escape low = [low] := escape_of_large (by have := hp.2.1; omega)
    rw [Text.joinPairs_pair hp.1 hp.2, List.flatMap_cons, List.flatMap_cons, List.flatMap_cons, hhigh,
      hlow, escape_of_large (c := CodePoint.ofPair high low) (by omega), ← ih]
    exact Text.joinPairs_pair hp.1 hp.2 _
  | case4 high low rest hp ih =>
    have hjoin : Text.joinPairs (high :: low :: rest) = high :: Text.joinPairs (low :: rest) := by
      rw [Text.joinPairs, if_neg hp]
    have happart : Text.Apart (escape high) ((low :: rest).flatMap escape) := by
      rintro x hx y hy ⟨hh, hl⟩
      have hxe := last_escape_isHigh hx hh
      have hye := head_escape_isLow (by simpa using hy) hl
      subst hxe hye
      exact hp ⟨hh, hl⟩
    rw [List.flatMap_cons, Text.joinPairs_append happart, joinPairs_escape, ih, hjoin,
      List.flatMap_cons]

theorem escapeHalves_escape (c : CodePoint) : Text.escapeHalves (escape c) = finalForm c := by
  rw [finalForm]
  split
  next hs =>
    rw [escape_of_isSurrogate hs]
    simp [Text.escapeHalves, hs]
  next hs =>
    apply Text.escapeHalves_eq_self
    rcases escape_eq_self_or c with hc | ⟨_, hc⟩
    · simpa [hc] using hs
    · exact hc

theorem escapeSurrogates_flatMap_escape (t : Text) :
    Text.escapeSurrogates (t.flatMap escape) = (Text.joinPairs t).flatMap finalForm := by
  rw [Text.escapeSurrogates, joinPairs_flatMap_escape, Text.escapeHalves, List.flatMap_assoc]
  congr 1
  funext c
  exact escapeHalves_escape c

theorem readQuoted_plain {c : CodePoint} (hq : c ≠ '"') (hb : c ≠ '\\') (h : 32 ≤ c.val) (rest : Text) :
    readQuoted .plain (c :: rest) = (readQuoted .plain rest).map fun r => (c :: r.1, r.2) := by
  rw [readQuoted, if_neg hq, if_neg hb, if_neg (by omega)]

theorem readQuoted_letter (letter : CodePoint) {c : CodePoint} (hu : letter ≠ 'u')
    (h : letterEscape letter = some c) (rest : Text) :
      readQuoted .plain (CodePoint.ofChar '\\' :: letter :: rest) =
      (readQuoted .plain rest).map fun r => (c :: r.1, r.2) := by
  have hb : readQuoted .plain (CodePoint.ofChar '\\' :: letter :: rest) =
      readQuoted .escape (letter :: rest) := rfl
  rw [hb, readQuoted, if_neg hu, h]
  rfl

theorem readQuoted_unitEscape {c : CodePoint} (h : c.val < 0x10000) (rest : Text) :
    readQuoted .plain (Text.unitEscape c ++ rest) =
      (readQuoted .plain rest).map fun r => (c :: r.1, r.2) := by
  have hmark : ∀ t : Text, readQuoted .plain (Text.ofString "\\u" ++ t) = readQuoted (.unit 0 0) t :=
    fun _ => rfl
  have hdigit (k v d : Nat) (t : Text) (hd : d < 16) (hk : k ≠ 3) :
      readQuoted (.unit k v) (CodePoint.ofChar d.digitChar :: t) =
        readQuoted (.unit (k + 1) (v * 16 + d)) t := by
    rw [readQuoted, Text.hexValue_digitChar d hd, Option.bind_some, if_neg hk]
  have hvalue : (((0 * 16 + c.val / 0x1000) * 16 + c.val / 0x100 % 16) * 16 + c.val / 0x10 % 16) * 16
      + c.val % 16 = c.val := by omega
  rw [Text.unitEscape, Text.hexadecimal_four h, List.append_assoc, hmark]
  simp only [List.map_cons, List.map_nil, List.cons_append, List.nil_append]
  rw [hdigit 0 _ _ _ (by omega) (by decide), hdigit 1 _ _ _ (by omega) (by decide),
    hdigit 2 _ _ _ (by omega) (by decide), readQuoted, Text.hexValue_digitChar _ (by omega),
    Option.bind_some, if_pos rfl, hvalue, CodePoint.ofNat_val]

/-- The form that stands for a code point is read as this code point. -/
theorem readQuoted_finalForm (c : CodePoint) (rest : Text) :
    readQuoted .plain (finalForm c ++ rest) =
      (readQuoted .plain rest).map fun r => (c :: r.1, r.2) := by
  unfold finalForm
  split
  next hs => exact readQuoted_unitEscape (by have := hs.2; omega) rest
  unfold escape
  split
  next h => subst h; exact readQuoted_letter '"' (by decide) (by decide) rest
  next hq =>
  split
  next h => subst h; exact readQuoted_letter '\\' (by decide) (by decide) rest
  next hb =>
  split
  next h => subst h; exact readQuoted_letter 'n' (by decide) (by decide) rest
  split
  next h => subst h; exact readQuoted_letter 'r' (by decide) (by decide) rest
  split
  next h => subst h; exact readQuoted_letter 't' (by decide) (by decide) rest
  split
  next h =>
    have hc : c = CodePoint.ofNat 8 := CodePoint.eq_of_val_eq h
    subst hc
    exact readQuoted_letter 'b' (by decide) (by decide) rest
  split
  next h =>
    have hc : c = CodePoint.ofNat 12 := CodePoint.eq_of_val_eq h
    subst hc
    exact readQuoted_letter 'f' (by decide) (by decide) rest
  split
  next h => exact readQuoted_unitEscape (by omega) rest
  next h => exact readQuoted_plain hq hb (by omega) rest

theorem readQuoted_flatMap_finalForm (t rest : Text) :
    readQuoted .plain (t.flatMap finalForm ++ CodePoint.ofChar '"' :: rest) = some (t, rest) := by
  induction t with
  | nil => rfl
  | cons c t ih => rw [List.flatMap_cons, List.append_assoc, readQuoted_finalForm, ih]; rfl

end Token

end ScriptTree
