import ScriptTree.Proofs.Json.Lexing
import ScriptTree.Proofs.Number.ScriptText
import ScriptTree.Proofs.Tree.Number

namespace ScriptTree

namespace Double

/-- What stands in a tree's text where a script writes something else: all digits of a whole number
below `10 ^ 21` that differs from its shortest decimal, and a padded exponent for a decimal between
`1e-9` and `1e-4`. -/
inductive IsMisprint : Double → Text → Prop where
  | whole {negative : Bool} {m s N : Nat} {h : Canonical m s} {d : Decimal} : 0 < m →
    d.IsShortest (.finite false m s h) → value (.finite false m s h) = N → N < 10 ^ 21 → d.value ≠ N →
    IsMisprint (.finite negative m s h) (signText negative ++ Text.ofNat N)
  | small {negative : Bool} {m s : Nat} {h : Canonical m s} {d : Decimal} : 0 < m →
    d.IsShortest (.finite false m s h) → -8 ≤ d.point → d.point ≤ -4 →
    IsMisprint (.finite negative m s h)
      (signText negative ++ (d.mantissaText ++ ("e-0" : Text) ++ Text.ofNat (1 - d.point).natAbs))

/-- The numbers that do not stand in a tree's text as a script writes them. -/
def IsMisprinted (x : Double) : Prop := ∃ t, x.IsMisprint t

section Magnitudes

variable {negative : Bool} {m s N : Nat} {h : Canonical m s}

theorem isMisprinted_iff (hm : 0 < m) : IsMisprinted (.finite negative m s h) ↔
    (∃ N : ℕ, value (.finite false m s h) = N ∧ N < 10 ^ 21 ∧ (shortest m s).value ≠ N) ∨
      -8 ≤ (shortest m s).point ∧ (shortest m s).point ≤ -4 := by
  constructor
  · rintro ⟨t, hmis⟩
    cases hmis with
    | whole _ hd hvalue hlt hne => exact Or.inl ⟨_, hvalue, hlt, eq_shortest hm hd ▸ hne⟩
    | small _ hd hlow hhigh =>
      rw [eq_shortest hm hd] at hlow hhigh
      exact Or.inr ⟨hlow, hhigh⟩
  · rintro (⟨N, hvalue, hlt, hne⟩ | ⟨hlow, hhigh⟩)
    · exact ⟨_, .whole hm (isShortest_shortest h hm) hvalue hlt hne⟩
    · exact ⟨_, .small hm (isShortest_shortest h hm) hlow hhigh⟩

/-- The shortest decimal of a whole number below `10 ^ 21` is a whole number too, and a script
writes all its digits. -/
theorem scriptText_of_whole (hm : 0 < m) (hN : value (.finite false m s h) = N) (hlt : N < 10 ^ 21) :
    0 < (shortest m s).point ∧ ∃ M : ℕ, (shortest m s).value = M ∧
      (shortest m s).scriptText = Text.ofNat M := by
  have hd := isShortest_shortest h hm
  have hexp := hd.exponent_nonneg hm (pos_of_value_eq_natCast hm hN) hN
  obtain ⟨M, hM⟩ := Decimal.exists_value_eq_natCast hexp
  have hpoint : (shortest m s).point ≤ 21 := by
    obtain ⟨c, hc, hbound⟩ := Value.exists_value_eq_plainBound
    have hpow : ((Value.plainBound : ℕ) : ℚ) = 10 ^ (21 : ℤ) := by norm_num [Value.plainBound]
    have hless : value (.finite false m s h) < 10 ^ (21 : ℤ) := by
      rw [hN, zpow_ofNat]
      exact_mod_cast hlt
    apply hd.isProper.point_le_of_lt
    refine lt_of_le_of_ne (hd.value_le_pow hm hless.le) fun heq => ?_
    have hle := hd.reads.le_value hc (by rw [hbound, hpow, heq])
    rw [hbound, hpow] at hle
    exact absurd hless (not_lt.mpr hle)
  refine ⟨?_, M, hM, hd.isProper.scriptText_of_whole hexp hpoint hM⟩
  have hlen := hd.isProper.length_pos
  rw [Decimal.exponent] at hexp
  omega

theorem isMisprinted_iff_of_whole (hm : 0 < m) (hN : value (.finite false m s h) = N)
    (hlt : N < 10 ^ 21) :
    IsMisprinted (.finite negative m s h) ↔ (shortest m s).value ≠ N := by
  have hpoint := (scriptText_of_whole hm hN hlt).1
  rw [isMisprinted_iff hm, or_iff_left (by omega)]
  refine ⟨fun ⟨K, hK, _, hne⟩ => ?_, fun hne => ⟨N, hN, hlt, hne⟩⟩
  rwa [← hN, hK]

/-- The digits of a number that is not whole or is at least `10 ^ 21` go on after the point, or the
point stands far to the right. -/
theorem exponent_neg_or (hm : 0 < m) (hlarge : ∀ N : ℕ, value (.finite false m s h) = N → 10 ^ 21 ≤ N) :
    (shortest m s).exponent < 0 ∧ (shortest m s).point ≤ 16 ∨ 22 ≤ (shortest m s).point := by
  have hd := isShortest_shortest h hm
  by_cases hwhole : ∃ N : ℕ, value (.finite false m s h) = N
  · obtain ⟨N, hN⟩ := hwhole
    refine Or.inr (hd.isProper.lt_point (k := 21) (hd.pow_le_value hm ?_))
    rw [hN, zpow_ofNat]
    exact_mod_cast hlarge N hN
  · exact Or.inl (hd.exponent_neg hm fun N hN => hwhole ⟨N, hN⟩)

/-- The text of such a number is that of a script except between `1e-9` and `1e-4`. -/
theorem decimalText_eq_scriptText_iff (negative : Bool) (hm : 0 < m)
    (hlarge : ∀ N : ℕ, value (.finite false m s h) = N → 10 ^ 21 ≤ N) :
    decimalText documentFormat (shortest m s) = (shortest m s).scriptText ↔
      ¬ IsMisprinted (.finite negative m s h) := by
  have hwhole : ¬ ∃ N : ℕ, value (.finite false m s h) = N ∧ N < 10 ^ 21 ∧ (shortest m s).value ≠ N :=
    fun ⟨N, hN, hlt, _⟩ => absurd hlt (not_lt.mpr (hlarge N hN))
  rw [isMisprinted_iff hm, or_iff_right hwhole]
  have hproper := (isShortest_shortest h hm).isProper
  have hcases := exponent_neg_or hm hlarge
  by_cases hrange : -3 ≤ (shortest m s).point ∧ (shortest m s).point ≤ 16
  · exact iff_of_true (Decimal.decimalText_eq_scriptText hrange (by omega)) (by omega)
  · by_cases hzero : (shortest m s).point = -5 ∨ (shortest m s).point = -4
    · exact iff_of_false (hproper.decimalText_ne_scriptText hzero) (by omega)
    · rw [hproper.decimalText_eq_scriptText_iff (by omega)]
      omega

theorem not_isMisprinted_zero {h : Canonical 0 s} : ¬ IsMisprinted (.finite negative 0 s h) := by
  rintro ⟨t, hmis⟩
  cases hmis with
  | whole hm => exact absurd hm (Nat.lt_irrefl 0)
  | small hm => exact absurd hm (Nat.lt_irrefl 0)

end Magnitudes

end Double

namespace Value

section Written

variable {negative : Bool} {m s N : Nat} {h : Double.Canonical m s}

/-- The text of a number is the text of its encoding. -/
theorem serialize_float {x : Double} (hx : x.isFinite = true) (layout : Json.Layout) :
    (scalar (.float x)).serialize layout = .ok (Token.scalarText (encodeFloat x)) := by
  have hserialize : (scalar (.float x)).serialize layout =
      .ok (Text.escapeSurrogates (Token.scalarText (encodeFloat x))) := rfl
  have hnumeric : ∀ c ∈ Token.scalarText (encodeFloat x), Token.isNumeric c = true := by
    by_cases hsmall : x.isInteger = true ∧ x.truncate.natAbs < plainBound
    · rw [encodeFloat_of_lt hsmall.1 hsmall.2]
      exact Double.isNumeric_of_mem_ofInt
    · rw [encodeFloat_of_not hx hsmall]
      exact Double.isNumeric_of_mem_write hx
  rw [hserialize, Text.escapeSurrogates_eq_self fun c hc => Token.not_isSurrogate_of_isNumeric
    (hnumeric c hc)]

/-- A whole number below `10 ^ 21` is written with all its digits. -/
theorem scalarText_of_whole (hm : 0 < m) (hN : (Double.finite false m s h).value = N)
    (hlt : N < 10 ^ 21) :
    Token.scalarText (encodeFloat (.finite negative m s h)) =
      Double.signText negative ++ Text.ofNat N := by
  have hpos := Double.pos_of_value_eq_natCast hm hN
  have hvalue := Double.value_finite (h := h) negative
  rw [hN] at hvalue
  cases negative with
  | false =>
    have hint : (Double.finite false m s h).value = ((N : ℤ) : ℚ) := hvalue
    rw [encodeFloat_of_value_eq rfl hint, encodeInt_of_lt (by rwa [Int.natAbs_natCast]),
      Token.scalarText, Text.ofInt, if_neg (by omega), Int.natAbs_natCast]
    rfl
  | true =>
    have hint : (Double.finite true m s h).value = ((-(N : ℤ) : ℤ) : ℚ) := by
      rw [hvalue, Int.cast_neg]
      rfl
    rw [encodeFloat_of_value_eq rfl hint, encodeInt_of_lt (by rwa [Int.natAbs_neg, Int.natAbs_natCast]),
      Token.scalarText, Text.ofInt, if_pos (by omega), Int.natAbs_neg, Int.natAbs_natCast]
    rfl

/-- Any other number is written as its shortest decimal. -/
theorem scalarText_of_large (hm : 0 < m)
    (hlarge : ∀ N : ℕ, (Double.finite false m s h).value = N → 10 ^ 21 ≤ N) :
    Token.scalarText (encodeFloat (.finite negative m s h)) =
      Double.signText negative ++ Double.decimalText Double.documentFormat (Double.shortest m s) := by
  have hencode : encodeFloat (.finite negative m s h) = .float (.finite negative m s h) := by
    refine encodeFloat_of_large rfl fun i hi => hlarge i.natAbs ?_
    have habs : (Double.finite false m s h).value = |(Double.finite negative m s h).value| := by
      have hnonneg : 0 ≤ (Double.finite false m s h).value :=
        div_nonneg (Nat.cast_nonneg _) (Nat.cast_nonneg _)
      rw [Double.value_finite negative]
      split
      · rw [abs_neg, abs_of_nonneg hnonneg]
      · rw [abs_of_nonneg hnonneg]
    rw [habs, hi, Nat.cast_natAbs, Int.cast_abs]
  rw [hencode, Token.scalarText, Double.write, if_neg hm.ne']

theorem scalarText_zero {h : Double.Canonical 0 s} :
    Token.scalarText (encodeFloat (.finite negative 0 s h)) = "0" := by
  have hzero : (Double.finite negative 0 s h).value = (0 : Int) := by
    rw [Double.value_eq_intCast_iff, Int.zero_mul, ← Int.natAbs_eq_zero, Double.natAbs_signedUnits]
    exact Nat.zero_mul _
  rw [encodeFloat_of_value_eq rfl hzero, encodeInt_of_lt (by decide), Token.scalarText, Text.ofInt,
    if_neg (by decide), Text.ofNat, Int.natAbs_zero, Text.decimalDigits_of_lt (by decide)]
  rfl

/-- A misprint is what the tree's text holds. -/
theorem scalarText_of_isMisprint {x : Double} {t : Text} (h : x.IsMisprint t) :
    Token.scalarText (encodeFloat x) = t := by
  cases h with
  | whole hm _ hN hlt _ => exact scalarText_of_whole hm hN hlt
  | @small negative m s h d hm hd hlow hhigh =>
    obtain rfl := Double.eq_shortest hm hd
    have hlarge (N : ℕ) (hN : (Double.finite false m s h).value = N) : 10 ^ 21 ≤ N := by
      by_contra hlt
      have := (Double.scriptText_of_whole hm hN (not_le.mp hlt)).1
      omega
    have hswap : ((Double.shortest m s).point - 1).natAbs =
        (1 - (Double.shortest m s).point).natAbs := by omega
    have hpadded : Text.ofString "e-0" = Text.ofString "e-" ++ Double.zeros 1 := rfl
    rw [scalarText_of_large hm hlarge, hd.isProper.decimalText_of_exponent (by omega),
      Decimal.exponentText_documentFormat, if_pos (by omega), if_pos (by omega), hswap, hpadded]
    simp only [List.append_assoc]

theorem scalarText_eq_scriptText_iff (hm : 0 < m) :
    Token.scalarText (encodeFloat (.finite negative m s h)) =
        Double.signText negative ++ (Double.shortest m s).scriptText ↔
      ¬ Double.IsMisprinted (.finite negative m s h) := by
  by_cases hwhole : ∃ N : ℕ, (Double.finite false m s h).value = N ∧ N < 10 ^ 21
  · obtain ⟨N, hN, hlt⟩ := hwhole
    obtain ⟨-, M, hM, htext⟩ := Double.scriptText_of_whole hm hN hlt
    rw [scalarText_of_whole hm hN hlt, List.append_cancel_left_eq, htext, Text.ofNat_inj,
      Double.isMisprinted_iff_of_whole hm hN hlt, not_not, hM, Nat.cast_inj]
    exact eq_comm
  · have hlarge (N : ℕ) (hN : (Double.finite false m s h).value = N) : 10 ^ 21 ≤ N :=
      not_lt.mp fun hlt => hwhole ⟨N, hN, hlt⟩
    rw [scalarText_of_large hm hlarge, List.append_cancel_left_eq]
    exact Double.decimalText_eq_scriptText_iff negative hm hlarge

/-- A script writes one text for each finite double. The text of the number is this one, in every
layout, unless the number has a misprint, and then it is the misprint. -/
theorem serialize_number {x : Double} (hx : x.isFinite = true) :
    ∃ t, (∀ u, x.IsScriptText u ↔ u = t) ∧
      (∀ layout, (scalar (.float x)).serialize layout = .ok t ↔ ¬ x.IsMisprinted) ∧
      ∀ layout u, x.IsMisprint u → (scalar (.float x)).serialize layout = .ok u := by
  simp only [serialize_float hx, Except.ok.injEq]
  cases x with
  | infinite negative => cases hx
  | nan => cases hx
  | finite negative m s h =>
    rcases Nat.eq_zero_or_pos m with rfl | hm
    · exact ⟨_, fun u => Double.isScriptText_zero_iff,
        fun _ => iff_of_true scalarText_zero Double.not_isMisprinted_zero,
          fun _ _ => scalarText_of_isMisprint⟩
    · exact ⟨_, fun u => Double.isScriptText_iff hm, fun _ => scalarText_eq_scriptText_iff hm,
        fun _ _ => scalarText_of_isMisprint⟩

theorem serialize_number_half :
    (scalar (.float (.finite false (Nat.pow 2 52) 1021 (by decide)))).serialize standardLayout =
      .ok "0.5" := by
  obtain ⟨t, ht, hserialize, -⟩ :=
    serialize_number (x := .finite false (Nat.pow 2 52) 1021 (by decide)) rfl
  have hhalf : "0.5" = t := by
    rw [← ht, Double.isScriptText_iff (by decide)]
    decide +kernel
  rw [hhalf, hserialize, Double.isMisprinted_iff (by decide)]
  rintro (⟨N, hN, -⟩ | ⟨-, hhigh⟩)
  · rw [← Int.cast_natCast] at hN
    exact absurd (Double.isInteger_of_value_eq rfl hN) (by decide +kernel)
  · exact absurd hhigh (by decide +kernel)

/-- One ten-millionth has an exponent of one digit in a script and of two in a tree's text, and a
large power of two has more digits in a tree's text than in a script. -/
theorem serialize_number_misprinted :
    (Double.ofDecimal false 1 (-7)).IsScriptText "1e-7" ∧
    (scalar (.float (Double.ofDecimal false 1 (-7)))).serialize standardLayout = .ok "1e-07" ∧
    (Double.ofInt (2 ^ 60)).IsScriptText "1152921504606847000" ∧
    (scalar (.float (Double.ofInt (2 ^ 60)))).serialize standardLayout = .ok "1152921504606846976" := by
  have hsmall : Double.ofDecimal false 1 (-7) = .finite false 7555786372591432 998 (by decide) := by
    decide +kernel
  have hlarge : Double.ofInt (2 ^ 60) = .finite false (Nat.pow 2 52) 1082 (by decide) := by
    decide +kernel
  rw [hsmall, hlarge, Double.isScriptText_iff (by decide), Double.isScriptText_iff (by decide),
    serialize_float rfl, serialize_float rfl, Except.ok.injEq, Except.ok.injEq]
  refine ⟨?_, ?_, ?_, ?_⟩ <;> decide +kernel

end Written

end Value

end ScriptTree
