import ScriptTree.Proofs.Number.Fewest
import ScriptTree.Proofs.Number.Integral
import ScriptTree.Proofs.Number.Written

namespace ScriptTree

namespace Decimal

/-- The first digit, and the others after a point. -/
def mantissaText (d : Decimal) : Text :=
  let point : Text := "."
  Double.digitText (d.digits.take 1)
    ++ (if d.digits.length = 1 then [] else point ++ Double.digitText (d.digits.drop 1))

/-- The text of a decimal in a script: positional if at most five zeros stand between the point and
the digits and at most 21 digits before the point, and otherwise with an exponent, its sign and no
zeros before its digits. -/
def scriptText (d : Decimal) : Text :=
  let point : Text := "."
  let k : Int := d.digits.length
  let n := d.point
  if -6 < n ∧ n ≤ 21 then
    if k ≤ n then Double.digitText d.digits ++ Double.zeros (n - k).toNat
    else if 0 < n then Double.digitText (d.digits.take n.toNat) ++
      point ++ Double.digitText (d.digits.drop n.toNat)
    else "0" ++ point ++ Double.zeros (-n).toNat ++ Double.digitText d.digits
  else d.mantissaText ++ (if n < 0 then "e-" else "e+" : Text) ++ Text.ofNat (n - 1).natAbs

end Decimal

namespace Double

/-- The text that a script writes for a finite double. -/
inductive IsScriptText : Double → Text → Prop where
  | zero {negative : Bool} {s : Nat} {h : Canonical 0 s} : IsScriptText (.finite negative 0 s h) "0"
  | positive {m s : Nat} {h : Canonical m s} {d : Decimal} :
      0 < m → d.IsShortest (.finite false m s h) →
    IsScriptText (.finite false m s h) d.scriptText
  | negative {m s : Nat} {h : Canonical m s} {d : Decimal} :
      0 < m → d.IsShortest (.finite false m s h) →
    IsScriptText (.finite true m s h) ("-" ++ d.scriptText)

theorem isScriptText_zero_iff {negative : Bool} {s : Nat} {h : Canonical 0 s} {t : Text} :
    IsScriptText (.finite negative 0 s h) t ↔ t = "0" := by
  refine ⟨fun ht => ?_, fun ht => ht ▸ .zero⟩
  cases ht with
  | zero => rfl
  | positive hm => exact absurd hm (Nat.lt_irrefl 0)
  | negative hm => exact absurd hm (Nat.lt_irrefl 0)

theorem isScriptText_iff {negative : Bool} {m s : Nat} {h : Canonical m s} {t : Text} (hm : 0 < m) :
    IsScriptText (.finite negative m s h) t ↔ t = signText negative ++ (shortest m s).scriptText := by
  constructor
  · intro ht
    cases ht with
    | zero => exact absurd hm (Nat.lt_irrefl 0)
    | positive _ hd =>
      rw [eq_shortest hm hd]
      rfl
    | negative _ hd =>
      rw [eq_shortest hm hd]
      rfl
  · rintro rfl
    cases negative with
    | false => exact .positive hm (isShortest_shortest h hm)
    | true => exact .negative hm (isShortest_shortest h hm)

end Double

namespace Decimal

section Powers

/-- A power of ten, with one digit. -/
def powTen (k : Int) : Decimal := { digits := [1], point := k + 1 }

theorem isProper_powTen (k : Int) : (powTen k).IsProper := ⟨by simp [powTen], ⟨1, [], rfl, Nat.one_pos⟩⟩

theorem value_powTen (k : Int) : (powTen k).value = 10 ^ k := by
  have hsig : (powTen k).significand = 1 := rfl
  have hexp : (powTen k).exponent = k := Int.add_sub_cancel k 1
  rw [value, hsig, hexp, Nat.cast_one, one_mul]

variable {m s : Nat} {h : Double.Canonical m s} {d : Decimal}

/-- A power of ten that is rounded to the double is not nearer to it than its shortest decimal. -/
theorem IsShortest.abs_le_of_pow (hd : d.IsShortest (.finite false m s h)) {k : Int}
    (hk : (Double.finite false m s h).IsNearest (10 ^ k)) :
    |d.value - (Double.finite false m s h).value| ≤ |10 ^ k - (Double.finite false m s h).value| := by
  rw [← value_powTen] at hk ⊢
  have hproper := isProper_powTen k
  exact hd.nearest _ hproper hk (le_antisymm hd.isProper.length_pos (hd.fewest _ hproper hk))

/-- The shortest decimal of a double is not below a power of ten that the double is not below. -/
theorem IsShortest.pow_le_value (hm : 0 < m) (hd : d.IsShortest (.finite false m s h)) {k : Int}
    (hk : 10 ^ k ≤ (Double.finite false m s h).value) : 10 ^ k ≤ d.value := by
  by_contra hlt
  rw [not_le] at hlt
  have hle := hd.abs_le_of_pow (hd.reads.between hm (Or.inl ⟨hlt.le, hk⟩))
  rw [abs_of_nonpos (by linarith), abs_of_nonpos (by linarith)] at hle
  linarith

/-- The shortest decimal of a double is not above a power of ten that the double is not above. -/
theorem IsShortest.value_le_pow (hm : 0 < m) (hd : d.IsShortest (.finite false m s h)) {k : Int}
    (hk : (Double.finite false m s h).value ≤ 10 ^ k) : d.value ≤ 10 ^ k := by
  by_contra hlt
  rw [not_le] at hlt
  have hle := hd.abs_le_of_pow (hd.reads.between hm (Or.inr ⟨hk, hlt.le⟩))
  rw [abs_of_nonneg (by linarith), abs_of_nonneg (by linarith)] at hle
  linarith

theorem IsProper.lt_point (hd : d.IsProper) {k : Int} (hk : 10 ^ k ≤ d.value) : k < d.point :=
  (zpow_lt_zpow_iff_right₀ (by norm_num : (1 : ℚ) < 10)).mp (hk.trans_lt hd.value_lt)

theorem IsProper.point_le_of_lt (hd : d.IsProper) {k : Int} (hk : d.value < 10 ^ k) : d.point ≤ k := by
  have := (zpow_lt_zpow_iff_right₀ (by norm_num : (1 : ℚ) < 10)).mp (hd.pow_le_value.trans_lt hk)
  omega

end Powers

section Whole

variable {m s N : Nat} {h : Double.Canonical m s} {d : Decimal}

theorem exists_value_eq_natCast (hd : 0 ≤ d.exponent) : ∃ N : ℕ, d.value = N := by
  obtain ⟨n, hn⟩ := Int.eq_ofNat_of_zero_le hd
  refine ⟨d.significand * 10 ^ n, ?_⟩
  rw [value, hn]
  push_cast
  rw [zpow_natCast]

/-- The digits of a whole number end no later than at its point. -/
theorem IsShortest.exponent_nonneg (hm : 0 < m) (hd : d.IsShortest (.finite false m s h)) (hN : 0 < N)
    (hvalue : (Double.finite false m s h).value = N) : 0 ≤ d.exponent := by
  obtain ⟨t, hsig, hexp, -⟩ := Double.trimmed_spec N 0
  have hproper := Double.isProper_trimmed hN 0
  have hself : (Double.trimmed N 0).value = N := by
    rw [value, hexp, zero_add, zpow_natCast]
    conv_rhs => rw [hsig]
    push_cast
    rfl
  have hreads : (Double.finite false m s h).IsNearest (Double.trimmed N 0).value := by
    rw [hself, ← hvalue]
    exact Double.isNearest_value rfl
  have hlen := hd.fewest _ hproper hreads
  have hpoint : (Double.trimmed N 0).point - 1 < d.point := by
    apply hd.isProper.lt_point (hd.pow_le_value hm _)
    rw [hvalue, ← hself]
    exact hproper.pow_le_value
  rw [exponent] at hexp ⊢
  omega

/-- The digits of a number that is not whole go on after the point, which does not stand far to the
right. -/
theorem IsShortest.exponent_neg (hm : 0 < m) (hd : d.IsShortest (.finite false m s h))
    (hpart : ∀ N : ℕ, (Double.finite false m s h).value ≠ N) : d.exponent < 0 ∧ d.point ≤ 16 := by
  have hs : s < 1074 := Double.exists_value_eq_natCast_or.resolve_left fun ⟨N, hN⟩ => hpart N hN
  have hnot (N : ℕ) : d.value ≠ N := fun hN =>
    hpart N (Double.value_eq_of_isNearest_natCast hm hs (hN ▸ hd.reads))
  refine ⟨?_, ?_⟩
  · by_contra hexp
    obtain ⟨N, hN⟩ := exists_value_eq_natCast (not_lt.mp hexp)
    exact hnot N hN
  · apply hd.isProper.point_le_of_lt
    refine lt_of_le_of_ne (hd.value_le_pow hm (Double.value_lt_of_lt hs).le)
      fun heq => hnot (10 ^ 16) ?_
    rw [heq, zpow_ofNat]
    push_cast
    rfl

end Whole

section Texts

variable {d : Decimal}

/-- A whole number with at most 21 digits is written with zeros after its digits, as an integer is. -/
theorem IsProper.scriptText_of_whole (hd : d.IsProper) (hexp : 0 ≤ d.exponent)
    (hpoint : d.point ≤ 21) {N : ℕ} (hN : d.value = N) : d.scriptText = Text.ofNat N := by
  obtain ⟨n, hn⟩ := Int.eq_ofNat_of_zero_le hexp
  have hlen := hd.length_pos
  have hnat : N = Text.ofDigitValues 10 (d.digits ++ List.replicate n 0) := by
    rw [value, hn, zpow_natCast] at hN
    rw [Text.ofDigitValues_append_zeros, ← significand]
    exact_mod_cast hN.symm
  have hdigits : Text.decimalDigits N = d.digits ++ List.replicate n 0 := by
    rw [hnat]
    apply Text.decimalDigits_ofDigitValues
    · intro x hx
      rcases List.mem_append.mp hx with hx | hx
      · exact hd.lt_ten x hx
      · rw [List.eq_of_mem_replicate hx]
        decide
    · obtain ⟨first, rest, hcons, hfirst⟩ := hd.leading
      exact ⟨first, rest ++ List.replicate n 0, by rw [hcons, List.cons_append], hfirst⟩
  rw [exponent] at hn
  have hzeros : (d.point - d.digits.length).toNat = n := by omega
  simp only [scriptText]
  rw [if_pos (by omega), if_pos (by omega), hzeros, ← Double.digitText_zeros,
    ← Double.digitText_append, ← hdigits]
  rfl

theorem IsProper.decimalText_of_exponent (hd : d.IsProper) (h : ¬ (-3 ≤ d.point ∧ d.point ≤ 16)) :
    Double.decimalText Double.documentFormat d =
      d.mantissaText ++ Double.exponentText Double.documentFormat (d.point - 1) := by
  have hleast : Double.documentFormat.leastPoint = -3 := rfl
  have hgreatest : Double.documentFormat.greatestPoint = 16 := rfl
  have htail : (Double.digitText (d.digits.drop 1)).isEmpty = true ↔ d.digits.length = 1 := by
    have hlen := hd.length_pos
    rw [Double.digitText, List.isEmpty_map, List.isEmpty_iff, List.drop_eq_nil_iff]
    omega
  simp only [Double.decimalText, mantissaText, htail]
  rw [hleast, hgreatest, if_neg h]

/-- The exponent of a document has two digits at least, and otherwise no leading zero. -/
theorem exponentText_documentFormat (e : Int) :
    Double.exponentText Double.documentFormat e =
      (if e < 0 then "e-" else "e+" : Text) ++ Double.zeros (if e.natAbs < 10 then 1 else 0)
        ++ Text.ofNat e.natAbs := by
  have hlen : (Text.ofNat e.natAbs).length = (Text.decimalDigits e.natAbs).length := List.length_map _
  have hwidth : Double.documentFormat.exponentDigits = 2 := rfl
  have hpadding : 2 - (Text.decimalDigits e.natAbs).length = if e.natAbs < 10 then 1 else 0 := by
    split
    next hsmall => rw [Text.decimalDigits_of_lt hsmall, List.length_singleton]
    next hlarge =>
      have hpos := List.length_pos_iff.mpr (Text.decimalDigits_ne_nil (e.natAbs / 10))
      rw [Text.decimalDigits_of_le (not_lt.mp hlarge), List.length_append, List.length_singleton]
      omega
  simp only [Double.exponentText]
  rw [hlen, hwidth, hpadding]

/-- A document and a script write a decimal alike where both are positional. -/
theorem decimalText_eq_scriptText (h : -3 ≤ d.point ∧ d.point ≤ 16) (hexp : d.exponent < 0) :
    Double.decimalText Double.documentFormat d = d.scriptText := by
  have hleast : Double.documentFormat.leastPoint = -3 := rfl
  have hgreatest : Double.documentFormat.greatestPoint = 16 := rfl
  rw [exponent] at hexp
  simp only [Double.decimalText, scriptText]
  rw [hleast, hgreatest, if_pos h, if_pos (by omega : -6 < d.point ∧ d.point ≤ 21),
    if_neg (by omega : ¬ (d.digits.length : Int) ≤ d.point)]
  by_cases hpoint : d.point ≤ 0
  · rw [if_pos hpoint, if_neg (by omega : ¬ 0 < d.point)]
  · rw [if_neg hpoint, if_pos (by omega : 0 < d.point),
      if_neg (by omega : ¬ d.digits.length ≤ d.point.toNat)]

/-- A document and a script write a decimal with an exponent alike if the exponent has two digits. -/
theorem IsProper.decimalText_eq_scriptText_iff (hd : d.IsProper) (h : d.point ≤ -6 ∨ 22 ≤ d.point) :
    Double.decimalText Double.documentFormat d = d.scriptText ↔ 10 ≤ (d.point - 1).natAbs := by
  rw [hd.decimalText_of_exponent (by omega), exponentText_documentFormat]
  simp only [scriptText]
  have hsign : d.point - 1 < 0 ↔ d.point < 0 := by omega
  simp only [if_neg (by omega : ¬ (-6 < d.point ∧ d.point ≤ 21)), hsign, List.append_assoc,
    List.append_cancel_left_eq]
  split
  next hsmall =>
    refine iff_of_false (fun heq => ?_) (by omega)
    simpa [Double.zeros] using congrArg List.length heq
  next hlarge => exact iff_of_true rfl (by omega)

/-- A script writes a fraction that is not positional in a document, but is in a script, with a zero
first. -/
theorem IsProper.decimalText_ne_scriptText (hd : d.IsProper) (h : d.point = -5 ∨ d.point = -4) :
    Double.decimalText Double.documentFormat d ≠ d.scriptText := by
  obtain ⟨first, rest, hdigits, hfirst⟩ := hd.leading
  have hlt := hd.lt_ten first (by simp [hdigits])
  rw [hd.decimalText_of_exponent (by omega)]
  simp only [scriptText]
  rw [if_pos (by omega : -6 < d.point ∧ d.point ≤ 21),
    if_neg (by omega : ¬ (d.digits.length : Int) ≤ d.point), if_neg (by omega : ¬ 0 < d.point),
    mantissaText, hdigits]
  have hzero : (Text.ofString "0").head? = some ⟨48, by decide⟩ := rfl
  intro heq
  have hhead := congrArg (Option.map CodePoint.val ∘ List.head?) heq
  simp only [Function.comp_apply, Double.digitText, List.take_succ_cons, List.map_cons,
    List.cons_append, List.head?_cons, List.append_assoc, List.head?_append, hzero, Option.some_or,
    Option.map_some, Text.ofDigit_val hlt, Option.some.injEq] at hhead
  omega

end Texts

end Decimal

end ScriptTree
