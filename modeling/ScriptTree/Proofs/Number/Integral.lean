import ScriptTree.Proofs.Number.Nearest

namespace ScriptTree

namespace Double

/-- A quotient is rounded to a number within half a step, an odd one only from nearer. -/
theorem roundQuotient_spec (num : Nat) {den : Nat} (hd : 0 < den) :
    2 * (roundQuotient num den * den) ≤ 2 * num + den ∧
      2 * num ≤ 2 * (roundQuotient num den * den) + den ∧
      (roundQuotient num den % 2 = 1 →
        2 * (roundQuotient num den * den) < 2 * num + den ∧
          2 * num < 2 * (roundQuotient num den * den) + den) := by
  have hnum := Nat.div_add_mod num den
  have hrem := Nat.mod_lt num hd
  have hsucc : (num / den + 1) * den = num / den * den + den := Nat.succ_mul _ _
  rw [Nat.mul_comm] at hnum
  unfold roundQuotient
  simp only
  repeat' split
  all_goals omega

/-- The shift that the whole part of a quotient asks for leaves fifty-three bits of it, or fewer if
it is zero. -/
theorem bounds_of_shift {units den k : Nat} (hd : 0 < den)
    (hk : (if units / den < Nat.pow 2 53 then 0 else (units / den).log2 - 52) = k) :
    (k = 0 ∨ Nat.pow 2 52 * (den * Nat.pow 2 k) ≤ units) ∧
      units < Nat.pow 2 53 * (den * Nat.pow 2 k) := by
  simp only [Nat.pow_eq] at *
  split at hk
  next hsmall =>
    subst hk
    rw [Nat.div_lt_iff_lt_mul hd] at hsmall
    exact ⟨Or.inl rfl, by simpa using hsmall⟩
  next hlarge =>
    have hne : units / den ≠ 0 := by omega
    have hlog : 53 ≤ (units / den).log2 := (Nat.le_log2 hne).mpr (by omega)
    obtain ⟨hfirst, hnext⟩ := (Nat.log2_eq_iff hne).mp (show (units / den).log2 = 52 + k by omega)
    rw [Nat.le_div_iff_mul_le hd] at hfirst
    rw [Nat.div_lt_iff_lt_mul hd] at hnext
    have hassoc (e : Nat) : 2 ^ (e + k) * den = 2 ^ e * (den * 2 ^ k) := by
      rw [Nat.pow_add, Nat.mul_assoc, Nat.mul_comm (2 ^ k)]
    have hshift : 52 + k + 1 = 53 + k := by omega
    rw [hassoc] at hfirst
    rw [hshift, hassoc] at hnext
    exact ⟨Or.inr hfirst, hnext⟩

/-- A quotient lies in the rounding interval of the parts that it is rounded to, in range or not. -/
theorem ofRatio_eq_ofParts (negative : Bool) (num : Nat) {den : Nat} (hd : 0 < den) :
    ∃ m s, ofRatio negative num den = ofParts negative m s ∧
      m < Nat.pow 2 53 ∧ (m < Nat.pow 2 52 → s = 0) ∧
      4 * (m * Nat.pow 2 s) * den ≤ 4 * (num * unitsPerOne) + gapBelow m s * den ∧
      4 * (num * unitsPerOne) ≤ (4 * (m * Nat.pow 2 s) + 2 * Nat.pow 2 s) * den ∧
      (m % 2 = 1 →
        4 * (m * Nat.pow 2 s) * den < 4 * (num * unitsPerOne) + gapBelow m s * den ∧
        4 * (num * unitsPerOne) < (4 * (m * Nat.pow 2 s) + 2 * Nat.pow 2 s) * den) := by
  generalize hk : (if num * unitsPerOne / den < Nat.pow 2 53 then 0
      else (num * unitsPerOne / den).log2 - 52) = k
  have hratio := ofRatio_of_shift negative hk rfl
  obtain ⟨hbinade, hbelow⟩ := bounds_of_shift hd hk
  have hpos : 0 < den * Nat.pow 2 k := Nat.mul_pos hd (pow_two_pos k)
  obtain ⟨hlow, hhigh, hodd⟩ := roundQuotient_spec (num * unitsPerOne) hpos
  generalize hr : roundQuotient (num * unitsPerOne) (den * Nat.pow 2 k) = r at hratio hlow hhigh hodd
  have hprod (m s : Nat) : 4 * (m * Nat.pow 2 s) * den = 4 * (m * (den * Nat.pow 2 s)) := by ac_rfl
  have hsum (m s : Nat) : (4 * (m * Nat.pow 2 s) + 2 * Nat.pow 2 s) * den =
      4 * (m * (den * Nat.pow 2 s)) + 2 * (den * Nat.pow 2 s) := by
    rw [Nat.add_mul, hprod]
    ac_rfl
  by_cases hcarry : r = Nat.pow 2 53
  · -- The quotient is rounded up to the first number of the next binade.
    rw [if_pos hcarry] at hratio
    refine ⟨_, _, hratio, by decide, fun hsmall => absurd hsmall (by decide), ?_⟩
    have hpow : den * Nat.pow 2 (k + 1) = 2 * (den * Nat.pow 2 k) := by
      have hsucc : Nat.pow 2 (k + 1) = 2 * Nat.pow 2 k := Nat.pow_succ'
      rw [hsucc, Nat.mul_left_comm]
    have hgap : gapBelow (Nat.pow 2 52) (k + 1) * den = 2 * (den * Nat.pow 2 k) := by
      rw [gapBelow, if_pos ⟨rfl, Nat.succ_pos k⟩, Nat.mul_comm, hpow]
    rw [hprod, hsum, hgap, hpow]
    subst hcarry
    simp only [Nat.pow_eq] at *
    exact ⟨by omega, by omega, fun ho => absurd ho (by decide)⟩
  · rw [if_neg hcarry] at hratio
    have hle : r ≤ Nat.pow 2 53 := by
      by_contra hlt
      have hmul : (Nat.pow 2 53 + 1) * (den * Nat.pow 2 k) ≤ r * (den * Nat.pow 2 k) :=
        Nat.mul_le_mul_right _ (by omega)
      rw [Nat.add_mul] at hmul
      omega
    have hfull : k = 0 ∨ Nat.pow 2 52 ≤ r := by
      refine hbinade.imp_right fun hge => ?_
      by_contra hlt
      have hmul : (r + 1) * (den * Nat.pow 2 k) ≤ Nat.pow 2 52 * (den * Nat.pow 2 k) :=
        Nat.mul_le_mul_right _ (by omega)
      rw [Nat.add_mul] at hmul
      omega
    refine ⟨r, k, hratio, by omega, by omega, ?_⟩
    rw [hprod, hsum]
    by_cases hfirst : r = Nat.pow 2 52 ∧ 0 < k
    · obtain ⟨rfl, hk0⟩ := hfirst
      have hge := hbinade.resolve_left hk0.ne'
      exact ⟨by omega, by omega, fun ho => absurd ho (by decide)⟩
    · have hgap : gapBelow r k * den = 2 * (den * Nat.pow 2 k) := by
        rw [gapBelow, if_neg hfirst]
        ac_rfl
      rw [hgap]
      exact ⟨by omega, by
        omega, fun ho => ⟨by have := (hodd ho).1; omega, by have := (hodd ho).2; omega⟩⟩

theorem add_gapBelow_le {m s step : Nat} (hm : Nat.pow 2 52 ≤ m)
    (hs : 0 < s) (hstep : step ≤ Nat.pow 2 s) :
    (Nat.pow 2 54 - 1) * step + gapBelow m s ≤ 4 * (m * Nat.pow 2 s) := by
  have hmul := Nat.mul_le_mul_right (Nat.pow 2 s) hm
  rw [gapBelow]
  split
  next =>
    simp only [Nat.pow_eq] at *
    omega
  next hfirst =>
    have hmore : (Nat.pow 2 52 + 1) * Nat.pow 2 s ≤ m * Nat.pow 2 s := Nat.mul_le_mul_right _ (by omega)
    simp only [Nat.pow_eq] at *
    omega

/-- The rounding intervals beyond the greatest double hold nothing below the bound. -/
theorem overflowBound_le_low {m s : Nat} (hm : Nat.pow 2 52 ≤ m) (hs : 2046 ≤ s) :
    overflowBound * (4 * unitsPerOne) + gapBelow m s ≤ 4 * (m * Nat.pow 2 s) := by
  have hpow := pow_two_mono hs
  obtain ⟨step, hbound, hstep⟩ : ∃ step, overflowBound * (4 * unitsPerOne) = (Nat.pow 2 54 - 1) * step ∧
      step ≤ Nat.pow 2 s := ⟨_, by decide +kernel, hpow⟩
  rw [hbound]
  exact add_gapBelow_le hm (by omega) hstep

/-- A quotient of at least one unit is rounded to the positive double in whose rounding interval it
lies, or it is out of range. -/
theorem ofRatio_cases {num den : Nat} (negative : Bool) (hd : 0 < den)
    (hone : den ≤ num * unitsPerOne) :
    (∃ m s, ∃ h : Canonical m s, 0 < m ∧ ofRatio negative num den = .finite negative m s h ∧
      (interval m s).Mem ((num : ℚ) / den * (4 * unitsPerOne))) ∨
    overflowBound * den ≤ num ∧ ofRatio negative num den = .infinite negative := by
  obtain ⟨m, s, hratio, hmax, hsub, hlow, hhigh, hodd⟩ := ofRatio_eq_ofParts negative num hd
  have hm : 0 < m := by
    rcases Nat.eq_zero_or_pos m with rfl | hm
    · rw [hsub (by decide)] at hhigh
      simp only [Nat.pow_eq] at hhigh
      omega
    · exact hm
  rcases Nat.lt_or_ge 2045 s with hs | hs
  · have hfull : Nat.pow 2 52 ≤ m := by
      by_contra hlt
      have := hsub (by omega)
      omega
    have hnot : ¬ Canonical m s := fun h => absurd h.2.1 (by omega)
    refine Or.inr ⟨?_, by rw [hratio, ofParts, dif_neg hnot]⟩
    have hbound := Nat.mul_le_mul_right den (overflowBound_le_low hfull hs)
    rw [Nat.add_mul] at hbound
    have hscaled : overflowBound * den * (4 * unitsPerOne) ≤ num * (4 * unitsPerOne) := by
      calc overflowBound * den * (4 * unitsPerOne) = overflowBound * (4 * unitsPerOne) * den :=
            Nat.mul_right_comm ..
        _ ≤ 4 * (num * unitsPerOne) := by omega
        _ = num * (4 * unitsPerOne) := Nat.mul_left_comm ..
    exact Nat.le_of_mul_le_mul_right hscaled (Nat.mul_pos (by decide) unitsPerOne_pos)
  · have h : Canonical m s := ⟨hmax, hs, hsub⟩
    exact Or.inl ⟨m, s, h, hm, hratio.trans (ofParts_of_canonical negative h),
      (mem_interval_div_iff hm hd).mpr ⟨hlow, hhigh, hodd⟩⟩

theorem signedUnits_negate (x : Double) : x.negate.signedUnits = -x.signedUnits := by
  cases x with
  | finite negative m s h => cases negative <;> simp [negate, signedUnits, isNegative, units]
  | infinite negative => cases negative <;> rfl
  | nan => rfl

theorem value_negate (x : Double) : x.negate.value = -x.value := by
  rw [value, signedUnits_negate, Int.cast_neg, neg_div, value]

theorem value_finite {m s : Nat} {h : Canonical m s} (negative : Bool) :
    (finite negative m s h).value =
      if negative then -(finite false m s h).value else (finite false m s h).value := by
  cases negative with
  | false => rfl
  | true => exact value_negate (finite false m s h)

theorem isFinite_negate (x : Double) : x.negate.isFinite = x.isFinite := by
  cases x <;> rfl

theorem IsNearest.negate {x : Double} {q : ℚ} (h : x.IsNearest q) : x.negate.IsNearest (-q) := by
  have hflip (y : Double) : |-q - y.value| = |q - y.negate.value| := by
    rw [value_negate, ← abs_neg]
    congr 1
    ring
  have hback : x.negate.negate.value = x.value := by rw [value_negate, value_negate, neg_neg]
  refine ⟨by rw [isFinite_negate, h.isFinite], by
    rw [abs_neg]; exact h.inRange, fun y hy => ?_, fun y hy hne heq => ?_⟩
  · rw [hflip, hflip, hback]
    exact h.least y.negate (by rwa [isFinite_negate])
  · rw [hflip, hflip, hback] at heq
    have hsig : x.negate.significand = x.significand := by cases x <;> rfl
    rw [hsig]
    refine h.even y.negate (by rwa [isFinite_negate]) (fun he => hne ?_) heq
    rw [value_negate] at he ⊢
    rw [← he, neg_neg]

/-- A quotient that is the value of a double is turned into this double. -/
theorem ofRatio_of_eq {num den m s : Nat} (negative : Bool) (h : Canonical m s) (hd : 0 < den)
    (heq : num * unitsPerOne = m * Nat.pow 2 s * den) :
      ofRatio negative num den = .finite negative m s h := by
  have hgap := Nat.mul_pos (gapBelow_pos m s) hd
  have hpow := Nat.mul_pos (pow_two_pos s) hd
  have hprod : 4 * (m * Nat.pow 2 s) * den = 4 * (m * Nat.pow 2 s * den) := Nat.mul_assoc ..
  have hhigh : (4 * (m * Nat.pow 2 s) + 2 * Nat.pow 2 s) * den =
      4 * (m * Nat.pow 2 s * den) + 2 * (Nat.pow 2 s * den) := by
    rw [Nat.add_mul, hprod, Nat.mul_assoc 2]
  apply ofRatio_of_interval negative h hd
  · rw [heq, hprod]
    omega
  · rw [heq, hhigh]
    omega
  · rw [heq, hprod, hhigh]
    omega

theorem isNegative_of_signedUnits_ne_zero {x : Double} (h : x.signedUnits ≠ 0) :
    x.isNegative = decide (x.signedUnits < 0) := by
  rw [eq_comm]
  cases hneg : x.isNegative <;> simp only [signedUnits, hneg,
    Bool.false_eq_true, if_false, if_true] at h ⊢
  · exact decide_eq_false (by omega)
  · exact decide_eq_true (by omega)

/-- A finite double other than zero is determined by its value. -/
theorem ofUnits_signedUnits {x : Double} (hx : x.isFinite = true) (h : x.signedUnits ≠ 0) :
    ofUnits x.signedUnits = x := by
  have hunits := natAbs_signedUnits x
  have hsign := isNegative_of_signedUnits_ne_zero h
  cases x with
  | infinite negative => cases hx
  | nan => cases hx
  | finite negative m s hc =>
    rw [ofUnits, ← hsign, hunits]
    exact ofRatio_of_eq negative hc unitsPerOne_pos rfl

theorem eq_of_value_eq {x y : Double} (hx : x.isFinite = true)
    (hy : y.isFinite = true) (hne : x.value ≠ 0) (h : x.value = y.value) : x = y := by
  have hunits := value_eq_iff.mp h
  have hzero : x.signedUnits ≠ 0 := fun hzero => hne (by rw [value, hzero, Int.cast_zero, zero_div])
  rw [← ofUnits_signedUnits hx hzero, hunits, ofUnits_signedUnits hy (hunits ▸ hzero)]

section Integers

variable {i : Int}

/-- An integer other than zero is turned into the nearest double, or it is out of range. -/
theorem ofInt_cases (hi : i ≠ 0) :
    (ofInt i).IsNearest i ∨ overflowBound ≤ i.natAbs ∧ ofInt i = .infinite (decide (i < 0)) := by
  have hone : 1 ≤ i.natAbs * unitsPerOne := Nat.mul_pos (Int.natAbs_pos.mpr hi) unitsPerOne_pos
  rcases ofRatio_cases (decide (i < 0)) Nat.one_pos hone
      with ⟨m, s, h, hm, hratio, hmem⟩ | ⟨hlarge, hratio⟩
  · left
    rw [Nat.cast_one, div_one] at hmem
    have hnearest := isNearest_of_mem h hm hmem
    rw [ofInt, hratio]
    rcases lt_or_gt_of_ne hi with hneg | hpos
    · have habs : (i : ℚ) = -(i.natAbs : ℚ) := by
        rw [Nat.cast_natAbs, abs_of_neg hneg, Int.cast_neg, neg_neg]
      rw [habs, decide_eq_true hneg]
      exact hnearest.negate
    · have habs : (i : ℚ) = (i.natAbs : ℚ) := by
        rw [Nat.cast_natAbs, abs_of_pos hpos]
      rw [habs, decide_eq_false (by omega)]
      exact hnearest
  · rw [Nat.mul_one] at hlarge
    exact Or.inr ⟨hlarge, hratio⟩

theorem value_eq_intCast_iff {x : Double} : x.value = i ↔ x.signedUnits = i * unitsPerOne := by
  have hunits : (unitsPerOne : ℚ) ≠ 0 := Nat.cast_ne_zero.mpr unitsPerOne_pos.ne'
  rw [value, div_eq_iff hunits, ← Int.cast_natCast unitsPerOne, ← Int.cast_mul, Int.cast_inj]

/-- An integer that is the value of a double is turned into this double. -/
theorem ofInt_of_value_eq {x : Double} (hx : x.isFinite = true) (hi : i ≠ 0) (h : x.value = i) :
    ofInt i = x := by
  rw [value_eq_intCast_iff] at h
  have hpos : (0 : ℤ) < unitsPerOne := Int.natCast_pos.mpr unitsPerOne_pos
  have hne : x.signedUnits ≠ 0 := h ▸ mul_ne_zero hi hpos.ne'
  have hunits : x.units = i.natAbs * unitsPerOne := by
    rw [← natAbs_signedUnits, h, Int.natAbs_mul, Int.natAbs_natCast]
  have hsign : x.isNegative = decide (i < 0) := by
    rw [isNegative_of_signedUnits_ne_zero hne, h, decide_eq_decide]
    exact ⟨fun h => neg_of_mul_neg_left h hpos.le, fun h => mul_neg_of_neg_of_pos h hpos⟩
  cases x with
  | infinite negative => cases hx
  | nan => cases hx
  | finite negative m s hc =>
    rw [ofInt, ← hsign]
    exact ofRatio_of_eq negative hc Nat.one_pos (by rw [Nat.mul_one, ← hunits]; rfl)

end Integers

section Whole

variable {m s N : Nat} {h : Canonical m s}

theorem pos_of_value_eq_natCast (hm : 0 < m) (hN : value (.finite false m s h) = N) : 0 < N := by
  have hpos := Nat.mul_pos hm (pow_two_pos s)
  rw [← Int.cast_natCast, value_eq_intCast_iff, signedUnits_finite] at hN
  rcases Nat.eq_zero_or_pos N with rfl | hN'
  · rw [Int.natCast_zero, Int.zero_mul] at hN
    omega
  · exact hN'

theorem exists_unitsPerOne_eq : ∃ k, k = 1074 ∧ unitsPerOne = Nat.pow 2 k :=
  ⟨1074, rfl, by decide +kernel⟩

theorem pow_two_eq_mul {a b : Nat} (hle : b ≤ a) : Nat.pow 2 a = Nat.pow 2 (a - b) * Nat.pow 2 b :=
  (Nat.pow_sub_mul_pow 2 hle).symm

/-- A double is a whole number, or the step at its magnitude is less than one. -/
theorem exists_value_eq_natCast_or : (∃ N : ℕ, (finite false m s h).value = N) ∨ s < 1074 := by
  obtain ⟨k, hk, hone⟩ := exists_unitsPerOne_eq
  rw [← hk]
  rcases Nat.lt_or_ge s k with hs | hs
  · exact Or.inr hs
  · refine Or.inl ⟨m * Nat.pow 2 (s - k), ?_⟩
    rw [← Int.cast_natCast, value_eq_intCast_iff, signedUnits_finite, hone, pow_two_eq_mul hs,
      ← Nat.mul_assoc]
    push_cast
    rfl

/-- Where the step is less than one, a whole number is rounded to itself only. -/
theorem value_eq_of_isNearest_natCast (hm : 0 < m) (hs : s < 1074)
    (hN : (finite false m s h).IsNearest (N : ℚ)) : (finite false m s h).value = N := by
  obtain ⟨k, hk, hone⟩ := exists_unitsPerOne_eq
  rw [← hk] at hs
  rw [pow_two_eq_mul hs.le] at hone
  obtain ⟨hlow, hhigh, -⟩ := (mem_interval_iff hm _).mp (hN.mem hm)
  have hgap := gapBelow_le m s
  have hpow := pow_two_pos s
  rw [← Int.cast_natCast, value_eq_intCast_iff, signedUnits_finite, hone]
  rw [hone] at hlow hhigh
  generalize Nat.pow 2 (k - s) = w at *
  generalize Nat.pow 2 s = step at *
  have hbelow : 4 * (m * step) ≤ N * (4 * (w * step)) + gapBelow m s := by exact_mod_cast hlow
  have habove : N * (4 * (w * step)) ≤ 4 * (m * step) + 2 * step := by exact_mod_cast hhigh
  have hcross : N * (4 * (w * step)) = 4 * (N * w) * step := by ring
  have hfirst : 4 * m ≤ 4 * (N * w) + 2 := Nat.le_of_mul_le_mul_right (by linarith) hpow
  have hsecond : 4 * (N * w) ≤ 4 * m + 2 := Nat.le_of_mul_le_mul_right (by linarith) hpow
  obtain rfl : m = N * w := by omega
  push_cast
  ring

theorem value_lt_of_lt (hs : s < 1074) : (finite false m s h).value < 10 ^ (16 : ℤ) := by
  have hunits : (0 : ℚ) < unitsPerOne := Nat.cast_pos.mpr unitsPerOne_pos
  obtain ⟨k, hk, hone⟩ := exists_unitsPerOne_eq
  have hle : Nat.pow 2 s ≤ unitsPerOne := hone ▸ pow_two_mono (hk ▸ hs.le)
  have hlt : m < 10 ^ 16 := h.1.trans (by decide)
  have hself : (finite false m s h).value = ((m * Nat.pow 2 s : ℕ) : ℚ) / unitsPerOne := rfl
  rw [hself, div_lt_iff₀ hunits, zpow_ofNat]
  exact_mod_cast Nat.mul_lt_mul_of_lt_of_le hlt hle unitsPerOne_pos

end Whole

end Double

end ScriptTree
