import Mathlib.Tactic.Linarith
import ScriptTree.Number.Shortest

namespace ScriptTree

namespace Double

/-- A number within half a step of a quotient is the whole part of it or the next number. -/
theorem eq_div_or_eq_succ_div {num den r : Nat} (hd : 0 < den) (hlow : 2 * (r * den) ≤ 2 * num + den)
    (hhigh : 2 * num ≤ 2 * (r * den) + den) : r = num / den ∨ r = num / den + 1 := by
  have hnum := Nat.div_add_mod num den
  have hrem := Nat.mod_lt num hd
  rw [Nat.mul_comm] at hnum
  have hle : num / den ≤ r := by
    by_contra hlt
    have hmul : (r + 1) * den ≤ num / den * den := Nat.mul_le_mul_right den (by omega)
    rw [Nat.add_mul] at hmul
    omega
  have hge : r ≤ num / den + 1 := by
    by_contra hlt
    have hmul : (num / den + 2) * den ≤ r * den := Nat.mul_le_mul_right den (by omega)
    rw [Nat.add_mul] at hmul
    omega
  omega

theorem roundQuotient_eq {num den r : Nat} (hd : 0 < den) (hlow : 2 * (r * den) ≤ 2 * num + den)
    (hhigh : 2 * num ≤ 2 * (r * den) + den)
    (hodd : r % 2 = 1 → 2 * (r * den) < 2 * num + den ∧ 2 * num < 2 * (r * den) + den) :
    roundQuotient num den = r := by
  have hnum := Nat.div_add_mod num den
  rw [Nat.mul_comm] at hnum
  unfold roundQuotient
  simp only
  rcases eq_div_or_eq_succ_div hd hlow hhigh with rfl | rfl
  · split
    next => rfl
    next h =>
      split
      next h' => omega
      next h' =>
        split
        next => rfl
        next hp =>
          have := hodd (by omega)
          omega
  · rw [Nat.add_mul] at hlow hhigh hodd
    split
    next h => omega
    next h =>
      split
      next h' => rfl
      next h' =>
        split
        next hp =>
          have := hodd (by omega)
          omega
        next => rfl

theorem ofParts_of_canonical {significand shift : Nat} (negative : Bool)
    (h : Canonical significand shift) :
    ofParts negative significand shift = .finite negative significand shift h := by
  rw [ofParts, dif_pos h]

/-- The result of rounding, from the shift that the whole part asks for. -/
theorem ofRatio_of_shift {num den k r : Nat} (negative : Bool)
    (hk : (if num * unitsPerOne / den < Nat.pow 2 53 then 0
      else (num * unitsPerOne / den).log2 - 52) = k)
    (hr : roundQuotient (num * unitsPerOne) (den * Nat.pow 2 k) = r) :
    ofRatio negative num den =
      if r = Nat.pow 2 53 then ofParts negative (Nat.pow 2 52) (k + 1) else ofParts negative r k := by
  simp only [ofRatio]
  rw [hk, hr]

theorem shift_of_bounds {units den k : Nat} (hd : 0 < den)
    (hlow : k = 0 ∨ Nat.pow 2 52 * (den * Nat.pow 2 k) ≤ units)
    (hhigh : units < Nat.pow 2 53 * (den * Nat.pow 2 k)) :
    (if units / den < Nat.pow 2 53 then 0 else (units / den).log2 - 52) = k := by
  simp only [Nat.pow_eq] at *
  rcases Nat.eq_zero_or_pos k with rfl | hk
  · have hsmall : units / den < 2 ^ 53 := by
      rw [Nat.div_lt_iff_lt_mul hd]
      simpa using hhigh
    rw [if_pos hsmall]
  · have hfirst : 2 ^ (52 + k) ≤ units / den := by
      rw [Nat.le_div_iff_mul_le hd, Nat.pow_add]
      calc 2 ^ 52 * 2 ^ k * den = 2 ^ 52 * (den * 2 ^ k) := by ac_rfl
        _ ≤ units := hlow.resolve_left (by omega)
    have hsecond : units / den < 2 ^ (53 + k) := by
      rw [Nat.div_lt_iff_lt_mul hd, Nat.pow_add]
      calc units < 2 ^ 53 * (den * 2 ^ k) := hhigh
        _ = 2 ^ 53 * 2 ^ k * den := by ac_rfl
    have hlarge : 2 ^ 53 ≤ units / den :=
      (Nat.pow_le_pow_right (by decide) (by omega)).trans hfirst
    have hlog : (units / den).log2 = 52 + k := by
      rw [Nat.log2_eq_iff (by omega)]
      exact ⟨hfirst, by rwa [show 52 + k + 1 = 53 + k by omega]⟩
    rw [if_neg (by omega), hlog]
    omega

/-- A quotient that rounds to the significand at the shift of its binade. -/
theorem ofRatio_of_binade {num den m k : Nat} (negative : Bool) (hd : 0 < den) (hm : m < Nat.pow 2 53)
    (hbinade : k = 0 ∨ Nat.pow 2 52 * (den * Nat.pow 2 k) ≤ num * unitsPerOne)
    (hlow : 2 * (m * (den * Nat.pow 2 k)) ≤ 2 * (num * unitsPerOne) + den * Nat.pow 2 k)
    (hhigh : 2 * (num * unitsPerOne) ≤ 2 * (m * (den * Nat.pow 2 k)) + den * Nat.pow 2 k)
    (hodd : m % 2 = 1 →
      2 * (m * (den * Nat.pow 2 k)) < 2 * (num * unitsPerOne) + den * Nat.pow 2 k ∧
      2 * (num * unitsPerOne) < 2 * (m * (den * Nat.pow 2 k)) + den * Nat.pow 2 k) :
    ofRatio negative num den = ofParts negative m k := by
  have hpos : 0 < den * Nat.pow 2 k := Nat.mul_pos hd (Nat.pow_pos (by decide))
  have hround := roundQuotient_eq hpos hlow hhigh hodd
  have hlt : num * unitsPerOne < Nat.pow 2 53 * (den * Nat.pow 2 k) := by
    have hmul : (m + 1) * (den * Nat.pow 2 k) ≤ Nat.pow 2 53 * (den * Nat.pow 2 k) :=
      Nat.mul_le_mul_right _ hm
    rw [Nat.add_mul] at hmul
    omega
  rw [ofRatio_of_shift negative (shift_of_bounds hd hbinade hlt) hround, if_neg (by omega)]

/-- A quotient just below a binade that rounds up to its first number. -/
theorem ofRatio_below_binade {num den k : Nat} (negative : Bool) (hd : 0 < den)
    (hlow : 2 * (Nat.pow 2 53 * (den * Nat.pow 2 k)) ≤ 2 * (num * unitsPerOne) + den * Nat.pow 2 k)
    (hhigh : num * unitsPerOne < Nat.pow 2 53 * (den * Nat.pow 2 k)) :
    ofRatio negative num den = ofParts negative (Nat.pow 2 52) (k + 1) := by
  have hpos : 0 < den * Nat.pow 2 k := Nat.mul_pos hd (Nat.pow_pos (by decide))
  have hround : roundQuotient (num * unitsPerOne) (den * Nat.pow 2 k) = Nat.pow 2 53 :=
    roundQuotient_eq hpos hlow (by omega) fun h => absurd h (by decide)
  have hbinade : Nat.pow 2 52 * (den * Nat.pow 2 k) ≤ num * unitsPerOne := by
    simp only [Nat.pow_eq] at *
    omega
  rw [ofRatio_of_shift negative (shift_of_bounds hd (Or.inr hbinade) hhigh) hround, if_pos rfl]

/-- Below the first number of a binade the doubles are twice as dense as above it. -/
def gapBelow (significand shift : Nat) : Nat :=
  if significand = Nat.pow 2 52 ∧ 0 < shift then Nat.pow 2 shift else 2 * Nat.pow 2 shift

theorem gapBelow_le (significand shift : Nat) : gapBelow significand shift ≤ 2 * Nat.pow 2 shift := by
  unfold gapBelow
  split <;> omega

/-- The first number of a binade: the quotient lies in the binade or in the upper end of the one
below. -/
theorem ofRatio_of_first {num den s : Nat} (negative : Bool) (hd : 0 < den) (hs : 0 < s)
    (hlow : 4 * (Nat.pow 2 52 * (den * Nat.pow 2 s)) ≤ 4 * (num * unitsPerOne) + den * Nat.pow 2 s)
    (hhigh : 4 * (num * unitsPerOne) ≤ 4 * (Nat.pow 2 52 * (den * Nat.pow 2 s)) + 2 *
      (den * Nat.pow 2 s)) :
    ofRatio negative num den = ofParts negative (Nat.pow 2 52) s := by
  by_cases hbinade : Nat.pow 2 52 * (den * Nat.pow 2 s) ≤ num * unitsPerOne
  · exact ofRatio_of_binade negative hd (by decide) (Or.inr hbinade) (by omega) (by omega)
      fun h => absurd h (by decide)
  · obtain ⟨k, rfl⟩ : ∃ k, s = k + 1 := ⟨s - 1, by omega⟩
    have hpow : den * Nat.pow 2 (k + 1) = 2 * (den * Nat.pow 2 k) := by
      simp only [Nat.pow_eq, Nat.pow_succ]
      ac_rfl
    rw [hpow] at hlow hbinade
    apply ofRatio_below_binade negative hd
    all_goals
      simp only [Nat.pow_eq] at *
      omega

/-- Any other number of a binade: the quotient lies in the binade. -/
theorem ofRatio_of_later {num den m s : Nat} (negative : Bool) (h : Canonical m s) (hd : 0 < den)
    (hfirst : ¬ (m = Nat.pow 2 52 ∧ 0 < s))
    (hlow : 4 * (m * (den * Nat.pow 2 s)) ≤ 4 * (num * unitsPerOne) + 2 * (den * Nat.pow 2 s))
    (hhigh : 4 * (num * unitsPerOne) ≤ 4 * (m * (den * Nat.pow 2 s)) + 2 * (den * Nat.pow 2 s))
    (hodd : m % 2 = 1 →
      4 * (m * (den * Nat.pow 2 s)) < 4 * (num * unitsPerOne) + 2 * (den * Nat.pow 2 s) ∧
      4 * (num * unitsPerOne) < 4 * (m * (den * Nat.pow 2 s)) + 2 * (den * Nat.pow 2 s)) :
    ofRatio negative num den = ofParts negative m s := by
  have hbinade : s = 0 ∨ Nat.pow 2 52 * (den * Nat.pow 2 s) ≤ num * unitsPerOne := by
    rcases Nat.eq_zero_or_pos s with hs | hs
    · exact Or.inl hs
    · right
      have hlarge : Nat.pow 2 52 + 1 ≤ m := by
        have hnot : ¬ m < Nat.pow 2 52 := fun hlt => by have := h.2.2 hlt; omega
        have hne : m ≠ Nat.pow 2 52 := fun he => hfirst ⟨he, hs⟩
        omega
      have hmul := Nat.mul_le_mul_right (den * Nat.pow 2 s) hlarge
      rw [Nat.add_mul] at hmul
      omega
  exact ofRatio_of_binade negative hd h.1 hbinade (by omega) (by omega)
    fun ho => ⟨by have := (hodd ho).1; omega, by have := (hodd ho).2; omega⟩

/-- A quotient in the rounding interval of a positive double, its ends included only if the
significand is even, is rounded to this double. -/
theorem ofRatio_of_interval {num den m s : Nat} (negative : Bool) (h : Canonical m s) (hd : 0 < den)
    (hlow : 4 * (m * Nat.pow 2 s) * den ≤ 4 * (num * unitsPerOne) + gapBelow m s * den)
    (hhigh : 4 * (num * unitsPerOne) ≤ (4 * (m * Nat.pow 2 s) + 2 * Nat.pow 2 s) * den)
    (hodd : m % 2 = 1 →
      4 * (m * Nat.pow 2 s) * den < 4 * (num * unitsPerOne) + gapBelow m s * den ∧
      4 * (num * unitsPerOne) < (4 * (m * Nat.pow 2 s) + 2 * Nat.pow 2 s) * den) :
    ofRatio negative num den = .finite negative m s h := by
  have hprod : 4 * (m * Nat.pow 2 s) * den = 4 * (m * (den * Nat.pow 2 s)) := by ac_rfl
  have hsum : (4 * (m * Nat.pow 2 s) + 2 * Nat.pow 2 s) * den =
      4 * (m * (den * Nat.pow 2 s)) + 2 * (den * Nat.pow 2 s) := by
    rw [Nat.add_mul, hprod]
    ac_rfl
  rw [hsum] at hhigh hodd
  rw [hprod] at hlow hodd
  rw [← ofParts_of_canonical negative h]
  by_cases hfirst : m = Nat.pow 2 52 ∧ 0 < s
  · obtain ⟨rfl, hs⟩ := hfirst
    have hgap : gapBelow (Nat.pow 2 52) s * den = den * Nat.pow 2 s := by
      rw [gapBelow, if_pos ⟨rfl, hs⟩, Nat.mul_comm]
    rw [hgap] at hlow
    exact ofRatio_of_first negative hd hs hlow hhigh
  · have hgap : gapBelow m s * den = 2 * (den * Nat.pow 2 s) := by
      rw [gapBelow, if_neg hfirst]
      ac_rfl
    rw [hgap] at hlow hodd
    exact ofRatio_of_later negative h hd hfirst hlow hhigh hodd

end Double

end ScriptTree
