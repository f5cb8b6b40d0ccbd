import ScriptTree.Proofs.Number.Decimal
import ScriptTree.Proofs.Number.Nearest

namespace ScriptTree

namespace Double

section Candidate

variable {i : Interval} {quarters c : Nat} {k : Int}

/-- The remainder of a division tells on which side of the middle between its neighbours the value
lies. -/
theorem compare_remainder (quarters : Nat) (k : Int) :
    (2 * ((crossed 1 k quarters).2 % (crossed 1 k quarters).1) < (crossed 1 k quarters).1 ↔
      2 * (quarters : ℚ) <
        decimalQuarters (gridBelow quarters k) k + decimalQuarters (gridBelow quarters k + 1) k) ∧
    ((crossed 1 k quarters).1 < 2 * ((crossed 1 k quarters).2 % (crossed 1 k quarters).1) ↔
      decimalQuarters (gridBelow quarters k) k + decimalQuarters (gridBelow quarters k + 1) k <
        2 * (quarters : ℚ)) := by
  have hpos : (0 : ℚ) < 10 ^ (-k).toNat := by positivity
  have hdiv := Nat.div_add_mod (crossed 1 k quarters).2 (crossed 1 k quarters).1
  have hvalue (c : Nat) :
      decimalQuarters c k * 10 ^ (-k).toNat = ((c * (crossed 1 k quarters).1 : ℕ) : ℚ) := by
    rw [← crossed_fst_eq]
    exact (crossed_spec c k quarters).1
  have hself := (crossed_spec 1 k quarters).2
  generalize hb : gridBelow quarters k = b
  have hrem : (crossed 1 k quarters).2 % (crossed 1 k quarters).1 + b * (crossed 1 k quarters).1 =
      (crossed 1 k quarters).2 := by
    rw [← hb, gridBelow, Nat.mul_comm, Nat.add_comm]
    exact hdiv
  have hsum : (decimalQuarters b k + decimalQuarters (b + 1) k) * 10 ^ (-k).toNat =
      ((2 * (b * (crossed 1 k quarters).1) + (crossed 1 k quarters).1 : ℕ) : ℚ) := by
    rw [add_mul, hvalue, hvalue, ← Nat.cast_add, Nat.succ_mul, two_mul, Nat.add_assoc]
  have htwice : 2 * (quarters : ℚ) * 10 ^ (-k).toNat = ((2 * (crossed 1 k quarters).2 : ℕ) : ℚ) := by
    rw [mul_assoc, hself]
    push_cast
    rfl
  rw [← mul_lt_mul_iff_of_pos_right hpos, hsum, htwice, Nat.cast_lt,
    ← mul_lt_mul_iff_of_pos_right hpos, hsum, htwice, Nat.cast_lt]
  omega

/-- A decimal on the grid next to the value and in the interval. -/
structure IsNeighbour (i : Interval) (quarters : Nat) (k : Int) (c : Nat) : Prop where
  mem : i.Mem (decimalQuarters c k)
  side : c = gridBelow quarters k ∨ c = gridBelow quarters k + 1

/-- How far `c * 10 ^ k` is from some quarters of a unit. -/
def distance (quarters c : Nat) (k : Int) : ℚ := |decimalQuarters c k - quarters|

/-- A neighbour of the value that is not farther from it than the other one, and even if it is as
far. -/
structure IsCandidate (i : Interval) (quarters : Nat) (k : Int) (c : Nat) : Prop extends
    IsNeighbour i quarters k c where
  least : ∀ e, IsNeighbour i quarters k e → distance quarters c k ≤ distance quarters e k
  even : ∀ e, IsNeighbour i quarters k e → distance quarters c k = distance quarters e k →
    e = c ∨ c % 2 = 0

theorem distance_of_le {quarters c : Nat} {k : Int} (h : decimalQuarters c k ≤ quarters) :
    distance quarters c k = quarters - decimalQuarters c k := by
  rw [distance, abs_sub_comm, abs_of_nonneg (sub_nonneg.mpr h)]

theorem distance_of_lt {quarters c : Nat} {k : Int} (h : quarters < decimalQuarters c k) :
    distance quarters c k = decimalQuarters c k - quarters :=
  abs_of_pos (sub_pos.mpr h)

theorem distance_gridBelow (quarters : Nat) (k : Int) :
    distance quarters (gridBelow quarters k) k = quarters - decimalQuarters (gridBelow quarters k) k ∧
      distance quarters (gridBelow quarters k + 1) k =
        decimalQuarters (gridBelow quarters k + 1) k - quarters := by
  obtain ⟨hle, hlt⟩ := gridBelow_spec quarters k
  exact ⟨distance_of_le hle, distance_of_lt hlt⟩

theorem isCandidate_below (hmem : i.Mem (decimalQuarters (gridBelow quarters k) k))
    (h : i.Mem (decimalQuarters (gridBelow quarters k + 1) k) →
      2 * (quarters : ℚ) ≤ decimalQuarters (gridBelow quarters k) k + decimalQuarters
        (gridBelow quarters k + 1) k ∧
      (2 * (quarters : ℚ) = decimalQuarters (gridBelow quarters k) k + decimalQuarters
        (gridBelow quarters k + 1) k →
        gridBelow quarters k % 2 = 0)) : IsCandidate i quarters k (gridBelow quarters k) := by
  obtain ⟨hbelow, habove⟩ := distance_gridBelow quarters k
  refine ⟨⟨hmem, Or.inl rfl⟩, ?_, ?_⟩
  · rintro e ⟨he, rfl | rfl⟩
    · exact le_rfl
    · rw [hbelow, habove]
      linarith [(h he).1]
  · rintro e ⟨he, rfl | rfl⟩ heq
    · exact Or.inl rfl
    · rw [hbelow, habove] at heq
      exact Or.inr ((h he).2 (by linarith))

theorem isCandidate_above (hmem : i.Mem (decimalQuarters (gridBelow quarters k + 1) k))
    (h : i.Mem (decimalQuarters (gridBelow quarters k) k) →
      decimalQuarters (gridBelow quarters k) k + decimalQuarters (gridBelow quarters k + 1) k ≤
        2 * (quarters : ℚ) ∧
      (2 * (quarters : ℚ) = decimalQuarters (gridBelow quarters k) k + decimalQuarters
        (gridBelow quarters k + 1) k →
        (gridBelow quarters k + 1) % 2 = 0)) : IsCandidate i quarters k (gridBelow quarters k + 1) := by
  obtain ⟨hbelow, habove⟩ := distance_gridBelow quarters k
  refine ⟨⟨hmem, Or.inr rfl⟩, ?_, ?_⟩
  · rintro e ⟨he, rfl | rfl⟩
    · rw [hbelow, habove]
      linarith [(h he).1]
    · exact le_rfl
  · rintro e ⟨he, rfl | rfl⟩ heq
    · rw [hbelow, habove] at heq
      exact Or.inr ((h he).2 (by linarith))
    · exact Or.inl rfl

theorem isCandidate_of_gridCandidate (hb : 0 < gridBelow quarters k)
    (h : gridCandidate i quarters k = some c) :
    IsCandidate i quarters k c := by
  obtain ⟨hless, hmore⟩ := compare_remainder quarters k
  simp only [gridCandidate, ← gridBelow.eq_def] at h
  rw [decide_eq_true hb, Bool.and_true] at h
  split at h
  next hmem hmem' =>
    rw [Interval.holds_iff_mem] at hmem hmem'
    split at h
    next hnear =>
      cases h
      rw [hless] at hnear
      exact isCandidate_below hmem fun _ => ⟨hnear.le, fun heq => absurd heq hnear.ne⟩
    next hnear =>
      rw [hless, not_lt] at hnear
      split at h
      next hfar =>
        cases h
        rw [hmore] at hfar
        exact isCandidate_above hmem' fun _ => ⟨hfar.le, fun heq => absurd heq hfar.ne'⟩
      next hfar =>
        rw [hmore, not_lt] at hfar
        split at h
        next heven =>
          cases h
          exact isCandidate_below hmem fun _ => ⟨hfar, fun _ => heven⟩
        next hodd =>
          cases h
          exact isCandidate_above hmem' fun _ => ⟨hnear, fun _ => by omega⟩
  next hmem hmem' =>
    cases h
    rw [Interval.holds_iff_mem] at hmem
    refine isCandidate_below hmem fun he => ?_
    rw [← Interval.holds_iff_mem, hmem'] at he
    cases he
  next hmem hmem' =>
    cases h
    rw [Interval.holds_iff_mem] at hmem'
    refine isCandidate_above hmem' fun he => ?_
    rw [← Interval.holds_iff_mem, hmem] at he
    cases he
  next => cases h

/-- A grid without a candidate has no neighbour of the value in the interval. -/
theorem not_isNeighbour (hb : 0 < gridBelow quarters k) (h : gridCandidate i quarters k = none) :
    ¬ IsNeighbour i quarters k c := by
  obtain ⟨hbelow, habove⟩ := not_mem_of_gridCandidate_eq_none h
  rintro ⟨hmem, rfl | rfl⟩
  · exact hbelow hb hmem
  · exact habove hmem

end Candidate

section Levels

theorem leadingZeros_mul_lt {num den : Nat} (fuel : Nat) (h : num < den) :
    10 ^ leadingZeros fuel num den * num < den := by
  induction fuel generalizing num with
  | zero => simpa [leadingZeros] using h
  | succ fuel ih =>
    rw [leadingZeros]
    split
    next => simpa using h
    next hlt =>
      rw [Nat.pow_succ, Nat.mul_assoc]
      exact ih (by omega)

/-- The position of the first digit is not too far to the right. -/
theorem lt_pow_decimalPoint (units : Nat) : (units : ℚ) < 10 ^ decimalPoint units * unitsPerOne := by
  unfold decimalPoint
  split
  next hle =>
    have hlt := Text.lt_pow_length_decimalDigits (units / unitsPerOne)
    rw [Nat.div_lt_iff_lt_mul unitsPerOne_pos] at hlt
    rw [zpow_natCast]
    exact_mod_cast hlt
  next hlt =>
    have hspec := leadingZeros_mul_lt 330 (not_le.mp hlt)
    rw [zpow_neg, zpow_natCast, lt_inv_mul_iff₀ (by positivity)]
    exact_mod_cast hspec

theorem decimalQuarters_lt_iff {a b : Nat} {k : Int} :
    decimalQuarters a k < decimalQuarters b k ↔ a < b := by
  have hpos : (0 : ℚ) < 10 ^ k * (4 * unitsPerOne) := mul_pos (by positivity) units_pos
  rw [decimalQuarters, decimalQuarters, mul_assoc, mul_assoc, mul_lt_mul_iff_of_pos_right hpos,
    Nat.cast_lt]

theorem decimalQuarters_le_iff_le {a b : Nat} {k : Int} :
    decimalQuarters a k ≤ decimalQuarters b k ↔ a ≤ b := by
  rw [← not_lt, decimalQuarters_lt_iff, not_lt]

theorem decimalQuarters_pow (n : Nat) (k : Int) :
    decimalQuarters (10 ^ n) k = 10 ^ (k + n) * (4 * unitsPerOne) := by
  rw [← Nat.one_mul (10 ^ n), decimalQuarters_mul_pow, decimalQuarters, Nat.cast_one, one_mul]

/-- The exponent of the last of `n` digits of a positive double. -/
def gridExponent (m s n : Nat) : Int := decimalPoint (m * Nat.pow 2 s) - n

variable {m s n : Nat}

/-- The quarters of a unit in a positive double, between the powers of ten that its point names. -/
theorem quarters_bounds (hm : 0 < m) :
    (10 : ℚ) ^ (decimalPoint (m * Nat.pow 2 s) - 1) * (4 * unitsPerOne) ≤
      ((4 * (m * Nat.pow 2 s) : ℕ) : ℚ) ∧
      ((4 * (m * Nat.pow 2 s) : ℕ) : ℚ) < 10 ^ decimalPoint (m * Nat.pow 2 s) * (4 * unitsPerOne) := by
  have hlow := pow_decimalPoint_le (Nat.mul_pos hm (pow_two_pos s))
  have hhigh := lt_pow_decimalPoint (m * Nat.pow 2 s)
  generalize m * Nat.pow 2 s = units at hlow hhigh ⊢
  push_cast
  constructor <;> linarith

/-- The number of whole steps has as many digits as the grid has. -/
theorem gridBelow_bounds (hm : 0 < m) (hn : 0 < n) :
    10 ^ (n - 1) ≤ gridBelow (4 * (m * Nat.pow 2 s)) (gridExponent m s n) ∧
      gridBelow (4 * (m * Nat.pow 2 s)) (gridExponent m s n) < 10 ^ n := by
  obtain ⟨hlow, hhigh⟩ := quarters_bounds (s := s) hm
  obtain ⟨hle, hlt⟩ := gridBelow_spec (4 * (m * Nat.pow 2 s)) (gridExponent m s n)
  have hfirst : decimalPoint (m * Nat.pow 2 s) - 1 = gridExponent m s n + ((n - 1 : ℕ) : Int) := by
    rw [gridExponent]
    omega
  have hlast : decimalPoint (m * Nat.pow 2 s) = gridExponent m s n + n := (sub_add_cancel _ _).symm
  generalize gridExponent m s n = k at *
  generalize gridBelow (4 * (m * Nat.pow 2 s)) k = below at *
  constructor
  · apply Nat.lt_succ_iff.mp
    rw [← decimalQuarters_lt_iff (k := k), decimalQuarters_pow, ← hfirst]
    exact hlow.trans_lt hlt
  · rw [← decimalQuarters_lt_iff (k := k), decimalQuarters_pow, ← hlast]
    exact hle.trans_lt hhigh

/-- A decimal with no more digits than a grid is not between the neighbours of the value on the grid. -/
theorem not_between_neighbours (hm : 0 < m) {d : Decimal} (hd : d.IsProper)
    (hlen : d.digits.length ≤ n) :
    (decimalQuarters d.significand d.exponent ≤ ((4 * (m * Nat.pow 2 s) : ℕ) : ℚ) →
      decimalQuarters d.significand d.exponent ≤
        decimalQuarters (gridBelow (4 * (m * Nat.pow 2 s)) (gridExponent m s n)) (gridExponent m s n)) ∧
    (((4 * (m * Nat.pow 2 s) : ℕ) : ℚ) < decimalQuarters d.significand d.exponent →
      decimalQuarters (gridBelow (4 * (m * Nat.pow 2 s)) (gridExponent m s n) + 1)
        (gridExponent m s n) ≤
        decimalQuarters d.significand d.exponent) := by
  have hn : 0 < n := hd.length_pos.trans_le hlen
  obtain ⟨hlow, -⟩ := quarters_bounds (s := s) hm
  obtain ⟨hfirst, -⟩ := gridBelow_bounds (s := s) hm hn
  obtain ⟨hle, hlt⟩ := gridBelow_spec (4 * (m * Nat.pow 2 s)) (gridExponent m s n)
  have hk : gridExponent m s n = decimalPoint (m * Nat.pow 2 s) - n := rfl
  generalize gridExponent m s n = k at *
  generalize gridBelow (4 * (m * Nat.pow 2 s)) k = below at *
  generalize decimalPoint (m * Nat.pow 2 s) = point at *
  rcases lt_or_ge d.point point with hpoint | hpoint
  · -- A decimal in a lower decade lies below the whole grid.
    have hdecade : decimalQuarters d.significand d.exponent < 10 ^ (point - 1) * (4 * unitsPerOne) :=
      mul_lt_mul_of_pos_right
        (hd.value_lt.trans_le (zpow_le_zpow_right₀ (by norm_num) (by omega))) units_pos
    refine ⟨fun _ => ?_, fun habove => absurd (hdecade.trans_le hlow) (not_lt.mpr habove.le)⟩
    have hgrid := decimalQuarters_le_iff_le (k := k).mpr hfirst
    have hexp : k + ((n - 1 : ℕ) : Int) = point - 1 := by omega
    rw [decimalQuarters_pow, hexp] at hgrid
    exact hdecade.le.trans hgrid
  · -- Any other decimal is on the grid.
    obtain ⟨j, hj⟩ : ∃ j : Nat, d.exponent = k + j := by
      refine ⟨(d.exponent - k).toNat, ?_⟩
      rw [Decimal.exponent]
      omega
    rw [hj, ← decimalQuarters_mul_pow]
    refine ⟨fun hbelow => ?_, fun habove => ?_⟩
    · have := decimalQuarters_lt_iff.mp (hbelow.trans_lt hlt)
      exact decimalQuarters_le_iff_le.mpr (by omega)
    · have := decimalQuarters_lt_iff.mp (hle.trans_lt habove)
      exact decimalQuarters_le_iff_le.mpr (by omega)

end Levels

end Double

end ScriptTree
