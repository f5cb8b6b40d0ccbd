import Mathlib.Algebra.Order.Field.Basic
import Mathlib.Algebra.Order.Group.Abs
import ScriptTree.Number.Double
import ScriptTree.Proofs.Number.Interval

namespace ScriptTree

namespace Double

/-- The number that a finite double denotes; both zeros denote zero. -/
def value (x : Double) : ℚ := x.signedUnits / unitsPerOne

/-- The significand of a finite double. -/
def significand : Double → Nat
  | .finite _ significand _ _ => significand
  | _ => 0

/-- Halfway from the greatest double to the power of two after it. What is as large as this is
rounded to no finite double. -/
def overflowBound : Nat := Nat.pow 2 1024 - Nat.pow 2 970

/-- A finite double that a number is rounded to: no other is nearer, and only one with an even
significand has another one as near. -/
structure IsNearest (x : Double) (q : ℚ) : Prop where
  isFinite : x.isFinite = true
  inRange : |q| < overflowBound
  least : ∀ y : Double, y.isFinite = true → |q - x.value| ≤ |q - y.value|
  even : ∀ y : Double, y.isFinite = true → y.value ≠ x.value → |q - y.value| = |q - x.value| →
    x.significand % 2 = 0

theorem pow_two_pos (k : Nat) : 0 < Nat.pow 2 k := Nat.pow_pos (by decide)

theorem signedUnits_finite {m s : Nat} (h : Canonical m s) :
    (finite false m s h).signedUnits = ((m * Nat.pow 2 s : ℕ) : ℤ) := rfl

theorem value_eq_iff {x y : Double} : x.value = y.value ↔ x.signedUnits = y.signedUnits := by
  have hunits : (unitsPerOne : ℚ) ≠ 0 := Nat.cast_ne_zero.mpr unitsPerOne_pos.ne'
  rw [value, value, div_left_inj' hunits, Int.cast_inj]

theorem value_lt_iff {x y : Double} : x.value < y.value ↔ x.signedUnits < y.signedUnits := by
  have hunits : (0 : ℚ) < unitsPerOne := Nat.cast_pos.mpr unitsPerOne_pos
  rw [value, value, div_lt_div_iff_of_pos_right hunits, Int.cast_lt]

theorem value_mul_units (x : Double) : x.value * (4 * unitsPerOne) = 4 * x.signedUnits := by
  have hunits : (unitsPerOne : ℚ) ≠ 0 := Nat.cast_ne_zero.mpr unitsPerOne_pos.ne'
  rw [value, mul_left_comm, div_mul_cancel₀ _ hunits]

theorem abs_sub_le_iff_of_lt {q a b : ℚ} (h : a < b) : |q - a| ≤ |q - b| ↔ 2 * q ≤ a + b := by
  rcases abs_cases (q - a) with ha | ha <;> rcases abs_cases (q - b)
      with hb | hb <;> rw [ha.1, hb.1] <;>
    constructor <;> intro hle <;> linarith

theorem abs_sub_le_iff_of_gt {q a b : ℚ} (h : b < a) : |q - a| ≤ |q - b| ↔ a + b ≤ 2 * q := by
  rcases abs_cases (q - a) with ha | ha <;> rcases abs_cases (q - b)
      with hb | hb <;> rw [ha.1, hb.1] <;>
    constructor <;> intro hle <;> linarith

theorem abs_sub_eq_iff {q a b : ℚ} (h : a ≠ b) : |q - a| = |q - b| ↔ 2 * q = a + b := by
  rw [le_antisymm_iff, le_antisymm_iff]
  rcases lt_or_gt_of_ne h with hlt | hlt
  · rw [abs_sub_le_iff_of_lt hlt, abs_sub_le_iff_of_gt hlt, add_comm b]
  · rw [abs_sub_le_iff_of_gt hlt, abs_sub_le_iff_of_lt hlt, add_comm b, and_comm]

namespace IsNearest

variable {x y : Double} {p q : ℚ}

/-- A number is not beyond the middle between the nearest double and one above it. -/
theorem two_mul_le (h : x.IsNearest q) (hy : y.isFinite = true) (hlt : x.value < y.value) :
    2 * q ≤ x.value + y.value ∧ (x.significand % 2 = 1 → 2 * q < x.value + y.value) := by
  have hle := (abs_sub_le_iff_of_lt hlt).mp (h.least y hy)
  refine ⟨hle, fun hodd => lt_of_le_of_ne hle fun heq => ?_⟩
  have := h.even y hy hlt.ne' ((abs_sub_eq_iff hlt.ne).mpr heq).symm
  omega

/-- A number is not beyond the middle between the nearest double and one below it. -/
theorem le_two_mul (h : x.IsNearest q) (hy : y.isFinite = true) (hlt : y.value < x.value) :
    x.value + y.value ≤ 2 * q ∧ (x.significand % 2 = 1 → x.value + y.value < 2 * q) := by
  have hle := (abs_sub_le_iff_of_gt hlt).mp (h.least y hy)
  refine ⟨hle, fun hodd => lt_of_le_of_ne hle fun heq => ?_⟩
  have := h.even y hy hlt.ne ((abs_sub_eq_iff hlt.ne').mpr heq.symm).symm
  omega

/-- Rounding keeps the order. -/
theorem mono (hx : x.IsNearest p) (hy : y.IsNearest q) (h : p < q) : x.value ≤ y.value := by
  by_contra hlt
  rw [not_le] at hlt
  have h1 := (hx.le_two_mul hy.isFinite hlt).1
  have h2 := (hy.two_mul_le hx.isFinite hlt).1
  linarith

/-- Rounding does not fall below a double. -/
theorem le_value (h : x.IsNearest q) (hy : y.isFinite = true) (hle : y.value ≤ q) :
    y.value ≤ x.value := by
  by_contra hlt
  rw [not_le] at hlt
  have := (h.two_mul_le hy hlt).1
  linarith

/-- Rounding does not rise above a double. -/
theorem value_le (h : x.IsNearest q) (hy : y.isFinite = true) (hle : q ≤ y.value) :
    x.value ≤ y.value := by
  by_contra hlt
  rw [not_le] at hlt
  have := (h.le_two_mul hy hlt).1
  linarith

end IsNearest

section Gaps

variable {m s m' s' : Nat}

/-- The next double above is one step away. -/
theorem add_le_of_lt (h : Canonical m s) (h' : Canonical m' s')
    (hlt : m * Nat.pow 2 s < m' * Nat.pow 2 s') :
    m * Nat.pow 2 s + Nat.pow 2 s ≤ m' * Nat.pow 2 s' := by
  simp only [Canonical, Nat.pow_eq] at *
  rcases Nat.lt_or_ge s' s with hs | hs
  · -- A smaller shift belongs to a smaller double.
    obtain ⟨j, rfl⟩ := Nat.exists_eq_add_of_lt hs
    have hm : 2 ^ 52 ≤ m := by
      by_contra hsmall
      have := h.2.2 (by omega)
      omega
    have hge : m' * 2 ^ s' ≤ m * 2 ^ (s' + j + 1) := by
      calc m' * 2 ^ s' ≤ 2 ^ 53 * 2 ^ s' := Nat.mul_le_mul_right _ h'.1.le
        _ = 2 ^ 52 * 2 ^ (s' + 1) := by rw [Nat.pow_succ]; omega
        _ ≤ m * 2 ^ (s' + j + 1) := Nat.mul_le_mul hm (Nat.pow_le_pow_right (by decide) (by omega))
    omega
  · obtain ⟨j, rfl⟩ := Nat.exists_eq_add_of_le' hs
    rw [Nat.pow_add, ← Nat.mul_assoc] at hlt ⊢
    have hsucc : m + 1 ≤ m' * 2 ^ j := lt_of_mul_lt_mul_right hlt (Nat.zero_le _)
    calc m * 2 ^ s + 2 ^ s = (m + 1) * 2 ^ s := by rw [Nat.add_mul, Nat.one_mul]
      _ ≤ m' * 2 ^ j * 2 ^ s := Nat.mul_le_mul_right _ hsucc

/-- The next double below is one step away, at the first number of a binade half a step. -/
theorem add_gapBelow_le_of_lt (h : Canonical m s) (h' : Canonical m' s')
    (hlt : m' * Nat.pow 2 s' < m * Nat.pow 2 s) :
    2 * (m' * Nat.pow 2 s') + gapBelow m s ≤ 2 * (m * Nat.pow 2 s) := by
  have habove := add_le_of_lt h' h hlt
  simp only [Canonical, gapBelow, Nat.pow_eq] at *
  rcases Nat.lt_or_ge s' s with hs | hs
  · obtain ⟨j, rfl⟩ := Nat.exists_eq_add_of_lt hs
    split
    next hfirst =>
      obtain ⟨rfl, -⟩ := hfirst
      have hpow : 2 ^ (s' + j + 1) = 2 * 2 ^ j * 2 ^ s' := by
        rw [Nat.pow_succ, Nat.pow_add, Nat.mul_comm, Nat.mul_assoc, Nat.mul_comm (2 ^ s')]
      have hone : 1 ≤ 2 ^ j := Nat.one_le_two_pow
      have hle : (2 * m') * 2 ^ s' + 2 * 2 ^ j * 2 ^ s' ≤ (2 * (2 ^ 52 * (2 * 2 ^ j))) * 2 ^ s' := by
        rw [← Nat.add_mul]
        exact Nat.mul_le_mul_right _ (by omega)
      rw [hpow]
      calc 2 * (m' * 2 ^ s') + 2 * 2 ^ j * 2 ^ s' = (2 * m') * 2 ^ s' + 2 * 2 ^ j * 2 ^ s' := by
            rw [Nat.mul_assoc 2 m']
        _ ≤ (2 * (2 ^ 52 * (2 * 2 ^ j))) * 2 ^ s' := hle
        _ = 2 * (2 ^ 52 * (2 * 2 ^ j * 2 ^ s')) := by ring
    next hfirst =>
      have hm : 2 ^ 52 + 1 ≤ m := by
        have hnot : ¬ m < 2 ^ 52 := fun hsmall => by
          have := h.2.2 hsmall
          omega
        have hne : m ≠ 2 ^ 52 := fun he => hfirst ⟨he, by omega⟩
        omega
      have hle : m' * 2 ^ s' ≤ 2 ^ 52 * 2 ^ (s' + j + 1) := by
        calc m' * 2 ^ s' ≤ 2 ^ 53 * 2 ^ s' := Nat.mul_le_mul_right _ h'.1.le
          _ = 2 ^ 52 * 2 ^ (s' + 1) := by rw [Nat.pow_succ]; omega
          _ ≤ 2 ^ 52 * 2 ^ (s' + j + 1) :=
            Nat.mul_le_mul_left _ (Nat.pow_le_pow_right (by decide) (by omega))
      have hmul := Nat.mul_le_mul_right (2 ^ (s' + j + 1)) hm
      rw [Nat.add_mul, Nat.one_mul] at hmul
      omega
  · have hpow : 2 ^ s ≤ 2 ^ s' := Nat.pow_le_pow_right (by decide) hs
    split <;> omega

/-- Another double is at least one step above a positive one, or below it by at least the gap there. -/
theorem signedUnits_cases (h : Canonical m s) (hm : 0 < m) {y : Double} (hy : y.isFinite = true) :
    y.signedUnits = ((m * Nat.pow 2 s : ℕ) : ℤ) ∨
      ((m * Nat.pow 2 s + Nat.pow 2 s : ℕ) : ℤ) ≤ y.signedUnits ∨
      2 * y.signedUnits + gapBelow m s ≤ ((2 * (m * Nat.pow 2 s) : ℕ) : ℤ) := by
  cases y with
  | infinite negative => cases hy
  | nan => cases hy
  | finite negative m' s' h' =>
    cases negative with
    | true =>
      have hsigned : (finite true m' s' h').signedUnits = -((m' * Nat.pow 2 s' : ℕ) : ℤ) := rfl
      have hgap := gapBelow_le m s
      have hone : 1 * Nat.pow 2 s ≤ m * Nat.pow 2 s := Nat.mul_le_mul_right _ hm
      rw [hsigned]
      omega
    | false =>
      rw [signedUnits_finite]
      rcases Nat.lt_trichotomy (m * Nat.pow 2 s) (m' * Nat.pow 2 s') with hlt | heq | hlt
      · have := add_le_of_lt h h' hlt
        omega
      · omega
      · have := add_gapBelow_le_of_lt h h' hlt
        omega

/-- The double above, unless there is none. -/
theorem exists_next (h : Canonical m s) :
    (∃ x : Double, x.isFinite = true ∧ x.signedUnits = ((m * Nat.pow 2 s + Nat.pow 2 s : ℕ) : ℤ)) ∨
      m = Nat.pow 2 53 - 1 ∧ s = 2045 := by
  rcases Nat.lt_or_ge (m + 1) (Nat.pow 2 53) with hlt | hge
  · have hnext : Canonical (m + 1) s := ⟨hlt, h.2.1, fun hsmall => h.2.2 (by omega)⟩
    refine Or.inl ⟨.finite false (m + 1) s hnext, rfl, ?_⟩
    rw [← Nat.succ_mul]
    rfl
  · have hm : m = Nat.pow 2 53 - 1 := by
      have := h.1
      omega
    rcases Nat.lt_or_ge s 2045 with hs | hs
    · have hnext : Canonical (Nat.pow 2 52) (s + 1) :=
        ⟨by decide, by omega, fun hsmall => absurd hsmall (by decide)⟩
      refine Or.inl ⟨.finite false (Nat.pow 2 52) (s + 1) hnext, rfl, ?_⟩
      have hunits : Nat.pow 2 52 * Nat.pow 2 (s + 1) = m * Nat.pow 2 s + Nat.pow 2 s := by
        rw [hm, ← Nat.succ_mul]
        simp only [Nat.pow_eq, Nat.pow_succ]
        omega
      rw [← hunits]
      rfl
    · exact Or.inr ⟨hm, Nat.le_antisymm h.2.1 hs⟩

/-- The double below. -/
theorem exists_previous (h : Canonical m s) (hm : 0 < m) :
    ∃ x : Double, x.isFinite = true ∧
      2 * x.signedUnits + gapBelow m s = ((2 * (m * Nat.pow 2 s) : ℕ) : ℤ) := by
  by_cases hfirst : m = Nat.pow 2 52 ∧ 0 < s
  · obtain ⟨rfl, hs⟩ := hfirst
    obtain ⟨k, rfl⟩ := Nat.exists_eq_add_one_of_ne_zero hs.ne'
    have hprevious : Canonical (Nat.pow 2 53 - 1) k :=
      ⟨by decide, by have := h.2.1; omega, fun hsmall => absurd hsmall (by decide)⟩
    refine ⟨.finite false (Nat.pow 2 53 - 1) k hprevious, rfl, ?_⟩
    have hunits : (finite false (Nat.pow 2 53 - 1) k hprevious).signedUnits =
        (((Nat.pow 2 53 - 1) * Nat.pow 2 k : ℕ) : ℤ) := rfl
    rw [hunits, gapBelow, if_pos ⟨rfl, hs⟩]
    simp only [Nat.pow_eq, Nat.pow_succ]
    omega
  · obtain ⟨n, rfl⟩ := Nat.exists_eq_add_one_of_ne_zero hm.ne'
    have hprevious : Canonical n s := by
      refine ⟨by have := h.1; omega, h.2.1, fun hsmall => ?_⟩
      by_contra hs
      have hne : n + 1 ≠ Nat.pow 2 52 := fun he => hfirst ⟨he, by omega⟩
      exact hs (h.2.2 (by omega))
    refine ⟨.finite false n s hprevious, rfl, ?_⟩
    have hunits : (finite false n s hprevious).signedUnits = ((n * Nat.pow 2 s : ℕ) : ℤ) := rfl
    rw [hunits, gapBelow, if_neg hfirst, Nat.add_mul]
    omega

/-- The rounding interval of the greatest double ends where doubles do. -/
theorem overflowBound_mul (hm : m = Nat.pow 2 53 - 1) (hs : s = 2045) :
    overflowBound * (4 * unitsPerOne) = 4 * (m * Nat.pow 2 s) + 2 * Nat.pow 2 s := by
  subst hm hs
  decide +kernel

/-- A rounding interval ends no later than that of the greatest significand with a shift as large,
and before it if the significand is even. -/
theorem high_le_greatest {step : Nat} (hm : m < Nat.pow 2 53) (hstep : Nat.pow 2 s ≤ step) :
    4 * (m * Nat.pow 2 s) + 2 * Nat.pow 2 s ≤ 4 * ((Nat.pow 2 53 - 1) * step) + 2 * step ∧
      (m % 2 = 0 → 4 * (m * Nat.pow 2 s) + 2 * Nat.pow 2 s <
        4 * ((Nat.pow 2 53 - 1) * step) + 2 * step) := by
  have hpos := pow_two_pos s
  have hle : m * Nat.pow 2 s ≤ (Nat.pow 2 53 - 1) * step := Nat.mul_le_mul (by omega) hstep
  refine ⟨by omega, fun heven => ?_⟩
  have hless : m ≤ Nat.pow 2 53 - 2 := by
    simp only [Nat.pow_eq] at *
    omega
  have hmul := Nat.mul_le_mul hless hstep
  have hsplit : (Nat.pow 2 53 - 1) * step = (Nat.pow 2 53 - 2) * step + step := by
    rw [← Nat.succ_mul]
  omega

theorem high_le_overflowBound (h : Canonical m s) :
    4 * (m * Nat.pow 2 s) + 2 * Nat.pow 2 s ≤ overflowBound * (4 * unitsPerOne) ∧
      (m % 2 = 0 → 4 * (m * Nat.pow 2 s) + 2 * Nat.pow 2 s < overflowBound * (4 * unitsPerOne)) := by
  have hgreatest := high_le_greatest h.1 (pow_two_mono h.2.1)
  rwa [← overflowBound_mul rfl rfl] at hgreatest

theorem lt_overflowBound_of_mem (h : Canonical m s) (hm : 0 < m) {q : ℚ}
    (hq : (interval m s).Mem (q * (4 * unitsPerOne))) : |q| < overflowBound := by
  have hpos := two_le_of_mem hm hq
  obtain ⟨-, hhigh, hodd⟩ := (mem_interval_iff hm _).mp hq
  obtain ⟨hle, hlt⟩ := high_le_overflowBound h
  have hq0 : 0 ≤ q := by
    by_contra hneg
    have := mul_neg_of_neg_of_pos (not_le.mp hneg) units_pos
    linarith
  rw [abs_of_nonneg hq0, ← mul_lt_mul_iff_of_pos_right units_pos]
  rcases Nat.mod_two_eq_zero_or_one m with he | ho
  · exact hhigh.trans_lt (by exact_mod_cast hlt he)
  · exact (hodd ho).2.trans_le (by exact_mod_cast hle)

theorem gapBelow_pos (m s : Nat) : 0 < gapBelow m s := by
  have hpow := pow_two_pos s
  rw [gapBelow]
  split <;> omega

theorem two_mul_le_value_add {x y : Double} {q : ℚ} : 2 * q ≤ x.value + y.value ↔
    q * (4 * unitsPerOne) ≤ 2 * (x.signedUnits + y.signedUnits : ℤ) := by
  rw [← mul_le_mul_iff_of_pos_right units_pos, add_mul, value_mul_units, value_mul_units, mul_assoc]
  push_cast
  constructor <;> intro h <;> linarith

theorem value_add_le_two_mul {x y : Double} {q : ℚ} : x.value + y.value ≤ 2 * q ↔
    2 * (x.signedUnits + y.signedUnits : ℤ) ≤ q * (4 * unitsPerOne) := by
  rw [← mul_le_mul_iff_of_pos_right units_pos, add_mul, value_mul_units, value_mul_units, mul_assoc]
  push_cast
  constructor <;> intro h <;> linarith

theorem natAbs_signedUnits (x : Double) : x.signedUnits.natAbs = x.units := by
  rw [signedUnits]
  split
  · rw [Int.natAbs_neg, Int.natAbs_natCast]
  · rw [Int.natAbs_natCast]

theorem abs_value_lt {x : Double} (hx : x.isFinite = true) : |x.value| < overflowBound := by
  have hunits : (0 : ℚ) < unitsPerOne := Nat.cast_pos.mpr unitsPerOne_pos
  rw [value, abs_div, abs_of_pos hunits, div_lt_iff₀ hunits, ← Int.cast_abs, ← Nat.cast_natAbs,
    natAbs_signedUnits, ← Nat.cast_mul, Nat.cast_lt]
  cases x with
  | infinite negative => cases hx
  | nan => cases hx
  | finite negative m s h =>
    have hhigh := (high_le_overflowBound h).1
    have hpow := pow_two_pos s
    have hself : (finite negative m s h).units = m * Nat.pow 2 s := rfl
    rw [Nat.mul_left_comm overflowBound] at hhigh
    omega

/-- A double is the nearest one to its own value. -/
theorem isNearest_value {x : Double} (hx : x.isFinite = true) : x.IsNearest x.value := by
  refine ⟨hx, abs_value_lt hx, fun y _ => ?_, fun y _ hne heq => ?_⟩
  · rw [sub_self, abs_zero]
    exact abs_nonneg _
  · rw [sub_self, abs_zero, abs_eq_zero, sub_eq_zero] at heq
    exact absurd heq.symm hne

/-- The nearest double's rounding interval holds the number. -/
theorem IsNearest.mem {h : Canonical m s} (hm : 0 < m) {q : ℚ}
    (hn : IsNearest (.finite false m s h) q) :
    (interval m s).Mem (q * (4 * unitsPerOne)) := by
  have hunits := signedUnits_finite h
  have hpow := pow_two_pos s
  have hgap := gapBelow_pos m s
  rw [mem_interval_iff hm]
  obtain ⟨y, hy, hbelow⟩ := exists_previous h hm
  have hylt : y.value < (finite false m s h).value := by
    rw [value_lt_iff]
    omega
  have hlow := hn.le_two_mul hy hylt
  rw [← not_le, value_add_le_two_mul, two_mul_le_value_add, not_le, hunits] at hlow
  have hlower : (4 * (m * Nat.pow 2 s) : ℕ) =
      2 * ((m * Nat.pow 2 s : ℕ) + y.signedUnits) + gapBelow m s := by
    omega
  have hlower' : ((4 * (m * Nat.pow 2 s) : ℕ) : ℚ) =
      2 * ((m * Nat.pow 2 s : ℕ) + y.signedUnits : ℤ) + gapBelow m s := by exact_mod_cast hlower
  have hhigh : q * (4 * unitsPerOne) ≤ ((4 * (m * Nat.pow 2 s) + 2 * Nat.pow 2 s : ℕ) : ℚ) ∧
      (m % 2 = 1 → q * (4 * unitsPerOne) < ((4 * (m * Nat.pow 2 s) + 2 * Nat.pow 2 s : ℕ) : ℚ)) := by
    rcases exists_next h with ⟨z, hz, habove⟩ | hgreatest
    · have hzlt : (finite false m s h).value < z.value := by
        rw [value_lt_iff]
        omega
      have hupper := hn.two_mul_le hz hzlt
      rw [← not_le, value_add_le_two_mul, two_mul_le_value_add, not_le, hunits, habove] at hupper
      have hcast : ((4 * (m * Nat.pow 2 s) + 2 * Nat.pow 2 s : ℕ) : ℚ) =
          2 * ((m * Nat.pow 2 s : ℕ) + (m * Nat.pow 2 s + Nat.pow 2 s : ℕ) : ℤ) := by
        push_cast
        ring
      rw [hcast]
      exact hupper
    · have hrange := mul_lt_mul_of_pos_right ((le_abs_self q).trans_lt hn.inRange) units_pos
      have hbound : (overflowBound : ℚ) * (4 * unitsPerOne) =
          ((4 * (m * Nat.pow 2 s) + 2 * Nat.pow 2 s : ℕ) : ℚ) := by
        rw [← overflowBound_mul hgreatest.1 hgreatest.2]
        push_cast
        rfl
      rw [hbound] at hrange
      exact ⟨hrange.le, fun _ => hrange⟩
  rw [hlower']
  refine ⟨by linarith [hlow.1], hhigh.1, fun hodd => ⟨?_, hhigh.2 hodd⟩⟩
  have := hlow.2 hodd
  linarith

/-- A double is the nearest one to the numbers of its rounding interval. -/
theorem isNearest_of_mem (h : Canonical m s) (hm : 0 < m) {q : ℚ}
    (hq : (interval m s).Mem (q * (4 * unitsPerOne))) : IsNearest (.finite false m s h) q := by
  have hunits := signedUnits_finite h
  have hpow := pow_two_pos s
  have hgap := gapBelow_pos m s
  obtain ⟨hlow, hhigh, hodd⟩ := (mem_interval_iff hm _).mp hq
  -- The number is not beyond the middle to any other double, and not in it if the significand is odd.
  have hside (y : Double) (hy : y.isFinite = true) (hne : y.value ≠ (finite false m s h).value) :
      |q - (finite false m s h).value| ≤ |q - y.value| ∧
        (m % 2 = 1 → |q - (finite false m s h).value| < |q - y.value|) := by
    rcases signedUnits_cases h hm hy with heq | hge | hle
    · exact absurd (value_eq_iff.mpr (heq.trans hunits.symm)) hne
    · have hlt : (finite false m s h).value < y.value := by
        rw [value_lt_iff]
        omega
      have hfar : ((4 * (m * Nat.pow 2 s) + 2 * Nat.pow 2 s : ℕ) : ℚ) ≤
          2 * ((finite false m s h).signedUnits + y.signedUnits : ℤ) := by
        rw [hunits]
        exact_mod_cast (by omega)
      rw [abs_sub_le_iff_of_lt hlt, ← not_le, abs_sub_le_iff_of_gt hlt, two_mul_le_value_add,
        add_comm y.value, value_add_le_two_mul, not_le]
      exact ⟨hhigh.trans hfar, fun ho => (hodd ho).2.trans_le hfar⟩
    · have hlt : y.value < (finite false m s h).value := by
        rw [value_lt_iff]
        omega
      have hfar : (2 * ((finite false m s h).signedUnits + y.signedUnits : ℤ) : ℚ) + gapBelow m s ≤
          ((4 * (m * Nat.pow 2 s) : ℕ) : ℚ) := by
        rw [hunits]
        exact_mod_cast (by omega)
      rw [abs_sub_le_iff_of_gt hlt, ← not_le, abs_sub_le_iff_of_lt hlt, value_add_le_two_mul,
        add_comm y.value, two_mul_le_value_add, not_le]
      exact ⟨by linarith, fun ho => by linarith [(hodd ho).1]⟩
  refine ⟨rfl, lt_overflowBound_of_mem h hm hq, fun y hy => ?_, fun y hy hne heq => ?_⟩
  · by_cases hne : y.value = (finite false m s h).value
    · rw [hne]
    · exact (hside y hy hne).1
  · rcases Nat.mod_two_eq_zero_or_one m with he | ho
    · exact he
    · exact absurd heq ((hside y hy hne).2 ho).ne'

/-- What lies between a double and a number that is rounded to it is rounded to it too. -/
theorem IsNearest.between {h : Canonical m s} (hm : 0 < m) {p q : ℚ}
    (hq : (finite false m s h).IsNearest q)
    (hp : q ≤ p ∧ p ≤ (finite false m s h).value ∨ (finite false m s h).value ≤ p ∧ p ≤ q) :
    (finite false m s h).IsNearest p := by
  have hself := (isNearest_value (x := .finite false m s h) rfl).mem hm
  have hmem := hq.mem hm
  have hscale {a b : ℚ} (hab : a ≤ b) : a * (4 * unitsPerOne) ≤ b * (4 * unitsPerOne) :=
    mul_le_mul_of_nonneg_right hab units_pos.le
  apply isNearest_of_mem h hm
  rcases hp with ⟨hlow, hhigh⟩ | ⟨hlow, hhigh⟩
  · exact hmem.between hself (hscale hlow) (hscale hhigh)
  · exact hself.between hmem (hscale hlow) (hscale hhigh)

end Gaps

end Double

end ScriptTree
