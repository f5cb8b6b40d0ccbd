import Mathlib.Algebra.Order.Field.Power
import Mathlib.Tactic.Linarith
import Mathlib.Tactic.NormNum
import Mathlib.Tactic.Positivity
import Mathlib.Tactic.Ring
import ScriptTree.Proofs.Number.Digits
import ScriptTree.Proofs.Number.Rounding

namespace ScriptTree

namespace Double

/-- The quarters of a unit in `n * 10 ^ e`. -/
def decimalQuarters (n : Nat) (e : Int) : ℚ := n * 10 ^ e * (4 * unitsPerOne)

theorem decimalQuarters_mul_pow (n k : Nat) (e : Int) :
    decimalQuarters (n * 10 ^ k) e = decimalQuarters n (e + k) := by
  rw [decimalQuarters, decimalQuarters, zpow_add₀ (by norm_num), zpow_natCast]
  push_cast
  ring

/-- A number of quarters of a unit lies in the interval. -/
def Interval.Mem (i : Interval) (x : ℚ) : Prop :=
  if i.closed then (i.low : ℚ) ≤ x ∧ x ≤ i.high else (i.low : ℚ) < x ∧ x < i.high

/-- What lies between two numbers of an interval lies in it. -/
theorem Interval.Mem.between {i : Interval} {x y z : ℚ} (hx : i.Mem x)
    (hz : i.Mem z) (hxy : x ≤ y) (hyz : y ≤ z) : i.Mem y := by
  unfold Interval.Mem at *
  split at hx
  next hclosed =>
    rw [if_pos hclosed] at hz ⊢
    exact ⟨hx.1.trans hxy, hyz.trans hz.2⟩
  next hclosed =>
    rw [if_neg hclosed] at hz ⊢
    exact ⟨hx.1.trans_le hxy, hyz.trans_lt hz.2⟩

theorem pow_two_mono {a b : Nat} (h : a ≤ b) : Nat.pow 2 a ≤ Nat.pow 2 b :=
  Nat.pow_le_pow_right (by decide) h

theorem unitsPerOne_pos : 0 < unitsPerOne := by
  decide +kernel

theorem ten_zpow_mul_toNat (k : Int) : (10 : ℚ) ^ k * 10 ^ (-k).toNat = 10 ^ k.toNat := by
  rw [← zpow_natCast, ← zpow_natCast, ← zpow_add₀ (by norm_num)]
  congr 1
  omega

theorem crossed_fst (c : Nat) (k : Int) (b : Nat) :
    (crossed c k b).1 = c * 10 ^ k.toNat * (4 * unitsPerOne) := rfl

theorem crossed_snd (c : Nat) (k : Int) (b : Nat) : (crossed c k b).2 = b * 10 ^ (-k).toNat := rfl

/-- Bringing a decimal and a bound to one denominator keeps their difference in sign. -/
theorem crossed_spec (c : Nat) (k : Int) (b : Nat) :
    decimalQuarters c k * 10 ^ (-k).toNat = ((crossed c k b).1 : ℚ) ∧
      (b : ℚ) * 10 ^ (-k).toNat = ((crossed c k b).2 : ℚ) := by
  have hk := ten_zpow_mul_toNat k
  rw [crossed_fst, crossed_snd]
  push_cast
  refine ⟨?_, rfl⟩
  calc decimalQuarters c k * 10 ^ (-k).toNat
      = c * ((10 : ℚ) ^ k * 10 ^ (-k).toNat) * (4 * unitsPerOne) := by rw [decimalQuarters]; ring
    _ = c * 10 ^ k.toNat * (4 * unitsPerOne) := by rw [hk]

theorem decimalQuarters_le_iff (c : Nat) (k : Int) (b : Nat) :
    decimalQuarters c k ≤ b ↔ (crossed c k b).1 ≤ (crossed c k b).2 := by
  have hpos : (0 : ℚ) < 10 ^ (-k).toNat := by positivity
  obtain ⟨h1, h2⟩ := crossed_spec c k b
  rw [← mul_le_mul_iff_of_pos_right hpos, h1, h2]
  exact Nat.cast_le

theorem le_decimalQuarters_iff (c : Nat) (k : Int) (b : Nat) :
    (b : ℚ) ≤ decimalQuarters c k ↔ (crossed c k b).2 ≤ (crossed c k b).1 := by
  have hpos : (0 : ℚ) < 10 ^ (-k).toNat := by positivity
  obtain ⟨h1, h2⟩ := crossed_spec c k b
  rw [← mul_le_mul_iff_of_pos_right hpos, h1, h2]
  exact Nat.cast_le

theorem Interval.holds_iff_mem (i : Interval) (c : Nat) (k : Int) :
    i.holds c k = true ↔ i.Mem (decimalQuarters c k) := by
  simp only [Interval.holds, Interval.Mem]
  split
  · simp [le_decimalQuarters_iff, decimalQuarters_le_iff]
  · simp only [Bool.and_eq_true, decide_eq_true_eq, ← not_le, le_decimalQuarters_iff,
      decimalQuarters_le_iff]

section Bounds

variable {m s : Nat}

/-- The ends of the rounding interval as rationals; the ends of an odd significand are outside. -/
theorem mem_interval_iff (hm : 0 < m) (x : ℚ) :
    (interval m s).Mem x ↔
      ((4 * (m * Nat.pow 2 s) : ℕ) : ℚ) ≤ x + gapBelow m s ∧
      x ≤ ((4 * (m * Nat.pow 2 s) + 2 * Nat.pow 2 s : ℕ) : ℚ) ∧
      (m % 2 = 1 → ((4 * (m * Nat.pow 2 s) : ℕ) : ℚ) < x + gapBelow m s ∧
        x < ((4 * (m * Nat.pow 2 s) + 2 * Nat.pow 2 s : ℕ) : ℚ)) := by
  have hassoc : 4 * m * Nat.pow 2 s = 4 * (m * Nat.pow 2 s) := Nat.mul_assoc ..
  have hgap : gapBelow m s ≤ 4 * (m * Nat.pow 2 s) := by
    have hone : 1 * Nat.pow 2 s ≤ m * Nat.pow 2 s := Nat.mul_le_mul_right _ hm
    have := gapBelow_le m s
    omega
  have hlow : ((interval m s).low : ℚ) = ((4 * (m * Nat.pow 2 s) : ℕ) : ℚ) - gapBelow m s := by
    rw [← Nat.cast_sub hgap, ← hassoc]
    rfl
  have hhigh : (interval m s).high = 4 * (m * Nat.pow 2 s) + 2 * Nat.pow 2 s := by
    rw [← hassoc]
    rfl
  have hclosed : (interval m s).closed = decide (m % 2 = 0) := rfl
  rw [Interval.Mem, hlow, hhigh, hclosed]
  rcases Nat.mod_two_eq_zero_or_one m with he | ho
  · simp [he]
  · simp only [ho, decide_false, Bool.false_eq_true, if_false, one_ne_zero, sub_lt_iff_lt_add,
      forall_const]
    exact ⟨fun h => ⟨h.1.le, h.2.le, h⟩, fun h => h.2.2⟩

/-- A quotient lies in the interval if its numerator lies between the ends times its denominator. -/
theorem mem_interval_div_iff {num den : Nat} (hm : 0 < m) (hd : 0 < den) :
    (interval m s).Mem ((num : ℚ) / den * (4 * unitsPerOne)) ↔
      4 * (m * Nat.pow 2 s) * den ≤ 4 * (num * unitsPerOne) + gapBelow m s * den ∧
      4 * (num * unitsPerOne) ≤ (4 * (m * Nat.pow 2 s) + 2 * Nat.pow 2 s) * den ∧
      (m % 2 = 1 →
        4 * (m * Nat.pow 2 s) * den < 4 * (num * unitsPerOne) + gapBelow m s * den ∧
        4 * (num * unitsPerOne) < (4 * (m * Nat.pow 2 s) + 2 * Nat.pow 2 s) * den) := by
  have hden : (0 : ℚ) < den := Nat.cast_pos.mpr hd
  have hscale : (num : ℚ) / den * (4 * unitsPerOne) * den = ((4 * (num * unitsPerOne) : ℕ) : ℚ) := by
    rw [div_mul_eq_mul_div, div_mul_cancel₀ _ hden.ne']
    push_cast
    ring
  generalize (num : ℚ) / den * (4 * unitsPerOne) = x at hscale ⊢
  have hsplit : (x + gapBelow m s) * den =
      ((4 * (num * unitsPerOne) + gapBelow m s * den : ℕ) : ℚ) := by
    rw [add_mul, hscale]
    push_cast
    rfl
  have hlow (a : ℕ) : (a : ℚ) ≤ x + gapBelow m s ↔
      a * den ≤ 4 * (num * unitsPerOne) + gapBelow m s * den := by
    rw [← mul_le_mul_iff_of_pos_right hden, hsplit, ← Nat.cast_mul, Nat.cast_le]
  have hlow' (a : ℕ) : (a : ℚ) < x + gapBelow m s ↔
      a * den < 4 * (num * unitsPerOne) + gapBelow m s * den := by
    rw [← mul_lt_mul_iff_of_pos_right hden, hsplit, ← Nat.cast_mul, Nat.cast_lt]
  have hhigh (b : ℕ) : x ≤ b ↔ 4 * (num * unitsPerOne) ≤ b * den := by
    rw [← mul_le_mul_iff_of_pos_right hden, hscale, ← Nat.cast_mul, Nat.cast_le]
  have hhigh' (b : ℕ) : x < b ↔ 4 * (num * unitsPerOne) < b * den := by
    rw [← mul_lt_mul_iff_of_pos_right hden, hscale, ← Nat.cast_mul, Nat.cast_lt]
  rw [mem_interval_iff hm, hlow, hhigh, hlow', hhigh']

theorem ofRatio_of_mem {num den : Nat} (negative : Bool) (h : Canonical m s) (hm : 0 < m) (hd : 0 < den)
    (hx : (interval m s).Mem ((num : ℚ) / den * (4 * unitsPerOne))) :
    ofRatio negative num den = .finite negative m s h := by
  obtain ⟨hlow, hhigh, hodd⟩ := (mem_interval_div_iff hm hd).mp hx
  exact ofRatio_of_interval negative h hd hlow hhigh hodd

/-- Nothing in the interval of a positive double is so small that it is read as zero. -/
theorem two_le_of_mem (hm : 0 < m) {x : ℚ} (hx : (interval m s).Mem x) : 2 ≤ x := by
  have hlow := ((mem_interval_iff hm x).mp hx).1
  have hgap : (gapBelow m s : ℚ) ≤ 2 * Nat.pow 2 s := by exact_mod_cast gapBelow_le m s
  have hone : (1 : ℚ) ≤ Nat.pow 2 s := by exact_mod_cast Nat.pow_pos (by decide : 0 < 2)
  have hmul : (1 : ℚ) * Nat.pow 2 s ≤ m * Nat.pow 2 s :=
    mul_le_mul_of_nonneg_right (by exact_mod_cast hm) (by positivity)
  push_cast at hlow
  linarith

/-- Nothing in the interval of a double is so large that it is read as infinite. -/
theorem lt_of_mem (h : Canonical m s) (hm : 0 < m) {x : ℚ} (hx : (interval m s).Mem x) :
    x < 10 ^ 309 * (4 * unitsPerOne) := by
  have hhigh := ((mem_interval_iff hm x).mp hx).2.1
  have hpow := pow_two_mono h.2.1
  have hprod := Nat.mul_le_mul h.1.le hpow
  have hconst : 4 * (Nat.pow 2 53 * Nat.pow 2 2045) + 2 * Nat.pow 2 2045 <
      10 ^ 309 * (4 * unitsPerOne) := by
    decide +kernel
  have hnat : 4 * (m * Nat.pow 2 s) + 2 * Nat.pow 2 s < 10 ^ 309 * (4 * unitsPerOne) := by
    omega
  calc x ≤ ((4 * (m * Nat.pow 2 s) + 2 * Nat.pow 2 s : ℕ) : ℚ) := hhigh
    _ < ((10 ^ 309 * (4 * unitsPerOne) : ℕ) : ℚ) := Nat.cast_lt.mpr hnat
    _ = 10 ^ 309 * (4 * unitsPerOne) := by push_cast; rfl

theorem decimal_lt_pow (n : Nat) (e : Int) :
    (n : ℚ) * 10 ^ e < 10 ^ ((Text.decimalDigits n).length + e : Int) := by
  have hpos : (0 : ℚ) < 10 ^ e := by positivity
  rw [zpow_add₀ (by norm_num), zpow_natCast]
  exact mul_lt_mul_of_pos_right (by exact_mod_cast Text.lt_pow_length_decimalDigits n) hpos

theorem pow_le_decimal {n : Nat} (hn : 0 < n) (e : Int) :
    (10 : ℚ) ^ ((Text.decimalDigits n).length - 1 + e : Int) ≤ n * 10 ^ e := by
  have hpos : (0 : ℚ) < 10 ^ e := by positivity
  have hlen : 0 < (Text.decimalDigits n).length := List.length_pos_iff.mpr (Text.decimalDigits_ne_nil n)
  have hsub : (((Text.decimalDigits n).length : Int) - 1) =
      ((Text.decimalDigits n).length - 1 : ℕ) := by
    omega
  rw [zpow_add₀ (by norm_num), hsub, zpow_natCast]
  exact mul_le_mul_of_nonneg_right (by exact_mod_cast Text.pow_length_decimalDigits_le hn) hpos.le

theorem units_pos : (0 : ℚ) < 4 * unitsPerOne := by
  have hunits : (0 : ℚ) < unitsPerOne := Nat.cast_pos.mpr unitsPerOne_pos
  linarith

/-- A decimal in the interval is not small enough to be read as zero. -/
theorem lt_size_of_mem {n : Nat} {e : Int} (hm : 0 < m)
    (hx : (interval m s).Mem (decimalQuarters n e)) :
    (-324 : Int) < (Text.decimalDigits n).length + e := by
  apply lt_of_not_ge
  intro hle
  have htwo := two_le_of_mem hm hx
  have hpow : (10 : ℚ) ^ ((Text.decimalDigits n).length + e : Int) ≤ 10 ^ (-324 : Int) :=
    zpow_le_zpow_right₀ (by norm_num) hle
  have hlt := mul_lt_mul_of_pos_right ((decimal_lt_pow n e).trans_le hpow) units_pos
  have hconst : (10 : ℚ) ^ (-324 : Int) * (4 * unitsPerOne) < 2 := by
    have hnat : 4 * unitsPerOne < 10 ^ 324 * 2 := by decide +kernel
    have hcast : (4 * unitsPerOne : ℚ) < 10 ^ 324 * 2 := by exact_mod_cast hnat
    rw [zpow_neg, inv_mul_lt_iff₀ (by positivity), zpow_ofNat]
    exact hcast
  rw [decimalQuarters] at htwo
  linarith

/-- A decimal in the interval is not large enough to be read as infinite. -/
theorem size_lt_of_mem {n : Nat} {e : Int} (h : Canonical m s) (hm : 0 < m) (hn : 0 < n)
    (hx : (interval m s).Mem (decimalQuarters n e)) :
      ((Text.decimalDigits n).length : Int) + e < 310 := by
  apply lt_of_not_ge
  intro hle
  have hpow : (10 : ℚ) ^ (309 : Int) ≤ 10 ^ ((Text.decimalDigits n).length - 1 + e : Int) :=
    zpow_le_zpow_right₀ (by norm_num) (by omega)
  have hge := mul_le_mul_of_nonneg_right (hpow.trans (pow_le_decimal hn e)) units_pos.le
  have hlt := lt_of_mem h hm hx
  rw [decimalQuarters] at hlt
  rw [zpow_ofNat] at hge
  exact absurd hlt (not_lt.mpr hge)

/-- A decimal in the rounding interval of a positive double is read as this double. -/
theorem ofDecimal_of_mem {n : Nat} {e : Int} (negative : Bool) (h : Canonical m s) (hm : 0 < m)
    (hx : (interval m s).Mem (decimalQuarters n e)) :
    ofDecimal negative n e = .finite negative m s h := by
  have hn : 0 < n := by
    rcases Nat.eq_zero_or_pos n with rfl | hn
    · have htwo := two_le_of_mem hm hx
      simp only [decimalQuarters, Nat.cast_zero, zero_mul] at htwo
      linarith
    · exact hn
  have hsmall := lt_size_of_mem hm hx
  have hlarge := size_lt_of_mem h hm hn hx
  have hguard : ¬ (n = 0 ∨ ((Text.decimalDigits n).length + e : Int) ≤ -324) := by
    omega
  simp only [ofDecimal, if_neg hguard, if_neg (not_le.mpr hlarge), Nat.pow_eq]
  have hvalue (he : 0 ≤ e) : ((n * 10 ^ e.toNat : ℕ) : ℚ) / (1 : ℕ) = n * 10 ^ e := by
    have := Int.toNat_of_nonneg he
    push_cast
    rw [div_one, ← zpow_natCast, this]
  have hquotient (he : ¬ 0 ≤ e) : (n : ℚ) / ((10 ^ (-e).toNat : ℕ) : ℚ) = n * 10 ^ e := by
    have hneg : (((-e).toNat : ℕ) : Int) = -e := Int.toNat_of_nonneg (by omega)
    push_cast
    rw [← zpow_natCast, hneg, zpow_neg, div_inv_eq_mul]
  split
  next he =>
    apply ofRatio_of_mem negative h hm (by decide)
    rwa [hvalue he]
  next he =>
    apply ofRatio_of_mem negative h hm (Nat.pow_pos (by decide))
    rwa [hquotient he]

end Bounds

end Double

end ScriptTree
