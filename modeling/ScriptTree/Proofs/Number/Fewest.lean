import Mathlib.Data.Nat.Prime.Basic
import Mathlib.Tactic.NormNum.Prime
import ScriptTree.Proofs.Number.Grid

namespace ScriptTree

/-- The decimal that a positive double is written with: of those that are rounded to the double one
with the fewest digits, of these the nearest to its value, and of two that are equally near the even
one. -/
structure Decimal.IsShortest (d : Decimal) (x : Double) : Prop where
  isProper : d.IsProper
  reads : x.IsNearest d.value
  fewest : ∀ e : Decimal, e.IsProper → x.IsNearest e.value → d.digits.length ≤ e.digits.length
  nearest : ∀ e : Decimal, e.IsProper → x.IsNearest e.value → e.digits.length = d.digits.length →
    |d.value - x.value| ≤ |e.value - x.value|
  even : ∀ e : Decimal, e.IsProper → x.IsNearest e.value → e.digits.length = d.digits.length →
    |d.value - x.value| = |e.value - x.value| → e = d ∨ d.significand % 2 = 0

namespace Double

section Trimmed

theorem trimZeros_append_singleton_ne (ds : List Nat) {d : Nat} (h : d ≠ 0) :
    trimZeros (ds ++ [d]) = ds ++ [d] := by
  rw [trimZeros, List.reverse_append, List.reverse_singleton, List.singleton_append,
    List.dropWhile_cons_of_neg (by simpa using h), List.reverse_cons, List.reverse_reverse]

theorem trimZeros_append_zero (ds : List Nat) : trimZeros (ds ++ [0]) = trimZeros ds := by
  rw [trimZeros, List.reverse_append, List.reverse_singleton, List.singleton_append,
    List.dropWhile_cons_of_pos (by simp), trimZeros]

/-- What is left of the digits of a number does not end in zero. -/
theorem trimZeros_mod_ten {ds : List Nat} (h : ∀ d ∈ ds, d < 10) (hne : trimZeros ds ≠ []) :
    Text.ofDigitValues 10 (trimZeros ds) % 10 ≠ 0 := by
  induction ds using List.reverseRecOn with
  | nil => exact absurd rfl hne
  | append_singleton ds d ih =>
    by_cases hd : d = 0
    · subst hd
      rw [trimZeros_append_zero] at hne ⊢
      exact ih (fun e he => h e (List.mem_append_left _ he)) hne
    · have hlt := h d (by simp)
      rw [trimZeros_append_singleton_ne ds hd, Text.ofDigitValues_append, Text.ofDigitValues_singleton,
        List.length_singleton, Nat.pow_one]
      omega

theorem significand_trimmed_mod_ten {c : Nat} (hc : 0 < c) (k : Int) :
    (trimmed c k).significand % 10 ≠ 0 :=
  trimZeros_mod_ten (fun _ => Text.lt_ten_of_mem_decimalDigits)
    (List.length_pos_iff.mp (isProper_trimmed hc k).length_pos)

end Trimmed

section Search

variable {m s : Nat}

theorem mem_center (hm : 0 < m) : (interval m s).Mem ((4 * (m * Nat.pow 2 s) : ℕ) : ℚ) := by
  have hgap : (0 : ℚ) < gapBelow m s := Nat.cast_pos.mpr (gapBelow_pos m s)
  have hpow := pow_two_pos s
  have hlt : ((4 * (m * Nat.pow 2 s) : ℕ) : ℚ) < ((4 * (m * Nat.pow 2 s) + 2 * Nat.pow 2 s : ℕ) : ℚ) :=
    Nat.cast_lt.mpr (by omega)
  rw [mem_interval_iff hm]
  exact ⟨by linarith, hlt.le, fun _ => ⟨by linarith, hlt⟩⟩

/-- A decimal of the interval with no more digits than a grid is not nearer to the value than its
neighbour there on the same side, and only as near if it is this neighbour. -/
theorem exists_neighbour (hm : 0 < m) {n : Nat} {e : Decimal}
    (he : e.IsProper) (hlen : e.digits.length ≤ n)
    (hmem : (interval m s).Mem (decimalQuarters e.significand e.exponent)) :
    ∃ a, IsNeighbour (interval m s) (4 * (m * Nat.pow 2 s)) (gridExponent m s n) a ∧
      distance (4 * (m * Nat.pow 2 s)) a (gridExponent m s n) ≤
        distance (4 * (m * Nat.pow 2 s)) e.significand e.exponent ∧
      (distance (4 * (m * Nat.pow 2 s)) a (gridExponent m s n) =
        distance (4 * (m * Nat.pow 2 s)) e.significand e.exponent →
        decimalQuarters e.significand e.exponent = decimalQuarters a (gridExponent m s n)) := by
  obtain ⟨hlow, hhigh⟩ := not_between_neighbours (s := s) hm he hlen
  obtain ⟨hle, hlt⟩ := gridBelow_spec (4 * (m * Nat.pow 2 s)) (gridExponent m s n)
  obtain ⟨hbelow, habove⟩ := distance_gridBelow (4 * (m * Nat.pow 2 s)) (gridExponent m s n)
  rcases le_or_gt (decimalQuarters e.significand e.exponent)
      ((4 * (m * Nat.pow 2 s) : ℕ) : ℚ) with hside | hside
  · refine ⟨_, ⟨hmem.between (mem_center hm) (hlow hside) hle, Or.inl rfl⟩, ?_⟩
    rw [hbelow, distance_of_le hside]
    exact ⟨by linarith [hlow hside], fun heq => by linarith⟩
  · refine ⟨_, ⟨(mem_center hm).between hmem hlt.le (hhigh hside), Or.inr rfl⟩, ?_⟩
    rw [habove, distance_of_lt hside]
    exact ⟨by linarith [hhigh hside], fun heq => by linarith⟩

/-- A number of a grid is not written with more digits than the grid has. -/
theorem length_trimmed_le {c n : Nat} (hc : 0 < c) (hle : c ≤ 10 ^ n) (hn : 0 < n) (k : Int) :
    (trimmed c k).digits.length ≤ n := by
  -- Only the power of ten after the last number of the grid has a digit more, a zero.
  by_contra hgt
  obtain ⟨t, hsig, -, hlen⟩ := trimmed_spec c k
  have hfirst := Text.pow_length_decimalDigits_le hc
  have hshort := hfirst.trans hle
  rw [Nat.pow_le_pow_iff_right (by decide)] at hshort
  obtain rfl : t = 0 := by omega
  have hlast : (Text.decimalDigits c).length - 1 = n := by omega
  rw [hlast] at hfirst
  rw [Nat.pow_zero, Nat.mul_one] at hsig
  have hmod := significand_trimmed_mod_ten hc k
  obtain ⟨j, rfl⟩ := Nat.exists_eq_add_one_of_ne_zero hn.ne'
  rw [← hsig, le_antisymm hle hfirst, Nat.pow_succ, Nat.mul_mod_left] at hmod
  exact hmod rfl

/-- The first grid with a candidate: no decimal of the interval has fewer digits than its numbers. -/
structure IsFirst (m s n c : Nat) : Prop where
  pos : 0 < n
  candidate : IsCandidate (interval m s) (4 * (m * Nat.pow 2 s)) (gridExponent m s n) c
  fewest : ∀ e : Decimal, e.IsProper → (interval m s).Mem (decimalQuarters e.significand e.exponent) →
    n ≤ e.digits.length

theorem exists_isFirst (h : Canonical m s) (hm : 0 < m) :
    ∃ n c, IsFirst m s n c ∧ shortest m s = trimmed c (gridExponent m s n) := by
  obtain ⟨n, c, hc, hnone, hshort⟩ := exists_first_candidate h hm
  have hpos (j : Nat) : 0 < gridBelow (4 * (m * Nat.pow 2 s)) (gridExponent m s (j + 1)) :=
    (Nat.pow_pos (by decide)).trans_le (gridBelow_bounds hm (Nat.succ_pos j)).1
  refine ⟨n + 1, c, ⟨Nat.succ_pos n, isCandidate_of_gridCandidate (hpos n) hc, fun e he hmem => ?_⟩,
    hshort⟩
  by_contra hlen
  obtain ⟨j, hj⟩ := Nat.exists_eq_add_one_of_ne_zero he.length_pos.ne'
  obtain ⟨a, ha, -⟩ := exists_neighbour hm he hj.le hmem
  exact not_isNeighbour (hpos j) (hnone j (by omega)) ha

/-- The search goes by the distance in quarters of a unit. -/
theorem abs_value_sub (h : Canonical m s) (d : Decimal) :
    |d.value - (finite false m s h).value| * (4 * unitsPerOne) =
      distance (4 * (m * Nat.pow 2 s)) d.significand d.exponent := by
  have hself := value_mul_units (finite false m s h)
  rw [signedUnits_finite] at hself
  conv_lhs => rw [← abs_of_pos units_pos]
  rw [← abs_mul, sub_mul, hself, distance]
  push_cast
  rfl

theorem abs_sub_le_iff_distance_le (h : Canonical m s) (d e : Decimal) :
    |d.value - (finite false m s h).value| ≤ |e.value - (finite false m s h).value| ↔
      distance (4 * (m * Nat.pow 2 s)) d.significand d.exponent ≤
        distance (4 * (m * Nat.pow 2 s)) e.significand e.exponent := by
  rw [← abs_value_sub h, ← abs_value_sub h, mul_le_mul_iff_of_pos_right units_pos]

theorem abs_sub_eq_iff_distance_eq (h : Canonical m s) (d e : Decimal) :
    |d.value - (finite false m s h).value| = |e.value - (finite false m s h).value| ↔
      distance (4 * (m * Nat.pow 2 s)) d.significand d.exponent =
        distance (4 * (m * Nat.pow 2 s)) e.significand e.exponent := by
  rw [← abs_value_sub h, ← abs_value_sub h, mul_left_inj' units_pos.ne']

theorem isNearest_iff_mem (h : Canonical m s) (hm : 0 < m) (d : Decimal) :
    IsNearest (finite false m s h) d.value ↔
      (interval m s).Mem (decimalQuarters d.significand d.exponent) :=
  ⟨fun hd => hd.mem hm, fun hd => isNearest_of_mem h hm hd⟩

end Search

namespace IsFirst

variable {m s n c a : Nat} {e : Decimal}

/-- A neighbour of the value on the first grid has as many digits as the grid, and no zero is left
out after them unless it is ten and written with one digit. -/
theorem trimmed_spec (hm : 0 < m) (hc : IsFirst m s n c)
    (ha : IsNeighbour (interval m s) (4 * (m * Nat.pow 2 s)) (gridExponent m s n) a) :
    (trimmed a (gridExponent m s n)).IsProper ∧ (trimmed a (gridExponent m s n)).digits.length = n ∧
      ((trimmed a (gridExponent m s n)).significand = a ∨
        n = 1 ∧ a = 10 ∧ (trimmed a (gridExponent m s n)).significand = 1) := by
  have hn := hc.pos
  obtain ⟨hfirst, hlast⟩ := gridBelow_bounds (s := s) hm hn
  obtain ⟨hmem, hside⟩ := ha
  generalize gridExponent m s n = k at *
  have hpow := Nat.pow_pos (n := n - 1) (by decide : 0 < 10)
  have ha : 0 < a := by omega
  have hle : a ≤ 10 ^ n := by omega
  have hproper := isProper_trimmed ha k
  have hlen : (trimmed a k).digits.length = n :=
    le_antisymm (length_trimmed_le ha hle hn k) (hc.fewest _ hproper (by rwa [decimalQuarters_trimmed]))
  refine ⟨hproper, hlen, ?_⟩
  obtain ⟨t, hsig, -, hdigits⟩ := Double.trimmed_spec a k
  rcases Nat.eq_zero_or_pos t with rfl | ht
  · rw [Nat.pow_zero, Nat.mul_one] at hsig
    exact Or.inl hsig.symm
  · -- A zero is left out only of the power of ten after the last number of the grid.
    right
    have hge := Text.pow_length_decimalDigits_le ha
    obtain rfl := le_antisymm hle ((Nat.pow_le_pow_right (by decide) (by omega)).trans hge)
    rw [Nat.pow_le_pow_iff_right (by decide)] at hge
    obtain rfl : t = 1 := by omega
    have hmod := significand_trimmed_mod_ten ha k
    obtain ⟨j, rfl⟩ := Nat.exists_eq_add_one_of_ne_zero hn.ne'
    have hone : (trimmed (10 ^ (j + 1)) k).significand = 10 ^ j := by
      rw [Nat.pow_one] at hsig
      exact (Nat.eq_of_mul_eq_mul_right (by decide) ((Nat.pow_succ ..).symm.trans hsig)).symm
    cases j with
    | zero => exact ⟨rfl, rfl, hone⟩
    | succ j =>
      rw [hone, Nat.pow_succ, Nat.mul_mod_left] at hmod
      exact absurd rfl hmod

/-- A decimal with as many digits as the first grid that is a neighbour there is written with its
digits. -/
theorem eq_trimmed (hm : 0 < m) (hc : IsFirst m s n c) (he : e.IsProper) (hlen : e.digits.length = n)
    (ha : IsNeighbour (interval m s) (4 * (m * Nat.pow 2 s)) (gridExponent m s n) a)
    (hvalue : decimalQuarters e.significand e.exponent = decimalQuarters a (gridExponent m s n)) :
    e = trimmed a (gridExponent m s n) := by
  obtain ⟨hproper, hlength, -⟩ := hc.trimmed_spec hm ha
  refine he.ext_value hproper (hlen.trans hlength.symm) ?_
  rw [← decimalQuarters_trimmed a] at hvalue
  exact mul_right_cancel₀ units_pos.ne' hvalue

/-- Nine and ten steps are not equally near to a double if both are rounded to it. -/
theorem not_tie (hm : 0 < m) {k : Int} (hmem : (interval m s).Mem (decimalQuarters 9 k)) :
    2 * ((4 * (m * Nat.pow 2 s) : ℕ) : ℚ) ≠ decimalQuarters 9 k + decimalQuarters 10 k := by
  intro htie
  have hsum : decimalQuarters 9 k + decimalQuarters 10 k = decimalQuarters 19 k := by
    simp only [decimalQuarters]
    push_cast
    ring
  have hnine : 19 * decimalQuarters 9 k = 9 * decimalQuarters 19 k := by
    simp only [decimalQuarters]
    push_cast
    ring
  rw [hsum] at htie
  -- The interval is so wide only about the least doubles, whose significands the prime 19 does not
  -- divide.
  have hsmall : m ≤ 9 := by
    have hlow := ((mem_interval_iff hm _).mp hmem).1
    have hgap : (gapBelow m s : ℚ) ≤ ((2 * Nat.pow 2 s : ℕ) : ℚ) := Nat.cast_le.mpr (gapBelow_le m s)
    have hle : ((m * Nat.pow 2 s : ℕ) : ℚ) * 2 ≤ ((Nat.pow 2 s : ℕ) : ℚ) * 19 := by
      push_cast at *
      linarith
    have hnat : m * Nat.pow 2 s * 2 ≤ Nat.pow 2 s * 19 := by exact_mod_cast hle
    have := Nat.le_of_mul_le_mul_right (by linarith : m * 2 * Nat.pow 2 s ≤ 19 * Nat.pow 2 s)
        (pow_two_pos s)
    omega
  have hcross : 2 * (4 * (m * Nat.pow 2 s)) * 10 ^ (-k).toNat =
      19 * 10 ^ k.toNat * (4 * unitsPerOne) := by
    have hspec := crossed_spec 19 k (2 * (4 * (m * Nat.pow 2 s)))
    rw [crossed_fst, crossed_snd, ← htie] at hspec
    have heq := hspec.2.symm.trans ((by push_cast; rfl : _ = _).trans hspec.1)
    exact_mod_cast heq
  have hprime : Nat.Prime 19 := by norm_num
  have hdvd : 19 ∣ 2 * (4 * (m * Nat.pow 2 s)) * 10 ^ (-k).toNat := by
    rw [hcross, Nat.mul_assoc]
    exact Nat.dvd_mul_right 19 _
  have hnot {b : Nat} (j : Nat) (hb : ¬ 19 ∣ b) : ¬ 19 ∣ b ^ j :=
    fun hj => hb (hprime.dvd_of_dvd_pow hj)
  simp only [hprime.dvd_mul, Nat.pow_eq] at hdvd
  rcases hdvd with (htwo | hfour | hself | hpow) | hpow
  · exact absurd htwo (by decide)
  · exact absurd hfour (by decide)
  · exact absurd (Nat.le_of_dvd hm hself) (by omega)
  · exact hnot s (by decide) hpow
  · exact hnot _ (by decide) hpow

/-- The candidate of the first grid is nearest to the value among the decimals of the interval with
as many digits. One that is as near is the same decimal, or the other neighbour of the value, whose
last digit is odd where the candidate's is even. -/
theorem nearest (hm : 0 < m) (hc : IsFirst m s n c) (he : e.IsProper) (hlen : e.digits.length = n)
    (hmem : (interval m s).Mem (decimalQuarters e.significand e.exponent)) :
    distance (4 * (m * Nat.pow 2 s)) c (gridExponent m s n) ≤
        distance (4 * (m * Nat.pow 2 s)) e.significand e.exponent ∧
      (distance (4 * (m * Nat.pow 2 s)) c (gridExponent m s n) =
        distance (4 * (m * Nat.pow 2 s)) e.significand e.exponent →
        e = trimmed c (gridExponent m s n) ∨
          (trimmed c (gridExponent m s n)).significand % 2 = 0 ∧ e.significand % 2 = 1) := by
  obtain ⟨a, ha, hle, heq⟩ := exists_neighbour hm he hlen.le hmem
  have hleast := hc.candidate.least a ha
  refine ⟨hleast.trans hle, fun htie => ?_⟩
  have hsame := le_antisymm hle (htie ▸ hleast)
  rw [hc.eq_trimmed hm he hlen ha (heq hsame)]
  by_cases hac : a = c
  · exact Or.inl (by rw [hac])
  right
  have heven := (hc.candidate.even a ha (htie.trans hsame.symm)).resolve_left hac
  obtain ⟨-, -, hasig⟩ := hc.trimmed_spec hm ha
  obtain ⟨-, -, hcsig⟩ := hc.trimmed_spec hm hc.candidate.toIsNeighbour
  have haside := ha.side
  have hcside := hc.candidate.side
  refine ⟨?_, ?_⟩
  · rcases hcsig with hcsig | ⟨rfl, rfl, -⟩
    · rwa [hcsig]
    · -- The candidate would be ten and the other neighbour nine.
      have hlast := (gridBelow_bounds (s := s) hm Nat.one_pos).2
      obtain ⟨hbelow, habove⟩ := distance_gridBelow (4 * (m * Nat.pow 2 s)) (gridExponent m s 1)
      obtain rfl : a = 9 := by omega
      have hnine : gridBelow (4 * (m * Nat.pow 2 s)) (gridExponent m s 1) = 9 := by omega
      rw [hnine] at hbelow habove
      have hboth := htie.trans hsame.symm
      rw [hbelow, habove] at hboth
      exact absurd (by linarith) (not_tie hm ha.mem)
  · rcases hasig with hasig | ⟨-, rfl, -⟩ <;> omega

end IsFirst

section Unique

variable {m s : Nat}

/-- The search finds the decimal that a positive double is written with. -/
theorem isShortest_shortest (h : Canonical m s) (hm : 0 < m) :
    (shortest m s).IsShortest (.finite false m s h) := by
  obtain ⟨n, c, hc, hshort⟩ := exists_isFirst h hm
  obtain ⟨hproper, hlen, -⟩ := hc.trimmed_spec hm hc.candidate.toIsNeighbour
  have hvalue := decimalQuarters_trimmed c (gridExponent m s n)
  rw [hshort]
  refine ⟨hproper, ?_, fun e he hread => ?_, fun e he hread heq => ?_, fun e he hread heq htie => ?_⟩
  · rw [isNearest_iff_mem h hm, hvalue]
    exact hc.candidate.mem
  · rw [isNearest_iff_mem h hm] at hread
    rw [hlen]
    exact hc.fewest e he hread
  · rw [isNearest_iff_mem h hm] at hread
    rw [abs_sub_le_iff_distance_le, distance, hvalue]
    exact (hc.nearest hm he (heq.trans hlen) hread).1
  · rw [isNearest_iff_mem h hm] at hread
    rw [abs_sub_eq_iff_distance_eq, distance, hvalue] at htie
    exact ((hc.nearest hm he (heq.trans hlen) hread).2 htie).imp_right And.left

/-- There is one decimal only that a positive double is written with. -/
theorem eq_shortest {d : Decimal} {h : Canonical m s} (hm : 0 < m)
    (hd : d.IsShortest (.finite false m s h)) :
    d = shortest m s := by
  obtain ⟨n, c, hc, hshort⟩ := exists_isFirst h hm
  obtain ⟨-, hlength, -⟩ := hc.trimmed_spec hm hc.candidate.toIsNeighbour
  have hvalue := decimalQuarters_trimmed c (gridExponent m s n)
  have hself := isShortest_shortest h hm
  rw [hshort] at hself ⊢
  have hlen := le_antisymm (hd.fewest _ hself.isProper hself.reads)
      (hself.fewest _ hd.isProper hd.reads)
  have htie := le_antisymm (hd.nearest _ hself.isProper hself.reads hlen.symm)
    (hself.nearest _ hd.isProper hd.reads hlen)
  have hboth := htie.symm
  rw [abs_sub_eq_iff_distance_eq, distance, hvalue] at hboth
  rcases (hc.nearest hm hd.isProper (hlen.trans hlength)
      ((isNearest_iff_mem h hm d).mp hd.reads)).2 hboth with
    heq | ⟨-, hodd⟩
  · exact heq
  · rcases hd.even _ hself.isProper hself.reads hlen.symm htie with heq | heven
    · exact heq.symm
    · omega

end Unique

end Double

end ScriptTree
