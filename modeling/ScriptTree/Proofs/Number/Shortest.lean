import Mathlib.Data.List.TakeWhile
import ScriptTree.Proofs.Number.Interval

namespace ScriptTree

/-- Digits of a positive number, the first of them not zero. -/
structure Decimal.IsProper (d : Decimal) : Prop where
  lt_ten : ∀ x ∈ d.digits, x < 10
  leading : ∃ first rest, d.digits = first :: rest ∧ 0 < first

/-- The number written by the digits. -/
def Decimal.significand (d : Decimal) : Nat := Text.ofDigitValues 10 d.digits

/-- The power of ten that the last digit counts. -/
def Decimal.exponent (d : Decimal) : Int := d.point - d.digits.length

namespace Double

theorem holds_of_gridCandidate {i : Interval} {quarters c : Nat} {k : Int}
    (h : gridCandidate i quarters k = some c) : i.holds c k = true ∧ 0 < c := by
  simp only [gridCandidate] at h
  split at h
  next hb ha =>
    rw [Bool.and_eq_true, decide_eq_true_eq] at hb
    split at h
    next => cases Option.some.inj h; exact hb
    next =>
      split at h
      next => cases Option.some.inj h; exact ⟨ha, Nat.succ_pos _⟩
      next =>
        split at h
        next => cases Option.some.inj h; exact hb
        next => cases Option.some.inj h; exact ⟨ha, Nat.succ_pos _⟩
  next hb _ =>
    rw [Bool.and_eq_true, decide_eq_true_eq] at hb
    cases Option.some.inj h
    exact hb
  next _ ha => cases Option.some.inj h; exact ⟨ha, Nat.succ_pos _⟩
  next => simp at h

theorem holds_of_gridCandidate_eq_none {i : Interval} {quarters c : Nat} {k : Int}
    (hc : (crossed 1 k quarters).2 / (crossed 1 k quarters).1 = c)
    (h : gridCandidate i quarters k = none) :
    (0 < c → i.holds c k = false) ∧ i.holds (c + 1) k = false := by
  simp only [gridCandidate, hc] at h
  split at h
  next =>
    split at h
    next => cases h
    next =>
      split at h
      next => cases h
      next => split at h <;> cases h
  next => cases h
  next => cases h
  next hb ha =>
    refine ⟨fun hpos => ?_, ha⟩
    rw [decide_eq_true hpos, Bool.and_true] at hb
    exact hb

/-- The number of whole steps `10 ^ k` in some quarters of a unit. -/
def gridBelow (quarters : Nat) (k : Int) : Nat := (crossed 1 k quarters).2 / (crossed 1 k quarters).1

theorem crossed_one_pos (k : Int) (b : Nat) : 0 < (crossed 1 k b).1 := by
  rw [crossed_fst]
  exact Nat.mul_pos (by simp) (Nat.mul_pos (by decide) unitsPerOne_pos)

theorem crossed_fst_eq (c : Nat) (k : Int) (b : Nat) : (crossed c k b).1 = c * (crossed 1 k b).1 := by
  rw [crossed_fst, crossed_fst, Nat.one_mul, Nat.mul_assoc]

theorem crossed_snd_eq (c : Nat) (k : Int) (b : Nat) : (crossed c k b).2 = (crossed 1 k b).2 := by
  rw [crossed_snd, crossed_snd]

/-- The value lies between two neighbours on the grid. -/
theorem gridBelow_spec (quarters : Nat) (k : Int) :
    decimalQuarters (gridBelow quarters k) k ≤ quarters ∧
      (quarters : ℚ) < decimalQuarters (gridBelow quarters k + 1) k := by
  constructor
  · rw [decimalQuarters_le_iff, crossed_fst_eq, crossed_snd_eq]
    exact Nat.div_mul_le_self _ _
  · rw [← not_le, decimalQuarters_le_iff, crossed_fst_eq, crossed_snd_eq, not_le]
    exact Nat.lt_mul_of_div_lt (Nat.lt_succ_self _) (crossed_one_pos k quarters)

/-- Without a candidate both neighbours of the value on the grid are outside of the interval. -/
theorem not_mem_of_gridCandidate_eq_none {i : Interval} {quarters : Nat} {k : Int}
    (h : gridCandidate i quarters k = none) :
    (0 < gridBelow quarters k → ¬ i.Mem (decimalQuarters (gridBelow quarters k) k)) ∧
      ¬ i.Mem (decimalQuarters (gridBelow quarters k + 1) k) := by
  obtain ⟨hbelow, habove⟩ := holds_of_gridCandidate_eq_none rfl h
  rw [← Interval.holds_iff_mem, ← Interval.holds_iff_mem]
  exact ⟨fun hpos => by rw [gridBelow, hbelow hpos]; simp, by rw [gridBelow, habove]; simp⟩

theorem decimalQuarters_succ (c : Nat) (k : Int) :
    decimalQuarters (c + 1) k = decimalQuarters c k + decimalQuarters 1 k := by
  simp only [decimalQuarters]
  push_cast
  ring

theorem decimalQuarters_one_pos (k : Int) : 0 < decimalQuarters 1 k := by
  have hunits : (0 : ℚ) < unitsPerOne := Nat.cast_pos.mpr unitsPerOne_pos
  have hpow : (0 : ℚ) < 10 ^ k := by positivity
  rw [decimalQuarters, Nat.cast_one, one_mul]
  exact mul_pos hpow (by linarith)

/-- A grid that is finer than the value and than the interval has a candidate. -/
theorem gridCandidate_ne_none {m s : Nat} {k : Int} (hm : 0 < m)
    (hvalue : decimalQuarters 1 k ≤ ((4 * (m * Nat.pow 2 s) : ℕ) : ℚ))
    (hwidth : decimalQuarters 1 k < gapBelow m s + 2 * Nat.pow 2 s) :
    gridCandidate (interval m s) (4 * (m * Nat.pow 2 s)) k ≠ none := by
  intro hnone
  obtain ⟨hbelow, habove⟩ := not_mem_of_gridCandidate_eq_none hnone
  obtain ⟨hle, hlt⟩ := gridBelow_spec (4 * (m * Nat.pow 2 s)) k
  generalize gridBelow (4 * (m * Nat.pow 2 s)) k = c at hbelow habove hle hlt
  have hpos := decimalQuarters_one_pos k
  have hpow : (0 : ℚ) < Nat.pow 2 s := by exact_mod_cast Nat.pow_pos (by decide : 0 < 2)
  have hgap : (0 : ℚ) < gapBelow m s := by
    rw [gapBelow]
    split
    · exact hpow
    · push_cast
      linarith
  rw [decimalQuarters_succ] at hlt habove
  have hc : 0 < c := by
    rcases Nat.eq_zero_or_pos c with rfl | hc
    · have hzero : decimalQuarters 0 k = 0 := by rw [decimalQuarters, Nat.cast_zero, zero_mul, zero_mul]
      rw [hzero] at hlt
      linarith
    · exact hc
  have hlow : decimalQuarters c k + gapBelow m s ≤ ((4 * (m * Nat.pow 2 s) : ℕ) : ℚ) := by
    by_contra hnot
    apply hbelow hc
    rw [mem_interval_iff hm]
    push_cast at *
    exact ⟨by linarith, by linarith, fun _ => ⟨by linarith, by linarith⟩⟩
  have hhigh : ((4 * (m * Nat.pow 2 s) + 2 * Nat.pow 2 s : ℕ) : ℚ) ≤
      decimalQuarters c k + decimalQuarters 1 k := by
    by_contra hnot
    apply habove
    rw [mem_interval_iff hm]
    push_cast at *
    exact ⟨by linarith, by linarith, fun _ => ⟨by linarith, by linarith⟩⟩
  push_cast at *
  linarith

theorem leadingZeros_spec {num den : Nat} (fuel : Nat) (h : den ≤ 10 ^ fuel * num) :
    den ≤ 10 ^ (leadingZeros fuel num den + 1) * num := by
  induction fuel generalizing num with
  | zero =>
    simp only [leadingZeros]
    omega
  | succ fuel ih =>
    rw [leadingZeros]
    split
    next hle => simpa using hle
    next hlt =>
      rw [Nat.pow_succ, Nat.mul_assoc] at h ⊢
      exact ih h

/-- The position of the first digit is not too far to the left. -/
theorem pow_decimalPoint_le {units : Nat} (h : 0 < units) :
    (10 : ℚ) ^ (decimalPoint units - 1) * unitsPerOne ≤ units := by
  unfold decimalPoint
  split
  next hle =>
    have hq : 0 < units / unitsPerOne := Nat.div_pos hle unitsPerOne_pos
    have hpow := Text.pow_length_decimalDigits_le hq
    have hlen : 0 < (Text.decimalDigits (units / unitsPerOne)).length :=
      List.length_pos_iff.mpr (Text.decimalDigits_ne_nil _)
    have hsub : ((Text.decimalDigits (units / unitsPerOne)).length : Int) - 1 =
        ((Text.decimalDigits (units / unitsPerOne)).length - 1 : ℕ) := by omega
    have hnat := (Nat.mul_le_mul_right unitsPerOne hpow).trans (Nat.div_mul_le_self units unitsPerOne)
    rw [hsub, zpow_natCast]
    exact_mod_cast hnat
  next hlt =>
    have hfuel : unitsPerOne ≤ 10 ^ 330 * units := by
      have hconst : unitsPerOne ≤ 10 ^ 330 * 1 := by decide +kernel
      exact hconst.trans (Nat.mul_le_mul_left _ h)
    have hspec := leadingZeros_spec 330 hfuel
    have hexp : -(leadingZeros 330 units unitsPerOne : Int) - 1 =
        -((leadingZeros 330 units unitsPerOne + 1 : ℕ) : Int) := by omega
    rw [hexp, zpow_neg, zpow_natCast, inv_mul_le_iff₀ (by positivity)]
    exact_mod_cast hspec

theorem decimalQuarters_seventeenth {m s : Nat} (hm : 0 < m) :
    decimalQuarters 1 (decimalPoint (m * Nat.pow 2 s) - 17) * 10 ^ 16 ≤
      ((4 * (m * Nat.pow 2 s) : ℕ) : ℚ) := by
  have hpow : 0 < Nat.pow 2 s := Nat.pow_pos (by decide)
  have hpoint := pow_decimalPoint_le (Nat.mul_pos hm hpow)
  generalize decimalPoint (m * Nat.pow 2 s) = point at hpoint ⊢
  have hsplit : (10 : ℚ) ^ (point - 17) * 10 ^ 16 = 10 ^ (point - 1) := by
    rw [← zpow_natCast, ← zpow_add₀ (by norm_num)]
    congr 1
    omega
  calc decimalQuarters 1 (point - 17) * 10 ^ 16
      = ((10 : ℚ) ^ (point - 17) * 10 ^ 16) * unitsPerOne * 4 := by
        rw [decimalQuarters, Nat.cast_one]; ring
    _ = (10 : ℚ) ^ (point - 1) * unitsPerOne * 4 := by rw [hsplit]
    _ ≤ ((m * Nat.pow 2 s : ℕ) : ℚ) * 4 := by linarith
    _ = ((4 * (m * Nat.pow 2 s) : ℕ) : ℚ) := by push_cast; ring

/-- Seventeen digits always suffice. -/
theorem gridCandidate_seventeen_ne_none {m s : Nat} (h : Canonical m s) (hm : 0 < m) :
    gridCandidate (interval m s) (4 * (m * Nat.pow 2 s))
      (decimalPoint (m * Nat.pow 2 s) - 17) ≠ none := by
  have hstep := decimalQuarters_seventeenth (s := s) hm
  have hpos := decimalQuarters_one_pos (decimalPoint (m * Nat.pow 2 s) - 17)
  have hpow : (0 : ℚ) < Nat.pow 2 s := by exact_mod_cast Nat.pow_pos (by decide : 0 < 2)
  have hbound : (m : ℚ) < 10 ^ 16 := by
    have hlt := h.1
    have hnat : m < 10 ^ 16 := by
      simp only [Nat.pow_eq] at hlt
      omega
    exact_mod_cast hnat
  apply gridCandidate_ne_none hm
  · linarith
  · rw [gapBelow]
    split
    next hfirst =>
      have hm' : (m : ℚ) = 2 ^ 52 := by exact_mod_cast hfirst.1
      push_cast [hm'] at hstep
      nlinarith
    next =>
      have hprod := mul_lt_mul_of_pos_right hbound hpow
      push_cast at hstep ⊢
      nlinarith

/-- A number on the grid of step `10 ^ k`, written without the zeros at its end. -/
def trimmed (c : Nat) (k : Int) : Decimal :=
  { digits := trimZeros (Text.decimalDigits c), point := k + (Text.decimalDigits c).length }

/-- The search stops at the first grid with a candidate. -/
theorem exists_first_candidate {m s : Nat} (h : Canonical m s) (hm : 0 < m) :
    ∃ n c, gridCandidate (interval m s) (4 * (m * Nat.pow 2 s))
      (decimalPoint (m * Nat.pow 2 s) - (n + 1 : ℕ)) =
        some c ∧
      (∀ j < n, gridCandidate (interval m s) (4 * (m * Nat.pow 2 s))
        (decimalPoint (m * Nat.pow 2 s) - (j + 1 : ℕ)) = none) ∧
      shortest m s = trimmed c (decimalPoint (m * Nat.pow 2 s) - (n + 1 : ℕ)) := by
  simp only [shortest]
  split
  next c n hfound =>
    obtain ⟨before, j, after, hsplit, hj, hbefore⟩ := List.findSome?_eq_some_iff.mp hfound
    obtain ⟨d, hd, hpair⟩ := Option.map_eq_some_iff.mp hj
    cases hpair
    refine ⟨j, c, hd, fun k hk => ?_, by push_cast; rfl⟩
    have hsorted : (List.range 17).Pairwise (· < ·) := List.pairwise_lt_range
    rw [hsplit, List.pairwise_append, List.pairwise_cons] at hsorted
    have hj : j ∈ List.range 17 := hsplit ▸ List.mem_append_right before List.mem_cons_self
    have hk' : k ∈ before ++ j :: after := by
      rw [← hsplit, List.mem_range]
      exact hk.trans (List.mem_range.mp hj)
    rcases List.mem_append.mp hk' with hmem | hmem
    · exact Option.map_eq_none_iff.mp (hbefore k hmem)
    · rcases List.mem_cons.mp hmem with rfl | hmem
      · exact absurd hk (Nat.lt_irrefl _)
      · exact absurd hk (Nat.lt_asymm (hsorted.2.1.1 k hmem))
  next hnone =>
    have hlast := List.findSome?_eq_none_iff.mp hnone 16 (by decide)
    rw [Option.map_eq_none_iff] at hlast
    exact absurd hlast (gridCandidate_seventeen_ne_none h hm)

theorem exists_trimZeros_append (ds : List Nat) : ∃ n, ds = trimZeros ds ++ List.replicate n 0 := by
  have hzeros : ∀ d ∈ ds.reverse.takeWhile (· = 0), d = 0 := by
    intro d hd
    simpa using List.mem_takeWhile_imp hd
  refine ⟨(ds.reverse.takeWhile (· = 0)).length, ?_⟩
  have hsplit := congrArg List.reverse
      (List.takeWhile_append_dropWhile (p := (· = 0)) (l := ds.reverse))
  rw [List.reverse_append, List.reverse_reverse, List.eq_replicate_of_mem hzeros,
    List.reverse_replicate] at hsplit
  exact hsplit.symm

theorem trimmed_spec (c : Nat) (k : Int) :
    ∃ n : Nat, c = (trimmed c k).significand * 10 ^ n ∧ (trimmed c k).exponent = k + n ∧
      (Text.decimalDigits c).length = (trimmed c k).digits.length + n := by
  obtain ⟨n, hn⟩ := exists_trimZeros_append (Text.decimalDigits c)
  have hlen : (Text.decimalDigits c).length = (trimZeros (Text.decimalDigits c)).length + n := by
    conv_lhs => rw [hn]
    rw [List.length_append, List.length_replicate]
  refine ⟨n, ?_, ?_, hlen⟩
  · rw [Decimal.significand, trimmed, ← Text.ofDigitValues_append_zeros, ← hn,
      Text.ofDigitValues_decimalDigits]
  · show k + (Text.decimalDigits c).length - (trimZeros (Text.decimalDigits c)).length = k + n
    omega

theorem isProper_trimmed {c : Nat} (hc : 0 < c) (k : Int) : (trimmed c k).IsProper := by
  obtain ⟨n, hn⟩ := exists_trimZeros_append (Text.decimalDigits c)
  have hhead := Text.head_decimalDigits_ne_zero hc
  constructor
  · intro x hx
    apply Text.lt_ten_of_mem_decimalDigits (n := c)
    rw [hn]
    exact List.mem_append_left _ hx
  · show ∃ first rest, trimZeros (Text.decimalDigits c) = first :: rest ∧ 0 < first
    generalize trimZeros (Text.decimalDigits c) = ds at hn
    cases ds with
    | nil =>
      cases n with
      | zero => exact absurd hn (Text.decimalDigits_ne_nil c)
      | succ n => simp [hn, List.replicate_succ] at hhead
    | cons first rest =>
      refine ⟨first, rest, rfl, ?_⟩
      rw [hn, List.cons_append, List.head?_cons, ne_eq, Option.some.injEq] at hhead
      omega

theorem decimalQuarters_trimmed (c : Nat) (k : Int) :
    decimalQuarters (trimmed c k).significand (trimmed c k).exponent = decimalQuarters c k := by
  obtain ⟨n, hc, hexp, -⟩ := trimmed_spec c k
  rw [hexp, ← decimalQuarters_mul_pow, ← hc]

/-- The shortest decimal of a positive double is proper and lies in its rounding interval. -/
theorem shortest_spec {m s : Nat} (h : Canonical m s) (hm : 0 < m) :
    (shortest m s).IsProper ∧
      (interval m s).Mem (decimalQuarters (shortest m s).significand (shortest m s).exponent) := by
  obtain ⟨n, c, hcandidate, -, hshort⟩ := exists_first_candidate h hm
  obtain ⟨hholds, hc⟩ := holds_of_gridCandidate hcandidate
  rw [hshort]
  refine ⟨isProper_trimmed hc _, ?_⟩
  rw [decimalQuarters_trimmed]
  exact (Interval.holds_iff_mem _ _ _).mp hholds

end Double

end ScriptTree
