import Mathlib.Data.List.Induction
import ScriptTree.Proofs.Number.Shortest

namespace ScriptTree

namespace Text

theorem ofDigitValues_lt {ds : List Nat} (h : ∀ d ∈ ds, d < 10) :
    ofDigitValues 10 ds < 10 ^ ds.length := by
  induction ds using List.reverseRecOn with
  | nil => decide
  | append_singleton ds d ih =>
    have hd := h d (by simp)
    have hds := ih fun e he => h e (List.mem_append_left _ he)
    rw [ofDigitValues_append, ofDigitValues_singleton, List.length_append, List.length_singleton,
      Nat.pow_one, Nat.pow_succ]
    omega

theorem le_ofDigitValues_cons (d : Nat) (ds : List Nat) :
    d * 10 ^ ds.length ≤ ofDigitValues 10 (d :: ds) := by
  rw [← List.singleton_append, ofDigitValues_append, ofDigitValues_singleton]
  exact Nat.le_add_right _ _

/-- The digits of the number that digits without a leading zero write are these digits. -/
theorem decimalDigits_ofDigitValues {ds : List Nat} (h : ∀ d ∈ ds, d < 10)
    (hlead : ∃ first rest, ds = first :: rest ∧ 0 < first) :
      decimalDigits (ofDigitValues 10 ds) = ds := by
  induction ds using List.reverseRecOn with
  | nil =>
    obtain ⟨first, rest, hnil, -⟩ := hlead
    cases hnil
  | append_singleton ds d ih =>
    have hd := h d (by simp)
    cases ds with
    | nil => rw [List.nil_append, ofDigitValues_singleton, decimalDigits_of_lt hd]
    | cons first rest =>
      obtain ⟨_, _, hcons, hfirst⟩ := hlead
      obtain ⟨rfl, -⟩ := List.cons.inj hcons
      have hrest := ih (fun e he => h e (List.mem_append_left _ he)) ⟨first, rest, rfl, hfirst⟩
      have hpos : 0 < ofDigitValues 10 (first :: rest) :=
        (Nat.mul_pos hfirst (Nat.pow_pos (by decide))).trans_le (le_ofDigitValues_cons first rest)
      rw [ofDigitValues_append, ofDigitValues_singleton, List.length_singleton, Nat.pow_one,
        decimalDigits_of_le (by omega)]
      have hdiv : (ofDigitValues 10 (first :: rest) * 10 + d) / 10 =
          ofDigitValues 10 (first :: rest) := by omega
      have hmod : (ofDigitValues 10 (first :: rest) * 10 + d) % 10 = d := by omega
      rw [hdiv, hmod, hrest]

theorem ofNat_inj {a b : Nat} : ofNat a = ofNat b ↔ a = b := by
  refine ⟨fun h => ?_, congrArg ofNat⟩
  have hvalue (n : Nat) : decimalValue (ofNat n) = n :=
    (decimalValue_map_ofDigit fun _ => lt_ten_of_mem_decimalDigits).trans
      (ofDigitValues_decimalDigits n)
  rw [← hvalue a, h, hvalue]

end Text

namespace Decimal

/-- The number that a decimal writes. -/
def value (d : Decimal) : ℚ := d.significand * 10 ^ d.exponent

section Proper

variable {d e : Decimal}

theorem IsProper.length_pos (h : d.IsProper) : 0 < d.digits.length := by
  obtain ⟨first, rest, hd, -⟩ := h.leading
  simp [hd]

theorem IsProper.significand_lt (h : d.IsProper) : d.significand < 10 ^ d.digits.length :=
  Text.ofDigitValues_lt h.lt_ten

theorem IsProper.pow_le_significand (h : d.IsProper) : 10 ^ (d.digits.length - 1) ≤ d.significand := by
  obtain ⟨first, rest, hd, hfirst⟩ := h.leading
  rw [significand, hd, List.length_cons, Nat.add_sub_cancel]
  calc 10 ^ rest.length = 1 * 10 ^ rest.length := (Nat.one_mul _).symm
    _ ≤ first * 10 ^ rest.length := Nat.mul_le_mul_right _ hfirst
    _ ≤ Text.ofDigitValues 10 (first :: rest) := Text.le_ofDigitValues_cons first rest

theorem IsProper.digits_eq (h : d.IsProper) : Text.decimalDigits d.significand = d.digits :=
  Text.decimalDigits_ofDigitValues h.lt_ten h.leading

theorem IsProper.value_lt (h : d.IsProper) : d.value < 10 ^ d.point := by
  have hlt : (d.significand : ℚ) < 10 ^ d.digits.length := by exact_mod_cast h.significand_lt
  have hsplit : (10 : ℚ) ^ d.point = 10 ^ d.digits.length * 10 ^ d.exponent := by
    rw [← zpow_natCast, ← zpow_add₀ (by norm_num), exponent]
    congr 1
    omega
  rw [value, hsplit]
  exact mul_lt_mul_of_pos_right hlt (by positivity)

theorem IsProper.pow_le_value (h : d.IsProper) : 10 ^ (d.point - 1) ≤ d.value := by
  have hle : (10 : ℚ) ^ (d.digits.length - 1) ≤ d.significand := by exact_mod_cast h.pow_le_significand
  have hpos := h.length_pos
  have hsplit : (10 : ℚ) ^ (d.point - 1) = 10 ^ (d.digits.length - 1) * 10 ^ d.exponent := by
    rw [← zpow_natCast, ← zpow_add₀ (by norm_num), exponent]
    congr 1
    omega
  rw [value, hsplit]
  exact mul_le_mul_of_nonneg_right hle (by positivity)

/-- The greater of two decimals does not have the lesser point. -/
theorem IsProper.point_le (hd : d.IsProper) (he : e.IsProper) (h : d.value ≤ e.value) :
    d.point ≤ e.point := by
  have hlt := hd.pow_le_value.trans_lt (h.trans_lt he.value_lt)
  have := (zpow_lt_zpow_iff_right₀ (by norm_num : (1 : ℚ) < 10)).mp hlt
  omega

/-- Proper decimals with as many digits are one if they write one number. -/
theorem IsProper.ext_value (hd : d.IsProper) (he : e.IsProper)
    (hlen : d.digits.length = e.digits.length) (h : d.value = e.value) : d = e := by
  have hpoint : d.point = e.point := le_antisymm (hd.point_le he h.le) (he.point_le hd h.ge)
  have hexp : d.exponent = e.exponent := by rw [exponent, exponent, hlen, hpoint]
  have hsig : d.significand = e.significand := by
    rw [value, value, hexp] at h
    exact_mod_cast mul_right_cancel₀ (by positivity : (10 : ℚ) ^ e.exponent ≠ 0) h
  have hdigits : d.digits = e.digits := by rw [← hd.digits_eq, ← he.digits_eq, hsig]
  cases d
  cases e
  simp_all

end Proper

end Decimal

end ScriptTree
