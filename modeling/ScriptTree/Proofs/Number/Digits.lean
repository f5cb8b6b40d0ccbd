import Mathlib.Algebra.Group.Nat.Defs
import ScriptTree.Basic

namespace ScriptTree

namespace Text

theorem ofDigitValues_append (base : Nat) (ds es : List Nat) :
    ofDigitValues base (ds ++ es) =
      ofDigitValues base ds * base ^ es.length + ofDigitValues base es := by
  have hfold (n : Nat) : ∀ es : List Nat, es.foldl (fun n d => n * base + d) n =
      n * base ^ es.length + ofDigitValues base es := by
    intro es
    induction es generalizing n with
    | nil => simp [ofDigitValues]
    | cons e es ih =>
      have hfirst : ofDigitValues base (e :: es) = e * base ^ es.length + ofDigitValues base es := by
        simpa [ofDigitValues] using ih e
      rw [List.foldl_cons, ih, hfirst, List.length_cons, Nat.pow_succ, Nat.add_mul, Nat.mul_assoc,
        Nat.mul_comm base, Nat.add_assoc]
  rw [ofDigitValues, List.foldl_append]
  exact hfold _ es

theorem ofDigitValues_singleton (base d : Nat) : ofDigitValues base [d] = d := by
  simp [ofDigitValues]

theorem ofDigitValues_zeros (base n : Nat) : ofDigitValues base (List.replicate n 0) = 0 := by
  induction n with
  | zero => rfl
  | succ n ih =>
    rw [List.replicate_succ', ofDigitValues_append, ih, ofDigitValues_singleton, Nat.zero_mul]

theorem ofDigitValues_append_zeros (ds : List Nat) (n : Nat) :
    ofDigitValues 10 (ds ++ List.replicate n 0) = ofDigitValues 10 ds * 10 ^ n := by
  simp [ofDigitValues_append, ofDigitValues_zeros]

theorem ofDigitValues_zeros_append (ds : List Nat) (n : Nat) :
    ofDigitValues 10 (List.replicate n 0 ++ ds) = ofDigitValues 10 ds := by
  simp [ofDigitValues_append, ofDigitValues_zeros]

theorem decimalDigits_of_lt {n : Nat} (h : n < 10) : decimalDigits n = [n] := by
  rw [decimalDigits, if_pos h]

theorem decimalDigits_of_le {n : Nat} (h : 10 ≤ n) :
    decimalDigits n = decimalDigits (n / 10) ++ [n % 10] := by
  rw [decimalDigits, if_neg (by omega)]

theorem decimalDigits_ne_nil (n : Nat) : decimalDigits n ≠ [] := by
  rw [decimalDigits]
  split <;> simp

theorem lt_ten_of_mem_decimalDigits {n d : Nat} (h : d ∈ decimalDigits n) : d < 10 := by
  induction n using decimalDigits.induct with
  | case1 n hn =>
    rw [decimalDigits_of_lt hn, List.mem_singleton] at h
    omega
  | case2 n hn ih =>
    rw [decimalDigits_of_le (by omega)] at h
    rcases List.mem_append.mp h with h | h
    · exact ih h
    · rw [List.mem_singleton] at h
      omega

theorem ofDigitValues_decimalDigits (n : Nat) : ofDigitValues 10 (decimalDigits n) = n := by
  induction n using decimalDigits.induct with
  | case1 n hn => rw [decimalDigits_of_lt hn, ofDigitValues_singleton]
  | case2 n hn ih =>
    rw [decimalDigits_of_le (by omega), ofDigitValues_append, ih, ofDigitValues_singleton,
      List.length_singleton, Nat.pow_one]
    omega

/-- A number other than zero has no leading zero. -/
theorem head_decimalDigits_ne_zero {n : Nat} (h : 0 < n) : (decimalDigits n).head? ≠ some 0 := by
  induction n using decimalDigits.induct with
  | case1 n hn =>
    rw [decimalDigits_of_lt hn, List.head?_cons, ne_eq, Option.some.injEq]
    omega
  | case2 n hn ih =>
    rw [decimalDigits_of_le (by omega), List.head?_append]
    have hrest := ih (by omega)
    cases hd : (decimalDigits (n / 10)).head? with
    | none => exact absurd (List.head?_eq_none_iff.mp hd) (decimalDigits_ne_nil _)
    | some d => simpa [hd] using hrest

theorem lt_pow_length_decimalDigits (n : Nat) : n < 10 ^ (decimalDigits n).length := by
  induction n using decimalDigits.induct with
  | case1 n hn => simpa [decimalDigits_of_lt hn] using hn
  | case2 n hn ih =>
    rw [decimalDigits_of_le (by omega), List.length_append, List.length_singleton, Nat.pow_succ]
    omega

theorem pow_length_decimalDigits_le {n : Nat} (h : 0 < n) :
    10 ^ ((decimalDigits n).length - 1) ≤ n := by
  induction n using decimalDigits.induct with
  | case1 n hn =>
    rw [decimalDigits_of_lt hn]
    exact h
  | case2 n hn ih =>
    have hlen : 0 < (decimalDigits (n / 10)).length := List.length_pos_iff.mpr (decimalDigits_ne_nil _)
    have hpow : 10 ^ (decimalDigits (n / 10)).length =
        10 ^ ((decimalDigits (n / 10)).length - 1) * 10 := by
      rw [← Nat.pow_succ, Nat.succ_eq_add_one, Nat.sub_add_cancel hlen]
    have hrest := ih (by omega)
    rw [decimalDigits_of_le (by omega), List.length_append, List.length_singleton,
      Nat.add_sub_cancel, hpow]
    omega

theorem ofDigit_val {d : Nat} (h : d < 10) : (CodePoint.ofDigit d).val = 48 + d := by
  rw [CodePoint.ofDigit, if_pos h, CodePoint.val_ofNat (by omega)]

theorem isDigit_ofDigit {d : Nat} (h : d < 10) : (CodePoint.ofDigit d).isDigit = true := by
  simp [CodePoint.isDigit, ofDigit_val h]
  omega

theorem digitValue_ofDigit {d : Nat} (h : d < 10) : (CodePoint.ofDigit d).digitValue = d := by
  simp [CodePoint.digitValue, ofDigit_val h]

theorem isDigit_of_mem_map_ofDigit {ds : List Nat} (h : ∀ d ∈ ds, d < 10) :
    ∀ c ∈ ds.map CodePoint.ofDigit, c.isDigit = true := by
  intro c hc
  obtain ⟨d, hd, rfl⟩ := List.mem_map.mp hc
  exact isDigit_ofDigit (h d hd)

theorem decimalValue_map_ofDigit {ds : List Nat} (h : ∀ d ∈ ds, d < 10) :
    decimalValue (ds.map CodePoint.ofDigit) = ofDigitValues 10 ds := by
  have hmap : ds.map (CodePoint.digitValue ∘ CodePoint.ofDigit) = ds.map id :=
    List.map_congr_left fun d hd => digitValue_ofDigit (h d hd)
  rw [decimalValue, List.map_map, hmap, List.map_id]

theorem isDigit_of_mem_ofNat {n : Nat} : ∀ c ∈ ofNat n, c.isDigit = true :=
  isDigit_of_mem_map_ofDigit fun _ => lt_ten_of_mem_decimalDigits

end Text

end ScriptTree
