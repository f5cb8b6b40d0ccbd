import ScriptTree.Proofs.Number.Integral
import ScriptTree.Tree.Encode

namespace ScriptTree

namespace Scalar

/-- The number that an integer or a finite double denotes. -/
def value? : Scalar → Option ℚ
  | int i => some i
  | float x => if x.isFinite then some x.value else none
  | _ => none

theorem value?_int (i : Int) : (int i).value? = some (i : ℚ) := rfl

theorem value?_float {x : Double} (h : x.isFinite = true) : (float x).value? = some x.value := if_pos h

end Scalar

namespace Double

/-- A whole number is the value of its integer part. -/
theorem value_eq_truncate {x : Double} (h : x.isInteger = true) : x.value = x.truncate := by
  obtain ⟨-, hmod⟩ := Bool.and_eq_true_iff.mp h
  have hdiv : (x.units : ℤ) / unitsPerOne * unitsPerOne = x.units := by
    exact_mod_cast Nat.div_mul_cancel (Nat.dvd_of_mod_eq_zero (of_decide_eq_true hmod))
  rw [value_eq_intCast_iff, signedUnits, truncate]
  split
  · rw [Int.neg_mul, hdiv]
  · rw [hdiv]

theorem isInteger_of_value_eq {x : Double} {i : Int} (hx : x.isFinite = true) (h : x.value = i) :
    x.isInteger = true := by
  have hunits : x.units = i.natAbs * unitsPerOne := by
    rw [← natAbs_signedUnits, value_eq_intCast_iff.mp h, Int.natAbs_mul, Int.natAbs_natCast]
  rw [isInteger, hx, hunits, Nat.mul_mod_left]
  rfl

theorem truncate_of_value_eq {x : Double} {i : Int} (hx : x.isFinite = true) (h : x.value = i) :
    x.truncate = i := by
  rw [value_eq_truncate (isInteger_of_value_eq hx h), Int.cast_inj] at h
  exact h

end Double

namespace Value

section Scalars

variable {s t : Scalar} {p q p' q' : ℚ}

theorem encodeInt_of_lt {i : Int} (h : i.natAbs < plainBound) : encodeInt i = .int i := if_pos h

theorem encodeInt_of_le {i : Int} (h : plainBound ≤ i.natAbs) :
    encodeInt i = if (Double.ofInt i).isFinite then .float (Double.ofInt i) else .null :=
  if_neg (Nat.not_lt.mpr h)

theorem encodeFloat_of_not_isFinite {x : Double} (h : x.isFinite = false) : encodeFloat x = .null := by
  rw [encodeFloat, h]
  rfl

theorem encodeFloat_of_lt {x : Double} (h : x.isInteger = true) (hlt : x.truncate.natAbs < plainBound) :
    encodeFloat x = .int x.truncate := by
  have hfinite : x.isFinite = true := (Bool.and_eq_true_iff.mp h).1
  rw [encodeFloat, hfinite, h, decide_eq_true hlt]
  rfl

theorem encodeFloat_of_not {x : Double} (hfinite : x.isFinite = true)
    (h : ¬ (x.isInteger = true ∧ x.truncate.natAbs < plainBound)) : encodeFloat x = .float x := by
  have hcond : ¬ (x.isInteger && decide (x.truncate.natAbs < plainBound)) = true := by
    rw [Bool.and_eq_true, decide_eq_true_eq]
    exact h
  rw [encodeFloat, hfinite, if_neg hcond]
  rfl

/-- What a scalar of a given value is encoded as. -/
inductive EncodesNumber : Scalar → ℚ → Scalar → Prop where
  | plain {s : Scalar} {i : Int} : i.natAbs < plainBound → EncodesNumber s i (.int i)
  | same {x : Double} : x.isFinite = true → (∀ i : Int, x.value = i → plainBound ≤ i.natAbs) →
    EncodesNumber (.float x) x.value (.float x)
  | nearest {i : Int} {y : Double} : plainBound ≤ i.natAbs →
      y.IsNearest i → EncodesNumber (.int i) i (.float y)
  | overflow {i : Int} : Double.overflowBound ≤ i.natAbs → EncodesNumber (.int i) i .null

theorem encodesNumber_encodeScalar (h : s.value? = some q) : EncodesNumber s q (encodeScalar s) := by
  cases s with
  | null => cases h
  | bool b => cases h
  | str t => cases h
  | int i =>
    obtain rfl : (i : ℚ) = q := Option.some.inj h
    rw [encodeScalar]
    rcases Nat.lt_or_ge i.natAbs plainBound with hlt | hle
    · rw [encodeInt_of_lt hlt]
      exact .plain hlt
    · have hi : i ≠ 0 := by
        rintro rfl
        exact absurd hle (by decide)
      rw [encodeInt_of_le hle]
      rcases Double.ofInt_cases hi with hnear | ⟨hlarge, heq⟩
      · rw [if_pos hnear.isFinite]
        exact .nearest hle hnear
      · rw [heq]
        exact .overflow hlarge
  | float x =>
    rw [encodeScalar]
    cases hx : x.isFinite with
    | false =>
      rw [Scalar.value?, hx] at h
      cases h
    | true =>
      rw [Scalar.value?_float hx] at h
      obtain rfl := Option.some.inj h
      by_cases hsmall : x.isInteger = true ∧ x.truncate.natAbs < plainBound
      · rw [encodeFloat_of_lt hsmall.1 hsmall.2, Double.value_eq_truncate hsmall.1]
        exact .plain hsmall.2
      · rw [encodeFloat_of_not hx hsmall]
        refine .same hx fun i hi => Nat.not_lt.mp fun hlt =>
          hsmall ⟨Double.isInteger_of_value_eq hx hi, ?_⟩
        rwa [Double.truncate_of_value_eq hx hi]

/-- The bound from which on integers are written as doubles is a double. -/
theorem exists_value_eq_plainBound : ∃ c : Double, c.isFinite = true ∧ c.value = plainBound := by
  refine ⟨.finite false (Nat.pow 5 21 * 16) 1091 (by decide), rfl, ?_⟩
  rw [← Int.cast_natCast, Double.value_eq_intCast_iff]
  decide +kernel

/-- What an integer from the bound on is rounded to is not below the bound either. -/
theorem plainBound_le_abs_value {i : Int} {y : Double} (hi : plainBound ≤ i.natAbs)
    (hy : y.IsNearest i) :
    (0 ≤ i → (plainBound : ℚ) ≤ y.value) ∧ (i ≤ 0 → y.value ≤ -(plainBound : ℚ)) := by
  obtain ⟨c, hc, hbound⟩ := exists_value_eq_plainBound
  refine ⟨fun hpos => ?_, fun hneg => ?_⟩
  · rw [← hbound]
    apply hy.le_value hc
    rw [hbound, ← Int.cast_natCast, Int.cast_le]
    omega
  · rw [← hbound, ← Double.value_negate]
    apply hy.value_le (by rw [Double.isFinite_negate, hc])
    rw [Double.value_negate, hbound, ← Int.cast_natCast, ← Int.cast_neg, Int.cast_le]
    omega

/-- An encoding either keeps the value or is the nearest double of a large integer. -/
theorem EncodesNumber.value_cases {s' : Scalar} (h : EncodesNumber s p s') (hp : s'.value? = some p') :
    (p' = p ∧ ((∃ x : Double, x.isFinite = true ∧ x.value = p) ∨ |p| < plainBound)) ∨
      ∃ (i : Int) (y : Double), p = i ∧ plainBound ≤ i.natAbs ∧ y.IsNearest i ∧ p' = y.value := by
  cases h with
  | overflow => cases hp
  | plain hi =>
    refine Or.inl ⟨(Option.some.inj hp).symm, Or.inr ?_⟩
    rwa [← Int.cast_abs, ← Nat.cast_natAbs, Nat.cast_lt]
  | same hx =>
    rw [Scalar.value?_float hx] at hp
    exact Or.inl ⟨(Option.some.inj hp).symm, Or.inl ⟨_, hx, rfl⟩⟩
  | nearest hi hy =>
    rw [Scalar.value?_float hy.isFinite] at hp
    exact Or.inr ⟨_, _, rfl, hi, hy, (Option.some.inj hp).symm⟩

/-- The order of numbers is that of what they are encoded as. -/
theorem EncodesNumber.mono {s' t' : Scalar} (hs : EncodesNumber s p s')
    (ht : EncodesNumber t q t') (hlt : p < q)
    (hp : s'.value? = some p') (hq : t'.value? = some q') : p' ≤ q' := by
  rcases hs.value_cases hp with ⟨rfl, hsmall⟩ | ⟨i, x, rfl, hi, hx, rfl⟩
  · rcases ht.value_cases hq with ⟨rfl, -⟩ | ⟨j, y, rfl, hj, hy, rfl⟩
    · exact hlt.le
    · rcases hsmall with ⟨x, hx, rfl⟩ | hsmall
      · exact hy.le_value hx hlt.le
      · -- The bound lies between the two numbers.
        obtain ⟨hlow, hhigh⟩ := abs_lt.mp hsmall
        have hpos : 0 ≤ j := by
          have hless : -((plainBound : ℕ) : ℤ) < j := by exact_mod_cast hlow.trans hlt
          omega
        exact hhigh.le.trans ((plainBound_le_abs_value hj hy).1 hpos)
  · rcases ht.value_cases hq with ⟨rfl, hsmall⟩ | ⟨j, y, rfl, hj, hy, rfl⟩
    · rcases hsmall with ⟨y, hy, rfl⟩ | hsmall
      · exact hx.value_le hy hlt.le
      · obtain ⟨hlow, hhigh⟩ := abs_lt.mp hsmall
        have hneg : i ≤ 0 := by
          have hless : i < ((plainBound : ℕ) : ℤ) := by exact_mod_cast hlt.trans hhigh
          omega
        exact ((plainBound_le_abs_value hi hx).2 hneg).trans hlow.le
    · exact hx.mono hy hlt

theorem encodeFloat_of_value_eq {x : Double} {i : Int} (hx : x.isFinite = true) (h : x.value = i) :
    encodeFloat x = encodeInt i := by
  have hwhole := Double.isInteger_of_value_eq hx h
  have htrunc := Double.truncate_of_value_eq hx h
  rcases Nat.lt_or_ge i.natAbs plainBound with hlt | hle
  · rw [encodeInt_of_lt hlt, encodeFloat_of_lt hwhole (htrunc ▸ hlt), htrunc]
  · have hi : i ≠ 0 := by
      rintro rfl
      exact absurd hle (by decide)
    rw [encodeInt_of_le hle, Double.ofInt_of_value_eq hx hi h, if_pos hx]
    exact encodeFloat_of_not hx fun hsmall => absurd hsmall.2 (by rw [htrunc]; exact Nat.not_lt.mpr hle)

/-- Numbers of one value are encoded alike. -/
theorem encodeScalar_eq_of_value_eq (hs : s.value? = some q) (ht : t.value? = some q) :
    encodeScalar s = encodeScalar t := by
  have hfloat {x : Double} {r : ℚ} (h : (Scalar.float x).value? = some r) :
      x.isFinite = true ∧ x.value = r := by
    cases hx : x.isFinite with
    | false => simp [Scalar.value?, hx] at h
    | true => exact ⟨rfl, Option.some.inj ((Scalar.value?_float hx).symm.trans h)⟩
  cases s with
  | null => cases hs
  | bool b => cases hs
  | str u => cases hs
  | int i =>
    obtain rfl : (i : ℚ) = q := Option.some.inj hs
    cases t with
    | null => cases ht
    | bool b => cases ht
    | str u => cases ht
    | int j =>
      obtain rfl : j = i := Int.cast_inj.mp (Option.some.inj ht)
      rfl
    | float y =>
      obtain ⟨hy, hvalue⟩ := hfloat ht
      exact (encodeFloat_of_value_eq hy hvalue).symm
  | float x =>
    obtain ⟨hx, rfl⟩ := hfloat hs
    cases t with
    | null => cases ht
    | bool b => cases ht
    | str u => cases ht
    | int j => exact encodeFloat_of_value_eq hx (Option.some.inj ht).symm
    | float y =>
      obtain ⟨hy, hvalue⟩ := hfloat ht
      by_cases hzero : x.value = 0
      · -- The two zeros differ as doubles, but both are the integer zero.
        have hx0 : x.value = (0 : Int) := by rw [hzero, Int.cast_zero]
        exact (encodeFloat_of_value_eq hx hx0).trans
          (encodeFloat_of_value_eq hy (hvalue.trans hx0)).symm
      · rw [Double.eq_of_value_eq hx hy hzero hvalue.symm]

/-- The order of values is kept, also where two of them are equal. -/
theorem encodeScalar_mono (hs : s.value? = some p) (ht : t.value? = some q) (hle : p ≤ q)
    (hp : (encodeScalar s).value? = some p') (hq : (encodeScalar t).value? = some q') : p' ≤ q' := by
  rcases hle.eq_or_lt with rfl | hlt
  · rw [encodeScalar_eq_of_value_eq hs ht] at hp
    exact (Option.some.inj (hp.symm.trans hq)).le
  · exact (encodesNumber_encodeScalar hs).mono (encodesNumber_encodeScalar ht) hlt hp hq

theorem encodeFloat_of_large {x : Double} (hx : x.isFinite = true)
    (hlarge : ∀ i : Int, x.value = i → plainBound ≤ i.natAbs) : encodeFloat x = .float x :=
  encodeFloat_of_not hx fun h => absurd h.2 (Nat.not_lt.mpr (hlarge _ (Double.value_eq_truncate h.1)))

/-- The nearest double of a large integer is not turned back into an integer. -/
theorem encodeFloat_of_isNearest {i : Int} {y : Double} (hi : plainBound ≤ i.natAbs)
    (hy : y.IsNearest i) :
    encodeFloat y = .float y := by
  obtain ⟨hpos, hneg⟩ := plainBound_le_abs_value hi hy
  refine encodeFloat_of_large hy.isFinite fun j hj => ?_
  rw [hj] at hpos hneg
  rcases Int.le_total 0 i with h | h
  · have hle : ((plainBound : ℕ) : ℤ) ≤ j := by exact_mod_cast hpos h
    omega
  · have hle : j ≤ -((plainBound : ℕ) : ℤ) := by exact_mod_cast hneg h
    omega

/-- Encoding an encoding changes nothing. -/
theorem encodeScalar_encodeScalar (s : Scalar) : encodeScalar (encodeScalar s) = encodeScalar s := by
  cases hs : s.value? with
  | some q =>
    have h := encodesNumber_encodeScalar hs
    generalize encodeScalar s = s' at h ⊢
    cases h with
    | plain hi => exact encodeInt_of_lt hi
    | same hx hlarge => exact encodeFloat_of_large hx hlarge
    | nearest hi hy => exact encodeFloat_of_isNearest hi hy
    | overflow _ => rfl
  | none =>
    cases s with
    | null => rfl
    | bool b => rfl
    | str t => rfl
    | int i => cases hs
    | float x =>
      cases hx : x.isFinite with
      | true => rw [Scalar.value?_float hx] at hs; cases hs
      | false =>
        rw [encodeScalar, encodeFloat_of_not_isFinite hx]
        rfl

theorem plainBound_le_overflowBound : plainBound ≤ Double.overflowBound := by
  decide +kernel

/-- Only what is out of range is encoded as null. -/
theorem encodeScalar_eq_null_iff (hs : s.value? = some q) :
    encodeScalar s = .null ↔ (Double.overflowBound : ℚ) ≤ |q| := by
  have h := encodesNumber_encodeScalar hs
  have habs (i : Int) : (Double.overflowBound : ℚ) ≤ |(i : ℚ)| ↔ Double.overflowBound ≤ i.natAbs := by
    rw [← Int.cast_abs, ← Nat.cast_natAbs, Nat.cast_le]
  generalize encodeScalar s = s' at h ⊢
  cases h with
  | plain hi =>
    rw [habs]
    exact iff_of_false (by simp) (Nat.not_le.mpr (hi.trans_le plainBound_le_overflowBound))
  | same hx _ => exact iff_of_false (by simp) (not_le.mpr (Double.abs_value_lt hx))
  | nearest _ hy => exact iff_of_false (by simp) (not_le.mpr hy.inRange)
  | overflow hi => exact iff_of_true rfl ((habs _).mpr hi)

theorem encodeInt_eq_null_iff (i : Int) : encodeInt i = .null ↔ Double.overflowBound ≤ i.natAbs := by
  have h := encodeScalar_eq_null_iff (Scalar.value?_int i)
  rwa [← Int.cast_abs, ← Nat.cast_natAbs, Nat.cast_le] at h

theorem encodeFloat_eq_null_iff (x : Double) : encodeFloat x = .null ↔ x.isFinite = false := by
  cases hx : x.isFinite with
  | false => exact iff_of_true (encodeFloat_of_not_isFinite hx) rfl
  | true =>
    have h := encodeScalar_eq_null_iff (Scalar.value?_float hx)
    exact iff_of_false (h.not.mpr (not_le.mpr (Double.abs_value_lt hx))) (by simp)

theorem encodeScalar_of_small {i : Int} (hs : s.value? = some (i : ℚ)) (hi : i.natAbs < plainBound) :
    encodeScalar s = .int i :=
  (encodeScalar_eq_of_value_eq hs (Scalar.value?_int i)).trans (encodeInt_of_lt hi)

/-- What is in range and not written as an integer is encoded as the nearest double. -/
theorem encodeScalar_of_large (hs : s.value? = some q) (hnull : encodeScalar s ≠ .null)
    (hlarge : ∀ i : Int, q = i → plainBound ≤ i.natAbs) :
    ∃ y : Double, encodeScalar s = .float y ∧ y.IsNearest q ∧ (∀ x, s = .float x → y = x) ∧
      ((∃ i : Int, q = i) → (plainBound : ℚ) ≤ |y.value|) := by
  have h := encodesNumber_encodeScalar hs
  generalize encodeScalar s = s' at h hnull ⊢
  cases h with
  | plain hi => exact absurd (hlarge _ rfl) (Nat.not_le.mpr hi)
  | @same x hx _ =>
    refine ⟨x, rfl, Double.isNearest_value hx, fun z hz => Scalar.float.inj hz, fun ⟨i, hi⟩ => ?_⟩
    rw [hi, ← Int.cast_abs, ← Nat.cast_natAbs, Nat.cast_le]
    exact hlarge i hi
  | @nearest i y hi hy =>
    refine ⟨y, rfl, hy, fun z hz => (nomatch hz), fun _ => ?_⟩
    obtain ⟨hpos, hneg⟩ := plainBound_le_abs_value hi hy
    rcases Int.le_total 0 i with h | h
    · exact (hpos h).trans (le_abs_self _)
    · exact (le_neg_of_le_neg (hneg h)).trans (neg_le_abs _)
  | overflow _ => exact absurd rfl hnull

/-- A number is encoded as null if it is not finite or no double is near to it, as an integer if it
is whole and below `10 ^ 21`, and as the nearest double otherwise. Numbers of one value are encoded
alike, encoding keeps the order, and an encoded number is encoded as itself. -/
theorem encode_number :
    (∀ x : Double, (scalar (.float x)).encode = .ok (.leaf .null) ↔ x.isFinite = false) ∧
    (∀ i : Int, (scalar (.int i)).encode = .ok (.leaf .null) ↔ Double.overflowBound ≤ i.natAbs) ∧
    (∀ (s : Scalar) (q : ℚ), s.value? = some q → (scalar s).encode ≠ .ok (.leaf .null) →
      (∀ i : Int, q = i → i.natAbs < 10 ^ 21 → (scalar s).encode = .ok (.leaf (.int i))) ∧
      ((∀ i : Int, q = i → 10 ^ 21 ≤ i.natAbs) →
        ∃ y : Double, (scalar s).encode = .ok (.leaf (.float y)) ∧
          y.IsNearest q ∧ (∀ x, s = .float x → y = x) ∧
          ((∃ i : Int, q = i) → 10 ^ 21 ≤ |y.value|))) ∧
    (∀ (s t : Scalar) (q : ℚ), s.value? = some q → t.value? = some q →
      (scalar s).encode = (scalar t).encode) ∧
    (∀ (s t s' t' : Scalar) (p q p' q' : ℚ), s.value? = some p → t.value? = some q → p ≤ q →
      (scalar s).encode = .ok (.leaf s') → (scalar t).encode = .ok (.leaf t') →
      s'.value? = some p' → t'.value? = some q' → p' ≤ q') ∧
    (∀ s s' : Scalar, (scalar s).encode = .ok (.leaf s') → (scalar s').encode = .ok (.leaf s')) := by
  have hencode (s : Scalar) : (scalar s).encode = .ok (.leaf (encodeScalar s)) := rfl
  simp only [hencode, ne_eq, Except.ok.injEq, Json.leaf.injEq]
  refine ⟨encodeFloat_eq_null_iff, encodeInt_eq_null_iff, fun s q hs hnull => ⟨?_, ?_⟩,
    fun s t q => encodeScalar_eq_of_value_eq, ?_, ?_⟩
  · rintro i rfl hi
    exact encodeScalar_of_small hs hi
  · intro hlarge
    obtain ⟨y, hy⟩ := encodeScalar_of_large hs hnull hlarge
    have hbound : ((plainBound : ℕ) : ℚ) = 10 ^ 21 := by norm_num [plainBound]
    rw [hbound] at hy
    exact ⟨y, hy⟩
  · rintro s t s' t' p q p' q' hs ht hle rfl rfl hp hq
    exact encodeScalar_mono hs ht hle hp hq
  · rintro s s' rfl
    exact encodeScalar_encodeScalar s

theorem encode_number_at_bound :
    (scalar (.float (.infinite true))).encode = .ok (.leaf .null) ∧
    (scalar (.int (10 ^ 21 - 1))).encode = .ok (.leaf (.int (10 ^ 21 - 1))) ∧
    (∃ y : Double, (scalar (.int (10 ^ 21 + 1))).encode = .ok (.leaf (.float y)) ∧
      y.IsNearest ((10 ^ 21 + 1 : Int) : ℚ)) ∧
    (scalar (.int (2 ^ 1024))).encode = .ok (.leaf .null) ∧
    (scalar (.int 0)).encode = (scalar (.float (Double.zero true))).encode ∧
    (((10 ^ 21 - 2 : Int) : ℚ) ≤ ((10 ^ 21 - 1 : Int) : ℚ)) ∧
    (scalar (.int 7)).encode = .ok (.leaf (.int 7)) := by
  obtain ⟨hfloat, hint, hspec, hequal, horder, hagain⟩ := encode_number
  have hbelow : (scalar (.int (10 ^ 21 - 1))).encode ≠ .ok (.leaf .null) := by
    rw [ne_eq, hint]
    decide +kernel
  have hsmall := (hspec (.int (10 ^ 21 - 1)) _ rfl hbelow).1 _ rfl (by decide)
  have hrange : (scalar (.int (10 ^ 21 + 1))).encode ≠ .ok (.leaf .null) := by
    rw [ne_eq, hint]
    decide +kernel
  have hlarge (i : Int) (hi : ((10 ^ 21 + 1 : Int) : ℚ) = i) : 10 ^ 21 ≤ i.natAbs := by
    rw [Int.cast_inj] at hi
    omega
  obtain ⟨y, hy, hnear, -⟩ := (hspec (.int (10 ^ 21 + 1)) _ rfl hrange).2 hlarge
  have hzero : (Scalar.float (Double.zero true)).value? = some ((0 : Int) : ℚ) := by
    rw [Scalar.value?_float rfl, Option.some.injEq, Double.value_eq_intCast_iff, Int.zero_mul]
    rfl
  have hle : ((10 ^ 21 - 2 : Int) : ℚ) ≤ ((10 ^ 21 - 1 : Int) : ℚ) := Int.cast_le.mpr (by decide)
  exact ⟨(hfloat _).mpr rfl, hsmall, ⟨y, hy, hnear⟩, (hint _).mpr (by decide +kernel),
    hequal (.int 0) (.float (Double.zero true)) _ rfl hzero,
    horder (.int (10 ^ 21 - 2)) (.int (10 ^ 21 - 1)) _ _ _ _ _ _ rfl rfl hle rfl rfl rfl rfl,
      hagain (.int 7) _ rfl⟩

end Scalars

end Value

end ScriptTree
