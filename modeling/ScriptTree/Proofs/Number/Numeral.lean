import ScriptTree.Json.Token
import ScriptTree.Proofs.Number.Shortest

namespace ScriptTree

section Runs

variable {α : Type} {p : α → Bool} {run rest : List α}

theorem takeWhile_run (hrun : ∀ a ∈ run, p a = true) (hrest : ∀ a ∈ rest.head?, p a = false) :
    (run ++ rest).takeWhile p = run := by
  rw [List.takeWhile_append_of_pos hrun]
  cases rest with
  | nil => simp
  | cons a rest => simp [hrest a rfl]

theorem dropWhile_run (hrun : ∀ a ∈ run, p a = true) (hrest : ∀ a ∈ rest.head?, p a = false) :
    (run ++ rest).dropWhile p = rest := by
  rw [List.dropWhile_append_of_pos hrun]
  cases rest with
  | nil => rfl
  | cons a rest => simp [hrest a rfl]

end Runs

namespace Double

theorem splitAtFirst_eq_none {test : CodePoint → Bool} {t : Text} (h : ∀ c ∈ t, test c = false) :
    splitAtFirst test t = (t, none) := by
  have hdrop : t.dropWhile (fun c => !test c) = [] :=
    List.dropWhile_eq_nil_iff.mpr fun c hc => by simp [h c hc]
  simp [splitAtFirst, hdrop]

theorem splitAtFirst_append_cons {test : CodePoint → Bool} {before : Text} {c : CodePoint}
    (h : ∀ d ∈ before, test d = false) (hc : test c = true) (after : Text) :
    splitAtFirst test (before ++ c :: after) = (before, some after) := by
  have hrun : ∀ d ∈ before, (fun c => !test c) d = true := by simpa using h
  have hrest : ∀ d ∈ (c :: after).head?, (fun c => !test c) d = false := by simpa using hc
  simp only [splitAtFirst, dropWhile_run hrun hrest, takeWhile_run hrun hrest]

theorem ne_of_isDigit {c d : CodePoint} (hc : c.isDigit = true) (hd : d.isDigit = false) : c ≠ d := by
  rintro rfl
  simp [hc] at hd

/-- The whole digits, the digits after the point if there are any, and the exponent if there is one. -/
def numeral (format : Format) (whole fraction : List Nat) (exponent : Option Int) : Text :=
  digitText whole ++ (if fraction = [] then [] else CodePoint.ofChar '.' :: digitText fraction)
    ++ exponent.elim [] (exponentText format)

/-- The digits of an exponent, padded with zeros. -/
def exponentDigits (format : Format) (e : Int) : List Nat :=
  List.replicate (format.exponentDigits - (Text.ofNat e.natAbs).length) 0 ++ Text.decimalDigits e.natAbs

theorem lt_ten_of_mem_exponentDigits {format : Format} {e : Int} {d : Nat}
    (h : d ∈ exponentDigits format e) : d < 10 := by
  rcases List.mem_append.mp h with h | h
  · rw [List.eq_of_mem_replicate h]
    decide
  · exact Text.lt_ten_of_mem_decimalDigits h

theorem exponentText_eq (format : Format) (e : Int) :
    exponentText format e = CodePoint.ofChar 'e' :: CodePoint.ofChar (if e < 0 then '-' else '+') ::
      digitText (exponentDigits format e) := by
  have hdigits : digitText (exponentDigits format e) =
      zeros (format.exponentDigits - (Text.ofNat e.natAbs).length) ++ Text.ofNat e.natAbs := by
    rw [digitText, exponentDigits, List.map_append, List.map_replicate]
    rfl
  rw [hdigits, exponentText]
  split <;> rfl

theorem isDigit_of_mem_digitText {ds : List Nat} (h : ∀ d ∈ ds, d < 10) :
    ∀ c ∈ digitText ds, c.isDigit = true :=
  Text.isDigit_of_mem_map_ofDigit h

theorem decimalValue_digitText {ds : List Nat} (h : ∀ d ∈ ds, d < 10) :
    Text.decimalValue (digitText ds) = Text.ofDigitValues 10 ds :=
  Text.decimalValue_map_ofDigit h

theorem readExponent_digits {ds : List Nat} (hds : ∀ d ∈ ds, d < 10) (hne : ds ≠ []) (negative : Bool) :
    readExponent (CodePoint.ofChar (if negative then '-' else '+') :: digitText ds) =
      some (if negative then -(Text.ofDigitValues 10 ds : Int) else Text.ofDigitValues 10 ds) := by
  have hall : (digitText ds).all CodePoint.isDigit = true :=
    List.all_eq_true.mpr (isDigit_of_mem_digitText hds)
  have hsome : (digitText ds).isEmpty = false := by simpa [digitText] using hne
  have hsign : readSign (CodePoint.ofChar (if negative then '-' else '+') :: digitText ds) =
      (negative, digitText ds) := by
    cases negative <;> rfl
  rw [readExponent, hsign]
  simp only [hall, hsome, decimalValue_digitText hds]
  rfl

theorem readExponent_exponentDigits (format : Format) (e : Int) :
    readExponent (CodePoint.ofChar (if e < 0 then '-' else '+') :: digitText
      (exponentDigits format e)) =
      some e := by
  have hne : exponentDigits format e ≠ [] := by simp [exponentDigits, Text.decimalDigits_ne_nil]
  have hvalue : Text.ofDigitValues 10 (exponentDigits format e) = e.natAbs := by
    rw [exponentDigits, Text.ofDigitValues_zeros_append, Text.ofDigitValues_decimalDigits]
  have hread := readExponent_digits (fun _ => lt_ten_of_mem_exponentDigits) hne (decide (e < 0))
  rw [hvalue] at hread
  by_cases he : e < 0
  · simp only [he, decide_true, if_true] at hread ⊢
    rw [hread, Int.ofNat_natAbs_of_nonpos (by omega), Int.neg_neg]
  · simp only [he, decide_false, Bool.false_eq_true, if_false] at hread ⊢
    rw [hread, Int.natAbs_of_nonneg (by omega)]

section Numerals

variable {whole fraction : List Nat} {exponent : Option Int}

/-- The text of a numeral before its exponent. -/
def mantissa (whole fraction : List Nat) : Text :=
  digitText whole ++ (if fraction = [] then [] else CodePoint.ofChar '.' :: digitText fraction)

theorem numeral_eq (format : Format) :
    numeral format whole fraction exponent = mantissa whole fraction ++ exponent.elim []
      (exponentText format) :=
  rfl

theorem isDigit_or_point_of_mem_mantissa (hw : ∀ d ∈ whole, d < 10) (hf : ∀ d ∈ fraction, d < 10) :
    ∀ c ∈ mantissa whole fraction, c.isDigit = true ∨ c = CodePoint.ofChar '.' := by
  intro c hc
  rcases List.mem_append.mp hc with hc | hc
  · exact Or.inl (isDigit_of_mem_digitText hw c hc)
  · split at hc
    next => simp at hc
    next =>
      rcases List.mem_cons.mp hc with rfl | hc
      · exact Or.inr rfl
      · exact Or.inl (isDigit_of_mem_digitText hf c hc)

theorem splitAtFirst_point (hw : ∀ d ∈ whole, d < 10) :
    splitAtFirst (· = CodePoint.ofChar '.') (mantissa whole fraction) =
      (digitText whole, if fraction = [] then none else some (digitText fraction)) := by
  have hno : ∀ c ∈ digitText whole, decide (c = CodePoint.ofChar '.') = false := fun c hc =>
    decide_eq_false (ne_of_isDigit (isDigit_of_mem_digitText hw c hc) rfl)
  unfold mantissa
  split
  · rw [List.append_nil]
    exact splitAtFirst_eq_none hno
  · exact splitAtFirst_append_cons hno (by simp) _

theorem splitAtFirst_exponent (format : Format) (hw : ∀ d ∈ whole, d < 10)
    (hf : ∀ d ∈ fraction, d < 10) :
    splitAtFirst (fun c => c = CodePoint.ofChar 'e' || c = CodePoint.ofChar 'E')
        (numeral format whole fraction exponent) =
      (mantissa whole fraction, exponent.map fun e =>
        CodePoint.ofChar (if e < 0 then '-' else '+') :: digitText (exponentDigits format e)) := by
  have hno : ∀ c ∈ mantissa whole fraction,
      (decide (c = CodePoint.ofChar 'e') || decide (c = CodePoint.ofChar 'E')) = false := by
    intro c hc
    rcases isDigit_or_point_of_mem_mantissa hw hf c hc with hd | rfl
    · rw [decide_eq_false (ne_of_isDigit hd rfl), decide_eq_false (ne_of_isDigit hd rfl)]
      rfl
    · decide
  rw [numeral_eq]
  cases exponent with
  | none =>
    rw [Option.elim_none, List.append_nil]
    exact splitAtFirst_eq_none hno
  | some e =>
    rw [Option.elim_some, exponentText_eq]
    exact splitAtFirst_append_cons hno (by decide) _

/-- A numeral is read as the decimal that it writes. -/
theorem readUnsigned_numeral (format : Format) (negative : Bool) (hne : whole ≠ [])
    (hw : ∀ d ∈ whole, d < 10) (hf : ∀ d ∈ fraction, d < 10) :
    readUnsigned negative (numeral format whole fraction exponent) =
      some (ofDecimal negative (Text.ofDigitValues 10 (whole ++ fraction))
        (exponent.getD 0 - fraction.length)) := by
  have hall : ∀ d ∈ whole ++ fraction, d < 10 := fun d hd =>
    (List.mem_append.mp hd).elim (hw d) (hf d)
  have hdigits : digitText whole ++
      (if fraction = [] then none else some (digitText fraction)).getD [] =
      digitText (whole ++ fraction) := by
    split
    next h => simp [h]
    next => simp [digitText]
  have hlen : ((if fraction = [] then none else some (digitText fraction)).getD []).length =
      fraction.length := by
    split
    next h => simp [h]
    next => simp [digitText]
  have hcheck : ((digitText (whole ++ fraction)).isEmpty || !(digitText (whole ++ fraction)).all
      CodePoint.isDigit)
      = false := by
    rw [List.all_eq_true.mpr (isDigit_of_mem_digitText hall)]
    simp [digitText, hne]
  simp only [readUnsigned, splitAtFirst_exponent format hw hf, splitAtFirst_point hw, hdigits, hlen,
    hcheck, decimalValue_digitText hall]
  cases exponent with
  | none => rfl
  | some e =>
    simp only [Option.map_some, readExponent_exponentDigits]
    rfl

end Numerals

end Double

end ScriptTree
