import ScriptTree.Proofs.Number.Numeral

namespace ScriptTree

namespace Double

/-- The digits of a numeral with a fraction or an exponent, without a leading zero that is no number
of its own. -/
structure IsLaidOut (whole fraction : List Nat) (exponent : Option Int) : Prop where
  lt_ten : ∀ x ∈ whole ++ fraction, x < 10
  leading : ∃ first rest, whole = first :: rest ∧ (first = 0 → rest = [])
  marked : fraction = [] → exponent ≠ none

theorem digitText_append (ds es : List Nat) : digitText (ds ++ es) = digitText ds ++ digitText es :=
  List.map_append

theorem digitText_zeros (n : Nat) : digitText (List.replicate n 0) = zeros n := by
  rw [digitText, List.map_replicate]
  rfl

theorem numeral_positional (format : Format) {whole fraction : List Nat} (hf : fraction ≠ []) :
    numeral format whole fraction none =
      digitText whole ++ CodePoint.ofChar '.' :: digitText fraction := by
  simp [numeral, hf]

/-- The decimal `0.000ddd`. -/
theorem layout_before {d : Decimal} (h : d.IsProper) {n : Nat} (hn : d.point = -(n : Int)) :
    IsLaidOut [0] (List.replicate n 0 ++ d.digits) none ∧
      decimalQuarters (Text.ofDigitValues 10 ([0] ++ (List.replicate n 0 ++ d.digits)))
        (0 - (List.replicate n 0 ++ d.digits).length) = decimalQuarters d.significand d.exponent := by
  obtain ⟨first, rest, hd, hfirst⟩ := h.leading
  constructor
  · constructor
    · intro x hx
      rcases List.mem_append.mp hx with hx | hx
      · rw [List.mem_singleton.mp hx]
        decide
      · rcases List.mem_append.mp hx with hx | hx
        · rw [List.eq_of_mem_replicate hx]
          decide
        · exact h.lt_ten x hx
    · exact ⟨0, [], rfl, fun _ => rfl⟩
    · intro hnil
      simp [hd] at hnil
  · have hzeros : [0] ++ (List.replicate n 0 ++ d.digits) = List.replicate (n + 1) 0 ++ d.digits := rfl
    have hexp : (0 : Int) - (List.replicate n 0 ++ d.digits).length = d.exponent := by
      rw [Decimal.exponent, hn, List.length_append, List.length_replicate]
      omega
    rw [hzeros, Text.ofDigitValues_zeros_append, hexp]
    rfl

/-- The decimal `ddd000.0`. -/
theorem layout_after {d : Decimal} (h : d.IsProper) {n : Nat} (hn : d.point = d.digits.length + n) :
    IsLaidOut (d.digits ++ List.replicate n 0) [0] none ∧
      decimalQuarters (Text.ofDigitValues 10 (d.digits ++ List.replicate n 0 ++ [0]))
        (0 - ([0] : List Nat).length) =
        decimalQuarters d.significand d.exponent := by
  obtain ⟨first, rest, hd, hfirst⟩ := h.leading
  have hzeros : d.digits ++ List.replicate n 0 ++ [0] = d.digits ++ List.replicate (n + 1) 0 := by
    rw [List.replicate_succ', List.append_assoc]
  constructor
  · constructor
    · intro x hx
      rw [hzeros] at hx
      rcases List.mem_append.mp hx with hx | hx
      · exact h.lt_ten x hx
      · rw [List.eq_of_mem_replicate hx]
        decide
    · exact ⟨first, rest ++ List.replicate n 0, by rw [hd, List.cons_append], by omega⟩
    · simp
  · have hexp : (0 : Int) - ([0] : List Nat).length + (n + 1 : ℕ) = d.exponent := by
      rw [Decimal.exponent, hn, List.length_singleton]
      omega
    rw [hzeros, Text.ofDigitValues_append_zeros, decimalQuarters_mul_pow, hexp]
    rfl

/-- The decimals `dd.dd` and `d.ddde+xx`, with `n` digits before the point. -/
theorem layout_between {d : Decimal} (h : d.IsProper) {n : Nat} (hn : 0 < n) {exponent : Option Int}
    (he : d.point = n + exponent.getD 0) (hle : n ≤ d.digits.length)
    (hmarked : d.digits.length = n → exponent ≠ none) :
    IsLaidOut (d.digits.take n) (d.digits.drop n) exponent ∧
      decimalQuarters (Text.ofDigitValues 10 (d.digits.take n ++ d.digits.drop n))
        (exponent.getD 0 - (d.digits.drop n).length) = decimalQuarters d.significand d.exponent := by
  obtain ⟨first, rest, hd, hfirst⟩ := h.leading
  constructor
  · constructor
    · rw [List.take_append_drop]
      exact h.lt_ten
    · obtain ⟨k, rfl⟩ := Nat.exists_eq_add_one_of_ne_zero hn.ne'
      exact ⟨first, rest.take k, by rw [hd, List.take_succ_cons], by omega⟩
    · intro hnil
      rw [List.drop_eq_nil_iff] at hnil
      exact hmarked (by omega)
  · have hexp : exponent.getD 0 - (d.digits.drop n).length = d.exponent := by
      rw [Decimal.exponent, he, List.length_drop]
      omega
    rw [List.take_append_drop, hexp]
    rfl

/-- Every proper decimal is laid out as a numeral of the same value. -/
theorem decimalText_eq_numeral {d : Decimal} (h : d.IsProper) :
    ∃ whole fraction exponent,
      decimalText documentFormat d = numeral documentFormat whole fraction exponent ∧
        IsLaidOut whole fraction exponent ∧
        decimalQuarters (Text.ofDigitValues 10 (whole ++ fraction))
          (exponent.getD 0 - fraction.length) =
          decimalQuarters d.significand d.exponent := by
  obtain ⟨first, rest, hd, hfirst⟩ := h.leading
  have hlen : 0 < d.digits.length := by simp [hd]
  simp only [decimalText]
  split
  next hrange =>
    split
    next hpoint =>
      obtain ⟨n, hn⟩ : ∃ n : Nat, d.point = -(n : Int) := ⟨(-d.point).toNat, by omega⟩
      refine ⟨_, _, none, ?_, layout_before h hn⟩
      have hnat : (-d.point).toNat = n := by omega
      rw [numeral_positional _ (by simp [hd]), digitText_append, digitText_zeros, hnat]
      rfl
    next hpoint =>
      split
      next hfits =>
        obtain ⟨n, hn⟩ : ∃ n : Nat, d.point = d.digits.length + n :=
          ⟨d.point.toNat - d.digits.length, by omega⟩
        refine ⟨_, _, none, ?_, layout_after h hn⟩
        have hnat : d.point.toNat - d.digits.length = n := by omega
        rw [numeral_positional _ (by simp), digitText_append, digitText_zeros, hnat]
        rfl
      next hinside =>
        refine ⟨_, _, none, ?_, layout_between h (n := d.point.toNat) (by omega) ?_ (by omega) ?_⟩
        · rw [numeral_positional _ (by rw [ne_eq, List.drop_eq_nil_iff]; omega), List.append_assoc]
          rfl
        · rw [Option.getD_none]
          omega
        · omega
  next hrange =>
    refine ⟨_, _, some (d.point - 1), ?_, layout_between h (n := 1) (by decide) ?_ (by omega) ?_⟩
    · rw [numeral, Option.elim_some]
      congr 2
      by_cases hnil : d.digits.drop 1 = []
      · rw [if_pos hnil, hnil]
        rfl
      · have htext : (digitText (d.digits.drop 1)).isEmpty = false := by
          rw [digitText, List.isEmpty_map, List.isEmpty_eq_false_iff]
          exact hnil
        rw [if_neg hnil, if_neg (by rw [htext]; decide)]
        rfl
    · rw [Option.getD_some]
      omega
    · simp

theorem isWhole_digitText {ds : List Nat} (hds : ∀ x ∈ ds, x < 10)
    (hlead : ∃ first rest, ds = first :: rest ∧ (first = 0 → rest = [])) :
    Token.isWhole (digitText ds) = true := by
  obtain ⟨first, rest, rfl, hfirst⟩ := hlead
  have hall : (digitText (first :: rest)).all CodePoint.isDigit = true :=
    List.all_eq_true.mpr (isDigit_of_mem_digitText hds)
  have hstart : (digitText (first :: rest)).length = 1 ∨
      (digitText (first :: rest)).head? ≠ some (CodePoint.ofChar '0') := by
    by_cases hzero : first = 0
    · simp [hfirst hzero, digitText]
    · right
      intro hhead
      have hval := congrArg CodePoint.digitValue (Option.some.inj hhead)
      rw [Text.digitValue_ofDigit (hds first List.mem_cons_self)] at hval
      exact hzero hval
  rw [Token.isWhole, hall, Bool.and_true, Bool.and_eq_true, Bool.or_eq_true, decide_eq_true_eq,
    decide_eq_true_eq]
  exact ⟨rfl, hstart⟩

/-- A number is read by its whole digits and by what follows them. -/
theorem readNumber_whole {ds : List Nat} (negative : Bool) (tail : Text) (hds : ∀ x ∈ ds, x < 10)
    (hlead : ∃ first rest, ds = first :: rest ∧ (first = 0 → rest = []))
    (htail : ∀ c ∈ tail.head?, c.isDigit = false) :
    Token.readNumber (signText negative ++ (digitText ds ++ tail)) =
      if tail.isEmpty then
        some (.int (if negative then -(Text.ofDigitValues 10 ds : Int) else Text.ofDigitValues 10 ds))
      else if (match tail with
        | c :: rest => if c = '.' then rest.takeWhile CodePoint.isDigit else [c]
        | [] => []).isEmpty then none
      else (readUnsigned negative (digitText ds ++ tail)).map .float := by
  have hdigit := isDigit_of_mem_digitText hds
  have hwhole := isWhole_digitText hds hlead
  have hrun := takeWhile_run hdigit htail
  have hrest := dropWhile_run hdigit htail
  have hvalue := decimalValue_digitText hds
  cases negative with
  | true =>
    have hsign : signText true ++ (digitText ds ++ tail) =
        CodePoint.ofChar '-' :: (digitText ds ++ tail) := rfl
    rw [hsign]
    simp only [Token.readNumber, if_true, hrun, hrest, hwhole, hvalue]
    rfl
  | false =>
    obtain ⟨first, rest, hcons, -⟩ := hlead
    have hsign : signText false ++ (digitText ds ++ tail) =
        CodePoint.ofDigit first :: (digitText rest ++ tail) := by rw [hcons]; rfl
    have hbody : CodePoint.ofDigit first :: (digitText rest ++ tail) = digitText ds ++ tail := by
      rw [hcons]; rfl
    have hminus : CodePoint.ofDigit first ≠ CodePoint.ofChar '-' :=
      ne_of_isDigit (hdigit _ (by simp [hcons, digitText])) rfl
    rw [hsign]
    simp only [Token.readNumber, if_neg hminus, hbody, hrun, hrest, hwhole, hvalue]
    rfl

/-- An integer is read back as itself. -/
theorem readNumber_ofInt (i : Int) : Token.readNumber (Text.ofInt i) = some (.int i) := by
  have hlead : ∃ first rest, Text.decimalDigits i.natAbs = first :: rest ∧ (first = 0 → rest = []) := by
    obtain ⟨first, rest, hcons⟩ := List.exists_cons_of_ne_nil (Text.decimalDigits_ne_nil i.natAbs)
    refine ⟨first, rest, hcons, fun hzero => ?_⟩
    rcases Nat.eq_zero_or_pos i.natAbs with hi | hi
    · rw [hi, Text.decimalDigits_of_lt (by decide)] at hcons
      exact (List.cons.inj hcons).2.symm
    · have hhead := Text.head_decimalDigits_ne_zero hi
      simp [hcons, hzero] at hhead
  have hread := readNumber_whole (decide (i < 0)) []
      (fun _ => Text.lt_ten_of_mem_decimalDigits) hlead (by simp)
  rw [List.append_nil, Text.ofDigitValues_decimalDigits] at hread
  by_cases hi : i < 0
  · simp only [hi, decide_true, if_true, Int.ofNat_natAbs_of_nonpos hi.le, Int.neg_neg] at hread
    rw [Text.ofInt, if_pos hi]
    exact hread
  · simp only [hi, decide_false, Int.natAbs_of_nonneg (not_lt.mp hi)] at hread
    rw [Text.ofInt, if_neg hi]
    exact hread

theorem readNumber_numeral {whole fraction : List Nat} {exponent : Option Int} (negative : Bool)
    (h : IsLaidOut whole fraction exponent) :
    Token.readNumber (signText negative ++ numeral documentFormat whole fraction exponent) =
      some (.float (ofDecimal negative (Text.ofDigitValues 10 (whole ++ fraction))
        (exponent.getD 0 - fraction.length))) := by
  have hw : ∀ x ∈ whole, x < 10 := fun x hx => h.lt_ten x (List.mem_append_left _ hx)
  have hf : ∀ x ∈ fraction, x < 10 := fun x hx => h.lt_ten x (List.mem_append_right _ hx)
  have hne : whole ≠ [] := by
    obtain ⟨first, rest, rfl, -⟩ := h.leading
    simp
  have hread : readUnsigned negative (numeral documentFormat whole fraction exponent) = _ :=
    readUnsigned_numeral documentFormat negative hne hw hf
  rw [numeral, List.append_assoc] at hread ⊢
  by_cases hnil : fraction = []
  · obtain ⟨e, rfl⟩ := Option.ne_none_iff_exists'.mp (h.marked hnil)
    rw [if_pos hnil, List.nil_append, Option.elim_some, exponentText_eq] at hread ⊢
    rw [readNumber_whole negative _ hw h.leading (by simp; decide), hread]
    rfl
  · obtain ⟨first, rest, rfl⟩ := List.exists_cons_of_ne_nil hnil
    have hdigit : (CodePoint.ofDigit first).isDigit = true :=
      isDigit_of_mem_digitText hf _ (by simp [digitText])
    rw [if_neg hnil, List.cons_append] at hread ⊢
    rw [readNumber_whole negative _ hw h.leading (by simp; decide), hread]
    simp [digitText, hdigit]

/-- A finite double is read back as itself. -/
theorem readNumber_write {x : Double} (h : x.isFinite = true) :
    Token.readNumber (write documentFormat x) = some (.float x) := by
  cases x with
  | infinite negative => simp [isFinite] at h
  | nan => simp [isFinite] at h
  | finite negative m s hms =>
    rw [write]
    by_cases hm : m = 0
    · subst hm
      obtain rfl : s = 0 := hms.2.2 (by decide)
      cases negative <;> rfl
    · have hpos : 0 < m := Nat.pos_of_ne_zero hm
      obtain ⟨hproper, hmem⟩ := shortest_spec hms hpos
      obtain ⟨whole, fraction, exponent, htext, hlaid, hvalue⟩ := decimalText_eq_numeral hproper
      rw [← hvalue] at hmem
      rw [if_neg hm, htext, readNumber_numeral negative hlaid, ofDecimal_of_mem negative hms hpos hmem]

theorem isNumeric_of_isDigit {c : CodePoint} (h : c.isDigit = true) : Token.isNumeric c = true := by
  simp [Token.isNumeric, h]

theorem isNumeric_of_mem_ofInt {i : Int} : ∀ c ∈ Text.ofInt i, Token.isNumeric c = true := by
  intro c hc
  rw [Text.ofInt] at hc
  split at hc
  next =>
    rcases List.mem_cons.mp hc with rfl | hc
    · rfl
    · exact isNumeric_of_isDigit (Text.isDigit_of_mem_ofNat c hc)
  next => exact isNumeric_of_isDigit (Text.isDigit_of_mem_ofNat c hc)

theorem isNumeric_of_mem_exponentText {format : Format} {e : Int} :
    ∀ c ∈ exponentText format e, Token.isNumeric c = true := by
  intro c hc
  rw [exponentText_eq] at hc
  rcases List.mem_cons.mp hc with rfl | hc
  · rfl
  · rcases List.mem_cons.mp hc with rfl | hc
    · split <;> rfl
    · exact isNumeric_of_isDigit
        (isDigit_of_mem_digitText (fun _ => lt_ten_of_mem_exponentDigits) c hc)

theorem isNumeric_of_mem_numeral {format : Format} {whole fraction : List Nat} {exponent : Option Int}
    (h : ∀ x ∈ whole ++ fraction, x < 10) :
    ∀ c ∈ numeral format whole fraction exponent, Token.isNumeric c = true := by
  intro c hc
  rw [numeral_eq] at hc
  rcases List.mem_append.mp hc with hc | hc
  · rcases isDigit_or_point_of_mem_mantissa (fun x hx => h x (List.mem_append_left _ hx))
      (fun x hx => h x (List.mem_append_right _ hx)) c hc with hd | rfl
    · exact isNumeric_of_isDigit hd
    · rfl
  · cases exponent with
    | none => simp at hc
    | some e => exact isNumeric_of_mem_exponentText c hc

theorem isNumeric_of_mem_write {x : Double} (h : x.isFinite = true) :
    ∀ c ∈ write documentFormat x, Token.isNumeric c = true := by
  cases x with
  | infinite negative => simp [isFinite] at h
  | nan => simp [isFinite] at h
  | finite negative m s hms =>
    intro c hc
    rw [write] at hc
    rcases List.mem_append.mp hc with hc | hc
    · cases negative with
      | false => simp [signText] at hc
      | true =>
        cases List.mem_singleton.mp hc
        rfl
    · by_cases hm : m = 0
      · rw [if_pos hm] at hc
        exact (by decide : ∀ c ∈ decimalText documentFormat { digits := [0], point := 1 },
          Token.isNumeric c = true) c hc
      · obtain ⟨hproper, _⟩ := shortest_spec hms (Nat.pos_of_ne_zero hm)
        obtain ⟨whole, fraction, exponent, htext, hlaid, _⟩ := decimalText_eq_numeral hproper
        rw [if_neg hm, htext] at hc
        exact isNumeric_of_mem_numeral hlaid.lt_ten c hc

end Double

end ScriptTree
