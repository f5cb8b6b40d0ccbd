import Mathlib.Data.List.Basic
import ScriptTree.Text.Utf8

namespace ScriptTree

namespace Utf8

/-- The number that the bits read so far and the bytes that go on make together. -/
def joined (bits : Nat) (more : List UInt8) : Nat :=
  more.foldl (fun n b => n * 64 + (b.toNat - 0x80)) bits

theorem joined_cons (bits : Nat) (b : UInt8) (more : List UInt8) :
    joined bits (b :: more) = joined (bits * 64 + (b.toNat - 0x80)) more := by
  rw [joined, List.foldl_cons, joined]

theorem joined_nil (bits : Nat) : joined bits [] = bits := rfl

/-- Bytes that a decoder inside a sequence accepts to its end. -/
structure Fits (tail low high : Nat) (more : List UInt8) : Prop where
  length : more.length = tail
  first : ∀ b ∈ more.head?, low ≤ b.toNat ∧ b.toNat ≤ high
  later : ∀ b ∈ more.tail, 0x80 ≤ b.toNat ∧ b.toNat ≤ 0xBF

theorem fits_cons {tail low high : Nat} {b : UInt8} {more : List UInt8} :
    Fits (tail + 1) low high (b :: more) ↔ (low ≤ b.toNat ∧ b.toNat ≤ high) ∧
      Fits tail 0x80 0xBF more := by
  constructor
  · intro h
    refine ⟨h.first b rfl, Nat.succ.inj h.length, fun c hc => ?_, fun c hc => ?_⟩
    · exact h.later c (List.mem_of_mem_head? hc)
    · exact h.later c (List.mem_of_mem_tail hc)
  · rintro ⟨hb, hmore⟩
    refine ⟨by rw [List.length_cons, hmore.length], fun c hc => ?_, fun c hc => ?_⟩
    · cases hc
      exact hb
    · cases more with
      | nil => cases hc
      | cons d more =>
        rcases List.mem_cons.mp hc with rfl | hc
        · exact hmore.first c rfl
        · exact hmore.later c hc

/-- Whatever bytes are accepted, they end the encoding of a code point that began with the bytes
read. -/
def Expects (read : List UInt8) (bits tail low high : Nat) : Prop :=
  ∀ more, Fits tail low high more →
    ¬ (CodePoint.ofNat (joined bits more)).IsSurrogate ∧
    encodeCodePoint (CodePoint.ofNat (joined bits more)) = read.reverse ++ more

theorem Expects.cons {read : List UInt8} {bits tail low high : Nat}
    (h : Expects read bits (tail + 1) low high) {b : UInt8} (hb : low ≤ b.toNat ∧ b.toNat ≤ high) :
    Expects (b :: read) (bits * 64 + (b.toNat - 0x80)) tail 0x80 0xBF := by
  intro more hmore
  obtain ⟨hwhole, hbytes⟩ := h (b :: more) (fits_cons.mpr ⟨hb, hmore⟩)
  rw [joined_cons] at hwhole hbytes
  exact ⟨hwhole, by simpa using hbytes⟩

theorem encodeCodePoint_one {n : Nat} (h : n < 0x80) :
    encodeCodePoint (CodePoint.ofNat n) = [UInt8.ofNat n] := by
  rw [encodeCodePoint, CodePoint.val_ofNat (by omega)]
  simp only [h, ↓reduceIte]

theorem encodeCodePoint_two {n : Nat} (hl : 0x80 ≤ n) (h : n < 0x800) :
    encodeCodePoint (CodePoint.ofNat n) =
      [UInt8.ofNat (0xC0 + n / 64), UInt8.ofNat (0x80 + n % 64)] := by
  rw [encodeCodePoint, CodePoint.val_ofNat (by omega)]
  simp [h, show ¬ n < 0x80 by omega]

theorem encodeCodePoint_three {n : Nat} (hl : 0x800 ≤ n) (h : n < 0x10000) :
    encodeCodePoint (CodePoint.ofNat n) =
      [UInt8.ofNat (0xE0 + n / 4096), UInt8.ofNat (0x80 + n / 64 % 64),
        UInt8.ofNat (0x80 + n % 64)] := by
  rw [encodeCodePoint, CodePoint.val_ofNat (by omega)]
  simp [h, show ¬ n < 0x80 by omega, show ¬ n < 0x800 by omega]

theorem encodeCodePoint_four {n : Nat} (hl : 0x10000 ≤ n) (h : n < 0x110000) :
    encodeCodePoint (CodePoint.ofNat n) =
      [UInt8.ofNat (0xF0 + n / 262144), UInt8.ofNat (0x80 + n / 4096 % 64),
      UInt8.ofNat (0x80 + n / 64 % 64), UInt8.ofNat (0x80 + n % 64)] := by
  rw [encodeCodePoint, CodePoint.val_ofNat h]
  simp [show ¬ n < 0x80 by omega, show ¬ n < 0x800 by omega, show ¬ n < 0x10000 by omega]

theorem eq_ofNat {b : UInt8} {n : Nat} (h : b.toNat = n) : UInt8.ofNat n = b := by
  rw [← h, UInt8.ofNat_toNat]

theorem not_isSurrogate_ofNat {n : Nat} (h : n < 0x110000) (hn : n < 0xD800 ∨ 0xE000 ≤ n) :
    ¬ (CodePoint.ofNat n).IsSurrogate := by
  rw [CodePoint.IsSurrogate, CodePoint.val_ofNat h]
  omega

theorem expects_two {a : UInt8} {bits : Nat} (ha : a.toNat = 0xC0 + bits)
    (hl : 2 ≤ bits) (hu : bits < 0x20) :
    Expects [a] bits 1 0x80 0xBF := by
  intro more hmore
  obtain ⟨b, rfl⟩ := List.length_eq_one_iff.mp hmore.length
  obtain ⟨hb, -⟩ := fits_cons.mp hmore
  simp only [joined_cons, joined_nil]
  generalize hn : bits * 64 + (b.toNat - 0x80) = n
  refine ⟨not_isSurrogate_ofNat (by omega) (by omega), ?_⟩
  rw [encodeCodePoint_two (by omega) (by omega), eq_ofNat (b := a) (by omega),
    eq_ofNat (b := b) (by omega)]
  rfl

theorem expects_three {a : UInt8} {bits low high : Nat} (ha : a.toNat = 0xE0 + bits) (hu : bits < 0x10)
    (hlow : 0x80 ≤ low) (hhigh : high ≤ 0xBF) (hlong : 0x20 ≤ bits * 64 + (low - 0x80))
    (hhalf : bits * 64 + (high - 0x80) < 0x360 ∨ 0x380 ≤ bits * 64 + (low - 0x80)) :
    Expects [a] bits 2 low high := by
  intro more hmore
  obtain ⟨b, c, rfl⟩ := List.length_eq_two.mp hmore.length
  obtain ⟨hb, hrest⟩ := fits_cons.mp hmore
  obtain ⟨hc, -⟩ := fits_cons.mp hrest
  simp only [joined_cons, joined_nil]
  generalize hn : (bits * 64 + (b.toNat - 0x80)) * 64 + (c.toNat - 0x80) = n
  refine ⟨not_isSurrogate_ofNat (by omega) (by omega), ?_⟩
  rw [encodeCodePoint_three (by omega) (by omega), eq_ofNat (b := a) (by omega),
    eq_ofNat (b := b) (by omega), eq_ofNat (b := c) (by omega)]
  rfl

theorem expects_four {a : UInt8} {bits low high : Nat} (ha : a.toNat = 0xF0 + bits)
    (hlow : 0x80 ≤ low) (hhigh : high ≤ 0xBF) (hlong : 0x10 ≤ bits * 64 + (low - 0x80))
    (hlast : bits * 64 + (high - 0x80) < 0x110) : Expects [a] bits 3 low high := by
  intro more hmore
  obtain ⟨b, c, d, rfl⟩ := List.length_eq_three.mp hmore.length
  obtain ⟨hb, hrest⟩ := fits_cons.mp hmore
  obtain ⟨hc, hrest⟩ := fits_cons.mp hrest
  obtain ⟨hd, -⟩ := fits_cons.mp hrest
  simp only [joined_cons, joined_nil]
  generalize hn : ((bits * 64 + (b.toNat - 0x80)) * 64 + (c.toNat - 0x80)) * 64 + (d.toNat - 0x80) = n
  refine ⟨not_isSurrogate_ofNat (by omega) (by omega), ?_⟩
  rw [encodeCodePoint_four (by omega) (by omega), eq_ofNat (b := a) (by omega),
    eq_ofNat (b := b) (by omega), eq_ofNat (b := c) (by omega), eq_ofNat (b := d) (by omega)]
  rfl

/-- What a first byte announces is the rest of the encoding of a code point. -/
theorem expects_of_lead {a : UInt8} {l : Lead} (h : lead? a = some l) (hmore : l.tail ≠ 0) :
    Expects [a] l.bits l.tail l.low l.high := by
  have ha := a.toNat_lt
  unfold lead? at h
  simp only at h
  split_ifs at h <;> cases h <;> simp only at hmore ⊢
  · exact absurd rfl hmore
  · exact expects_two (by omega) (by omega) (by omega)
  · exact expects_three (by omega) (by omega) (by omega) (by omega) (by omega) (by omega)
  · exact expects_three (by omega) (by omega) (by omega) (by omega) (by omega) (by omega)
  · exact expects_three (by omega) (by omega) (by omega) (by omega) (by omega) (by omega)
  · exact expects_four (by omega) (by omega) (by omega) (by omega) (by omega)
  · exact expects_four (by omega) (by omega) (by omega) (by omega) (by omega)
  · exact expects_four (by omega) (by omega) (by omega) (by omega) (by omega)

theorem encode?_cons {c : CodePoint} {t : Text} {bytes : List UInt8} :
    encode? (c :: t) = some bytes ↔
      ¬ c.IsSurrogate ∧ ∃ more, encode? t = some more ∧ bytes = encodeCodePoint c ++ more := by
  unfold encode?
  by_cases hc : c.IsSurrogate
  · simp [hc]
  · by_cases ht : (t.any fun c => decide c.IsSurrogate) = true
    · simp [hc, ht]
    · simp [hc, ht, eq_comm]

theorem encode?_eq_none_iff {t : Text} : encode? t = none ↔ ∃ c ∈ t, c.IsSurrogate := by
  simp [encode?]

theorem exists_encode?_iff {t : Text} : (∃ bytes, encode? t = some bytes) ↔
    ∀ c ∈ t, ¬ c.IsSurrogate := by
  rw [← Option.isSome_iff_exists, ← Option.ne_none_iff_isSome, ne_eq, encode?_eq_none_iff]
  push Not
  rfl

/-- The bytes of the sequence at hand that a decoder has read. -/
def State.begun : State → List UInt8
  | between => []
  | inside read _ _ _ _ => read.reverse

/-- A decoder stands where the encoding of a code point can be completed. -/
def State.IsOpen : State → Prop
  | between => True
  | inside read bits tail low high => tail ≠ 0 ∧ Expects read bits tail low high

theorem eq_of_lead_zero {a : UInt8} {l : Lead} (h : lead? a = some l) (hnone : l.tail = 0) :
    l.bits < 0x80 ∧ a.toNat = l.bits := by
  unfold lead? at h
  simp only at h
  split_ifs at h with hone <;> cases h
  · exact ⟨hone, rfl⟩
  all_goals cases hnone

/-- What is decoded is the text whose encoding was read. -/
theorem encode?_of_decodeFrom {position : Nat} {state : State}
    {bytes : List UInt8} {t : Text} (hopen : state.IsOpen)
    (h : decodeFrom position state bytes = .ok t) : encode? t = some (state.begun ++ bytes) := by
  fun_induction decodeFrom position state bytes generalizing t with
  | case1 =>
    cases h
    rfl
  | case2 => cases h
  | case3 => cases h
  | case4 position b rest l hl htail u hu ih =>
    cases h
    obtain ⟨hbits, hb⟩ := eq_of_lead_zero hl htail
    refine encode?_cons.mpr ⟨not_isSurrogate_ofNat (by omega) (by omega), rest, ih trivial hu, ?_⟩
    rw [encodeCodePoint_one hbits, eq_ofNat hb]
    rfl
  | case5 => cases h
  | case6 position b rest l hl htail ih => exact ih ⟨htail, expects_of_lead hl htail⟩ h
  | case7 => cases h
  | case8 position read bits low high b rest hb bits' u hu =>
    rename_i ih
    cases h
    have hfits : Fits 1 low high [b] := fits_cons.mpr ⟨by omega, rfl, by simp, by simp⟩
    obtain ⟨hwhole, hbytes⟩ := hopen.2 [b] hfits
    rw [joined_cons, joined_nil] at hwhole hbytes
    refine encode?_cons.mpr ⟨hwhole, rest, ih trivial hu, ?_⟩
    rw [hbytes, State.begun, List.append_assoc]
    rfl
  | case9 => cases h
  | case10 position read bits tail low high b rest hb bits' htail =>
    rename_i ih
    obtain ⟨hpos, hexpects⟩ := hopen
    obtain ⟨n, rfl⟩ : ∃ n, tail = n + 2 := ⟨tail - 2, by omega⟩
    have hnext := ih ⟨by omega, Expects.cons hexpects (by omega)⟩ h
    rw [hnext, State.begun, State.begun, List.reverse_cons, List.append_assoc]
    rfl

theorem toNat_ofNat {n : Nat} (h : n < 0x100) : (UInt8.ofNat n).toNat = n := UInt8.toNat_ofNat_of_lt h

theorem lead?_two {a : UInt8} {bits : Nat} (ha : a.toNat = 0xC0 + bits)
    (hl : 2 ≤ bits) (hu : bits < 0x20) :
    lead? a = some ⟨1, bits, 0x80, 0xBF⟩ := by
  simp only [lead?, ha]
  rw [if_neg (by omega), if_neg (by omega), if_pos (by omega), Nat.add_sub_cancel_left]

theorem lead?_three {a : UInt8} {bits : Nat} (ha : a.toNat = 0xE0 + bits) (hu : bits < 0x10) :
    ∃ low high, lead? a = some ⟨2, bits, low, high⟩ ∧ ∀ m, 0x80 ≤ m →
      m ≤ 0xBF → 0x20 ≤ bits * 64 + (m - 0x80) →
      (bits * 64 + (m - 0x80) < 0x360 ∨ 0x380 ≤ bits * 64 + (m - 0x80)) → low ≤ m ∧ m ≤ high := by
  simp only [lead?, ha]
  rw [if_neg (by omega), if_neg (by omega), if_neg (by omega)]
  by_cases hfirst : bits = 0
  · exact ⟨0xA0, 0xBF, by simp [hfirst], by omega⟩
  · by_cases hhalf : bits = 13
    · exact ⟨0x80, 0x9F, by simp [hhalf], by omega⟩
    · refine ⟨0x80, 0xBF, ?_, by omega⟩
      rw [if_neg (by omega), if_neg (by omega), if_pos (by omega), Nat.add_sub_cancel_left]

theorem lead?_four {a : UInt8} {bits : Nat} (ha : a.toNat = 0xF0 + bits) (hu : bits < 5) :
    ∃ low high, lead? a = some ⟨3, bits, low, high⟩ ∧ ∀ m, 0x80 ≤ m →
      m ≤ 0xBF → 0x10 ≤ bits * 64 + (m - 0x80) →
      bits * 64 + (m - 0x80) < 0x110 → low ≤ m ∧ m ≤ high := by
  simp only [lead?, ha]
  rw [if_neg (by omega), if_neg (by omega), if_neg (by omega), if_neg (by omega), if_neg (by omega),
    if_neg (by omega)]
  by_cases hfirst : bits = 0
  · exact ⟨0x90, 0xBF, by simp [hfirst], by omega⟩
  · by_cases hlast : bits = 4
    · exact ⟨0x80, 0x8F, by simp [hlast], by omega⟩
    · refine ⟨0x80, 0xBF, ?_, by omega⟩
      rw [if_neg (by omega), if_pos (by omega), Nat.add_sub_cancel_left]

theorem fits_nil (low high : Nat) : Fits 0 low high [] := ⟨rfl, by simp, by simp⟩

/-- A byte that starts the encoding of a code point announces the rest of it. -/
theorem exists_lead {c : CodePoint} (hc : ¬ c.IsSurrogate) :
    ∃ a more l, encodeCodePoint c = a :: more ∧ lead? a = some l ∧ Fits l.tail l.low l.high more ∧
      joined l.bits more = c.val := by
  have hlt := c.isLt
  rw [CodePoint.IsSurrogate] at hc
  rw [← CodePoint.ofNat_val c]
  generalize c.val = n at hc hlt
  rw [CodePoint.val_ofNat hlt]
  by_cases hone : n < 0x80
  · refine ⟨_, [], ⟨0, n, 0, 0⟩, encodeCodePoint_one hone, ?_, fits_nil 0 0, rfl⟩
    simp only [lead?, toNat_ofNat (show n < 0x100 by omega), hone, ↓reduceIte]
  · by_cases htwo : n < 0x800
    · refine ⟨_, _, _, encodeCodePoint_two (by omega) htwo,
        lead?_two (toNat_ofNat (by omega)) (by omega) (by omega), fits_cons.mpr ⟨?_, fits_nil _ _⟩, ?_⟩
      · rw [toNat_ofNat (by omega)]
        simp only
        omega
      · simp only [joined_cons, joined_nil, toNat_ofNat (show 0x80 + n % 64 < 0x100 by omega)]
        omega
    · by_cases hthree : n < 0x10000
      · have hfirst : (UInt8.ofNat (0xE0 + n / 4096)).toNat = 0xE0 + n / 4096 := toNat_ofNat (by omega)
        obtain ⟨low, high, hl, hrange⟩ := lead?_three hfirst (by omega)
        refine ⟨_, _, _, encodeCodePoint_three (by omega) hthree, hl,
          fits_cons.mpr ⟨?_, fits_cons.mpr ⟨?_, fits_nil _ _⟩⟩, ?_⟩
        · rw [toNat_ofNat (by omega)]
          exact hrange _ (by omega) (by omega) (by omega) (by omega)
        · rw [toNat_ofNat (by omega)]
          omega
        · simp only [joined_cons, joined_nil, toNat_ofNat (show 0x80 + n / 64 % 64 < 0x100 by omega),
            toNat_ofNat (show 0x80 + n % 64 < 0x100 by omega)]
          omega
      · have hfirst : (UInt8.ofNat (0xF0 + n / 262144)).toNat = 0xF0 + n / 262144 :=
          toNat_ofNat (by omega)
        obtain ⟨low, high, hl, hrange⟩ := lead?_four hfirst (by omega)
        refine ⟨_, _, _, encodeCodePoint_four (by omega) hlt, hl,
          fits_cons.mpr ⟨?_, fits_cons.mpr ⟨?_, fits_cons.mpr ⟨?_, fits_nil _ _⟩⟩⟩, ?_⟩
        · rw [toNat_ofNat (by omega)]
          exact hrange _ (by omega) (by omega) (by omega) (by omega)
        · rw [toNat_ofNat (by omega)]
          omega
        · rw [toNat_ofNat (by omega)]
          omega
        · simp only [joined_cons, joined_nil, toNat_ofNat (show 0x80 + n / 4096 % 64 < 0x100 by omega),
            toNat_ofNat (show 0x80 + n / 64 % 64 < 0x100 by omega),
            toNat_ofNat (show 0x80 + n % 64 < 0x100 by omega)]
          omega

/-- Bytes that fit a sequence complete it. -/
theorem decodeFrom_inside {tail low high : Nat} {more rest : List UInt8}
    {t : Text} (hfits : Fits tail low high more)
    (hpos : tail ≠ 0) (ht : ∀ position, decodeFrom position .between rest = .ok t) (position : Nat)
    (read : List UInt8) (bits : Nat) :
    decodeFrom position (.inside read bits tail low high) (more ++ rest) =
      .ok (CodePoint.ofNat (joined bits more) :: t) := by
  induction more generalizing tail low high read bits with
  | nil => exact absurd hfits.length.symm hpos
  | cons b more ih =>
    obtain ⟨n, rfl⟩ : ∃ n, tail = n + 1 := ⟨tail - 1, by omega⟩
    obtain ⟨hb, hmore⟩ := fits_cons.mp hfits
    rw [List.cons_append, decodeFrom, if_neg (by omega), joined_cons]
    cases n with
    | zero =>
      have hnil : more = [] := List.length_eq_zero_iff.mp hmore.length
      subst hnil
      simp only [Nat.zero_add, ↓reduceIte, List.nil_append, ht, joined_nil]
    | succ n =>
      have hn : ¬ n + 1 + 1 = 1 := by omega
      simp only [hn, ↓reduceIte]
      exact ih hmore (by omega) _ _

/-- The encoding of a text is decoded to it. -/
theorem decodeFrom_of_encode? {t : Text} {bytes : List UInt8}
    (h : encode? t = some bytes) (position : Nat) :
    decodeFrom position .between bytes = .ok t := by
  induction t generalizing bytes position with
  | nil =>
    cases h
    rfl
  | cons c t ih =>
    obtain ⟨hc, rest, hrest, rfl⟩ := encode?_cons.mp h
    obtain ⟨a, more, l, hbytes, hl, hfits, hjoined⟩ := exists_lead hc
    rw [hbytes, List.cons_append, decodeFrom, hl]
    simp only
    by_cases htail : l.tail = 0
    · have hnil : more = [] := List.length_eq_zero_iff.mp (hfits.length.trans htail)
      subst hnil
      rw [joined_nil] at hjoined
      simp only [htail, ↓reduceIte, List.nil_append, ih hrest, hjoined, CodePoint.ofNat_val]
    · simp only [htail, ↓reduceIte]
      rw [decodeFrom_inside hfits htail (ih hrest), hjoined, CodePoint.ofNat_val]

/-- Bytes are decoded to a text exactly if they are its encoding. -/
theorem decode_eq_ok_iff {bytes : List UInt8} {t : Text} :
    decode bytes = .ok t ↔ encode? t = some bytes :=
  have hopen : State.IsOpen .between := trivial
  ⟨fun h => encode?_of_decodeFrom hopen h, fun h => decodeFrom_of_encode? h 0⟩

end Utf8

end ScriptTree
