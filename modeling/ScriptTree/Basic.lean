namespace ScriptTree

/-- A code point: a number below 0x110000. Surrogate halves are code points too. -/
structure CodePoint where
  val : Nat
  isLt : val < 0x110000
deriving DecidableEq

/-- A text is the list of its code points. No `String` would do: a text of a syntax tree may hold half
of a surrogate pair. -/
abbrev Text := List CodePoint

namespace CodePoint

instance : Inhabited CodePoint := ⟨⟨0, by decide⟩⟩

/-- The code point of a character. -/
def ofChar (c : Char) : CodePoint :=
  ⟨c.toNat, by
    have h := c.valid
    simp only [UInt32.isValidChar, Nat.isValidChar] at h
    simp only [Char.toNat]
    omega⟩

instance : Coe Char CodePoint := ⟨ofChar⟩

/-- The code point with a given number; U+FFFD stands for a number out of range. -/
def ofNat (n : Nat) : CodePoint :=
  if h : n < 0x110000 then ⟨n, h⟩ else ⟨0xFFFD, by decide⟩

theorem val_ofNat {n : Nat} (h : n < 0x110000) : (ofNat n).val = n := by
  simp [ofNat, h]

@[simp] theorem ofNat_val (c : CodePoint) : ofNat c.val = c := dif_pos c.isLt

/-- A half of a surrogate pair that stands first. -/
def IsHigh (c : CodePoint) : Prop := 0xD800 ≤ c.val ∧ c.val < 0xDC00

/-- A half of a surrogate pair that stands second. -/
def IsLow (c : CodePoint) : Prop := 0xDC00 ≤ c.val ∧ c.val < 0xE000

/-- A half of a surrogate pair. -/
def IsSurrogate (c : CodePoint) : Prop := 0xD800 ≤ c.val ∧ c.val < 0xE000

instance (c : CodePoint) : Decidable c.IsHigh := inferInstanceAs (Decidable (_ ∧ _))
instance (c : CodePoint) : Decidable c.IsLow := inferInstanceAs (Decidable (_ ∧ _))
instance (c : CodePoint) : Decidable c.IsSurrogate := inferInstanceAs (Decidable (_ ∧ _))

/-- A code point that is no surrogate half is a character. -/
def toChar? (c : CodePoint) : Option Char :=
  if h : Nat.isValidChar c.val then some (Char.ofNatAux c.val h) else none

/-- The character of a code point, U+FFFD for a surrogate half. -/
def toChar (c : CodePoint) : Char := c.toChar?.getD '\ufffd'

/-- An ASCII decimal digit. -/
def isDigit (c : CodePoint) : Bool := 48 ≤ c.val && c.val ≤ 57

/-- An ASCII octal digit. -/
def isOctalDigit (c : CodePoint) : Bool := 48 ≤ c.val && c.val ≤ 55

/-- The value of an ASCII hexadecimal digit of either case. -/
def hexValue? (c : CodePoint) : Option Nat :=
  if 48 ≤ c.val ∧ c.val ≤ 57 then some (c.val - 48)
  else if 97 ≤ c.val ∧ c.val ≤ 102 then some (c.val - 87)
  else if 65 ≤ c.val ∧ c.val ≤ 70 then some (c.val - 55)
  else none

/-- An ASCII hexadecimal digit. -/
def isHexDigit (c : CodePoint) : Bool := c.hexValue?.isSome

/-- An ASCII letter. -/
def isLetter (c : CodePoint) : Bool :=
  (65 ≤ c.val && c.val ≤ 90) || (97 ≤ c.val && c.val ≤ 122)

/-- The value of an ASCII decimal digit; meaningful only for digits. -/
def digitValue (c : CodePoint) : Nat := c.val - 48

/-- The digit with a given value below 16, lower case. -/
def ofDigit (d : Nat) : CodePoint :=
  if d < 10 then ofNat (48 + d) else ofNat (87 + d)

/-- The lower-case form of an ASCII letter, any other code point unchanged. -/
def lower (c : CodePoint) : CodePoint :=
  if 65 ≤ c.val ∧ c.val ≤ 90 then ofNat (c.val + 32) else c

/-- Membership in a table of closed ranges. -/
def inRanges (ranges : List (Nat × Nat)) (c : CodePoint) : Bool :=
  ranges.any fun r => r.1 ≤ c.val && c.val ≤ r.2

end CodePoint

namespace Text

/-- The code points of a string. -/
def ofString (s : String) : Text := s.toList.map CodePoint.ofChar

instance : Coe String Text := ⟨ofString⟩

/-- The string of a text, U+FFFD for each surrogate half. -/
def toString (t : Text) : String := String.ofList (t.map CodePoint.toChar)

/-- The digits of a number in base ten, most significant first. -/
def decimalDigits (n : Nat) : List Nat :=
  if n < 10 then [n] else decimalDigits (n / 10) ++ [n % 10]

/-- A natural number in base ten. -/
def ofNat (n : Nat) : Text := (decimalDigits n).map CodePoint.ofDigit

/-- An integer in base ten, with a minus sign if it is negative. -/
def ofInt (i : Int) : Text :=
  if i < 0 then CodePoint.ofChar '-' :: ofNat i.natAbs else ofNat i.natAbs

/-- The number written by a list of digits in a base, most significant first. -/
def ofDigitValues (base : Nat) (digits : List Nat) : Nat :=
  digits.foldl (fun n d => n * base + d) 0

/-- The number written in base ten; meaningful only for ASCII digits. -/
def decimalValue (t : Text) : Nat := ofDigitValues 10 (t.map CodePoint.digitValue)

/-- A number as hexadecimal digits, lower case, at least `width` of them. -/
def hexadecimal (width n : Nat) : Text :=
  let digits := (Nat.toDigits 16 n).map CodePoint.ofChar
  List.replicate (width - digits.length) (CodePoint.ofChar '0') ++ digits

/-- The parts of a text between the occurrences of a code point; never empty. -/
def split (separator : CodePoint) : Text → List Text
  | [] => [[]]
  | c :: rest =>
    match split separator rest with
    | [] => [[c]]
    | part :: parts =>
      if c = separator then [] :: part :: parts else (c :: part) :: parts

/-- The parts written one after the other with a separator between them. -/
def join (separator : Text) : List Text → Text
  | [] => []
  | [part] => part
  | part :: parts => part ++ separator ++ join separator parts

/-- The lines of a text: a line feed ends a line, and the last line may be empty. -/
def lines (t : Text) : List Text := split (CodePoint.ofChar '\n') t

/-- Lines written with one line feed between any two. -/
def unlines (ls : List Text) : Text := join [CodePoint.ofChar '\n'] ls

end Text

theorem Text.split_ne_nil (separator : CodePoint) (t : Text) : Text.split separator t ≠ [] := by
  induction t with
  | nil => simp [Text.split]
  | cons c rest ih =>
    simp only [Text.split]
    split
    next => simp
    next => split <;> simp

/-- Strictly before in the order by code points. -/
def Text.before (s t : Text) : Bool := List.lex s t fun c d => decide (c.val < d.val)

/-- Strictly before in the order by names. -/
def Text.namesBefore (xs ys : List Text) : Bool := List.lex xs ys Text.before

/-- The blank code points: the whitespace of Unicode and the four ASCII separators. Zero-width spaces
and the byte order mark are not blank. -/
def CodePoint.blankRanges : List (Nat × Nat) :=
  [(0x9, 0xD), (0x1C, 0x20), (0x85, 0x85), (0xA0, 0xA0), (0x1680, 0x1680), (0x2000, 0x200A),
   (0x2028, 0x2029), (0x202F, 0x202F), (0x205F, 0x205F), (0x3000, 0x3000)]

def CodePoint.isBlank (c : CodePoint) : Bool := c.inRanges blankRanges

/-- A text of blanks only. -/
def Text.isBlank (t : Text) : Bool := t.all CodePoint.isBlank

/-- Named values in order. -/
abbrev Fields (α : Type) := List (Text × α)

namespace Fields

variable {α β : Type}

/-- The names, in order. -/
def names (fields : Fields α) : List Text := fields.map (·.1)

/-- The value of the first field of a name. -/
def get? (name : Text) : Fields α → Option α
  | [] => none
  | (key, value) :: rest => if key = name then some value else get? name rest

/-- A value given to a name: a present name keeps its position, a new one goes to the end. -/
def put (name : Text) (value : α) : Fields α → Fields α
  | [] => [(name, value)]
  | (key, old) :: rest =>
    if key = name then (key, value) :: rest else (key, old) :: put name value rest

/-- The dictionary of a list of fields: each name once, at its first position, with its last
value. -/
def dictionary (fields : Fields α) : Fields α :=
  fields.foldl (fun d field => put field.1 field.2 d) []

end Fields

theorem Fields.get?_put_self {α : Type} (name : Text) (value : α) (fields : Fields α) :
    (fields.put name value).get? name = some value := by
  induction fields with
  | nil => simp [Fields.put, Fields.get?]
  | cons field rest ih =>
    obtain ⟨key, old⟩ := field
    by_cases h : key = name <;> simp [Fields.put, Fields.get?, h, ih]

/-- Repeats a step, at most a number of times, until it gives a result; gives up after that. -/
def iterate {m : Type → Type} [Monad m] {σ α : Type} (giveUp : m α) (step : σ → m (σ ⊕ α)) :
    Nat → σ → m α
  | 0, _ => giveUp
  | n + 1, s => do
    match ← step s with
    | .inl s => iterate giveUp step n s
    | .inr a => return a

end ScriptTree
