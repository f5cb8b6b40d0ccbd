import Mathlib.Data.List.Lex
import ScriptTree.Basic

namespace ScriptTree

/-- The order of code points by number. -/
def CodePoint.Precedes (c d : CodePoint) : Prop := c.val < d.val

namespace CodePoint

instance : Std.Asymm Precedes where
  asymm _ _ := Nat.lt_asymm

instance : Std.Trichotomous Precedes where
  trichotomous c d hcd hdc := by
    obtain ⟨c, hc⟩ := c
    obtain ⟨d, hd⟩ := d
    have heq : c = d := Nat.le_antisymm (Nat.le_of_not_lt hdc) (Nat.le_of_not_lt hcd)
    subst heq
    rfl

instance : IsOrderConnected CodePoint Precedes where
  conn c d e h := by
    unfold Precedes at *
    omega

end CodePoint

namespace Text

/-- Names in the lexicographic order, each of them in the lexicographic order of its code points. -/
def NamesPrecede : List Text → List Text → Prop := List.Lex (List.Lex CodePoint.Precedes)

instance : Std.Asymm NamesPrecede := inferInstanceAs (Std.Asymm (List.Lex (List.Lex _)))
instance : Std.Trichotomous NamesPrecede := inferInstanceAs (Std.Trichotomous (List.Lex (List.Lex _)))
instance : IsOrderConnected (List Text) NamesPrecede :=
  inferInstanceAs (IsOrderConnected _ (List.Lex (List.Lex _)))

theorem before_iff {s t : Text} : s.before t = true ↔ List.Lex CodePoint.Precedes s t := by
  simp only [before, List.lex_eq_decide_lex, decide_eq_true_eq]
  rfl

theorem namesBefore_iff {xs ys : List Text} : namesBefore xs ys = true ↔ NamesPrecede xs ys := by
  simp only [namesBefore, List.lex_eq_decide_lex, decide_eq_true_eq, before_iff]
  rfl

theorem not_namesBefore_iff {xs ys : List Text} :
    (!namesBefore xs ys) = true ↔ ¬ NamesPrecede xs ys := by
  rw [Bool.not_eq_true', ← Bool.not_eq_true, namesBefore_iff]

/-- Different names that are sorted increase strictly. -/
theorem pairwise_mergeSort_namesBefore {names : List (List Text)} (h : names.Nodup) :
    (names.mergeSort fun xs ys => !namesBefore ys xs).Pairwise NamesPrecede := by
  have htrans : ∀ xs ys zs : List Text, (!namesBefore ys xs) = true → (!namesBefore zs ys) = true →
      (!namesBefore zs xs) = true := by
    intro xs ys zs hxy hyz
    rw [not_namesBefore_iff] at hxy hyz ⊢
    -- What comes before `xs` comes before `ys`, unless `ys` comes before `xs`.
    exact fun hzx => (IsOrderConnected.conn zs ys xs hzx).elim hyz hxy
  have htotal : ∀ xs ys : List Text, ((!namesBefore ys xs) || (!namesBefore xs ys)) = true := by
    intro xs ys
    rw [Bool.or_eq_true, not_namesBefore_iff, not_namesBefore_iff]
    by_cases hyx : NamesPrecede ys xs
    · exact Or.inr (Std.Asymm.asymm ys xs hyx)
    · exact Or.inl hyx
  have hsorted := List.pairwise_mergeSort htrans htotal names
  have hnodup := (List.mergeSort_perm names fun xs ys => !namesBefore ys xs).nodup_iff.mpr h
  refine hsorted.imp₂ ?_ hnodup
  intro xs ys hle hne
  rw [not_namesBefore_iff] at hle
  by_contra hlt
  exact hne (Std.Trichotomous.trichotomous xs ys hlt hle)

end Text

end ScriptTree
