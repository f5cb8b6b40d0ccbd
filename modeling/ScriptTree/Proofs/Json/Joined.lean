import ScriptTree.Proofs.Json.RoundTrip

namespace ScriptTree

namespace Text

/-- Texts that have the same final form in every context. -/
def SameFinal (a b : Text) : Prop :=
  ∀ before rest, escapeSurrogates (before ++ (a ++ rest)) = escapeSurrogates (before ++ (b ++ rest))

theorem SameFinal.refl (a : Text) : SameFinal a a := fun _ _ => rfl

theorem SameFinal.append {a b c d : Text} (h : SameFinal a b) (h' : SameFinal c d) :
    SameFinal (a ++ c) (b ++ d) := by
  intro before rest
  calc escapeSurrogates (before ++ (a ++ c ++ rest))
      = escapeSurrogates (before ++ (a ++ (c ++ rest))) := by rw [List.append_assoc]
    _ = escapeSurrogates (before ++ (b ++ (c ++ rest))) := h before (c ++ rest)
    _ = escapeSurrogates ((before ++ b) ++ (c ++ rest)) := by rw [List.append_assoc]
    _ = escapeSurrogates ((before ++ b) ++ (d ++ rest)) := h' (before ++ b) rest
    _ = escapeSurrogates (before ++ (b ++ d ++ rest)) := by rw [List.append_assoc, List.append_assoc]

theorem SameFinal.append_right {a b : Text} (h : SameFinal a b) (c : Text) :
    SameFinal (a ++ c) (b ++ c) :=
  h.append (.refl c)

theorem SameFinal.append_left {a b : Text} (h : SameFinal a b) (c : Text) :
    SameFinal (c ++ a) (c ++ b) :=
  (SameFinal.refl c).append h

theorem sameFinal_quote (t : Text) : SameFinal (Token.quote (joinPairs t)) (Token.quote t) := by
  intro before rest
  -- No pair spans the opening quote, so what stands before it does not matter.
  have happart (s : Text) : Apart before (Token.quote s ++ rest) := by
    rintro x _ y hy ⟨-, hl⟩
    cases hy
    exact absurd hl (by decide)
  rw [escapeSurrogates_append (happart _), escapeSurrogates_append (happart _),
    Token.escapeSurrogates_quote, Token.escapeSurrogates_quote, joinPairs_joinPairs]

end Text

namespace Json

open Text

theorem sameFinal_scalarText (s : Scalar) :
    SameFinal (Token.scalarText s.joined) (Token.scalarText s) := by
  cases s with
  | str t => exact sameFinal_quote t
  | _ => exact .refl _

section Layouts

variable {layout : Layout}

theorem sameFinal_items {items : List Json} {depth : Nat}
    (h : ∀ d ∈ items, ∀ depth, SameFinal (writeAt layout depth d.joined) (writeAt layout depth d)) :
    SameFinal (writeItems layout depth (joinedItems items)) (writeItems layout depth items) := by
  induction items with
  | nil => exact .refl _
  | cons item items ih =>
    have hitem := h item List.mem_cons_self depth
    have hrest := ih fun d hd => h d (List.mem_cons_of_mem item hd)
    cases items with
    | nil => exact hitem
    | cons second items => exact (hitem.append_right _).append hrest

theorem sameFinal_members {members : Fields Json} {depth : Nat}
    (h : ∀ member ∈ members, ∀ depth,
      SameFinal (writeAt layout depth member.2.joined) (writeAt layout depth member.2)) :
    SameFinal (writeMembers layout depth (joinedMembers members))
      (writeMembers layout depth members) := by
  induction members with
  | nil => exact .refl _
  | cons member members ih =>
    obtain ⟨name, value⟩ := member
    have hvalue := h (name, value) List.mem_cons_self depth
    have hmember := ((sameFinal_quote name).append_right layout.colon).append hvalue
    have hrest := ih fun other hm => h other (List.mem_cons_of_mem _ hm)
    cases members with
    | nil => exact hmember
    | cons second members => exact (hmember.append_right _).append hrest

theorem sameFinal_writeAt (d : Json) (depth : Nat) :
    SameFinal (writeAt layout depth d.joined) (writeAt layout depth d) := by
  induction d using Json.induction generalizing depth with
  | leaf s => exact sameFinal_scalarText s
  | arr items ih =>
    cases items with
    | nil => exact .refl _
    | cons item items => exact (((sameFinal_items ih).append_left _).append_right _).append_right _
  | obj members ih =>
    cases members with
    | nil => exact .refl _
    | cons member members =>
      exact (((sameFinal_members ih).append_left _).append_right _).append_right _

theorem escapeSurrogates_write_joined (d : Json) :
    escapeSurrogates (d.joined.write layout) = escapeSurrogates (d.write layout) := by
  have h := @sameFinal_writeAt layout d 0 [] []
  rwa [List.append_nil, List.append_nil] at h

end Layouts

end Json

end ScriptTree
