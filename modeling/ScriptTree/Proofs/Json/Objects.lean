import Mathlib.Data.List.Forall2
import ScriptTree.Proofs.Fields
import ScriptTree.Proofs.Json.RoundTrip

namespace ScriptTree

namespace Json

mutual

/-- The members of all objects, each object before those inside it and these before what follows it. -/
def objects : Json → List (Fields Json)
  | leaf _ => []
  | arr items => objectsOfItems items
  | obj members => members :: objectsOfMembers members

def objectsOfItems : List Json → List (Fields Json)
  | [] => []
  | item :: items => objects item ++ objectsOfItems items

def objectsOfMembers : List (Text × Json) → List (Fields Json)
  | [] => []
  | (_, value) :: members => objects value ++ objectsOfMembers members

end

/-- An object with a member `type`. -/
def isTyped (members : Fields Json) : Bool := (Fields.get? "type" members).isSome

/-- The value of the member `type` of an object and the names of the other members. -/
def typed? (members : Fields Json) : Option (Json × List Text) :=
  (Fields.get? "type" members).map fun type => (type, Fields.names (members.filter (·.1 ≠ "type")))

/-- An object whose `type` is a given text. -/
def isOfType (tag : Text) (members : Fields Json) : Bool :=
  match Fields.get? "type" members with
  | some (leaf s) => s = .str tag
  | _ => false

theorem filterMap_typed? (objects : List (Fields Json)) :
    (objects.filter isTyped).filterMap typed? = objects.filterMap typed? := by
  rw [List.filterMap_filter]
  refine List.filterMap_congr fun members _ => ?_
  rw [isTyped, typed?]
  cases Fields.get? "type" members <;> rfl

theorem filter_isOfType (tag : Text) (objects : List (Fields Json)) :
    (objects.filter isTyped).filter (isOfType tag) = objects.filter (isOfType tag) := by
  rw [List.filter_filter]
  refine List.filter_congr fun members _ => ?_
  rw [isTyped, isOfType]
  cases Fields.get? "type" members <;> simp

theorem objectsOfItems_eq_flatMap (items : List Json) :
    objectsOfItems items = items.flatMap objects := by
  induction items with
  | nil => rfl
  | cons item items ih => rw [objectsOfItems, ih, List.flatMap_cons]

theorem objectsOfMembers_eq_flatMap (members : Fields Json) :
    objectsOfMembers members = members.flatMap fun member => objects member.2 := by
  induction members with
  | nil => rfl
  | cons member members ih =>
    obtain ⟨name, value⟩ := member
    rw [objectsOfMembers, ih, List.flatMap_cons]

theorem objects_joined (d : Json) : d.joined.objects = d.objects.map joinedMembers := by
  induction d using Json.induction with
  | leaf s => rfl
  | arr items ih =>
    rw [joined, objects, objects, objectsOfItems_eq_flatMap, objectsOfItems_eq_flatMap,
      joinedItems_eq_map, List.flatMap_map, List.map_flatMap]
    exact List.flatMap_congr ih
  | obj members ih =>
    rw [joined, objects, objects, List.map_cons, objectsOfMembers_eq_flatMap,
      objectsOfMembers_eq_flatMap, List.map_flatMap]
    congr 1
    rw [joinedMembers_eq_map, List.flatMap_map]
    exact List.flatMap_congr ih

end Json

/-- What a list of tokens goes on with from each opening brace on. -/
def Token.openings : List Token → List (List Token)
  | [] => []
  | .beginObject :: rest => (.beginObject :: rest) :: openings rest
  | _ :: rest => openings rest

namespace Json

/-- The objects begin one after the other at the opening braces of some tokens, whatever follows
these. -/
def Begin (objects : List (Fields Json)) (tokens : List Token) : Prop :=
  ∀ rest, ∃ starts, Token.openings (tokens ++ rest) = starts ++ Token.openings rest ∧
    List.Forall₂ (fun members start => (obj members).tokens <+: start) objects starts

theorem Begin.append {objects objects' : List (Fields Json)} {tokens tokens' : List Token}
    (h : Begin objects tokens) (h' : Begin objects' tokens') :
      Begin (objects ++ objects') (tokens ++ tokens') := by
  intro rest
  obtain ⟨starts', heq', hstarts'⟩ := h' rest
  obtain ⟨starts, heq, hstarts⟩ := h (tokens' ++ rest)
  refine ⟨starts ++ starts', ?_, List.rel_append hstarts hstarts'⟩
  rw [List.append_assoc, heq, heq', List.append_assoc]

theorem begin_token {token : Token} (h : token ≠ .beginObject) : Begin [] [token] := by
  intro rest
  refine ⟨[], ?_, .nil⟩
  cases token <;> first | rfl | exact absurd rfl h

theorem Begin.cons {objects : List (Fields Json)} {token : Token}
    {tokens : List Token} (hne : token ≠ .beginObject)
    (h : Begin objects tokens) : Begin objects (token :: tokens) :=
  (begin_token hne).append h

theorem begin_items {items : List Json} (h : ∀ d ∈ items, Begin d.objects d.tokens) :
    Begin (objectsOfItems items) (tokensOfItems items) := by
  induction items with
  | nil => exact fun rest => ⟨[], rfl, .nil⟩
  | cons item items ih =>
    have hitem := h item List.mem_cons_self
    have hrest := ih fun d hd => h d (List.mem_cons_of_mem item hd)
    rw [objectsOfItems]
    cases items with
    | nil =>
      rw [tokensOfItems, objectsOfItems, List.append_nil]
      exact hitem
    | cons second items =>
      rw [tokensOfItems]
      · exact hitem.append (hrest.cons (by simp))
      · simp

theorem begin_members {members : Fields Json}
    (h : ∀ member ∈ members, Begin member.2.objects member.2.tokens) :
    Begin (objectsOfMembers members) (tokensOfMembers members) := by
  induction members with
  | nil => exact fun rest => ⟨[], rfl, .nil⟩
  | cons member members ih =>
    obtain ⟨name, value⟩ := member
    have hvalue := h (name, value) List.mem_cons_self
    have hrest := ih fun other hm => h other (List.mem_cons_of_mem _ hm)
    rw [objectsOfMembers]
    cases members with
    | nil =>
      rw [tokensOfMembers, objectsOfMembers, List.append_nil]
      exact (hvalue.cons (by simp)).cons (by simp)
    | cons second members =>
      rw [tokensOfMembers]
      · exact ((hvalue.append (hrest.cons (by simp))).cons (by simp)).cons (by simp)
      · simp

theorem begin_tokens (d : Json) : Begin d.objects d.tokens := by
  induction d using Json.induction with
  | leaf s => exact begin_token (by simp)
  | arr items ih =>
    have hclosed : Begin [] [Token.endArray] := begin_token (by simp)
    have hend := (begin_items ih).append hclosed
    rw [List.append_nil] at hend
    exact hend.cons (by simp)
  | obj members ih =>
    intro rest
    have hclosed : Begin [] [Token.endObject] := begin_token (by simp)
    have hend := (begin_members ih).append hclosed
    obtain ⟨starts, heq, hstarts⟩ := hend rest
    rw [List.append_nil] at hstarts
    refine ⟨((obj members).tokens ++ rest) :: starts, ?_, .cons (List.prefix_append _ _) hstarts⟩
    rw [tokens, List.cons_append, Token.openings, heq, List.cons_append]

/-- At every opening brace of a written document begins an object, in order. -/
theorem openings_tokens (d : Json) :
    List.Forall₂ (fun members start => (obj members).joined.tokens <+: start) d.objects
      (Token.openings d.joined.tokens) := by
  -- Joining pairs moves no brace: the objects of the joined document are the objects, each one joined.
  obtain ⟨starts, heq, hstarts⟩ := begin_tokens d.joined []
  rw [List.append_nil, Token.openings, List.append_nil] at heq
  rw [objects_joined, List.forall₂_map_left_iff] at hstarts
  rw [heq]
  exact hstarts

end Json

end ScriptTree
