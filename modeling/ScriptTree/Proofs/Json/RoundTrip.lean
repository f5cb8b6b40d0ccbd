import ScriptTree.Json.Reader
import ScriptTree.Proofs.Json.Layout

namespace ScriptTree

namespace Json

mutual

/-- A document with the pairs of halves joined in every string and name. -/
def joined : Json → Json
  | leaf s => leaf s.joined
  | arr items => arr (joinedItems items)
  | obj members => obj (joinedMembers members)

def joinedItems : List Json → List Json
  | [] => []
  | item :: items => joined item :: joinedItems items

def joinedMembers : List (Text × Json) → List (Text × Json)
  | [] => []
  | (name, value) :: members => (Text.joinPairs name, joined value) :: joinedMembers members

end

theorem joinedItems_eq_map (items : List Json) : joinedItems items = items.map joined := by
  induction items with
  | nil => rfl
  | cons item items ih => rw [joinedItems, ih, List.map_cons]

theorem joinedMembers_eq_map (members : List (Text × Json)) :
    joinedMembers members = members.map fun member => (Text.joinPairs member.1, joined member.2) := by
  induction members with
  | nil => rfl
  | cons member members ih =>
    obtain ⟨name, value⟩ := member
    rw [joinedMembers, ih, List.map_cons]

/-- A document whose numbers are all finite. -/
inductive IsFinite : Json → Prop where
  | leaf {s : Scalar} : s.IsFinite → IsFinite (.leaf s)
  | arr {items : List Json} : (∀ item ∈ items, IsFinite item) → IsFinite (.arr items)
  | obj {members : List (Text × Json)} : (∀ member ∈ members, IsFinite member.2) →
      IsFinite (.obj members)

theorem tokensOfItems_joined {items : List Json}
    (h : ∀ item ∈ items, item.joined.tokens = item.tokens.map Token.joined) :
    tokensOfItems (joinedItems items) = (tokensOfItems items).map Token.joined := by
  induction items with
  | nil => rfl
  | cons item items ih =>
    have hitem := h item List.mem_cons_self
    have hrest := ih fun other hm => h other (List.mem_cons_of_mem item hm)
    cases items with
    | nil => exact hitem
    | cons second items =>
      calc tokensOfItems (joinedItems (item :: second :: items))
          = item.joined.tokens ++ .comma :: tokensOfItems (joinedItems (second :: items)) := rfl
        _ = (item.tokens ++ .comma :: tokensOfItems (second :: items)).map Token.joined := by
          rw [hitem, hrest, List.map_append]
          rfl

theorem tokensOfMembers_joined {members : List (Text × Json)}
    (h : ∀ member ∈ members, member.2.joined.tokens = member.2.tokens.map Token.joined) :
    tokensOfMembers (joinedMembers members) = (tokensOfMembers members).map Token.joined := by
  induction members with
  | nil => rfl
  | cons member members ih =>
    obtain ⟨name, value⟩ := member
    have hvalue : value.joined.tokens = value.tokens.map Token.joined :=
      h (name, value) List.mem_cons_self
    have hrest := ih fun other hm => h other (List.mem_cons_of_mem _ hm)
    cases members with
    | nil => exact congrArg (.scalar (.str (Text.joinPairs name)) :: .colon :: ·) hvalue
    | cons second members =>
      calc tokensOfMembers (joinedMembers ((name, value) :: second :: members))
          = .scalar (.str (Text.joinPairs name)) :: .colon ::
              (value.joined.tokens ++ .comma :: tokensOfMembers
                (joinedMembers (second :: members))) := rfl
        _ = (.scalar (.str name) :: .colon ::
              (value.tokens ++ .comma :: tokensOfMembers (second :: members))).map Token.joined := by
          rw [hvalue, hrest, List.map_cons, List.map_cons, List.map_append]
          rfl

theorem tokens_joined (d : Json) : d.joined.tokens = d.tokens.map Token.joined := by
  induction d using Json.induction with
  | leaf s => rfl
  | arr items ih =>
    rw [joined, tokens, tokens, tokensOfItems_joined ih, List.map_cons, List.map_append]
    rfl
  | obj members ih =>
    rw [joined, tokens, tokens, tokensOfMembers_joined ih, List.map_cons, List.map_append]
    rfl

theorem mem_tokensOfItems {items : List Json} {token : Token} (h : token ∈ tokensOfItems items) :
    token = .comma ∨ ∃ item ∈ items, token ∈ item.tokens := by
  induction items with
  | nil => cases h
  | cons item items ih =>
    cases items with
    | nil => exact Or.inr ⟨item, List.mem_cons_self, h⟩
    | cons second items =>
      rw [tokensOfItems.eq_3 _ _ (by simp)] at h
      rcases List.mem_append.mp h with h | h
      · exact Or.inr ⟨item, List.mem_cons_self, h⟩
      rcases List.mem_cons.mp h with h | h
      · exact Or.inl h
      · exact (ih h).imp_right fun ⟨other, hm, ho⟩ => ⟨other, List.mem_cons_of_mem item hm, ho⟩

theorem mem_tokensOfMembers {members : List (Text × Json)} {token : Token}
    (h : token ∈ tokensOfMembers members) :
    token = .comma ∨ token = .colon ∨ ∃ member ∈ members, token = .scalar (.str member.1) ∨
      token ∈ member.2.tokens := by
  induction members with
  | nil => cases h
  | cons member members ih =>
    obtain ⟨name, value⟩ := member
    have hhere (h : token = .scalar (.str name) ∨ token ∈ value.tokens) :
        ∃ member ∈ (name, value) :: members, token = .scalar (.str member.1) ∨
          token ∈ member.2.tokens :=
      ⟨(name, value), List.mem_cons_self, h⟩
    cases members with
    | nil =>
      rcases List.mem_cons.mp h with h | h
      · exact Or.inr (Or.inr (hhere (Or.inl h)))
      rcases List.mem_cons.mp h with h | h
      · exact Or.inr (Or.inl h)
      · exact Or.inr (Or.inr (hhere (Or.inr h)))
    | cons second members =>
      rw [tokensOfMembers.eq_3 _ _ _ (by simp)] at h
      rcases List.mem_cons.mp h with h | h
      · exact Or.inr (Or.inr (hhere (Or.inl h)))
      rcases List.mem_cons.mp h with h | h
      · exact Or.inr (Or.inl h)
      rcases List.mem_append.mp h with h | h
      · exact Or.inr (Or.inr (hhere (Or.inr h)))
      rcases List.mem_cons.mp h with h | h
      · exact Or.inl h
      · exact (ih h).imp_right
          (Or.imp_right fun ⟨other, hm, ho⟩ => ⟨other, List.mem_cons_of_mem _ hm, ho⟩)

/-- The tokens of a finite document can be written. -/
theorem isFinite_of_mem_tokens {d : Json} (h : d.IsFinite) : ∀ token ∈ d.tokens, token.IsFinite := by
  induction h with
  | leaf hs =>
    intro token hm t ht
    cases (List.mem_singleton.mp hm).symm.trans ht
    exact hs
  | arr _ ih =>
    intro token hm
    rcases List.mem_cons.mp hm with rfl | hm
    · exact Token.isFinite_mark (by simp)
    rcases List.mem_append.mp hm with hm | hm
    · rcases mem_tokensOfItems hm with rfl | ⟨item, hitem, hm⟩
      · exact Token.isFinite_mark (by simp)
      · exact ih item hitem token hm
    · rw [List.mem_singleton.mp hm]
      exact Token.isFinite_mark (by simp)
  | obj _ ih =>
    intro token hm
    rcases List.mem_cons.mp hm with rfl | hm
    · exact Token.isFinite_mark (by simp)
    rcases List.mem_append.mp hm with hm | hm
    · rcases mem_tokensOfMembers hm with rfl | rfl | ⟨member, hmember, rfl | hm⟩
      · exact Token.isFinite_mark (by simp)
      · exact Token.isFinite_mark (by simp)
      · rintro s hs x rfl
        cases hs
      · exact ih member hmember token hm
    · rw [List.mem_singleton.mp hm]
      exact Token.isFinite_mark (by simp)

/-- The final text of a document is its tokens in their final texts, with gaps between them. -/
theorem escapeSurrogates_write {layout : Layout} (hl : layout.IsBlank) {d : Json} (hd : d.IsFinite) :
    Text.escapeSurrogates (d.write layout) = spread layout Token.finalText 0 d.tokens := by
  rw [write, ← (writes_tokens layout d).text, escapeSurrogates_spread hl (isFinite_of_mem_tokens hd)]

namespace Reading

/-- Reading the tokens of a document where a value must stand gives the document. -/
def Takes (d : Json) : Prop :=
  ∀ (frames : List Frame) (rest : List Token),
    run (.value frames) (d.tokens ++ rest) = run (.ended d frames) rest

theorem run_cons {reading : Reading} {token : Token} (next : Reading)
    (h : step reading token = some next)
    (rest : List Token) : run reading (token :: rest) = run next rest := by
  cases reading <;> rw [run, h, Option.bind_some]

theorem exists_tokens_cons (d : Json) : ∃ token rest, d.tokens = token :: rest ∧ token ≠ .endArray := by
  cases d with
  | leaf s => exact ⟨_, _, rfl, by simp⟩
  | arr items => exact ⟨_, _, rfl, by simp⟩
  | obj members => exact ⟨_, _, rfl, by simp⟩

/-- The first item of an array is read as any other. -/
theorem run_firstItem (d : Json) (frames : List Frame) (rest : List Token) :
    run (.firstItem frames) (d.tokens ++ rest) = run (.value (.items [] :: frames))
      (d.tokens ++ rest) := by
  obtain ⟨token, tail, htokens, hne⟩ := exists_tokens_cons d
  rw [htokens, List.cons_append]
  cases token <;> first | rfl | exact absurd rfl hne

theorem run_items {item : Json} {items : List Json} (h : ∀ d ∈ item :: items, Takes d)
    (read : List Json) (frames : List Frame) (rest : List Token) :
    run (.value (.items read :: frames)) (tokensOfItems (item :: items) ++ .endArray :: rest) =
      run (.ended (.arr (read.reverse ++ item :: items)) frames) rest := by
  induction items generalizing item read with
  | nil =>
    rw [tokensOfItems, h item List.mem_cons_self,
      run_cons (.ended (.arr (item :: read).reverse) frames) rfl, List.reverse_cons]
  | cons second items ih =>
    have hrest := ih (fun d hd => h d (List.mem_cons_of_mem item hd)) (item :: read)
    rw [tokensOfItems, List.append_assoc, h item List.mem_cons_self, List.cons_append,
      run_cons (.value (.items (item :: read) :: frames)) rfl, hrest, List.reverse_cons,
      List.append_assoc]
    · rfl
    · simp

theorem run_members {name : Text} {value : Json} {members : List (Text × Json)}
    (h : ∀ member ∈ (name, value) :: members, Takes member.2) (read : List (Text × Json))
    (frames : List Frame) (rest : List Token) :
    run (.name read frames) (tokensOfMembers ((name, value) :: members) ++ .endObject :: rest) =
      run (.ended (.obj (read.reverse ++ (name, value) :: members)) frames) rest := by
  have hname (t : List Token) : run (.name read frames) (.scalar (.str name) :: .colon :: t) =
      run (.value (.members read name :: frames)) t := rfl
  have hvalue : Takes value := h (name, value) List.mem_cons_self
  induction members generalizing name value read with
  | nil =>
    rw [tokensOfMembers, List.cons_append, List.cons_append, hname, hvalue,
      run_cons (.ended (.obj ((name, value) :: read).reverse) frames) rfl, List.reverse_cons]
  | cons second members ih =>
    obtain ⟨name', value'⟩ := second
    have hmembers : ∀ member ∈ (name', value') :: members, Takes member.2 :=
      fun member hm => h member (List.mem_cons_of_mem _ hm)
    have hrest := ih hmembers ((name, value) :: read) (fun _ => rfl) (hmembers _ List.mem_cons_self)
    rw [tokensOfMembers, List.cons_append, List.cons_append, hname, List.append_assoc, hvalue,
      List.cons_append, run_cons (.name ((name, value) :: read) frames) rfl, hrest, List.reverse_cons,
      List.append_assoc]
    · rfl
    · simp

theorem takes (d : Json) : Takes d := by
  induction d using Json.induction with
  | leaf s => exact fun _ _ => rfl
  | arr items ih =>
    intro frames rest
    have hbegin (t : List Token) :
        run (.value frames) (.beginArray :: t) = run (.firstItem frames) t := rfl
    rw [tokens, List.cons_append, List.append_assoc, hbegin]
    cases items with
    | nil => rfl
    | cons item items =>
      have hfirst : ∃ t, tokensOfItems (item :: items) = item.tokens ++ t := by
        cases items with
        | nil => exact ⟨[], by rw [tokensOfItems, List.append_nil]⟩
        | cons second items => exact ⟨_, rfl⟩
      obtain ⟨t, ht⟩ := hfirst
      rw [ht, List.append_assoc, run_firstItem, ← List.append_assoc, ← ht]
      exact run_items ih [] frames rest
  | obj members ih =>
    intro frames rest
    have hbegin (t : List Token) :
        run (.value frames) (.beginObject :: t) = run (.firstName frames) t := rfl
    rw [tokens, List.cons_append, List.append_assoc, hbegin]
    cases members with
    | nil => rfl
    | cons member members =>
      obtain ⟨name, value⟩ := member
      have hfirst : ∃ t, tokensOfMembers ((name, value) :: members) = .scalar (.str name) :: t := by
        cases members <;> exact ⟨_, rfl⟩
      obtain ⟨t, ht⟩ := hfirst
      have hsame (t : List Token) : run (.firstName frames) (.scalar (.str name) :: t) =
          run (.name [] frames) (.scalar (.str name) :: t) := rfl
      rw [ht, List.cons_append, hsame, ← List.cons_append, ← ht]
      exact run_members ih [] frames rest

end Reading

/-- The tokens of a document give the document. -/
theorem ofTokens?_tokens (d : Json) : ofTokens? d.tokens = some d := by
  have h := Reading.takes d [] []
  rw [List.append_nil] at h
  exact h

/-- The text of a finite document gives its tokens, with its pairs joined. -/
theorem tokens?_write {layout : Layout} (hl : layout.IsBlank) {d : Json} (hd : d.IsFinite) :
    (Text.escapeSurrogates (d.write layout)).tokens? = some d.joined.tokens := by
  rw [escapeSurrogates_write hl hd,
    tokens?_spread hl (writes_tokens layout d).touch (isFinite_of_mem_tokens hd), tokens_joined]

/-- The text of a finite document gives the document with its pairs joined. -/
theorem read?_write {layout : Layout} (hl : layout.IsBlank) {d : Json} (hd : d.IsFinite) :
    read? (Text.escapeSurrogates (d.write layout)) = some d.joined := by
  rw [read?, tokens?_write hl hd, Option.bind_some, ofTokens?_tokens]

end Json

end ScriptTree
