import ScriptTree.Proofs.Files.Tree

namespace ScriptTree

namespace Entry

variable {P : List Text → Bool}

/-- A directory in which one name leads to something else lists its files in the same order. -/
theorem filter_filesAmong_put {name : Text} {child : Entry} {entries : List (Text × Entry)}
    (h : (filesAt (name, child)).filter P
      = ((Fields.get? name entries).elim [] fun old => (filesAt (name, old)).filter P)) :
    (filesAmong (Fields.put name child entries)).filter P = (filesAmong entries).filter P := by
  rw [filesAmong_eq_flatMap, filesAmong_eq_flatMap]
  induction entries with
  | nil => simpa [Fields.put, Fields.get?] using h
  | cons first entries ih =>
    obtain ⟨key, old⟩ := first
    by_cases hk : key = name
    · subst hk
      simp only [Fields.get?, ↓reduceIte, Option.elim_some] at h
      simp only [Fields.put, ↓reduceIte, List.flatMap_cons, List.filter_append, h]
    · simp only [Fields.get?, hk, ↓reduceIte] at h
      simp only [Fields.put, hk, ↓reduceIte, List.flatMap_cons, List.filter_append, ih h]

theorem filter_filesAt_leaf {name : Text} {e : Entry} (h : e.IsLeaf)
    (hP : ∀ content, e = file content → P [name] = false) : (filesAt (name, e)).filter P = [] := by
  cases e with
  | file content => simp [filesAt, hP content rfl]
  | directory entries =>
    cases h
    simp [filesAt, filesAmong]

theorem filter_filesAt_directory (name : Text) (entries : List (Text × Entry)) :
    (filesAt (name, directory entries)).filter P
      = ((directory entries).filesBelow.filter fun names => P (name :: names)).map (name :: ·) := by
  rw [filesAt, filesBelow, List.filter_map]
  rfl

theorem filesBelow_leaf {e : Entry} (h : e.IsLeaf) : e.filesBelow = [] := by
  cases e with
  | file content => rfl
  | directory entries =>
    cases h
    rw [filesBelow, filesAmong]

/-- Putting something below an entry makes no file of a directory. -/
theorem insert_directory (new : Entry) {place : List Text} (hne : place ≠ [])
    (entries : List (Text × Entry)) :
    ∃ more, insert new place (directory entries) = directory more := by
  obtain ⟨name, rest, rfl⟩ := List.exists_cons_of_ne_nil hne
  cases rest with
  | nil => exact ⟨_, rfl⟩
  | cons next rest =>
    rw [insert.eq_4 _ _ _ _ (by simp)]
    split
    next => exact ⟨_, rfl⟩
    next => exact ⟨_, rfl⟩

/-- Putting a leaf where no directory is leaves the list of other files as it was. -/
theorem filter_filesBelow_insert {new : Entry} {place : List Text} {e : Entry} (hnew : new.IsLeaf)
    (hplace : ¬ e.IsDirectoryAt place)
    (hP : ∀ content, new = file content ∨ e.contentAt? place = some content → P place = false) :
    (insert new place e).filesBelow.filter P = e.filesBelow.filter P := by
  fun_induction insert new place e generalizing P with
  | case1 e => rw [filesBelow_leaf hnew, filesBelow_leaf (isLeaf_of_not_isDirectoryAt hplace)]
  | case2 name rest content => rfl
  | case3 name entries =>
    rw [filesBelow, filesBelow]
    apply filter_filesAmong_put
    rw [filter_filesAt_leaf hnew fun content hc => hP content (Or.inl hc)]
    cases hold : Fields.get? name entries with
    | none => rfl
    | some old =>
      have hleaf : ¬ old.IsDirectoryAt [] := fun h => hplace (isDirectoryAt_cons.mpr ⟨old, hold, h⟩)
      refine (filter_filesAt_leaf (isLeaf_of_not_isDirectoryAt hleaf) fun content hc => ?_).symm
      refine hP content (Or.inr ?_)
      rw [contentAt?_cons, hold, hc]
      rfl
  | case4 name rest entries hmore child hchild ih =>
    cases child with
    | file content =>
      obtain ⟨next, rest, rfl⟩ := List.exists_cons_of_ne_nil hmore
      rw [insert, Fields.put_of_get? hchild]
    | directory inner =>
      obtain ⟨more, hinsert⟩ := insert_directory new (fun h => hmore h) inner
      have hdeep : ¬ (directory inner).IsDirectoryAt rest :=
        fun h => hplace (isDirectoryAt_cons.mpr ⟨_, hchild, h⟩)
      have hrest := ih hdeep (P := fun names => P (name :: names)) fun content hc => by
        refine hP content (hc.imp_right fun hc => ?_)
        rw [contentAt?_cons, hchild]
        exact hc
      rw [filesBelow, filesBelow]
      apply filter_filesAmong_put
      rw [hchild, Option.elim_some, filter_filesAt_directory, ← hrest, hinsert,
        filter_filesAt_directory]
  | case5 name rest entries hmore hnone => rfl

theorem find?_insert_ne {name first : Text} (h : name ≠ first) (new : Entry) (names rest : List Text)
    (entries : List (Text × Entry)) :
    (insert new (first :: rest) (directory entries)).find? (name :: names)
      = (directory entries).find? (name :: names) := by
  cases rest with
  | nil => simp only [insert, find?, Fields.get?_put_ne h]
  | cons next rest =>
    rw [insert.eq_4 _ _ _ _ (by simp)]
    split
    next => simp only [find?, Fields.get?_put_ne h]
    next => rfl

/-- A directory keeps its other files, in the order of the list, when a leaf is put where no
directory is. -/
theorem find?_insert_directory {new : Entry} {place : List Text} {e : Entry} (hnew : new.IsLeaf)
    (hplace : ¬ e.IsDirectoryAt place) {dir : List Text} {inner : List (Text × Entry)}
    (hdir : e.find? dir = some (directory inner)) :
    ∃ more, (insert new place e).find? dir = some (directory more) ∧ ∀ P : List Text → Bool,
      (∀ names content, dir ++ names = place → new = file content ∨ e.contentAt? place = some content →
        P names = false) → (filesAmong more).filter P = (filesAmong inner).filter P := by
  induction dir generalizing e place with
  | nil =>
    cases hdir
    have hne : place ≠ [] := fun h => hplace (h ▸ ⟨inner, rfl⟩)
    obtain ⟨more, hmore⟩ := insert_directory new hne inner
    refine ⟨more, hmore ▸ rfl, fun P hP => ?_⟩
    have hfilter := filter_filesBelow_insert (P := P) hnew hplace
        fun content hc => hP place content rfl hc
    rwa [hmore] at hfilter
  | cons name dir ih =>
    cases e with
    | file content => cases hdir
    | directory entries =>
      obtain ⟨child, hchild, hrest⟩ := Option.bind_eq_some_iff.mp hdir
      have hne : place ≠ [] := fun h => hplace (h ▸ ⟨entries, rfl⟩)
      obtain ⟨first, rest, rfl⟩ := List.exists_cons_of_ne_nil hne
      by_cases hname : first = name
      · subst hname
        have hdeep : ¬ child.IsDirectoryAt rest :=
          fun h => hplace (isDirectoryAt_cons.mpr ⟨child, hchild, h⟩)
        have hmore : rest ≠ [] := by
          rintro rfl
          have habove : child.IsDirectoryAt ([] ++ dir) := ⟨inner, hrest⟩
          exact hdeep habove.of_append
        obtain ⟨more, hfind, hfilter⟩ := ih hdeep hrest
        refine ⟨more, ?_, fun P hP => hfilter P fun names content hnames hc => ?_⟩
        · rw [insert.eq_4 _ _ _ _ hmore, hchild]
          simp only [find?, Fields.get?_put_self, Option.bind_some, hfind]
        · refine hP names content (congrArg _ hnames) (hc.imp_right fun hc => ?_)
          rw [contentAt?_cons, hchild]
          exact hc
      · refine ⟨inner, ?_, fun P _ => rfl⟩
        rw [find?_insert_ne (Ne.symm hname)]
        exact hdir

end Entry

end ScriptTree
