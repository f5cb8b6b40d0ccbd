import Mathlib.Data.List.Nodup
import ScriptTree.Proofs.Fields
import ScriptTree.Proofs.Files.Path

namespace ScriptTree

theorem Fields.get?_put_ne {α : Type} {name other : Text} (h : other ≠ name)
    (value : α) (fields : Fields α) :
    (fields.put name value).get? other = fields.get? other := by
  induction fields with
  | nil => simp [Fields.put, Fields.get?, Ne.symm h]
  | cons field fields ih =>
    obtain ⟨key, old⟩ := field
    by_cases hk : key = name
    · simp [Fields.put, Fields.get?, hk, Ne.symm h]
    · simp [Fields.put, Fields.get?, hk, ih]

theorem Fields.put_put {α : Type} (name : Text) (old value : α) (fields : Fields α) :
    (fields.put name old).put name value = fields.put name value := by
  induction fields with
  | nil => simp [Fields.put]
  | cons field fields ih =>
    obtain ⟨key, first⟩ := field
    by_cases hk : key = name <;> simp [Fields.put, hk, ih]

theorem Fields.put_of_get? {α : Type} {name : Text} {value : α} {fields : Fields α}
    (h : fields.get? name = some value) : fields.put name value = fields := by
  induction fields with
  | nil => cases h
  | cons field fields ih =>
    obtain ⟨key, old⟩ := field
    by_cases hk : key = name
    · simp only [Fields.get?, hk, ↓reduceIte, Option.some.injEq] at h
      simp [Fields.put, hk, h]
    · simp only [Fields.get?, hk, ↓reduceIte] at h
      simp [Fields.put, hk, ih h]

namespace Entry

/-- The content of the file that names lead to. -/
def contentAt? (names : List Text) (e : Entry) : Option (List UInt8) :=
  match e.find? names with
  | some (file content) => some content
  | _ => none

/-- Names lead to a directory. -/
def IsDirectoryAt (names : List Text) (e : Entry) : Prop :=
  ∃ entries, e.find? names = some (directory entries)

/-- A file or a directory without entries. -/
def IsLeaf : Entry → Prop
  | file _ => True
  | directory entries => entries = []

theorem find?_append (names more : List Text) (e : Entry) :
    e.find? (names ++ more) = (e.find? names).bind (find? more) := by
  induction names generalizing e with
  | nil => rfl
  | cons name names ih =>
    cases e with
    | file content => rfl
    | directory entries =>
      rw [List.cons_append, find?, find?, Option.bind_assoc]
      exact congrArg _ (funext ih)

theorem IsDirectoryAt.of_append {names more : List Text} {e : Entry}
    (h : e.IsDirectoryAt (names ++ more)) :
    e.IsDirectoryAt names := by
  obtain ⟨entries, hfind⟩ := h
  rw [find?_append] at hfind
  obtain ⟨inner, hinner, hrest⟩ := Option.bind_eq_some_iff.mp hfind
  cases inner with
  | directory inner => exact ⟨inner, hinner⟩
  | file content =>
    cases more with
    | nil => cases hrest
    | cons name more => cases hrest

theorem contentAt?_eq_some {names : List Text} {e : Entry} {content : List UInt8} :
    e.contentAt? names = some content ↔ e.find? names = some (file content) := by
  rw [contentAt?]
  split
  next old hold => simp [hold]
  next hno =>
    simp only [reduceCtorEq, false_iff]
    exact hno content

/-- A file stands in a directory. -/
theorem isDirectoryAt_of_contentAt? {names : List Text} {last : Text} {e : Entry} {content : List UInt8}
    (h : e.contentAt? (names ++ [last]) = some content) : e.IsDirectoryAt names := by
  rw [contentAt?_eq_some, find?_append] at h
  obtain ⟨inner, hinner, hlast⟩ := Option.bind_eq_some_iff.mp h
  cases inner with
  | file old => cases hlast
  | directory entries => exact ⟨entries, hinner⟩

theorem contentAt?_append (names more : List Text) (e : Entry) :
    e.contentAt? (names ++ more) = (e.find? names).bind (contentAt? more) := by
  rw [contentAt?, find?_append]
  cases e.find? names <;> rfl

theorem contentAt?_cons (name : Text) (names : List Text) (entries : List (Text × Entry)) :
    (directory entries).contentAt? (name :: names) =
      (Fields.get? name entries).bind (contentAt? names) := by
  rw [contentAt?, find?]
  cases Fields.get? name entries <;> rfl

theorem isDirectoryAt_cons {name : Text} {names : List Text} {entries : List (Text × Entry)} :
    (directory entries).IsDirectoryAt (name :: names) ↔
      ∃ child, Fields.get? name entries = some child ∧ child.IsDirectoryAt names := by
  constructor
  · rintro ⟨inner, h⟩
    obtain ⟨child, hchild, hrest⟩ := Option.bind_eq_some_iff.mp h
    exact ⟨child, hchild, inner, hrest⟩
  · rintro ⟨child, hchild, inner, hrest⟩
    exact ⟨inner, Option.bind_eq_some_iff.mpr ⟨child, hchild, hrest⟩⟩

theorem contentAt?_leaf {e : Entry} (h : e.IsLeaf) {names : List Text} (hne : names ≠ []) :
    e.contentAt? names = none := by
  obtain ⟨name, names, rfl⟩ := List.exists_cons_of_ne_nil hne
  cases e with
  | file content => rfl
  | directory entries =>
    cases h
    rfl

theorem isLeaf_of_not_isDirectoryAt {e : Entry} (h : ¬ e.IsDirectoryAt []) : e.IsLeaf := by
  cases e with
  | file content => trivial
  | directory entries => exact absurd ⟨entries, rfl⟩ h

/-- An entry put in the place of another one takes its place. -/
theorem insert_insert (old new : Entry) (place : List Text) (e : Entry) :
    insert new place (insert old place e) = insert new place e := by
  fun_induction insert old place e with
  | case1 e => rfl
  | case2 name rest content => rfl
  | case3 name entries => rw [insert, insert, Fields.put_put]
  | case4 name rest entries hmore child hchild ih =>
    rw [insert.eq_4 _ _ _ _ hmore, insert.eq_4 _ _ _ _ hmore, Fields.get?_put_self, hchild]
    simp only [ih, Fields.put_put]
  | case5 name rest entries hmore hnone => rfl

/-- An entry put where it is changes nothing. -/
theorem insert_of_find? {new : Entry} {place : List Text} {e : Entry} (h : e.find? place = some new) :
    insert new place e = e := by
  fun_induction insert new place e with
  | case1 e => exact (Option.some.inj h).symm
  | case2 name rest content => rfl
  | case3 name entries =>
    rw [find?, Option.bind_eq_some_iff] at h
    obtain ⟨child, hchild, hnew⟩ := h
    cases hnew
    rw [Fields.put_of_get? hchild]
  | case4 name rest entries hmore child hchild ih =>
    rw [find?, hchild] at h
    rw [ih h, Fields.put_of_get? hchild]
  | case5 name rest entries hmore hnone => rfl

/-- Putting a leaf where no directory is changes no other file. -/
theorem contentAt?_insert_ne {new : Entry} {place : List Text} {e : Entry} (hnew : new.IsLeaf)
    (hplace : ¬ e.IsDirectoryAt place) {names : List Text} (hne : names ≠ place) :
    (insert new place e).contentAt? names = e.contentAt? names := by
  fun_induction insert new place e generalizing names with
  | case1 e => rw [contentAt?_leaf hnew hne, contentAt?_leaf (isLeaf_of_not_isDirectoryAt hplace) hne]
  | case2 name rest content => rfl
  | case3 name entries =>
    cases names with
    | nil => rfl
    | cons other names =>
      rw [contentAt?_cons, contentAt?_cons]
      by_cases ho : other = name
      · subst ho
        have hrest : names ≠ [] := fun h => hne (by rw [h])
        rw [Fields.get?_put_self, Option.bind_some, contentAt?_leaf hnew hrest]
        cases hchild : Fields.get? other entries with
        | none => rfl
        | some child =>
          have hleaf : ¬ child.IsDirectoryAt [] :=
            fun h => hplace (isDirectoryAt_cons.mpr ⟨child, hchild, h⟩)
          rw [Option.bind_some, contentAt?_leaf (isLeaf_of_not_isDirectoryAt hleaf) hrest]
      · rw [Fields.get?_put_ne ho]
  | case4 name rest entries hmore child hchild ih =>
    cases names with
    | nil => rfl
    | cons other names =>
      rw [contentAt?_cons, contentAt?_cons]
      by_cases ho : other = name
      · subst ho
        have hrest : names ≠ rest := fun h => hne (by rw [h])
        have hdeep : ¬ child.IsDirectoryAt rest :=
          fun h => hplace (isDirectoryAt_cons.mpr ⟨child, hchild, h⟩)
        rw [Fields.get?_put_self, hchild, Option.bind_some, Option.bind_some, ih hdeep hrest]
      · rw [Fields.get?_put_ne ho]
  | case5 name rest entries hmore hnone => rfl

/-- What was put into a directory is there. -/
theorem find?_insert_concat (new : Entry) {dir : List Text} {e : Entry}
    (h : e.IsDirectoryAt dir) (name : Text) :
    (insert new (dir ++ [name]) e).find? (dir ++ [name]) = some new := by
  induction dir generalizing e with
  | nil =>
    obtain ⟨entries, he⟩ := h
    cases he
    rw [List.nil_append, insert, find?, Fields.get?_put_self]
    rfl
  | cons first dir ih =>
    cases e with
    | file old =>
      obtain ⟨entries, hd⟩ := h
      cases hd
    | directory entries =>
      obtain ⟨child, hchild, hdir⟩ := isDirectoryAt_cons.mp h
      have hmore : dir ++ [name] = [] → False := by simp
      rw [List.cons_append, insert.eq_4 _ _ _ _ hmore, hchild, find?, Fields.get?_put_self]
      exact ih hdir

/-- Putting an empty directory where no file is makes no file. -/
theorem contentAt?_insert_directory {place : List Text} {e : Entry} (h : e.contentAt? place = none) :
    (insert (directory []) place e).contentAt? place = none := by
  fun_induction insert (directory []) place e with
  | case1 e => rfl
  | case2 name rest content => rfl
  | case3 name entries =>
    rw [contentAt?_cons, Fields.get?_put_self]
    rfl
  | case4 name rest entries hmore child hchild ih =>
    rw [contentAt?_cons, hchild] at h
    rw [contentAt?_cons, Fields.get?_put_self]
    exact ih h
  | case5 name rest entries hmore hnone => exact h

/-- Putting a leaf where no directory is makes no other directory. -/
theorem isDirectoryAt_of_insert {new : Entry} {place : List Text}
    {e : Entry} (hnew : new.IsLeaf) {names : List Text}
    (h : (insert new place e).IsDirectoryAt names) :
    e.IsDirectoryAt names ∨ names = place ∧ ∃ entries, new = directory entries := by
  have hleaf : ∀ {names}, new.IsDirectoryAt names → names = [] ∧
      ∃ entries, new = directory entries := by
    rintro names ⟨inner, hinner⟩
    cases names with
    | nil => exact ⟨rfl, inner, Option.some.inj hinner⟩
    | cons name names =>
      cases new with
      | file content => cases hinner
      | directory entries =>
        cases hnew
        cases hinner
  fun_induction insert new place e generalizing names with
  | case1 e => exact Or.inr (hleaf h)
  | case2 name rest content => exact Or.inl h
  | case3 name entries =>
    cases names with
    | nil => exact Or.inl ⟨entries, rfl⟩
    | cons other names =>
      obtain ⟨child, hchild, hdir⟩ := isDirectoryAt_cons.mp h
      by_cases ho : other = name
      · subst ho
        cases Option.some.inj ((Fields.get?_put_self _ _ _).symm.trans hchild)
        obtain ⟨rfl, hentries⟩ := hleaf hdir
        exact Or.inr ⟨rfl, hentries⟩
      · rw [Fields.get?_put_ne ho] at hchild
        exact Or.inl (isDirectoryAt_cons.mpr ⟨child, hchild, hdir⟩)
  | case4 name rest entries hmore child hchild ih =>
    cases names with
    | nil => exact Or.inl ⟨entries, rfl⟩
    | cons other names =>
      obtain ⟨inner, hinner, hdir⟩ := isDirectoryAt_cons.mp h
      by_cases ho : other = name
      · subst ho
        cases Option.some.inj ((Fields.get?_put_self _ _ _).symm.trans hinner)
        rcases ih hdir with hdir | ⟨rfl, hentries⟩
        · exact Or.inl (isDirectoryAt_cons.mpr ⟨child, hchild, hdir⟩)
        · exact Or.inr ⟨rfl, hentries⟩
      · rw [Fields.get?_put_ne ho] at hinner
        exact Or.inl (isDirectoryAt_cons.mpr ⟨inner, hinner, hdir⟩)
  | case5 name rest entries hmore hnone => exact Or.inl h

end Entry

/-- A name that a directory can hold: it stands between slashes of a path, leads nowhere else, and
each of its code points can stand in a name. -/
structure IsFileName (name : Text) : Prop where
  segment : Path.IsSegment name
  ne_up : name ≠ ".."
  nameable : ∀ c ∈ name, c.IsNameable

instance : DecidablePred IsFileName := fun name =>
  decidable_of_iff (name ≠ [] ∧ name ≠ "." ∧ Path.slash ∉ name ∧ name ≠ ".." ∧ ∀ c ∈ name, c.IsNameable)
    ⟨fun ⟨hne, hdot, hslash, hup, hall⟩ => ⟨⟨hne, hdot, hslash⟩, hup, hall⟩,
      fun ⟨⟨hne, hdot, hslash⟩, hup, hall⟩ => ⟨hne, hdot, hslash, hup, hall⟩⟩

namespace Entry

/-- Every directory of a tree holds each of its names once, and all of them are file names. -/
inductive IsWellNamed : Entry → Prop where
  | file (content : List UInt8) : IsWellNamed (file content)
  | directory {entries : List (Text × Entry)} (nodup : (Fields.names entries).Nodup)
      (names : ∀ child ∈ entries, IsFileName child.1) (below : ∀ child ∈ entries, IsWellNamed child.2) :
      IsWellNamed (directory entries)

theorem IsWellNamed.find? {e part : Entry} (h : e.IsWellNamed) {names : List Text}
    (hfind : e.find? names = some part) : part.IsWellNamed := by
  induction names generalizing e with
  | nil =>
    cases hfind
    exact h
  | cons name names ih =>
    cases h with
    | file content => cases hfind
    | directory nodup proper below =>
      obtain ⟨child, hchild, hrest⟩ := Option.bind_eq_some_iff.mp hfind
      exact ih (below _ (Fields.get?_eq_some hchild)) hrest

/-- The names that lead to the files at or below an entry of a directory. -/
def filesAt (child : Text × Entry) : List (List Text) :=
  match child.2 with
  | file _ => [[child.1]]
  | directory entries => (filesAmong entries).map (child.1 :: ·)

theorem filesAmong_eq_flatMap (entries : List (Text × Entry)) :
    filesAmong entries = entries.flatMap filesAt := by
  induction entries with
  | nil => rw [filesAmong, List.flatMap_nil]
  | cons child entries ih =>
    obtain ⟨name, e⟩ := child
    cases e with
    | file content =>
      rw [filesAmong, ih, List.flatMap_cons]
      rfl
    | directory inner =>
      rw [filesAmong, ih, List.flatMap_cons]
      rfl

/-- Names that lead to a file below an entry: a first name in a directory, and names that lead on. -/
theorem mem_filesAmong {entries : List (Text × Entry)} {names : List Text}
    (h : names ∈ filesAmong entries) :
    ∃ child ∈ entries, ∃ rest, names = child.1 :: rest ∧
      ((∃ content, child.2 = file content ∧ rest = []) ∨ rest ∈ child.2.filesBelow) := by
  rw [filesAmong_eq_flatMap] at h
  obtain ⟨⟨name, e⟩, hchild, hnames⟩ := List.mem_flatMap.mp h
  refine ⟨(name, e), hchild, ?_⟩
  cases e with
  | file content => exact ⟨[], List.mem_singleton.mp hnames, Or.inl ⟨content, rfl, rfl⟩⟩
  | directory inner =>
    obtain ⟨rest, hrest, rfl⟩ := List.mem_map.mp hnames
    exact ⟨rest, rfl, Or.inr hrest⟩

/-- The files below a directory are named by file names. -/
theorem IsWellNamed.mem_filesBelow {e : Entry} (h : e.IsWellNamed)
    {names : List Text} (hm : names ∈ e.filesBelow) :
    names ≠ [] ∧ ∀ name ∈ names, IsFileName name := by
  induction h generalizing names with
  | file content => cases hm
  | directory nodup proper below ih =>
    obtain ⟨child, hchild, rest, rfl, hrest⟩ := mem_filesAmong hm
    refine ⟨List.cons_ne_nil _ _, List.forall_mem_cons.mpr ⟨proper child hchild, ?_⟩⟩
    rcases hrest with ⟨content, -, rfl⟩ | hrest
    · exact List.forall_mem_nil _
    · exact (ih child hchild hrest).2

/-- The names of a listed file lead to it. -/
theorem IsWellNamed.contentAt?_of_mem {e : Entry} (h : e.IsWellNamed)
    {names : List Text} (hm : names ∈ e.filesBelow) :
    ∃ content, e.contentAt? names = some content := by
  induction h generalizing names with
  | file content => cases hm
  | directory nodup proper below ih =>
    obtain ⟨child, hchild, rest, rfl, hrest⟩ := mem_filesAmong hm
    rw [contentAt?_cons, Fields.get?_of_mem nodup hchild, Option.bind_some]
    rcases hrest with ⟨content, hfile, rfl⟩ | hrest
    · exact ⟨content, contentAt?_eq_some.mpr (congrArg some hfile)⟩
    · exact ih child hchild hrest

/-- A file below an entry is listed. -/
theorem mem_filesBelow_of_contentAt? {e : Entry} {names : List Text}
    {content : List UInt8} (hne : names ≠ [])
    (h : e.contentAt? names = some content) : names ∈ e.filesBelow := by
  induction names generalizing e with
  | nil => exact absurd rfl hne
  | cons name names ih =>
    cases e with
    | file old => cases h
    | directory entries =>
      rw [contentAt?_cons, Option.bind_eq_some_iff] at h
      obtain ⟨child, hchild, hrest⟩ := h
      rw [filesBelow, filesAmong_eq_flatMap]
      refine List.mem_flatMap.mpr ⟨(name, child), Fields.get?_eq_some hchild, ?_⟩
      cases child with
      | file old =>
        cases names with
        | nil => exact List.mem_singleton.mpr rfl
        | cons next names => cases hrest
      | directory inner =>
        cases names with
        | nil => cases hrest
        | cons next names => exact List.mem_map.mpr ⟨_, ih (List.cons_ne_nil _ _) hrest, rfl⟩

theorem mem_namesDeeper {entries : List (Text × Entry)} {names : List Text} :
    names ∈ namesDeeper entries ↔ ∃ child ∈ entries, ∃ rest ∈ child.2.namesBelow,
      child.1 :: rest = names := by
  induction entries with
  | nil => simp [namesDeeper]
  | cons child entries ih =>
    rw [namesDeeper, List.mem_append, List.mem_map, ih, List.exists_mem_cons_iff]

/-- The names listed below an entry are all that lead to something there. -/
theorem IsWellNamed.mem_namesBelow {e : Entry} (h : e.IsWellNamed) {names : List Text} :
    names ∈ e.namesBelow ↔ names ≠ [] ∧ (e.find? names).isSome := by
  induction names generalizing e with
  | nil =>
    simp only [ne_eq, not_true_eq_false, false_and, iff_false]
    cases e with
    | file content => exact List.not_mem_nil
    | directory entries => simp [namesBelow, mem_namesDeeper]
  | cons name names ih =>
    cases h with
    | file content => simp [namesBelow, Entry.find?]
    | directory nodup proper below =>
      simp only [ne_eq, List.cons_ne_nil, not_false_eq_true, true_and, Entry.find?]
      rw [namesBelow, List.mem_append, mem_namesDeeper, List.mem_map]
      constructor
      · rintro (⟨child, hchild, hnames⟩ | ⟨child, hchild, rest, hrest, hnames⟩)
        · obtain ⟨rfl, rfl⟩ := List.cons.inj hnames
          rw [Fields.get?_of_mem nodup hchild]
          rfl
        · obtain ⟨rfl, rfl⟩ := List.cons.inj hnames
          rw [Fields.get?_of_mem nodup hchild]
          exact ((ih (below child hchild)).mp hrest).2
      · intro hsome
        obtain ⟨part, hpart⟩ := Option.isSome_iff_exists.mp hsome
        obtain ⟨child, hchild, hrest⟩ := Option.bind_eq_some_iff.mp hpart
        have hmem := Fields.get?_eq_some hchild
        by_cases hnames : names = []
        · exact Or.inl ⟨_, hmem, by rw [hnames]⟩
        · have hsome : (child.find? names).isSome := by rw [hrest]; rfl
          exact Or.inr ⟨_, hmem, names, (ih (below _ hmem)).mpr ⟨hnames, hsome⟩, rfl⟩

theorem nodup_filesAmong {entries : List (Text × Entry)} (nodup : (Fields.names entries).Nodup)
    (below : ∀ child ∈ entries, child.2.filesBelow.Nodup) : (filesAmong entries).Nodup := by
  induction entries with
  | nil =>
    rw [filesAmong]
    exact List.nodup_nil
  | cons child entries ih =>
    obtain ⟨name, e⟩ := child
    obtain ⟨hname, hnames⟩ := List.nodup_cons.mp nodup
    obtain ⟨hhere, hbelow⟩ := List.forall_mem_cons.mp below
    have hapart : ∀ rest, name :: rest ∉ filesAmong entries := by
      intro rest hm
      obtain ⟨other, hother, _, hcons, -⟩ := mem_filesAmong hm
      exact hname (List.mem_map.mpr ⟨other, hother, (List.cons.inj hcons).1.symm⟩)
    cases e with
    | file content =>
      rw [filesAmong]
      exact List.nodup_cons.mpr ⟨hapart [], ih hnames hbelow⟩
    | directory inner =>
      rw [filesAmong]
      refine List.nodup_append.mpr
        ⟨hhere.map fun _ _ hcons => (List.cons.inj hcons).2, ih hnames hbelow, ?_⟩
      rintro _ ha _ hb rfl
      obtain ⟨rest, -, rfl⟩ := List.mem_map.mp ha
      exact hapart rest hb

/-- The files below a directory are listed once each. -/
theorem IsWellNamed.nodup_filesBelow {e : Entry} (h : e.IsWellNamed) : e.filesBelow.Nodup := by
  induction h with
  | file content => exact List.nodup_nil
  | directory nodup proper below ih => exact nodup_filesAmong nodup ih

end Entry

end ScriptTree
