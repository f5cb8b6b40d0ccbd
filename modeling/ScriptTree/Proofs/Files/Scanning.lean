import ScriptTree.Proofs.Files.Rescan
import ScriptTree.Proofs.Text.Order

namespace ScriptTree

namespace Path

/-- From its last dot on a name reads as the suffix, and that dot is neither its first code point
nor its last. -/
def EndsIn (name suffix : Text) : Prop :=
  ∃ stem tail, name = stem ++ CodePoint.ofChar '.' :: tail ∧ suffix = CodePoint.ofChar '.' :: tail ∧
    CodePoint.ofChar '.' ∉ tail ∧ stem ≠ [] ∧ tail ≠ []

/-- Before in the order of names. -/
def Precedes (p q : Path) : Prop := Text.NamesPrecede p.names q.names

theorem exists_last_dot {name : Text} (h : CodePoint.ofChar '.' ∈ name) :
    ∃ stem tail, name = stem ++ CodePoint.ofChar '.' :: tail ∧ CodePoint.ofChar '.' ∉ tail := by
  obtain ⟨tail, stem, hreverse, htail⟩ := List.eq_append_cons_of_mem (List.mem_reverse.mpr h)
  refine ⟨stem.reverse, tail.reverse, ?_, fun hm => htail (List.mem_reverse.mp hm)⟩
  rw [← List.reverse_reverse name, hreverse]
  simp

theorem nameSuffix_append {tail : Text} (h : CodePoint.ofChar '.' ∉ tail) (stem : Text) :
    nameSuffix (stem ++ CodePoint.ofChar '.' :: tail) =
      if stem.isEmpty || tail.isEmpty then [] else CodePoint.ofChar '.' :: tail := by
  have hdot : CodePoint.ofChar '.' ∈ stem ++ CodePoint.ofChar '.' :: tail := by simp
  -- The last dot of the name is the first one that is met from its end.
  have hreverse : (stem ++ CodePoint.ofChar '.' :: tail).reverse =
      tail.reverse ++ CodePoint.ofChar '.' :: stem.reverse := by simp
  have hclear : ∀ c ∈ tail.reverse, decide (c ≠ CodePoint.ofChar '.') = true := by
    intro c hc
    rw [decide_eq_true_iff]
    rintro rfl
    exact h (List.mem_reverse.mp hc)
  simp only [nameSuffix, hdot, ↓reduceIte, hreverse, List.takeWhile_append_of_pos hclear,
    List.dropWhile_append_of_pos hclear]
  simp

theorem nameSuffix_eq_iff {name suffix : Text} (hne : suffix ≠ []) :
    nameSuffix name = suffix ↔ EndsIn name suffix := by
  constructor
  · intro h
    by_cases hdot : CodePoint.ofChar '.' ∈ name
    · obtain ⟨stem, tail, rfl, htail⟩ := exists_last_dot hdot
      rw [nameSuffix_append htail] at h
      split at h
      next => exact absurd h.symm hne
      next hparts =>
        simp only [Bool.or_eq_true, List.isEmpty_iff, not_or] at hparts
        exact ⟨stem, tail, rfl, h.symm, htail, hparts.1, hparts.2⟩
    · rw [nameSuffix, if_neg hdot] at h
      exact absurd h.symm hne
  · rintro ⟨stem, tail, rfl, rfl, htail, hstem, hrest⟩
    rw [nameSuffix_append htail, if_neg (by simp [hstem, hrest])]

/-- Names that a scan takes for those of a source. -/
theorem isSource_iff {names : List Text} {last : Text} :
    isSource ⟨.relative, names ++ [last]⟩ = true ↔
      (∀ name ∈ names ++ [last], name ∉ skippedNames) ∧
        (EndsIn last ".js" ∨ EndsIn last ".mjs" ∨ EndsIn last ".cjs") := by
  have hsuffix : suffix ⟨.relative, names ++ [last]⟩ = nameSuffix last := by
    rw [suffix, name, List.getLast?_concat, Option.getD_some]
  have hsource : nameSuffix last ∈ sourceSuffixes ↔
      EndsIn last ".js" ∨ EndsIn last ".mjs" ∨ EndsIn last ".cjs" := by
    rw [← nameSuffix_eq_iff (by decide), ← nameSuffix_eq_iff (by decide),
      ← nameSuffix_eq_iff (by decide)]
    simp only [sourceSuffixes, List.mem_cons, List.not_mem_nil, or_false]
  rw [isSource, hsuffix, Bool.and_eq_true, Bool.not_eq_true', List.any_eq_false,
    List.contains_iff_mem, hsource]
  simp only [List.contains_iff_mem]

theorem Precedes.asymm {p q : Path} (hpq : p.Precedes q) : ¬ q.Precedes p :=
  Std.Asymm.asymm (r := Text.NamesPrecede) _ _ hpq

/-- Paths in strict order are determined by which paths they are. -/
theorem eq_of_pairwise_precedes {first second : List Path} (hf : first.Pairwise Precedes)
    (hs : second.Pairwise Precedes) (h : ∀ p, p ∈ first ↔ p ∈ second) : first = second := by
  have hnodup : ∀ {paths : List Path}, paths.Pairwise Precedes → paths.Nodup := fun hpaths =>
    hpaths.imp fun {p q} hpq heq => (heq ▸ hpq).asymm (heq ▸ hpq)
  exact List.Perm.eq_of_pairwise (fun p q _ _ hpq hqp => absurd hqp hpq.asymm) hf hs
    ((List.perm_ext_iff_of_nodup (hnodup hf) (hnodup hs)).mpr h)

end Path

namespace FileSystem

variable {fs other : FileSystem} {root p : Path} {place : List Text} {entry : Entry}

/-- A regular file below a place, named like a source and hidden by no skipped name on the way to it. -/
structure HoldsSource (fs : FileSystem) (place names : List Text) (last : Text) : Prop where
  content : ∃ content, fs.top.contentAt? (place ++ (names ++ [last])) = some content
  unskipped : ∀ name ∈ names ++ [last], name ∉ skippedNames
  suffix : Path.EndsIn last ".js" ∨ Path.EndsIn last ".mjs" ∨ Path.EndsIn last ".cjs"

/-- A path that leads from a root to a source below it. -/
def IsSourceBelow (fs : FileSystem) (root p : Path) : Prop :=
  ∃ place names last, fs.place root = .ok place ∧ p = root.append (names ++ [last]) ∧
    fs.HoldsSource place names last

/-- The path of a root, or of something below it, is too long to be looked at. -/
def IsOutOfReach (fs : FileSystem) (root : Path) : Prop :=
  (fs.place root = .error .nameTooLong ∧ root.text.pathFlaw? = none) ∨
    ∃ place names, fs.place root = .ok place ∧ names ≠ [] ∧ (fs.entryAt? (place ++ names)).isSome ∧
      (root.append names).text.isLongPath = true

/-- The same directories and files, in whatever order the directories list them. -/
structure SameTree (fs other : FileSystem) : Prop where
  workingDirectory : other.workingDirectory = fs.workingDirectory
  content : ∀ names, other.top.contentAt? names = fs.top.contentAt? names
  directory : ∀ names, other.top.IsDirectoryAt names ↔ fs.top.IsDirectoryAt names

theorem mem_sources (hentry : entry.IsWellNamed) {names : List Text} {last : Text} :
    names ++ [last] ∈ entry.sources ↔ (∃ content, entry.contentAt? (names ++ [last]) = some content) ∧
      (∀ name ∈ names ++ [last], name ∉ skippedNames) ∧
        (Path.EndsIn last ".js" ∨ Path.EndsIn last ".mjs" ∨ Path.EndsIn last ".cjs") := by
  rw [Entry.sources, (List.mergeSort_perm _ _).mem_iff, List.mem_filter, Path.isSource_iff]
  refine and_congr_left' ⟨fun hm => hentry.contentAt?_of_mem hm, ?_⟩
  rintro ⟨content, hcontent⟩
  exact Entry.mem_filesBelow_of_contentAt? (by simp) hcontent

/-- Every source has a last name. -/
theorem exists_concat_of_mem_sources (hentry : entry.IsWellNamed)
    {names : List Text} (h : names ∈ entry.sources) :
    ∃ init last, names = init ++ [last] := by
  rw [Entry.sources, (List.mergeSort_perm _ _).mem_iff] at h
  obtain ⟨hne, -⟩ := hentry.mem_filesBelow (List.mem_filter.mp h).1
  exact ⟨_, _, (List.dropLast_concat_getLast hne).symm⟩

theorem pairwise_sources (hentry : entry.IsWellNamed) (root : Path) :
    (entry.sources.map root.append).Pairwise Path.Precedes := by
  refine List.pairwise_map.mpr ?_
  refine (Text.pairwise_mergeSort_namesBefore (hentry.nodup_filesBelow.filter _)).imp fun h => ?_
  exact List.Lex.append_left _ h root.names

/-- The sources of an entry are those below the root that leads to it. -/
theorem mem_map_sources (hfs : fs.top.IsWellNamed) (hplace : fs.place root = .ok place)
    (hentry : fs.entryAt? place = some entry) :
      p ∈ entry.sources.map root.append ↔ fs.IsSourceBelow root p := by
  have hnamed : entry.IsWellNamed := hfs.find? hentry
  have hcontent : ∀ names, fs.top.contentAt? (place ++ names) = entry.contentAt? names := by
    intro names
    rw [Entry.contentAt?_append, show fs.top.find? place = some entry from hentry, Option.bind_some]
  constructor
  · intro hp
    obtain ⟨names, hnames, rfl⟩ := List.mem_map.mp hp
    obtain ⟨init, last, rfl⟩ := exists_concat_of_mem_sources hnamed hnames
    obtain ⟨hfile, hunskipped, hsuffix⟩ := (mem_sources hnamed).mp hnames
    exact ⟨place, init, last, hplace, rfl, (hcontent _).symm ▸ hfile, hunskipped, hsuffix⟩
  · rintro ⟨found, names, last, hfound, rfl, hholds⟩
    cases hplace.symm.trans hfound
    have hfile := hholds.content
    rw [hcontent] at hfile
    exact List.mem_map_of_mem ((mem_sources hnamed).mpr ⟨hfile, hholds.unskipped, hholds.suffix⟩)

/-- A root that leads to nothing has no sources. -/
theorem not_isSourceBelow (h : ∀ place, fs.place root = .ok place → fs.entryAt? place = none) :
    ¬ fs.IsSourceBelow root p := by
  rintro ⟨place, names, last, hplace, -, hholds⟩
  obtain ⟨content, hcontent⟩ := hholds.content
  rw [Entry.contentAt?_append, show fs.top.find? place = none from h place hplace] at hcontent
  cases hcontent

theorem entryAt?_append (fs : FileSystem) (place names : List Text) :
    fs.entryAt? (place ++ names) = (fs.entryAt? place).bind (Entry.find? names) :=
  Entry.find?_append place names fs.top

theorem scan_of_isOutOfReach (hfs : fs.top.IsWellNamed) (h : fs.IsOutOfReach root) :
    ∃ path, fs.scan root = .error ⟨.nameTooLong, path⟩ := by
  rcases h with ⟨hlong, hflaw⟩ | ⟨place, names, hplace, hne, hsome, hlong⟩
  · exact ⟨root.text, by simp only [scan, hlong, hflaw, ↓reduceIte]⟩
  · rw [entryAt?_append, Option.isSome_bind, Option.any_eq_true] at hsome
    obtain ⟨entry, hentry, hpart⟩ := hsome
    have hnamed : entry.IsWellNamed := hfs.find? hentry
    have hmem : names ∈ entry.namesBelow := hnamed.mem_namesBelow.mpr ⟨hne, hpart⟩
    cases hfound : entry.namesBelow.find? fun names => (root.append names).text.isLongPath with
    | none => exact absurd hlong (List.find?_eq_none.mp hfound names hmem)
    | some first => exact ⟨(root.append first).text, by simp only [scan, hplace, hentry, hfound]⟩

/-- Where nothing is out of reach, a scan lists the sources of the entry that the root leads to, if
there is one. -/
theorem exists_scan (hfs : fs.top.IsWellNamed) (h : ¬ fs.IsOutOfReach root) :
    ∃ sources, fs.scan root = .ok sources ∧
      ((∃ place entry, fs.place root = .ok place ∧ fs.entryAt? place = some entry ∧
          sources = entry.sources.map root.append) ∨
        (sources = [] ∧ ∀ place, fs.place root = .ok place → fs.entryAt? place = none)) := by
  cases hplace : fs.place root with
  | error refusal =>
    refine ⟨[], ?_, Or.inr ⟨rfl, fun place hok => by cases hok⟩⟩
    rw [scan, hplace]
    -- Of all refusals only that of a long name is not taken for a missing root.
    cases refusal with
    | nameTooLong => exact if_neg fun hflaw => h (Or.inl ⟨hplace, hflaw⟩)
    | missing => rfl
    | occupied => rfl
    | notDirectory => rfl
    | isDirectory => rfl
  | ok place =>
    cases hentry : fs.entryAt? place with
    | none =>
      refine ⟨[], by simp only [scan, hplace, hentry], Or.inr ⟨rfl, fun found hok => ?_⟩⟩
      cases hok
      exact hentry
    | some entry =>
      refine ⟨_, scan_of_entry hplace hentry fun names hnames => ?_,
        Or.inl ⟨place, entry, rfl, hentry, rfl⟩⟩
      rw [← Bool.not_eq_true]
      intro hlong
      obtain ⟨hne, hsome⟩ := (hfs.find? hentry).mem_namesBelow.mp hnames
      refine h (Or.inr ⟨place, names, hplace, hne, ?_, hlong⟩)
      rw [entryAt?_append, hentry]
      exact hsome

/-- Where nothing is out of reach, a scan lists the sources below the root in strict order. -/
theorem exists_scan_sources (hfs : fs.top.IsWellNamed) (h : ¬ fs.IsOutOfReach root) :
    ∃ sources, fs.scan root = .ok sources ∧ (∀ p, p ∈ sources ↔ fs.IsSourceBelow root p) ∧
      sources.Pairwise Path.Precedes := by
  obtain ⟨sources, hscan, ⟨place, entry, hplace, hentry, rfl⟩ | ⟨rfl, hnone⟩⟩ := exists_scan hfs h
  · exact ⟨_, hscan, fun p => mem_map_sources hfs hplace hentry,
      pairwise_sources (hfs.find? hentry) root⟩
  · exact ⟨[], hscan, fun p => iff_of_false List.not_mem_nil (not_isSourceBelow hnone),
      List.Pairwise.nil⟩

theorem isDirectory_of_isSourceBelow (h : fs.IsSourceBelow root p) : fs.isDirectory root = true := by
  obtain ⟨place, names, last, hplace, -, hholds⟩ := h
  obtain ⟨content, hcontent⟩ := hholds.content
  rw [← List.append_assoc] at hcontent
  exact isDirectory_of_place hplace (Entry.isDirectoryAt_of_contentAt? hcontent).of_append

/-- Entries of the first directory in another order make the same tree. -/
theorem sameTree_of_perm {entries more : List (Text × Entry)} (hnodup : (Fields.names entries).Nodup)
    (hperm : entries.Perm more) (workingDirectory : List Text) :
    SameTree ⟨.directory entries, workingDirectory⟩ ⟨.directory more, workingDirectory⟩ := by
  have hget : ∀ name, Fields.get? name more = Fields.get? name entries := fun name =>
    Fields.get?_of_perm hnodup hperm
  refine ⟨rfl, fun names => ?_, fun names => ?_⟩
  · cases names with
    | nil => rfl
    | cons name names => rw [Entry.contentAt?_cons, Entry.contentAt?_cons, hget]
  · cases names with
    | nil => exact iff_of_true ⟨more, rfl⟩ ⟨entries, rfl⟩
    | cons name names => rw [Entry.isDirectoryAt_cons, Entry.isDirectoryAt_cons, hget]

namespace SameTree

/-- What stands at a place is the same, except for the order of a directory's entries. -/
theorem entryAt?_cases (h : fs.SameTree other) (place : List Text) :
    (fs.entryAt? place = none ∧ other.entryAt? place = none) ∨
      (∃ content, fs.entryAt? place = some (.file content) ∧
        other.entryAt? place = some (.file content)) ∨
        ∃ entries more, fs.entryAt? place = some (.directory entries) ∧
          other.entryAt? place = some (.directory more) := by
  cases hentry : fs.entryAt? place with
  | none =>
    cases hother : other.entryAt? place with
    | none => exact Or.inl ⟨rfl, rfl⟩
    | some found =>
      cases found with
      | file content =>
        have hcontent := (h.content place).symm.trans (Entry.contentAt?_eq_some.mpr hother)
        cases hentry.symm.trans (Entry.contentAt?_eq_some.mp hcontent)
      | directory more =>
        obtain ⟨entries, hfound⟩ := (h.directory place).mp ⟨more, hother⟩
        cases hentry.symm.trans hfound
  | some found =>
    cases found with
    | file content =>
      have hcontent := (h.content place).trans (Entry.contentAt?_eq_some.mpr hentry)
      exact Or.inr (Or.inl ⟨content, rfl, Entry.contentAt?_eq_some.mp hcontent⟩)
    | directory entries =>
      obtain ⟨more, hmore⟩ := (h.directory place).mpr ⟨entries, hentry⟩
      exact Or.inr (Or.inr ⟨entries, more, rfl, hmore⟩)

theorem isSome_entryAt? (h : fs.SameTree other) (place : List Text) :
    (other.entryAt? place).isSome = (fs.entryAt? place).isSome := by
  rcases h.entryAt?_cases place with ⟨hfs, hother⟩ | ⟨content, hfs, hother⟩ |
      ⟨entries, more, hfs, hother⟩
  · rw [hfs, hother]
  · rw [hfs, hother]
  · rw [hfs, hother, Option.isSome_some, Option.isSome_some]

theorem follow_eq (h : fs.SameTree other) (place names : List Text) :
    other.follow place names = fs.follow place names := by
  induction names generalizing place with
  | nil => rfl
  | cons name names ih =>
    rcases h.entryAt?_cases place with ⟨hfs, hother⟩ | ⟨content, hfs, hother⟩ |
        ⟨entries, more, hfs, hother⟩
    · simp only [follow, hfs, hother]
    · simp only [follow, hfs, hother]
    · simp only [follow, hfs, hother, ih]

theorem place_eq (h : fs.SameTree other) (p : Path) : other.place p = fs.place p := by
  have hstart : other.start p = fs.start p := by rw [start, start, h.workingDirectory]
  rw [place, place, hstart, h.follow_eq]

theorem isOutOfReach_iff (h : fs.SameTree other) : other.IsOutOfReach root ↔ fs.IsOutOfReach root := by
  simp only [IsOutOfReach, h.place_eq, h.isSome_entryAt?]

theorem isSourceBelow_iff (h : fs.SameTree other) :
    other.IsSourceBelow root p ↔ fs.IsSourceBelow root p := by
  have hholds : ∀ place names last, other.HoldsSource place names last ↔
      fs.HoldsSource place names last :=
    fun place names last =>
      ⟨fun ⟨hcontent, hunskipped, hsuffix⟩ => ⟨h.content _ ▸ hcontent, hunskipped, hsuffix⟩,
        fun ⟨hcontent, hunskipped, hsuffix⟩ => ⟨(h.content _).symm ▸ hcontent, hunskipped, hsuffix⟩⟩
  simp only [IsSourceBelow, h.place_eq, hholds]

end SameTree

/-- A scan lists the sources below its root, all of them and nothing else, in strict order and
whatever the order in which directories list their entries, unless a path is too long to be looked
at. -/
theorem scan_lists_sources (hfs : fs.top.IsWellNamed) (root : Path) :
    (fs.IsOutOfReach root → ∃ path, fs.scan root = .error ⟨.nameTooLong, path⟩) ∧
      (¬ fs.IsOutOfReach root → ∃ sources, fs.scan root = .ok sources ∧
        (∀ p, p ∈ sources ↔ fs.IsSourceBelow root p) ∧ sources.Pairwise Path.Precedes ∧
        (fs.isDirectory root = false → sources = []) ∧
        ∀ other : FileSystem, other.top.IsWellNamed → fs.SameTree other →
          other.scan root = .ok sources) := by
  refine ⟨scan_of_isOutOfReach hfs, fun hreach => ?_⟩
  obtain ⟨sources, hscan, hmem, hpairwise⟩ := exists_scan_sources hfs hreach
  refine ⟨sources, hscan, hmem, hpairwise, fun hdir => ?_, fun other hother hsame => ?_⟩
  · refine List.eq_nil_iff_forall_not_mem.mpr fun p hp => ?_
    rw [isDirectory_of_isSourceBelow ((hmem p).mp hp)] at hdir
    cases hdir
  · have hreached : ¬ other.IsOutOfReach root := fun h => hreach (hsame.isOutOfReach_iff.mp h)
    obtain ⟨listed, hlisted, hmember, horder⟩ := exists_scan_sources hother hreached
    -- Being a source below the root does not depend on the order of entries, and the list is
    -- determined by it.
    have heq : listed = sources := Path.eq_of_pairwise_precedes horder hpairwise fun p => by
      rw [hmember, hmem, hsame.isSourceBelow_iff]
    rw [hlisted, heq]

/-- A tree whose first directory is listed in another order. The order of names puts `a/x.mjs`
before `a.js`, and neither `.js` nor what stands in `dist` is a source. -/
theorem scan_lists_sources_reordered :
    let entries : List (Text × Entry) :=
      [("a", .directory [("x.mjs", .file [])]), ("a.js", .file []), (".js", .file []),
        ("dist", .directory [("b.js", .file [])])]
    let fs : FileSystem := ⟨.directory entries, []⟩
    let other : FileSystem := ⟨.directory entries.reverse, []⟩
    fs.top.IsWellNamed ∧ other.top.IsWellNamed ∧ fs.SameTree other ∧
      ¬ fs.IsOutOfReach (Path.ofText ".") ∧
      other.scan (Path.ofText ".") = .ok [⟨.relative, ["a", "x.mjs"]⟩, ⟨.relative, ["a.js"]⟩] := by
  intro entries fs other
  have hbelow : ∀ child ∈ entries, child.2.IsWellNamed := by
    have hinner : ∀ name : Text, IsFileName name →
        (Entry.directory [(name, .file [])]).IsWellNamed := fun name h =>
      .directory (List.nodup_singleton _) (List.forall_mem_singleton.mpr h)
        (List.forall_mem_singleton.mpr (.file _))
    simp only [entries, List.forall_mem_cons]
    exact ⟨hinner _ (by decide), .file _, .file _, hinner _ (by decide), List.forall_mem_nil _⟩
  have hfs : fs.top.IsWellNamed := .directory (by decide) (by decide) hbelow
  have hother : other.top.IsWellNamed := .directory (by decide) (by decide) fun child hchild =>
    hbelow child (List.mem_reverse.mp hchild)
  have hsame : fs.SameTree other := sameTree_of_perm (by decide) (List.reverse_perm entries).symm []
  let names : List (List Text) := [["a", "x.mjs"], ["a.js"]]
  have hsources : (Entry.directory entries).sources = names := by
    let below : List (List Text) := [["a", "x.mjs"], ["a.js"], [".js"], ["dist", "b.js"]]
    have hfiles : (Entry.directory entries).filesBelow = below := by
      simp only [entries, below, Entry.filesBelow, Entry.filesAmong, List.map_cons, List.map_nil,
        List.cons_append, List.nil_append]
    have hkept : below.filter (fun names => Path.isSource ⟨.relative, names⟩) = names := by
      decide +kernel
    rw [Entry.sources, hfiles, hkept, List.mergeSort_of_pairwise (by decide +kernel)]
  have hplace : fs.place (Path.ofText ".") = .ok [] := by decide +kernel
  have hscan : fs.scan (Path.ofText ".") = .ok (names.map (Path.ofText ".").append) := by
    rw [← hsources]
    exact scan_of_entry hplace rfl (by decide +kernel)
  have hreach : ¬ fs.IsOutOfReach (Path.ofText ".") := fun h => by
    obtain ⟨path, hrefused⟩ := scan_of_isOutOfReach hfs h
    cases hscan.symm.trans hrefused
  obtain ⟨sources, hlisted, -, -, -, hanyway⟩ := (scan_lists_sources hfs (Path.ofText ".")).2 hreach
  cases hscan.symm.trans hlisted
  exact ⟨hfs, hother, hsame, hreach, hanyway other hother hsame⟩

/-- A source that lies below its root, which is named by so long a detour that the path of the
source is too long. -/
theorem scan_of_long_detour :
    let wide : Text := List.replicate 63 (CodePoint.ofNat 0x1F600)
    let root := Path.ofText
        (Text.join "/" (wide :: (List.replicate 15 [Text.ofString "..", wide]).flatten))
    let fs : FileSystem := ⟨.directory [(wide, .directory [("a.js", .file [])])], []⟩
    fs.top.IsWellNamed ∧ fs.isDirectory root = true ∧ fs.IsSourceBelow root (root.append ["a.js"]) ∧
      ¬ ∃ sources, fs.scan root = .ok sources := by
  intro wide root fs
  have hinner : (Entry.directory [("a.js", .file [])]).IsWellNamed :=
    .directory (by decide) (by decide) (List.forall_mem_singleton.mpr (.file _))
  have hfs : fs.top.IsWellNamed :=
    .directory (by decide) (by decide) (List.forall_mem_singleton.mpr hinner)
  have hplace : fs.place root = .ok [wide] := by decide +kernel
  have hfile : fs.top.contentAt? [wide, "a.js"] = some [] := by decide +kernel
  have hlong : (root.append ["a.js"]).text.isLongPath = true := by decide +kernel
  have hsource : fs.HoldsSource [wide] [] "a.js" :=
    ⟨⟨[], hfile⟩, by decide, Or.inl ⟨"a", "js", rfl, rfl, by decide, by decide, by decide⟩⟩
  have hreach : fs.IsOutOfReach root :=
    Or.inr ⟨[wide], ["a.js"], hplace, List.cons_ne_nil _ _, by decide +kernel, hlong⟩
  refine ⟨hfs, isDirectory_of_place hplace ⟨_, rfl⟩, ⟨[wide], [], "a.js", hplace, rfl, hsource⟩, ?_⟩
  rintro ⟨sources, hscan⟩
  obtain ⟨path, hrefused⟩ := scan_of_isOutOfReach hfs hreach
  cases hscan.symm.trans hrefused

end FileSystem

end ScriptTree
