import ScriptTree.Files.Source
import ScriptTree.Proofs.Files.Writing

namespace ScriptTree

theorem Path.IsSegment.append_json {name : Text} (h : Path.IsSegment name) :
    Path.IsSegment (name ++ Text.ofString ".json") := by
  have hlong : 5 < (name ++ Text.ofString ".json").length := by
    rw [List.length_append]
    exact Nat.add_lt_add_right (List.length_pos_of_ne_nil h.ne_nil) 5
  refine ⟨?_, ?_, ?_⟩
  · rintro heq
    simp [heq] at hlong
  · rintro heq
    rw [heq] at hlong
    exact absurd hlong (by decide)
  · intro hs
    rcases List.mem_append.mp hs with hs | hs
    · exact h.slash hs
    · exact absurd hs (by decide)

theorem IsFileName.append_json {name : Text} (h : IsFileName name) :
    IsFileName (name ++ Text.ofString ".json") := by
  refine ⟨h.segment.append_json, ?_, ?_⟩
  · intro heq
    have hlength := congrArg List.length heq
    rw [List.length_append] at hlength
    exact absurd (hlength ▸ Nat.le_add_left 5 name.length) (by decide)
  · intro c hc
    rcases List.mem_append.mp hc with hc | hc
    · exact h.nameable c hc
    · have hjson : ∀ c ∈ Text.ofString ".json", c.val < 128 := by decide
      have hzero : ∀ c ∈ Text.ofString ".json", c.val ≠ 0 := by decide
      have hsmall := hjson c hc
      exact ⟨fun hs => absurd hs (by unfold CodePoint.IsSurrogate; omega), hzero c hc⟩

namespace Path

/-- A path below a root, by names of files. -/
def LiesBelow (source root : Path) : Prop :=
  ∃ names last, source = root.append (names ++ [last]) ∧ ∀ name ∈ names ++ [last], IsFileName name

/-- A path lies as far below an output directory as a source lies below a root, with `.json` after
its name. -/
def IsImage (target source root output : Path) : Prop :=
  ∃ names last, source = root.append (names ++ [last]) ∧
    target = output.append (names ++ [last ++ Text.ofString ".json"])

/-- A path under whose text a file can be written. -/
structure IsTarget (p : Path) : Prop where
  nameable : p.IsNameable
  ne_nil : p.names ≠ []
  name_ne_up : p.name ≠ ".."

theorem IsNameable.append {p : Path} (hp : p.IsNameable) {names : List Text}
    (h : ∀ name ∈ names, IsFileName name) :
    (p.append names).IsNameable where
  proper name hname := (List.mem_append.mp hname).elim (hp.proper name) fun hn => (h name hn).segment
  nameable name hname :=
    (List.mem_append.mp hname).elim (hp.nameable name) fun hn => (h name hn).nameable

theorem LiesBelow.isNameable {source root : Path} (h : source.LiesBelow root)
    (hroot : root.IsNameable) :
    source.IsNameable := by
  obtain ⟨names, last, rfl, hnames⟩ := h
  exact hroot.append hnames

theorem relativeTo_append (root : Path) (names : List Text) :
    (root.append names).relativeTo root = .ok names := by
  rw [relativeTo, if_pos ⟨rfl, List.prefix_append _ _⟩]
  exact congrArg Except.ok List.drop_left

theorem mirror_append (root output : Path) (names : List Text) (last : Text) :
    (root.append (names ++ [last])).mirror root output
      = .ok (output.append (names ++ [last ++ Text.ofString ".json"])) := by
  simp only [mirror, relativeTo_append, bind, Except.bind, List.getLast?_concat, List.dropLast_concat]

variable {source target root output : Path}

theorem exists_append_of_mirror (h : source.mirror root output = .ok target) :
    ∃ names, target = output.append names := by
  unfold mirror at h
  cases hnames : source.relativeTo root with
  | error e => simp [hnames, bind, Except.bind] at h
  | ok names =>
    simp only [hnames, bind, Except.bind] at h
    split at h
    next => cases h
    next last hlast => exact ⟨_, (Except.ok.inj h).symm⟩

theorem IsImage.mirror (h : target.IsImage source root output) :
    source.mirror root output = .ok target := by
  obtain ⟨names, last, rfl, rfl⟩ := h
  exact mirror_append root output names last

theorem LiesBelow.isImage (h : source.LiesBelow root)
    (hmirror : source.mirror root output = .ok target) :
    target.IsImage source root output := by
  obtain ⟨names, last, rfl, -⟩ := h
  rw [mirror_append] at hmirror
  exact ⟨names, last, rfl, (Except.ok.inj hmirror).symm⟩

theorem isTarget_append {p : Path} (hp : p.IsNameable) {names : List Text} {last : Text}
    (h : ∀ name ∈ names ++ [last], IsFileName name) : (p.append (names ++ [last])).IsTarget := by
  have hlast : (p.append (names ++ [last])).name = last := by simp [name, append]
  refine ⟨hp.append h, by simp [append], ?_⟩
  rw [hlast]
  exact (h last (by simp)).ne_up

theorem forall_isFileName_image {names : List Text} {last : Text}
    (h : ∀ name ∈ names ++ [last], IsFileName name) :
    ∀ name ∈ names ++ [last ++ Text.ofString ".json"], IsFileName name := by
  intro name hname
  rcases List.mem_append.mp hname with hname | hname
  · exact h name (List.mem_append_left _ hname)
  · rw [List.mem_singleton.mp hname]
    exact (h last (by simp)).append_json

/-- A source has an image that can be written to. -/
theorem LiesBelow.mirror (h : source.LiesBelow root) (hout : output.IsNameable) :
    ∃ target, source.mirror root output = .ok target ∧ target.IsTarget := by
  obtain ⟨names, last, rfl, hnames⟩ := h
  exact ⟨_, mirror_append root output names last, isTarget_append hout (forall_isFileName_image hnames)⟩

end Path

namespace FileSystem

variable {fs : FileSystem} {source other root output target image : Path} {sources : List Path}

theorem foldl_climb {names : List Text} (h : ∀ name ∈ names, name ≠ "..") (place : List Text) :
    names.foldl climb place = place ++ names := by
  induction names generalizing place with
  | nil => exact (List.append_nil place).symm
  | cons name names ih =>
    obtain ⟨hname, hnames⟩ := List.forall_mem_cons.mp h
    rw [List.foldl_cons, climb, if_neg hname, ih hnames, List.append_assoc]
    rfl

theorem resolve_append {names : List Text} (h : ∀ name ∈ names, name ≠ "..") (p : Path) :
    fs.resolve (p.append names) = fs.resolve p ++ names := by
  change (p.names ++ names).foldl climb (fs.start p) = _
  rw [List.foldl_append, foldl_climb h]
  rfl

/-- An image leads as far below the output directory as its source lies below the root. -/
theorem resolve_image (fs : FileSystem) (hsource : source.LiesBelow root)
    (hmirror : source.mirror root output = .ok target) :
    ∃ names last, source = root.append (names ++ [last]) ∧
      fs.resolve target = fs.resolve output ++ names ++ [last ++ Text.ofString ".json"] := by
  obtain ⟨names, last, rfl, hnames⟩ := hsource
  rw [Path.mirror_append] at hmirror
  cases hmirror
  refine ⟨names, last, rfl, ?_⟩
  rw [resolve_append, List.append_assoc]
  exact fun name hname => (Path.forall_isFileName_image hnames name hname).ne_up

/-- Images that lead to the same place are those of the same source. -/
theorem eq_of_resolve_mirror_eq (hsource : source.LiesBelow root) (hother : other.LiesBelow root)
    (htarget : source.mirror root output = .ok target) (himage : other.mirror root output = .ok image)
    (h : fs.resolve target = fs.resolve image) : source = other := by
  obtain ⟨names, last, rfl, hplace⟩ := resolve_image fs hsource htarget
  obtain ⟨others, final, rfl, hend⟩ := resolve_image fs hother himage
  rw [hplace, hend] at h
  obtain ⟨hinit, hlast⟩ := List.append_inj' h rfl
  rw [List.append_cancel_left hinit, List.append_cancel_right (List.singleton_inj.mp hlast)]

/-- A directory is scanned unless a path below it is too long to be looked at. -/
theorem scan_of_entry {place : List Text} {entry : Entry} (hplace : fs.place root = .ok place)
    (hentry : fs.entryAt? place = some entry)
    (hshort : ∀ names ∈ entry.namesBelow, (root.append names).text.isLongPath = false) :
    fs.scan root = .ok (entry.sources.map root.append) := by
  have hnone : (entry.namesBelow.find? fun names => (root.append names).text.isLongPath) = none :=
    List.find?_eq_none.mpr fun names hnames => by simp [hshort names hnames]
  rw [scan, hplace]
  simp only [hentry, hnone]

/-- Sources that are found stand below the entry that the root leads to. -/
theorem exists_entry_of_scan (h : fs.scan root = .ok sources) (hne : sources ≠ []) :
    ∃ place entry, fs.place root = .ok place ∧ fs.entryAt? place = some entry ∧
      sources = entry.sources.map root.append := by
  unfold scan at h
  split at h
  next =>
    split at h
    next => cases h
    next => exact absurd (Except.ok.inj h).symm hne
  next => exact absurd (Except.ok.inj h).symm hne
  next place hplace =>
    split at h
    next entry hentry =>
      split at h
      next => cases h
      next => exact ⟨place, entry, hplace, hentry, (Except.ok.inj h).symm⟩
    next => exact absurd (Except.ok.inj h).symm hne

/-- The sources that a scan of a well-named tree finds lie below the root, each listed once. -/
theorem scan_eq_ok (hfs : fs.top.IsWellNamed) (h : fs.scan root = .ok sources) :
    sources.Nodup ∧ ∀ source ∈ sources, source.LiesBelow root := by
  by_cases hne : sources = []
  · subst hne
    exact ⟨List.nodup_nil, List.forall_mem_nil _⟩
  obtain ⟨place, entry, hplace, hentry, rfl⟩ := exists_entry_of_scan h hne
  have hnamed : entry.IsWellNamed := hfs.find? hentry
  have hperm := List.mergeSort_perm
      (entry.filesBelow.filter fun names => Path.isSource ⟨.relative, names⟩)
    fun xs ys => !Text.namesBefore ys xs
  refine ⟨?_, ?_⟩
  · have hinj : Function.Injective root.append := fun names others heq =>
      List.append_cancel_left (congrArg Path.names heq)
    exact (hperm.nodup_iff.mpr (hnamed.nodup_filesBelow.filter _)).map hinj
  · intro source hsource
    obtain ⟨names, hnames, rfl⟩ := List.mem_map.mp hsource
    obtain ⟨hne, hall⟩ := hnamed.mem_filesBelow (List.mem_filter.mp (hperm.mem_iff.mp hnames)).1
    refine ⟨names.dropLast, names.getLast hne, ?_, ?_⟩
    · rw [List.dropLast_concat_getLast]
    · rwa [List.dropLast_concat_getLast]

/-- A directory whose files are all sources and stand in order is scanned as it stands. -/
theorem scan_of_sorted {place : List Text} {entry : Entry} {names : List (List Text)}
    (hplace : fs.place root = .ok place) (hentry : fs.entryAt? place = some entry)
    (hshort : ∀ names ∈ entry.namesBelow, (root.append names).text.isLongPath = false)
    (hfiles : entry.filesBelow = names)
    (hsources : names.filter (fun names => Path.isSource ⟨.relative, names⟩) = names)
    (hsorted : names.Pairwise fun xs ys => (!Text.namesBefore ys xs) = true) :
    fs.scan root = .ok (names.map root.append) := by
  rw [scan_of_entry hplace hentry hshort, Entry.sources, hfiles, hsources,
    List.mergeSort_of_pairwise hsorted]

end FileSystem

end ScriptTree
