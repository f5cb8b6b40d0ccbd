import ScriptTree.Proofs.Files.Mirror

namespace ScriptTree

namespace Path

theorem nameSuffix_append_json (t : Text) :
    nameSuffix (t ++ Text.ofString ".json") = [] ∨
      nameSuffix (t ++ Text.ofString ".json") = Text.ofString ".json" := by
  have hreverse : (t ++ Text.ofString ".json").reverse = Text.ofString "nosj." ++ t.reverse := by
    rw [List.reverse_append]
    rfl
  have htail : ((Text.ofString "nosj." ++ t.reverse).takeWhile (· ≠ CodePoint.ofChar '.')).reverse
      = Text.ofString "json" := rfl
  have hdot : CodePoint.ofChar '.' ∈ t ++ Text.ofString ".json" := List.mem_append_right t (by decide)
  simp only [nameSuffix, hdot, ↓reduceIte, hreverse, htail]
  split_ifs
  · exact Or.inl rfl
  · exact Or.inr rfl

/-- No image is a source. -/
theorem isSource_image (anchor : Anchor) (names : List Text) (last : Text) :
    isSource ⟨anchor, names ++ [last ++ Text.ofString ".json"]⟩ = false := by
  have hsuffix : suffix ⟨anchor, names ++ [last ++ Text.ofString ".json"]⟩ =
      nameSuffix (last ++ Text.ofString ".json") := by
    rw [suffix, name, List.getLast?_concat, Option.getD_some]
  have hnone : sourceSuffixes.contains (nameSuffix (last ++ Text.ofString ".json")) = false := by
    rcases nameSuffix_append_json last with h | h <;> rw [h] <;> decide
  rw [isSource, hsuffix, hnone, Bool.and_false]

/-- No source stands where an image leads. -/
theorem isSource_of_append_eq {place names dir : List Text} {last : Text}
    (h : place ++ names = dir ++ [last ++ Text.ofString ".json"]) :
      isSource ⟨.relative, names⟩ = false := by
  rcases List.eq_nil_or_concat names with rfl | ⟨init, final, rfl⟩
  · decide +kernel
  · rw [List.concat_eq_append, ← List.append_assoc] at h
    rw [List.concat_eq_append, List.singleton_inj.mp (List.append_inj' h rfl).2]
    exact isSource_image .relative init last

end Path

namespace FileSystem

variable {fs after : FileSystem} {p root : Path} {place names : List Text} {places : List (List Text)}
  {sources : List Path}

theorem follow_append (fs : FileSystem) (place names more : List Text) :
    fs.follow place (names ++ more) =
      (fs.follow place names).bind fun reached => fs.follow reached more := by
  induction names generalizing place with
  | nil => rfl
  | cons name names ih =>
    rw [List.cons_append, follow, follow]
    split
    next => rfl
    next => rfl
    next =>
      split
      next => rfl
      next => exact ih _

/-- Names that lead through directories to be kept lead the same way afterwards. -/
theorem Keeps.follow_eq (h : Keeps places fs after) (hup : ∀ name ∈ names, name ≠ "..")
    (hdir : fs.top.IsDirectoryAt (place ++ names.dropLast)) :
      after.follow place names = fs.follow place names := by
  induction names generalizing place with
  | nil => rfl
  | cons name names ih =>
    obtain ⟨entries, hentries⟩ : fs.top.IsDirectoryAt place := hdir.of_append
    obtain ⟨more, hmore, -⟩ := h.listing place entries hentries
    obtain ⟨hname, hnames⟩ := List.forall_mem_cons.mp hup
    have hrest : after.follow (place ++ [name]) names = fs.follow (place ++ [name]) names := by
      cases names with
      | nil => rfl
      | cons next names =>
        refine ih hnames ?_
        rwa [List.append_assoc]
    rw [FileSystem.follow, FileSystem.follow]
    simp only [entryAt?, hentries, hmore, hname, ↓reduceIte, hrest]

theorem read_congr {t : Text} (hplace : after.place (Path.ofText t) = fs.place (Path.ofText t))
    (hentry : ∀ place, fs.place (Path.ofText t) = .ok place →
      after.entryAt? place = fs.entryAt? place) :
    after.read t = fs.read t := by
  rw [read, read, hplace]
  cases hfound : fs.place (Path.ofText t) with
  | error refusal => rfl
  | ok place => simp only [hentry place hfound]

/-- Names that lead to a source below a place. -/
structure Finds (fs : FileSystem) (place names : List Text) : Prop where
  ne_nil : names ≠ []
  fileNames : ∀ name ∈ names, IsFileName name
  isSource : Path.isSource ⟨.relative, names⟩ = true
  content : ∃ content, fs.top.contentAt? (place ++ names) = some content

theorem finds_of_scan (hfs : fs.top.IsWellNamed) (hplace : fs.place root = .ok place)
    (h : fs.scan root = .ok sources) {source : Path} (hsource : source ∈ sources) :
      ∃ names, source = root.append names ∧ fs.Finds place names := by
  obtain ⟨found, entry, hfound, hentry, rfl⟩ := exists_entry_of_scan h (List.ne_nil_of_mem hsource)
  cases hplace.symm.trans hfound
  obtain ⟨names, hnames, rfl⟩ := List.mem_map.mp hsource
  obtain ⟨hbelow, hkept⟩ := List.mem_filter.mp ((List.mergeSort_perm _ _).mem_iff.mp hnames)
  have hnamed : entry.IsWellNamed := hfs.find? hentry
  obtain ⟨hne, hall⟩ := hnamed.mem_filesBelow hbelow
  obtain ⟨content, hcontent⟩ := hnamed.contentAt?_of_mem hbelow
  refine ⟨names, rfl, hne, hall, hkept, content, ?_⟩
  rw [Entry.contentAt?_append, show fs.top.find? place = some entry from hentry]
  exact hcontent

theorem Finds.isDirectoryAt (h : fs.Finds place names) :
    fs.top.IsDirectoryAt (place ++ names.dropLast) := by
  obtain ⟨content, hcontent⟩ := h.content
  rw [← List.dropLast_concat_getLast h.ne_nil, ← List.append_assoc] at hcontent
  exact Entry.isDirectoryAt_of_contentAt? hcontent

/-- What a source holds is kept, and how it is reached. -/
theorem Keeps.source_eq (h : Keeps places fs after) (hroot : root.IsProper)
    (hplace : fs.place root = .ok place)
    (hfinds : fs.Finds place names) (hapart : place ++ names ∉ places) :
    after.source (root.append names) = fs.source (root.append names) := by
  have hup : ∀ name ∈ names, name ≠ ".." := fun name hname => (hfinds.fileNames name hname).ne_up
  have hproper : (root.append names).IsProper := fun name hname =>
    (List.mem_append.mp hname).elim (hroot name) fun hn => (hfinds.fileNames name hn).segment
  have hfollow : ∀ {fs : FileSystem}, fs.place root = .ok place →
      fs.follow (fs.start (root.append names)) (root.append names).names = fs.follow place names := by
    intro fs hplace
    change fs.follow (fs.start root) (root.names ++ names) = _
    rw [follow_append, (place_eq_ok.mp hplace).2]
    rfl
  have hsame : after.place (root.append names) = fs.place (root.append names) := by
    rw [FileSystem.place, FileSystem.place, hfollow hplace, hfollow (h.leads hplace),
      h.follow_eq hup hfinds.isDirectoryAt]
  have hread : after.read (root.append names).text = fs.read (root.append names).text := by
    refine read_congr ?_ fun found hfound => ?_
    · rw [Path.ofText_text hproper]
      exact hsame
    · rw [Path.ofText_text hproper] at hfound
      have hspells := follow_spells ((hfollow hplace).symm.trans (place_eq_ok.mp hfound).2)
      rw [foldl_climb hup] at hspells
      subst hspells
      obtain ⟨content, hcontent⟩ := hfinds.content
      have hafter : after.top.contentAt? (place ++ names) = some content :=
        (h.content _ hapart).trans hcontent
      exact (Entry.contentAt?_eq_some.mp hafter).trans (Entry.contentAt?_eq_some.mp hcontent).symm
  rw [FileSystem.source, FileSystem.source, readText, readText, hread]

/-- A directory in which no source has been put is scanned as before, unless a path below it is too
long. -/
theorem Keeps.scan_eq (h : Keeps places fs after) (hplace : fs.place root = .ok place)
    (hdir : fs.top.IsDirectoryAt place) (hscan : fs.scan root = .ok sources)
    (hplaces : ∀ names, place ++ names ∈ places → Path.isSource ⟨.relative, names⟩ = false)
    (hshort : ∀ e, after.scan root ≠ .error e) : after.scan root = .ok sources := by
  obtain ⟨entries, hentries⟩ := hdir
  obtain ⟨more, hmore, hfilter⟩ := h.listing place entries hentries
  have hsame : (Entry.directory more).sources = (Entry.directory entries).sources :=
    congrArg (List.mergeSort · _) (hfilter _ hplaces)
  have hsources : sources = (Entry.directory entries).sources.map root.append := by
    rw [FileSystem.scan, hplace] at hscan
    simp only [entryAt?, hentries] at hscan
    split at hscan
    next => cases hscan
    next => exact (Except.ok.inj hscan).symm
  rw [FileSystem.scan, h.leads hplace] at hshort ⊢
  simp only [entryAt?, hmore] at hshort ⊢
  split at hshort
  next => exact absurd rfl (hshort _)
  next => rw [hsources, hsame]

theorem isDirectory_of_place (hplace : fs.place p = .ok place) (hdir : fs.top.IsDirectoryAt place) :
    fs.isDirectory p = true := by
  obtain ⟨entries, hentries⟩ := hdir
  simp only [isDirectory, hplace, entryAt?, hentries]

/-- A directory that is there cannot be made again. -/
theorem makeDirectory_of_isDirectory (h : fs.isDirectory p = true) :
    fs.makeDirectory p = .error ⟨.occupied, p.text⟩ := by
  unfold isDirectory at h
  unfold makeDirectory
  split at h
  next place hplace =>
    split at h
    next entries hentries => simp only [hplace, hentries]
    next => cases h
  next => cases h

/-- What is a directory already is made without a change. -/
theorem makeDirectories_of_isDirectory (h : fs.isDirectory p = true) (n : Nat) :
    makeDirectories n fs p = .ok fs := by
  cases n with
  | zero => rw [makeDirectories, if_pos h]
  | succ n =>
    rw [makeDirectories, makeDirectory_of_isDirectory h]
    simp only [reduceCtorEq, false_and, ↓reduceIte, h]

/-- What leads one name further than a path goes through a directory there. -/
theorem isDirectory_of_follow_append {name : Text} {target : List Text}
    (hshort : p.text.isLongPath = false)
    (h : fs.follow (fs.start p) (p.names ++ [name]) = .ok target) : fs.isDirectory p = true := by
  rw [follow_append] at h
  cases hreached : fs.follow (fs.start p) p.names with
  | error refusal =>
    rw [hreached] at h
    cases h
  | ok reached =>
    rw [hreached] at h
    exact isDirectory_of_place (place_eq_ok.mpr ⟨hshort, hreached⟩) (follow_cons_eq_ok.mp h).1

/-- A file stands in the directory to which the parent of its path leads. -/
theorem Holds.isDirectory_parent {content : List UInt8} (h : fs.Holds p content) (hp : p.IsProper)
    (hne : p.names ≠ []) : fs.isDirectory p.parent = true := by
  have happend := Path.parent_append_name hne
  obtain ⟨hshort, hfollow⟩ := place_eq_ok.mp h.place
  rw [← happend] at hfollow
  exact isDirectory_of_follow_append
    (Path.isLongPath_text (happend.symm ▸ hp) (happend.symm ▸ hshort)) hfollow

/-- Writing what a file holds changes nothing. -/
theorem Holds.write {content : List UInt8} (h : fs.Holds p content) (hp : p.IsTarget) :
    fs.write p.text content = .ok fs := by
  have hproper := hp.nameable.proper
  have hfile := Entry.contentAt?_eq_some.mp h.content
  have hnames : p.names = p.parent.names ++ [p.name] :=
    congrArg Path.names (Path.parent_append_name hp.ne_nil).symm
  have hfollow := (place_eq_ok.mp h.place).2
  rw [hnames] at hfollow
  obtain ⟨dir, hdir, hclimb⟩ := follow_concat hfollow
  rw [climb, if_neg hp.name_ne_up] at hclimb
  refine write_eq_ok.mpr
    ⟨fs.resolve p, ⟨(place_eq_ok.mp h.place).1, endingOf_text hproper hp.ne_nil, ?_, ?_, ?_⟩, ?_⟩
  · rw [Path.ofText_text hproper]
    exact h.place
  · rintro ⟨entries, hentries⟩
    cases hfile.symm.trans hentries
  · exact ⟨dir, p.name, hclimb, hdir⟩
  · rw [Entry.insert_of_find? hfile]

end FileSystem

end ScriptTree
