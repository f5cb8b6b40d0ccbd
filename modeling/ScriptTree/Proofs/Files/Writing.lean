import ScriptTree.Proofs.Files.Listing

namespace ScriptTree

namespace FileSystem

/-- One name further from a place; two dots lead back. -/
def climb (place : List Text) (name : Text) : List Text :=
  if name = ".." then place.dropLast else place ++ [name]

/-- The place that the names of a path spell. -/
def resolve (fs : FileSystem) (p : Path) : List Text := p.names.foldl climb (fs.start p)

variable {fs mid after : FileSystem} {p : Path} {places more : List (List Text)}

theorem follow_cons_eq_ok {place target : List Text} {name : Text} {names : List Text} :
    fs.follow place (name :: names) = .ok target ↔
      fs.top.IsDirectoryAt place ∧ ¬ mostNameBytes < Text.nameBytes name ∧
        fs.follow (climb place name) names = .ok target := by
  rw [follow, entryAt?, Entry.IsDirectoryAt]
  cases fs.top.find? place with
  | none => simp
  | some entry =>
    cases entry with
    | file content => simp
    | directory entries =>
      by_cases hlong : mostNameBytes < Text.nameBytes name <;> simp [hlong, climb]

/-- Names that lead anywhere lead to the place they spell. -/
theorem follow_spells {place target : List Text} {names : List Text}
    (h : fs.follow place names = .ok target) :
    target = names.foldl climb place := by
  induction names generalizing place with
  | nil => exact (Except.ok.inj h).symm
  | cons name names ih => exact ih (follow_cons_eq_ok.mp h).2.2

/-- The last of names that lead anywhere is looked up in a directory. -/
theorem follow_concat {place target : List Text} {names : List Text} {last : Text}
    (h : fs.follow place (names ++ [last]) = .ok target) :
    ∃ dir, fs.top.IsDirectoryAt dir ∧ target = climb dir last := by
  induction names generalizing place with
  | nil =>
    obtain ⟨hdir, -, hend⟩ := follow_cons_eq_ok.mp h
    exact ⟨place, hdir, (Except.ok.inj hend).symm⟩
  | cons name names ih => exact ih (follow_cons_eq_ok.mp h).2.2

theorem place_eq_ok {place : List Text} :
    fs.place p = .ok place ↔ p.text.isLongPath = false ∧
      fs.follow (fs.start p) p.names = .ok place := by
  rw [FileSystem.place]
  cases p.text.isLongPath <;> simp

/-- The file system `after` has all directories of `fs`, and the same files in them but at some
places. -/
structure Keeps (places : List (List Text)) (fs after : FileSystem) : Prop where
  workingDirectory : after.workingDirectory = fs.workingDirectory
  listing : ∀ dir entries, fs.top.find? dir = some (.directory entries) →
    ∃ more, after.top.find? dir = some (.directory more) ∧
      ∀ P : List Text → Bool, (∀ names, dir ++ names ∈ places → P names = false) →
        (Entry.filesAmong more).filter P = (Entry.filesAmong entries).filter P
  content : ∀ place, place ∉ places → after.top.contentAt? place = fs.top.contentAt? place

theorem Keeps.directory (h : Keeps places fs after) {place : List Text}
    (hd : fs.top.IsDirectoryAt place) :
    after.top.IsDirectoryAt place := by
  obtain ⟨entries, hentries⟩ := hd
  obtain ⟨more, hmore, -⟩ := h.listing place entries hentries
  exact ⟨more, hmore⟩

theorem Keeps.refl (fs : FileSystem) : Keeps [] fs fs :=
  ⟨rfl, fun _ entries h => ⟨entries, h, fun _ _ => rfl⟩, fun _ _ => rfl⟩

theorem Keeps.trans (h : Keeps places fs mid) (h' : Keeps more mid after) :
    Keeps (places ++ more) fs after where
  workingDirectory := h'.workingDirectory.trans h.workingDirectory
  listing dir entries hdir := by
    obtain ⟨between, hbetween, hfirst⟩ := h.listing dir entries hdir
    obtain ⟨last, hlast, hsecond⟩ := h'.listing dir between hbetween
    refine ⟨last, hlast, fun P hP => ?_⟩
    rw [hsecond P fun names hm => hP names (List.mem_append_right _ hm),
      hfirst P fun names hm => hP names (List.mem_append_left _ hm)]
  content place hp :=
    (h'.content place fun hm => hp (List.mem_append_right _ hm)).trans
      (h.content place fun hm => hp (List.mem_append_left _ hm))

theorem Keeps.start (h : Keeps places fs after) (p : Path) : after.start p = fs.start p := by
  rw [FileSystem.start, FileSystem.start, h.workingDirectory]

theorem Keeps.resolve (h : Keeps places fs after) (p : Path) : after.resolve p = fs.resolve p := by
  rw [FileSystem.resolve, FileSystem.resolve, h.start]

theorem Keeps.follow (h : Keeps places fs after) {place target names : List Text}
    (hf : fs.follow place names = .ok target) : after.follow place names = .ok target := by
  induction names generalizing place with
  | nil => exact hf
  | cons name names ih =>
    obtain ⟨hdir, hshort, hrest⟩ := follow_cons_eq_ok.mp hf
    exact follow_cons_eq_ok.mpr ⟨h.directory hdir, hshort, ih hrest⟩

theorem Keeps.leads (h : Keeps places fs after) {place : List Text} (hplace : fs.place p = .ok place) :
    after.place p = .ok place := by
  obtain ⟨hshort, hfollow⟩ := place_eq_ok.mp hplace
  exact place_eq_ok.mpr ⟨hshort, (h.start p).symm ▸ h.follow hfollow⟩

theorem kind?_eq_directory {t : Text} :
    fs.kind? t = some .directory ↔ t.isEmpty = false ∧ t.isLongPath = false ∧
      ∃ place, fs.place (Path.ofText t) = .ok place ∧ fs.top.IsDirectoryAt place := by
  rw [kind?]
  unfold Entry.IsDirectoryAt
  cases t.isEmpty with
  | true => simp
  | false =>
    cases t.isLongPath with
    | true => simp
    | false =>
      cases fs.place (Path.ofText t) with
      | error refusal => simp
      | ok place =>
        simp only [entryAt?, Bool.false_eq_true, or_self, ↓reduceIte, Except.ok.injEq, true_and,
          exists_eq_left']
        cases fs.top.find? place with
        | none => simp
        | some entry =>
          cases entry with
          | file content => split_ifs <;> simp
          | directory entries => simp

theorem Keeps.kind? (h : Keeps places fs after) {t : Text} (hkind : fs.kind? t = some .directory) :
    after.kind? t = some .directory := by
  obtain ⟨hne, hshort, place, hplace, hdir⟩ := kind?_eq_directory.mp hkind
  exact kind?_eq_directory.mpr ⟨hne, hshort, place, h.leads hplace, h.directory hdir⟩

/-- A path leads to a file with a content. -/
structure Holds (fs : FileSystem) (p : Path) (content : List UInt8) : Prop where
  place : fs.place p = .ok (fs.resolve p)
  content : fs.top.contentAt? (fs.resolve p) = some content

theorem Holds.keeps {content : List UInt8} (h : fs.Holds p content) (hk : Keeps places fs after)
    (hp : fs.resolve p ∉ places) : after.Holds p content := by
  refine ⟨?_, ?_⟩
  · rw [hk.resolve]
    exact hk.leads h.place
  · rw [hk.resolve, hk.content _ hp]
    exact h.content

theorem endingOf_ne_plain {t : Text} (h : (Path.ofText t).names = []) : endingOf t ≠ .plain := by
  obtain ⟨last, hlast⟩ : ∃ last, (Text.split Path.slash t).getLast? = some last :=
    Option.isSome_iff_exists.mp (List.getLast?_isSome.mpr (Text.split_ne_nil _ t))
  have hname : Path.isName last = false := by
    by_contra hname
    have hmem : last ∈ (Path.ofText t).names :=
      List.mem_filter.mpr ⟨List.mem_of_getLast? hlast, by simpa using hname⟩
    rw [h] at hmem
    cases hmem
  rw [endingOf, hlast, Option.getD_some]
  cases last with
  | nil => simp
  | cons c rest =>
    have hdot : c :: rest = Text.ofString "." := by simpa [Path.isName] using hname
    simp [hdot]

theorem isEmpty_of_plain {t : Text} (h : endingOf t = .plain) : t.isEmpty = false := by
  cases t with
  | nil => exact absurd h (by decide)
  | cons c t => rfl

/-- A text that ends in a name is read if it leads to a file. -/
theorem read_eq_ok {t : Text} {content : List UInt8} :
    fs.read t = .ok content ↔ t.isLongPath = false ∧ endingOf t = .plain ∧
      ∃ place, fs.place (Path.ofText t) = .ok place ∧ fs.top.contentAt? place = some content := by
  constructor
  · intro h
    unfold read at h
    split_ifs at h with hempty hlong hplain
    · split at h
      next => cases h
      next place hplace =>
        split at h
        next => cases h
        next => cases h
        next old hold =>
          cases h
          exact ⟨by simpa using hlong, hplain, place, hplace, Entry.contentAt?_eq_some.mpr hold⟩
    · split at h
      next => cases h
      next => split at h <;> cases h
  · rintro ⟨hlong, hplain, place, hplace, hcontent⟩
    have hfile : fs.entryAt? place = some (.file content) := Entry.contentAt?_eq_some.mp hcontent
    simp only [read, isEmpty_of_plain hplain, hlong, hplace, hfile, hplain, Bool.false_eq_true,
      ↓reduceIte]

/-- What a path leads to can be read under its text. -/
theorem Holds.read {content : List UInt8} (h : fs.Holds p content)
    (hp : p.IsProper) (hne : p.names ≠ []) :
    fs.read p.text = .ok content := by
  refine read_eq_ok.mpr ⟨(place_eq_ok.mp h.place).1, endingOf_text hp hne, fs.resolve p, ?_, h.content⟩
  rw [Path.ofText_text hp]
  exact h.place

/-- A directory is made where a path leads and nothing is. -/
theorem makeDirectory_eq_ok :
    fs.makeDirectory p = .ok after ↔ ∃ place, fs.place p = .ok place ∧ fs.entryAt? place = none ∧
      after = { fs with top := Entry.insert (.directory []) place fs.top } := by
  unfold makeDirectory
  cases fs.place p with
  | error refusal => simp
  | ok place => cases hentry : fs.entryAt? place <;> simp [hentry, eq_comm]

theorem contentAt?_of_none {place : List Text} (h : fs.entryAt? place = none) :
    fs.top.contentAt? place = none := by
  rw [Entry.contentAt?, show fs.top.find? place = none from h]

theorem not_isDirectoryAt_of_none {place : List Text} (h : fs.entryAt? place = none) :
    ¬ fs.top.IsDirectoryAt place := by
  rintro ⟨entries, hd⟩
  cases h.symm.trans hd

theorem Keeps.of_insert_directory {place : List Text} (hnone : fs.entryAt? place = none) :
    Keeps [] fs { fs with top := Entry.insert (.directory []) place fs.top } := by
  have hfile := contentAt?_of_none hnone
  have hdir := not_isDirectoryAt_of_none hnone
  have hleaf : Entry.IsLeaf (.directory []) := rfl
  refine ⟨rfl, fun dir entries hd => ?_, fun other _ => ?_⟩
  · obtain ⟨more, hmore, hfilter⟩ := Entry.find?_insert_directory hleaf hdir hd
    refine ⟨more, hmore, fun P _ => hfilter P fun names content _ hc => ?_⟩
    rcases hc with hc | hc
    · cases hc
    · cases hfile.symm.trans hc
  · by_cases ho : other = place
    · rw [ho, Entry.contentAt?_insert_directory hfile, hfile]
    · exact Entry.contentAt?_insert_ne hleaf hdir ho

theorem Keeps.of_makeDirectory (h : fs.makeDirectory p = .ok after) : Keeps [] fs after := by
  obtain ⟨place, -, hnone, rfl⟩ := makeDirectory_eq_ok.mp h
  exact Keeps.of_insert_directory hnone

/-- Making directories touches no file. -/
theorem Keeps.of_makeDirectories {n : Nat} (h : makeDirectories n fs p = .ok after) :
    Keeps [] fs after := by
  induction n generalizing p after with
  | zero =>
    rw [makeDirectories] at h
    split at h
    next =>
      cases h
      exact Keeps.refl fs
    next => cases h
  | succ n ih =>
    rw [makeDirectories] at h
    cases hmake : fs.makeDirectory p with
    | ok made =>
      rw [hmake] at h
      cases h
      exact Keeps.of_makeDirectory hmake
    | error e =>
      simp only [hmake] at h
      split at h
      next =>
        cases hparent : makeDirectories n fs p.parent with
        | error e => simp [hparent, bind, Except.bind] at h
        | ok mid =>
          simp only [hparent, bind, Except.bind] at h
          have hmid := ih hparent
          cases hagain : mid.makeDirectory p with
          | ok made =>
            rw [hagain] at h
            cases h
            exact hmid.trans (Keeps.of_makeDirectory hagain)
          | error e =>
            simp only [hagain] at h
            split at h
            next =>
              cases h
              exact hmid
            next => cases h
      next =>
        split at h
        next =>
          cases h
          exact Keeps.refl fs
        next => cases h

/-- Writing under a text puts a file at a place: the text ends in a name, and the place is in a
directory and is none itself. -/
structure Opens (fs : FileSystem) (t : Text) (place : List Text) : Prop where
  short : t.isLongPath = false
  plain : endingOf t = .plain
  leads : fs.place (Path.ofText t) = .ok place
  free : ¬ fs.top.IsDirectoryAt place
  within : ∃ dir name, place = dir ++ [name] ∧ fs.top.IsDirectoryAt dir

theorem opens_of_writePlace {t : Text} {place : List Text} (h : fs.writePlace t = .ok place) :
    fs.Opens t place := by
  unfold writePlace at h
  simp only at h
  split_ifs at h with hempty hlong hslash hplain
  · split at h
    next => cases h
    next => split at h <;> cases h
  · split at h
    next => cases h
    next found hleads =>
      have hfound : ¬ fs.top.IsDirectoryAt found ∧ found = place := by
        split at h
        next => cases h
        next content hfile =>
          refine ⟨?_, Except.ok.inj h⟩
          rintro ⟨entries, hdir⟩
          cases hfile.symm.trans hdir
        next hnone =>
          refine ⟨?_, Except.ok.inj h⟩
          rintro ⟨entries, hdir⟩
          cases hnone.symm.trans hdir
      obtain ⟨hfree, rfl⟩ := hfound
      refine ⟨by simpa using hlong, hplain, hleads, hfree, ?_⟩
      have hne : (Path.ofText t).names ≠ [] := fun hnil => endingOf_ne_plain hnil hplain
      obtain ⟨names, last, hnames⟩ : ∃ names last, (Path.ofText t).names = names ++ [last] :=
        ⟨_, _, (List.dropLast_concat_getLast hne).symm⟩
      obtain ⟨dir, hdir, rfl⟩ := follow_concat (hnames ▸ (place_eq_ok.mp hleads).2)
      by_cases hup : last = ".."
      · -- Two dots lead back to a directory.
        obtain ⟨more, hmore⟩ := List.dropLast_prefix dir
        rw [climb, if_pos hup] at hfree
        exact absurd (Entry.IsDirectoryAt.of_append (hmore.symm ▸ hdir)) hfree
      · exact ⟨dir, last, if_neg hup, hdir⟩
  · split at h
    next => cases h
    next => split at h <;> cases h

/-- A text under which a file can be put at a place is written to there. -/
theorem Opens.writePlace {t : Text} {place : List Text} (h : fs.Opens t place) :
    fs.writePlace t = .ok place := by
  simp only [FileSystem.writePlace, isEmpty_of_plain h.plain, h.short, h.plain, h.leads,
    Bool.false_eq_true, reduceCtorEq, false_and, ↓reduceIte]
  split
  next entries hdir => exact absurd ⟨entries, hdir⟩ h.free
  next => rfl
  next => rfl

/-- Writing under a text puts the content where the text leads. -/
theorem write_eq_ok {t : Text} {content : List UInt8} :
    fs.write t content = .ok after ↔
      ∃ place, fs.Opens t place ∧
        after = { fs with top := Entry.insert (.file content) place fs.top } := by
  unfold write
  constructor
  · intro h
    split at h
    next => cases h
    next place hplace => exact ⟨place, opens_of_writePlace hplace, (Except.ok.inj h).symm⟩
  · rintro ⟨place, hopens, rfl⟩
    rw [hopens.writePlace]

section Opens

variable {t : Text} {place : List Text}

theorem Opens.eq_resolve (h : fs.Opens t place) : place = fs.resolve (Path.ofText t) :=
  follow_spells (place_eq_ok.mp h.leads).2

theorem Opens.keeps (h : fs.Opens t place) (content : List UInt8) :
    Keeps [place] fs { fs with top := Entry.insert (.file content) place fs.top } := by
  have hleaf : Entry.IsLeaf (.file content) := trivial
  refine ⟨rfl, fun dir entries hd => ?_,
    fun _ ho => Entry.contentAt?_insert_ne hleaf h.free (by simpa using ho)⟩
  obtain ⟨more, hmore, hfilter⟩ := Entry.find?_insert_directory hleaf h.free hd
  exact ⟨more, hmore,
    fun P hP => hfilter P fun names _ hnames _ => hP names (List.mem_singleton.mpr hnames)⟩

theorem Opens.content (h : fs.Opens t place) (content : List UInt8) :
    (Entry.insert (.file content) place fs.top).contentAt? place = some content := by
  obtain ⟨dir, name, rfl, hdir⟩ := h.within
  exact Entry.contentAt?_eq_some.mpr (Entry.find?_insert_concat _ hdir name)

/-- What was written under a text can be written anew. -/
theorem Opens.again (h : fs.Opens t place) (content : List UInt8) :
    Opens { fs with top := Entry.insert (.file content) place fs.top } t place := by
  have hkeeps := h.keeps content
  obtain ⟨dir, name, hdir, hwithin⟩ := h.within
  refine ⟨h.short, h.plain, hkeeps.leads h.leads, ?_, dir, name, hdir, hkeeps.directory hwithin⟩
  rintro ⟨entries, hd⟩
  have hcontent := h.content content
  rw [Entry.contentAt?, hd] at hcontent
  cases hcontent

/-- Writing under a text puts the content where the text leads, and touches no other file. -/
theorem Keeps.of_write {content : List UInt8} (h : fs.write t content = .ok after) :
    Keeps [fs.resolve (Path.ofText t)] fs after ∧ after.Holds (Path.ofText t) content := by
  obtain ⟨place, hopens, rfl⟩ := write_eq_ok.mp h
  have hkeeps := hopens.keeps content
  rw [← hopens.eq_resolve]
  refine ⟨hkeeps, ?_, ?_⟩
  · rw [hkeeps.resolve, ← hopens.eq_resolve]
    exact hkeeps.leads hopens.leads
  · rw [hkeeps.resolve, ← hopens.eq_resolve]
    exact hopens.content content

/-- What was written under a text is read under it. -/
theorem read_of_write {content : List UInt8} (h : fs.write t content = .ok after) :
    after.read t = .ok content := by
  obtain ⟨place, hopens, rfl⟩ := write_eq_ok.mp h
  exact read_eq_ok.mpr
    ⟨hopens.short, hopens.plain, place, (hopens.again content).leads, hopens.content content⟩

/-- Whether a file can be written to does not depend on what is written. -/
theorem exists_write_of_write {old : List UInt8} (h : fs.write t old = .ok mid) (content : List UInt8) :
    ∃ after, fs.write t content = .ok after := by
  obtain ⟨place, hopens, -⟩ := write_eq_ok.mp h
  exact ⟨_, write_eq_ok.mpr ⟨place, hopens, rfl⟩⟩

/-- Emptying a file and then writing to it is writing to it. -/
theorem write_of_write {old : List UInt8} (h : fs.write t old = .ok mid) (content : List UInt8) :
    mid.write t content = fs.write t content := by
  obtain ⟨place, hopens, rfl⟩ := write_eq_ok.mp h
  rw [write_eq_ok.mpr ⟨place, hopens.again old, rfl⟩, write_eq_ok.mpr ⟨place, hopens, rfl⟩,
    Entry.insert_insert]

end Opens

end FileSystem

end ScriptTree
