import Mathlib.Data.List.Induction
import ScriptTree.Proofs.Files.Rescan

namespace ScriptTree

namespace FileSystem

variable {fs made after : FileSystem} {p : Path} {place names : List Text} {name : Text} {n : Nat}

/-- Names that lead somewhere once directories have been made led there before, or something was
missing. -/
theorem follow_of_keeps (h : Keeps [] fs made) {target : List Text}
    (hf : made.follow place names = .ok target) :
    fs.follow place names = .ok target ∨ fs.follow place names = .error .missing := by
  induction names generalizing place with
  | nil => exact Or.inl hf
  | cons name names ih =>
    obtain ⟨⟨entries, hentries⟩, hshort, hrest⟩ := follow_cons_eq_ok.mp hf
    cases hentry : fs.top.find? place with
    | none =>
      right
      rw [follow]
      simp only [entryAt?, hentry]
    | some entry =>
      cases entry with
      | file content =>
        -- Files are kept, so no directory can have taken the place of this one.
        have hkept : made.top.contentAt? place = some content :=
          (h.content place (List.not_mem_nil)).trans (Entry.contentAt?_eq_some.mpr hentry)
        cases (Entry.contentAt?_eq_some.mp hkept).symm.trans hentries
      | directory inner =>
        rcases ih hrest with hrest | hrest
        · exact Or.inl (follow_cons_eq_ok.mpr ⟨⟨inner, hentry⟩, hshort, hrest⟩)
        · right
          rw [follow]
          simp only [entryAt?, hentry, hshort, ↓reduceIte]
          exact hrest

/-- More names may be missing than a bound allows for. -/
theorem makeDirectories_succ (h : makeDirectories n fs p = .ok after) :
    makeDirectories (n + 1) fs p = .ok after := by
  induction n generalizing p after with
  | zero =>
    rw [makeDirectories] at h
    split at h
    next hdir =>
      cases h
      exact makeDirectories_of_isDirectory hdir 1
    next => cases h
  | succ n ih =>
    rw [makeDirectories] at h ⊢
    cases hmake : fs.makeDirectory p with
    | ok made =>
      rw [hmake] at h
      exact h
    | error e =>
      simp only [hmake] at h ⊢
      split at h
      next hmissing =>
        rw [if_pos hmissing]
        cases hparent : makeDirectories n fs p.parent with
        | error e => simp [hparent, bind, Except.bind] at h
        | ok mid =>
          rw [ih hparent]
          rwa [hparent] at h
      next hother =>
        rw [if_neg hother]
        exact h

theorem makeDirectories_of_le {m : Nat} (h : makeDirectories n fs p = .ok after) (hle : n ≤ m) :
    makeDirectories m fs p = .ok after := by
  induction hle with
  | refl => exact h
  | step _ ih => exact makeDirectories_succ ih

/-- Where a path leads, there is a directory or one can be made, unless a file is there. -/
theorem isDirectory_or_makeDirectory (hplace : fs.place p = .ok place)
    (hfile : fs.top.contentAt? place = none) :
    (fs.top.IsDirectoryAt place ∧ fs.isDirectory p = true) ∨
      (fs.entryAt? place = none ∧
        fs.makeDirectory p = .ok { fs with top := Entry.insert (.directory []) place fs.top }) := by
  cases hentry : fs.top.find? place with
  | none => exact Or.inr ⟨hentry, makeDirectory_eq_ok.mpr ⟨_, hplace, hentry, rfl⟩⟩
  | some entry =>
    cases entry with
    | file content => cases hfile.symm.trans (Entry.contentAt?_eq_some.mpr hentry)
    | directory entries =>
      exact Or.inl ⟨⟨entries, hentry⟩, isDirectory_of_place hplace ⟨entries, hentry⟩⟩

/-- A name below a directory leads one step further. -/
theorem place_append_singleton (hplace : fs.place p = .ok place)
    (hdir : fs.top.IsDirectoryAt place) (hup : name ≠ "..")
    (hname : ¬ mostNameBytes < Text.nameBytes name)
    (hshort : (p.append [name]).text.isLongPath = false) :
    fs.place (p.append [name]) = .ok (place ++ [name]) := by
  have hends : fs.follow place [name] = .ok (place ++ [name]) :=
    follow_cons_eq_ok.mpr ⟨hdir, hname, by rw [climb, if_neg hup]; rfl⟩
  refine place_eq_ok.mpr ⟨hshort, ?_⟩
  change fs.follow (fs.start p) (p.names ++ [name]) = _
  rw [follow_append, (place_eq_ok.mp hplace).2]
  exact hends

/-- Below a directory that can be made, one more is made or is there already, unless a file is there. -/
theorem makeDirectories_append_singleton (hmade : makeDirectories n fs p = .ok made)
    (hplace : made.place p = .ok place) (hdir : made.top.IsDirectoryAt place) (hup : name ≠ "..")
    (hname : ¬ mostNameBytes < Text.nameBytes name)
    (hshort : (p.append [name]).text.isLongPath = false)
    (hfile : made.top.contentAt? (place ++ [name]) = none) :
    made.place (p.append [name]) = .ok (place ++ [name]) ∧
      ((made.top.IsDirectoryAt (place ++ [name]) ∧
        makeDirectories (n + 1) fs (p.append [name]) = .ok made) ∨
        (made.entryAt? (place ++ [name]) = none ∧ makeDirectories (n + 1) fs (p.append [name])
          = .ok { made with top := Entry.insert (.directory []) (place ++ [name]) made.top })) := by
  have hkeeps := Keeps.of_makeDirectories hmade
  have hleads := place_append_singleton hplace hdir hup hname hshort
  have hfollow : made.follow (made.start p) (p.names ++ [name]) = .ok (place ++ [name]) :=
    (place_eq_ok.mp hleads).2
  refine ⟨hleads, ?_⟩
  -- What making the last directory comes to once those above it are there.
  have hlast := isDirectory_or_makeDirectory hleads hfile
  rw [hkeeps.start] at hfollow
  rcases follow_of_keeps hkeeps hfollow with hthere | hmissing
  · -- The directory above is there already, so nothing has been made for it.
    have habove := isDirectory_of_follow_append (place_eq_ok.mp hplace).1 hthere
    cases hmade.symm.trans (makeDirectories_of_isDirectory habove n)
    refine hlast.imp (And.imp_right fun hdir => makeDirectories_of_isDirectory hdir _)
      (And.imp_right fun hmake => ?_)
    rw [makeDirectories, hmake]
  · have hnone : fs.makeDirectory (p.append [name]) = .error ⟨.missing, (p.append [name]).text⟩ := by
      unfold makeDirectory FileSystem.place
      rw [hshort]
      simp only [Bool.false_eq_true, ↓reduceIte, Path.append]
      rw [show fs.start ⟨p.anchor, p.names ++ [name]⟩ = fs.start p from rfl, hmissing]
    have hne : (p.append [name]).names ≠ [] := by simp [Path.append]
    rw [makeDirectories, hnone]
    simp only [hne, ne_eq, not_false_eq_true, and_self, ↓reduceIte, Path.parent_append_singleton,
      hmade, bind, Except.bind]
    refine hlast.imp (And.imp_right fun hdir => ?_) (And.imp_right fun hmake => ?_)
    · simp only [makeDirectory_of_isDirectory hdir, hdir, ↓reduceIte]
    · simp only [hmake]

/-- Below an output directory that stands at a place, there are files at images only, and
directories only above images. -/
structure Hosts (images : List Text → Prop) (output : Path) (place : List Text)
    (fs : FileSystem) : Prop where
  leads : fs.place output = .ok place
  directory : fs.top.IsDirectoryAt place
  file : ∀ names content, fs.top.contentAt? (place ++ names) = some content → images names
  above : ∀ names, names ≠ [] → fs.top.IsDirectoryAt (place ++ names) →
    ∃ image, images image ∧ names <+: image ∧ names ≠ image

section Hosts

variable {images : List Text → Prop} {output : Path} {image : List Text} {last : Text}

/-- Below an empty output directory there is nothing at all. -/
theorem hosts_of_empty (hplace : fs.place output = .ok place)
    (hempty : fs.entryAt? place = some (.directory [])) : Hosts images output place fs := by
  have hbare : ∀ names, names ≠ [] → fs.top.find? (place ++ names) = none := by
    intro names hnames
    obtain ⟨name, names, rfl⟩ := List.exists_cons_of_ne_nil hnames
    rw [Entry.find?_append, show fs.top.find? place = _ from hempty]
    rfl
  refine ⟨hplace, ⟨[], hempty⟩, fun names content hcontent => ?_, fun names hnames hdir => ?_⟩
  · have hfile := Entry.contentAt?_eq_some.mp hcontent
    by_cases hnil : names = []
    · rw [hnil, List.append_nil] at hfile
      cases hempty.symm.trans hfile
    · cases (hbare names hnil).symm.trans hfile
  · obtain ⟨entries, hentries⟩ := hdir
    cases (hbare names hnames).symm.trans hentries

theorem Hosts.insert_directory (h : Hosts images output place fs)
    (hnone : fs.entryAt? (place ++ names) = none)
    (himage : images image) (hbegins : names <+: image) (hproper : names ≠ image) :
    Hosts images output place
      { fs with top := Entry.insert (.directory []) (place ++ names) fs.top } := by
  have hkeeps := Keeps.of_insert_directory hnone
  have hleaf : Entry.IsLeaf (.directory []) := rfl
  refine ⟨hkeeps.leads h.leads, hkeeps.directory h.directory, fun others content hcontent => ?_,
    fun others hne hdir => ?_⟩
  · rw [hkeeps.content _ List.not_mem_nil] at hcontent
    exact h.file others content hcontent
  · rcases Entry.isDirectoryAt_of_insert hleaf hdir with hdir | ⟨hsame, -⟩
    · exact h.above others hne hdir
    · rw [List.append_cancel_left hsame]
      exact ⟨image, himage, hbegins, hproper⟩

/-- The directories above an image can be made, if no image stands above another one. -/
theorem Hosts.makeDirectories (hmade : FileSystem.makeDirectories n fs output = .ok made)
    (h : Hosts images output place made) (hapart : ∀ a b, images a → images b → a <+: b → a = b)
    (himage : images image) (hbegins : names <+: image) (hproper : names ≠ image)
    (hout : output.IsProper)
    (hnames : ∀ name ∈ names, IsFileName name ∧ ¬ mostNameBytes < Text.nameBytes name)
    (hshort : (output.append names).text.isLongPath = false) :
    ∃ after, FileSystem.makeDirectories (n + names.length) fs (output.append names) = .ok after ∧
      Hosts images output place after ∧ after.place (output.append names) = .ok (place ++ names) ∧
      after.top.IsDirectoryAt (place ++ names) := by
  induction names using List.reverseRecOn with
  | nil =>
    rw [Path.append_nil, List.append_nil]
    exact ⟨made, hmade, h, h.leads, h.directory⟩
  | append_singleton names name ih =>
    obtain ⟨hinit, hlast⟩ := List.forall_mem_append.mp hnames
    obtain ⟨hname, hbytes⟩ := hlast name (List.mem_singleton_self name)
    have hmore : (output.append names).append [name] = output.append (names ++ [name]) :=
      Path.append_append ..
    have hall : (output.append (names ++ [name])).IsProper := fun other ho =>
      (List.mem_append.mp ho).elim (hout other) fun ho => (hnames other ho).1.segment
    have hstart : names <+: image := (List.prefix_append _ _).trans hbegins
    have hbefore : names ≠ image := by
      rintro rfl
      exact absurd hbegins.length_le (by simp)
    obtain ⟨mid, hmid, hhosts, hleads, hdir⟩ :=
      ih hstart hbefore hinit (Path.isLongPath_text (hmore.symm ▸ hall) (hmore.symm ▸ hshort))
    have hfile : mid.top.contentAt? (place ++ names ++ [name]) = none := by
      by_contra hsome
      obtain ⟨content, hcontent⟩ := Option.ne_none_iff_exists'.mp hsome
      rw [List.append_assoc] at hcontent
      exact hproper (hapart _ _ (hhosts.file _ content hcontent) himage hbegins)
    obtain ⟨hplace, hdone⟩ :=
      makeDirectories_append_singleton hmid hleads hdir hname.ne_up hbytes (hmore.symm ▸ hshort) hfile
    rw [hmore, List.append_assoc] at hplace hdone
    rw [List.length_append, List.length_singleton, ← Nat.add_assoc]
    rcases hdone with ⟨hthere, hmake⟩ | ⟨hnone, hmake⟩
    · exact ⟨mid, hmake, hhosts, hplace, hthere⟩
    · have hkeeps := Keeps.of_insert_directory hnone
      refine ⟨_, hmake, hhosts.insert_directory hnone himage hbegins hproper,
        hkeeps.leads hplace, [], ?_⟩
      rw [← List.append_assoc]
      exact Entry.find?_insert_concat _ hdir name

/-- An image is written into its directory, if no image stands above another one. -/
theorem Hosts.write (h : Hosts images output place fs)
    (hapart : ∀ a b, images a → images b → a <+: b → a = b)
    (himage : images (names ++ [last])) (htarget : (output.append (names ++ [last])).IsTarget)
    (hshort : (output.append (names ++ [last])).text.isLongPath = false)
    (hbytes : ¬ mostNameBytes < Text.nameBytes last) (hup : last ≠ "..")
    (hleads : fs.place (output.append names) = .ok (place ++ names))
    (hdir : fs.top.IsDirectoryAt (place ++ names)) (content : List UInt8) :
    ∃ after, fs.write (output.append (names ++ [last])).text content = .ok after ∧
      Hosts images output place after := by
  have hmore : (output.append names).append [last] = output.append (names ++ [last]) :=
    Path.append_append ..
  have hplace := place_append_singleton hleads hdir hup hbytes (hmore.symm ▸ hshort)
  rw [hmore, List.append_assoc] at hplace
  have hopens : fs.Opens (output.append (names ++ [last])).text (place ++ (names ++ [last])) := by
    refine ⟨hshort, endingOf_text htarget.nameable.proper htarget.ne_nil,
      ?_, ?_, place ++ names, last, ?_, hdir⟩
    · rwa [Path.ofText_text htarget.nameable.proper]
    · intro hthere
      obtain ⟨other, hother, hbegins, hproper⟩ := h.above _ (by simp) hthere
      exact hproper (hapart _ _ himage hother hbegins)
    · rw [List.append_assoc]
  have hkeeps := hopens.keeps content
  have hleaf : Entry.IsLeaf (.file content) := trivial
  refine ⟨_, write_eq_ok.mpr ⟨_, hopens, rfl⟩, hkeeps.leads h.leads, hkeeps.directory h.directory,
    fun others found hfound => ?_, fun others hne hthere => ?_⟩
  · by_cases hsame : others = names ++ [last]
    · rw [hsame]
      exact himage
    · rw [hkeeps.content _ fun hm => hsame (List.append_cancel_left (List.mem_singleton.mp hm))]
        at hfound
      exact h.file others found hfound
  · rcases Entry.isDirectoryAt_of_insert hleaf hthere with hthere | ⟨-, entries, hfile⟩
    · exact h.above others hne hthere
    · cases hfile

end Hosts

end FileSystem

end ScriptTree
