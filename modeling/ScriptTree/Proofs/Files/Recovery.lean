import ScriptTree.Proofs.Files.Mirror

namespace ScriptTree

/-- A text without what it ends with. -/
def Text.withoutEnding? (ending t : Text) : Option Text :=
  if ending <:+ t then some (t.take (t.length - ending.length)) else none

theorem Text.withoutEnding?_eq_some {ending t stem : Text} :
    withoutEnding? ending t = some stem ↔ t = stem ++ ending := by
  rw [withoutEnding?]
  constructor
  · intro h
    split at h
    next hends =>
      obtain ⟨start, rfl⟩ := hends
      rw [List.length_append, Nat.add_sub_cancel, List.take_left] at h
      rw [Option.some.inj h]
    next => cases h
  · rintro rfl
    rw [if_pos (List.suffix_append stem ending), List.length_append, Nat.add_sub_cancel, List.take_left]

namespace Path

/-- The names of what a path below an output directory is the image of. -/
def original? (target output : Path) : Option (List Text) :=
  match target.relativeTo output with
  | .error _ => none
  | .ok names =>
    (names.getLast?.bind (Text.withoutEnding? (Text.ofString ".json"))).map
      fun last => names.dropLast ++ [last]

/-- A path that is another one or leads further down from it. -/
def LeadsBelow (source root : Path) : Prop := source.anchor = root.anchor ∧ root.names <+: source.names

section Mirror

variable {source root output target : Path} {names : List Text}

theorem leadsBelow_iff : source.LeadsBelow root ↔ ∃ names, source = root.append names := by
  constructor
  · rintro ⟨hanchor, names, hnames⟩
    refine ⟨names, ?_⟩
    rw [append, hnames, ← hanchor]
  · rintro ⟨names, rfl⟩
    exact ⟨rfl, List.prefix_append _ _⟩

theorem relativeTo_eq_ok : source.relativeTo root = .ok names ↔ source = root.append names := by
  constructor
  · intro h
    rw [relativeTo] at h
    split at h
    next hbelow =>
      obtain ⟨more, rfl⟩ := leadsBelow_iff.mp hbelow
      rw [append, List.drop_left] at h
      rw [Except.ok.inj h]
    next => cases h
  · rintro rfl
    exact relativeTo_append root names

theorem mirror_of_not_leadsBelow (h : ¬ source.LeadsBelow root) (output : Path) :
    source.mirror root output = .error (.outside source root) := by
  have hrelative : source.relativeTo root = .error (.outside source root) := if_neg h
  rw [mirror, hrelative]
  rfl

theorem mirror_self (root output : Path) : root.mirror root output = .error .emptyName := by
  have hrelative : root.relativeTo root = .ok [] := relativeTo_eq_ok.mpr (append_nil root).symm
  rw [mirror, hrelative]
  rfl

/-- A path leads elsewhere than below a root, or it is the root, or it stands one name or more below
it. -/
theorem leadsBelow_cases (source root : Path) :
    ¬ source.LeadsBelow root ∨ source = root ∨ ∃ names last,
      source = root.append (names ++ [last]) := by
  by_cases hbelow : source.LeadsBelow root
  · obtain ⟨names, rfl⟩ := leadsBelow_iff.mp hbelow
    rcases List.eq_nil_or_concat names with rfl | ⟨before, last, rfl⟩
    · exact Or.inr (Or.inl (append_nil root))
    · exact Or.inr (Or.inr ⟨before, last, by rw [List.concat_eq_append]⟩)
  · exact Or.inl hbelow

theorem append_concat_ne (root : Path) (names : List Text) (last : Text) :
    root.append (names ++ [last]) ≠ root := by
  intro h
  have hlength := congrArg (fun p : Path => p.names.length) h
  simp [append] at hlength

/-- A path has an image exactly if it stands below the root. -/
theorem mirror_eq_ok_iff : source.mirror root output = .ok target ↔
    target.IsImage source root output := by
  refine ⟨fun h => ?_, IsImage.mirror⟩
  rcases leadsBelow_cases source root with hout | rfl | ⟨names, last, rfl⟩
  · rw [mirror_of_not_leadsBelow hout] at h
    cases h
  · rw [mirror_self] at h
    cases h
  · rw [mirror_append] at h
    exact ⟨names, last, rfl, (Except.ok.inj h).symm⟩

theorem exists_mirror_iff : (∃ target, source.mirror root output = .ok target) ↔
    source.anchor = root.anchor ∧ root.names <+: source.names ∧ root.names ≠ source.names := by
  constructor
  · rintro ⟨target, h⟩
    obtain ⟨names, last, rfl, -⟩ := mirror_eq_ok_iff.mp h
    refine ⟨rfl, List.prefix_append _ _, fun heq => append_concat_ne root names last ?_⟩
    exact congrArg (Path.mk root.anchor) heq.symm
  · rintro ⟨hanchor, hprefix, hne⟩
    rcases leadsBelow_cases source root with hout | rfl | ⟨names, last, rfl⟩
    · exact absurd ⟨hanchor, hprefix⟩ hout
    · exact absurd rfl hne
    · exact ⟨_, mirror_append root output names last⟩

theorem mirror_eq_error {e : MirrorError} (h : source.mirror root output = .error e) :
    (source = root ∧ e = .emptyName) ∨ (¬ source.LeadsBelow root ∧ e = .outside source root) := by
  rcases leadsBelow_cases source root with hout | rfl | ⟨names, last, rfl⟩
  · rw [mirror_of_not_leadsBelow hout] at h
    exact Or.inr ⟨hout, (Except.error.inj h).symm⟩
  · rw [mirror_self] at h
    exact Or.inl ⟨rfl, (Except.error.inj h).symm⟩
  · rw [mirror_append] at h
    cases h

theorem original?_eq_some : target.original? output = some names ↔
    ∃ before last, names = before ++ [last] ∧
      target = output.append (before ++ [last ++ Text.ofString ".json"]) := by
  rw [original?]
  constructor
  · intro h
    split at h
    next => cases h
    next below hbelow =>
      obtain ⟨stem, hstem, rfl⟩ := Option.map_eq_some_iff.mp h
      obtain ⟨last, hlast, hends⟩ := Option.bind_eq_some_iff.mp hstem
      refine ⟨below.dropLast, stem, rfl, ?_⟩
      rw [relativeTo_eq_ok.mp hbelow, ← Text.withoutEnding?_eq_some.mp hends,
        List.dropLast_append_getLast? last hlast]
  · rintro ⟨before, last, rfl, rfl⟩
    rw [relativeTo_append]
    simp only [List.getLast?_concat, Option.bind_some, List.dropLast_concat,
      Text.withoutEnding?_eq_some.mpr (rfl : last ++ Text.ofString ".json" = _), Option.map_some]

/-- Taking the image of a path and looking for the original of an image undo each other. -/
theorem mirror_eq_ok_iff_original? : source.mirror root output = .ok target ↔
    ∃ names, target.original? output = some names ∧ source = root.append names := by
  rw [mirror_eq_ok_iff]
  constructor
  · rintro ⟨names, last, hsource, htarget⟩
    exact ⟨names ++ [last], original?_eq_some.mpr ⟨names, last, rfl, htarget⟩, hsource⟩
  · rintro ⟨_, horiginal, hsource⟩
    obtain ⟨names, last, rfl, htarget⟩ := original?_eq_some.mp horiginal
    exact ⟨names, last, hsource, htarget⟩

theorem IsProper.mirror (hsource : source.IsProper) (houtput : output.IsProper)
    (h : source.mirror root output = .ok target) : target.IsProper := by
  obtain ⟨names, last, rfl, rfl⟩ := mirror_eq_ok_iff.mp h
  have hbelow : ∀ name ∈ names ++ [last], IsSegment name :=
    fun name hname => hsource name (List.mem_append_right _ hname)
  intro name hname
  rcases List.mem_append.mp hname with hname | hname
  · exact houtput name hname
  rcases List.mem_append.mp hname with hname | hname
  · exact hbelow name (List.mem_append_left _ hname)
  · rw [List.mem_singleton.mp hname]
    exact (hbelow last (by simp)).append_json

end Mirror

/-- The image of a path is written under a text from which the path can be recovered: a source has
an image exactly if it has the anchor of the root and the names of the root and more. The image then
has the anchor and the names of the output directory and after them those of the source below the
root, with `.json` after the last one; without the names of the output directory and without `.json`
they are those of the source again, and no other source has an image of that text. -/
theorem mirror_undone (source root output : Text) :
    ((∃ target, (ofText source).mirror (ofText root) (ofText output) = .ok target) ↔
      (ofText source).anchor = (ofText root).anchor ∧ (ofText root).names <+: (ofText source).names ∧
        (ofText root).names ≠ (ofText source).names) ∧
    (∀ e, (ofText source).mirror (ofText root) (ofText output) = .error e →
      (ofText source = ofText root ∧ e = .emptyName) ∨
        (¬ (ofText source).LeadsBelow (ofText root) ∧ e = .outside (ofText source) (ofText root))) ∧
    ∀ target, (ofText source).mirror (ofText root) (ofText output) = .ok target →
      ofText target.text = target ∧
      (∃ names last, (ofText source).names = (ofText root).names ++ (names ++ [last]) ∧
        target.anchor = (ofText output).anchor ∧
        target.names = (ofText output).names ++ (names ++ [last ++ Text.ofString ".json"]) ∧
        target.original? (ofText output) = some (names ++ [last])) ∧
      ∀ other image, (ofText other).mirror (ofText root) (ofText output) = .ok image →
        image.text = target.text → ofText other = ofText source := by
  refine ⟨exists_mirror_iff, fun e => mirror_eq_error, fun target htarget => ?_⟩
  have hread {p : Text} {image : Path}
      (h : (ofText p).mirror (ofText root) (ofText output) = .ok image) :
      ofText image.text = image := ofText_text ((isProper_ofText p).mirror (isProper_ofText output) h)
  refine ⟨hread htarget, ?_, fun other image himage htext => ?_⟩
  · obtain ⟨names, last, hsource, rfl⟩ := mirror_eq_ok_iff.mp htarget
    exact ⟨names, last, congrArg Path.names hsource, rfl, rfl,
      original?_eq_some.mpr ⟨names, last, rfl, rfl⟩⟩
  · have hsame : image = target := by rw [← hread himage, htext, hread htarget]
    obtain ⟨names, hnames, hsource⟩ := mirror_eq_ok_iff_original?.mp htarget
    obtain ⟨more, hmore, hother⟩ := mirror_eq_ok_iff_original?.mp (hsame ▸ himage)
    rw [hother, hsource, Option.some.inj (hmore.symm.trans hnames)]

/-- A source that ends like an image, under a root and to a directory that are spelled with more
than their names. -/
theorem mirror_undone_spelled :
    (ofText "///src/./lib//a.json/").mirror (ofText "/src/")
    (ofText "./out//") = .ok (ofText "out/lib/a.json.json") ∧
      ∀ other image, (ofText other).mirror (ofText "/src/") (ofText "./out//") = .ok image →
        image.text = (ofText "out/lib/a.json.json").text → ofText other = ofText "/src/lib/a.json" := by
  have htarget : (ofText "///src/./lib//a.json/").mirror (ofText "/src/") (ofText "./out//")
      = .ok (ofText "out/lib/a.json.json") := by decide +kernel
  refine ⟨htarget, fun other image himage htext => ?_⟩
  exact ((mirror_undone _ _ _).2.2 _ htarget).2.2 other image himage htext

end Path

end ScriptTree
