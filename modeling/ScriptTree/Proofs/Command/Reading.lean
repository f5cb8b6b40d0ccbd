import ScriptTree.Command.Reading

namespace ScriptTree

namespace Command

section Line

variable {page : Page} {arguments : List Text} {argument : Text} {line : Line}

theorem Flag.takesValue_of_letter? {flag : Flag} {c : CodePoint} (h : flag.letter? = some c) :
    flag.takesValue = true := by
  cases flag with
  | help => cases h
  | version => cases h
  | output | config | source | template => rfl

/-- Flags that an argument gives, of which those without a value stand there by name. -/
def FlagReading.Names (page : Page) (argument : Text) : FlagReading → Prop
  | .complete flags => ∀ f ∈ flags, f.1.takesValue = true ∨ f.1 ∈ page.flags ∧ f.1.long = argument
  | .pending flag _ => flag.takesValue = true

theorem splitValue_none {name : Text} (h : splitValue argument = (name, none)) : name = argument := by
  rw [splitValue] at h
  split at h <;> cases h
  rfl

theorem names_of_readLong {reading : FlagReading} (h : readLong page argument = .ok reading) :
    reading.Names page argument := by
  rw [readLong] at h
  rcases hsplit : splitValue argument with ⟨name, value⟩
  rw [hsplit] at h
  simp only at h
  split at h
  next => cases h
  next flag hfind =>
    split at h
    next htakes =>
      cases value with
      | some v =>
        cases h
        exact List.forall_mem_singleton.mpr (Or.inl htakes)
      | none =>
        cases h
        exact htakes
    next =>
      cases value with
      | some v => cases h
      | none =>
        cases h
        refine List.forall_mem_singleton.mpr (Or.inr ⟨List.mem_of_find?_eq_some hfind, ?_⟩)
        have hlong : flag.long = name := by simpa using List.find?_some hfind
        rw [hlong, splitValue_none hsplit]

theorem names_of_readLetters {letters : Text} {reading : FlagReading}
    (h : readLetters page letters = .ok reading) :
    reading.Names page argument := by
  cases letters with
  | nil =>
    cases h
    exact List.forall_mem_nil _
  | cons c rest =>
    rw [readLetters] at h
    split at h
    next => cases h
    next flag hfind =>
      have hletter : flag.letter? = some c := by simpa using List.find?_some hfind
      have htakes := Flag.takesValue_of_letter? hletter
      rw [if_pos htakes] at h
      split at h
      next =>
        cases h
        exact htakes
      next =>
        cases h
        exact List.forall_mem_singleton.mpr (Or.inl htakes)

theorem names_of_readFlag {reading : FlagReading} (h : readFlag page argument = .ok reading) :
    reading.Names page argument := by
  unfold readFlag at h
  split at h
  next _ c rest =>
    split at h
    next => exact names_of_readLong h
    next => exact names_of_readLetters h
  next =>
    cases h
    exact List.forall_mem_nil _

theorem exists_of_map_eq_ok {x : Except Problem Line} {f : Line → Line} (h : x.map f = .ok line) :
    ∃ inner, x = .ok inner ∧ line = f inner := by
  cases x with
  | error problem => cases h
  | ok inner => exact ⟨inner, rfl, (Except.ok.inj h).symm⟩

/-- A flag without a value stands among the arguments by its long name. -/
theorem Line.mem_of_read (h : Line.read page arguments = .ok line) :
    ∀ f ∈ line.flags, f.1.takesValue = true ∨ f.1 ∈ page.flags ∧ f.1.long ∈ arguments := by
  fun_induction Line.read page arguments generalizing line with
  | case1 =>
    cases h
    exact List.forall_mem_nil _
  | case2 rest =>
    cases h
    exact List.forall_mem_nil _
  | case3 argument rest hend hflag problem hread => cases h
  | case4 argument rest hend hflag flags hread ih =>
    obtain ⟨inner, hrest, rfl⟩ := exists_of_map_eq_ok h
    intro f hf
    rcases List.mem_append.mp hf with hf | hf
    · refine (names_of_readFlag hread f hf).imp_right fun ⟨hpage, hlong⟩ => ⟨hpage, ?_⟩
      rw [hlong]
      exact List.mem_cons_self
    · exact (ih hrest f hf).imp_right fun ⟨hpage, hlong⟩ => ⟨hpage, List.mem_cons_of_mem _ hlong⟩
  | case5 argument hend hflag flag name hread => cases h
  | case6 argument hend hflag flag name hread value rest ih =>
    obtain ⟨inner, hrest, rfl⟩ := exists_of_map_eq_ok h
    intro f hf
    rcases List.mem_append.mp hf with hf | hf
    · rw [List.mem_singleton.mp hf]
      exact Or.inl (names_of_readFlag hread)
    · refine (ih hrest f hf).imp_right fun ⟨hpage, hlong⟩ => ⟨hpage, ?_⟩
      exact List.mem_cons_of_mem _ (List.mem_cons_of_mem _ hlong)
  | case7 argument rest hend hflag hmixes ih =>
    obtain ⟨inner, hrest, rfl⟩ := exists_of_map_eq_ok h
    exact fun f hf => (ih hrest f hf).imp_right fun ⟨hpage, hlong⟩ =>
      ⟨hpage, List.mem_cons_of_mem _ hlong⟩
  | case8 argument rest hend hflag hmixes =>
    cases h
    exact List.forall_mem_nil _

theorem Line.inquiry?_segment (h : Line.read .segment arguments = .ok line)
    (hhelp : Flag.help.long ∉ arguments) :
    line.inquiry? = none := by
  refine Option.map_eq_none_iff.mpr (List.find?_eq_none.mpr fun f hf => ?_)
  rcases Line.mem_of_read h f hf with htakes | ⟨hpage, hlong⟩
  · simp [htakes]
  · simp only [Page.flags, List.mem_cons, List.not_mem_nil, or_false] at hpage
    rcases hpage with hf | hf | hf | hf | hf <;> rw [hf] at hlong ⊢
    · decide
    · decide
    · decide
    · decide
    · exact absurd hlong hhelp

end Line

section Request

variable {fs : FileSystem} {source output : Text}

theorem Request.ofParseDir_eq_ok {line : Line} :
    Request.ofParseDir fs line = .ok (.parseDir source output) ↔
      line.plain = [source] ∧ (line.value? .output).getD defaultOutput = output ∧
        source.pathFlaw? = none ∧
        fs.kind? source = some .directory := by
  unfold Request.ofParseDir
  simp only
  split
  next hplain => simp [hplain]
  next first rest hplain =>
    cases rest with
    | cons second rest => split <;> simp [hplain, single, Except.map]
    | nil =>
      simp only [hplain, List.cons.injEq, and_true]
      split
      next _ _ flaw hflaw =>
        simp only [reduceCtorEq, false_iff]
        rintro ⟨rfl, -, hnone, -⟩
        cases hnone.symm.trans hflaw
      next hflaw hkind =>
        simp only [reduceCtorEq, false_iff]
        rintro ⟨rfl, -, -, hdir⟩
        cases hkind.symm.trans hdir
      next hflaw hkind =>
        simp only [reduceCtorEq, false_iff]
        rintro ⟨rfl, -, -, hdir⟩
        cases hkind.symm.trans hdir
      next hflaw hkind =>
        simp only [single, Except.map, Except.ok.injEq, Request.parseDir.injEq]
        constructor
        · rintro ⟨rfl, rfl⟩
          exact ⟨rfl, rfl, hflaw, hkind⟩
        · rintro ⟨rfl, rfl, -, -⟩
          exact ⟨rfl, rfl⟩

theorem Request.ofInquiry_ne_parseDir (page : Page) (flag : Flag) :
    Request.ofInquiry page flag ≠ .parseDir source output := by
  cases flag <;> simp [Request.ofInquiry]

theorem Request.exists_line_of_ofArguments {page : Page} {arguments : List Text}
    (h : Request.ofArguments fs page arguments = .ok (.parseDir source output)) :
    ∃ line, ∀ files, Request.ofArguments files page arguments = Request.ofParseDir files line := by
  unfold Request.ofArguments at h ⊢
  cases hline : Line.read page arguments with
  | error problem =>
    rw [hline] at h
    cases h
  | ok line =>
    simp only [hline] at h ⊢
    cases hinquiry : line.inquiry? with
    | some flag =>
      rw [hinquiry] at h
      exact absurd (Except.ok.inj h) (ofInquiry_ne_parseDir page flag)
    | none =>
      simp only [hinquiry] at h ⊢
      cases page with
      | program => cases h
      | parse =>
        cases hfile : single .parse "FILE_PATH" line.plain <;> simp [Request.ofParse,
          hfile, Except.map] at h
      | parseDir => exact ⟨line, fun files => rfl⟩
      | segment =>
        simp only [Request.ofSegment] at h
        split at h <;> cases h

/-- A command line that asks for the sources below a directory does so by one line of arguments,
whatever files there are. -/
theorem Request.exists_line_of_read {arguments : List Text}
    (h : Request.read fs arguments = .ok (.parseDir source output)) :
    ∃ line, ∀ files, Request.read files arguments = Request.ofParseDir files line := by
  unfold Request.read at h ⊢
  cases hempty : arguments.isEmpty with
  | true =>
    rw [hempty] at h
    cases h
  | false =>
    simp only [hempty, Bool.false_eq_true, ↓reduceIte] at h ⊢
    cases hline : Line.read .program arguments with
    | error problem =>
      rw [hline] at h
      cases h
    | ok line =>
      simp only [hline] at h ⊢
      split at h
      next _ _ flag hinquiry => exact absurd (Except.ok.inj h) (ofInquiry_ne_parseDir .program flag)
      next => cases h
      next name rest hinquiry hplain =>
        cases hpage : Page.command? name with
        | some page =>
          simp only [hpage] at h
          exact exists_line_of_ofArguments h
        | none =>
          simp only [hpage, Request.ofUnknown] at h
          split at h
          next => cases h
          next other hother =>
            split at h
            next flag hflag => exact absurd (Except.ok.inj h) (ofInquiry_ne_parseDir .program flag)
            next => cases h

end Request

theorem Request.read_segment (fs : FileSystem) (arguments : List Text) :
    Request.read fs ("segment" :: arguments) = Request.ofArguments fs .segment arguments := by
  have hplain : Line.read .program ("segment" :: arguments) = .ok ⟨[], "segment" :: arguments⟩ := by
    rw [Line.read]
    rfl
  have hpage : Page.command? (Text.ofString "segment") = some .segment := by decide +kernel
  rw [Request.read, hplain]
  simp only [List.isEmpty_cons, Bool.false_eq_true, ↓reduceIte, Line.inquiry?, List.find?_nil,
    Option.map_none, hpage]

/-- The reader that the program has is one on which the commands can rely. -/
theorem Request.isLawful_read : Reader.IsLawful Request.read where
  parse fs file h := by
    have hplain : Line.read .program ["parse", file] = .ok ⟨[], ["parse", file]⟩ := by
      rw [Line.read]
      rfl
    have hpage : Page.command? (Text.ofString "parse") = some .parse := by decide +kernel
    have hend : file ≠ Text.ofString "--" := by
      rintro rfl
      exact h rfl
    have hflag : isFlag file = false := by
      simp [isFlag, h]
    have hline : Line.read .parse [file] = .ok ⟨[], [file]⟩ := by
      rw [Line.read, if_neg hend, hflag]
      rfl
    rw [Request.read, hplain]
    simp only [List.isEmpty_cons, Bool.false_eq_true, ↓reduceIte, Line.inquiry?, List.find?_nil,
      Option.map_none, hpage]
    rw [Request.ofArguments, hline]
    rfl
  directory h := by
    obtain ⟨line, hline⟩ := exists_line_of_read h
    rw [hline] at h
    exact (ofParseDir_eq_ok.mp h).2.2
  again h hkind := by
    obtain ⟨line, hline⟩ := exists_line_of_read h
    rw [hline] at h ⊢
    obtain ⟨hplain, hvalue, hflaw, -⟩ := ofParseDir_eq_ok.mp h
    exact ofParseDir_eq_ok.mpr ⟨hplain, hvalue, hflaw, hkind⟩
  segment fs arguments hhelp := by
    rw [read_segment, ofArguments]
    cases hline : Line.read .segment arguments with
    | error problem => exact Or.inl ⟨_, rfl⟩
    | ok line =>
      simp only [Line.inquiry?_segment hline hhelp, ofSegment]
      split
      next name hunknown => exact Or.inl ⟨_, rfl⟩
      next hknown hplain => exact Or.inr ⟨_, _, _, _, rfl⟩
      next hknown hplain => exact Or.inl ⟨_, rfl⟩

end Command

end ScriptTree
