import Mathlib.Data.List.Dedup
import ScriptTree.Corpus.Settings

namespace ScriptTree

namespace Corpus

/-- The overrides of a call: names, each with a value or without one. -/
abbrev Overrides := Fields (Option Text)

/-- The names of the settings. -/
def settingNames : List Text := ["source", "output", "template"]

namespace Overrides

/-- The value that is given to a name last. -/
def last? (name : Text) : Overrides → Option Text
  | [] => none
  | (key, value) :: rest => (last? name rest).or (if key = name then value else none)

/-- The overrides that give a value, with their values. -/
def changes (overrides : Overrides) : Fields Text :=
  overrides.filterMap fun o => o.2.map fun value => (o.1, value)

/-- The first name of a value that is no setting. -/
def unknown? (overrides : Overrides) : Option Text :=
  (overrides.find? fun o => o.2.isSome && !settingNames.contains o.1).map (·.1)

/-- All values are given to settings. -/
def IsKnown (overrides : Overrides) : Prop :=
  ∀ name value, (name, some value) ∈ overrides → name ∈ settingNames

/-- The overrides of two calls in one: each name once, with the value that is given to it last. -/
def merged (first later : Overrides) : Overrides :=
  (first ++ later).names.dedup.map fun name => (name, last? name (first ++ later))

variable {name : Text} {first later overrides : Overrides}

theorem last?_append (name : Text) (first later : Overrides) :
    last? name (first ++ later) = (last? name later).or (last? name first) := by
  induction first with
  | nil => exact Option.or_none.symm
  | cons o first ih =>
    obtain ⟨key, value⟩ := o
    rw [List.cons_append, last?, last?, ih, Option.or_assoc]

theorem last?_eq_none (h : name ∉ overrides.names) : last? name overrides = none := by
  induction overrides with
  | nil => rfl
  | cons o overrides ih =>
    obtain ⟨key, value⟩ := o
    rw [Fields.names, List.map_cons, List.mem_cons, not_or] at h
    rw [last?, ih h.2, if_neg (Ne.symm h.1), Option.or_none]

theorem last?_map (name : Text) (names : List Text) (value : Text → Option Text) :
    last? name (names.map fun n => (n, value n)) = if name ∈ names then value name else none := by
  induction names with
  | nil => rfl
  | cons n names ih =>
    rw [List.map_cons, last?, ih]
    by_cases hn : n = name
    · subst hn
      rw [if_pos rfl, if_pos List.mem_cons_self]
      split
      · exact Option.or_self
      · exact Option.none_or
    · simp [hn, Ne.symm hn]

theorem last?_merged (name : Text) (first later : Overrides) :
    last? name (merged first later) = (last? name later).or (last? name first) := by
  rw [merged, last?_map, ← last?_append]
  split
  next => rfl
  next h => exact (last?_eq_none (by rwa [List.mem_dedup] at h)).symm

theorem names_merged (first later : Overrides) :
    (merged first later).names = (first ++ later).names.dedup := by
  rw [merged, Fields.names, List.map_map]
  exact List.map_id _

theorem nodup_names_merged (first later : Overrides) : (merged first later).names.Nodup := by
  rw [names_merged]
  exact List.nodup_dedup _

theorem mem_names_merged : name ∈ (merged first later).names ↔
    name ∈ first.names ∨ name ∈ later.names := by
  rw [names_merged, List.mem_dedup, Fields.names, List.map_append, List.mem_append]
  rfl

theorem mem_of_last? {value : Text} (h : last? name overrides = some value) :
    (name, some value) ∈ overrides := by
  induction overrides with
  | nil => cases h
  | cons o overrides ih =>
    obtain ⟨key, old⟩ := o
    rcases Option.or_eq_some_iff.mp h with h | ⟨-, h⟩
    · exact List.mem_cons_of_mem _ (ih h)
    · split at h
      next hkey => rw [hkey, h]; exact List.mem_cons_self
      next => cases h

theorem IsKnown.merged (hfirst : first.IsKnown) (hlater : later.IsKnown) :
    (merged first later).IsKnown := by
  intro name value hmem
  obtain ⟨_, -, heq⟩ := List.mem_map.mp hmem
  obtain ⟨rfl, hvalue⟩ := Prod.mk.inj heq
  rcases List.mem_append.mp (mem_of_last? hvalue) with h | h
  · exact hfirst _ _ h
  · exact hlater _ _ h

theorem unknown?_eq_none_iff : overrides.unknown? = none ↔ overrides.IsKnown := by
  rw [unknown?, Option.map_eq_none_iff, List.find?_eq_none]
  constructor
  · intro h name value hmem
    simpa using h _ hmem
  · rintro h ⟨name, value⟩ hmem
    cases value with
    | none => simp
    | some value => simpa using h name value hmem

end Overrides

namespace Settings

open Overrides

variable {s t u : Settings} {overrides first later : Overrides} {calls : List Overrides}

/-- Settings with the values of overrides in the place of their own. -/
def updated (s : Settings) (overrides : Overrides) : Settings where
  source := (last? "source" overrides).getD s.source
  output := (last? "output" overrides).getD s.output
  template := (last? "template" overrides).getD s.template

/-- A template goes by the name that is set. -/
def HasTemplate (s : Settings) : Prop := ∃ template, Template.named? s.template = some template

theorem updated_updated (s : Settings) (first later : Overrides) :
    (s.updated first).updated later = s.updated (first ++ later) := by
  simp only [updated, last?_append, Option.getD_or]

theorem updated_merged (s : Settings) (first later : Overrides) :
    s.updated (merged first later) = (s.updated first).updated later := by
  simp only [updated, last?_merged, Option.getD_or]

theorem put_eq (s : Settings) (name value : Text) :
    s.put name value =
      if name ∈ settingNames then .ok (s.updated [(name, some value)])
        else .error (.unknownSetting name) := by
  by_cases hsource : name = "source"
  · subst hsource
    rfl
  by_cases houtput : name = "output"
  · subst houtput
    rfl
  by_cases htemplate : name = "template"
  · subst htemplate
    rfl
  · rw [put, if_neg hsource, if_neg houtput, if_neg htemplate, if_neg]
    simp [settingNames, hsource, houtput, htemplate]

/-- Changes are made up to the first one of something that is no setting. -/
theorem putAll_changes (s : Settings) (overrides : Overrides) :
    s.putAll overrides.changes =
      match overrides.unknown? with
      | some name => .error (.unknownSetting name)
      | none => .ok (s.updated overrides) := by
  induction overrides generalizing s with
  | nil => rfl
  | cons o overrides ih =>
    obtain ⟨name, value⟩ := o
    cases value with
    | none =>
      have hunknown : unknown? ((name, none) :: overrides) = unknown? overrides := rfl
      have hupdated : s.updated ((name, none) :: overrides) = s.updated overrides := by
        simp only [updated, last?, ite_self, Option.or_none]
      have hchanges : changes ((name, none) :: overrides) = changes overrides := rfl
      rw [hchanges, ih, hunknown, hupdated]
    | some value =>
      have hchanges : changes ((name, some value) :: overrides) =
          (name, value) :: changes overrides := rfl
      rw [hchanges, putAll, put_eq]
      by_cases hname : name ∈ settingNames
      · have hunknown : unknown? ((name, some value) :: overrides) = unknown? overrides := by
          rw [unknown?, List.find?_cons_of_neg (by simpa using hname)]
          rfl
        rw [if_pos hname, hunknown]
        change (s.updated [(name, some value)]).putAll _ = _
        rw [ih, updated_updated]
        rfl
      · have hunknown : unknown? ((name, some value) :: overrides) = some name := by
          rw [unknown?, List.find?_cons_of_pos (by simpa using hname)]
          rfl
        rw [if_neg hname, hunknown]
        rfl

theorem checked_eq_ok : s.checked = .ok t ↔ s = t ∧ t.HasTemplate := by
  rw [checked]
  constructor
  · intro h
    split at h
    next template htemplate =>
      cases h
      exact ⟨rfl, template, htemplate⟩
    next => cases h
  · rintro ⟨rfl, template, htemplate⟩
    rw [htemplate]

theorem checked_eq_error {e : SettingsError} :
    s.checked = .error e ↔ ¬ s.HasTemplate ∧ e = .unknownTemplate s.template := by
  rw [checked, HasTemplate]
  cases Template.named? s.template with
  | none => simp [eq_comm]
  | some template => simp

/-- What a call makes of settings. -/
theorem override_eq (s : Settings) (overrides : Overrides) :
    s.override overrides =
      if ownName ∈ overrides.names then .error .ownName
      else match overrides.unknown? with
        | some name => .error (.unknownSetting name)
        | none => (s.updated overrides).checked := by
  rw [override]
  split
  · rfl
  · change (s.putAll overrides.changes >>= fun t => t.checked) = _
    rw [putAll_changes]
    cases overrides.unknown? <;> rfl

theorem override_eq_ok : s.override overrides = .ok t ↔
    ownName ∉ overrides.names ∧ overrides.IsKnown ∧ (s.updated overrides).HasTemplate ∧
      t = s.updated overrides := by
  rw [override_eq, ← unknown?_eq_none_iff]
  split
  next hown => simp [hown]
  next hown =>
    cases overrides.unknown? with
    | some name => simp
    | none =>
      rw [checked_eq_ok]
      constructor
      · rintro ⟨rfl, htemplate⟩
        exact ⟨hown, rfl, htemplate, rfl⟩
      · rintro ⟨-, -, htemplate, rfl⟩
        exact ⟨rfl, htemplate⟩

theorem override_eq_ownName : s.override overrides = .error .ownName ↔ ownName ∈ overrides.names := by
  rw [override_eq]
  split
  next hown => simp [hown]
  next hown =>
    cases overrides.unknown? with
    | some name => simp [hown]
    | none => simp [checked_eq_error, hown]

theorem override_eq_unknownSetting : (∃ name, s.override overrides = .error (.unknownSetting name)) ↔
    ownName ∉ overrides.names ∧ ¬ overrides.IsKnown := by
  rw [override_eq, ← unknown?_eq_none_iff]
  split
  next hown => simp [hown]
  next hown =>
    cases overrides.unknown? with
    | some name => simp [hown]
    | none => simp [checked_eq_error]

theorem override_eq_unknownTemplate : (∃ name, s.override overrides = .error (.unknownTemplate name)) ↔
    ownName ∉ overrides.names ∧ overrides.IsKnown ∧ ¬ (s.updated overrides).HasTemplate := by
  rw [override_eq, ← unknown?_eq_none_iff]
  split
  next hown => simp [hown]
  next hown =>
    cases overrides.unknown? with
    | some name => simp
    | none => simp [checked_eq_error, hown]

/-- The settings after a call: those that it makes, or the same ones if it is refused. -/
def next (s : Settings) (call : Overrides) : Settings :=
  match s.override call with
  | .ok t => t
  | .error _ => s

/-- The settings after calls. -/
def after (s : Settings) (calls : List Overrides) : Settings := calls.foldl next s

/-- The calls that are accepted of those that are made one after the other. -/
def accepted (s : Settings) : List Overrides → List Overrides
  | [] => []
  | call :: calls =>
    match s.override call with
    | .ok t => call :: t.accepted calls
    | .error _ => s.accepted calls

theorem next_of_ok (h : s.override overrides = .ok t) : s.next overrides = t := by
  rw [next, h]

theorem next_of_error {e : SettingsError} (h : s.override overrides = .error e) :
    s.next overrides = s := by
  rw [next, h]

/-- Settings hold what the accepted calls gave last. -/
theorem after_eq_updated (s : Settings) (calls : List Overrides) :
    s.after calls = s.updated (s.accepted calls).flatten := by
  induction calls generalizing s with
  | nil => rfl
  | cons call calls ih =>
    rw [after, List.foldl_cons, accepted]
    cases hcall : s.override call with
    | error e =>
      rw [next_of_error hcall]
      exact ih s
    | ok t =>
      rw [next_of_ok hcall, List.flatten_cons, ← updated_updated, ← (override_eq_ok.mp hcall).2.2.2]
      exact ih t

theorem HasTemplate.next (h : s.HasTemplate) (call : Overrides) : (s.next call).HasTemplate := by
  cases hcall : s.override call with
  | error e => rwa [next_of_error hcall]
  | ok t =>
    obtain ⟨-, -, htemplate, rfl⟩ := override_eq_ok.mp hcall
    rwa [next_of_ok hcall]

theorem HasTemplate.after (h : s.HasTemplate) (calls : List Overrides) :
    (s.after calls).HasTemplate := by
  induction calls generalizing s with
  | nil => exact h
  | cons call calls ih => exact ih (h.next call)

/-- From the first accepted call on the template is a known one. -/
theorem hasTemplate_after (h : s.accepted calls ≠ []) : (s.after calls).HasTemplate := by
  induction calls generalizing s with
  | nil => exact absurd rfl h
  | cons call calls ih =>
    rw [accepted] at h
    rw [after, List.foldl_cons]
    cases hcall : s.override call with
    | error e =>
      rw [hcall] at h
      rw [next_of_error hcall]
      exact ih h
    | ok t =>
      obtain ⟨-, -, htemplate, rfl⟩ := override_eq_ok.mp hcall
      rw [next_of_ok hcall]
      exact htemplate.after calls

/-- Two accepted calls do what one call with the overrides of both does. -/
theorem override_merged (hfirst : s.override first = .ok t) (hlater : t.override later = .ok u) :
    s.override (merged first later) = .ok u := by
  obtain ⟨hown, hknown, -, rfl⟩ := override_eq_ok.mp hfirst
  obtain ⟨hown', hknown', htemplate, rfl⟩ := override_eq_ok.mp hlater
  rw [← updated_merged] at htemplate ⊢
  exact override_eq_ok.mpr
    ⟨fun h => (mem_names_merged.mp h).elim hown hown', hknown.merged hknown', htemplate, rfl⟩

/-- After any calls, a call is refused if it goes by the name of the settings themselves, or gives a
value to something that is no setting, or else leads to an unknown template, and is accepted
otherwise. Every setting is what the accepted calls gave last, or as it was at first; the template
is known if any call was accepted; and two accepted calls can be made as one. -/
theorem override_after (s : Settings) (calls : List Overrides) :
    (∀ call : Overrides,
      ((s.after calls).override call = .error .ownName ↔ ownName ∈ call.names) ∧
      ((∃ name, (s.after calls).override call = .error (.unknownSetting name)) ↔
        ownName ∉ call.names ∧ ¬ call.IsKnown) ∧
      ((∃ name, (s.after calls).override call = .error (.unknownTemplate name)) ↔
        ownName ∉ call.names ∧ call.IsKnown ∧ ¬ ((s.after calls).updated call).HasTemplate) ∧
      ∀ t, (s.after calls).override call = .ok t ↔
        ownName ∉ call.names ∧ call.IsKnown ∧ ((s.after calls).updated call).HasTemplate ∧
          t = (s.after calls).updated call) ∧
    (s.after calls).source = (last? "source" (s.accepted calls).flatten).getD s.source ∧
    (s.after calls).output = (last? "output" (s.accepted calls).flatten).getD s.output ∧
    (s.after calls).template = (last? "template" (s.accepted calls).flatten).getD s.template ∧
    (s.accepted calls ≠ [] → (s.after calls).HasTemplate) ∧
    ∀ first later t u, (s.after calls).override first = .ok t → t.override later = .ok u →
      (merged first later).names.Nodup ∧ (s.after calls).override (merged first later) = .ok u := by
  refine ⟨fun call => ⟨override_eq_ownName, override_eq_unknownSetting, override_eq_unknownTemplate,
    fun t => override_eq_ok⟩, ?_, ?_, ?_, hasTemplate_after, fun first later t u hfirst hlater =>
    ⟨nodup_names_merged first later, override_merged hfirst hlater⟩⟩
  all_goals rw [after_eq_updated]; rfl

/-- Settings with an unknown template, for which the first call does not give another one and the
second one does; the third one is refused with all that it gives. -/
theorem override_after_refused :
    let s : Settings := ⟨"s.js", "o.rs", "cobol"⟩
    let first : Overrides := [("source", some "a.js")]
    let second : Overrides := [("template", some "pytest"), ("other", none)]
    let third : Overrides := [("output", some "p.py"), ("other", some "x")]
    s.accepted [first, second, third] = [second] ∧ (s.after [first, second, third]).HasTemplate ∧
      (s.after [first, second, third]).source = "s.js" ∧
        (s.after [first, second, third]).output = "o.rs" ∧
      (s.after [first, second, third]).template = "pytest" := by
  intro s first second third
  have haccepted : s.accepted [first, second, third] = [second] := by decide +kernel
  obtain ⟨-, hsource, houtput, htemplate, hknown, -⟩ := override_after s [first, second, third]
  rw [haccepted] at hsource houtput htemplate hknown
  exact ⟨haccepted, hknown (List.cons_ne_nil _ _), hsource, houtput, htemplate⟩

/-- A call without any value is refused if it goes by the name of the settings themselves. -/
theorem override_own_name :
    let call : Overrides := [(ownName, none)]
    (∀ name value, (name, some value) ∉ call) ∧ (Settings.default.updated call).HasTemplate ∧
      Settings.default.override call = .error .ownName := by
  intro call
  refine ⟨fun name value hmem => ?_, ⟨Template.rust, rfl⟩, rfl⟩
  cases List.mem_singleton.mp hmem

end Settings

end Corpus

end ScriptTree
