import ScriptTree.Basic

namespace ScriptTree

namespace Fields

variable {α : Type} {fields : Fields α} {name : Text}

/-- Each name at its first position with its last value. -/
def latest : Fields α → Fields α
  | [] => []
  | (name, value) :: rest =>
    (name, (get? name rest.reverse).getD value) :: (latest rest).filter (·.1 ≠ name)

theorem get?_append (before after : Fields α) :
    get? name (before ++ after) = (get? name before).or (get? name after) := by
  induction before with
  | nil => rfl
  | cons field before ih =>
    obtain ⟨key, value⟩ := field
    rw [List.cons_append, get?, get?]
    split
    · rfl
    · exact ih

theorem get?_filter_ne {other : Text} (h : name ≠ other) :
    get? name (fields.filter (·.1 ≠ other)) = get? name fields := by
  induction fields with
  | nil => rfl
  | cons field fields ih =>
    obtain ⟨key, value⟩ := field
    by_cases hk : key = other
    · subst hk
      rw [List.filter_cons_of_neg (by simp), ih, get?, if_neg (Ne.symm h)]
    · rw [List.filter_cons_of_pos (by simpa using hk), get?, get?, ih]

theorem get?_eq_some {value : α} (h : get? name fields = some value) : (name, value) ∈ fields := by
  induction fields with
  | nil => cases h
  | cons field fields ih =>
    obtain ⟨key, old⟩ := field
    rw [get?] at h
    split at h
    next hk =>
      cases h
      rw [hk]
      exact List.mem_cons_self
    next => exact List.mem_cons_of_mem _ (ih h)

theorem get?_of_mem {value : α} (hn : (names fields).Nodup) (h : (name, value) ∈ fields) :
    get? name fields = some value := by
  induction fields with
  | nil => cases h
  | cons field fields ih =>
    obtain ⟨key, old⟩ := field
    obtain ⟨hkey, hn⟩ := List.nodup_cons.mp hn
    rcases List.mem_cons.mp h with heq | h
    · cases heq
      exact if_pos rfl
    · have hne : key ≠ name := fun heq => hkey (List.mem_map.mpr ⟨(name, value), h, heq.symm⟩)
      rw [get?, if_neg hne, ih hn h]

/-- Where each name stands once, a name means the same in every order of the fields. -/
theorem get?_of_perm {more : Fields α} (hn : (names fields).Nodup) (hperm : List.Perm fields more) :
    get? name more = get? name fields := by
  have hmore : (names more).Nodup := (hperm.map Prod.fst).nodup_iff.mp hn
  refine Option.ext fun value => ⟨fun h => ?_, fun h => ?_⟩
  · exact get?_of_mem hn (hperm.mem_iff.mpr (get?_eq_some h))
  · exact get?_of_mem hmore (hperm.mem_iff.mp (get?_eq_some h))

theorem mem_of_mem_latest {field : Text × α} (h : field ∈ latest fields) : field ∈ fields := by
  induction fields with
  | nil => cases h
  | cons first fields ih =>
    obtain ⟨key, value⟩ := first
    rcases List.mem_cons.mp h with rfl | h
    · cases hget : get? key fields.reverse with
      | none => exact List.mem_cons_self
      | some last => exact List.mem_cons_of_mem _ (List.mem_reverse.mp (get?_eq_some hget))
    · exact List.mem_cons_of_mem _ (ih (List.mem_filter.mp h).1)

theorem mem_names_of_mem_latest (h : name ∈ names (latest fields)) : name ∈ names fields := by
  obtain ⟨field, hmem, rfl⟩ := List.mem_map.mp h
  exact List.mem_map_of_mem (mem_of_mem_latest hmem)

theorem nodup_names_latest (fields : Fields α) : (names (latest fields)).Nodup := by
  induction fields with
  | nil => exact List.nodup_nil
  | cons field fields ih =>
    obtain ⟨name, value⟩ := field
    rw [latest, names, List.map_cons, List.nodup_cons]
    constructor
    · intro hmem
      obtain ⟨other, hother, heq⟩ := List.mem_map.mp hmem
      simpa [heq] using (List.mem_filter.mp hother).2
    · exact ih.sublist (List.filter_sublist.map _)

theorem latest_filter_ne (other : Text) :
    latest (fields.filter (·.1 ≠ other)) = (latest fields).filter (·.1 ≠ other) := by
  induction fields with
  | nil => rfl
  | cons field fields ih =>
    obtain ⟨key, value⟩ := field
    by_cases hk : key = other
    · subst hk
      rw [List.filter_cons_of_neg (by simp), ih, latest, List.filter_cons_of_neg (by simp),
        List.filter_filter]
      simp
    · have hget : get? key (fields.filter (·.1 ≠ other)).reverse = get? key fields.reverse := by
        rw [← List.filter_reverse, get?_filter_ne hk]
      rw [List.filter_cons_of_pos (by simpa using hk), latest, latest, hget, ih,
        List.filter_cons_of_pos (by simpa using hk), List.filter_filter, List.filter_filter]
      simp only [Bool.and_comm]

/-- Fields put into a dictionary change the value of its first name and then go past it. -/
theorem foldl_put_cons (value : α) (d : Fields α) :
    fields.foldl (fun d field => put field.1 field.2 d) ((name, value) :: d) =
      (name, (get? name fields.reverse).getD value) ::
        (fields.filter (·.1 ≠ name)).foldl (fun d field => put field.1 field.2 d) d := by
  induction fields generalizing value d with
  | nil => rfl
  | cons field fields ih =>
    obtain ⟨key, new⟩ := field
    rw [List.foldl_cons, List.reverse_cons, get?_append]
    by_cases hk : key = name
    · subst hk
      rw [put, if_pos rfl, ih, List.filter_cons_of_neg (by simp)]
      cases get? key fields.reverse <;> simp [get?]
    · rw [put, if_neg (Ne.symm hk), ih, List.filter_cons_of_pos (by simpa using hk)]
      cases get? name fields.reverse <;> simp [get?, hk]

theorem dictionary_cons (value : α) (fields : Fields α) :
    dictionary ((name, value) :: fields) =
      (name, (get? name fields.reverse).getD value) :: dictionary (fields.filter (·.1 ≠ name)) :=
  foldl_put_cons value []

/-- The dictionary that is built field by field has each name once, at its first position and with its
last value. -/
theorem dictionary_eq_latest (fields : Fields α) : dictionary fields = latest fields := by
  generalize hn : fields.length = n
  induction n using Nat.strongRecOn generalizing fields with
  | ind n ih =>
    cases fields with
    | nil => rfl
    | cons field fields =>
      obtain ⟨name, value⟩ := field
      have hlt : (fields.filter (·.1 ≠ name)).length < n := by
        have := List.length_filter_le (·.1 ≠ name) fields
        rw [List.length_cons] at hn
        omega
      rw [dictionary_cons, ih _ hlt _ rfl, latest_filter_ne, latest]

theorem get?_eq_none (h : name ∉ fields.names) : get? name fields = none := by
  induction fields with
  | nil => rfl
  | cons field fields ih =>
    obtain ⟨key, value⟩ := field
    rw [names, List.map_cons, List.mem_cons, not_or] at h
    rw [get?, if_neg (Ne.symm h.1), ih h.2]

theorem filter_eq_nil (h : get? name fields = none) : fields.filter (·.1 = name) = [] := by
  induction fields with
  | nil => rfl
  | cons field fields ih =>
    obtain ⟨key, value⟩ := field
    rw [get?] at h
    split at h
    next => cases h
    next hk => rw [List.filter_cons_of_neg (by simpa using hk), ih h]

theorem exists_get? (h : name ∈ fields.names) : ∃ value, get? name fields = some value := by
  cases hget : get? name fields with
  | some value => exact ⟨value, rfl⟩
  | none =>
    obtain ⟨field, hfield, rfl⟩ := List.mem_map.mp h
    have hother := List.filter_eq_nil_iff.mp (filter_eq_nil hget) field hfield
    exact absurd (decide_eq_true rfl) hother

theorem filter_eq_singleton {value : α} (hn : fields.names.Nodup) (h : get? name fields = some value) :
    fields.filter (·.1 = name) = [(name, value)] := by
  induction fields with
  | nil => cases h
  | cons field fields ih =>
    obtain ⟨key, first⟩ := field
    obtain ⟨hkey, hrest⟩ := List.nodup_cons.mp hn
    rw [get?] at h
    split at h
    next hk =>
      subst hk
      cases h
      rw [List.filter_cons_of_pos (by simp), filter_eq_nil (get?_eq_none hkey)]
    next hk => rw [List.filter_cons_of_neg (by simpa using hk), ih hrest h]

/-- Fields without a repeated name are their own dictionary. -/
theorem latest_eq_self (h : fields.names.Nodup) : latest fields = fields := by
  induction fields with
  | nil => rfl
  | cons field fields ih =>
    obtain ⟨name, value⟩ := field
    obtain ⟨hname, hrest⟩ := List.nodup_cons.mp h
    have hreverse : name ∉ names fields.reverse := by simpa [names] using hname
    have hother : ∀ field ∈ fields, field.1 ≠ name := by
      rintro field hmem rfl
      exact hname (List.mem_map.mpr ⟨field, hmem, rfl⟩)
    rw [latest, ih hrest, get?_eq_none hreverse, Option.getD_none,
      List.filter_eq_self.mpr (by simpa using hother)]

end Fields

end ScriptTree
