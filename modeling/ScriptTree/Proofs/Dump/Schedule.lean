import Mathlib.Data.List.Nodup
import Mathlib.Data.List.Perm.Basic
import ScriptTree.Dump.Schedule

namespace ScriptTree

namespace DumpRun

variable {parser : SourceParser} {fs : FileSystem} {paths : List Text} {run next : DumpRun}

/-- How far the task of a path is when so many tasks have begun, the files of `arrived` are waiting
for their tasks, and the tasks `resumed` have gone on. -/
def taskAt (parser : SourceParser) (fs : FileSystem) (begun : Nat)
    (arrived resumed : List Nat) (task : Nat) (path : Text) : DumpTask :=
  if begun ≤ task then .created path
  else if task ∈ arrived then .supplied path (fs.sourceAt path)
  else if task ∈ resumed then .finished (fs.dump parser path)
  else .waiting path

/-- A run in which so many tasks have begun, the tasks `arrived` are in the queue with their files, and
the tasks `resumed` have gone on. -/
structure IsStage (parser : SourceParser) (fs : FileSystem) (paths : List Text) (begun : Nat)
    (arrived resumed : List Nat) (run : DumpRun) : Prop where
  begun_le : begun ≤ paths.length
  nodup : (arrived ++ resumed).Nodup
  lt_begun : ∀ task ∈ arrived ++ resumed, task < begun
  all_begun : resumed ≠ [] → begun = paths.length
  events : run.events = (paths.take begun).map .announced ++ resumed.map .resumed
  queue : run.queue = List.range' begun (paths.length - begun) ++ arrived
  tasks : ∀ task, run.tasks[task]? = (paths[task]?).map (taskAt parser fs begun arrived resumed task)

variable {begun : Nat} {arrived resumed : List Nat}

theorem taskAt_created {task : Nat} (h : begun ≤ task) :
    taskAt parser fs begun arrived resumed task = .created :=
  funext fun _ => if_pos h

theorem isStage_start : IsStage parser fs paths 0 [] [] (start paths) := by
  refine ⟨Nat.zero_le _, by simp, by simp, by simp, rfl, ?_, ?_⟩
  · simp [start, List.range_eq_range']
  · intro task
    rw [taskAt_created (Nat.zero_le task), start, List.getElem?_map]

theorem IsStage.task_arrived (h : IsStage parser fs paths begun arrived resumed run) {task : Nat}
    (ht : task ∈ arrived) (path : Text) :
    taskAt parser fs begun arrived resumed task path = .supplied path (fs.sourceAt path) := by
  have hlt := h.lt_begun task (List.mem_append_left _ ht)
  rw [taskAt, if_neg (by omega), if_pos ht]

theorem IsStage.task_resumed (h : IsStage parser fs paths begun arrived resumed run) {task : Nat}
    (ht : task ∈ resumed) (path : Text) :
    taskAt parser fs begun arrived resumed task path = .finished (fs.dump parser path) := by
  have hlt := h.lt_begun task (List.mem_append_right _ ht)
  have hnot : task ∉ arrived := fun ha => (List.nodup_append.mp h.nodup).2.2 task ha task ht rfl
  rw [taskAt, if_neg (by omega), if_neg hnot, if_pos ht]

/-- While tasks have not begun, the next turn is the first one of the next of them. -/
theorem IsStage.turn_begin (h : IsStage parser fs paths begun arrived [] run)
    (hb : begun < paths.length) :
    ∃ next, run.turn? parser = some next ∧ IsStage parser fs paths (begun + 1) arrived [] next := by
  have hpath : paths[begun]? = some paths[begun] := List.getElem?_eq_getElem hb
  have htask : run.tasks[begun]? = some (.created paths[begun]) := by
    rw [h.tasks, hpath, Option.map_some, taskAt_created (Nat.le_refl _)]
  have hqueue : run.queue =
      begun :: (List.range' (begun + 1) (paths.length - (begun + 1)) ++ arrived) := by
    rw [h.queue, ← List.cons_append,
      show paths.length - begun = paths.length - (begun + 1) + 1 by omega,
      List.range'_succ]
  refine ⟨_, by rw [turn?, hqueue]; simp only [htask]; rfl, ?_⟩
  refine ⟨hb, h.nodup, fun task ht => Nat.lt_succ_of_lt (h.lt_begun task ht), by simp, ?_, rfl, ?_⟩
  · have htake : paths.take (begun + 1) = paths.take begun ++ [paths[begun]] :=
      (List.take_append_getElem hb).symm
    rw [h.events, htake, List.map_append, List.map_nil, List.append_nil, List.append_nil]
    rfl
  · intro task
    have hnot : begun ∉ arrived := fun ha => absurd (h.lt_begun begun (by simpa using ha)) (by omega)
    by_cases ht : task = begun
    · subst ht
      have hlt : task < run.tasks.length := (List.getElem?_eq_some_iff.mp htask).1
      rw [List.getElem?_set_self hlt, hpath, Option.map_some, taskAt, if_neg (by omega),
        if_neg hnot, if_neg (by simp)]
    · have hle : begun + 1 ≤ task ↔ begun ≤ task := by omega
      have hsame : taskAt parser fs (begun + 1) arrived [] task =
          taskAt parser fs begun arrived [] task := by
        funext path
        simp only [taskAt, hle]
      rw [List.getElem?_set_ne (Ne.symm ht), h.tasks, hsame]

/-- When all tasks have begun, the next turn takes the first task with a file to its outcome. -/
theorem IsStage.turn_resume {task : Nat}
    (h : IsStage parser fs paths paths.length (task :: arrived) resumed run) :
    ∃ next, run.turn? parser = some next ∧
      IsStage parser fs paths paths.length arrived (resumed ++ [task]) next := by
  have hb : task < paths.length := h.lt_begun task (by simp)
  have hpath : paths[task]? = some paths[task] := List.getElem?_eq_getElem hb
  have htask : run.tasks[task]? = some (.supplied paths[task] (fs.sourceAt paths[task])) := by
    rw [h.tasks, hpath, Option.map_some, h.task_arrived List.mem_cons_self]
  have hqueue : run.queue = task :: arrived := by simpa using h.queue
  have hperm : (arrived ++ (resumed ++ [task])).Perm (task :: arrived ++ resumed) := by
    rw [← List.append_assoc]
    exact List.perm_append_singleton task _
  refine ⟨_, by rw [turn?, hqueue]; simp only [htask]; rfl, ?_⟩
  refine ⟨Nat.le_refl _, hperm.nodup_iff.mpr h.nodup,
    fun i hi => h.lt_begun i (hperm.mem_iff.mp hi), by simp, ?_,
    by simp, ?_⟩
  · simp [h.events]
  · intro i
    by_cases hi : i = task
    · subst hi
      have hlt : i < run.tasks.length := (List.getElem?_eq_some_iff.mp htask).1
      have hnot : i ∉ arrived := (List.nodup_cons.mp (List.nodup_append.mp h.nodup).1).1
      rw [List.getElem?_set_self hlt, hpath, Option.map_some, taskAt, if_neg (by omega), if_neg hnot,
        if_pos (by simp)]
      rfl
    · have hsame : taskAt parser fs paths.length arrived (resumed ++ [task]) i
          = taskAt parser fs paths.length (task :: arrived) resumed i := by
        funext path
        simp only [taskAt, List.mem_append, List.mem_cons, hi, List.not_mem_nil, or_false, false_or]
      rw [List.getElem?_set_ne (Ne.symm hi), h.tasks, hsame]

/-- The file of a task that waits for it can arrive at any time. -/
theorem IsStage.arrive (h : IsStage parser fs paths begun arrived resumed run)
    {task : Nat} (hb : task < begun) (ha : task ∉ arrived) (hr : task ∉ resumed) :
    ∃ next, run.arrive? fs task = some next ∧
      IsStage parser fs paths begun (arrived ++ [task]) resumed next := by
  have hlen : task < paths.length := Nat.lt_of_lt_of_le hb h.begun_le
  have hpath : paths[task]? = some paths[task] := List.getElem?_eq_getElem hlen
  have htask : run.tasks[task]? = some (.waiting paths[task]) := by
    rw [h.tasks, hpath, Option.map_some, taskAt, if_neg (by omega), if_neg ha, if_neg hr]
  have hperm : (arrived ++ [task] ++ resumed).Perm (task :: (arrived ++ resumed)) := by
    rw [List.append_assoc]
    exact List.perm_middle
  refine ⟨_, by rw [arrive?, htask], ?_⟩
  refine ⟨h.begun_le, ?_, ?_, h.all_begun, h.events, ?_, ?_⟩
  · exact hperm.nodup_iff.mpr (List.nodup_cons.mpr ⟨by simp [ha, hr], h.nodup⟩)
  · intro i hi
    rcases List.mem_cons.mp (hperm.mem_iff.mp hi) with rfl | hi
    · exact hb
    · exact h.lt_begun i hi
  · rw [h.queue, List.append_assoc]
  · intro i
    by_cases hi : i = task
    · subst hi
      have hlt : i < run.tasks.length := (List.getElem?_eq_some_iff.mp htask).1
      rw [List.getElem?_set_self hlt, hpath, Option.map_some, taskAt, if_neg (by omega),
        if_pos (by simp)]
    · have hsame : taskAt parser fs begun (arrived ++ [task]) resumed i
          = taskAt parser fs begun arrived resumed i := by
        funext path
        simp only [taskAt, List.mem_append, List.mem_singleton, hi, or_false]
      rw [List.getElem?_set_ne (Ne.symm hi), h.tasks, hsame]

theorem IsStage.of_waiting (h : IsStage parser fs paths begun arrived resumed run)
    {task : Nat} {path : Text} (ht : run.tasks[task]? = some (.waiting path)) :
      task < begun ∧ task ∉ arrived ∧ task ∉ resumed := by
  rw [h.tasks] at ht
  obtain ⟨p, -, hp⟩ := Option.map_eq_some_iff.mp ht
  unfold taskAt at hp
  split at hp
  next => cases hp
  next hb =>
    split at hp
    next => cases hp
    next ha =>
      split at hp
      next => cases hp
      next hr => exact ⟨Nat.lt_of_not_le hb, ha, hr⟩

theorem IsStage.of_finished (h : IsStage parser fs paths begun arrived resumed run) {task : Nat}
    {outcome : Except DumpFailure Text} (ht : run.tasks[task]? = some (.finished outcome)) :
    ∃ path, paths[task]? = some path ∧ outcome = fs.dump parser path := by
  rw [h.tasks] at ht
  obtain ⟨path, hpath, hp⟩ := Option.map_eq_some_iff.mp ht
  refine ⟨path, hpath, ?_⟩
  unfold taskAt at hp
  split at hp
  next => cases hp
  next =>
    split at hp
    next => cases hp
    next =>
      split at hp
      next => exact (DumpTask.finished.inj hp).symm
      next => cases hp

/-- What a possible move does: a task begins, a task goes on, or a file arrives. -/
theorem IsStage.move (h : IsStage parser fs paths begun arrived resumed run) {m : DumpMove}
    (hm : run.move? parser fs m = some next) :
    ∃ begun' arrived' resumed', IsStage parser fs paths begun' arrived' resumed' next ∧
      begun' + (arrived' ++ resumed').length + resumed'.length
        = begun + (arrived ++ resumed).length + resumed.length + 1 := by
  cases m with
  | turn =>
    change run.turn? parser = some next at hm
    rcases Nat.lt_or_ge begun paths.length with hb | hb
    · have hnone : resumed = [] := by
        by_contra hr
        have := h.all_begun hr
        omega
      subst hnone
      obtain ⟨other, hother, hstage⟩ := h.turn_begin hb
      cases Option.some.inj (hother.symm.trans hm)
      exact ⟨_, _, _, hstage, by simp; omega⟩
    · have hall : begun = paths.length := Nat.le_antisymm h.begun_le hb
      subst hall
      cases arrived with
      | nil =>
        have hqueue : run.queue = [] := by simpa using h.queue
        rw [turn?, hqueue] at hm
        cases hm
      | cons task arrived =>
        obtain ⟨other, hother, hstage⟩ := h.turn_resume
        cases Option.some.inj (hother.symm.trans hm)
        exact ⟨_, _, _, hstage, by simp; omega⟩
  | arrival task =>
    change run.arrive? fs task = some next at hm
    have hwaiting : ∃ path, run.tasks[task]? = some (.waiting path) := by
      unfold arrive? at hm
      split at hm
      next path ht => exact ⟨path, ht⟩
      next => cases hm
    obtain ⟨path, ht⟩ := hwaiting
    obtain ⟨hb, ha, hr⟩ := h.of_waiting ht
    obtain ⟨other, hother, hstage⟩ := h.arrive hb ha hr
    cases Option.some.inj (hother.symm.trans hm)
    exact ⟨_, _, _, hstage, by simp; omega⟩

/-- Possible moves lead from stage to stage, and every one of them is progress. -/
theorem IsStage.after (h : IsStage parser fs paths begun arrived resumed run) {moves : List DumpMove}
    (hm : run.after? parser fs moves = some next) :
    ∃ begun' arrived' resumed', IsStage parser fs paths begun' arrived' resumed' next ∧
      begun' + (arrived' ++ resumed').length + resumed'.length
        = begun + (arrived ++ resumed).length + resumed.length + moves.length := by
  induction moves generalizing run begun arrived resumed with
  | nil =>
    cases Option.some.inj hm
    exact ⟨_, _, _, h, rfl⟩
  | cons m moves ih =>
    obtain ⟨other, hother, hrest⟩ := Option.bind_eq_some_iff.mp hm
    obtain ⟨b, a, r, hstage, hcount⟩ := h.move hother
    obtain ⟨b', a', r', hlast, hcount'⟩ := ih hstage hrest
    exact ⟨b', a', r', hlast, by rw [hcount', hcount, List.length_cons]; omega⟩

theorem IsStage.length_le (h : IsStage parser fs paths begun arrived resumed run) :
    (arrived ++ resumed).length ≤ begun := by
  have hsub : arrived ++ resumed ⊆ List.range begun := fun i hi => List.mem_range.mpr (h.lt_begun i hi)
  have hle := (List.subperm_of_subset h.nodup hsub).length_le
  rwa [List.length_range] at hle

/-- A run can go on unless all tasks have. -/
theorem IsStage.progress (h : IsStage parser fs paths begun arrived resumed run) :
    (∃ m next, run.move? parser fs m = some next) ∨
      begun = paths.length ∧ arrived = [] ∧ ∀ task < paths.length, task ∈ resumed := by
  rcases Nat.lt_or_ge begun paths.length with hb | hb
  · have hnone : resumed = [] := by
      by_contra hr
      have := h.all_begun hr
      omega
    subst hnone
    obtain ⟨next, hnext, -⟩ := h.turn_begin hb
    exact Or.inl ⟨.turn, next, hnext⟩
  · have hall : begun = paths.length := Nat.le_antisymm h.begun_le hb
    subst hall
    cases arrived with
    | cons task arrived =>
      obtain ⟨next, hnext, -⟩ := h.turn_resume
      exact Or.inl ⟨.turn, next, hnext⟩
    | nil =>
      by_cases hmem : ∀ task < paths.length, task ∈ resumed
      · exact Or.inr ⟨rfl, rfl, hmem⟩
      · push Not at hmem
        obtain ⟨task, hb, hr⟩ := hmem
        obtain ⟨next, hnext, -⟩ := h.arrive hb List.not_mem_nil hr
        exact Or.inl ⟨.arrival task, next, hnext⟩

theorem IsStage.announcements (h : IsStage parser fs paths begun arrived resumed run) :
    run.announcements = paths.take begun := by
  rw [DumpRun.announcements, h.events, List.filterMap_append, List.filterMap_map, List.filterMap_map]
  change (paths.take begun).filterMap some ++ resumed.filterMap (fun _ => none) = paths.take begun
  simp

/-- When all tasks have gone on, the outcomes are those of the sources one by one. -/
theorem IsStage.results (h : IsStage parser fs paths begun arrived resumed run)
    (hall : ∀ task < paths.length, task ∈ resumed) :
      run.results? = some (paths.map (fs.dump parser)) := by
  have htasks : run.tasks = paths.map fun path => .finished (fs.dump parser path) := by
    apply List.ext_getElem?
    intro task
    rw [h.tasks, List.getElem?_map]
    rcases Nat.lt_or_ge task paths.length with hlt | hge
    · rw [List.getElem?_eq_getElem hlt, Option.map_some, Option.map_some,
        h.task_resumed (hall task hlt)]
    · rw [List.getElem?_eq_none hge, Option.map_none, Option.map_none]
  rw [results?, htasks, List.mapM_map]
  exact List.mapM_pure

theorem after?_append (moves more : List DumpMove) (run : DumpRun) :
    run.after? parser fs (moves ++ more) =
      (run.after? parser fs moves).bind (after? parser fs more) := by
  induction moves generalizing run with
  | nil => rfl
  | cons m moves ih =>
    rw [List.cons_append, after?, after?, Option.bind_assoc]
    exact congrArg _ (funext ih)

/-- So many turns let so many tasks begin. -/
theorem IsStage.after_turns (h : IsStage parser fs paths begun arrived [] run) (count : Nat)
    (hb : begun + count ≤ paths.length) :
    ∃ next, run.after? parser fs (List.replicate count .turn) = some next ∧
      IsStage parser fs paths (begun + count) arrived [] next := by
  induction count generalizing run begun with
  | zero => exact ⟨run, rfl, h⟩
  | succ count ih =>
    obtain ⟨other, hother, hstage⟩ := h.turn_begin (by omega)
    obtain ⟨next, hnext, hlast⟩ := ih hstage (by omega)
    refine ⟨next, ?_, by rwa [show begun + (count + 1) = begun + 1 + count by omega]⟩
    rw [List.replicate_succ, after?, move?, hother]
    exact hnext

/-- When all tasks have begun, their files can arrive in any order. -/
theorem IsStage.after_arrivals (h : IsStage parser fs paths paths.length [] resumed run)
    {order : List Nat}
    (hnodup : (resumed ++ order).Nodup) (hlt : ∀ task ∈ order, task < paths.length) :
    ∃ next, run.after? parser fs (order.flatMap fun task => [.arrival task, .turn]) = some next ∧
      IsStage parser fs paths paths.length [] (resumed ++ order) next := by
  induction order generalizing run resumed with
  | nil => exact ⟨run, rfl, by rwa [List.append_nil]⟩
  | cons task order ih =>
    have hr : task ∉ resumed :=
      fun hm => (List.nodup_append.mp hnodup).2.2 task hm task List.mem_cons_self rfl
    obtain ⟨first, hfirst, hsupplied⟩ := h.arrive (hlt task List.mem_cons_self) List.not_mem_nil hr
    obtain ⟨second, hsecond, hgone⟩ := hsupplied.turn_resume
    obtain ⟨next, hnext, hlast⟩ :=
      ih hgone (by simpa using hnodup) fun i hi => hlt i (List.mem_cons_of_mem task hi)
    refine ⟨next, ?_, by simpa using hlast⟩
    rw [List.flatMap_cons, List.cons_append, List.cons_append, List.nil_append, after?, move?, hfirst,
      Option.bind_some, after?, move?, hsecond]
    exact hnext

/-- In the run in which files arrive in a given order all tasks go on in this order. -/
theorem isStage_inOrder {order : List Nat} (h : order.Perm (List.range paths.length)) :
    IsStage parser fs paths paths.length [] order (inOrder parser fs paths order) := by
  have hstart : IsStage parser fs paths 0 [] [] (start paths) := isStage_start
  obtain ⟨begun, hbegun, hstage⟩ := hstart.after_turns paths.length (by omega)
  rw [Nat.zero_add] at hstage
  have hnodup : ([] ++ order).Nodup := h.nodup_iff.mpr List.nodup_range
  have hlt : ∀ task ∈ order, task < paths.length := fun i hi => List.mem_range.mp (h.mem_iff.mp hi)
  obtain ⟨next, hnext, hlast⟩ := hstage.after_arrivals hnodup hlt
  have hafter : after? parser fs (movesInOrder paths.length order) (start paths) = some next := by
    rw [movesInOrder, after?_append, hbegun]
    exact hnext
  rw [inOrder, hafter]
  exact hlast

theorem results?_inOrder {order : List Nat} (h : order.Perm (List.range paths.length)) :
    (inOrder parser fs paths order).results? = some (paths.map (fs.dump parser)) :=
  (isStage_inOrder h).results fun _ hlt => h.mem_iff.mpr (List.mem_range.mpr hlt)

theorem announcements_inOrder {order : List Nat} (h : order.Perm (List.range paths.length)) :
    (inOrder parser fs paths order).announcements = paths := by
  rw [(isStage_inOrder h).announcements, List.take_length]

/-- Whatever order turns and arrivals come in, a run goes on until every task has finished, no task goes
on with its file before all have announced their paths, and every outcome is that of its source alone.
Files can arrive in every order. -/
theorem results?_eq_of_after? (parser : SourceParser) (fs : FileSystem) (paths : List Text) :
    (∀ moves run, after? parser fs moves (start paths) = some run →
      moves.length ≤ 3 * paths.length ∧
      ((∃ m next, run.move? parser fs m = some next) ∨
        run.results? = some (paths.map (fs.dump parser)) ∧ run.announcements = paths) ∧
      (∀ (task : Nat) (outcome : Except DumpFailure Text), run.tasks[task]? = some (.finished outcome) →
        ∃ path, paths[task]? = some path ∧ outcome = fs.dump parser path) ∧
      ∃ begun resumed, run.events = (paths.take begun).map .announced ++ resumed.map .resumed ∧
        resumed.Nodup ∧ (resumed ≠ [] → begun = paths.length)) ∧
    ∀ order : List Nat, order.Perm (List.range paths.length) →
      (inOrder parser fs paths order).events = paths.map .announced ++ order.map .resumed ∧
      (inOrder parser fs paths order).results? = some (paths.map (fs.dump parser)) := by
  refine ⟨fun moves run hm => ?_, fun order h => ⟨?_, results?_inOrder h⟩⟩
  · obtain ⟨begun, arrived, resumed, h, hcount⟩ := isStage_start.after hm
    refine ⟨?_, ?_, ?_, begun, resumed, h.events, (List.nodup_append.mp h.nodup).2.1, h.all_begun⟩
    · have hle := h.length_le
      have hbegun := h.begun_le
      simp only [List.length_append, List.length_nil] at hcount hle
      omega
    · rcases h.progress with hmove | ⟨rfl, -, hall⟩
      · exact Or.inl hmove
      · exact Or.inr ⟨h.results hall, by rw [h.announcements, List.take_length]⟩
    · intro task outcome ht
      exact h.of_finished ht
  · rw [(isStage_inOrder h).events, List.take_length]

theorem results?_eq_of_after?_twice :
    let fs : FileSystem := ⟨.directory [("a.js", .file [])], []⟩
    let paths : List Text := ["a.js", "b.js", "a.js"]
    (∃ run, after? sourceParser fs [.turn, .turn, .arrival 1] (start paths) = some run ∧
      ∃ m next, run.move? sourceParser fs m = some next) ∧
    (inOrder sourceParser fs paths [2, 0, 1]).results?
      = some [fs.dump sourceParser "a.js", fs.dump sourceParser "b.js",
        fs.dump sourceParser "a.js"] := by
  intro fs paths
  have h := results?_eq_of_after? sourceParser fs paths
  obtain ⟨run, hrun⟩ :
      ∃ run, after? sourceParser fs [.turn, .turn, .arrival 1] (start paths) = some run := ⟨_, rfl⟩
  refine ⟨⟨run, hrun, ?_⟩, (h.2 [2, 0, 1] (by decide)).2⟩
  rcases (h.1 _ run hrun).2.1 with hmove | ⟨hresults, -⟩
  · exact hmove
  · cases hrun
    cases hresults

end DumpRun

end ScriptTree
