import Intake.Proofs.Session.Tasks
import Mathlib.Data.List.Nodup

/-!
# The table of tasks

Wherever a run gets, the tasks in the table have numbers of their own (`Tabled.run`), so that a task
stands in one place of it, and with a step the place is left to what the fate of the task leaves
(`tasks_meet`).
-/
namespace Intake.Session

/-- Every task has a number of its own, and the numbers have all been given out. -/
structure Tabled (s : Session) : Prop where
  numbered : s.Numbered
  distinct : (s.tasks.map Prod.fst).Nodup

theorem keys_meet (s : Session) (k : TaskId) (f : Fate) :
    ((s.meet k f).tasks.map Prod.fst).Sublist (s.tasks.map Prod.fst) := by
  cases f with
  | stays => exact List.Sublist.refl _
  | becomes u =>
    have same : (s.setTask k u).tasks.map Prod.fst = s.tasks.map Prod.fst := by
      rw [setTask, List.map_map]
      refine List.map_congr_left fun e _ => ?_
      by_cases own : e.1 = k <;> simp [own]
    rw [meet, same]
  | returns | ends => exact List.filter_sublist.map _

/-- A step of a task leaves the table with what the command has started and lets the task meet its
fate there. -/
theorem outline_eq_meet (s : Session) (k : TaskId) (t : Task) :
    ∃ u : Session, s.outline k t = u.meet k (s.fate k (s.sendIfAny (s.taskCommand? t)).2 t) ∧
      u.tasks = s.tasks ++ (s.bornOf? (s.taskCommand? t)).toList.map fun v => (s.nextTask, v) := by
  refine ⟨_, by rw [outline, enrol_answer], ?_⟩
  rw [(move_tasks ..).1, (alterIfAny_tasks ..).1, (sendIfAny_spawns ..).1, bornOf?_enrol,
    (s.enrol_tasks t).1, (s.enrol_tasks t).2]

/-- The numbers in the table after an event were there before, but for that of a task that starts. -/
theorem keys_apply (s : Session) (e : Event) :
    ((s.apply e).tasks.map Prod.fst).Sublist
      (s.tasks.map Prod.fst ++ (s.born? e).toList.map fun _ => s.nextTask) := by
  have sent (c : Option Command) : ((s.sendIfAny c).1.tasks.map Prod.fst).Sublist
      (s.tasks.map Prod.fst ++ (s.bornOf? c).toList.map fun _ => s.nextTask) := by
    rw [(s.sendIfAny_spawns c).1, List.map_append, List.map_map]
    exact List.Sublist.refl _
  cases e with
  | step k =>
    rw [apply_step, born?_step]
    cases s.acting? (.step k) with
    | none => exact List.sublist_append_left ..
    | some a =>
      obtain ⟨u, met, tasks⟩ := s.outline_eq_meet a.1 a.2
      have sub := keys_meet u a.1 (s.fate a.1 (s.sendIfAny (s.taskCommand? a.2)).2 a.2)
      rw [tasks, List.map_append, List.map_map] at sub
      simp only [met]
      exact sub
  | command c => exact sent (some c)
  | cancelBrowser h =>
    rw [apply, cancelBrowser_eq]
    exact sent _
  | call c =>
    have spawned : (s.apply (.call c)).tasks = s.tasks ++ [(s.nextTask, .start c)] := rfl
    rw [spawned, List.map_append]
    exact List.Sublist.refl _
  | drop k =>
    simp only [apply, giveUp]
    split
    · exact (List.filter_sublist.map _).trans (List.sublist_append_left ..)
    · exact List.sublist_append_left ..
  | takeCollected h =>
    rw [apply, takeCollected_eq]
    exact List.sublist_append_left ..
  | addReceiver queue tag converter selector config =>
    simp only [apply, addReceiver]
    split <;> exact List.sublist_append_left ..
  | _ => exact List.sublist_append_left ..

theorem Numbered.not_mem_keys {s : Session} (numbered : s.Numbered) :
    s.nextTask ∉ s.tasks.map Prod.fst := by
  intro member
  obtain ⟨⟨k, t⟩, there, same⟩ := List.mem_map.mp member
  cases same
  have listed : (s.tasks.lookup s.nextTask).isSome := by
    rw [List.lookup_isSome_iff]
    exact ⟨_, there, beq_self_eq_true _⟩
  obtain ⟨u, found⟩ := Option.isSome_iff_exists.mp listed
  exact Nat.lt_irrefl _ (numbered _ u found)

/-- The next number is not in the table, so a task may start under it. -/
theorem Tabled.nodup_start {s : Session} (tabled : s.Tabled) (born : Option Task) :
    (s.tasks.map Prod.fst ++ born.toList.map fun _ => s.nextTask).Nodup := by
  refine List.nodup_append.mpr ⟨tabled.distinct, ?_, ?_⟩
  · cases born <;> simp
  · intro a old b new same
    subst same
    obtain ⟨_, -, rfl⟩ := List.mem_map.mp new
    exact tabled.numbered.not_mem_keys old

theorem Tabled.apply {s : Session} (tabled : s.Tabled) (e : Event) : (s.apply e).Tabled where
  numbered := tabled.numbered.apply e
  distinct := (tabled.nodup_start (s.born? e)).sublist (s.keys_apply e)

theorem Tabled.run {s : Session} (tabled : s.Tabled) (es : List Event) : (s.run es).Tabled := by
  induction es generalizing s with
  | nil => exact tabled
  | cons e es ih => exact ih (tabled.apply e)

theorem tabled_initial (confirms : Bool) : (initial confirms).Tabled where
  numbered := fun _ _ there => by cases there
  distinct := List.nodup_nil

/-- Around the place of a task stand other numbers. -/
theorem ne_of_distinct {k : TaskId} {t : Task} {before after : List (TaskId × Task)}
    (distinct : ((before ++ (k, t) :: after).map Prod.fst).Nodup) :
    ∀ e ∈ before ++ after, e.1 ≠ k := by
  rw [List.map_append, List.map_cons, List.nodup_middle, List.nodup_cons,
    ← List.map_append] at distinct
  intro e member same
  exact distinct.1 (List.mem_map.mpr ⟨e, member, same⟩)

theorem mem_tasks {s : Session} {k : TaskId} {t : Task} (there : s.task? k = some t) :
    (k, t) ∈ s.tasks := by
  obtain ⟨before, after, split, -⟩ := List.lookup_eq_some_iff.mp there
  rw [split]
  exact List.mem_append_right _ List.mem_cons_self

/-- What stands in the table under a number is the task of this number. -/
theorem Tabled.task?_of_mem {s : Session} (tabled : s.Tabled) {k : TaskId} {t : Task}
    (listed : (k, t) ∈ s.tasks) : s.task? k = some t := by
  obtain ⟨before, after, split⟩ := List.append_of_mem listed
  refine List.lookup_eq_some_iff.mpr ⟨before, after, split, fun e member => bne_iff_ne.mpr ?_⟩
  exact (ne_of_distinct (split ▸ tabled.distinct) e (List.mem_append_left _ member)).symm

/-- A task that is in the table stands in one place of it, and what its fate leaves of it comes to
stand there. -/
theorem tasks_meet {s : Session} (distinct : (s.tasks.map Prod.fst).Nodup) {k : TaskId} {t : Task}
    (there : s.task? k = some t) (f : Fate) :
    ∃ before after, s.tasks = before ++ (k, t) :: after ∧
      (s.meet k f).tasks = before ++ (f.task? t).toList.map (fun u => (k, u)) ++ after := by
  obtain ⟨before, after, split, -⟩ := List.lookup_eq_some_iff.mp there
  refine ⟨before, after, split, ?_⟩
  obtain ⟨ahead, behind⟩ := List.forall_mem_append.mp (ne_of_distinct (split ▸ distinct))
  have retired : (s.retire k).tasks = before ++ after := by
    rw [retire, split, List.filter_append, List.filter_cons_of_neg (by simp),
      List.filter_eq_self.mpr fun e member => by simpa using ahead e member,
      List.filter_eq_self.mpr fun e member => by simpa using behind e member]
  cases f with
  | stays => simpa [meet, Fate.task?] using split
  | becomes u =>
    have same (es : List (TaskId × Task)) (other : ∀ e ∈ es, e.1 ≠ k) :
        es.map (fun e => if e.1 = k then (k, u) else e) = es := by
      rw [List.map_congr_left fun e member => if_neg (other e member), List.map_id']
    simp [meet, setTask, split, same before ahead, same after behind, Fate.task?]
  | returns | ends => simpa [meet, finish, Fate.task?] using retired

end Intake.Session
