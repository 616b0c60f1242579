import Intake.Proofs.Browser.Latch

/-!
# Calls of a run

A call is made at one event of a run, and the task that carries it out has the number that was next
then. Numbers are given out once, so that a number tells the call (`made_unique`), and a task that has
yet to begin carries out the call that was made with its number (`made_of_start`).
-/
namespace Intake.Session

/-- A call was made in a run and is carried out by the task of a number. -/
def Made (confirms : Bool) (es : List Event) (k : TaskId) (c : Call) : Prop :=
  ∃ before after, es = before ++ .call c :: after ∧ ((initial confirms).run before).nextTask = k

theorem nextTask_le_run (s : Session) (es : List Event) : s.nextTask ≤ (s.run es).nextTask := by
  induction es generalizing s with
  | nil => exact Nat.le_refl _
  | cons e es ih =>
    refine Nat.le_trans ?_ (ih (s.apply e))
    rw [nextTask_apply]
    exact Nat.le_add_right _ _

/-- The number of a call is given out with it. -/
theorem nextTask_lt_run (s : Session) (c : Call) (es : List Event) :
    s.nextTask < (s.run (.call c :: es)).nextTask := by
  have given : (s.apply (.call c)).nextTask = s.nextTask + 1 := rfl
  have later := (s.apply (.call c)).nextTask_le_run es
  rw [given] at later
  exact later

section Made

variable {confirms : Bool} {es : List Event} {e : Event} {k : TaskId} {c : Call}

theorem made_concat_iff : Made confirms (es ++ [e]) k c ↔
    Made confirms es k c ∨ e = .call c ∧ ((initial confirms).run es).nextTask = k := by
  constructor
  · rintro ⟨before, after, split, number⟩
    rcases List.eq_nil_or_concat after with rfl | ⟨after, e', rfl⟩
    · obtain ⟨rfl, same⟩ := List.append_inj' split rfl
      exact .inr ⟨List.singleton_inj.mp same, number⟩
    · rw [List.concat_eq_append, ← List.cons_append, ← List.append_assoc] at split
      obtain ⟨rfl, -⟩ := List.append_inj' split rfl
      exact .inl ⟨before, after, rfl, number⟩
  · rintro (⟨before, after, rfl, number⟩ | ⟨rfl, number⟩)
    · exact ⟨before, after ++ [e], by simp, number⟩
    · exact ⟨es, [], rfl, number⟩

theorem Made.append (made : Made confirms es k c) (fs : List Event) :
    Made confirms (es ++ fs) k c := by
  obtain ⟨before, after, rfl, number⟩ := made
  exact ⟨before, after ++ fs, by simp, number⟩

theorem Made.lt (made : Made confirms es k c) : k < ((initial confirms).run es).nextTask := by
  obtain ⟨before, after, rfl, rfl⟩ := made
  rw [run_append]
  exact nextTask_lt_run _ c after

/-- A number tells the call. -/
theorem made_unique {c' : Call} (one : Made confirms es k c) (two : Made confirms es k c') :
    c = c' := by
  induction es using List.reverseRecOn with
  | nil =>
    obtain ⟨before, after, split, -⟩ := one
    exact absurd split (by simp)
  | append_singleton es e ih =>
    -- The number of a call made before the last event is not the next one there.
    rcases made_concat_iff.mp one with one | ⟨rfl, number⟩
    · rcases made_concat_iff.mp two with two | ⟨-, number'⟩
      · exact ih one two
      · exact absurd one.lt (number' ▸ Nat.lt_irrefl _)
    · rcases made_concat_iff.mp two with two | ⟨same, -⟩
      · exact absurd two.lt (number ▸ Nat.lt_irrefl _)
      · exact Event.call.inj same

/-- A task that has yet to begin carries out the call that was made with its number. -/
theorem made_of_start (starts : ((initial confirms).run es).task? k = some (.start c)) :
    Made confirms es k c := by
  induction es using List.reverseRecOn with
  | nil => cases starts
  | append_singleton es e ih =>
    rw [run_concat, task?_apply (orderly_run confirms es).numbered, Option.or_eq_some_iff] at starts
    rcases starts with old | ⟨-, new⟩
    · rcases survivor?_cases old with ⟨t, -, left⟩ | there
      · cases (left_of_fate left).1
      · exact (ih there).append [e]
    · split at new
      · next number =>
        rcases born?_cases new with ⟨c', rfl, same⟩ | ⟨queue, tag, h, -, no⟩ | ⟨tag, r, -, -, no⟩
        · cases same
          exact made_concat_iff.mpr (.inr ⟨rfl, number.symm⟩)
        · cases no
        · cases no
      · cases new

end Made
end Intake.Session
