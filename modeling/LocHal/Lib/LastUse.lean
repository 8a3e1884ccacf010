import Mathlib.Tactic.Common

/-!
# `LocHal.Lib.LastUse`: what a history says at an entry

`LastUse P used e log` is about every place of the history `log` at which `e` stands: `P` holds of
the entries before, and no entry after it is marked by `used`. For the deletion of an object, `used`
marks the entries that use the object, and `P` says what the deletion waits for.

* `LastUse.concat`: one more entry keeps it.
* `LastUse.of_append` and `not_lastUse_concat`: a use after `e` breaks it for good.
* `LastUse.count_eq_one`: when `used` marks `e` itself, `e` stands once at most.

A history only grows, so `LastUse` is proved step by step. An entry that is no use of `e` is added
by `LastUse.concat`, and so is `e` itself if it is not there yet and `P` holds of the history so
far. Several of them are added by `LastUse.append`.
-/

set_option autoImplicit false

variable {α : Type*}

/-- What the history says at each `e` it contains. -/
def LastUse (P : List α → Prop) (used : α → Bool) (e : α) (log : List α) : Prop :=
  ∀ before after, log = before ++ e :: after → P before ∧ ∀ e' ∈ after, used e' = false

variable {P : List α → Prop} {used : α → Bool} {e e' : α} {log log' : List α}

theorem lastUse_nil : LastUse P used e [] := by
  intro before after heq
  simp at heq

namespace LastUse

/-- One more entry: it is no use of `e`, or `e` does not stand in the history and `P` holds. -/
theorem concat (h : LastUse P used e log) (hold : e ∈ log → used e' = false ∧ e' ≠ e)
    (hnew : e' = e → P log) : LastUse P used e (log ++ [e']) := by
  intro before after heq
  rcases List.eq_nil_or_concat after with rfl | ⟨after', e'', rfl⟩
  · obtain ⟨rfl, he⟩ := List.append_inj' heq rfl
    exact ⟨hnew (List.singleton_inj.mp he), by simp⟩
  · rw [List.concat_eq_append, ← List.cons_append, ← List.append_assoc] at heq
    obtain ⟨hlog, he⟩ := List.append_inj' heq rfl
    obtain rfl := List.singleton_inj.mp he
    obtain ⟨hbefore, hafter⟩ := h before after' hlog
    refine ⟨hbefore, fun e'' he'' => ?_⟩
    rw [List.concat_eq_append, List.mem_append, List.mem_singleton] at he''
    rcases he'' with he'' | rfl
    · exact hafter e'' he''
    · exact (hold (by rw [hlog]; simp)).1

/-- More entries that are no uses of `e`. -/
theorem append (h : LastUse P used e log) (hold : ∀ e' ∈ log', used e' = false ∧ e' ≠ e) :
    LastUse P used e (log ++ log') := by
  induction log' generalizing log with
  | nil => rwa [List.append_nil]
  | cons e' log' ih =>
      obtain ⟨hunused, hne⟩ := hold e' List.mem_cons_self
      rw [List.append_cons]
      exact ih (h.concat (fun _ => ⟨hunused, hne⟩) fun heq => absurd heq hne)
        fun e'' he'' => hold e'' (List.mem_cons_of_mem _ he'')

/-- The history so far. -/
theorem of_append (h : LastUse P used e (log ++ log')) : LastUse P used e log := by
  intro before after heq
  obtain ⟨hbefore, hafter⟩ := h before (after ++ log') (by rw [heq, List.append_assoc]; rfl)
  exact ⟨hbefore, fun e' he' => hafter e' (List.mem_append_left _ he')⟩

/-- What uses itself last stands once. -/
theorem count_eq_one [DecidableEq α] (h : LastUse P used e log) (hused : used e = true)
    (hmem : e ∈ log) : log.count e = 1 := by
  obtain ⟨before, after, rfl, hbefore⟩ := List.eq_append_cons_of_mem hmem
  have hafter : e ∉ after := fun hin => by
    rw [(h before after rfl).2 e hin] at hused
    cases hused
  rw [List.count_append, List.count_cons_self, List.count_eq_zero.mpr hbefore,
    List.count_eq_zero.mpr hafter]

end LastUse

/-- A use after `e`. -/
theorem not_lastUse_concat (hmem : e ∈ log) (hused : used e' = true) :
    ¬ LastUse P used e (log ++ [e']) := by
  intro h
  obtain ⟨before, after, rfl, -⟩ := List.eq_append_cons_of_mem hmem
  have hnot := (h before (after ++ [e']) (by simp)).2 e' (by simp)
  rw [hused] at hnot
  cases hnot
