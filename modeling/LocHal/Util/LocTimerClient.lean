import LocHal.Util.LocTimerInvariant

/-!
# `LocHal.Util.LocTimerClient`: one timer, seen by its client

A client of the timer service sees whether its timer is running and whether `timeOutCallback` is
being called. `pending_step` says that a step which is no call of the client itself loses neither:
a running timer keeps running until the `MsgTask` has stopped it and calls back, and a callback
lasts until it has been made.

`running_start` is the other half: a start makes a timer run, whether it was running before or not.
With both, a client that has started its timer knows that the timer is running or calls back as long
as it does not stop the timer itself, and can rest its own invariants on that.

The lemmas on the frame (`stop_frame`, `start_frame`) say that the calls of one client do nothing to
the timers of the others.
-/

set_option autoImplicit false

namespace LocHal.Util

namespace LocTimerService

/-- The timer is running. -/
def Running (s : LocTimerService) (timer : TimerId) : Prop := s.mTimer timer ≠ none

/-- `timeOutCallback` of the timer is about to be called or in progress. -/
def InCallback (s : LocTimerService) (timer : TimerId) : Prop :=
  match s.msg with
  | .callback _ client => client = timer
  | _ => False

instance (s : LocTimerService) (timer : TimerId) : Decidable (s.Running timer) :=
  inferInstanceAs (Decidable (_ ≠ _))

instance (s : LocTimerService) (timer : TimerId) : Decidable (s.InCallback timer) :=
  decidable_of_iff
    ((match s.msg with
      | .callback _ client => decide (client = timer)
      | _ => false) = true) <| by
    unfold InCallback
    cases s.msg with
    | callback timerOfNow client => exact decide_eq_true_iff
    | _ => simp

variable {s t : LocTimerService} {timer : TimerId}

/-- After a start the timer is running, whether it was running before or not. -/
theorem running_start (s : LocTimerService) (timer : TimerId) (timeOutInMs : UInt32) :
    (s.start timer timeOutInMs).1.Running timer := by
  unfold start Running
  cases htimer : s.mTimer timer with
  | some d =>
      show s.mTimer timer ≠ none
      rw [htimer]
      exact Option.some_ne_none d
  | none =>
      show Function.update s.mTimer timer _ timer ≠ none
      rw [Function.update_self]
      exact Option.some_ne_none _

/-- A stop does not touch the program counter of the `MsgTask` and the other timers. -/
theorem stop_frame (s : LocTimerService) (other : TimerId) :
    (s.stop other).1.msg = s.msg ∧
      ∀ timer, timer ≠ other → (s.stop other).1.mTimer timer = s.mTimer timer := by
  cases hother : s.mTimer other with
  | none =>
      rw [stop_of_not_running hother]
      exact ⟨rfl, fun _ _ => rfl⟩
  | some d =>
      obtain ⟨queue, -, -, h⟩ := stop_eq hother
      rw [h]
      exact ⟨rfl, fun timer hne => Function.update_of_ne hne _ _⟩

/-- Nor does a start. -/
theorem start_frame (s : LocTimerService) (other : TimerId) (timeOutInMs : UInt32) :
    (s.start other timeOutInMs).1.msg = s.msg ∧
      ∀ timer, timer ≠ other → (s.start other timeOutInMs).1.mTimer timer = s.mTimer timer := by
  unfold start
  split
  · exact ⟨rfl, fun _ _ => rfl⟩
  · exact ⟨rfl, fun timer hne => Function.update_of_ne hne _ _⟩

/-- A round of the expire loop stops no timer. -/
theorem mTimer_nextExpire (s : LocTimerService) (timerOfNow : Timespec) :
    (s.nextExpire timerOfNow).mTimer = s.mTimer := by
  rcases nextExpire_cases s timerOfNow with h | ⟨popped, tree, -, -, -, h⟩
  · obtain ⟨armed, polled, hfinish⟩ := finishExpire_eq s
    rw [h, hfinish]
  · rw [h]

theorem mTimer_procExpire (s : LocTimerService) : s.procExpire.mTimer = s.mTimer := by
  rcases procExpire_cases s with h | ⟨popped, tree, -, -, h⟩
  · obtain ⟨armed, polled, hfinish⟩ := finishExpire_eq s
    rw [h, hfinish]
  · rw [h]

/-- The `MsgTask` stops a timer only to call it back. -/
theorem pending_msgTask (ht : s.msgTask = some t) (hpending : s.Running timer) :
    t.Running timer ∨ t.InCallback timer := by
  have hsame : t.mTimer = s.mTimer → t.Running timer ∨ t.InCallback timer := fun h => by
    unfold Running
    rw [h]
    exact Or.inl hpending
  unfold msgTask at ht
  split at ht
  · -- a message is taken from the queue
    split at ht
    · cases ht
    · rename_i d queue _
      cases ht
      obtain ⟨armed, polled, h⟩ := procPush_eq { s with queue := queue } d
      exact hsame (by rw [h])
    · rename_i d queue _
      cases ht
      obtain ⟨tree, armed, polled, -, h⟩ := procRemove_eq { s with queue := queue } d
      exact hsame (by rw [h])
    · cases ht
      exact hsame (mTimer_procExpire _)
  · -- the client of the popped delegate is read
    split at ht
    · cases ht
      exact hsame (mTimer_nextExpire _ _)
    · cases ht
      exact hsame rfl
  · rename_i now client _
    split at ht
    · rename_i s' hs'
      cases ht
      -- the timer is stopped before its callback
      by_cases hclient : timer = client
      · exact Or.inr hclient.symm
      · have hframe := (stop_frame s client).2 timer hclient
        rw [hs'] at hframe
        left
        show s'.mTimer timer ≠ none
        rw [hframe]
        exact hpending
    · rename_i s' hs'
      cases ht
      refine hsame ((mTimer_nextExpire s' now).trans ?_)
      -- the timer was stopped already, so nothing changes
      cases hrunning : s.mTimer client with
      | none =>
          rw [stop_of_not_running hrunning] at hs'
          cases hs'
          rfl
      | some d =>
          obtain ⟨queue, -, -, h⟩ := stop_eq hrunning
          rw [h] at hs'
          cases hs'
  · cases ht
    exact hsame (mTimer_nextExpire _ _)

/-- A step that is no call of the client keeps the timer running or its callback in progress, or it
makes the callback. -/
theorem pending_step {action : Action} (ht : s.step action = some t)
    (hstart : ∀ ms, action ≠ .start timer ms) (hstop : action ≠ .stop timer)
    (hpending : s.Running timer ∨ s.InCallback timer) :
    t.Running timer ∨ t.InCallback timer ∨ (action = .msgTask ∧ s.InCallback timer) := by
  have hsame : t.msg = s.msg → t.mTimer timer = s.mTimer timer →
      t.Running timer ∨ t.InCallback timer ∨ (action = .msgTask ∧ s.InCallback timer) := by
    intro hmsg htimer
    unfold Running InCallback
    rw [hmsg, htimer]
    exact hpending.imp_right Or.inl
  cases action with
  | tick now =>
      unfold step at ht
      dsimp only at ht
      split at ht
      · cases ht
        exact hsame rfl rfl
      · cases ht
  | start other ms =>
      cases ht
      have hne : timer ≠ other := fun h => hstart ms (by rw [h])
      exact hsame (start_frame s other ms).1 ((start_frame s other ms).2 timer hne)
  | stop other =>
      cases ht
      have hne : timer ≠ other := fun h => hstop (by rw [h])
      exact hsame (stop_frame s other).1 ((stop_frame s other).2 timer hne)
  | pollTask =>
      obtain ⟨armed, polled, poll, queue, -, rfl⟩ := pollTask_eq ht
      exact hsame rfl rfl
  | msgTask =>
      rcases hpending with hrunning | hcallback
      · exact (pending_msgTask ht hrunning).imp_right Or.inl
      · exact Or.inr (Or.inr ⟨rfl, hcallback⟩)

end LocTimerService

end LocHal.Util
