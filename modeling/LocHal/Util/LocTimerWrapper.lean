import LocHal.Lib.LabelledRun
import LocHal.Lib.LastUse
import Mathlib.Tactic.Common

/-!
# `LocHal.Util.LocTimerWrapper`: the C timer and the deletion of its wrapper

`loc_timer_start` makes a `LocTimerWrapper`, and hands it out as the handle. Two threads can delete
it: the thread of the timer, after the callback, and the one that calls `loc_timer_stop`. The model
is about one wrapper whose start succeeded. The expiry reads `mClient`, stops the timer, copies
`mCb`, calls the callback and calls `destroy`; `loc_timer_stop` calls `destroy` and returns. Each of
these is one step, and `LocTimer::stop` and `destroy` are atomic, since they hold a lock.

`Sound` is the property: the wrapper is deleted once, nothing uses it afterwards, and the callback
is not started after `loc_timer_stop` has returned. `along_sound_iff` is the exact condition: the
`destroy` of `loc_timer_stop` comes before the expiry reads `mClient`. Later the expiry has a
pointer to the wrapper on its stack, which no lock protects.

The history records the uses of the wrapper, its deletions, the starts of the callback and the
return of `loc_timer_stop`. `loc_timer_stop` is called once at most, before the callback has
returned. A call from within the callback (`inside`) comes back before the callback does.

`Kept` is the invariant of the steps that meet the condition, and it gives the property
(`Kept.sound`). For the other direction, a step against the condition leads to a state that is lost
for good (`Kept.lost`): the wrapper is deleted while the expiry still has a pointer to it. A lost
state stays lost (`Lost.step`), and at the end of the run it cannot be sound.
-/

set_option autoImplicit false

namespace LocHal.Util

open LabelledRun

/-- The next step of the expiry. `readClient` and `stopTimer` are in `LocTimerDelegate::expire`, the
steps from `copyCb` to `destroy` in `LocTimerWrapper::timeOutCallback`. `callCb` carries whether the
copy of `mCb` is not null. -/
inductive ExpiryStep where
  | readClient
  | stopTimer
  | copyCb
  | callCb (cb : Bool)
  | inCallback
  | destroy
  | done
  deriving DecidableEq, Repr

/-- The expiry has a pointer to the wrapper. -/
def ExpiryStep.holds : ExpiryStep → Bool
  | .readClient => false
  | .done => false
  | _ => true

/-- The next step of `loc_timer_stop`. `inside` says that the callback makes the call. -/
inductive StopStep where
  | notMade
  | destroy (inside : Bool)
  | return (inside : Bool)
  | returned
  deriving DecidableEq, Repr

/-- The `destroy` of `loc_timer_stop` is still to come. -/
def StopStep.destroys : StopStep → Bool
  | .destroy _ => true
  | _ => false

/-- The `destroy` of `loc_timer_stop` is over. -/
def StopStep.destroyed : StopStep → Bool
  | .return _ => true
  | .returned => true
  | _ => false

/-- One entry of the history. `use` is a read or a write of the wrapper, or a call of one of its
methods. -/
inductive WrapperEntry where
  | use
  | delete
  | startCallback
  | stopReturned
  deriving DecidableEq, Repr

/-- The entry is a use of the wrapper. -/
def WrapperEntry.usesWrapper : WrapperEntry → Bool
  | .use => true
  | .delete => true
  | _ => false

/-- The entry is the start of the callback. -/
def WrapperEntry.startsCallback : WrapperEntry → Bool
  | .startCallback => true
  | _ => false

/-- The wrapper, `mClient` of its delegate, the next step of each side and the history. The pointers
are Booleans that say that they are not null; `mMe` says that it points to the wrapper. After the
deletion the members keep what the destructors have written. -/
structure LocTimerWrapper where
  mTimer : Bool
  mClient : Bool
  mCb : Bool
  mMe : Bool
  expiry : ExpiryStep
  stop : StopStep
  log : List WrapperEntry
  deriving DecidableEq, Repr

/-- What can happen next. `callStop` is the call of `loc_timer_stop`, and `stop` its next step. -/
inductive WrapperLabel where
  | expiry
  | callStop (inside : Bool)
  | stop
  deriving DecidableEq, Repr

namespace LocTimerWrapper

/-- The timer has been started. -/
def init : LocTimerWrapper where
  mTimer := true
  mClient := true
  mCb := true
  mMe := true
  expiry := .readClient
  stop := .notMade
  log := []

/-- `LocTimer::stop`, with its result. -/
def stopTimer (w : LocTimerWrapper) : LocTimerWrapper × Bool :=
  if w.mTimer then ({ w with mTimer := false, mClient := false }, true) else (w, false)

/-- The destructors: the one of `LocTimer` stops the timer. -/
def delete (w : LocTimerWrapper) : LocTimerWrapper :=
  ({ w with mCb := false, mMe := false }.stopTimer).1

/-- `LocTimerWrapper::destroy`. -/
def destroy (w : LocTimerWrapper) : LocTimerWrapper :=
  if w.mCb ∧ w.mMe then { w.delete with log := w.log ++ [.use, .delete] }
  else { w with log := w.log ++ [.use] }

/-- One step of the expiry. -/
def expire (w : LocTimerWrapper) : Option LocTimerWrapper :=
  match w.expiry with
  | .readClient => some { w with expiry := if w.mClient then .stopTimer else .done }
  | .stopTimer =>
      let (w', success) := w.stopTimer
      some { w' with expiry := if success then .copyCb else .done, log := w.log ++ [.use] }
  | .copyCb => some { w with expiry := .callCb w.mCb, log := w.log ++ [.use] }
  | .callCb cb =>
      if cb then some { w with expiry := .inCallback, log := w.log ++ [.startCallback] }
      else some { w with expiry := .destroy }
  | .inCallback =>
      -- a `loc_timer_stop` from inside returns before the callback does
      if w.stop = .destroy true ∨ w.stop = .return true then none
      else some { w with expiry := .destroy }
  | .destroy => some { w.destroy with expiry := .done }
  | .done => none

/-- The callback has not returned, and a call from inside is made while it runs. -/
def canStop (w : LocTimerWrapper) (inside : Bool) : Bool :=
  match w.expiry with
  | .inCallback => true
  | .destroy => false
  | .done => false
  | _ => !inside

/-- One step. The wrapper is stopped once at most, before the callback has returned. -/
def step (w : LocTimerWrapper) : WrapperLabel → Option LocTimerWrapper
  | .expiry => w.expire
  | .callStop inside =>
      if w.stop = .notMade ∧ w.canStop inside then some { w with stop := .destroy inside } else none
  | .stop =>
      match w.stop with
      | .destroy inside => some { w.destroy with stop := .return inside }
      | .return _ => some { w with stop := .returned, log := w.log ++ [.stopReturned] }
      | _ => none

/-- The expiry is through, and so is `loc_timer_stop` if it was called. -/
def finished (w : LocTimerWrapper) : Prop :=
  w.expiry = .done ∧ (w.stop = .notMade ∨ w.stop = .returned)

instance (w : LocTimerWrapper) : Decidable w.finished := by
  unfold finished
  infer_instance

/-- The wrapper is used while it is alive, and the callback starts while it may. The deletion is
counted at the end, and the order of the history is asked of every state: no use after the deletion,
and no start of the callback after `loc_timer_stop` has returned. -/
structure Sound (w : LocTimerWrapper) : Prop where
  once : w.finished → w.log.count .delete = 1
  alive : LastUse (fun _ => True) WrapperEntry.usesWrapper .delete w.log
  notStarted : LastUse (fun _ => True) WrapperEntry.startsCallback .stopReturned w.log

/-- The condition on one step: `loc_timer_stop` destroys the wrapper before the expiry reads
`mClient`. `destroy` stops the timer and clears `mClient`, so an expiry that comes to it later finds
nothing to call. An expiry that has read `mClient` goes on with a pointer to the wrapper, and a
`destroy` in between deletes it under its hands. -/
def StopsFirst (w : LocTimerWrapper) (i : WrapperLabel) : Prop :=
  i = .stop → w.stop.destroys = true → w.expiry = .readClient

instance (w : LocTimerWrapper) (i : WrapperLabel) : Decidable (w.StopsFirst i) := by
  unfold StopsFirst
  infer_instance

/-! ### The deletion -/

variable {w w' : LocTimerWrapper}

@[simp] theorem expiry_destroy (w : LocTimerWrapper) : w.destroy.expiry = w.expiry := by
  unfold destroy delete stopTimer
  split
  · dsimp only
    split <;> rfl
  · rfl

@[simp] theorem stop_destroy (w : LocTimerWrapper) : w.destroy.stop = w.stop := by
  unfold destroy delete stopTimer
  split
  · dsimp only
    split <;> rfl
  · rfl

/-- A live wrapper is deleted. -/
theorem log_destroy_live (hlive : w.mCb = true ∧ w.mMe = true) :
    w.destroy.log = w.log ++ [.use, .delete] := by
  unfold destroy
  rw [if_pos hlive]

/-- The destructor stops the timer. -/
theorem timer_destroy_live (hlive : w.mCb = true ∧ w.mMe = true) (htimer : w.mTimer = true) :
    w.destroy.mTimer = false ∧ w.destroy.mClient = false := by
  unfold destroy delete stopTimer
  rw [if_pos hlive, if_pos htimer]
  exact ⟨rfl, rfl⟩

/-- `destroy` uses the wrapper. -/
theorem log_destroy (w : LocTimerWrapper) : ∃ log, w.destroy.log = w.log ++ [.use] ++ log := by
  unfold destroy
  split
  · exact ⟨[.delete], by simp⟩
  · exact ⟨[], by simp⟩

/-! ### The steps that meet the condition -/

/-- What the steps that meet the condition keep. While the expiry is on its way and the stop has not
destroyed the wrapper, the members are there and nothing is deleted. An expiry that has a pointer to
the wrapper excludes that the stop has destroyed it. -/
structure Kept (w : LocTimerWrapper) : Prop where
  live : w.expiry ≠ .done → w.stop.destroyed = false →
    (w.mCb = true ∧ w.mMe = true) ∧ .delete ∉ w.log
  armed : w.expiry = .readClient →
    w.mTimer = !w.stop.destroyed ∧ w.mClient = !w.stop.destroyed
  timer : w.expiry = .stopTimer → w.mTimer = true
  copied : ∀ cb, w.expiry = .callCb cb → cb = true
  pending : w.expiry.holds = true → w.stop.destroyed = false
  deleted : w.expiry = .done ∨ w.stop.destroyed = true → w.log.count .delete = 1
  returned : .stopReturned ∈ w.log → w.stop = .returned
  alive : LastUse (fun _ => True) WrapperEntry.usesWrapper .delete w.log
  notStarted : LastUse (fun _ => True) WrapperEntry.startsCallback .stopReturned w.log

theorem kept_init : init.Kept where
  live := fun _ _ => by decide
  armed := fun _ => by decide
  timer := nofun
  copied := nofun
  pending := nofun
  deleted := by decide
  returned := nofun
  alive := lastUse_nil
  notStarted := lastUse_nil

/-- The deletion of a live wrapper. -/
theorem Kept.log_destroy (h : w.Kept) (hlive : (w.mCb = true ∧ w.mMe = true) ∧ .delete ∉ w.log) :
    w.destroy.log.count .delete = 1 ∧
      (.stopReturned ∈ w.destroy.log ↔ .stopReturned ∈ w.log) ∧
      LastUse (fun _ => True) WrapperEntry.usesWrapper .delete w.destroy.log ∧
      LastUse (fun _ => True) WrapperEntry.startsCallback .stopReturned w.destroy.log := by
  obtain ⟨hmembers, hnot⟩ := hlive
  have huse : .delete ∉ w.log ++ [WrapperEntry.use] := by simp [hnot]
  rw [log_destroy_live hmembers, show w.log ++ [WrapperEntry.use, .delete]
    = (w.log ++ [.use]) ++ [.delete] by simp]
  refine ⟨?_, by simp, ?_, ?_⟩
  · rw [List.count_append, List.count_eq_zero.mpr huse]
    rfl
  · exact (h.alive.concat (fun hmem => absurd hmem hnot) fun _ => trivial).concat
      (fun hmem => absurd hmem huse) fun _ => trivial
  · exact (h.notStarted.concat (fun _ => ⟨rfl, by simp⟩) fun _ => trivial).concat
      (fun _ => ⟨rfl, by simp⟩) fun _ => trivial

/-- A use of a live wrapper. -/
theorem Kept.log_use (h : w.Kept) (hnot : .delete ∉ w.log) :
    .delete ∉ w.log ++ [WrapperEntry.use] ∧
      (.stopReturned ∈ w.log ++ [WrapperEntry.use] ↔ .stopReturned ∈ w.log) ∧
      LastUse (fun _ => True) WrapperEntry.usesWrapper .delete (w.log ++ [.use]) ∧
      LastUse (fun _ => True) WrapperEntry.startsCallback .stopReturned (w.log ++ [.use]) :=
  ⟨by simp [hnot], by simp, h.alive.concat (fun hmem => absurd hmem hnot) fun _ => trivial,
    h.notStarted.concat (fun _ => ⟨rfl, by simp⟩) fun _ => trivial⟩

/-- The expiry goes on with its pointer. -/
theorem Kept.goto (h : w.Kept) (hholds : w.expiry.holds = true) {next : ExpiryStep}
    (hnext : next.holds = true) (htimer : next ≠ .stopTimer)
    (hcopied : ∀ cb, next = .callCb cb → cb = true) {mTimer mClient : Bool}
    {log : List WrapperEntry} (hnot : .delete ∉ log)
    (hreturned : .stopReturned ∈ log ↔ .stopReturned ∈ w.log)
    (halive : LastUse (fun _ => True) WrapperEntry.usesWrapper .delete log)
    (hnotStarted : LastUse (fun _ => True) WrapperEntry.startsCallback .stopReturned log) :
    Kept { w with mTimer := mTimer, mClient := mClient, expiry := next, log := log } where
  live := fun _ hd => ⟨(h.live (fun hdone => by rw [hdone] at hholds; cases hholds) hd).1, hnot⟩
  armed := fun hread => by
    rw [show next = .readClient from hread] at hnext
    cases hnext
  timer := fun heq => absurd heq htimer
  copied := hcopied
  pending := fun _ => h.pending hholds
  deleted := fun hd => by
    rcases hd with hdone | hd
    · rw [show next = .done from hdone] at hnext
      cases hnext
    · exact absurd hd (by simp [h.pending hholds])
  returned := fun hmem => h.returned (hreturned.mp hmem)
  alive := halive
  notStarted := hnotStarted

/-- The wrapper that the expiry has a pointer to is alive. -/
theorem Kept.live_of_holds (h : w.Kept) (hholds : w.expiry.holds = true) :
    (w.mCb = true ∧ w.mMe = true) ∧ .delete ∉ w.log :=
  h.live (fun hdone => by rw [hdone] at hholds; cases hholds) (h.pending hholds)

/-- A step of the expiry. -/
theorem Kept.expire (h : w.Kept) (hstep : w.expire = some w') : w'.Kept := by
  unfold LocTimerWrapper.expire at hstep
  cases hexpiry : w.expiry with
  | readClient =>
      rw [hexpiry] at hstep
      cases hstep
      obtain ⟨htimer, hclient⟩ := h.armed hexpiry
      -- the wrapper may be destroyed already when the expiry begins
      cases hdestroyed : w.stop.destroyed with
      | true =>
          rw [hdestroyed] at hclient
          rw [hclient]
          exact ⟨fun hne => absurd rfl hne, nofun, nofun, nofun, nofun,
            fun _ => h.deleted (Or.inr hdestroyed), h.returned, h.alive, h.notStarted⟩
      | false =>
          rw [hdestroyed] at hclient htimer
          rw [hclient]
          exact ⟨fun _ hd => h.live (by simp [hexpiry]) hd, nofun, fun _ => htimer, nofun,
            fun _ => hdestroyed, fun hd => absurd (hd.resolve_left nofun) (by simp [hdestroyed]),
            h.returned, h.alive, h.notStarted⟩
  | stopTimer =>
      have hholds : w.expiry.holds = true := by rw [hexpiry]; rfl
      obtain ⟨hnot, hret, halive, hstarted⟩ := h.log_use (h.live_of_holds hholds).2
      rw [hexpiry] at hstep
      simp only [stopTimer, h.timer hexpiry, if_true] at hstep
      cases hstep
      exact h.goto hholds rfl (by simp) (by simp) hnot hret halive hstarted
  | copyCb =>
      have hholds : w.expiry.holds = true := by rw [hexpiry]; rfl
      obtain ⟨hnot, hret, halive, hstarted⟩ := h.log_use (h.live_of_holds hholds).2
      rw [hexpiry] at hstep
      cases hstep
      refine h.goto hholds rfl (by simp) (fun cb hcb => ?_) hnot hret halive hstarted
      cases hcb
      -- the callback is read while the expiry still holds the wrapper
      exact (h.live_of_holds hholds).1.1
  | callCb cb =>
      have hholds : w.expiry.holds = true := by rw [hexpiry]; rfl
      obtain ⟨-, hnot⟩ := h.live_of_holds hholds
      rw [hexpiry, h.copied cb hexpiry] at hstep
      cases hstep
      -- the callback starts before `loc_timer_stop` has returned
      have hret : .stopReturned ∉ w.log := fun hmem => by
        have hpending := h.pending hholds
        rw [h.returned hmem] at hpending
        cases hpending
      refine h.goto hholds rfl (by simp) (by simp) (by simp [hnot]) (by simp) ?_ ?_
      · exact h.alive.concat (fun hmem => absurd hmem hnot) fun _ => trivial
      · exact h.notStarted.concat (fun hmem => absurd hmem hret) fun _ => trivial
  | inCallback =>
      have hholds : w.expiry.holds = true := by rw [hexpiry]; rfl
      rw [hexpiry] at hstep
      dsimp only at hstep
      split at hstep
      · cases hstep
      · cases hstep
        exact h.goto hholds rfl (by simp) (by simp) (h.live_of_holds hholds).2 Iff.rfl h.alive
          h.notStarted
  | destroy =>
      have hholds : w.expiry.holds = true := by rw [hexpiry]; rfl
      obtain ⟨hcount, hret, halive, hstarted⟩ := h.log_destroy (h.live_of_holds hholds)
      rw [hexpiry] at hstep
      cases hstep
      -- the expiry is the last one to let go of the wrapper
      refine ⟨fun hne => absurd rfl hne, nofun, nofun, nofun, nofun, fun _ => hcount,
        fun hmem => ?_, halive, hstarted⟩
      rw [stop_destroy]
      exact h.returned (hret.mp hmem)
  | done =>
      rw [hexpiry] at hstep
      cases hstep

/-- A step of `loc_timer_stop` that meets the condition. -/
theorem Kept.stop (h : w.Kept) (hok : w.StopsFirst .stop) (hstep : w.step .stop = some w') :
    w'.Kept := by
  simp only [step] at hstep
  cases hstop : w.stop with
  | notMade =>
      rw [hstop] at hstep
      cases hstep
  | destroy inside =>
      rw [hstop] at hstep
      cases hstep
      -- the callback has not started, so the expiry is still live
      have hread : w.expiry = .readClient := hok rfl (by rw [hstop]; rfl)
      have hlive := h.live (by simp [hread]) (by rw [hstop]; rfl)
      obtain ⟨hcount, hret, halive, hstarted⟩ := h.log_destroy hlive
      have htimer : w.mTimer = true := by
        rw [(h.armed hread).1, hstop]
        rfl
      refine ⟨nofun, fun _ => timer_destroy_live hlive.1 htimer, fun heq => ?_, fun cb heq => ?_,
        fun hholds => ?_, fun _ => hcount, fun hmem => ?_, halive, hstarted⟩
      · -- the expiry is at its first step
        simp [hread] at heq
      · simp [hread] at heq
      · simp [hread, ExpiryStep.holds] at hholds
      · have hreturned := h.returned (hret.mp hmem)
        rw [hstop] at hreturned
        cases hreturned
  | «return» inside =>
      rw [hstop] at hstep
      cases hstep
      have hdestroyed : w.stop.destroyed = true := by rw [hstop]; rfl
      -- the log has no return yet, and gets it now
      have hret : .stopReturned ∉ w.log := fun hmem => by
        have hreturned := h.returned hmem
        rw [hstop] at hreturned
        cases hreturned
      refine ⟨nofun, fun hread => ?_, h.timer, h.copied, fun hholds => ?_,
        fun _ => ?_, fun _ => rfl, ?_, ?_⟩
      · have harmed := h.armed hread
        rw [hdestroyed] at harmed
        exact harmed
      · have hpending := h.pending hholds
        rw [hdestroyed] at hpending
        cases hpending
      · rw [List.count_append, h.deleted (Or.inr hdestroyed)]
        rfl
      · exact h.alive.concat (fun _ => ⟨rfl, by simp⟩) (by simp)
      · exact h.notStarted.concat (fun hmem => absurd hmem hret) fun _ => trivial
  | returned =>
      rw [hstop] at hstep
      cases hstep

/-- A call of `loc_timer_stop`. -/
theorem Kept.callStop (h : w.Kept) {inside : Bool} (hstop : w.stop = .notMade) :
    Kept { w with stop := .destroy inside } := by
  have hdestroyed : w.stop.destroyed = false := by rw [hstop]; rfl
  refine ⟨fun hne _ => h.live hne hdestroyed, fun hread => ?_, h.timer, h.copied, fun _ => rfl,
    fun hd => h.deleted (Or.inl (hd.resolve_right nofun)), fun hmem => ?_, h.alive, h.notStarted⟩
  · have harmed := h.armed hread
    rw [hdestroyed] at harmed
    exact harmed
  · have hreturned := h.returned hmem
    rw [hstop] at hreturned
    cases hreturned

/-- Every step that meets the condition keeps the invariant. -/
theorem Kept.step {i : WrapperLabel} (h : w.Kept) (hok : w.StopsFirst i)
    (hstep : w.step i = some w') : w'.Kept := by
  cases i with
  | expiry => exact h.expire hstep
  | callStop inside =>
      simp only [LocTimerWrapper.step] at hstep
      split at hstep
      · rename_i hcan
        cases hstep
        exact h.callStop hcan.1
      · cases hstep
  | stop => exact h.stop hok hstep

theorem Kept.sound (h : w.Kept) : w.Sound where
  once := fun hfinished => h.deleted (Or.inl hfinished.1)
  alive := h.alive
  notStarted := h.notStarted

/-! ### The other steps -/

/-- The wrapper was used after its deletion, or the expiry still has a pointer to the deleted
wrapper. -/
def Lost (w : LocTimerWrapper) : Prop :=
  ¬ LastUse (fun _ => True) WrapperEntry.usesWrapper .delete w.log ∨
    .delete ∈ w.log ∧ w.expiry.holds = true

/-- One more use of a deleted wrapper. -/
theorem lost_of_use {log log' : List WrapperEntry} (hmem : .delete ∈ log) :
    ¬ LastUse (fun _ => True) WrapperEntry.usesWrapper .delete (log ++ [.use] ++ log') :=
  fun h => not_lastUse_concat hmem rfl h.of_append

/-- The history grows. -/
theorem exists_log_step {i : WrapperLabel} (hstep : w.step i = some w') :
    ∃ log, w'.log = w.log ++ log := by
  have hdestroy : ∃ log, w.destroy.log = w.log ++ log := by
    obtain ⟨log, hlog⟩ := log_destroy w
    exact ⟨_, by rw [hlog, List.append_assoc]⟩
  have hsame : ∃ log, w.log = w.log ++ log := ⟨[], (List.append_nil _).symm⟩
  -- each step appends to the log, or leaves it
  cases i with
  | expiry =>
      simp only [step, expire] at hstep
      cases hexpiry : w.expiry with
      | readClient =>
          rw [hexpiry] at hstep
          cases hstep
          exact hsame
      | stopTimer =>
          rw [hexpiry] at hstep
          cases hstep
          exact ⟨_, rfl⟩
      | copyCb =>
          rw [hexpiry] at hstep
          cases hstep
          exact ⟨_, rfl⟩
      | callCb cb =>
          rw [hexpiry] at hstep
          cases cb <;> cases hstep
          · exact hsame
          · exact ⟨_, rfl⟩
      | inCallback =>
          rw [hexpiry] at hstep
          dsimp only at hstep
          split at hstep <;> cases hstep
          exact hsame
      | destroy =>
          rw [hexpiry] at hstep
          cases hstep
          exact hdestroy
      | done =>
          rw [hexpiry] at hstep
          cases hstep
  | callStop inside =>
      simp only [step] at hstep
      split at hstep <;> cases hstep
      exact hsame
  | stop =>
      simp only [step] at hstep
      split at hstep <;> cases hstep
      · exact hdestroy
      · exact ⟨_, rfl⟩

/-- The expiry uses the deleted wrapper in the end. -/
theorem lost_expire (hmem : .delete ∈ w.log) (hholds : w.expiry.holds = true)
    (hstep : w.expire = some w') : w'.Lost := by
  unfold expire at hstep
  cases hexpiry : w.expiry with
  | readClient =>
      rw [hexpiry] at hholds
      cases hholds
  | stopTimer =>
      rw [hexpiry] at hstep
      cases hstep
      exact Or.inl (not_lastUse_concat hmem rfl)
  | copyCb =>
      rw [hexpiry] at hstep
      cases hstep
      exact Or.inl (not_lastUse_concat hmem rfl)
  | callCb cb =>
      rw [hexpiry] at hstep
      cases cb <;> cases hstep
      · exact Or.inr ⟨hmem, rfl⟩
      · exact Or.inr ⟨List.mem_append_left _ hmem, rfl⟩
  | inCallback =>
      rw [hexpiry] at hstep
      dsimp only at hstep
      split at hstep <;> cases hstep
      exact Or.inr ⟨hmem, rfl⟩
  | destroy =>
      rw [hexpiry] at hstep
      cases hstep
      obtain ⟨log, hlog⟩ := log_destroy w
      refine Or.inl ?_
      dsimp only
      rw [hlog]
      exact lost_of_use hmem
  | done =>
      rw [hexpiry] at hholds
      cases hholds

/-- A second `destroy`, of a wrapper that is deleted. -/
theorem lost_stop (hmem : .delete ∈ w.log) (hdestroys : w.stop.destroys = true)
    (hstep : w.step .stop = some w') : w'.Lost := by
  simp only [step] at hstep
  cases hstop : w.stop with
  | destroy inside =>
      rw [hstop] at hstep
      cases hstep
      obtain ⟨log, hlog⟩ := log_destroy w
      refine Or.inl ?_
      dsimp only
      rw [hlog]
      exact lost_of_use hmem
  | _ =>
      rw [hstop] at hdestroys
      cases hdestroys

/-- What is lost stays lost. -/
theorem Lost.step {i : WrapperLabel} (h : w.Lost) (hstep : w.step i = some w') : w'.Lost := by
  rcases h with hused | ⟨hmem, hholds⟩
  · obtain ⟨log, hlog⟩ := exists_log_step hstep
    refine Or.inl fun h => hused ?_
    rw [hlog] at h
    exact h.of_append
  · cases i with
    | expiry => exact lost_expire hmem hholds hstep
    | callStop inside =>
        simp only [LocTimerWrapper.step] at hstep
        split at hstep <;> cases hstep
        exact Or.inr ⟨hmem, hholds⟩
    | stop =>
        cases hdestroys : w.stop.destroys with
        | true => exact lost_stop hmem hdestroys hstep
        | false =>
            simp only [LocTimerWrapper.step] at hstep
            split at hstep
            · rename_i hstop
              rw [hstop] at hdestroys
              cases hdestroys
            · cases hstep
              exact Or.inr ⟨List.mem_append_left _ hmem, hholds⟩
            · cases hstep

/-- A step that does not meet the condition deletes the wrapper while the expiry has a pointer to
it, or it uses a deleted one. -/
theorem Kept.lost {i : WrapperLabel} (h : w.Kept) (hok : ¬ w.StopsFirst i)
    (hstep : w.step i = some w') : w'.Lost := by
  simp only [StopsFirst, Classical.not_imp] at hok
  obtain ⟨rfl, hdestroys, hread⟩ := hok
  by_cases hdone : w.expiry = .done
  · have hmem : .delete ∈ w.log := by
      rw [← List.count_pos_iff, h.deleted (Or.inl hdone)]
      exact Nat.one_pos
    exact lost_stop hmem hdestroys hstep
  · have hholds : w.expiry.holds = true := by
      cases hexpiry : w.expiry with
      | readClient => exact absurd hexpiry hread
      | done => exact absurd hexpiry hdone
      | _ => rfl
    obtain ⟨hlive, -⟩ := h.live_of_holds hholds
    simp only [LocTimerWrapper.step] at hstep
    split at hstep
    · cases hstep
      refine Or.inr ⟨?_, ?_⟩
      · dsimp only
        rw [log_destroy_live hlive]
        simp
      · dsimp only
        rw [expiry_destroy]
        exact hholds
    · rename_i hstop
      rw [hstop] at hdestroys
      cases hdestroys
    · cases hstep

/-- In every run in which the expiry and the stop finish, the wrapper is sound in every state if and
only if `loc_timer_stop` destroys it before the expiry reads `mClient`, or is not called.

Past that point both of them hold the wrapper, and each deletes it at its end or calls its methods
after the other has. The mutex and `mMe` are checked on the object itself, which is gone by then. -/
theorem along_sound_iff {labels : List WrapperLabel} {w : LocTimerWrapper}
    (hrun : run step init labels = some w) (hfinished : w.finished) :
    Along step Sound init labels ↔ Guarded step StopsFirst init labels := by
  constructor
  · intro h
    have hsound := h.last hrun
    rcases guarded_or_of_lost (P := Kept) (Q := Lost) (fun w i w' hw hok ht => hw.step hok ht)
      (fun w i w' hw hok ht => hw.lost hok ht) (fun w i w' hw ht => hw.step ht) labels _ w
      kept_init hrun with ⟨hguarded, -⟩ | ⟨-, hlost⟩
    · exact hguarded
    · rcases hlost with hused | ⟨-, hholds⟩
      · exact absurd hsound.alive hused
      · rw [hfinished.1] at hholds
        cases hholds
  · exact Guarded.along (fun w hw => hw.sound) (fun w i w' hw hok ht => hw.step hok ht) labels _
      kept_init

/-- The timer expires, and nobody stops it. -/
def expires : List WrapperLabel := List.replicate 6 .expiry

theorem along_sound_expires : Along step Sound init expires :=
  (along_sound_iff (w := (run step init expires).get (by decide)) (by simp) (by decide)).mpr
    (by decide)

/-- The callback stops its own timer. -/
def stoppedInside : List WrapperLabel :=
  List.replicate 4 .expiry ++ [.callStop true, .stop, .stop, .expiry, .expiry]

/-- `timeOutCallback` calls `destroy` on the deleted wrapper. -/
theorem not_along_stoppedInside : ¬ Along step Sound init stoppedInside := by
  intro h
  have hlast := h.last (t := (run step init stoppedInside).get (by decide)) (by simp)
  have hused := (hlast.alive [.use, .use, .startCallback, .use] [.stopReturned, .use] (by decide)).2
  exact absurd (hused .use (by simp)) (by decide)

end LocTimerWrapper

end LocHal.Util
