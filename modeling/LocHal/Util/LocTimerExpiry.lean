import LocHal.Util.LocTimerInvariant

/-!
# `LocHal.Util.LocTimerExpiry`: when a timer fires early

`MsgTimerExpire` pops the top of the heap before it compares anything, and
`LocTimerDelegate::expire` reads `mClient` before it takes the lock that `LocTimer::start` and
`LocTimer::stop` hold. `StepOk` is the condition under which neither goes wrong:

* a `MsgTimerExpire` finds a top that is due or stopped (`TopDue`);
* a later round of the loop compares a difference of seconds that fits the `int` of `ranks`,
  or finds a top that is due or stopped;
* no timer is started while the `MsgTask` is about to stop it or to call its callback.

`fires_early` is a run in which a removal overtakes the expiry, so that the unconditional `pop`
takes a timer that has ten seconds left. `no_early_firing` is the run lemma: in a run whose
steps all meet the condition, every callback comes at or after the deadline of the latest
start.

The three parts of the condition are about three different races. A removal that is processed before
the expiry leaves another timer at the top, and the expiry pops it. A later round compares the top
with the clock, and a difference of more than 2^31 seconds changes its sign. A timer that is started
again while its old delegate is being expired is called back for the old deadline.

`ExpiryInv` carries the deadline through the expire loop. At each program point it says what is
known of the delegate in hand: it is due, or its timer has been stopped and nobody will be called.
-/

set_option autoImplicit false

namespace LocHal.Util

open LabelledRun

namespace LocTimerService

/-- The top of the heap is due, or its timer has been stopped. The delegate of a stopped timer has
no `mClient`, and popping it calls nobody, so it does not matter when that happens. -/
def TopDue (s : LocTimerService) : Prop :=
  ∀ top ∈ s.mTree.peek, (s.delegate top).mFutureTime ≤ s.now ∨ (s.delegate top).mClient = none

/-- The reading that the expire loop compares with, when the next step of the `MsgTask` is a
later round of the loop. -/
def loopReading (s : LocTimerService) : Option Timespec :=
  match s.msg with
  | .receive => none
  | .readClient timerOfNow timer =>
      if (s.delegate timer).mClient = none then some timerOfNow else none
  | .stopClient timerOfNow client => if s.mTimer client = none then some timerOfNow else none
  | .callback timerOfNow _ => some timerOfNow

/-- The difference of seconds in the comparison of `timerOfNow` with the top fits an `int`.
`LocTimerDelegate::ranks` takes the difference in a 32-bit `int`, so a top that is due in 68 years
or more would be taken for one that is over. -/
def DiffFits (s : LocTimerService) (timerOfNow : Timespec) : Prop :=
  ∀ top ∈ s.mTree.peek, (s.delegate top).mFutureTime.tvSec - timerOfNow.tvSec < 2 ^ 31

/-- The condition on one step. A `MsgTimerExpire` that is taken from the queue pops the top without
a look at its time, so it must find one that is due. The later rounds of the loop compare the top
with the time that was read, and the comparison must not be cut to 32 bits, unless the top is due
anyway. A client may call `start` at any time, but not for a timer whose expiry has already been
taken from the heap and is about to be told: the callback would be that of the new start. -/
def StepOk (s : LocTimerService) : Action → Prop
  | .msgTask =>
      (s.msg = .receive → s.queue.head? = some .timerExpire → TopDue s) ∧
      ∀ timerOfNow ∈ s.loopReading, DiffFits s timerOfNow ∨ TopDue s
  | .start timer _ =>
      s.mTimer timer = none →
        match s.msg with
        | .stopClient _ client => client ≠ timer
        | .callback _ client => client ≠ timer
        | _ => True
  | _ => True

instance (s : LocTimerService) : Decidable s.TopDue :=
  inferInstanceAs (Decidable (∀ top ∈ s.mTree.peek, _ ∨ _))

instance (s : LocTimerService) (timerOfNow : Timespec) : Decidable (s.DiffFits timerOfNow) :=
  inferInstanceAs (Decidable (∀ top ∈ s.mTree.peek, _))

instance (s : LocTimerService) : ∀ a, Decidable (s.StepOk a)
  | .msgTask => inferInstanceAs (Decidable ((_ → _ → _) ∧ ∀ n ∈ s.loopReading, _ ∨ _))
  | .start timer _ =>
      have : Decidable (match s.msg with
          | .stopClient _ client => client ≠ timer
          | .callback _ client => client ≠ timer
          | _ => True) := by
        cases s.msg <;> exact inferInstance
      inferInstanceAs (Decidable (_ → _))
  | .tick _ => inferInstanceAs (Decidable True)
  | .stop _ => inferInstanceAs (Decidable True)
  | .pollTask => inferInstanceAs (Decidable True)

/-! ### A timer that fires early -/

/-- Timer 0 is due at 100 ms and timer 1 at 10 s. The poll thread takes the expiry of timer 0,
timer 0 is stopped, and its removal is queued before the `MsgTimerExpire`. -/
def overtakenExpiry : List Action :=
  [.start 0 100, .start 1 10000, .msgTask, .msgTask, .tick ⟨0, 200000000⟩, .pollTask, .stop 0,
    .pollTask, .pollTask, .pollTask, .msgTask, .msgTask, .msgTask, .msgTask, .msgTask]

/-- Timer 1 fires after 200 ms. -/
theorem fires_early :
    ∃ s, run step init overtakenExpiry = some s ∧
      ∃ f ∈ s.fired, ∃ due ∈ f.deadline, ¬ due ≤ f.clock := by
  refine ⟨_, rfl, ?_⟩
  decide

/-! ### The condition is enough -/

/-- What the guarded steps keep. Each program point of the expire loop carries what is known of
the deadline that the callback will be measured against. -/
structure ExpiryInv (s : LocTimerService) : Prop where
  wf : WellFormed s
  readClient : ∀ n d, s.msg = .readClient n d → n.Reading ∧ n ≤ s.now ∧
    ((s.delegate d).mFutureTime ≤ s.now ∨ (s.delegate d).mClient = none)
  stopClient : ∀ n L, s.msg = .stopClient n L → n.Reading ∧ n ≤ s.now ∧
    ∀ d, s.mTimer L = some d → (s.delegate d).mFutureTime ≤ s.now
  callback : ∀ n L, s.msg = .callback n L → n.Reading ∧ n ≤ s.now ∧
    ∀ d, s.latest L = some d → d < s.allocated ∧ (s.delegate d).mFutureTime ≤ s.now
  fired : ∀ f ∈ s.fired, ∀ due ∈ f.deadline, due ≤ f.clock

/-- A state between two messages has nothing to show but the past callbacks. -/
theorem ExpiryInv.of_receive {s : LocTimerService} (hwf : WellFormed s)
    (hmsg : s.msg = .receive) (hfired : ∀ f ∈ s.fired, ∀ due ∈ f.deadline, due ≤ f.clock) :
    ExpiryInv s where
  wf := hwf
  readClient := fun _ _ h => by rw [hmsg] at h; cases h
  stopClient := fun _ _ h => by rw [hmsg] at h; cases h
  callback := fun _ _ h => by rw [hmsg] at h; cases h
  fired := hfired

/-- A rank that is not positive means a deadline at or before the reading, unless the
difference of seconds is cut to an `int`. -/
theorem le_of_rankTimes {n due : Timespec} (hn : n.Reading) (hdue : due.Reading)
    (hfits : due.tvSec - n.tvSec < 2 ^ 31) (hrank : rankTimes n due ≤ 0) : due ≤ n := by
  obtain ⟨hn0, hn1, hn2, -⟩ := hn
  obtain ⟨hd0, hd1, hd2, -⟩ := hdue
  rw [Timespec.le_def]
  unfold rankTimes intOfLong at hrank
  dsimp only at hrank
  by_cases hlt : due.tvSec < n.tvSec
  · exact Or.inl hlt
  · -- the seconds do not go back, so nothing is cut and the rank is the difference
    have hsec : (due.tvSec - n.tvSec).bmod (2 ^ 32) = due.tvSec - n.tvSec :=
      Int.bmod_eq_of_le (by omega) (by omega)
    have hnsec : (due.tvNsec - n.tvNsec).bmod (2 ^ 32) = due.tvNsec - n.tvNsec :=
      Int.bmod_eq_of_le (by omega) (by omega)
    rw [hsec, hnsec] at hrank
    split at hrank <;> omega

/-- Steps that only touch the fd, the poll thread and the queue. -/
theorem ExpiryInv.congr {s t : LocTimerService} (h : ExpiryInv s) (hwf : WellFormed t)
    (hnow : t.now = s.now) (hdelegate : t.delegate = s.delegate)
    (hallocated : t.allocated = s.allocated) (hmTimer : t.mTimer = s.mTimer)
    (hlatest : t.latest = s.latest) (hmsg : t.msg = s.msg) (hfired : t.fired = s.fired) :
    ExpiryInv t where
  wf := hwf
  readClient := by rw [hmsg, hnow, hdelegate]; exact h.readClient
  stopClient := by rw [hmsg, hnow, hdelegate, hmTimer]; exact h.stopClient
  callback := by rw [hmsg, hnow, hdelegate, hlatest, hallocated]; exact h.callback
  fired := by rw [hfired]; exact h.fired

theorem ExpiryInv.tick {s : LocTimerService} (h : ExpiryInv s) {now : Timespec}
    (hle : s.now ≤ now) (hread : now.Reading) : ExpiryInv { s with now := now } where
  wf := h.wf.tick hle hread
  readClient := fun n d hmsg => by
    obtain ⟨hn, hnow, hdue⟩ := h.readClient n d hmsg
    exact ⟨hn, Timespec.le_trans hnow hle, hdue.imp_left fun hd => Timespec.le_trans hd hle⟩
  stopClient := fun n L hmsg => by
    obtain ⟨hn, hnow, hdue⟩ := h.stopClient n L hmsg
    exact ⟨hn, Timespec.le_trans hnow hle, fun d hd => Timespec.le_trans (hdue d hd) hle⟩
  callback := fun n L hmsg => by
    obtain ⟨hn, hnow, hdue⟩ := h.callback n L hmsg
    exact ⟨hn, Timespec.le_trans hnow hle,
      fun d hd => ⟨(hdue d hd).1, Timespec.le_trans (hdue d hd).2 hle⟩⟩
  fired := h.fired

/-- A start creates a fresh delegate. It only matters for the timer that the `MsgTask` is
working on, and the condition rules that timer out. -/
theorem ExpiryInv.start {s : LocTimerService} (h : ExpiryInv s) {timer : TimerId} {ms : UInt32}
    (hok : s.StepOk (.start timer ms)) : ExpiryInv (s.start timer ms).1 := by
  have hwf := h.wf.start timer ms
  unfold LocTimerService.start at hwf ⊢
  cases htimer : s.mTimer timer with
  | some d => exact h
  | none =>
      rw [htimer] at hwf
      have hold : ∀ d e, d < s.allocated → Function.update s.delegate s.allocated e d
          = s.delegate d := fun d e hd => Function.update_of_ne (Nat.ne_of_lt hd) _ _
      exact {
        wf := hwf
        readClient := fun n d hmsg => by
          simp only [sendMsg] at hmsg ⊢
          rw [hold d _ (h.wf.popped n d hmsg)]
          exact h.readClient n d hmsg
        stopClient := fun n L hmsg => by
          simp only [sendMsg] at hmsg ⊢
          obtain ⟨hn, hnow, hdue⟩ := h.stopClient n L hmsg
          refine ⟨hn, hnow, fun d hd => ?_⟩
          have hne : L ≠ timer := by
            have := hok htimer
            rw [hmsg] at this
            exact this
          rw [Function.update_of_ne hne] at hd
          rw [hold d _ (h.wf.running L d hd).1]
          exact hdue d hd
        callback := fun n L hmsg => by
          simp only [sendMsg] at hmsg ⊢
          obtain ⟨hn, hnow, hdue⟩ := h.callback n L hmsg
          refine ⟨hn, hnow, fun d hd => ?_⟩
          have hne : L ≠ timer := by
            have := hok htimer
            rw [hmsg] at this
            exact this
          rw [Function.update_of_ne hne] at hd
          obtain ⟨hlt, hle⟩ := hdue d hd
          rw [hold d _ hlt]
          exact ⟨Nat.lt_succ_of_lt hlt, hle⟩
        fired := h.fired }

/-- A stop keeps every deadline and can only clear an `mClient`. -/
theorem ExpiryInv.stop {s : LocTimerService} (h : ExpiryInv s) (timer : TimerId) :
    ExpiryInv (s.stop timer).1 := by
  have hwf := h.wf.stop timer
  cases htimer : s.mTimer timer with
  | none => rw [stop_of_not_running htimer]; exact h
  | some d =>
      obtain ⟨queue, -, -, heq⟩ := stop_eq htimer
      rw [heq] at hwf ⊢
      have hdue : ∀ e, (Function.update s.delegate d
          { s.delegate d with mClient := none, mContainer := false } e).mFutureTime
            = (s.delegate e).mFutureTime := fun e => by
        by_cases hed : e = d
        · subst hed; rw [Function.update_self]
        · rw [Function.update_of_ne hed]
      exact {
        wf := hwf
        readClient := fun n e hmsg => by
          obtain ⟨hn, hnow, hcase⟩ := h.readClient n e hmsg
          refine ⟨hn, hnow, ?_⟩
          dsimp only
          rw [hdue]
          refine hcase.imp_right fun hnone => ?_
          by_cases hed : e = d
          · subst hed; rw [Function.update_self]
          · rw [Function.update_of_ne hed]; exact hnone
        stopClient := fun n L hmsg => by
          obtain ⟨hn, hnow, hcase⟩ := h.stopClient n L hmsg
          refine ⟨hn, hnow, fun e he => ?_⟩
          dsimp only at he ⊢
          rw [hdue]
          by_cases hL : L = timer
          · subst hL; rw [Function.update_self] at he; cases he
          · rw [Function.update_of_ne hL] at he; exact hcase e he
        callback := fun n L hmsg => by
          obtain ⟨hn, hnow, hcase⟩ := h.callback n L hmsg
          refine ⟨hn, hnow, fun e he => ?_⟩
          dsimp only
          rw [hdue]
          exact hcase e he
        fired := h.fired }

theorem ExpiryInv.finishExpire {s : LocTimerService} (hwf : WellFormed s)
    (hfired : ∀ f ∈ s.fired, ∀ due ∈ f.deadline, due ≤ f.clock) : ExpiryInv s.finishExpire := by
  have hwf' := hwf.finishExpire
  obtain ⟨armed, polled, heq⟩ := finishExpire_eq s
  rw [heq] at hwf' ⊢
  exact ExpiryInv.of_receive hwf' rfl hfired

/-- A popped delegate that is due or stopped. -/
theorem ExpiryInv.popTimer {s : LocTimerService} (hwf : WellFormed s) {n : Timespec}
    (hn : n.Reading) (hnow : n ≤ s.now) {timer : DelegateId} {tree : LocHeapNode DelegateId}
    (htree : s.mTree.elements = timer ::ₘ tree.elements)
    (hdue : (s.delegate timer).mFutureTime ≤ s.now ∨ (s.delegate timer).mClient = none)
    (hfired : ∀ f ∈ s.fired, ∀ due ∈ f.deadline, due ≤ f.clock) :
    ExpiryInv { s with mTree := tree, msg := .readClient n timer } where
  wf := hwf.popTimer htree n
  readClient := fun m d hmsg => by cases hmsg; exact ⟨hn, hnow, hdue⟩
  stopClient := fun m L hmsg => by cases hmsg
  callback := fun m L hmsg => by cases hmsg
  fired := hfired

/-- A later round of the expire loop. A top that `popIfOutRanks` takes is due. -/
theorem ExpiryInv.nextExpire {s : LocTimerService} (hwf : WellFormed s) {n : Timespec}
    (hn : n.Reading) (hnow : n ≤ s.now) (hok : s.DiffFits n ∨ s.TopDue)
    (hfired : ∀ f ∈ s.fired, ∀ due ∈ f.deadline, due ≤ f.clock) :
    ExpiryInv (s.nextExpire n) := by
  rcases nextExpire_cases s n with heq | ⟨timer, tree, htop, htree, hrank, heq⟩ <;> rw [heq]
  · exact ExpiryInv.finishExpire hwf hfired
  · refine ExpiryInv.popTimer hwf hn hnow htree ?_ hfired
    rcases hok with hfits | hdue
    · have hle := le_of_rankTimes hn (hwf.deadline timer).1 (hfits timer htop) hrank
      exact Or.inl (Timespec.le_trans hle hnow)
    · exact hdue timer htop

/-- A step of the `MsgTask`, one case for each program point. -/
theorem ExpiryInv.msgTask {s t : LocTimerService} (h : ExpiryInv s)
    (hok : s.StepOk .msgTask) (ht : s.msgTask = some t) : ExpiryInv t := by
  have hwf := h.wf.msgTask ht
  obtain ⟨hexpire, hloop⟩ := hok
  unfold LocTimerService.msgTask at ht
  split at ht
  · -- the next message of the queue
    rename_i hmsg
    split at ht
    · cases ht
    · rename_i d queue hq
      cases ht
      obtain ⟨armed, polled, heq⟩ := procPush_eq { s with queue := queue } d
      rw [heq] at hwf ⊢
      exact ExpiryInv.of_receive hwf hmsg h.fired
    · rename_i d queue hq
      cases ht
      obtain ⟨tree, armed, polled, -, heq⟩ := procRemove_eq { s with queue := queue } d
      rw [heq] at hwf ⊢
      exact ExpiryInv.of_receive hwf hmsg h.fired
    · rename_i queue hq
      cases ht
      -- the due timer is popped only when the clock has passed it
      have hdue := hexpire hmsg (by rw [hq]; rfl)
      rcases procExpire_cases { s with queue := queue } with heq | ⟨d, tree, htop, htree, heq⟩
      · rw [heq]
        exact ExpiryInv.finishExpire (h.wf.dequeue hq) h.fired
      · rw [heq]
        exact ExpiryInv.popTimer (h.wf.dequeue hq) h.wf.clock (Timespec.le_refl _) htree
          (hdue d htop) h.fired
  · -- the client of the popped delegate
    rename_i n d hmsg
    obtain ⟨hn, hnow, hdue⟩ := h.readClient n d hmsg
    split at ht
    · rename_i hnone
      cases ht
      exact ExpiryInv.nextExpire h.wf hn hnow
        (hloop n (by simp [loopReading, hmsg, hnone])) h.fired
    · rename_i client hclient
      cases ht
      -- the client is running on this delegate, so the delegate is due
      have hrun := h.wf.client d client hclient
      exact {
        wf := hwf
        readClient := fun _ _ he => by cases he
        stopClient := fun m L he => by
          cases he
          refine ⟨hn, hnow, fun e he => ?_⟩
          cases hrun.symm.trans he
          exact hdue.resolve_right (by rw [hclient]; exact Option.some_ne_none _)
        callback := fun _ _ he => by cases he
        fired := h.fired }
  · -- `stop` of the client
    rename_i n client hmsg
    obtain ⟨hn, hnow, hdue⟩ := h.stopClient n client hmsg
    cases htimer : s.mTimer client with
    | none =>
        rw [stop_of_not_running htimer] at ht
        cases ht
        exact ExpiryInv.nextExpire h.wf hn hnow
          (hloop n (by simp [loopReading, hmsg, htimer])) h.fired
    | some d =>
        -- the timer still runs on the delegate that was popped
        have hstop := (h.stop client).fired
        obtain ⟨hlt, -, hlatest⟩ := h.wf.running client d htimer
        obtain ⟨queue, -, -, heq⟩ := stop_eq htimer
        rw [heq] at ht
        cases ht
        exact {
          wf := hwf
          readClient := fun _ _ he => by cases he
          stopClient := fun _ _ he => by cases he
          callback := fun m L he => by
            cases he
            refine ⟨hn, hnow, fun e he => ?_⟩
            cases hlatest.symm.trans he
            refine ⟨hlt, ?_⟩
            dsimp only
            rw [Function.update_self]
            exact hdue d htimer
          fired := h.fired }
  · -- `timeOutCallback`, and the next round
    rename_i n client hmsg
    cases ht
    obtain ⟨hn, hnow, hdue⟩ := h.callback n client hmsg
    -- the callback is recorded, and nothing else changes
    have hfired : ∀ fired, WellFormed { s with fired := fired } := fun _ =>
      h.wf.congr rfl rfl rfl rfl rfl h.wf.heap h.wf.queued h.wf.popped
    refine ExpiryInv.nextExpire (hfired _) hn hnow (hloop n (by simp [loopReading, hmsg])) ?_
    intro f hf due hdue'
    rw [List.mem_append, List.mem_singleton] at hf
    rcases hf with hf | rfl
    · exact h.fired f hf due hdue'
    · obtain ⟨d, hd, rfl⟩ := Option.mem_map.mp hdue'
      exact (hdue d hd).2

/-- Every step that meets the condition keeps the invariant. -/
theorem ExpiryInv.step {s t : LocTimerService} (h : ExpiryInv s) {a : Action}
    (hok : s.StepOk a) (ht : step s a = some t) : ExpiryInv t := by
  cases a with
  | tick now =>
      simp only [LocTimerService.step] at ht
      split at ht
      · rename_i hnow
        cases ht
        exact h.tick hnow.1 hnow.2
      · cases ht
  | start timer ms => cases ht; exact h.start hok
  | stop timer => cases ht; exact h.stop timer
  | pollTask =>
      have hwf := h.wf.pollTask ht
      obtain ⟨armed, polled, poll, queue, -, rfl⟩ := pollTask_eq ht
      exact h.congr hwf rfl rfl rfl rfl rfl rfl rfl
  | msgTask => exact h.msgTask hok ht

/-- No timer fires early in a run whose steps all meet the condition: at each call of
`timeOutCallback` the clock is at or past the `mFutureTime` of the delegate that the latest
successful start of the timer created. -/
theorem no_early_firing (actions : List Action) (s : LocTimerService)
    (hguard : Guarded step StepOk init actions) (hrun : run step init actions = some s) :
    ∀ f ∈ s.fired, ∀ due ∈ f.deadline, due ≤ f.clock :=
  (Guarded.run_invariant (P := ExpiryInv) (fun _ _ _ hs hok ht => hs.step hok ht) actions init s
    (ExpiryInv.of_receive wellFormed_init rfl (by simp [init])) hguard hrun).fired

/-- One timer that fires in time. -/
def timelyExpiry : List Action :=
  [.start 0 100, .msgTask, .tick ⟨0, 200000000⟩, .pollTask, .pollTask, .pollTask, .pollTask,
    .msgTask, .msgTask, .msgTask, .msgTask]

theorem no_early_firing_timelyExpiry :
    ∃ s, run step init timelyExpiry = some s ∧ s.fired.length = 1 ∧
      ∀ f ∈ s.fired, ∀ due ∈ f.deadline, due ≤ f.clock :=
  ⟨_, rfl, by decide, no_early_firing timelyExpiry _ (by decide) rfl⟩

end LocTimerService

end LocHal.Util
