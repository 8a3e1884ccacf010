import LocHal.Util.LocTimer
import Mathlib.Tactic.Linarith

/-!
# `LocHal.Util.LocTimerInvariant`: what every step of the timer service keeps

`WellFormed` collects the facts about clients, delegates, heap and queue that the two timer
theorems rest on:

* the clock and every deadline are normalised and positive, and no deadline is further ahead
  of the clock than the largest `timeOutInMs` allows;
* the delegates in the heap, in a queued `MsgTimerPush` and in the expire loop are allocated;
* a delegate with `mClient` set is the `mTimer` of its client, and a running timer holds the
  delegate of its latest successful start.

The `MsgTask` steps change the fd, the heap and the program counter, and leave the clients
alone. `updateSoonestTime_eq`, `procPush_eq`, `procRemove_eq` and the two `Expire` lemmas say
so, with the values of `armed` and `polled` left open. `wellFormed_of_reachable` is the
invariant over every run.
-/

set_option autoImplicit false

namespace LocHal.Util

open LabelledRun

namespace Timespec

theorem le_refl (a : Timespec) : a ≤ a := Or.inr ⟨rfl, Int.le_refl _⟩

theorem le_trans {a b c : Timespec} (hab : a ≤ b) (hbc : b ≤ c) : a ≤ c := by
  rw [le_def] at *
  omega

/-- The deadline of a start is a clock reading. -/
theorem reading_addMs {a : Timespec} (h : a.Reading) (ms : UInt32) :
    (a.addMs ms.toNat).Reading := by
  obtain ⟨hsec, hnsec, hlt, hne⟩ := h
  have hne' : a.tvSec ≠ 0 ∨ a.tvNsec ≠ 0 := by
    by_contra hzero
    push Not at hzero
    exact hne (by cases a; simp_all [zero])
  unfold addMs
  dsimp only
  split
  · rename_i hge
    refine ⟨by dsimp only; omega, by dsimp only; omega, by dsimp only; omega, fun heq => ?_⟩
    have := congrArg tvSec heq
    simp only [zero] at this
    omega
  · refine ⟨by dsimp only; omega, by dsimp only; omega, by dsimp only; omega, fun heq => ?_⟩
    have h1 := congrArg tvSec heq
    have h2 := congrArg tvNsec heq
    simp only [zero] at h1 h2
    omega

/-- The largest `timeOutInMs` is less than 4294968 seconds. -/
theorem addMs_tvSec_le {a : Timespec} (h : a.Reading) (ms : UInt32) :
    (a.addMs ms.toNat).tvSec ≤ a.tvSec + 4294968 := by
  obtain ⟨hsec, hnsec, hlt, -⟩ := h
  have hms := ms.toNat_lt
  unfold addMs
  dsimp only
  split
  · dsimp only; omega
  · dsimp only; omega

end Timespec

namespace LocTimerService

/-- The facts about clients, delegates, heap and queue that every step keeps. -/
structure WellFormed (s : LocTimerService) : Prop where
  clock : s.now.Reading
  deadline : ∀ d, (s.delegate d).mFutureTime.Reading ∧
    (s.delegate d).mFutureTime.tvSec ≤ s.now.tvSec + 4294968
  heap : ∀ d ∈ s.mTree.elements, d < s.allocated
  queued : ∀ d, .timerPush d ∈ s.queue → d < s.allocated
  popped : ∀ now d, s.msg = .readClient now d → d < s.allocated
  client : ∀ d timer, (s.delegate d).mClient = some timer → s.mTimer timer = some d
  running : ∀ timer d, s.mTimer timer = some d →
    d < s.allocated ∧ (s.delegate d).mClient = some timer ∧ s.latest timer = some d

theorem wellFormed_init : WellFormed init where
  clock := by decide
  deadline := fun d => by
    show (⟨0, 1⟩ : Timespec).Reading ∧ (0 : Int) ≤ 0 + 4294968
    decide
  heap := by simp [init]
  queued := by simp [init]
  popped := by simp [init]
  client := by simp [init]
  running := by simp [init]

/-! ### What the steps change -/

/-- `updateSoonestTime` touches the fd only. -/
theorem updateSoonestTime_eq (s : LocTimerService) (priorTop : Option DelegateId) :
    ∃ armed polled, s.updateSoonestTime priorTop
      = { s with armed := armed, polled := polled } := by
  unfold updateSoonestTime
  dsimp only
  split
  · split
    · exact ⟨_, _, rfl⟩
    · exact ⟨_, _, rfl⟩
    · split
      · exact ⟨_, _, rfl⟩
      · exact ⟨_, _, rfl⟩
  · exact ⟨_, _, rfl⟩

/-- `MsgTimerPush` changes the heap and the fd. -/
theorem procPush_eq (s : LocTimerService) (d : DelegateId) :
    ∃ armed polled, s.procPush d
      = { s with mTree := s.mTree.push s.ranks d, armed := armed, polled := polled } := by
  obtain ⟨armed, polled, h⟩ :=
    updateSoonestTime_eq { s with mTree := s.mTree.push s.ranks d } s.mTree.peek
  exact ⟨armed, polled, h⟩

/-- `MsgTimerRemove` takes objects out of the heap, changes the fd and deletes the
delegate. -/
theorem procRemove_eq (s : LocTimerService) (d : DelegateId) :
    ∃ tree armed polled, (∀ e ∈ tree.elements, e ∈ s.mTree.elements) ∧ s.procRemove d
      = { s with
          mTree := tree, armed := armed, polled := polled
          delegate := Function.update s.delegate d
            { s.delegate d with deleted := true } } := by
  unfold procRemove
  dsimp only
  cases hrem : s.mTree.remove s.ranks d with
  | none =>
      dsimp only
      split
      · obtain ⟨armed, polled, h⟩ := updateSoonestTime_eq s none
        rw [h]
        exact ⟨s.mTree, armed, polled, fun _ he => he, rfl⟩
      · exact ⟨s.mTree, s.armed, s.polled, fun _ he => he, rfl⟩
  | some r =>
      obtain ⟨y, tree⟩ := r
      have hsub : ∀ e ∈ tree.elements, e ∈ s.mTree.elements := fun e he => by
        rw [LocHeapNode.elements_remove hrem]
        exact Multiset.mem_cons_of_mem he
      dsimp only
      split
      · obtain ⟨armed, polled, h⟩ := updateSoonestTime_eq { s with mTree := tree } none
        rw [h]
        exact ⟨tree, armed, polled, hsub, rfl⟩
      · exact ⟨tree, s.armed, s.polled, hsub, rfl⟩

/-- The end of the expire loop changes the fd and the program counter. -/
theorem finishExpire_eq (s : LocTimerService) :
    ∃ armed polled, s.finishExpire
      = { s with armed := armed, polled := polled, msg := .receive } := by
  obtain ⟨armed, polled, h⟩ := updateSoonestTime_eq s none
  exact ⟨armed, polled, by rw [finishExpire, h]⟩

/-- The start of the expire loop ends it, or pops the top whatever its deadline is. -/
theorem procExpire_cases (s : LocTimerService) :
    s.procExpire = s.finishExpire ∨
    ∃ timer tree, s.mTree.peek = some timer ∧ s.mTree.elements = timer ::ₘ tree.elements ∧
      s.procExpire = { s with mTree := tree, msg := .readClient s.now timer } := by
  unfold procExpire
  split
  · rename_i timer tree hpop
    exact Or.inr ⟨timer, tree, LocHeapNode.peek_of_pop hpop, LocHeapNode.elements_pop hpop, rfl⟩
  · exact Or.inl rfl

/-- A later round of the expire loop ends it, or pops a top that `timerOfNow` does not
outrank. -/
theorem nextExpire_cases (s : LocTimerService) (timerOfNow : Timespec) :
    s.nextExpire timerOfNow = s.finishExpire ∨
    ∃ timer tree, s.mTree.peek = some timer ∧ s.mTree.elements = timer ::ₘ tree.elements ∧
      rankTimes timerOfNow (s.delegate timer).mFutureTime ≤ 0 ∧
      s.nextExpire timerOfNow
        = { s with mTree := tree, msg := .readClient timerOfNow timer } := by
  unfold nextExpire
  split
  · exact Or.inl rfl
  · rename_i top htop
    split
    · exact Or.inl rfl
    · rename_i hrank
      split
      · rename_i timer tree hpop
        have hpeek := LocHeapNode.peek_of_pop hpop
        cases htop.symm.trans hpeek
        exact Or.inr ⟨top, tree, htop, LocHeapNode.elements_pop hpop, by omega, rfl⟩
      · exact Or.inl rfl

/-- The poll thread changes the fd and its program counter, and queues at most a
`MsgTimerExpire`. -/
theorem pollTask_eq {s t : LocTimerService} (ht : s.pollTask = some t) :
    ∃ armed polled poll queue, (∀ d, .timerPush d ∈ queue → .timerPush d ∈ s.queue) ∧
      t = { s with armed := armed, polled := polled, poll := poll, queue := queue } := by
  unfold pollTask at ht
  split at ht
  · split at ht
    · split at ht
      · cases ht
        exact ⟨_, _, _, _, fun _ hd => hd, rfl⟩
      · cases ht
    · cases ht
  · cases ht
    exact ⟨_, _, _, _, fun _ hd => hd, rfl⟩
  · cases ht
    exact ⟨_, _, _, _, fun _ hd => hd, rfl⟩
  · cases ht
    exact ⟨_, _, _, _, fun d hd => by simpa [sendMsg] using hd, rfl⟩

/-! ### The steps keep the invariant -/

/-- Fields that the invariant does not read, and a heap, a queue and a program counter that
bring in no new delegate. -/
theorem WellFormed.congr {s t : LocTimerService} (h : WellFormed s)
    (hnow : t.now = s.now) (hdelegate : t.delegate = s.delegate)
    (hallocated : t.allocated = s.allocated) (hmTimer : t.mTimer = s.mTimer)
    (hlatest : t.latest = s.latest)
    (hheap : ∀ d ∈ t.mTree.elements, d < s.allocated)
    (hqueue : ∀ d, .timerPush d ∈ t.queue → d < s.allocated)
    (hmsg : ∀ now d, t.msg = .readClient now d → d < s.allocated) : WellFormed t where
  clock := hnow ▸ h.clock
  deadline := by rw [hdelegate, hnow]; exact h.deadline
  heap := by rw [hallocated]; exact hheap
  queued := by rw [hallocated]; exact hqueue
  popped := by rw [hallocated]; exact hmsg
  client := by rw [hdelegate, hmTimer]; exact h.client
  running := by rw [hdelegate, hmTimer, hlatest, hallocated]; exact h.running

theorem WellFormed.tick {s : LocTimerService} (h : WellFormed s) {now : Timespec}
    (hle : s.now ≤ now) (hread : now.Reading) : WellFormed { s with now := now } where
  clock := hread
  deadline := fun d => by
    refine ⟨(h.deadline d).1, ?_⟩
    have hd := (h.deadline d).2
    rw [Timespec.le_def] at hle
    dsimp only
    omega
  heap := h.heap
  queued := h.queued
  popped := h.popped
  client := h.client
  running := h.running

theorem WellFormed.start {s : LocTimerService} (h : WellFormed s) (timer : TimerId)
    (ms : UInt32) : WellFormed (s.start timer ms).1 := by
  unfold LocTimerService.start
  cases htimer : s.mTimer timer with
  | some d => exact h
  | none =>
      -- the new delegate is fresh, so no other client, heap entry or message names it
      have hfresh : ∀ other d, s.mTimer other = some d → d ≠ s.allocated := fun other d hd =>
        Nat.ne_of_lt (h.running other d hd).1
      exact {
        clock := h.clock
        deadline := fun d => by
          simp only [sendMsg]
          by_cases hd : d = s.allocated
          · subst hd
            rw [Function.update_self]
            exact ⟨Timespec.reading_addMs h.clock ms, Timespec.addMs_tvSec_le h.clock ms⟩
          · rw [Function.update_of_ne hd]
            exact h.deadline d
        heap := fun d hd => Nat.lt_succ_of_lt (h.heap d hd)
        queued := fun d hd => by
          simp only [sendMsg, List.mem_append, List.mem_singleton, TimerMsg.timerPush.injEq] at hd
          rcases hd with hd | rfl
          · exact Nat.lt_succ_of_lt (h.queued d hd)
          · exact Nat.lt_succ_self _
        popped := fun now d hd => Nat.lt_succ_of_lt (h.popped now d hd)
        client := fun d other hd => by
          simp only [sendMsg] at hd ⊢
          by_cases hnew : d = s.allocated
          · subst hnew
            rw [Function.update_self] at hd
            cases hd
            exact Function.update_self _ _ _
          · rw [Function.update_of_ne hnew] at hd
            have hrun := h.client d other hd
            have hne : other ≠ timer := fun heq => by rw [heq, htimer] at hrun; cases hrun
            rw [Function.update_of_ne hne]
            exact hrun
        running := fun other d hd => by
          simp only [sendMsg] at hd ⊢
          by_cases hne : other = timer
          · subst hne
            rw [Function.update_self] at hd
            cases hd
            rw [Function.update_self, Function.update_self]
            exact ⟨Nat.lt_succ_self _, rfl, rfl⟩
          · rw [Function.update_of_ne hne] at hd
            rw [Function.update_of_ne (hfresh other d hd), Function.update_of_ne hne]
            obtain ⟨hlt, hclient, hlatest⟩ := h.running other d hd
            exact ⟨Nat.lt_succ_of_lt hlt, hclient, hlatest⟩ }

/-- A stop clears the delegate of the timer and queues at most a `MsgTimerRemove`. -/
theorem stop_eq {s : LocTimerService} {timer : TimerId} {d : DelegateId}
    (hd : s.mTimer timer = some d) :
    ∃ queue, (∀ m ∈ queue, m ∈ s.queue ∨ m = .timerRemove d) ∧ (∀ m ∈ s.queue, m ∈ queue) ∧
      (s.stop timer) = ({ s with
        mTimer := Function.update s.mTimer timer none
        delegate := Function.update s.delegate d
          { s.delegate d with mClient := none, mContainer := false }
        queue := queue }, true) := by
  unfold LocTimerService.stop destroyLocked
  rw [hd]
  dsimp only
  split
  · exact ⟨s.queue ++ [.timerRemove d], by simp, by simp_all, rfl⟩
  · exact ⟨s.queue, fun m hm => Or.inl hm, fun m hm => hm, rfl⟩

/-- A stop of a timer that is not running does nothing. -/
theorem stop_of_not_running {s : LocTimerService} {timer : TimerId}
    (hd : s.mTimer timer = none) : s.stop timer = (s, false) := by
  unfold LocTimerService.stop
  rw [hd]

theorem WellFormed.stop {s : LocTimerService} (h : WellFormed s) (timer : TimerId) :
    WellFormed (s.stop timer).1 := by
  cases htimer : s.mTimer timer with
  | none => rw [stop_of_not_running htimer]; exact h
  | some d =>
      obtain ⟨queue, hqueue, -, heq⟩ := stop_eq htimer
      rw [heq]
      exact {
        clock := h.clock
        deadline := fun e => by
          dsimp only
          by_cases hed : e = d
          · subst hed
            rw [Function.update_self]
            exact h.deadline e
          · rw [Function.update_of_ne hed]
            exact h.deadline e
        heap := h.heap
        queued := fun e he => by
          rcases hqueue _ he with he | he
          · exact h.queued e he
          · cases he
        popped := h.popped
        client := fun e other he => by
          dsimp only at he ⊢
          by_cases hed : e = d
          · subst hed
            rw [Function.update_self] at he
            cases he
          · rw [Function.update_of_ne hed] at he
            have hrun := h.client e other he
            -- the deadline of another timer is another one
            have hne : other ≠ timer := fun heq => by
              rw [heq, htimer] at hrun
              exact hed (Option.some.inj hrun).symm
            rw [Function.update_of_ne hne]
            exact hrun
        running := fun other e he => by
          dsimp only at he ⊢
          by_cases hne : other = timer
          · subst hne
            rw [Function.update_self] at he
            cases he
          · rw [Function.update_of_ne hne] at he
            obtain ⟨hlt, hclient, hlatest⟩ := h.running other e he
            have hed : e ≠ d := fun heq => by
              rw [heq, (h.running timer d htimer).2.1] at hclient
              exact hne (Option.some.inj hclient).symm
            rw [Function.update_of_ne hed]
            exact ⟨hlt, hclient, hlatest⟩ }

theorem WellFormed.finishExpire {s : LocTimerService} (h : WellFormed s) :
    WellFormed s.finishExpire := by
  obtain ⟨armed, polled, heq⟩ := finishExpire_eq s
  rw [heq]
  exact h.congr rfl rfl rfl rfl rfl h.heap h.queued (fun _ _ hm => by cases hm)

/-- Popping a delegate of the heap into the expire loop. -/
theorem WellFormed.popTimer {s : LocTimerService} (h : WellFormed s) {timer : DelegateId}
    {tree : LocHeapNode DelegateId} (htree : s.mTree.elements = timer ::ₘ tree.elements)
    (now : Timespec) : WellFormed { s with mTree := tree, msg := .readClient now timer } := by
  have hmem : ∀ d ∈ timer ::ₘ tree.elements, d < s.allocated := htree ▸ h.heap
  refine h.congr rfl rfl rfl rfl rfl (fun d hd => hmem d (Multiset.mem_cons_of_mem hd))
    h.queued (fun n d hm => ?_)
  cases hm
  exact hmem timer (Multiset.mem_cons_self _ _)

theorem WellFormed.nextExpire {s : LocTimerService} (h : WellFormed s) (now : Timespec) :
    WellFormed (s.nextExpire now) := by
  rcases nextExpire_cases s now with heq | ⟨timer, tree, -, htree, -, heq⟩ <;> rw [heq]
  · exact h.finishExpire
  · exact h.popTimer htree now

theorem WellFormed.procRemove {s : LocTimerService} (h : WellFormed s) (d : DelegateId) :
    WellFormed (s.procRemove d) := by
  obtain ⟨tree, armed, polled, hsub, heq⟩ := procRemove_eq s d
  rw [heq]
  have hmClient : ∀ e, (Function.update s.delegate d
      { s.delegate d with deleted := true } e).mClient = (s.delegate e).mClient := fun e => by
    by_cases hed : e = d
    · subst hed; rw [Function.update_self]
    · rw [Function.update_of_ne hed]
  have hmFutureTime : ∀ e, (Function.update s.delegate d
      { s.delegate d with deleted := true } e).mFutureTime = (s.delegate e).mFutureTime :=
    fun e => by
      by_cases hed : e = d
      · subst hed; rw [Function.update_self]
      · rw [Function.update_of_ne hed]
  exact {
    clock := h.clock
    deadline := fun e => by dsimp only; rw [hmFutureTime]; exact h.deadline e
    heap := fun e he => h.heap e (hsub e he)
    queued := h.queued
    popped := h.popped
    client := fun e timer he => by dsimp only at he; rw [hmClient] at he; exact h.client e timer he
    running := fun timer e he => by dsimp only; rw [hmClient]; exact h.running timer e he }

/-- The message at the head of the queue is taken. -/
theorem WellFormed.dequeue {s : LocTimerService} (h : WellFormed s) {m : TimerMsg}
    {queue : List TimerMsg} (hqueue : s.queue = m :: queue) :
    WellFormed { s with queue := queue } :=
  h.congr rfl rfl rfl rfl rfl h.heap
    (fun d hd => h.queued d (by rw [hqueue]; exact List.mem_cons_of_mem _ hd)) h.popped

theorem WellFormed.msgTask {s t : LocTimerService} (h : WellFormed s) (ht : s.msgTask = some t) :
    WellFormed t := by
  unfold LocTimerService.msgTask at ht
  split at ht
  · split at ht
    · cases ht
    · rename_i d queue hq
      cases ht
      obtain ⟨armed, polled, heq⟩ := procPush_eq { s with queue := queue } d
      rw [heq]
      refine (h.dequeue hq).congr rfl rfl rfl rfl rfl (fun e he => ?_) (h.dequeue hq).queued
        h.popped
      rw [LocHeapNode.elements_push, Multiset.mem_cons] at he
      rcases he with rfl | he
      · exact h.queued e (by rw [hq]; exact List.mem_cons_self)
      · exact h.heap e he
    · rename_i d queue hq
      cases ht
      exact (h.dequeue hq).procRemove d
    · rename_i queue hq
      cases ht
      rcases procExpire_cases { s with queue := queue } with heq | ⟨timer, tree, -, htree, heq⟩ <;>
        rw [heq]
      · exact (h.dequeue hq).finishExpire
      · exact (h.dequeue hq).popTimer htree s.now
  · split at ht
    · cases ht
      exact h.nextExpire _
    · cases ht
      exact h.congr rfl rfl rfl rfl rfl h.heap h.queued (fun _ _ hm => by cases hm)
  · rename_i now client hmsg
    have hstop := h.stop client
    split at ht
    · rename_i s' hs'
      cases ht
      rw [hs'] at hstop
      exact hstop.congr rfl rfl rfl rfl rfl hstop.heap hstop.queued (fun _ _ hm => by cases hm)
    · rename_i s' hs'
      cases ht
      rw [hs'] at hstop
      exact hstop.nextExpire _
  · cases ht
    refine WellFormed.nextExpire ?_ _
    exact h.congr rfl rfl rfl rfl rfl h.heap h.queued h.popped

theorem WellFormed.pollTask {s t : LocTimerService} (h : WellFormed s)
    (ht : s.pollTask = some t) : WellFormed t := by
  obtain ⟨armed, polled, poll, queue, hqueue, rfl⟩ := pollTask_eq ht
  exact h.congr rfl rfl rfl rfl rfl h.heap (fun d hd => h.queued d (hqueue d hd)) h.popped

/-- Every step keeps the invariant. -/
theorem WellFormed.step {s t : LocTimerService} (h : WellFormed s) {a : Action}
    (ht : step s a = some t) : WellFormed t := by
  cases a with
  | tick now =>
      simp only [LocTimerService.step] at ht
      split at ht
      · rename_i hnow
        cases ht
        exact h.tick hnow.1 hnow.2
      · cases ht
  | start timer ms => cases ht; exact h.start timer ms
  | stop timer => cases ht; exact h.stop timer
  | pollTask => exact h.pollTask ht
  | msgTask => exact h.msgTask ht

/-- The invariant holds in every reachable state. -/
theorem wellFormed_of_reachable {s : LocTimerService} (h : Reachable s) : WellFormed s := by
  obtain ⟨actions, hrun⟩ := h
  exact run_invariant (P := WellFormed) (fun _ _ _ hs ht => hs.step ht) actions init s
    wellFormed_init hrun

end LocTimerService

end LocHal.Util
