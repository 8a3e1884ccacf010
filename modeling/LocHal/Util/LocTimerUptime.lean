import LocHal.Util.LocTimerLife

/-!
# `LocHal.Util.LocTimerUptime`: the timer heap of a short uptime

While the clock is below `uptimeLimit`, which is 2^31 seconds less the largest delay, no two
deadlines are 2^31 seconds apart. Then `ranks` is the order of the deadlines, every step of the
`MsgTask` keeps the heap ordered, and `MsgTimerRemove` finds the delegate it looks for. So every
delegate lives and dies once in such a run (`along_oneLife_of_uptime`).

The rank of two deadlines is the difference of their seconds, cut to an `int`. Below the limit the
cut changes nothing (`rankTimes_le_zero_iff`), so the ranks are a total preorder
(`WellFormed.totalPreorder`) and the lemmas on an ordered heap apply. A change of a delegate that
keeps its deadline leaves the ranks as they are (`ranks_update`), and the delegate of a start is not
in the heap yet.
-/

set_option autoImplicit false

namespace LocHal.Util

open LabelledRun PriorityQueue

namespace Timespec

theorem le_total (a b : Timespec) : a ≤ b ∨ b ≤ a := by
  rw [le_def, le_def]
  omega

/-- Below 2^31 seconds the rank is the order of the times. -/
theorem rankTimes_le_zero_iff {a b : Timespec} (ha : a.Reading) (hb : b.Reading)
    (halim : a.tvSec < 2147483648) (hblim : b.tvSec < 2147483648) : rankTimes a b ≤ 0 ↔ b ≤ a := by
  obtain ⟨ha0, ha1, ha2, -⟩ := ha
  obtain ⟨hb0, hb1, hb2, -⟩ := hb
  -- neither difference is cut
  have hsec : (b.tvSec - a.tvSec).bmod (2 ^ 32) = b.tvSec - a.tvSec :=
    Int.bmod_eq_of_le (by omega) (by omega)
  have hnsec : (b.tvNsec - a.tvNsec).bmod (2 ^ 32) = b.tvNsec - a.tvNsec :=
    Int.bmod_eq_of_le (by omega) (by omega)
  rw [le_def]
  unfold rankTimes intOfLong
  dsimp only
  rw [hsec, hnsec]
  split <;> omega

end Timespec

namespace LocTimerService

open LocHeapNode (RankLe)

variable {s t : LocTimerService}

/-- A deadline that was set before this clock reading is less than 2^31 seconds. -/
def uptimeLimit : Int := 2143188680

/-- The deadlines rank as they are ordered. -/
theorem WellFormed.totalPreorder (h : s.WellFormed) (hnow : s.now.tvSec < uptimeLimit) :
    TotalPreorder (RankLe s.ranks) := by
  have hlim : ∀ d, (s.delegate d).mFutureTime.tvSec < 2147483648 := fun d => by
    have hd := (h.deadline d).2
    unfold uptimeLimit at hnow
    omega
  have hle : ∀ a b, RankLe s.ranks a b ↔
      (s.delegate b).mFutureTime ≤ (s.delegate a).mFutureTime := fun a b =>
    Timespec.rankTimes_le_zero_iff (h.deadline a).1 (h.deadline b).1 (hlim a) (hlim b)
  refine ⟨fun a b => ?_, fun a b c => ?_⟩
  · rw [hle, hle]
    exact Timespec.le_total _ _
  · rw [hle, hle, hle]
    exact fun hba hcb => Timespec.le_trans hcb hba

/-- The clock is below the limit and the heap is ordered. -/
structure Early (s : LocTimerService) : Prop where
  wellFormed : s.WellFormed
  now : s.now.tvSec < uptimeLimit
  ordered : s.mTree.Ordered s.ranks

theorem early_init : init.Early where
  wellFormed := wellFormed_init
  now := by decide
  ordered := trivial

/-- The same clock and deadlines, and the heap after one of its operations. -/
theorem Early.next (h : s.Early) (hwf : t.WellFormed) (hnow : t.now = s.now)
    (hranks : t.ranks = s.ranks) (htree : t.mTree.Ordered s.ranks) : t.Early where
  wellFormed := hwf
  now := hnow ▸ h.now
  ordered := hranks ▸ htree

/-- A pop keeps the order. -/
theorem Early.ordered_pop (h : s.Early) {d : DelegateId} {tree : LocHeapNode DelegateId}
    (hpop : s.mTree.pop s.ranks = some (d, tree)) : tree.Ordered s.ranks := by
  rw [LocHeapNode.eq_of_pop hpop]
  exact h.ordered.popSwapped (h.wellFormed.totalPreorder h.now) d

theorem Early.finishExpire (h : s.Early) : s.finishExpire.Early := by
  have hwf := h.wellFormed.finishExpire
  obtain ⟨armed, polled, heq⟩ := finishExpire_eq s
  rw [heq] at hwf ⊢
  exact h.next hwf rfl rfl h.ordered

/-- The start of the expire loop. -/
theorem Early.procExpire (h : s.Early) (hwf : s.procExpire.WellFormed) : s.procExpire.Early := by
  unfold LocTimerService.procExpire at hwf ⊢
  split at hwf
  · rename_i d tree hpop
    exact h.next hwf rfl rfl (h.ordered_pop hpop)
  · exact h.finishExpire

/-- A later round of it. -/
theorem Early.nextExpire (h : s.Early) (timerOfNow : Timespec) :
    (s.nextExpire timerOfNow).Early := by
  have hwf := h.wellFormed.nextExpire timerOfNow
  unfold LocTimerService.nextExpire at hwf ⊢
  split
  · exact h.finishExpire
  · split
    · exact h.finishExpire
    · split
      · rename_i d tree hpop
        exact h.next (h.wellFormed.popTimer (LocHeapNode.elements_pop hpop) timerOfNow) rfl rfl
          (h.ordered_pop hpop)
      · exact h.finishExpire

/-- A start puts nothing in the heap, and the new delegate is not in it. -/
theorem Early.start (h : s.Early) (timer : TimerId) (ms : UInt32) :
    (s.start timer ms).1.Early := by
  have hwf := h.wellFormed.start timer ms
  unfold LocTimerService.start at hwf ⊢
  split
  · exact h
  · rename_i hnone
    rw [hnone] at hwf
    refine ⟨hwf, h.now, h.ordered.congr fun a ha b hb => ?_⟩
    have hane : a ≠ s.allocated := Nat.ne_of_lt (h.wellFormed.heap a ha)
    have hbne : b ≠ s.allocated := Nat.ne_of_lt (h.wellFormed.heap b hb)
    unfold ranks sendMsg
    dsimp only
    rw [Function.update_of_ne hane, Function.update_of_ne hbne]

/-- An update of a delegate that keeps its deadline keeps the ranks. -/
theorem ranks_update {d : DelegateId} {new : LocTimerDelegate}
    (hdelegate : t.delegate = Function.update s.delegate d new)
    (hnew : new.mFutureTime = (s.delegate d).mFutureTime) : t.ranks = s.ranks := by
  have hsame : ∀ e, (t.delegate e).mFutureTime = (s.delegate e).mFutureTime := fun e => by
    rw [hdelegate]
    by_cases hed : e = d
    · rw [hed, Function.update_self, hnew]
    · rw [Function.update_of_ne hed]
  funext a b
  unfold ranks
  rw [hsame, hsame]

theorem Early.stop (h : s.Early) (timer : TimerId) : (s.stop timer).1.Early := by
  have hwf := h.wellFormed.stop timer
  cases htimer : s.mTimer timer with
  | none =>
      rw [stop_of_not_running htimer]
      exact h
  | some d =>
      obtain ⟨queue, -, -, heq⟩ := stop_eq htimer
      rw [heq] at hwf ⊢
      exact h.next hwf rfl (ranks_update rfl rfl) h.ordered

/-- `MsgTimerRemove` keeps the order, whether it finds the delegate or not. -/
theorem Early.procRemove (h : s.Early) (d : DelegateId) : (s.procRemove d).Early := by
  have hwf := h.wellFormed.procRemove d
  obtain ⟨tree, armed, polled, hremove, heq⟩ := procRemove_heap s d
  rw [heq] at hwf ⊢
  refine h.next hwf rfl (ranks_update rfl rfl) ?_
  rcases hremove with hremove | ⟨-, rfl⟩
  · exact h.ordered.remove (h.wellFormed.totalPreorder h.now) hremove
  · exact h.ordered

/-- A message is taken from the queue. -/
theorem Early.dequeue (h : s.Early) {m : TimerMsg} {queue : List TimerMsg}
    (hqueue : s.queue = m :: queue) : Early { s with queue := queue } :=
  h.next (h.wellFormed.dequeue hqueue) rfl rfl h.ordered

/-- A step of the `MsgTask`. -/
theorem Early.msgTask (h : s.Early) (ht : s.msgTask = some t) : t.Early := by
  have hwf := h.wellFormed.msgTask ht
  unfold LocTimerService.msgTask at ht
  split at ht
  · split at ht
    · cases ht
    · rename_i d queue hqueue
      cases ht
      obtain ⟨armed, polled, heq⟩ := procPush_eq { s with queue := queue } d
      rw [heq] at hwf ⊢
      exact h.next hwf rfl rfl (h.ordered.push (h.wellFormed.totalPreorder h.now) d)
    · rename_i d queue hqueue
      cases ht
      exact (h.dequeue hqueue).procRemove d
    · rename_i queue hqueue
      cases ht
      exact (h.dequeue hqueue).procExpire hwf
  · split at ht
    · cases ht
      exact h.nextExpire _
    · cases ht
      exact h.next hwf rfl rfl h.ordered
  · rename_i now client _
    have hstop := h.stop client
    split at ht
    · rename_i s' heq
      cases ht
      rw [heq] at hstop
      exact hstop.next hwf rfl rfl hstop.ordered
    · rename_i s' heq
      cases ht
      rw [heq] at hstop
      exact hstop.nextExpire _
  · cases ht
    have hfired : ∀ fired, Early { s with fired := fired } := fun fired =>
      h.next (h.wellFormed.congr rfl rfl rfl rfl rfl h.wellFormed.heap h.wellFormed.queued
        h.wellFormed.popped) rfl rfl h.ordered
    exact (hfired _).nextExpire _

/-- Every step before the limit keeps the heap ordered. -/
theorem Early.step (h : s.Early) {a : Action}
    (hlimit : ∀ now, a = .tick now → now.tvSec < uptimeLimit) (ht : step s a = some t) :
    t.Early := by
  have hwf := h.wellFormed.step ht
  cases a with
  | tick now =>
      simp only [LocTimerService.step] at ht
      split at ht
      · cases ht
        exact ⟨hwf, hlimit now rfl, h.ordered⟩
      · cases ht
  | start timer ms => cases ht; exact h.start timer ms
  | stop timer => cases ht; exact h.stop timer
  | pollTask =>
      obtain ⟨armed, polled, poll, queue, -, rfl⟩ := pollTask_eq ht
      exact h.next hwf rfl rfl h.ordered
  | msgTask => exact h.msgTask ht

end LocTimerService

namespace TimerLife

open LocTimerService (Action Early uptimeLimit)

/-- In an ordered heap nothing hides a delegate. -/
theorem removeFinds_of_early {s : TimerLife} (h : s.service.Early) (a : Action) :
    s.RemoveFinds a := fun _ _ _ _ _ hmem =>
  LocHeapNode.remove_ne_none_iff.mp (LocHeapNode.remove_ne_none h.ordered hmem)

/-- Delegates live and die once in every run that ends before the limit. -/
theorem along_oneLife_of_uptime {actions : List Action}
    (hlimit : ∀ now, .tick now ∈ actions → now.tvSec < uptimeLimit) :
    Along step OneLife init actions := by
  have hguarded : Guarded step (fun _ a => ∀ now, a = .tick now → now.tvSec < uptimeLimit)
      init actions := guarded_of_forall _ fun a ha _ now heq => hlimit now (heq ▸ ha)
  refine hguarded.along (I := fun s => s.Live ∧ s.service.Early) (fun s hs => hs.1.oneLife) ?_
    actions init ⟨live_init, LocTimerService.early_init⟩
  rintro s a s' ⟨hlive, hearly⟩ hok hs'
  refine ⟨hlive.step (removeFinds_of_early hearly a) hs', ?_⟩
  obtain ⟨t, ht, rfl⟩ := Option.map_eq_some_iff.mp hs'
  exact hearly.step hok ht

end TimerLife

end LocHal.Util
