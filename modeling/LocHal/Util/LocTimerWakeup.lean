import LocHal.Util.LocTimerInvariant

/-!
# `LocHal.Util.LocTimerWakeup`: the timer service never loses a wakeup

The poll thread disarms the fd and takes it out of the poll set without a lock, so the
`MsgTask` can arm it again in between, and `updateSoonestTime` skips the kernel calls when the
top of the heap is unchanged. `WakeupPending` is what keeps this sound: while the heap is
nonempty, the fd is in the poll set and armed with the deadline of the top, or the poll thread
is handling an expiry, or a `MsgTimerExpire` is queued.

* `procPush_wakeup` and `procRemove_wakeup`: the two heap messages keep it. A push arms the fd
  when the top changes, because the new top outranks the old one; a removal arms it when the
  removed delegate was the top.
* `finishExpire_armed`: the end of the expire loop arms the fd whenever the heap is nonempty,
  so nothing is needed of the states inside the loop.
* `wakeupPending_of_reachable`: the invariant over every interleaving, in every state in which
  the `MsgTask` is between two messages. The runs in which an expiry is processed without
  interruption are among them. `ranks` enters the proof as an arbitrary comparison, so its
  `int` conversion does not matter here.
-/

set_option autoImplicit false

namespace LocHal.Util

open LabelledRun

namespace LocTimerService

/-- The fd is in the poll set and armed with the deadline of the top of the heap. -/
def Armed (s : LocTimerService) : Prop :=
  s.polled = true ∧ ∃ top, s.mTree.peek = some top ∧
    s.armed = some (s.delegate top).mFutureTime

/-- The poll thread is handling an expiry, or a `MsgTimerExpire` is queued. -/
def ExpiryInFlight (s : LocTimerService) : Prop :=
  s.poll ≠ .epollWait ∨ .timerExpire ∈ s.queue

/-- A nonempty heap has a wakeup ahead of it. -/
def WakeupPending (s : LocTimerService) : Prop :=
  s.mTree ≠ .null → Armed s ∨ ExpiryInFlight s

/-- `updateSoonestTime` with a top that counts as changed arms the fd. The deadline is a clock
reading, so `timerfd_settime` does not take it for a disarm. -/
theorem armed_updateSoonestTime {s : LocTimerService} {priorTop : Option DelegateId}
    {top : DelegateId} (hread : (s.delegate top).mFutureTime.Reading)
    (htop : s.mTree.peek = some top) (hprior : priorTop ≠ some top)
    (hrank : ∀ prior, priorTop = some prior → LocHeapNode.outRanks s.ranks top prior = true) :
    Armed (s.updateSoonestTime priorTop) := by
  have hset : Armed (s.addPoll.timerfdSettime (s.delegate top).mFutureTime) := by
    refine ⟨rfl, top, htop, ?_⟩
    simp only [timerfdSettime, if_neg hread.2.2.2]
    rfl
  unfold updateSoonestTime
  rw [htop]
  dsimp only
  rw [if_pos (Ne.symm hprior)]
  cases priorTop with
  | none => exact hset
  | some prior =>
      dsimp only
      rw [if_pos (hrank prior rfl)]
      exact hset

/-- `updateSoonestTime` with an unchanged top does nothing. -/
theorem updateSoonestTime_same (s : LocTimerService) :
    s.updateSoonestTime s.mTree.peek = s := by
  unfold updateSoonestTime
  dsimp only
  rw [if_neg (by simp)]

/-- The end of the expire loop arms the fd for the top that is left. -/
theorem finishExpire_armed {s : LocTimerService} (h : WellFormed s) :
    WakeupPending s.finishExpire := by
  intro hne
  left
  obtain ⟨armed, polled, heq⟩ := updateSoonestTime_eq s none
  have htree : s.finishExpire.mTree = s.mTree := by rw [finishExpire, heq]
  rw [htree] at hne
  obtain ⟨top, htop⟩ := Option.ne_none_iff_exists'.mp (mt LocHeapNode.peek_eq_none.mp hne)
  exact armed_updateSoonestTime (h.deadline top).1 htop (by simp) (by simp)

/-- A client call queues messages and leaves the fd, the heap and the poll thread alone. -/
theorem WakeupPending.client {s t : LocTimerService} (h : WakeupPending s)
    (hpeek : t.mTree.peek = s.mTree.peek) (hpolled : t.polled = s.polled)
    (harmed : t.armed = s.armed) (hpoll : t.poll = s.poll)
    (hqueue : ∀ m ∈ s.queue, m ∈ t.queue)
    (hdeadline : ∀ d ∈ s.mTree.peek, (t.delegate d).mFutureTime = (s.delegate d).mFutureTime) :
    WakeupPending t := by
  intro hne
  have hne' : s.mTree ≠ .null := by
    rw [ne_eq, ← LocHeapNode.peek_eq_none, ← hpeek, LocHeapNode.peek_eq_none]
    exact hne
  rcases h hne' with ⟨hp, top, htop, hr⟩ | hflight | hflight
  · exact Or.inl ⟨hpolled.trans hp, top, hpeek.trans htop,
      harmed.trans (hr.trans (congrArg some (hdeadline top htop).symm))⟩
  · exact Or.inr (Or.inl (hpoll ▸ hflight))
  · exact Or.inr (Or.inr (hqueue _ hflight))

/-- A state with the same fd, poll thread and queue, the same deadlines and the same top keeps
the wakeup. -/
theorem WakeupPending.congr {s t : LocTimerService} (h : WakeupPending s)
    (hpeek : t.mTree.peek = s.mTree.peek) (hpolled : t.polled = s.polled)
    (harmed : t.armed = s.armed) (hpoll : t.poll = s.poll) (hqueue : t.queue = s.queue)
    (hdeadline : ∀ d, (t.delegate d).mFutureTime = (s.delegate d).mFutureTime) :
    WakeupPending t :=
  h.client hpeek hpolled harmed hpoll (fun _ hm => hqueue.symm ▸ hm) fun d _ => hdeadline d

/-- `updateSoonestTime` against an unchanged top keeps the wakeup. -/
theorem WakeupPending.updateSame {s : LocTimerService} (h : WakeupPending s)
    {tree : LocHeapNode DelegateId} (hpeek : tree.peek = s.mTree.peek) :
    WakeupPending (updateSoonestTime { s with mTree := tree } s.mTree.peek) := by
  have hfd := updateSoonestTime_same { s with mTree := tree }
  rw [show LocHeapNode.peek _ = s.mTree.peek from hpeek] at hfd
  rw [hfd]
  exact h.congr hpeek rfl rfl rfl rfl (fun _ => rfl)

/-- `MsgTimerPush` keeps the wakeup. When the top changes, the new delegate is the top and
outranks the old one. -/
theorem procPush_wakeup {s : LocTimerService} (hs : WellFormed s) (d : DelegateId)
    (h : WakeupPending s) : WakeupPending (s.procPush d) := by
  have hpeek := LocHeapNode.peek_push s.ranks s.mTree d
  by_cases hsame : (s.mTree.push s.ranks d).peek = s.mTree.peek
  · exact h.updateSame hsame
  · intro _
    refine Or.inl ?_
    cases htop : s.mTree.peek with
    | none =>
        rw [htop] at hpeek
        unfold procPush
        rw [htop]
        exact armed_updateSoonestTime (hs.deadline d).1 hpeek (by simp) (by simp)
    | some prior =>
        rw [htop] at hpeek hsame
        dsimp only at hpeek
        have hrank : LocHeapNode.outRanks s.ranks d prior = true := by
          by_contra hrank
          rw [if_neg hrank] at hpeek
          exact hsame hpeek
        rw [if_pos hrank] at hpeek
        unfold procPush
        rw [htop]
        refine armed_updateSoonestTime (hs.deadline d).1 hpeek ?_ ?_
        · exact fun heq => hsame (hpeek.trans heq.symm)
        · intro p hp
          cases hp
          exact hrank

/-- `MsgTimerRemove` keeps the wakeup. The fd is armed again when the removed delegate was the
top; a removal below the top, or of a delegate that is no longer in the heap, keeps the top. -/
theorem procRemove_wakeup {s : LocTimerService} (hs : WellFormed s) (d : DelegateId)
    (h : WakeupPending s) : WakeupPending (s.procRemove d) := by
  -- the mark of the deletion is not read by `WakeupPending`
  have hmark : ∀ t : LocTimerService, WakeupPending t → WakeupPending { t with
      delegate := Function.update t.delegate d { t.delegate d with deleted := true } } :=
    fun t ht => ht.congr rfl rfl rfl rfl rfl (fun e => by
      dsimp only
      by_cases hed : e = d
      · subst hed; rw [Function.update_self]
      · rw [Function.update_of_ne hed])
  unfold procRemove
  dsimp only
  refine hmark _ ?_
  cases hrem : s.mTree.remove s.ranks d with
  | none =>
      dsimp only [Option.map_none]
      split
      · rename_i hnone
        rw [← hnone]
        exact h.updateSame rfl
      · exact h
  | some r =>
      obtain ⟨y, tree⟩ := r
      cases LocHeapNode.eq_of_remove hrem
      dsimp only [Option.map_some]
      split
      · intro hne
        obtain ⟨armed, polled, heq⟩ := updateSoonestTime_eq { s with mTree := tree } none
        rw [heq] at hne
        obtain ⟨top, htop⟩ := Option.ne_none_iff_exists'.mp
          (mt LocHeapNode.peek_eq_none.mp (show tree ≠ .null from hne))
        exact Or.inl (armed_updateSoonestTime (hs.deadline top).1 htop (by simp) (by simp))
      · rename_i hnot
        exact h.congr (LocHeapNode.peek_of_remove hrem hnot) rfl rfl rfl rfl (fun _ => rfl)

/-! ### Every interleaving -/

/-- The invariant: between two messages, a nonempty heap has a wakeup ahead of it. -/
def WakeupInv (s : LocTimerService) : Prop :=
  WellFormed s ∧ (s.msg = .receive → WakeupPending s)

/-- A later round of the expire loop pops a delegate, or ends the loop and arms the fd. -/
theorem nextExpire_wakeup {s : LocTimerService} (hs : WellFormed s) (timerOfNow : Timespec)
    (hmsg : (s.nextExpire timerOfNow).msg = .receive) :
    WakeupPending (s.nextExpire timerOfNow) := by
  rcases nextExpire_cases s timerOfNow with heq | ⟨timer, tree, -, -, -, heq⟩
  · rw [heq]
    exact finishExpire_armed hs
  · rw [heq] at hmsg
    cases hmsg

theorem WakeupPending.start {s : LocTimerService} (hs : WellFormed s) (h : WakeupPending s)
    (timer : TimerId) (ms : UInt32) : WakeupPending (s.start timer ms).1 := by
  unfold LocTimerService.start
  cases s.mTimer timer with
  | some d => exact h
  | none =>
      refine h.client rfl rfl rfl rfl (fun m hm => List.mem_append_left _ hm) (fun d hd => ?_)
      have hlt := hs.heap d (LocHeapNode.mem_elements_of_peek hd)
      simp only [sendMsg]
      rw [Function.update_of_ne (Nat.ne_of_lt hlt)]

theorem WakeupPending.stop {s : LocTimerService} (h : WakeupPending s) (timer : TimerId) :
    WakeupPending (s.stop timer).1 := by
  cases htimer : s.mTimer timer with
  | none => rw [stop_of_not_running htimer]; exact h
  | some d =>
      obtain ⟨queue, -, hqueue, heq⟩ := stop_eq htimer
      rw [heq]
      refine h.client rfl rfl rfl rfl hqueue (fun e _ => ?_)
      dsimp only
      by_cases hed : e = d
      · subst hed; rw [Function.update_self]
      · rw [Function.update_of_ne hed]

/-- A step of the poll thread ends with an expiry in flight. -/
theorem pollTask_wakeup {s t : LocTimerService} (ht : s.pollTask = some t) :
    WakeupPending t := by
  refine fun _ => Or.inr ?_
  unfold LocTimerService.pollTask at ht
  split at ht
  · split at ht
    · split at ht
      · cases ht; exact Or.inl (by simp)
      · cases ht
    · cases ht
  · cases ht; exact Or.inl (by simp)
  · cases ht; exact Or.inl (by simp)
  · cases ht; exact Or.inr (by simp [sendMsg])

/-- A step of the `MsgTask` that ends between two messages. Taking a push or a removal off the
queue leaves a queued `MsgTimerExpire` in it. -/
theorem msgTask_wakeup {s t : LocTimerService} (h : WakeupInv s) (ht : s.msgTask = some t)
    (hmsg : t.msg = .receive) : WakeupPending t := by
  obtain ⟨hs, hwake⟩ := h
  unfold LocTimerService.msgTask at ht
  split at ht
  · rename_i hreceive
    have hpending := hwake hreceive
    -- taking another message leaves the expiry in flight
    have hdequeue : ∀ m queue, s.queue = m :: queue → m ≠ .timerExpire →
        WakeupPending { s with queue := queue } := by
      intro m queue hq hm hne
      rcases hpending hne with harmed | hflight | hflight
      · exact Or.inl harmed
      · exact Or.inr (Or.inl hflight)
      · rw [hq, List.mem_cons] at hflight
        rcases hflight with heq | hflight
        · exact absurd heq.symm hm
        · exact Or.inr (Or.inr hflight)
    split at ht
    · cases ht
    · rename_i d queue hq
      cases ht
      exact procPush_wakeup (hs.dequeue hq) d (hdequeue _ _ hq (by simp))
    · rename_i d queue hq
      cases ht
      exact procRemove_wakeup (hs.dequeue hq) d (hdequeue _ _ hq (by simp))
    · rename_i queue hq
      cases ht
      -- without a due timer the task arms the next one; else it goes on with the timer
      rcases procExpire_cases { s with queue := queue } with heq | ⟨timer, tree, -, -, heq⟩
      · rw [heq]
        exact finishExpire_armed (hs.dequeue hq)
      · rw [heq] at hmsg
        cases hmsg
  · split at ht
    · cases ht
      exact nextExpire_wakeup hs _ hmsg
    · cases ht
      cases hmsg
  · rename_i now client _
    have hstop := hs.stop client
    split at ht
    · cases ht
      cases hmsg
    · rename_i s' hs'
      cases ht
      rw [hs'] at hstop
      exact nextExpire_wakeup hstop _ hmsg
  · rename_i timerOfNow client _
    cases ht
    have hfired : ∀ fired, WellFormed { s with fired := fired } := fun _ =>
      hs.congr rfl rfl rfl rfl rfl hs.heap hs.queued hs.popped
    exact nextExpire_wakeup (hfired _) _ hmsg

/-- Every step keeps the invariant. -/
theorem WakeupInv.step {s t : LocTimerService} (h : WakeupInv s) {a : Action}
    (ht : step s a = some t) : WakeupInv t := by
  refine ⟨h.1.step ht, fun hmsg => ?_⟩
  cases a with
  | tick now =>
      simp only [LocTimerService.step] at ht
      split at ht
      · cases ht
        exact (h.2 hmsg).congr rfl rfl rfl rfl rfl (fun _ => rfl)
      · cases ht
  | start timer ms =>
      cases ht
      refine WakeupPending.start h.1 (h.2 ?_) timer ms
      unfold LocTimerService.start at hmsg
      cases hrun : s.mTimer timer <;> rw [hrun] at hmsg <;> exact hmsg
  | stop timer =>
      cases ht
      refine WakeupPending.stop (h.2 ?_) timer
      cases hrun : s.mTimer timer with
      | none => rw [stop_of_not_running hrun] at hmsg; exact hmsg
      | some d =>
          obtain ⟨queue, -, -, heq⟩ := stop_eq hrun
          rw [heq] at hmsg
          exact hmsg
  | pollTask => exact pollTask_wakeup ht
  | msgTask => exact msgTask_wakeup h ht hmsg

/-- No wakeup is lost: for every interleaving of client calls, poll thread and `MsgTask`, in
every reachable state in which the `MsgTask` is between two messages and the heap is nonempty,
the fd is in the poll set and armed with the deadline of the top, or the poll thread is
handling an expiry, or a `MsgTimerExpire` is queued. -/
theorem wakeupPending_of_reachable (s : LocTimerService) (hreach : Reachable s)
    (hmsg : s.msg = .receive) (hheap : s.mTree ≠ .null) :
    (s.polled = true ∧ ∃ top, s.mTree.peek = some top ∧
      s.armed = some (s.delegate top).mFutureTime) ∨
    s.poll ≠ .epollWait ∨ .timerExpire ∈ s.queue := by
  obtain ⟨actions, hrun⟩ := hreach
  have hinit : WakeupInv init := ⟨wellFormed_init, fun _ hne => absurd rfl hne⟩
  exact (run_invariant (P := WakeupInv) (fun _ _ _ hs ht => hs.step ht) actions init s
    hinit hrun).2 hmsg hheap

/-- The state after one timer is started and pushed. -/
theorem wakeupPending_of_pushed :
    ∃ s, run step init [.start 0 100, .msgTask] = some s ∧ s.mTree ≠ .null ∧
      ((s.polled = true ∧ ∃ top, s.mTree.peek = some top ∧
        s.armed = some (s.delegate top).mFutureTime) ∨
      s.poll ≠ .epollWait ∨ .timerExpire ∈ s.queue) :=
  ⟨_, rfl, by decide,
    wakeupPending_of_reachable _ ⟨[.start 0 100, .msgTask], rfl⟩ rfl (by decide)⟩

end LocTimerService

end LocHal.Util
