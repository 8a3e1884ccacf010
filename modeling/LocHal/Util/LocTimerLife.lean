import LocHal.Lib.LastUse
import LocHal.Util.LocHeapQueue
import LocHal.Util.LocTimerClient

/-!
# `LocHal.Util.LocTimerLife`: how a timer delegate lives and dies

`TimerLife` is the timer service with a history: the starts and stops of the clients that succeed,
the calls of `LocTimerDelegate::expire` and of `timeOutCallback`, and the messages that the
`MsgTask` has processed. Messages are processed in the order in which they are sent, so the ones
that were sent are those of the history and then those of the queue (`sent`).

`OneLife` is the property: a delegate is pushed once, removed once when it is stopped or has
expired, deleted once at most and not in the heap any more when it is; and the starts of a timer
are its callbacks, its stops and the run that is under way.

`along_oneLife_iff` is the exact condition. `LocHeapNode::remove` skips the subtrees below a node
that the searched object outranks. `ranks` cuts a difference of seconds to 32 bits, so with
deadlines 2^31 seconds apart the heap can hold an object below one that it outranks: then
`MsgTimerRemove` deletes the delegate and leaves it in the heap.

The proof has one invariant for each of the three things that the history counts, and `Live` puts
them together. `Messages` relates the messages that were sent to the delegates: a push for each
delegate that was allocated, a removal for each one that is no longer in its container, and the push
comes first. `HeapOk` relates the heap to the processed messages: what is in it was pushed, and a
deleted delegate was removed and is not in it. `History` and `Balanced` relate the entries of a
timer to its state.

Most steps concern one of them only and leave the others as they are (`Live.quiet`,
`Live.expireFrame`). The removal is the step with the condition: `LocHeapNode::remove` finds a
delegate exactly if it outranks no delegate above it (`Visible`), and a delegate that is not found
stays in the heap after its deletion, which `notInHeap` forbids.

The condition is about the ranks in the heap. `along_oneLife_of_uptime` is the corollary for a
device that has been up for less than 67.9 years: all deadlines are then close enough, and the
condition holds by itself.
-/

set_option autoImplicit false

namespace LocHal.Util

open LabelledRun

/-- One entry of the history. `stop` is a stop by the client; `expire` is the call of
`LocTimerDelegate::expire`. -/
inductive LifeEntry where
  | start (timer : TimerId) (d : DelegateId)
  | stop (timer : TimerId) (d : DelegateId)
  | expire (d : DelegateId)
  | callback (timer : TimerId)
  | proc (m : TimerMsg)
  deriving DecidableEq, Repr

namespace LifeEntry

/-- The processed message. -/
def msg : LifeEntry → Option TimerMsg
  | .proc m => some m
  | _ => none

/-- The entry is a successful start of the timer. -/
def starts (timer : TimerId) : LifeEntry → Bool
  | .start timer' _ => timer' = timer
  | _ => false

/-- The entry is a successful stop of the timer by its client. -/
def stops (timer : TimerId) : LifeEntry → Bool
  | .stop timer' _ => timer' = timer
  | _ => false

end LifeEntry

/-- The service with its history. `expiring` is the delegate whose `expire` is about to call
`client->stop()`. -/
structure TimerLife where
  service : LocTimerService
  expiring : Option DelegateId
  log : List LifeEntry

namespace TimerLife

open LocTimerService (Action)

/-- Nothing has happened. -/
def init : TimerLife := ⟨.init, none, []⟩

/-- What a step adds to the history. -/
def entries (s : LocTimerService) : Action → List LifeEntry
  | .tick _ => []
  | .start timer _ => if s.mTimer timer = none then [.start timer s.allocated] else []
  | .stop timer => (s.mTimer timer).elim [] fun d => [.stop timer d]
  | .pollTask => []
  | .msgTask =>
      match s.msg with
      | .receive => s.queue.head?.elim [] fun m => [.proc m]
      | .readClient _ d => [.expire d]
      | .stopClient _ _ => []
      | .callback _ client => [.callback client]

/-- The delegate whose `expire` is under way after a step. -/
def nextExpiring (s : TimerLife) : Action → Option DelegateId
  | .msgTask =>
      match s.service.msg with
      | .readClient _ d => if (s.service.delegate d).mClient = none then none else some d
      | _ => none
  | _ => s.expiring

/-- One step. -/
def step (s : TimerLife) (a : Action) : Option TimerLife :=
  (s.service.step a).map fun t =>
    { service := t, expiring := s.nextExpiring a, log := s.log ++ entries s.service a }

/-- The messages that were processed, in order. -/
def processed (s : TimerLife) : List TimerMsg := s.log.filterMap LifeEntry.msg

/-- The messages that were sent, in order. -/
def sent (s : TimerLife) : List TimerMsg := s.processed ++ s.service.queue

/-- The timer is running, or it has expired and is about to be called back. -/
def underWay (s : TimerLife) (timer : TimerId) : Nat :=
  (if s.service.mTimer timer = none then 0 else 1) + if s.service.InCallback timer then 1 else 0

/-- What every delegate and every timer goes through. A start pushes its delegate (`pushed`), and a
stop or an expiry removes it, unless the expiry is under way (`removed`, `stopped`, `expired`). A
processed removal deletes, so there is one at most (`deleted`), and the delegate is not in the heap
any more (`notInHeap`). The last field counts for each timer: every start ends with a callback or a
stop, or is under way. -/
structure OneLife (s : TimerLife) : Prop where
  pushed : ∀ timer d, .start timer d ∈ s.log → s.sent.count (.timerPush d) = 1
  removed : ∀ d, s.sent.count (.timerRemove d) ≤ 1
  stopped : ∀ timer d, .stop timer d ∈ s.log → s.sent.count (.timerRemove d) = 1
  expired : ∀ d, .expire d ∈ s.log → s.expiring ≠ some d → s.sent.count (.timerRemove d) = 1
  deleted : ∀ d, s.processed.count (.timerRemove d) ≤ 1
  notInHeap : ∀ d, (s.service.delegate d).deleted = true → d ∉ s.service.mTree.elements
  starts : ∀ timer, s.log.countP (LifeEntry.starts timer)
    = s.log.count (.callback timer) + s.log.countP (LifeEntry.stops timer) + s.underWay timer

/-- The condition on one step: when `MsgTimerRemove` is processed for a delegate in the heap, the
delegate outranks no delegate above it. Only then the search of `remove` gets to it. A delegate that
is not in the heap has been popped by an expiry, and there is nothing to find. No other step removes
a delegate from the heap and deletes it. -/
def RemoveFinds (s : TimerLife) (a : Action) : Prop :=
  a = .msgTask → s.service.msg = .receive → ∀ d queue, s.service.queue = .timerRemove d :: queue →
    d ∈ s.service.mTree.elements → s.service.mTree.Visible s.service.ranks d

/-! ### The messages -/

/-- The messages that were sent against the delegates. -/
structure Messages (allocated : Nat) (delegate : DelegateId → LocTimerDelegate)
    (sent : List TimerMsg) : Prop where
  push : ∀ d, sent.count (.timerPush d) = if d < allocated then 1 else 0
  container : ∀ d, (delegate d).mContainer = (delegate d).mClient.isSome
  remove : ∀ d, sent.count (.timerRemove d)
    = if d < allocated ∧ (delegate d).mContainer = false then 1 else 0
  order : ∀ d, LastUse (fun before => .timerPush d ∈ before) (fun m => m = .timerPush d)
    (.timerRemove d) sent

namespace Messages

variable {allocated : Nat} {delegate delegate' : DelegateId → LocTimerDelegate}
  {sent : List TimerMsg}

theorem lt_succ_iff_of_ne {d n : Nat} (hne : d ≠ n) : d < n + 1 ↔ d < n :=
  ⟨fun hlt => Nat.lt_of_le_of_ne (Nat.le_of_lt_succ hlt) hne, Nat.lt_succ_of_lt⟩

/-- One more `MsgTimerExpire`. -/
theorem sendExpire (h : Messages allocated delegate sent) :
    Messages allocated delegate (sent ++ [.timerExpire]) where
  push := fun d => by
    rw [List.count_append, h.push]
    simp
  container := h.container
  remove := fun d => by
    rw [List.count_append, h.remove]
    simp
  order := fun d => (h.order d).concat (fun _ => by simp) (by simp)

/-- The deletion of a delegate leaves its pointers as they are. -/
theorem congr (h : Messages allocated delegate sent)
    (hcontainer : ∀ d, (delegate' d).mContainer = (delegate d).mContainer)
    (hclient : ∀ d, (delegate' d).mClient = (delegate d).mClient) :
    Messages allocated delegate' sent where
  push := h.push
  container := fun d => by rw [hcontainer, hclient, h.container]
  remove := fun d => by rw [hcontainer, h.remove]
  order := h.order

/-- A start. -/
theorem start (h : Messages allocated delegate sent) (timer : TimerId) (futureTime : Timespec) :
    Messages (allocated + 1)
      (Function.update delegate allocated ⟨some timer, futureTime, true, false⟩)
      (sent ++ [.timerPush allocated]) where
  push := fun d => by
    rw [List.count_append, h.push, List.count_singleton]
    by_cases hd : d = allocated
    · simp [hd]
    · have hlt := lt_succ_iff_of_ne hd
      simp [hlt, Ne.symm hd]
  container := fun d => by
    by_cases hd : d = allocated
    · subst hd
      rw [Function.update_self]
      rfl
    · rw [Function.update_of_ne hd, h.container]
  remove := fun d => by
    rw [List.count_append, h.remove]
    by_cases hd : d = allocated
    · subst hd
      simp
    · have hlt := lt_succ_iff_of_ne hd
      rw [Function.update_of_ne hd]
      simp [hlt]
  order := fun d => by
    refine (h.order d).concat (fun hmem => ⟨?_, by simp⟩) (by simp)
    -- a delegate with a `MsgTimerRemove` was allocated before
    have hcount := h.remove d
    have hpos := List.count_pos_iff.mpr hmem
    have hlt : d < allocated := by
      by_contra hge
      rw [if_neg (fun hand => hge hand.1)] at hcount
      omega
    have hne : allocated ≠ d := Nat.ne_of_gt hlt
    simpa using hne

/-- `destroyLocked`. -/
theorem destroyLocked (h : Messages allocated delegate sent) {d : DelegateId} (hd : d < allocated)
    (hcontainer : (delegate d).mContainer = true) :
    Messages allocated
      (Function.update delegate d { delegate d with mClient := none, mContainer := false })
      (sent ++ [.timerRemove d]) where
  push := fun e => by
    rw [List.count_append, h.push]
    simp
  container := fun e => by
    by_cases hed : e = d
    · subst hed
      rw [Function.update_self]
      rfl
    · rw [Function.update_of_ne hed, h.container]
  remove := fun e => by
    rw [List.count_append, h.remove, List.count_singleton]
    by_cases hed : e = d
    · subst hed
      simp [hd, hcontainer]
    · rw [Function.update_of_ne hed]
      simp [Ne.symm hed]
  order := fun e => by
    refine (h.order e).concat (fun hmem => ⟨by simp, fun heq => ?_⟩) fun heq => ?_
    · -- the delegate has not been removed before
      cases heq
      have hcount := h.remove d
      rw [if_neg (by simp [hcontainer]), List.count_eq_zero] at hcount
      exact hcount hmem
    · cases heq
      rw [← List.count_pos_iff, h.push, if_pos hd]
      exact Nat.one_pos

end Messages

/-! ### The heap -/

/-- The objects of the heap against the processed messages. -/
structure HeapOk (elements : Multiset DelegateId) (delegate : DelegateId → LocTimerDelegate)
    (processed : List TimerMsg) : Prop where
  count : ∀ d, elements.count d ≤ processed.count (.timerPush d)
  deleted : ∀ d, (delegate d).deleted = true → .timerRemove d ∈ processed ∧ d ∉ elements

namespace HeapOk

variable {elements elements' : Multiset DelegateId}
  {delegate delegate' : DelegateId → LocTimerDelegate} {processed processed' : List TimerMsg}

/-- Objects leave the heap, and more messages are processed. -/
theorem shrink (h : HeapOk elements delegate processed) (hle : elements' ≤ elements)
    (hdeleted : ∀ d, (delegate' d).deleted = (delegate d).deleted) :
    HeapOk elements' delegate' (processed ++ processed') where
  count := fun d => by
    rw [List.count_append]
    exact (Multiset.count_le_of_le d hle).trans ((h.count d).trans (Nat.le_add_right _ _))
  deleted := fun d hd => by
    obtain ⟨hremove, hnot⟩ := h.deleted d (hdeleted d ▸ hd)
    exact ⟨List.mem_append_left _ hremove, fun hmem => hnot (Multiset.mem_of_le hle hmem)⟩

/-- `MsgTimerPush` of a delegate that is not deleted. -/
theorem push (h : HeapOk elements delegate processed) {d : DelegateId}
    (hd : (delegate d).deleted = false) :
    HeapOk (d ::ₘ elements) delegate (processed ++ [.timerPush d]) where
  count := fun e => by
    rw [Multiset.count_cons, List.count_append, List.count_singleton]
    have hcount := h.count e
    by_cases hed : e = d
    · subst hed
      simpa using hcount
    · simpa [hed] using hcount.trans (Nat.le_add_right _ _)
  deleted := fun e he => by
    obtain ⟨hremove, hnot⟩ := h.deleted e he
    refine ⟨List.mem_append_left _ hremove, fun hmem => ?_⟩
    rcases Multiset.mem_cons.mp hmem with rfl | hmem
    · rw [hd] at he
      cases he
    · exact hnot hmem

/-- `MsgTimerRemove` deletes a delegate that has left the heap. -/
theorem remove (h : HeapOk elements delegate processed) {d : DelegateId}
    (hle : elements' ≤ elements) (hd : d ∉ elements') :
    HeapOk elements' (Function.update delegate d { delegate d with deleted := true })
      (processed ++ [.timerRemove d]) := by
  have hshrink : HeapOk elements' delegate (processed ++ [.timerRemove d]) :=
    h.shrink hle fun _ => rfl
  refine ⟨hshrink.count, fun e he => ?_⟩
  by_cases hed : e = d
  · subst hed
    exact ⟨by simp, hd⟩
  · rw [Function.update_of_ne hed] at he
    exact hshrink.deleted e he

end HeapOk

end TimerLife

namespace LocTimerService

variable {s t : LocTimerService}

/-- The `MsgTask` is before a callback. -/
theorem inCallback_iff {now : Timespec} {client timer : TimerId}
    (h : s.msg = .callback now client) : s.InCallback timer ↔ client = timer := by
  unfold InCallback
  rw [h]

/-- The `MsgTask` is elsewhere. -/
theorem not_inCallback (h : ∀ now client, s.msg ≠ .callback now client) (timer : TimerId) :
    ¬ s.InCallback timer := by
  unfold InCallback
  cases hmsg : s.msg with
  | callback now client => exact absurd hmsg (h now client)
  | _ => exact id

/-- What the expire loop leaves alone: it takes delegates out of the heap, and it is through or has
popped one more. -/
structure ExpireFrame (s t : LocTimerService) : Prop where
  mTimer : t.mTimer = s.mTimer
  delegate : t.delegate = s.delegate
  allocated : t.allocated = s.allocated
  queue : t.queue = s.queue
  heap : t.mTree.elements ≤ s.mTree.elements
  msg : t.msg = .receive ∨ ∃ now d, t.msg = .readClient now d ∧ d ∈ s.mTree.elements

theorem ExpireFrame.not_inCallback (h : ExpireFrame s t)
    (timer : TimerId) : ¬ t.InCallback timer := by
  unfold InCallback
  rcases h.msg with hmsg | ⟨now, d, hmsg, -⟩ <;> rw [hmsg] <;> exact id

theorem expireFrame_finishExpire (s : LocTimerService) : ExpireFrame s s.finishExpire := by
  obtain ⟨armed, polled, h⟩ := finishExpire_eq s
  rw [h]
  exact ⟨rfl, rfl, rfl, rfl, le_refl _, Or.inl rfl⟩

/-- A popped delegate. -/
theorem expireFrame_pop {d : DelegateId} {tree : LocHeapNode DelegateId} {now : Timespec}
    (h : s.mTree.elements = d ::ₘ tree.elements) :
    ExpireFrame s { s with mTree := tree, msg := .readClient now d } :=
  ⟨rfl, rfl, rfl, rfl, h ▸ Multiset.le_cons_self _ _,
    Or.inr ⟨now, d, rfl, h ▸ Multiset.mem_cons_self d _⟩⟩

theorem expireFrame_nextExpire (s : LocTimerService) (timerOfNow : Timespec) :
    ExpireFrame s (s.nextExpire timerOfNow) := by
  rcases nextExpire_cases s timerOfNow with h | ⟨d, tree, -, htree, -, h⟩ <;> rw [h]
  · exact expireFrame_finishExpire s
  · exact expireFrame_pop htree

theorem expireFrame_procExpire (s : LocTimerService) : ExpireFrame s s.procExpire := by
  rcases procExpire_cases s with h | ⟨d, tree, -, htree, h⟩ <;> rw [h]
  · exact expireFrame_finishExpire s
  · exact expireFrame_pop htree

/-- `MsgTimerRemove` takes the delegate out of the heap if it finds it, and deletes it. -/
theorem procRemove_heap (s : LocTimerService) (d : DelegateId) :
    ∃ tree armed polled, (s.mTree.remove s.ranks d = some (d, tree) ∨
        s.mTree.remove s.ranks d = none ∧ tree = s.mTree) ∧
      s.procRemove d = { s with
        mTree := tree, armed := armed, polled := polled
        delegate := Function.update s.delegate d { s.delegate d with deleted := true } } := by
  unfold procRemove
  dsimp only
  cases hremove : s.mTree.remove s.ranks d with
  | none =>
      dsimp only
      split
      · obtain ⟨armed, polled, h⟩ := updateSoonestTime_eq s none
        rw [h]
        exact ⟨s.mTree, armed, polled, Or.inr ⟨rfl, rfl⟩, rfl⟩
      · exact ⟨s.mTree, s.armed, s.polled, Or.inr ⟨rfl, rfl⟩, rfl⟩
  | some removed =>
      obtain ⟨e, tree⟩ := removed
      obtain rfl := LocHeapNode.eq_of_remove hremove
      dsimp only
      split
      · obtain ⟨armed, polled, h⟩ := updateSoonestTime_eq { s with mTree := tree } none
        rw [h]
        exact ⟨tree, armed, polled, Or.inl rfl, rfl⟩
      · exact ⟨tree, s.armed, s.polled, Or.inl rfl, rfl⟩

/-- A `MsgTimerRemove` at the head of the queue is processed. -/
theorem msgTask_remove {d : DelegateId} {queue : List TimerMsg} (hmsg : s.msg = .receive)
    (hqueue : s.queue = .timerRemove d :: queue) :
    s.msgTask = some (procRemove { s with queue := queue } d) := by
  unfold msgTask
  rw [hmsg]
  dsimp only
  rw [hqueue]

/-- A stop of a running timer. -/
theorem stop_running {timer : TimerId} {d : DelegateId} (hd : s.mTimer timer = some d)
    (hcontainer : (s.delegate d).mContainer = true) :
    s.stop timer = ({ s with
      mTimer := Function.update s.mTimer timer none
      delegate := Function.update s.delegate d
        { s.delegate d with mClient := none, mContainer := false }
      queue := s.queue ++ [.timerRemove d] }, true) := by
  unfold LocTimerService.stop destroyLocked
  rw [hd]
  dsimp only
  rw [if_pos hcontainer]
  rfl

/-- The poll thread sends one `MsgTimerExpire` at most, and does not run the `MsgTask`. -/
theorem pollTask_queue (ht : s.pollTask = some t) :
    (t.queue = s.queue ∨ t.queue = s.queue ++ [.timerExpire]) ∧ t.msg = s.msg := by
  unfold LocTimerService.pollTask at ht
  split at ht
  · split at ht
    · split at ht
      · cases ht
        exact ⟨Or.inl rfl, rfl⟩
      · cases ht
    · cases ht
  · cases ht
    exact ⟨Or.inl rfl, rfl⟩
  · cases ht
    exact ⟨Or.inl rfl, rfl⟩
  · cases ht
    exact ⟨Or.inr rfl, rfl⟩

end LocTimerService

namespace TimerLife

open LocTimerService (Action ExpireFrame WellFormed)

variable {s : TimerLife} {t : LocTimerService} {es : List LifeEntry}

/-! ### The history -/

/-- The delegate has been stopped. -/
def Done (s : LocTimerService) (d : DelegateId) : Prop :=
  d < s.allocated ∧ (s.delegate d).mContainer = false

/-- The entries of the history against the delegates. -/
structure History (s : TimerLife) : Prop where
  started : ∀ timer d, .start timer d ∈ s.log → d < s.service.allocated
  stopped : ∀ timer d, .stop timer d ∈ s.log → Done s.service d
  expired : ∀ d, .expire d ∈ s.log → s.expiring ≠ some d → Done s.service d
  expiring : ∀ d, s.expiring = some d → d < s.service.allocated ∧
    ∃ now client, s.service.msg = .stopClient now client ∧
      ((s.service.delegate d).mClient = some client ∨ (s.service.delegate d).mClient = none)

/-- More entries. What is done stays done, and the delegate whose `expire` was under way is done
when another one is. -/
theorem History.next (h : s.History) {expiring : Option DelegateId}
    (hallocated : s.service.allocated ≤ t.allocated) (hdone : ∀ d, Done s.service d → Done t d)
    (hstarted : ∀ timer d, .start timer d ∈ es → d < t.allocated)
    (hstopped : ∀ timer d, .stop timer d ∈ es → Done t d)
    (hexpired : ∀ d, .expire d ∈ es → expiring ≠ some d → Done t d)
    (hkeep : ∀ d, s.expiring = some d → expiring = some d ∨ Done t d)
    (hexpiring : ∀ d, expiring = some d → d < t.allocated ∧
      ∃ now client, t.msg = .stopClient now client ∧
        ((t.delegate d).mClient = some client ∨ (t.delegate d).mClient = none)) :
    History ⟨t, expiring, s.log ++ es⟩ where
  started := fun timer d hmem => by
    rcases List.mem_append.mp hmem with hmem | hmem
    · exact Nat.lt_of_lt_of_le (h.started timer d hmem) hallocated
    · exact hstarted timer d hmem
  stopped := fun timer d hmem => by
    rcases List.mem_append.mp hmem with hmem | hmem
    · exact hdone d (h.stopped timer d hmem)
    · exact hstopped timer d hmem
  expired := fun d hmem hne => by
    rcases List.mem_append.mp hmem with hmem | hmem
    · by_cases hexp : s.expiring = some d
      · exact (hkeep d hexp).resolve_left hne
      · exact hdone d (h.expired d hmem hexp)
    · exact hexpired d hmem hne
  expiring := hexpiring

/-- The starts of every timer are accounted for. -/
def Balanced (s : TimerLife) : Prop :=
  ∀ timer, s.log.countP (LifeEntry.starts timer)
    = s.log.count (.callback timer) + s.log.countP (LifeEntry.stops timer) + s.underWay timer

theorem inCallback_congr {s t : LocTimerService} (hmsg : t.msg = s.msg) (timer : TimerId) :
    t.InCallback timer ↔ s.InCallback timer := by
  unfold LocTimerService.InCallback
  rw [hmsg]

theorem underWay_eq {timer : TimerId} {d : Option DelegateId} {p : Prop} [Decidable p]
    (hmTimer : s.service.mTimer timer = d) (hcallback : s.service.InCallback timer ↔ p) :
    s.underWay timer = (if d = none then 0 else 1) + if p then 1 else 0 := by
  subst hmTimer
  unfold underWay
  rw [if_congr hcallback rfl rfl]

/-- What is under way depends on the timer and the callback. -/
theorem underWay_congr {t : TimerLife} {timer : TimerId}
    (hmTimer : t.service.mTimer timer = s.service.mTimer timer)
    (hcallback : t.service.InCallback timer ↔ s.service.InCallback timer) :
    t.underWay timer = s.underWay timer := by
  unfold underWay
  rw [hmTimer]
  exact congrArg _ (if_congr hcallback rfl rfl)

/-- More entries. -/
theorem Balanced.next (h : s.Balanced) {expiring : Option DelegateId}
    (hes : ∀ timer, es.countP (LifeEntry.starts timer) + s.underWay timer
      = es.count (.callback timer) + es.countP (LifeEntry.stops timer)
        + underWay ⟨t, expiring, s.log ++ es⟩ timer) :
    Balanced ⟨t, expiring, s.log ++ es⟩ := by
  intro timer
  have hbefore := h timer
  have hmore := hes timer
  dsimp only
  rw [List.countP_append, List.countP_append, List.count_append]
  omega

/-- A timer starts or stops to run. -/
theorem Balanced.update (h : s.Balanced) {expiring : Option DelegateId} {timer : TimerId}
    {d : Option DelegateId} (hmTimer : t.mTimer = Function.update s.service.mTimer timer d)
    (hcallback : ∀ other, t.InCallback other ↔ s.service.InCallback other)
    (hself : es.countP (LifeEntry.starts timer) + (if s.service.mTimer timer = none then 0 else 1)
      = es.count (.callback timer) + es.countP (LifeEntry.stops timer)
        + if d = none then 0 else 1)
    (hothers : ∀ other, other ≠ timer → es.countP (LifeEntry.starts other)
      = es.count (.callback other) + es.countP (LifeEntry.stops other)) :
    Balanced ⟨t, expiring, s.log ++ es⟩ := by
  refine h.next fun other => ?_
  by_cases hother : other = timer
  · subst hother
    have hnew : t.mTimer other = d := by rw [hmTimer, Function.update_self]
    unfold underWay
    dsimp only
    rw [hnew, if_congr (hcallback other) rfl rfl]
    omega
  · have hsame : underWay ⟨t, expiring, s.log ++ es⟩ other = s.underWay other :=
      underWay_congr (by rw [hmTimer, Function.update_of_ne hother]) (hcallback other)
    have hes := hothers other hother
    omega

/-- What the steps that meet the condition keep. -/
structure Live (s : TimerLife) : Prop where
  wellFormed : s.service.WellFormed
  messages : Messages s.service.allocated s.service.delegate s.sent
  heap : HeapOk s.service.mTree.elements s.service.delegate s.processed
  history : s.History
  balanced : s.Balanced

theorem live_init : init.Live where
  wellFormed := LocTimerService.wellFormed_init
  messages :=
    { push := fun d => rfl
      container := fun d => rfl
      remove := fun d => rfl
      order := fun d => lastUse_nil }
  heap :=
    { count := fun d => Nat.le_refl 0
      deleted := fun d hd => by cases hd }
  history :=
    { started := fun timer d hmem => by cases hmem
      stopped := fun timer d hmem => by cases hmem
      expired := fun d hmem => by cases hmem
      expiring := fun d hd => by cases hd }
  balanced := fun timer => rfl

theorem Live.oneLife (h : s.Live) : s.OneLife where
  pushed := fun timer d hmem => by
    rw [h.messages.push, if_pos (h.history.started timer d hmem)]
  removed := fun d => by
    rw [h.messages.remove]
    split <;> simp
  stopped := fun timer d hmem => by
    rw [h.messages.remove]
    exact if_pos (h.history.stopped timer d hmem)
  expired := fun d hmem hne => by
    rw [h.messages.remove]
    exact if_pos (h.history.expired d hmem hne)
  deleted := fun d => by
    have hremove := h.messages.remove d
    unfold sent at hremove
    rw [List.count_append] at hremove
    split at hremove <;> omega
  notInHeap := fun d hd => (h.heap.deleted d hd).2
  starts := h.balanced

/-! ### The steps outside the `MsgTask` -/

/-- A step that changes the clock, the fd or the poll thread. -/
theorem Live.quiet (h : s.Live) (hwf : t.WellFormed) (hmTimer : t.mTimer = s.service.mTimer)
    (hdelegate : t.delegate = s.service.delegate) (hallocated : t.allocated = s.service.allocated)
    (htree : t.mTree = s.service.mTree)
    (hqueue : t.queue = s.service.queue ∨ t.queue = s.service.queue ++ [.timerExpire])
    (hmsg : t.msg = s.service.msg) : Live ⟨t, s.expiring, s.log ++ []⟩ where
  wellFormed := hwf
  messages := by
    unfold sent processed
    rw [List.append_nil, hallocated, hdelegate]
    dsimp only
    rcases hqueue with hqueue | hqueue
    · rw [hqueue]
      exact h.messages
    · rw [hqueue, ← List.append_assoc]
      exact h.messages.sendExpire
  heap := by
    unfold processed
    rw [List.append_nil, htree, hdelegate]
    exact h.heap
  history := by
    refine h.history.next (Nat.le_of_eq hallocated.symm) ?_ nofun nofun nofun
      (fun d hd => Or.inl hd) ?_
    · unfold Done
      rw [hallocated, hdelegate]
      exact fun d hd => hd
    · rw [hallocated, hdelegate, hmsg]
      exact h.history.expiring
  balanced := by
    refine h.balanced.next fun timer => ?_
    have hsame : underWay ⟨t, s.expiring, s.log ++ []⟩ timer = s.underWay timer :=
      underWay_congr (congrFun hmTimer timer) (inCallback_congr hmsg timer)
    rw [hsame]
    simp

/-- A start of a timer that is not running. -/
theorem Live.start (h : s.Live) {timer : TimerId} (ms : UInt32)
    (htimer : s.service.mTimer timer = none) :
    Live ⟨(s.service.start timer ms).1, s.expiring,
      s.log ++ [.start timer s.service.allocated]⟩ := by
  have hwf := h.wellFormed.start timer ms
  -- the new delegate takes an id that no earlier one has
  have hfresh : ∀ d, d < s.service.allocated → d ≠ s.service.allocated := fun d => Nat.ne_of_lt
  unfold LocTimerService.start at hwf ⊢
  rw [htimer] at hwf ⊢
  dsimp only [LocTimerService.sendMsg] at hwf ⊢
  have hprocessed : ∀ t expiring, processed ⟨t, expiring,
      s.log ++ [.start timer s.service.allocated]⟩ = s.processed := by
    intro t expiring
    unfold processed
    rw [List.filterMap_append]
    exact List.append_nil _
  -- what was done before stays done
  have hdone : ∀ d, Done s.service d → ∀ new, d < s.service.allocated + 1 ∧
      (Function.update s.service.delegate s.service.allocated new d).mContainer = false := by
    intro d hd new
    rw [Function.update_of_ne (hfresh d hd.1)]
    exact ⟨Nat.lt_succ_of_lt hd.1, hd.2⟩
  refine ⟨hwf, ?_, ?_, ?_, h.balanced.update rfl (fun _ => Iff.rfl) ?_ ?_⟩
  · unfold sent
    rw [hprocessed]
    dsimp only
    rw [← List.append_assoc]
    exact h.messages.start timer _
  · rw [hprocessed]
    refine ⟨h.heap.count, fun d hd => ?_⟩
    by_cases hnew : d = s.service.allocated
    · dsimp only at hd
      rw [hnew, Function.update_self] at hd
      cases hd
    · dsimp only at hd
      rw [Function.update_of_ne hnew] at hd
      exact h.heap.deleted d hd
  · refine h.history.next (Nat.le_succ _) (fun d hd => hdone d hd _) ?_ (by simp) (by simp)
      (fun d hd => Or.inl hd) fun d hd => ?_
    · intro timer' d hmem
      cases List.mem_singleton.mp hmem
      exact Nat.lt_succ_self _
    · obtain ⟨hlt, hclient⟩ := h.history.expiring d hd
      refine ⟨Nat.lt_succ_of_lt hlt, ?_⟩
      dsimp only
      rw [Function.update_of_ne (hfresh d hlt)]
      exact hclient
  · simp [htimer, LifeEntry.starts, LifeEntry.stops]
  · intro other hne
    simp [LifeEntry.starts, LifeEntry.stops, hne.symm]

/-- The delegates after `destroyLocked`. -/
def destroyed (s : LocTimerService) (d : DelegateId) : DelegateId → LocTimerDelegate :=
  Function.update s.delegate d { s.delegate d with mClient := none, mContainer := false }

/-- A running timer has a delegate in its container. -/
theorem Live.running (h : s.Live) {timer : TimerId} {d : DelegateId}
    (hd : s.service.mTimer timer = some d) :
    d < s.service.allocated ∧ (s.service.delegate d).mContainer = true := by
  obtain ⟨hlt, hclient, -⟩ := h.wellFormed.running timer d hd
  rw [h.messages.container, hclient]
  exact ⟨hlt, rfl⟩

/-- What is destroyed is done, and what is done stays done. -/
theorem done_destroyed {d : DelegateId} (hlt : d < s.service.allocated) (e : DelegateId)
    (he : e = d ∨ Done s.service e) :
    e < s.service.allocated ∧ (destroyed s.service d e).mContainer = false := by
  unfold destroyed
  by_cases hed : e = d
  · subst hed
    rw [Function.update_self]
    exact ⟨hlt, rfl⟩
  · rw [Function.update_of_ne hed]
    exact he.resolve_left hed

/-- The messages and the heap after a stop. -/
theorem Live.destroy (h : s.Live) {timer : TimerId} {d : DelegateId}
    (hd : s.service.mTimer timer = some d) :
    Messages s.service.allocated (destroyed s.service d)
        (s.processed ++ (s.service.queue ++ [.timerRemove d])) ∧
      HeapOk s.service.mTree.elements (destroyed s.service d) s.processed := by
  obtain ⟨hlt, hcontainer⟩ := h.running hd
  constructor
  · rw [← List.append_assoc]
    exact h.messages.destroyLocked hlt hcontainer
  · refine ⟨h.heap.count, fun e he => h.heap.deleted e ?_⟩
    unfold destroyed at he
    by_cases hed : e = d
    · subst hed
      rwa [Function.update_self] at he
    · rwa [Function.update_of_ne hed] at he

/-- A stop of a running timer by its client. -/
theorem Live.stop (h : s.Live) {timer : TimerId} {d : DelegateId}
    (hd : s.service.mTimer timer = some d) :
    Live ⟨(s.service.stop timer).1, s.expiring, s.log ++ [.stop timer d]⟩ := by
  obtain ⟨hlt, hcontainer⟩ := h.running hd
  obtain ⟨hmessages, hheap⟩ := h.destroy hd
  have hdone := done_destroyed (s := s) hlt
  have hprocessed : ∀ t expiring, processed ⟨t, expiring, s.log ++ [.stop timer d]⟩
      = s.processed := by
    intro t expiring
    unfold processed
    rw [List.filterMap_append]
    exact List.append_nil _
  have hwf := h.wellFormed.stop timer
  rw [LocTimerService.stop_running hd hcontainer] at hwf ⊢
  refine ⟨hwf, ?_, ?_, ?_, h.balanced.update rfl (fun _ => Iff.rfl) ?_ ?_⟩
  · unfold sent
    rw [hprocessed]
    exact hmessages
  · rw [hprocessed]
    exact hheap
  · refine h.history.next (Nat.le_refl _) (fun e he => hdone e (Or.inr he)) (by simp) ?_ (by simp)
      (fun e he => Or.inl he) fun e he => ?_
    · intro timer' e hmem
      cases List.mem_singleton.mp hmem
      exact hdone d (Or.inl rfl)
    · obtain ⟨helt, now, client, hmsg, hclient⟩ := h.history.expiring e he
      refine ⟨helt, now, client, hmsg, ?_⟩
      dsimp only
      by_cases hed : e = d
      · subst hed
        right
        rw [Function.update_self]
      · rw [Function.update_of_ne hed]
        exact hclient
  · simp [hd, LifeEntry.starts, LifeEntry.stops]
  · intro other hne
    simp [LifeEntry.starts, LifeEntry.stops, hne.symm]

/-! ### The steps of the `MsgTask` -/

/-- A step after which nothing is about to be stopped: no `expire` is under way, and the delegate of
the last one is done. -/
theorem History.settle (h : s.History) (hallocated : t.allocated = s.service.allocated)
    (hcontainer : ∀ d, Done s.service d → (t.delegate d).mContainer = false)
    (hexpired : ∀ d, .expire d ∈ es ∨ s.expiring = some d → Done t d)
    (hes : ∀ timer d, .start timer d ∉ es ∧ .stop timer d ∉ es) :
    History ⟨t, none, s.log ++ es⟩ := by
  refine h.next (Nat.le_of_eq hallocated.symm) (fun d hd => ⟨hallocated ▸ hd.1, hcontainer d hd⟩)
    (fun timer d hmem => absurd hmem (hes timer d).1)
    (fun timer d hmem => absurd hmem (hes timer d).2) (fun d hmem _ => hexpired d (Or.inl hmem))
    (fun d hd => Or.inr (hexpired d (Or.inr hd))) nofun

/-- The `MsgTask` is not about to stop a timer. -/
theorem History.not_expiring (h : s.History)
    (hmsg : ∀ now client, s.service.msg ≠ .stopClient now client) (d : DelegateId) :
    s.expiring ≠ some d := by
  intro hd
  obtain ⟨-, now, client, heq, -⟩ := h.expiring d hd
  exact hmsg now client heq

/-- The expire loop goes on. -/
theorem Live.expireFrame (h : s.Live) (hframe : ExpireFrame s.service t) (hwf : t.WellFormed)
    (hexpired : ∀ d, .expire d ∈ es ∨ s.expiring = some d → Done s.service d)
    (hes : ∀ e ∈ es, e.msg = none ∧ (∀ timer d, e ≠ .start timer d ∧ e ≠ .stop timer d))
    (hcallback : ∀ timer, es.count (.callback timer)
      = if s.service.InCallback timer then 1 else 0) :
    Live ⟨t, none, s.log ++ es⟩ := by
  -- the entries of an expiry process no message of the queue
  have hprocessed : processed ⟨t, none, s.log ++ es⟩ = s.processed := by
    unfold processed
    rw [List.filterMap_append, List.filterMap_eq_nil_iff.mpr fun e he => (hes e he).1,
      List.append_nil]
  have hdone : ∀ d, Done s.service d → Done t d := fun d hd => by
    unfold Done
    rw [hframe.allocated, hframe.delegate]
    exact hd
  refine ⟨hwf, ?_, ?_, ?_, h.balanced.next fun timer => ?_⟩
  · unfold sent
    rw [hprocessed, hframe.allocated, hframe.delegate, hframe.queue]
    exact h.messages
  · rw [hprocessed, hframe.delegate]
    have hshrink : HeapOk t.mTree.elements s.service.delegate (s.processed ++ []) :=
      h.heap.shrink hframe.heap fun _ => rfl
    rwa [List.append_nil] at hshrink
  · refine h.history.settle hframe.allocated (fun d hd => (hdone d hd).2)
      (fun d hd => hdone d (hexpired d hd)) fun timer d => ⟨fun hmem => ?_, fun hmem => ?_⟩
    · exact ((hes _ hmem).2 timer d).1 rfl
    · exact ((hes _ hmem).2 timer d).2 rfl
  · -- nor does it start or stop a timer
    have hstarts : es.countP (LifeEntry.starts timer) = 0 := by
      rw [List.countP_eq_zero]
      intro e he
      cases e with
      | start timer' d => exact absurd rfl ((hes _ he).2 timer' d).1
      | _ => simp [LifeEntry.starts]
    have hstops : es.countP (LifeEntry.stops timer) = 0 := by
      rw [List.countP_eq_zero]
      intro e he
      cases e with
      | stop timer' d => exact absurd rfl ((hes _ he).2 timer' d).2
      | _ => simp [LifeEntry.stops]
    rw [hstarts, hstops, hcallback]
    unfold underWay
    dsimp only
    rw [hframe.mTimer, if_neg (hframe.not_inCallback timer)]
    omega

/-- A message of the queue that leaves the pointers of the delegates as they are. -/
theorem Live.proc (h : s.Live) {m : TimerMsg} {queue : List TimerMsg}
    (hmsg : s.service.msg = .receive) (hqueue : s.service.queue = m :: queue) (hwf : t.WellFormed)
    (htqueue : t.queue = queue) (hmTimer : t.mTimer = s.service.mTimer)
    (hallocated : t.allocated = s.service.allocated)
    (hcontainer : ∀ d, (t.delegate d).mContainer = (s.service.delegate d).mContainer)
    (hclient : ∀ d, (t.delegate d).mClient = (s.service.delegate d).mClient)
    (hheap : HeapOk t.mTree.elements t.delegate (s.processed ++ [m]))
    (hcallback : ∀ timer, ¬ t.InCallback timer) : Live ⟨t, none, s.log ++ [.proc m]⟩ := by
  have hprocessed : processed ⟨t, none, s.log ++ [.proc m]⟩ = s.processed ++ [m] := by
    unfold processed
    rw [List.filterMap_append]
    rfl
  have hexpiring : ∀ d, s.expiring ≠ some d := h.history.not_expiring fun now client heq => by
    rw [hmsg] at heq
    cases heq
  refine ⟨hwf, ?_, ?_, ?_, h.balanced.next fun timer => ?_⟩
  · unfold sent
    rw [hprocessed]
    dsimp only
    rw [hallocated, htqueue, List.append_assoc, List.singleton_append, ← hqueue]
    exact h.messages.congr hcontainer hclient
  · rw [hprocessed]
    exact hheap
  · refine h.history.settle hallocated (fun d hd => (hcontainer d).trans hd.2) ?_ (by simp)
    rintro d (hmem | hd)
    · cases List.mem_singleton.mp hmem
    · exact absurd hd (hexpiring d)
  · have hbefore := LocTimerService.not_inCallback (s := s.service) (by simp [hmsg]) timer
    have hsame : underWay ⟨t, none, s.log ++ [.proc m]⟩ timer = s.underWay timer :=
      underWay_congr (congrFun hmTimer timer) (iff_of_false (hcallback timer) hbefore)
    rw [hsame]
    simp [LifeEntry.starts, LifeEntry.stops]

/-- A delegate is not deleted before its `MsgTimerPush` has been processed. -/
theorem Live.not_deleted (h : s.Live) {d : DelegateId} {queue : List TimerMsg}
    (hqueue : s.service.queue = .timerPush d :: queue) :
    (s.service.delegate d).deleted = false := by
  rw [Bool.eq_false_iff]
  intro hdeleted
  obtain ⟨hremove, -⟩ := h.heap.deleted d hdeleted
  obtain ⟨before, after, hprocessed, -⟩ := List.eq_append_cons_of_mem hremove
  -- the push would stand after the remove
  obtain ⟨-, hafter⟩ := h.messages.order d before (after ++ .timerPush d :: queue) (by
    unfold sent
    rw [hprocessed, hqueue, List.append_assoc, List.cons_append])
  have hpush := hafter (.timerPush d) (by simp)
  simp at hpush

/-- A delegate stands in the heap once. -/
theorem Live.count_heap_le (h : s.Live) (d : DelegateId) :
    s.service.mTree.elements.count d ≤ 1 := by
  have hpush := h.messages.push d
  unfold sent at hpush
  rw [List.count_append] at hpush
  have hheap := h.heap.count d
  split at hpush <;> omega

/-- `MsgTimerPush`. -/
theorem Live.procPush (h : s.Live) {d : DelegateId} {queue : List TimerMsg}
    (hmsg : s.service.msg = .receive) (hqueue : s.service.queue = .timerPush d :: queue)
    (ht : LocTimerService.procPush { s.service with queue := queue } d = t) (hwf : t.WellFormed) :
    Live ⟨t, none, s.log ++ [.proc (.timerPush d)]⟩ := by
  obtain ⟨armed, polled, heq⟩ :=
    LocTimerService.procPush_eq { s.service with queue := queue } d
  rw [heq] at ht
  subst ht
  refine h.proc hmsg hqueue hwf rfl rfl rfl (fun _ => rfl) (fun _ => rfl) ?_
    (LocTimerService.not_inCallback (by simp [hmsg]))
  dsimp only
  rw [LocHeapNode.elements_push]
  exact h.heap.push (h.not_deleted hqueue)

/-- `MsgTimerRemove`, for a delegate that the search finds if it is there. -/
theorem Live.procRemove (h : s.Live) {d : DelegateId} {queue : List TimerMsg}
    (hmsg : s.service.msg = .receive) (hqueue : s.service.queue = .timerRemove d :: queue)
    (hfinds : d ∈ s.service.mTree.elements → s.service.mTree.Visible s.service.ranks d)
    (ht : LocTimerService.procRemove { s.service with queue := queue } d = t)
    (hwf : t.WellFormed) : Live ⟨t, none, s.log ++ [.proc (.timerRemove d)]⟩ := by
  obtain ⟨tree, armed, polled, hremove, heq⟩ :=
    LocTimerService.procRemove_heap { s.service with queue := queue } d
  rw [heq] at ht
  subst ht
  have hcount := h.count_heap_le d
  obtain ⟨hle, hgone⟩ : tree.elements ≤ s.service.mTree.elements ∧ d ∉ tree.elements := by
    rcases hremove with hremove | ⟨hremove, rfl⟩
    · -- the delegate stood in the heap once
      have helements := LocHeapNode.elements_remove hremove
      dsimp only at helements
      rw [helements, Multiset.count_cons_self] at hcount
      rw [helements]
      refine ⟨Multiset.le_cons_self _ _, fun hmem => ?_⟩
      have hpos := Multiset.count_pos.mpr hmem
      omega
    · exact ⟨le_refl _, fun hmem => LocHeapNode.remove_ne_none_iff.mpr (hfinds hmem) hremove⟩
  refine h.proc hmsg hqueue hwf rfl rfl rfl (fun e => ?_) (fun e => ?_) (h.heap.remove hle hgone)
    (LocTimerService.not_inCallback (by simp [hmsg]))
  · dsimp only
    by_cases hed : e = d
    · subst hed
      rw [Function.update_self]
    · rw [Function.update_of_ne hed]
  · dsimp only
    by_cases hed : e = d
    · subst hed
      rw [Function.update_self]
    · rw [Function.update_of_ne hed]

/-- `MsgTimerExpire` up to the first `timer->expire()`. -/
theorem Live.procExpire (h : s.Live) {queue : List TimerMsg} (hmsg : s.service.msg = .receive)
    (hqueue : s.service.queue = .timerExpire :: queue)
    (ht : LocTimerService.procExpire { s.service with queue := queue } = t)
    (hwf : t.WellFormed) : Live ⟨t, none, s.log ++ [.proc .timerExpire]⟩ := by
  have hframe := LocTimerService.expireFrame_procExpire { s.service with queue := queue }
  rw [ht] at hframe
  refine h.proc hmsg hqueue hwf hframe.queue hframe.mTimer hframe.allocated (fun d => ?_)
    (fun d => ?_) (h.heap.shrink hframe.heap fun d => ?_) hframe.not_inCallback
  all_goals rw [hframe.delegate]

/-- The read of `mClient`, and what follows when it is `NULL`. -/
theorem Live.readNull (h : s.Live) {now : Timespec} {d : DelegateId}
    (hmsg : s.service.msg = .readClient now d) (hclient : (s.service.delegate d).mClient = none)
    (hwf : (s.service.nextExpire now).WellFormed) :
    Live ⟨s.service.nextExpire now, none, s.log ++ [.expire d]⟩ := by
  refine h.expireFrame (LocTimerService.expireFrame_nextExpire _ _) hwf ?_ (by simp [LifeEntry.msg])
    fun timer => ?_
  · rintro e (hmem | he)
    · cases List.mem_singleton.mp hmem
      refine ⟨h.wellFormed.popped now d hmsg, ?_⟩
      rw [h.messages.container, hclient]
      rfl
    · refine absurd he (h.history.not_expiring (fun now' client heq => ?_) e)
      rw [hmsg] at heq
      cases heq
  · rw [if_neg (LocTimerService.not_inCallback (by simp [hmsg]) timer)]
    simp

/-- The read of an `mClient` that is set. -/
theorem Live.readSome (h : s.Live) {now : Timespec} {d : DelegateId} {client : TimerId}
    (hmsg : s.service.msg = .readClient now d)
    (hclient : (s.service.delegate d).mClient = some client)
    (hwf : WellFormed { s.service with msg := .stopClient now client }) :
    Live ⟨{ s.service with msg := .stopClient now client }, some d, s.log ++ [.expire d]⟩ := by
  have hprocessed : ∀ t expiring, processed ⟨t, expiring, s.log ++ [.expire d]⟩
      = s.processed := by
    intro t expiring
    unfold processed
    rw [List.filterMap_append]
    exact List.append_nil _
  refine ⟨hwf, ?_, ?_, ?_, h.balanced.next fun timer => ?_⟩
  · unfold sent
    rw [hprocessed]
    exact h.messages
  · rw [hprocessed]
    exact h.heap
  · refine h.history.next (Nat.le_refl _) (fun e he => he) (by simp) (by simp) ?_ ?_ ?_
    · intro e hmem hne
      cases List.mem_singleton.mp hmem
      exact absurd rfl hne
    · refine fun e he => absurd he (h.history.not_expiring (fun now' client heq => ?_) e)
      rw [hmsg] at heq
      cases heq
    · rintro e ⟨⟩
      exact ⟨h.wellFormed.popped now d hmsg, now, client, rfl, Or.inl hclient⟩
  · have hsame : underWay ⟨{ s.service with msg := .stopClient now client }, some d,
        s.log ++ [.expire d]⟩ timer = s.underWay timer := by
      exact underWay_congr rfl (iff_of_false (LocTimerService.not_inCallback (by simp) timer)
        (LocTimerService.not_inCallback (by simp [hmsg]) timer))
    rw [hsame]
    simp [LifeEntry.starts, LifeEntry.stops]

/-- `client->stop()` of a timer that is running. The delegate whose `expire` is under way is the one
of the timer, or it has been stopped before. -/
theorem Live.stopClient (h : s.Live) {now : Timespec} {client : TimerId} {d : DelegateId}
    (hmsg : s.service.msg = .stopClient now client) (hd : s.service.mTimer client = some d)
    (hwf : WellFormed { (s.service.stop client).1 with msg := .callback now client }) :
    Live ⟨{ (s.service.stop client).1 with msg := .callback now client }, none, s.log ++ []⟩ := by
  -- the expired timer is stopped before its callback
  obtain ⟨hlt, hcontainer⟩ := h.running hd
  obtain ⟨hmessages, hheap⟩ := h.destroy hd
  have hdone := done_destroyed (s := s) hlt
  rw [LocTimerService.stop_running hd hcontainer] at hwf ⊢
  refine ⟨hwf, ?_, ?_, ?_, h.balanced.next fun timer => ?_⟩
  · unfold sent processed
    rw [List.append_nil]
    exact hmessages
  · unfold processed
    rw [List.append_nil]
    exact hheap
  · refine h.history.settle rfl (fun e he => (hdone e (Or.inr he)).2) ?_ (by simp)
    rintro e (hmem | he)
    · cases hmem
    · refine hdone e ?_
      obtain ⟨helt, now', client', heq, hclient⟩ := h.history.expiring e he
      rw [hmsg] at heq
      cases heq
      rcases hclient with hclient | hclient
      · left
        have hrunning := h.wellFormed.client e client hclient
        exact Option.some.inj (hrunning.symm.trans hd)
      · right
        refine ⟨helt, ?_⟩
        rw [h.messages.container, hclient]
        rfl
  · have hbefore := LocTimerService.not_inCallback (s := s.service) (by simp [hmsg]) timer
    -- a callback is under way for this timer only
    by_cases htimer : timer = client
    · subst htimer
      rw [underWay_eq hd (iff_false_intro hbefore),
        underWay_eq (Function.update_self _ _ _) (LocTimerService.inCallback_iff rfl)]
      simp
    · rw [underWay_eq rfl (iff_false_intro hbefore),
        underWay_eq (Function.update_of_ne htimer _ _) (LocTimerService.inCallback_iff rfl),
        if_neg (Ne.symm htimer)]
      simp

/-- `client->stop()` of a timer that has been stopped in the meantime. -/
theorem Live.stopClient_false (h : s.Live) {now : Timespec} {client : TimerId}
    (hmsg : s.service.msg = .stopClient now client) (hnone : s.service.mTimer client = none)
    (hwf : (s.service.nextExpire now).WellFormed) :
    Live ⟨s.service.nextExpire now, none, s.log ++ []⟩ := by
  refine h.expireFrame (LocTimerService.expireFrame_nextExpire _ _) hwf ?_ (by simp)
    fun timer => ?_
  · rintro e (hmem | he)
    · cases hmem
    · obtain ⟨helt, now', client', heq, hclient⟩ := h.history.expiring e he
      rw [hmsg] at heq
      cases heq
      rcases hclient with hclient | hclient
      · have hrunning := h.wellFormed.client e client hclient
        rw [hnone] at hrunning
        cases hrunning
      · refine ⟨helt, ?_⟩
        rw [h.messages.container, hclient]
        rfl
  · rw [if_neg (LocTimerService.not_inCallback (by simp [hmsg]) timer)]
    simp

/-- `client->timeOutCallback()`. -/
theorem Live.callback (h : s.Live) {now : Timespec} {client : TimerId} {fired : List Firing}
    (hmsg : s.service.msg = .callback now client)
    (ht : LocTimerService.nextExpire { s.service with fired := fired } now = t)
    (hwf : t.WellFormed) : Live ⟨t, none, s.log ++ [.callback client]⟩ := by
  have hframe := LocTimerService.expireFrame_nextExpire { s.service with fired := fired } now
  rw [ht] at hframe
  refine h.expireFrame ⟨hframe.mTimer, hframe.delegate, hframe.allocated, hframe.queue, hframe.heap,
    hframe.msg⟩ hwf ?_ (by simp [LifeEntry.msg]) fun timer => ?_
  · rintro e (hmem | he)
    · cases List.mem_singleton.mp hmem
    · refine absurd he (h.history.not_expiring (fun now' client heq => ?_) e)
      rw [hmsg] at heq
      cases heq
  · rw [List.count_singleton, if_congr (LocTimerService.inCallback_iff hmsg) rfl rfl]
    by_cases htimer : client = timer
    · simp [htimer]
    · simp [htimer]

/-- A step of the `MsgTask`. -/
theorem Live.msgTask (h : s.Live) (hfinds : s.RemoveFinds .msgTask)
    (ht : s.service.msgTask = some t) :
    Live ⟨t, s.nextExpiring .msgTask, s.log ++ entries s.service .msgTask⟩ := by
  have hwf := h.wellFormed.msgTask ht
  unfold LocTimerService.msgTask at ht
  unfold nextExpiring entries
  dsimp only
  split at ht
  · rename_i hmsg
    rw [hmsg]
    dsimp only
    split at ht
    · cases ht
    · rename_i d queue hqueue
      rw [hqueue]
      -- the three messages of the queue
      exact h.procPush hmsg hqueue (Option.some.inj ht) hwf
    · rename_i d queue hqueue
      rw [hqueue]
      exact h.procRemove hmsg hqueue (hfinds rfl hmsg d queue hqueue) (Option.some.inj ht) hwf
    · rename_i queue hqueue
      rw [hqueue]
      exact h.procExpire hmsg hqueue (Option.some.inj ht) hwf
  · rename_i now d hmsg
    rw [hmsg]
    dsimp only
    split at ht
    · rename_i hclient
      cases ht
      rw [if_pos hclient]
      exact h.readNull hmsg hclient hwf
    · rename_i client hclient
      cases ht
      rw [if_neg (by simp [hclient])]
      exact h.readSome hmsg hclient hwf
  · rename_i now client hmsg
    rw [hmsg]
    dsimp only
    -- the timer may have been stopped since its client was read
    cases hrunning : s.service.mTimer client with
    | none =>
        rw [LocTimerService.stop_of_not_running hrunning] at ht
        cases ht
        exact h.stopClient_false hmsg hrunning hwf
    | some d =>
        obtain ⟨queue, -, -, hstop⟩ := LocTimerService.stop_eq hrunning
        have hbool : s.service.stop client = ((s.service.stop client).1, true) := by
          rw [hstop]
        rw [hbool] at ht
        cases ht
        exact h.stopClient hmsg hrunning hwf
  · rename_i now client hmsg
    rw [hmsg]
    exact h.callback hmsg (Option.some.inj ht) hwf

/-- A step that meets the condition. -/
theorem Live.step {s' : TimerLife} (h : s.Live) {a : Action} (hfinds : s.RemoveFinds a)
    (hs' : TimerLife.step s a = some s') : s'.Live := by
  unfold TimerLife.step at hs'
  rw [Option.map_eq_some_iff] at hs'
  obtain ⟨t, ht, rfl⟩ := hs'
  have hwf := h.wellFormed.step ht
  cases a with
  | tick now =>
      simp only [LocTimerService.step] at ht
      split at ht
      · cases ht
        exact h.quiet hwf rfl rfl rfl rfl (Or.inl rfl) rfl
      · cases ht
  | start timer ms =>
      cases ht
      unfold entries nextExpiring
      dsimp only
      cases htimer : s.service.mTimer timer with
      | none =>
          rw [if_pos rfl]
          exact h.start ms htimer
      | some d =>
          have hsame : s.service.start timer ms = (s.service, false) := by
            unfold LocTimerService.start
            rw [htimer]
          rw [if_neg (by simp), hsame]
          exact h.quiet h.wellFormed rfl rfl rfl rfl (Or.inl rfl) rfl
  | stop timer =>
      cases ht
      unfold entries nextExpiring
      dsimp only
      cases htimer : s.service.mTimer timer with
      | none =>
          rw [LocTimerService.stop_of_not_running htimer]
          exact h.quiet h.wellFormed rfl rfl rfl rfl (Or.inl rfl) rfl
      | some d => exact h.stop htimer
  | pollTask =>
      obtain ⟨armed, polled, poll, queue, -, heq⟩ := LocTimerService.pollTask_eq ht
      obtain ⟨hqueue, hmsg⟩ := LocTimerService.pollTask_queue ht
      exact h.quiet hwf (by rw [heq]) (by rw [heq]) (by rw [heq]) (by rw [heq]) hqueue hmsg
  | msgTask => exact h.msgTask hfinds ht

/-! ### The condition is exact -/

/-- A delegate that `MsgTimerRemove` misses is deleted in the heap. -/
theorem removeFinds_of_oneLife {s' : TimerLife} {a : Action} (hs' : TimerLife.step s a = some s')
    (h : s'.OneLife) : s.RemoveFinds a := by
  rintro rfl hmsg d queue hqueue hmem
  by_contra hnot
  obtain ⟨tree, armed, polled, hremove, heq⟩ :=
    LocTimerService.procRemove_heap { s.service with queue := queue } d
  have hsame : tree = s.service.mTree := by
    rcases hremove with hremove | ⟨-, hsame⟩
    · refine absurd (LocHeapNode.remove_ne_none_iff.mp ?_) hnot
      rw [show s.service.mTree.remove s.service.ranks d = some (d, tree) from hremove]
      exact Option.some_ne_none _
    · exact hsame
  have hstep : s.service.step .msgTask
      = some (LocTimerService.procRemove { s.service with queue := queue } d) :=
    LocTimerService.msgTask_remove hmsg hqueue
  unfold TimerLife.step at hs'
  rw [hstep, heq, hsame] at hs'
  cases hs'
  refine h.notInHeap d ?_ hmem
  dsimp only
  rw [Function.update_self]

/-- Delegates live and die once, in every state of a run, exactly when `MsgTimerRemove` never looks
for a delegate that outranks one above it in the heap.

The removal does not search below such a node. It would miss the delegate, delete it and leave it in
the heap. In an ordered heap there is none, but `ranks` cuts the difference of the seconds to an
`int`, so that the heap may not be ordered; `along_oneLife_of_uptime` has a bound on the clock. -/
theorem along_oneLife_iff (actions : List Action) :
    Along step OneLife init actions ↔ Guarded step RemoveFinds init actions := by
  refine along_iff_guarded (fun _ => Live.oneLife) (fun s a s' h hfinds hs' => h.step hfinds hs')
    (fun s a s' _ hs' h => removeFinds_of_oneLife hs' h) ?_ actions init live_init
  -- a `MsgTimerRemove` in the queue is always processed
  rintro s a h hnone rfl hmsg d queue hqueue -
  have hsome : s.service.step .msgTask ≠ none := by
    simp [LocTimerService.step, LocTimerService.msgTask_remove hmsg hqueue]
  exact absurd (Option.map_eq_none_iff.mp hnone) hsome

/-- Three timers that start 1400000000 seconds apart. The third outranks the second by the low 32
bits and the first by the full difference. -/
def longUptime : List Action :=
  [.start 0 0, .msgTask, .tick ⟨1400000000, 0⟩, .start 1 0, .msgTask, .tick ⟨2800000000, 0⟩,
    .start 2 0, .msgTask, .stop 1, .msgTask]

/-- The second timer is stopped and its delegate stays in the heap. -/
theorem not_along_longUptime : ¬ Along step OneLife init longUptime := by
  intro h
  have hlast := h.last (t := (run step init longUptime).get (by decide)) (by simp)
  exact hlast.notInHeap 1 (by decide) (by decide)

end TimerLife

end LocHal.Util
