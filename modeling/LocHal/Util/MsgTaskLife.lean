import LocHal.Util.MsgTask

/-!
# `LocHal.Util.MsgTaskLife`: what becomes of the messages and of the task

`along_serves` is about every order of the steps: the worker processes the messages in the order in
which the queue took them and skips none, no message is used after it was deleted, and when the task
is deleted every message that the queue took has been deleted once.

Two things can go wrong, each under an exact condition. `clean_iff_guarded`: the task and all
messages are deleted in the end if and only if the queue takes every message and the parent does not
clear the runnable before the worker has read it. `along_usedAlive_iff`: nothing uses the task after
its deletion if and only if `sendMsg` is not called any more then, and `destroy` clears `mThread`
before the worker, which it has just unblocked, deletes the task.

A task has a thread or it has none, when it could not be created. `Threaded` and `Unthreaded` are
the invariants of the two cases. With a thread the worker owns the task: `threadMain` deletes the
runnable, and that is the task. Without one the owner is alone and deletes it in `destroy`. The
cases of `Threaded` follow the places of the owner and of the worker.

`StepLog` says what a step adds to the history as far as the task is concerned. A task is deleted
once, and after that only the calls from outside use it: `sendMsg` and the assignment to `mThread`
in `destroy`. So these are the two parts of `LeftAlone`.

`KeepsAll` has three parts for the end. A queue that has been unblocked takes no message, and
neither does one without memory for the element; in both cases `sendMsg` does not look at the error,
and nobody deletes the message. The third part is that of the thread: a runnable that the parent
clears before the child has read it is never deleted.
-/

set_option autoImplicit false

namespace LocHal.Util

open CellHeap LabelledRun

/-! ### The thread -/

/-- The child is in the loop of `threadMain` or before it. -/
def ChildStep.looping : ChildStep → Bool
  | .readRunnable => true
  | .checkPrerun => true
  | .prerun => true
  | .checkRun => true
  | .run => true
  | _ => false

/-- The owner has not unblocked the queue. -/
def OwnerStep.early : OwnerStep → Bool
  | .construct => true
  | .running => true
  | .unblock _ => true
  | _ => false

theorem ChildStep.not_past_of_looping {c : ChildStep} (h : c.looping = true) :
    c.past = false ∧ c ≠ .deleteRunnable := by
  cases c with
  | readRunnable => exact ⟨rfl, nofun⟩
  | checkPrerun => exact ⟨rfl, nofun⟩
  | prerun => exact ⟨rfl, nofun⟩
  | checkRun => exact ⟨rfl, nofun⟩
  | run => exact ⟨rfl, nofun⟩
  | _ => cases h

namespace LocThreadSystem

variable {s t : LocThreadSystem}

theorem deleteRunnable_mem_concat {log : List ThreadEntry} {e : ThreadEntry}
    (he : e ≠ .deleteRunnable) : .deleteRunnable ∈ log ++ [e] ↔ .deleteRunnable ∈ log := by
  rw [List.mem_append, List.mem_singleton]
  exact or_iff_left he.symm

/-- What a step of the child leaves as it is, before it deletes the runnable. -/
theorem threadMain_frame {again : Bool} (hchild : s.child ≠ .deleteRunnable)
    (ht : s.threadMain again = some t) :
    t.parent = s.parent ∧ (.deleteRunnable ∈ t.log ↔ .deleteRunnable ∈ s.log) := by
  unfold threadMain at ht
  cases hc : s.child with
  | deleteRunnable => exact absurd hc hchild
  | returned =>
      rw [hc] at ht
      cases ht
  | destroy d =>
      rw [hc] at ht
      cases ht
      exact ⟨rfl, deleteRunnable_mem_concat (destroy_entry s.mRefCount .child d).2⟩
  | _ =>
      rw [hc] at ht
      cases ht
      exact ⟨rfl, deleteRunnable_mem_concat (by simp)⟩

/-- The child stays in the loop while the runnable is there and `run` returns true. -/
theorem threadMain_looping {again : Bool} (hlooping : s.child.looping = true)
    (hrunnable : s.mRunnable = true) (hagain : s.child = .run → again = true)
    (ht : s.threadMain again = some t) : t.child.looping = true ∧ t.mRunnable = true := by
  unfold threadMain at ht
  cases hc : s.child with
  | readRunnable =>
      rw [hc] at ht
      cases ht
      simp [hrunnable, ChildStep.looping]
  | checkPrerun =>
      rw [hc] at ht
      cases ht
      simp [hrunnable, ChildStep.looping]
  | prerun =>
      rw [hc] at ht
      cases ht
      exact ⟨rfl, hrunnable⟩
  | checkRun =>
      rw [hc] at ht
      cases ht
      simp [hrunnable, ChildStep.looping]
  | run =>
      rw [hc, hagain hc] at ht
      cases ht
      exact ⟨rfl, hrunnable⟩
  | _ =>
      rw [hc] at hlooping
      cases hlooping

/-- What a step of the parent leaves as it is. -/
theorem parentStep_frame (ht : s.parentStep = some t) :
    t.child = s.child ∧ (.deleteRunnable ∈ t.log ↔ .deleteRunnable ∈ s.log) := by
  unfold parentStep at ht
  cases hp : s.parent with
  | started =>
      rw [hp] at ht
      cases ht
  | released =>
      rw [hp] at ht
      cases ht
  | join =>
      rw [hp] at ht
      dsimp only at ht
      split at ht
      · cases ht
        exact ⟨rfl, Iff.rfl⟩
      · cases ht
  | destroy d =>
      rw [hp] at ht
      cases ht
      exact ⟨rfl, deleteRunnable_mem_concat (destroy_entry s.mRefCount .parent d).2⟩
  | _ =>
      rw [hp] at ht
      cases ht
      exact ⟨rfl, deleteRunnable_mem_concat (by simp)⟩

end LocThreadSystem

namespace MsgTaskSystem

open TaskEntry (accepts processes deletes)

/-- Where the owner of a started thread stands, with `mThread` and the next step of the parent. -/
def OwnerAt : OwnerStep → Bool → ParentStep → Prop
  | .construct, mThread, parent =>
      mThread = true ∧ (parent = .setName ∨ parent = .checkRunning ∨ parent = .started)
  | .running, mThread, parent => mThread = true ∧ parent = .started
  | .unblock thread, _, parent => thread = true ∧ parent = .started
  | .clearThread, _, parent => parent = .started
  | .deleteThread, _, parent => parent = .started
  | .releasing, _, _ => True
  | .deleteThis, _, _ => False
  | .done, _, _ => True

/-- The task with a thread. The worker owns it until the destructor is through. -/
structure Threaded (s : MsgTaskSystem) : Prop where
  owned : s.thread.Owned
  idle : s.run ≠ .rcv → s.thread.child = .run
  unflushed : s.thread.child ≠ .deleteRunnable → .deleteRunnable ∉ s.thread.log → s.dtor = .flush
  gone : .deleteRunnable ∈ s.thread.log ↔ s.dtor = .gone
  early : s.owner.early = true → s.thread.child.looping = true ∧ s.thread.mRunnable = true ∧
    ∃ q, s.mQ = some q ∧ q.unblocked = false
  owner : OwnerAt s.owner s.mThread s.thread.parent

/-- Where the owner stands without a thread. -/
def OwnerAlone (s : MsgTaskSystem) : Prop :=
  match s.owner with
  | .construct => s.thread.mRunnable = false ∧
      (s.thread.parent = .checkRunning ∨ s.thread.parent = .released ∨
        ∃ d, s.thread.parent = .destroy d)
  | .running => s.mThread = false
  | .unblock thread => thread = false
  | .deleteThis => s.dtor ≠ .gone
  | .done => s.dtor = .gone
  | _ => False

/-- The task without a thread. The owner has it alone. -/
structure Unthreaded (s : MsgTaskSystem) : Prop where
  child : s.thread.child = .returned
  run : s.run = .rcv
  early : s.owner.early = true → s.dtor = .flush
  owner : s.OwnerAlone

variable {s t : MsgTaskSystem}

theorem threaded_init (joinable : Bool) : (init true joinable).Threaded where
  owned := LocThreadSystem.owned_init joinable
  idle := fun h => absurd rfl h
  unflushed := fun _ _ => rfl
  gone := by simp [init, LocThreadSystem.init]
  early := fun _ => ⟨rfl, rfl, _, rfl, rfl⟩
  owner := ⟨rfl, Or.inl rfl⟩

theorem unthreaded_init (joinable : Bool) : (init false joinable).Unthreaded where
  child := rfl
  run := rfl
  early := fun _ => rfl
  owner := ⟨rfl, Or.inl rfl⟩

/-- The worker has not deleted the task while it is not past the runnable. -/
theorem Threaded.not_gone (h : s.Threaded) (hpast : s.thread.child.past = false) :
    s.dtor ≠ .gone :=
  fun hgone => h.owned.notDeleted hpast (h.gone.mpr hgone)

theorem Threaded.flush_of_early (h : s.Threaded) (hearly : s.owner.early = true) :
    s.dtor = .flush := by
  obtain ⟨hpast, hne⟩ := ChildStep.not_past_of_looping (h.early hearly).1
  exact h.unflushed hne (h.owned.notDeleted hpast)

/-- The worker is in `run`, and the task has not been touched by its destructor. -/
theorem Threaded.flush_of_run (h : s.Threaded) (hchild : s.thread.child = .run) :
    s.dtor = .flush :=
  h.unflushed (by rw [hchild]; nofun) (h.owned.notDeleted (by rw [hchild]; rfl))

/-! ### The steps of the worker -/

/-- The queue has not been unblocked. -/
def Open (s : MsgTaskSystem) : Prop := ∃ q, s.mQ = some q ∧ q.unblocked = false

/-- What a step of `run` leaves as it is. -/
structure InRun (s t : MsgTaskSystem) : Prop where
  owner : t.owner = s.owner
  dtor : t.dtor = s.dtor
  mThread : t.mThread = s.mThread
  log : ∃ es, t.log = s.log ++ es ∧ .deleteTask ∉ es

variable {taken : List DataPtr} {cells : List Held}

theorem returns_cases {again : Bool} (ht : s.returns again = some t) :
    s.thread.threadMain again = some t.thread ∧ t.run = .rcv ∧ InRun s t ∧ t.mQ = s.mQ := by
  obtain ⟨thread, hthread, rfl⟩ := Option.map_eq_some_iff.mp ht
  exact ⟨hthread, rfl, ⟨rfl, rfl, rfl, [], (List.append_nil _).symm, by simp⟩, rfl⟩

/-- The worker goes on in `run`, or a receive has failed. -/
theorem received_cases {got : Option (MsqQErrType × Option DataPtr)} {heap : Heap ListElement}
    {mQ : Option MsgQ} (ht : s.received (some (got, heap, mQ)) = some t) :
    InRun s t ∧ t.mQ = mQ ∧ (t.thread = s.thread ∨
      s.thread.threadMain false = some t.thread ∧ t.run = .rcv ∧
        got ≠ none ∧ ∀ msg, got ≠ some (.success, some msg)) := by
  have hin : ∀ run, InRun s { s with
      heap := heap, mQ := mQ, run := run, log := s.log ++ [.use] } :=
    fun run => ⟨rfl, rfl, rfl, [.use], rfl, by simp⟩
  unfold received at ht
  dsimp only at ht
  split at ht
  · cases ht
    exact ⟨hin _, rfl, Or.inl rfl⟩
  · cases ht
    exact ⟨hin _, rfl, Or.inl rfl⟩
  · rename_i hnone
    obtain ⟨hthread, hrun, ⟨howner, hdtor, hmThread, es, hlog, hes⟩, hmQ⟩ := returns_cases ht
    refine ⟨⟨howner, hdtor, hmThread, [.use] ++ es, ?_, by simp [hes]⟩, hmQ,
      Or.inr ⟨hthread, hrun, by simp, fun msg heq => hnone msg (Option.some.inj heq)⟩⟩
    rw [hlog]
    exact List.append_assoc ..

/-- A receive from a queue that is not unblocked waits or gives a message. -/
theorem Kept.rcvLoop_open (h : s.Kept taken cells) {q : MsgQ} (hq : s.mQ = some q)
    (hopen : q.unblocked = false) :
    msgQRcvLoop s.heap q = some (none, s.heap, some q) ∨
    ∃ msg heap l, msgQRcvLoop s.heap q
      = some (some (.success, some msg), heap, some { q with msgList := some l }) := by
  obtain ⟨l, hl, hholds⟩ := h.list q hq
  rcases msgQRcvLoop_cases hl hholds with heq | heq |
    ⟨rest, c, heap, l', rfl, -, heq, -, -⟩
  · exact Or.inl heq
  · -- an empty queue makes it wait, and any other one has a message
    rcases List.eq_nil_or_concat cells with rfl | ⟨rest, c, rfl⟩
    · unfold msgQRcvLoop at heq
      rw [hl, linkedListEmpty_eq hholds, if_pos ⟨by simp, hopen⟩] at heq
      cases heq
    · rw [List.concat_eq_append] at hholds
      obtain ⟨heap, l', hremove, -, -⟩ := linkedListRemove_eq hholds
      unfold msgQRcvLoop at heq
      rw [hl, linkedListEmpty_eq hholds, if_neg (by simp), hremove] at heq
      cases heq
  · exact Or.inr ⟨_, heap, l', heq⟩

/-- After the loop of a receive. -/
theorem Kept.rcvLoop_cases (h : s.Kept taken cells) {q : MsgQ} (hq : s.mQ = some q)
    (ht : s.received (msgQRcvLoop s.heap q) = some t) :
    InRun s t ∧ (t.thread = s.thread ∧ (Open s → Open t) ∨
      s.thread.threadMain false = some t.thread ∧ t.run = .rcv ∧ ¬ Open s) := by
  by_cases hopen : q.unblocked = false
  · rcases h.rcvLoop_open hq hopen with heq | ⟨msg, heap, l, heq⟩ <;> rw [heq] at ht <;> cases ht
    · exact ⟨⟨rfl, rfl, rfl, [.use], rfl, by simp⟩, Or.inl ⟨rfl, fun _ => ⟨q, rfl, hopen⟩⟩⟩
    · exact ⟨⟨rfl, rfl, rfl, [.use], rfl, by simp⟩, Or.inl ⟨rfl, fun _ => ⟨_, rfl, hopen⟩⟩⟩
  · have hnot : ¬ Open s := by
      rintro ⟨q', hq', hopen'⟩
      cases hq.symm.trans hq'
      exact hopen hopen'
    obtain ⟨l, hl, hholds⟩ := h.list q hq
    rcases msgQRcvLoop_cases hl hholds with heq | heq |
      ⟨rest, c, heap, l', -, -, heq, -, -⟩ <;> rw [heq] at ht
    all_goals
      obtain ⟨hin, -, hthread | ⟨hthread, hrun, -⟩⟩ := received_cases ht
      · exact ⟨hin, Or.inl ⟨hthread, fun h => absurd h hnot⟩⟩
      · exact ⟨hin, Or.inr ⟨hthread, hrun, hnot⟩⟩

/-- One step in `run`: the thread stays in it, or `run` returns. While the queue is open, it does
not return false. -/
theorem Kept.runStep_cases (h : s.Kept taken cells) (hflush : s.dtor = .flush)
    (ht : s.runStep = some t) :
    InRun s t ∧ (t.thread = s.thread ∧ (Open s → Open t) ∨
      ∃ again, s.thread.threadMain again = some t.thread ∧ t.run = .rcv ∧
        (Open s → again = true ∧ Open t)) := by
  have hloop : ∀ {q}, s.mQ = some q → s.received (msgQRcvLoop s.heap q) = some t →
      InRun s t ∧ (t.thread = s.thread ∧ (Open s → Open t) ∨
        ∃ again, s.thread.threadMain again = some t.thread ∧ t.run = .rcv ∧
          (Open s → again = true ∧ Open t)) := by
    intro q hq ht
    obtain ⟨hin, hstay | ⟨hthread, hrun, hnot⟩⟩ := h.rcvLoop_cases hq ht
    · exact ⟨hin, Or.inl hstay⟩
    · exact ⟨hin, Or.inr ⟨false, hthread, hrun, fun h => absurd h hnot⟩⟩
  obtain ⟨q, hq⟩ : ∃ q, s.mQ = some q := by
    refine Option.ne_none_iff_exists'.mp fun hnone => ?_
    simpa [hflush] using h.destroyed.mp hnone
  unfold MsgTaskSystem.runStep at ht
  cases hrun : s.run with
  | rcv =>
      rw [hrun] at ht
      dsimp only at ht
      unfold msgQRcv at ht
      rw [hq] at ht
      dsimp only at ht
      rw [if_pos rfl] at ht
      split at ht
      · rename_i hblocked
        have hnot : ¬ Open s := by
          rintro ⟨q', hq', hopen⟩
          cases hq.symm.trans hq'
          rw [hblocked] at hopen
          cases hopen
        obtain ⟨hin, -, hthread | ⟨hthread, hrun, -⟩⟩ := received_cases ht
        · exact ⟨hin, Or.inl ⟨hthread, fun h => absurd h hnot⟩⟩
        · exact ⟨hin, Or.inr ⟨false, hthread, hrun, fun h => absurd h hnot⟩⟩
      · exact hloop hq ht
  | waiting =>
      rw [hrun] at ht
      dsimp only at ht
      rw [hq] at ht
      exact hloop hq ht
  | proc msg =>
      rw [hrun] at ht
      cases ht
      exact ⟨⟨rfl, rfl, rfl, [.proc msg], rfl, by simp⟩, Or.inl ⟨rfl, id⟩⟩
  | delete msg =>
      rw [hrun] at ht
      obtain ⟨hthread, hrun, ⟨howner, hdtor, hmThread, es, hlog, hes⟩, hmQ⟩ := returns_cases ht
      refine ⟨⟨howner, hdtor, hmThread, [.deleteMsg msg] ++ es, ?_, by simp [hes]⟩,
        Or.inr ⟨true, hthread, hrun, fun ⟨q, hq, hopen⟩ => ⟨rfl, q, hmQ.trans hq, hopen⟩⟩⟩
      rw [hlog]
      exact List.append_assoc ..

/-! ### The steps -/

/-- The step is a call from outside that accesses the task: `sendMsg`, or the write of `mThread` in
`destroy`. -/
def Touches (s : MsgTaskSystem) : MsgTaskLabel → Prop
  | .sendMsg msg _ => msg = true
  | .owner => s.owner = .clearThread
  | _ => False

instance (s : MsgTaskSystem) : ∀ i, Decidable (s.Touches i)
  | .sendMsg msg _ => inferInstanceAs (Decidable (msg = true))
  | .owner => inferInstanceAs (Decidable (s.owner = .clearThread))
  | .destroy => inferInstanceAs (Decidable False)
  | .worker => inferInstanceAs (Decidable False)

/-- What a step adds to the history: it deletes the task at most once, and of a deleted task it
only has the uses from outside. -/
def StepLog (s : MsgTaskSystem) (i : MsgTaskLabel) (t : MsgTaskSystem) : Prop :=
  ∃ es, t.log = s.log ++ es ∧
    (s.dtor ≠ .gone → (t.dtor ≠ .gone ∧ .deleteTask ∉ es ∨
      t.dtor = .gone ∧ es = [.deleteTask])) ∧
    (s.dtor = .gone → t.dtor = .gone ∧ .deleteTask ∉ es ∧ (.use ∈ es ↔ s.Touches i))

variable {i : MsgTaskLabel} {es : List TaskEntry}

/-- A step while the task is there. -/
theorem stepLog_alive (hs : s.dtor ≠ .gone) (ht : t.dtor ≠ .gone) (hlog : t.log = s.log ++ es)
    (hes : .deleteTask ∉ es) : StepLog s i t :=
  ⟨es, hlog, fun _ => Or.inl ⟨ht, hes⟩, fun hgone => absurd hgone hs⟩

/-- A step that has nothing to do with the task. -/
theorem stepLog_idle (hdtor : t.dtor = s.dtor) (hlog : t.log = s.log) (htouch : ¬ s.Touches i) :
    StepLog s i t :=
  ⟨[], hlog.trans (List.append_nil _).symm, fun hs => Or.inl ⟨hdtor ▸ hs, by simp⟩,
    fun hs => ⟨hdtor.trans hs, by simp, by simp [htouch]⟩⟩

/-- A use from outside. -/
theorem stepLog_touch (es : List TaskEntry) (hdtor : t.dtor = s.dtor)
    (hlog : t.log = s.log ++ es) (hes : .deleteTask ∉ es) (huse : .use ∈ es)
    (htouch : s.Touches i) : StepLog s i t :=
  ⟨es, hlog, fun hs => Or.inl ⟨hdtor ▸ hs, hes⟩,
    fun hs => ⟨hdtor.trans hs, hes, iff_of_true huse htouch⟩⟩

/-- The deletion. -/
theorem stepLog_delete (hs : s.dtor ≠ .gone) (ht : t.dtor = .gone)
    (hlog : t.log = s.log ++ [.deleteTask]) : StepLog s i t :=
  ⟨[.deleteTask], hlog, fun _ => Or.inr ⟨ht, rfl⟩, fun hgone => absurd hgone hs⟩

/-- A send leaves everything but the queue and the history as it is. -/
theorem Kept.sendMsg_frame (h : s.Kept taken cells) (malloc : Bool) :
    let t := s.sendMsg true malloc
    t.thread = s.thread ∧ t.owner = s.owner ∧ t.dtor = s.dtor ∧ t.mThread = s.mThread ∧
      t.run = s.run ∧ (Open s → Open t) ∧ ∃ e, t.log = s.log ++ [.use, e] ∧ e ≠ .deleteTask := by
  intro t
  have ht : t = s.sendMsg true malloc := rfl
  unfold MsgTaskSystem.sendMsg at ht
  rw [if_pos rfl] at ht
  rcases msgQSnd_cases h.list (some s.sent) (some locMsgDestroy) malloc with ⟨err, heq, herr⟩ |
    ⟨q, obj, heap, l, hq, hopen, -, heq, -⟩ <;> rw [heq] at ht <;> rw [ht]
  · refine ⟨rfl, rfl, rfl, rfl, rfl, id, _, rfl, ?_⟩
    rw [if_neg herr]
    simp
  · exact ⟨rfl, rfl, rfl, rfl, rfl, fun _ => ⟨_, rfl, hopen⟩, _, rfl, by simp⟩

/-- A call of a function of the messages is no deletion of the task. -/
theorem deleteTask_not_mem_freedMsgs (freed : List Freed) :
    .deleteTask ∉ TaskEntry.use :: freedMsgs freed := by
  rw [List.mem_cons, not_or]
  refine ⟨nofun, fun hmem => ?_⟩
  obtain ⟨f, -, heq⟩ := List.mem_filterMap.mp hmem
  obtain ⟨c, -, heq⟩ := Option.map_eq_some_iff.mp heq
  cases heq

/-- A step of the destructor leaves the sides as they are. -/
theorem Kept.dtorStep_frame (h : s.Kept taken cells) (hgone : s.dtor ≠ .gone) :
    let t := s.dtorStep
    t.thread = s.thread ∧ t.owner = s.owner ∧ t.mThread = s.mThread ∧
      (s.dtor ≠ .free ∧ t.dtor ≠ .gone ∧ (∃ es, t.log = s.log ++ es ∧ .deleteTask ∉ es) ∨
        s.dtor = .free ∧ t.dtor = .gone ∧ t.log = s.log ++ [.deleteTask]) := by
  intro t
  have ht : t = s.dtorStep := rfl
  unfold MsgTaskSystem.dtorStep at ht
  have hsome : s.dtor = .flush ∨ s.dtor = .destroy → ∃ q, s.mQ = some q := by
    rintro hdtor
    refine Option.ne_none_iff_exists'.mp fun hnone => ?_
    rcases hdtor with hdtor | hdtor <;> simpa [hdtor] using h.destroyed.mp hnone
  cases hdtor : s.dtor with
  | flush =>
      obtain ⟨q, hq⟩ := hsome (Or.inl hdtor)
      obtain ⟨l, hl, hholds⟩ := h.list q hq
      obtain ⟨heap, heq, -⟩ := msgQFlush_eq hl hholds
      rw [hdtor, hq, heq] at ht
      rw [ht]
      exact ⟨rfl, rfl, rfl, Or.inl ⟨nofun, nofun, _, rfl, deleteTask_not_mem_freedMsgs _⟩⟩
  | destroy =>
      obtain ⟨q, hq⟩ := hsome (Or.inr hdtor)
      obtain ⟨l, hl, hholds⟩ := h.list q hq
      obtain ⟨heap, heq, -⟩ := msgQDestroy_eq hl hholds
      rw [hdtor, hq, heq] at ht
      rw [ht]
      exact ⟨rfl, rfl, rfl, Or.inl ⟨nofun, nofun, _, rfl, deleteTask_not_mem_freedMsgs _⟩⟩
  | free =>
      rw [hdtor] at ht
      rw [ht]
      exact ⟨rfl, rfl, rfl, Or.inr ⟨rfl, rfl, rfl⟩⟩
  | gone => exact absurd hdtor hgone

/-- The state of a task with a thread after a step. -/
def NextThreaded (s : MsgTaskSystem) (i : MsgTaskLabel) (t : MsgTaskSystem) : Prop :=
  (∃ taken cells, t.Kept taken cells) ∧ t.Threaded ∧ StepLog s i t

/-- A step of the thread of the worker outside `run` and the destructor. -/
theorem Threaded.thread_step (h : s.Threaded) (hkept : s.Kept taken cells)
    (hchild : s.thread.child ≠ .deleteRunnable) (hrun : s.thread.child ≠ .run)
    (es : List TaskEntry) (hes : Quiet es ∧ .deleteTask ∉ es)
    (huse : es ≠ [] → s.thread.child.past = false)
    {thread : LocThreadSystem} (hthread : s.thread.threadMain false = some thread) :
    NextThreaded s .worker { s with thread := thread, log := s.log ++ es } := by
  obtain ⟨hparent, hmem⟩ := LocThreadSystem.threadMain_frame hchild hthread
  refine ⟨⟨taken, cells, hkept.idle hes.1 rfl rfl rfl rfl ⟨rfl, rfl⟩ (Or.inl rfl)
    (Nat.le_refl _)⟩, ⟨?_, fun hne => ?_, fun _ hnot => ?_, hmem.trans h.gone, fun hearly => ?_,
    hparent ▸ h.owner⟩, ?_⟩
  · exact h.owned.step (i := .child false) hthread
  · exact absurd (h.idle hne) hrun
  · exact h.unflushed hchild fun hin => hnot (hmem.mpr hin)
  · obtain ⟨hlooping, hrunnable, hopen⟩ := h.early hearly
    obtain ⟨hlooping', hrunnable'⟩ := LocThreadSystem.threadMain_looping hlooping hrunnable
      (fun hc => absurd hc hrun) hthread
    exact ⟨hlooping', hrunnable', hopen⟩
  · cases es with
    | nil => exact stepLog_idle rfl (List.append_nil _) id
    | cons e es =>
        have hgone := h.not_gone (huse (List.cons_ne_nil _ _))
        exact stepLog_alive hgone hgone rfl hes.2

/-- A step of the worker in `run`. -/
theorem Threaded.run_step (h : s.Threaded) (hkept : s.Kept taken cells)
    (hchild : s.thread.child = .run) (ht : s.runStep = some t) : NextThreaded s .worker t := by
  have hflush := h.flush_of_run hchild
  have hgone : s.dtor ≠ .gone := by rw [hflush]; nofun
  obtain ⟨⟨howner, hdtor, hmThread, es, hlog, hes⟩, hcases⟩ := hkept.runStep_cases hflush ht
  refine ⟨hkept.runStep hflush ht, ?_, stepLog_alive hgone (hdtor ▸ hgone) hlog hes⟩
  rcases hcases with ⟨hthread, hopen⟩ | ⟨again, hthread, hrun, hopen⟩
  · refine ⟨hthread ▸ h.owned, fun _ => hthread ▸ hchild, ?_, ?_, fun hearly => ?_, ?_⟩
    · rw [hthread, hdtor]
      exact h.unflushed
    · rw [hthread, hdtor]
      exact h.gone
    · rw [howner] at hearly
      obtain ⟨hlooping, hrunnable, hq⟩ := h.early hearly
      rw [hthread]
      exact ⟨hlooping, hrunnable, hopen hq⟩
    · rw [howner, hmThread, hthread]
      exact h.owner
  · have hne : s.thread.child ≠ .deleteRunnable := by rw [hchild]; nofun
    obtain ⟨hparent, hmem⟩ := LocThreadSystem.threadMain_frame hne hthread
    refine ⟨h.owned.step (i := .child again) hthread, fun hnot => absurd hrun hnot, fun _ _ => ?_,
      ?_, fun hearly => ?_, ?_⟩
    · rw [hdtor, hflush]
    · rw [hmem, hdtor]
      exact h.gone
    · rw [howner] at hearly
      obtain ⟨hlooping, hrunnable, hq⟩ := h.early hearly
      obtain ⟨rfl, hq'⟩ := hopen hq
      obtain ⟨hlooping', hrunnable'⟩ := LocThreadSystem.threadMain_looping hlooping hrunnable
        (fun _ => rfl) hthread
      exact ⟨hlooping', hrunnable', hq'⟩
    · rw [howner, hmThread, hparent]
      exact h.owner

/-- A step of the destructor, which the worker runs. -/
theorem Threaded.dtor_step (h : s.Threaded) (hkept : s.Kept taken cells)
    (hchild : s.thread.child = .deleteRunnable)
    (ht : (match s.dtor with
      | .flush => some s.dtorStep
      | .destroy => some s.dtorStep
      | _ => (s.dtorStep.thread.step (.child false)).map
          fun thread => { s.dtorStep with thread := thread }) = some t) :
    NextThreaded s .worker t := by
  have hpast : s.thread.child.past = false := by rw [hchild]; rfl
  have hgone := h.not_gone hpast
  have hrun : s.run = .rcv := by
    by_contra hne
    rw [h.idle hne] at hchild
    cases hchild
  have hhand : s.run.inHand = [] := by rw [hrun]; rfl
  have hnotEarly : s.owner.early ≠ true := fun hearly =>
    (ChildStep.not_past_of_looping (h.early hearly).1).2 hchild
  obtain ⟨taken', cells', hkept', hrun'⟩ := hkept.dtorStep hhand hgone
  obtain ⟨hthread, howner, hmThread, hcases⟩ := hkept.dtorStep_frame hgone
  have hstay : s.dtor ≠ .free → s.dtorStep.dtor ≠ .gone →
      (∃ es, s.dtorStep.log = s.log ++ es ∧ .deleteTask ∉ es) →
      NextThreaded s .worker s.dtorStep := by
    rintro hfree hgone' ⟨es, hlog, hes⟩
    refine ⟨⟨taken', cells', hkept'⟩, ⟨hthread ▸ h.owned, fun hne => absurd hrun (hrun' ▸ hne),
      fun hne => absurd (hthread ▸ hchild) hne, ?_, fun hearly => absurd (howner ▸ hearly)
      hnotEarly, ?_⟩, stepLog_alive hgone hgone' hlog hes⟩
    · rw [hthread]
      exact iff_of_false (h.owned.notDeleted hpast) hgone'
    · rw [howner, hmThread, hthread]
      exact h.owner
  rcases hcases with ⟨hfree, hgone', hlog⟩ | ⟨hfree, hgone', hlog⟩
  · have hnext := hstay hfree hgone' hlog
    cases hdtor : s.dtor with
    | flush =>
        rw [hdtor] at ht
        cases ht
        exact hnext
    | destroy =>
        rw [hdtor] at ht
        cases ht
        exact hnext
    | free => exact absurd hdtor hfree
    | gone => exact absurd hdtor hgone
  · rw [hfree, hthread] at ht
    obtain ⟨thread, hstep, rfl⟩ := Option.map_eq_some_iff.mp ht
    have hthread' : thread = { s.thread with
        child := .destroy .checkRefCount, log := s.thread.log ++ [.deleteRunnable] } := by
      simp only [LocThreadSystem.step, LocThreadSystem.threadMain, hchild] at hstep
      exact (Option.some.inj hstep).symm
    refine ⟨⟨taken', cells', hkept'.idle quiet_nil (List.append_nil _).symm rfl rfl rfl ⟨rfl, rfl⟩
      (Or.inl rfl) (Nat.le_refl _)⟩, ⟨h.owned.step hstep, fun hne => absurd hrun (hrun' ▸ hne),
      fun _ hnot => ?_, ?_, fun hearly => absurd (howner ▸ hearly) hnotEarly, ?_⟩,
      stepLog_delete hgone hgone' hlog⟩
    · rw [hthread'] at hnot
      simp at hnot
    · rw [hthread']
      exact iff_of_true (by simp) hgone'
    · show OwnerAt s.dtorStep.owner s.dtorStep.mThread thread.parent
      rw [howner, hmThread, hthread']
      exact h.owner

/-- A step of the worker. -/
theorem Threaded.worker (h : s.Threaded) (hkept : s.Kept taken cells)
    (ht : s.worker = some t) : NextThreaded s .worker t := by
  have hquiet : s.thread.child ≠ .deleteRunnable → s.thread.child ≠ .run →
      ((s.thread.step (.child false)).map fun thread => { s with thread := thread }) = some t →
      NextThreaded s .worker t := by
    intro hchild hrun ht
    obtain ⟨thread, hthread, rfl⟩ := Option.map_eq_some_iff.mp ht
    have hnext := h.thread_step hkept hchild hrun [] ⟨quiet_nil, by simp⟩
      (fun hne => absurd rfl hne) hthread
    rwa [List.append_nil] at hnext
  have hused : s.thread.child ≠ .deleteRunnable → s.thread.child ≠ .run →
      s.thread.child.past = false →
      (((s.record [.use]).thread.step (.child false)).map
        fun thread => { s.record [.use] with thread := thread }) = some t →
      NextThreaded s .worker t := by
    intro hchild hrun hpast ht
    obtain ⟨thread, hthread, rfl⟩ := Option.map_eq_some_iff.mp ht
    exact h.thread_step hkept hchild hrun [.use] ⟨quiet_use, by simp⟩
      (fun _ => hpast) hthread
  unfold MsgTaskSystem.worker at ht
  cases hchild : s.thread.child with
  | prerun =>
      rw [hchild] at ht
      exact hused (by rw [hchild]; nofun) (by rw [hchild]; nofun) (by rw [hchild]; rfl) ht
  | run =>
      rw [hchild] at ht
      exact h.run_step hkept hchild ht
  | postrun =>
      rw [hchild] at ht
      exact hused (by rw [hchild]; nofun) (by rw [hchild]; nofun) (by rw [hchild]; rfl) ht
  | deleteRunnable =>
      rw [hchild] at ht
      exact h.dtor_step hkept hchild ht
  | _ =>
      rw [hchild] at ht
      exact hquiet (by rw [hchild]; nofun) (by rw [hchild]; nofun) ht

/-- A step of the owner that leaves the thread alone. -/
theorem Threaded.owner_step (h : s.Threaded) (hkept : s.Kept taken cells) (owner : OwnerStep)
    (mThread : Bool) (mQ : Option MsgQ) (es : List TaskEntry)
    (hqueue : mQ.map MsgQ.msgList = s.mQ.map MsgQ.msgList)
    (hes : Quiet es) (hearly : owner.early = true → s.owner.early = true ∧ mQ = s.mQ)
    (howner : OwnerAt owner mThread s.thread.parent)
    (hlog : StepLog s i { s with
      owner := owner, mThread := mThread, mQ := mQ, log := s.log ++ es }) :
    NextThreaded s i { s with
      owner := owner, mThread := mThread, mQ := mQ, log := s.log ++ es } := by
  refine ⟨⟨taken, cells, hkept.idle hes rfl rfl rfl hqueue ⟨rfl, rfl⟩ (Or.inl rfl)
    (Nat.le_refl _)⟩, ⟨h.owned, h.idle, h.unflushed, h.gone, fun he => ?_, howner⟩, hlog⟩
  obtain ⟨hbefore, rfl⟩ := hearly he
  exact h.early hbefore

/-- A step of the parent. -/
theorem Threaded.parent_step (h : s.Threaded) (hkept : s.Kept taken cells) (label : ThreadLabel)
    {thread : LocThreadSystem} {owner : OwnerStep} (hstep : s.thread.step label = some thread)
    (hframe : thread.child = s.thread.child ∧
      (.deleteRunnable ∈ thread.log ↔ .deleteRunnable ∈ s.thread.log))
    (hearly : owner.early = true → s.owner.early = true ∧ thread.mRunnable = s.thread.mRunnable)
    (howner : OwnerAt owner s.mThread thread.parent) (htouch : ¬ s.Touches i) :
    NextThreaded s i { s with thread := thread, owner := owner } := by
  obtain ⟨hchild, hmem⟩ := hframe
  refine ⟨⟨taken, cells, hkept.idle quiet_nil (List.append_nil _).symm rfl rfl rfl ⟨rfl, rfl⟩
    (Or.inl rfl) (Nat.le_refl _)⟩, ⟨h.owned.step hstep, fun hne => hchild.trans (h.idle hne),
    fun hne hnot => h.unflushed (fun heq => hne (hchild.trans heq)) fun hin => hnot (hmem.mpr hin),
    hmem.trans h.gone, fun he => ?_, howner⟩, stepLog_idle rfl rfl htouch⟩
  obtain ⟨hbefore, hrunnable⟩ := hearly he
  obtain ⟨hlooping, hrunnable', hopen⟩ := h.early hbefore
  exact ⟨hchild ▸ hlooping, hrunnable.trans hrunnable', hopen⟩

theorem msgList_msgQUnblock (mQ : Option MsgQ) :
    (msgQUnblock mQ).2.map MsgQ.msgList = mQ.map MsgQ.msgList := by
  unfold msgQUnblock
  cases mQ with
  | none => rfl
  | some q =>
      dsimp only
      split <;> rfl

/-- A step of the owner. -/
theorem Threaded.ownerStep (h : s.Threaded) (hkept : s.Kept taken cells)
    (ht : s.ownerStep = some t) : NextThreaded s .owner t := by
  have hat := h.owner
  have halive : s.owner.early = true → s.dtor ≠ .gone := fun hearly => by
    rw [h.flush_of_early hearly]
    nofun
  unfold MsgTaskSystem.ownerStep at ht
  cases howner : s.owner with
  | construct =>
      have hearly : s.owner.early = true := by rw [howner]; rfl
      have htouch : ¬ s.Touches .owner := fun htouch => by cases howner.symm.trans htouch
      rw [howner] at ht hat
      obtain ⟨hmThread, hparent⟩ := hat
      dsimp only at ht
      rcases hparent with hparent | hparent | hparent
      · rw [hparent] at ht
        obtain ⟨thread, hstep, rfl⟩ := Option.map_eq_some_iff.mp ht
        have hframe := LocThreadSystem.parentStep_frame hstep
        simp only [LocThreadSystem.step, LocThreadSystem.parentStep, hparent] at hstep
        obtain rfl := Option.some.inj hstep
        exact h.parent_step hkept .parent
          (by simp only [LocThreadSystem.step, LocThreadSystem.parentStep, hparent]) hframe
          (fun _ => ⟨hearly, rfl⟩) ⟨hmThread, Or.inr (Or.inl rfl)⟩ htouch
      · rw [hparent] at ht
        obtain ⟨thread, hstep, rfl⟩ := Option.map_eq_some_iff.mp ht
        have hframe := LocThreadSystem.parentStep_frame hstep
        -- the worker is in its loop, so `isRunning` is true
        have hrunnable := (h.early hearly).2.1
        simp only [LocThreadSystem.step, LocThreadSystem.parentStep, hparent, hrunnable] at hstep
        obtain rfl := Option.some.inj hstep
        exact h.parent_step hkept .parent
          (by simp only [LocThreadSystem.step, LocThreadSystem.parentStep, hparent, hrunnable])
          hframe (fun _ => ⟨hearly, hrunnable.symm⟩) ⟨hmThread, Or.inr (Or.inr rfl)⟩ htouch
      · rw [hparent] at ht
        cases ht
        have hnext := h.owner_step hkept (i := .owner) .running s.mThread s.mQ [] rfl quiet_nil
          (fun _ => ⟨hearly, rfl⟩) ⟨hmThread, hparent⟩
          (stepLog_idle rfl (List.append_nil _) htouch)
        rwa [List.append_nil] at hnext
  | running =>
      rw [howner] at ht
      cases ht
  | unblock thread =>
      have hearly : s.owner.early = true := by rw [howner]; rfl
      rw [howner] at ht hat
      cases ht
      obtain ⟨rfl, hparent⟩ := hat
      exact h.owner_step hkept .clearThread s.mThread _ [.use] (msgList_msgQUnblock s.mQ) quiet_use
        (fun he => by cases he) hparent
        (stepLog_alive (halive hearly) (halive hearly) rfl (by simp))
  | clearThread =>
      rw [howner] at ht hat
      cases ht
      exact h.owner_step hkept .deleteThread false s.mQ [.use] rfl
        quiet_use (fun he => by cases he) hat
        (stepLog_touch [.use] rfl rfl (by simp) (by simp) howner)
  | deleteThread =>
      rw [howner] at ht hat
      obtain ⟨thread, hstep, rfl⟩ := Option.map_eq_some_iff.mp ht
      have hframe : thread.child = s.thread.child ∧
          (.deleteRunnable ∈ thread.log ↔ .deleteRunnable ∈ s.thread.log) := by
        rcases LocThreadSystem.call_cases hstep with ⟨-, rfl⟩ | rfl <;> exact ⟨rfl, Iff.rfl⟩
      exact h.parent_step hkept _ hstep hframe (fun he => by cases he) trivial
        fun htouch => by cases howner.symm.trans htouch
  | releasing =>
      have htouch : ¬ s.Touches .owner := fun htouch => by cases howner.symm.trans htouch
      rw [howner] at ht hat
      dsimp only at ht
      split at ht
      · cases ht
        have hnext := h.owner_step hkept (i := .owner) .done s.mThread s.mQ [] rfl quiet_nil
          (fun he => by cases he) trivial
          (stepLog_idle rfl (List.append_nil _) htouch)
        rwa [List.append_nil] at hnext
      · obtain ⟨thread, hstep, rfl⟩ := Option.map_eq_some_iff.mp ht
        exact h.parent_step hkept _ hstep (LocThreadSystem.parentStep_frame hstep)
          (fun he => by cases he) trivial htouch
  | deleteThis =>
      rw [howner] at hat
      exact absurd hat id
  | done =>
      rw [howner] at ht
      cases ht

/-- Every step of a task with a thread. -/
theorem Threaded.step (h : s.Threaded) (hkept : s.Kept taken cells)
    (ht : MsgTaskSystem.step s i = some t) : NextThreaded s i t := by
  cases i with
  | sendMsg msg malloc =>
      cases ht
      cases msg with
      | false =>
          exact ⟨⟨taken, cells, hkept⟩, h, stepLog_idle rfl rfl (by simp [Touches])⟩
      | true =>
          obtain ⟨cells', hkept'⟩ := hkept.sendMsg true malloc
          obtain ⟨hthread, howner, hdtor, hmThread, hrun, hopen, e, hlog, he⟩ :=
            hkept.sendMsg_frame malloc
          refine ⟨⟨taken, cells', hkept'⟩, ⟨hthread ▸ h.owned, ?_, ?_, ?_, fun hearly => ?_, ?_⟩,
            stepLog_touch _ hdtor hlog (by simp [he.symm]) (by simp) rfl⟩
          · rw [hrun, hthread]
            exact h.idle
          · rw [hthread, hdtor]
            exact h.unflushed
          · rw [hthread, hdtor]
            exact h.gone
          · rw [howner] at hearly
            rw [hthread]
            obtain ⟨hlooping, hrunnable, hq⟩ := h.early hearly
            exact ⟨hlooping, hrunnable, hopen hq⟩
          · rw [howner, hmThread, hthread]
            exact h.owner
  | destroy =>
      simp only [MsgTaskSystem.step] at ht
      split at ht
      · rename_i howner
        cases ht
        have hearly : s.owner.early = true := by rw [howner]; rfl
        have hat := h.owner
        rw [howner] at hat
        have hgone : s.dtor ≠ .gone := by
          rw [h.flush_of_early hearly]
          nofun
        exact h.owner_step hkept (.unblock s.mThread) s.mThread s.mQ [.use] rfl quiet_use
          (fun _ => ⟨hearly, rfl⟩) hat
          (stepLog_alive hgone hgone rfl (by simp))
      · cases ht
  | owner => exact h.ownerStep hkept ht
  | worker => exact h.worker hkept ht

/-! ### Without a thread -/

/-- The state of a task without a thread after a step. -/
def NextUnthreaded (s : MsgTaskSystem) (i : MsgTaskLabel) (t : MsgTaskSystem) : Prop :=
  (∃ taken cells, t.Kept taken cells) ∧ t.Unthreaded ∧ StepLog s i t

/-- The owner runs the destructor. -/
theorem Unthreaded.dtor_step (h : s.Unthreaded) (hkept : s.Kept taken cells)
    (howner : s.owner = .deleteThis)
    (ht : (match s.dtor with
      | .flush => some s.dtorStep
      | .destroy => some s.dtorStep
      | _ => some { s.dtorStep with owner := .done }) = some t) :
    NextUnthreaded s .owner t := by
  have hgone : s.dtor ≠ .gone := by
    have hat := h.owner
    unfold OwnerAlone at hat
    rwa [howner] at hat
  have hhand : s.run.inHand = [] := by rw [h.run]; rfl
  obtain ⟨taken', cells', hkept', hrun⟩ := hkept.dtorStep hhand hgone
  obtain ⟨hthread, howner', -, hcases⟩ := hkept.dtorStep_frame hgone
  rcases hcases with ⟨hfree, hgone', es, hlog, hes⟩ | ⟨hfree, hgone', hlog⟩
  · have hnext : NextUnthreaded s .owner s.dtorStep := by
      refine ⟨⟨taken', cells', hkept'⟩, ⟨hthread ▸ h.child, hrun.trans h.run, fun he => ?_, ?_⟩,
        stepLog_alive hgone hgone' hlog hes⟩
      · rw [howner', howner] at he
        cases he
      · unfold OwnerAlone
        rw [howner', howner]
        exact hgone'
    cases hdtor : s.dtor with
    | flush =>
        rw [hdtor] at ht
        cases ht
        exact hnext
    | destroy =>
        rw [hdtor] at ht
        cases ht
        exact hnext
    | free => exact absurd hdtor hfree
    | gone => exact absurd hdtor hgone
  · rw [hfree] at ht
    cases ht
    exact ⟨⟨taken', cells', hkept'.idle quiet_nil (List.append_nil _).symm rfl rfl rfl ⟨rfl, rfl⟩
      (Or.inl rfl) (Nat.le_refl _)⟩, ⟨hthread ▸ h.child, hrun.trans h.run, nofun, hgone'⟩,
      stepLog_delete hgone hgone' hlog⟩

/-- A step of the owner. -/
theorem Unthreaded.ownerStep (h : s.Unthreaded) (hkept : s.Kept taken cells)
    (ht : s.ownerStep = some t) : NextUnthreaded s .owner t := by
  have hat := h.owner
  have halive : s.owner.early = true → s.dtor ≠ .gone := fun hearly => by
    rw [h.early hearly]
    decide
  unfold OwnerAlone at hat
  unfold MsgTaskSystem.ownerStep at ht
  cases howner : s.owner with
  | construct =>
      have hearly : s.owner.early = true := by rw [howner]; rfl
      have htouch : ¬ s.Touches .owner := fun htouch => by cases howner.symm.trans htouch
      rw [howner] at ht hat
      obtain ⟨hrunnable, hparent⟩ := hat
      -- the owner gives up the only reference
      have hstay : ∀ thread : LocThreadSystem, thread.child = s.thread.child →
          thread.mRunnable = false →
          (thread.parent = .released ∨ ∃ d, thread.parent = .destroy d) →
          NextUnthreaded s .owner { s with thread := thread, owner := .construct } := by
        intro thread hchild hrunnable hparent
        exact ⟨⟨taken, cells, hkept.idle quiet_nil (List.append_nil _).symm rfl rfl rfl ⟨rfl, rfl⟩
          (Or.inl rfl) (Nat.le_refl _)⟩, ⟨hchild.trans h.child, h.run, fun _ => h.early hearly,
          ⟨hrunnable, Or.inr hparent⟩⟩, stepLog_idle rfl rfl htouch⟩
      dsimp only at ht
      rcases hparent with hparent | hparent | ⟨d, hparent⟩
      · rw [hparent] at ht
        obtain ⟨thread, hstep, rfl⟩ := Option.map_eq_some_iff.mp ht
        simp only [LocThreadSystem.step, LocThreadSystem.parentStep, hparent, hrunnable] at hstep
        obtain rfl := Option.some.inj hstep
        exact hstay _ rfl rfl (Or.inr ⟨_, rfl⟩)
      · rw [hparent] at ht
        cases ht
        exact ⟨⟨taken, cells, hkept.idle quiet_use rfl rfl rfl rfl ⟨rfl, rfl⟩ (Or.inl rfl)
          (Nat.le_refl _)⟩, ⟨h.child, h.run, fun _ => h.early hearly, rfl⟩,
          stepLog_alive (halive hearly) (halive hearly) rfl (by simp)⟩
      · rw [hparent] at ht
        obtain ⟨thread, hstep, rfl⟩ := Option.map_eq_some_iff.mp ht
        simp only [LocThreadSystem.step, LocThreadSystem.parentStep, hparent] at hstep
        obtain rfl := Option.some.inj hstep
        refine hstay _ rfl hrunnable ?_
        cases (LocThreadSystem.destroy s.thread.mRefCount .parent d).2.1 with
        | none => exact Or.inl rfl
        | some next => exact Or.inr ⟨next, rfl⟩
  | running =>
      rw [howner] at ht
      cases ht
  | unblock thread =>
      have hearly : s.owner.early = true := by rw [howner]; rfl
      rw [howner] at ht hat
      cases ht
      obtain rfl : thread = false := hat
      exact ⟨⟨taken, cells, hkept.idle quiet_use rfl rfl rfl (msgList_msgQUnblock s.mQ) ⟨rfl, rfl⟩
        (Or.inl rfl) (Nat.le_refl _)⟩,
        ⟨h.child, h.run, fun hdone => absurd hdone Bool.false_ne_true, halive hearly⟩,
        stepLog_alive (halive hearly) (halive hearly) rfl (by simp)⟩
  | deleteThis =>
      rw [howner] at ht
      exact h.dtor_step hkept howner ht
  | done =>
      rw [howner] at ht
      cases ht
  | _ =>
      rw [howner] at hat
      exact absurd hat id

/-- Every step of a task without a thread. -/
theorem Unthreaded.step (h : s.Unthreaded) (hkept : s.Kept taken cells)
    (ht : MsgTaskSystem.step s i = some t) : NextUnthreaded s i t := by
  cases i with
  | sendMsg msg malloc =>
      cases ht
      cases msg with
      | false =>
          exact ⟨⟨taken, cells, hkept⟩, h, stepLog_idle rfl rfl (by simp [Touches])⟩
      | true =>
          obtain ⟨cells', hkept'⟩ := hkept.sendMsg true malloc
          obtain ⟨hthread, howner, hdtor, hmThread, hrun, -, e, hlog, he⟩ :=
            hkept.sendMsg_frame malloc
          refine ⟨⟨taken, cells', hkept'⟩, ⟨hthread ▸ h.child, hrun.trans h.run, ?_, ?_⟩,
            stepLog_touch _ hdtor hlog (by simp [he.symm]) (by simp) rfl⟩
          · rw [howner, hdtor]
            exact h.early
          · unfold OwnerAlone
            rw [howner, hdtor, hmThread, hthread]
            exact h.owner
  | destroy =>
      simp only [MsgTaskSystem.step] at ht
      split at ht
      · rename_i howner
        cases ht
        have hflush := h.early (by rw [howner]; rfl)
        have hgone : s.dtor ≠ .gone := by
          rw [hflush]
          nofun
        have hat := h.owner
        unfold OwnerAlone at hat
        rw [howner] at hat
        exact ⟨⟨taken, cells, hkept.idle quiet_use rfl rfl rfl rfl ⟨rfl, rfl⟩ (Or.inl rfl)
          (Nat.le_refl _)⟩, ⟨h.child, h.run, fun _ => hflush, hat⟩,
          stepLog_alive hgone hgone rfl (by simp)⟩
      · cases ht
  | owner => exact h.ownerStep hkept ht
  | worker =>
      simp only [MsgTaskSystem.step, MsgTaskSystem.worker, h.child, LocThreadSystem.step,
        LocThreadSystem.threadMain, Option.map_none] at ht
      cases ht

/-! ### The messages -/

/-- What every step keeps. `started` says whether there is a thread. -/
structure Sound (started : Bool) (s : MsgTaskSystem) : Prop where
  kept : ∃ taken cells, s.Kept taken cells
  threaded : started = true → s.Threaded
  unthreaded : started = false → s.Unthreaded
  count : s.log.count .deleteTask = if s.dtor = .gone then 1 else 0

variable {started : Bool}

theorem sound_init (started joinable : Bool) : (init started joinable).Sound started where
  kept := ⟨[], [], kept_init started joinable⟩
  threaded := fun h => h ▸ threaded_init joinable
  unthreaded := fun h => h ▸ unthreaded_init joinable
  count := by simp [init]

/-- The deletion of the task stands in the history once, when it is through. -/
theorem StepLog.count (h : StepLog s i t)
    (hs : s.log.count .deleteTask = if s.dtor = .gone then 1 else 0) :
    t.log.count .deleteTask = if t.dtor = .gone then 1 else 0 := by
  obtain ⟨es, hlog, halive, hgone⟩ := h
  rw [hlog, List.count_append, hs]
  by_cases hdtor : s.dtor = .gone
  · obtain ⟨hdtor', hes, -⟩ := hgone hdtor
    rw [if_pos hdtor, if_pos hdtor', List.count_eq_zero.mpr hes]
  · rcases halive hdtor with ⟨hdtor', hes⟩ | ⟨hdtor', rfl⟩
    · rw [if_neg hdtor, if_neg hdtor', List.count_eq_zero.mpr hes]
    · rw [if_neg hdtor, if_pos hdtor']
      rfl

theorem Sound.step (h : s.Sound started) (ht : MsgTaskSystem.step s i = some t) :
    t.Sound started ∧ StepLog s i t := by
  obtain ⟨taken, cells, hkept⟩ := h.kept
  cases started with
  | true =>
      obtain ⟨hkept', hthreaded, hlog⟩ := (h.threaded rfl).step hkept ht
      exact ⟨⟨hkept', fun _ => hthreaded, nofun, hlog.count h.count⟩, hlog⟩
  | false =>
      obtain ⟨hkept', hunthreaded, hlog⟩ := (h.unthreaded rfl).step hkept ht
      exact ⟨⟨hkept', nofun, fun _ => hunthreaded, hlog.count h.count⟩, hlog⟩

theorem Sound.mem_deleteTask (h : s.Sound started) : .deleteTask ∈ s.log ↔ s.dtor = .gone := by
  rw [← List.count_pos_iff, h.count]
  split <;> simp [*]

/-- What a task does with its messages. They are processed in the order in which they were accepted.
What is deleted was accepted, and it is not used afterwards. When the task itself is deleted, every
accepted message has been deleted once, processed or not. -/
structure Serves (s : MsgTaskSystem) : Prop where
  noFault : s.faulted = false
  sentOrder : (accepts s.log).Pairwise (· < ·)
  order : processes s.log <+: accepts s.log
  owned : ∀ msg ∈ deletes s.log, msg ∈ accepts s.log
  deletedLast : DeletedLast s.log
  deletedOnce : .deleteTask ∈ s.log → ∀ msg ∈ accepts s.log, (deletes s.log).count msg = 1

/-- A deleted task has nothing in its hands. -/
theorem Sound.inHand (h : s.Sound started) (hgone : s.dtor = .gone) : s.run.inHand = [] := by
  have hrun : s.run = .rcv := by
    cases started with
    | true =>
        by_contra hne
        have hflush := (h.threaded rfl).flush_of_run ((h.threaded rfl).idle hne)
        rw [hgone] at hflush
        cases hflush
    | false => exact (h.unthreaded rfl).run
  rw [hrun]
  rfl

theorem Sound.serves (h : s.Sound started) : s.Serves := by
  obtain ⟨taken, cells, hkept⟩ := h.kept
  have hmem : ∀ msg ∈ deletes s.log, msg ∈ accepts s.log := fun msg hmsg => by
    rw [hkept.accepted]
    exact List.mem_append_left _ (hkept.deleted.subset (List.mem_append_left _ hmsg))
  refine ⟨hkept.noFault, hkept.increasing, ?_, hmem, hkept.deletedLast, fun hdelete msg hmsg => ?_⟩
  · rw [hkept.accepted]
    exact ((List.prefix_append _ _).trans hkept.order).trans (List.prefix_append _ _)
  · have hgone := h.mem_deleteTask.mp hdelete
    have hcells := hkept.empty (hkept.destroyed.mpr (Or.inr hgone))
    have hdeleted := hkept.deleted
    rw [h.inHand hgone, List.append_nil] at hdeleted
    have hnodup := hkept.nodup
    rw [hkept.accepted, hcells] at hmsg
    rw [hcells] at hnodup
    rw [hdeleted.count_eq]
    exact List.count_eq_one_of_mem (List.nodup_append.mp hnodup).1 (by simpa [queued] using hmsg)

/-- Whatever the threads do and in whatever order, the messages are processed in the order in which
they were accepted, and each one is deleted once. -/
theorem along_serves (started joinable : Bool) (labels : List MsgTaskLabel) :
    Along step Serves (init started joinable) labels :=
  along_of_invariant (I := Sound started) (fun _ hs => hs.serves)
    (fun _ _ _ hs ht => (hs.step ht).1) labels _ (sound_init started joinable)

/-! ### What uses the task after its deletion -/

/-- Nothing has used the task after its deletion. The history says of each entry whether it uses the
task. -/
def UsedAlive (s : MsgTaskSystem) : Prop :=
  LastUse (fun _ => True) TaskEntry.usesTask .deleteTask s.log

/-- The condition on one step: a task that has been deleted is not touched from outside, by
`sendMsg` or by the write of `mThread` in `destroy`. What the worker does is not part of it. -/
def LeftAlone (s : MsgTaskSystem) (i : MsgTaskLabel) : Prop := s.dtor = .gone → ¬ s.Touches i

instance (s : MsgTaskSystem) (i : MsgTaskLabel) : Decidable (s.LeftAlone i) := by
  unfold LeftAlone
  infer_instance

/-- A step keeps the uses before the deletion if and only if it meets the condition. -/
theorem Sound.usedAlive_iff (h : s.Sound started) (hs : s.UsedAlive) (hlog : StepLog s i t) :
    t.UsedAlive ↔ s.LeftAlone i := by
  obtain ⟨es, hlog, halive, hgone⟩ := hlog
  unfold UsedAlive LeftAlone
  by_cases hdtor : s.dtor = .gone
  · obtain ⟨-, hdelete, huse⟩ := hgone hdtor
    rw [hlog, ← huse, forall_prop_of_true hdtor]
    constructor
    · intro hlast hmem
      obtain ⟨before, after, heq⟩ := List.append_of_mem (h.mem_deleteTask.mpr hdtor)
      have hnot := (hlast before (after ++ es) (by rw [heq]; simp)).2 .use
        (List.mem_append_right _ hmem)
      cases hnot
    · refine fun hnot => LastUse.append hs fun e he => ?_
      cases e with
      | use => exact absurd he hnot
      | deleteTask => exact absurd he hdelete
      | _ => exact ⟨rfl, nofun⟩
  · refine iff_of_true ?_ fun hgone => absurd hgone hdtor
    have hnot : .deleteTask ∉ s.log := fun hmem => hdtor (h.mem_deleteTask.mp hmem)
    rcases halive hdtor with ⟨-, hes⟩ | ⟨-, rfl⟩
    · intro before after heq
      refine absurd ?_ (not_or.mpr ⟨hnot, hes⟩)
      rw [← List.mem_append, ← hlog, heq]
      simp
    · rw [hlog]
      exact LastUse.concat hs (fun hmem => absurd hmem hnot) fun _ => trivial

/-- Whatever happens outside can happen at any time. -/
theorem not_touches_of_none (hnone : MsgTaskSystem.step s i = none) : ¬ s.Touches i := by
  intro htouch
  cases i with
  | sendMsg msg malloc => cases hnone
  | owner =>
      have howner : s.owner = .clearThread := htouch
      simp [MsgTaskSystem.step, MsgTaskSystem.ownerStep, howner] at hnone
  | destroy => exact htouch
  | worker => exact htouch

/-- Nothing uses the task after its deletion, in every state of a run, if and only if the deleted
task is left alone: `sendMsg` is not called any more, and `destroy` has cleared `mThread` before. -/
theorem along_usedAlive_iff (started joinable : Bool) (labels : List MsgTaskLabel) :
    Along step UsedAlive (init started joinable) labels ↔
      Guarded step LeftAlone (init started joinable) labels := by
  refine along_iff_guarded (I := fun s => Sound started s ∧ UsedAlive s) (fun s hs => hs.2) ?_ ?_ ?_
    labels _ ⟨sound_init started joinable, lastUse_nil⟩
  · intro s i t hs hok ht
    obtain ⟨hsound, hlog⟩ := hs.1.step ht
    exact ⟨hsound, (hs.1.usedAlive_iff hs.2 hlog).mpr hok⟩
  · intro s i t hs ht hused
    exact (hs.1.usedAlive_iff hs.2 (hs.1.step ht).2).mp hused
  · intro s i hs hnone _
    exact not_touches_of_none hnone

/-! ### What is left behind -/

/-- The task and every message that was handed to it have been deleted once. The messages count from
0, so those below `sent` are the ones that were handed over, also to a queue that did not accept
them. -/
def Clean (s : MsgTaskSystem) : Prop :=
  s.log.count .deleteTask = 1 ∧ ∀ msg < s.sent, (deletes s.log).count msg = 1

instance (s : MsgTaskSystem) : Decidable s.Clean := by
  unfold Clean
  infer_instance

/-- The queue has not been unblocked, as a test. -/
def isOpen (s : MsgTaskSystem) : Bool := s.mQ.any fun q => !q.unblocked

/-- The condition on one step: a message finds the queue open and memory for its element, and the
parent does not clear the runnable before the worker has read it. In the first two cases the message
is in no queue and nobody deletes it, in the third the task is not deleted. A null message is
nobody's. -/
def KeepsAll (s : MsgTaskSystem) : MsgTaskLabel → Prop
  | .sendMsg msg malloc => msg = true → malloc = true ∧ s.isOpen = true
  | .owner => s.thread.ReadFirst .parent
  | _ => True

instance (s : MsgTaskSystem) : ∀ i, Decidable (s.KeepsAll i)
  | .sendMsg msg _ => inferInstanceAs (Decidable (msg = true → _))
  | .owner => inferInstanceAs (Decidable (s.thread.ReadFirst .parent))
  | .destroy => inferInstanceAs (Decidable True)
  | .worker => inferInstanceAs (Decidable True)

theorem accepts_freedMsgs (freed : List Freed) :
    accepts (TaskEntry.use :: freedMsgs freed) = [] := by
  refine List.filterMap_eq_nil_iff.mpr fun e he => ?_
  rcases List.mem_cons.mp he with rfl | he
  · rfl
  · obtain ⟨f, -, heq⟩ := List.mem_filterMap.mp he
    obtain ⟨c, -, rfl⟩ := Option.map_eq_some_iff.mp heq
    rfl

/-- A step that sends and accepts nothing. -/
def SendsNone (s t : MsgTaskSystem) : Prop := t.sent = s.sent ∧ accepts t.log = accepts s.log

theorem sendsNone_append (es : List TaskEntry) (hsent : t.sent = s.sent)
    (hlog : t.log = s.log ++ es) (hes : accepts es = []) : SendsNone s t :=
  ⟨hsent, by rw [hlog, accepts_append, hes, List.append_nil]⟩

theorem sendsNone_returns {again : Bool} (ht : s.returns again = some t) : SendsNone s t := by
  obtain ⟨thread, -, rfl⟩ := Option.map_eq_some_iff.mp ht
  exact ⟨rfl, rfl⟩

theorem sendsNone_received
    {r : Option (Option (MsqQErrType × Option DataPtr) × Heap ListElement × Option MsgQ)}
    (ht : s.received r = some t) : SendsNone s t := by
  unfold received at ht
  split at ht
  · cases ht
    exact ⟨rfl, rfl⟩
  · dsimp only at ht
    split at ht
    · cases ht
      exact sendsNone_append [.use] rfl rfl rfl
    · cases ht
      exact sendsNone_append [.use] rfl rfl rfl
    · obtain ⟨hsent, haccepts⟩ := sendsNone_returns ht
      refine ⟨hsent, haccepts.trans ?_⟩
      rw [accepts_append]
      exact List.append_nil _

theorem sendsNone_runStep (ht : s.runStep = some t) : SendsNone s t := by
  unfold MsgTaskSystem.runStep at ht
  split at ht
  · exact sendsNone_received ht
  · exact sendsNone_received ht
  · cases ht
    exact sendsNone_append [.proc _] rfl rfl rfl
  · obtain ⟨hsent, haccepts⟩ := sendsNone_returns ht
    refine ⟨hsent, haccepts.trans ?_⟩
    unfold record
    rw [accepts_append]
    exact List.append_nil _

theorem sendsNone_dtorStep (s : MsgTaskSystem) : SendsNone s s.dtorStep := by
  unfold MsgTaskSystem.dtorStep
  split
  · cases msgQFlush s.heap s.mQ with
    | none => exact ⟨rfl, rfl⟩
    | some r => exact sendsNone_append _ rfl rfl (accepts_freedMsgs r.2.1)
  · cases msgQDestroy s.heap s.mQ with
    | none => exact ⟨rfl, rfl⟩
    | some r => exact sendsNone_append _ rfl rfl (accepts_freedMsgs r.2.1)
  · exact sendsNone_append [.deleteTask] rfl rfl rfl
  · exact sendsNone_append [.deleteTask] rfl rfl rfl

/-- Only `sendMsg` sends. -/
theorem sendsNone_step (ht : MsgTaskSystem.step s i = some t)
    (hi : ∀ malloc, i ≠ .sendMsg true malloc) : SendsNone s t := by
  cases i with
  | sendMsg msg malloc =>
      cases msg with
      | true => exact absurd rfl (hi malloc)
      | false =>
          cases ht
          exact ⟨rfl, rfl⟩
  | destroy =>
      simp only [MsgTaskSystem.step] at ht
      split at ht
      · cases ht
        exact sendsNone_append [.use] rfl rfl rfl
      · cases ht
  | owner =>
      simp only [MsgTaskSystem.step, MsgTaskSystem.ownerStep] at ht
      split at ht
      · split at ht
        · cases ht
          exact ⟨rfl, rfl⟩
        · cases ht
          exact sendsNone_append [.use] rfl rfl rfl
        · obtain ⟨thread, -, rfl⟩ := Option.map_eq_some_iff.mp ht
          exact ⟨rfl, rfl⟩
      · cases ht
      · cases ht
        exact sendsNone_append [.use] rfl rfl rfl
      · cases ht
        exact sendsNone_append [.use] rfl rfl rfl
      · obtain ⟨thread, -, rfl⟩ := Option.map_eq_some_iff.mp ht
        exact ⟨rfl, rfl⟩
      · split at ht
        · cases ht
          exact ⟨rfl, rfl⟩
        · obtain ⟨thread, -, rfl⟩ := Option.map_eq_some_iff.mp ht
          exact ⟨rfl, rfl⟩
      · split at ht <;> cases ht <;> exact sendsNone_dtorStep s
      · cases ht
  | worker =>
      simp only [MsgTaskSystem.step, MsgTaskSystem.worker] at ht
      split at ht
      · obtain ⟨thread, -, rfl⟩ := Option.map_eq_some_iff.mp ht
        exact sendsNone_append [.use] rfl rfl rfl
      · exact sendsNone_runStep ht
      · obtain ⟨thread, -, rfl⟩ := Option.map_eq_some_iff.mp ht
        exact sendsNone_append [.use] rfl rfl rfl
      · split at ht
        · cases ht
          exact sendsNone_dtorStep s
        · cases ht
          exact sendsNone_dtorStep s
        · obtain ⟨thread, -, rfl⟩ := Option.map_eq_some_iff.mp ht
          exact sendsNone_dtorStep s
      · obtain ⟨thread, -, rfl⟩ := Option.map_eq_some_iff.mp ht
        exact ⟨rfl, rfl⟩

/-- The thread stands still, or the child takes a step. -/
def ChildMoves (s t : MsgTaskSystem) : Prop :=
  t.thread = s.thread ∨ ∃ again, s.thread.step (.child again) = some t.thread

theorem childMoves_received
    {r : Option (Option (MsqQErrType × Option DataPtr) × Heap ListElement × Option MsgQ)}
    (ht : s.received r = some t) : ChildMoves s t := by
  unfold received at ht
  split at ht
  · cases ht
    exact Or.inl rfl
  · dsimp only at ht
    split at ht
    · cases ht
      exact Or.inl rfl
    · cases ht
      exact Or.inl rfl
    · exact Or.inr ⟨false, (returns_cases ht).1⟩

theorem childMoves_dtorStep (s : MsgTaskSystem) : s.dtorStep.thread = s.thread := by
  unfold MsgTaskSystem.dtorStep
  split
  · cases msgQFlush s.heap s.mQ <;> rfl
  · cases msgQDestroy s.heap s.mQ <;> rfl
  · rfl
  · rfl

theorem childMoves_worker (ht : s.worker = some t) : ChildMoves s t := by
  simp only [MsgTaskSystem.worker] at ht
  split at ht
  · obtain ⟨thread, hstep, rfl⟩ := Option.map_eq_some_iff.mp ht
    exact Or.inr ⟨false, hstep⟩
  · unfold MsgTaskSystem.runStep at ht
    split at ht
    · exact childMoves_received ht
    · exact childMoves_received ht
    · cases ht
      exact Or.inl rfl
    · exact Or.inr ⟨true, (returns_cases ht).1⟩
  · obtain ⟨thread, hstep, rfl⟩ := Option.map_eq_some_iff.mp ht
    exact Or.inr ⟨false, hstep⟩
  · split at ht
    · cases ht
      exact Or.inl (childMoves_dtorStep s)
    · cases ht
      exact Or.inl (childMoves_dtorStep s)
    · obtain ⟨thread, hstep, rfl⟩ := Option.map_eq_some_iff.mp ht
      rw [childMoves_dtorStep] at hstep
      exact Or.inr ⟨false, hstep⟩
  · obtain ⟨thread, hstep, rfl⟩ := Option.map_eq_some_iff.mp ht
    exact Or.inr ⟨false, hstep⟩

/-- The runnable of the thread is lost with the step at which the parent clears it too early. -/
theorem Threaded.thread_kept_iff (h : s.Threaded) (ht : MsgTaskSystem.step s i = some t) :
    t.thread.Kept ↔ s.thread.Kept ∧ (i = .owner → s.thread.ReadFirst .parent) := by
  have hsame : t.thread = s.thread → (i = .owner → s.thread.ReadFirst .parent) →
      (t.thread.Kept ↔ s.thread.Kept ∧ (i = .owner → s.thread.ReadFirst .parent)) := by
    intro hthread hread
    rw [hthread]
    exact (and_iff_left hread).symm
  have hne : s.thread.parent ≠ .clearRunnable → i = .owner → s.thread.ReadFirst .parent :=
    fun hne _ _ hclear => absurd hclear hne
  cases i with
  | sendMsg msg malloc =>
      cases ht
      refine hsame ?_ nofun
      unfold MsgTaskSystem.sendMsg
      split
      · cases msgQSnd s.heap s.mQ (some s.sent) (some locMsgDestroy) malloc <;> rfl
      · rfl
  | destroy =>
      simp only [MsgTaskSystem.step] at ht
      split at ht
      · cases ht
        exact hsame rfl nofun
      · cases ht
  | worker =>
      rcases childMoves_worker ht with hthread | ⟨again, hstep⟩
      · exact hsame hthread nofun
      · rw [LocThreadSystem.kept_step_iff h.owned hstep]
        exact and_congr_right fun _ => iff_of_true nofun nofun
  | owner =>
      have hparent : ∀ {thread}, s.thread.step .parent = some thread →
          (thread.Kept ↔ s.thread.Kept ∧ (MsgTaskLabel.owner = .owner →
            s.thread.ReadFirst .parent)) := fun hstep => by
        rw [LocThreadSystem.kept_step_iff h.owned hstep, forall_prop_of_true rfl]
      have hat := h.owner
      simp only [MsgTaskSystem.step, MsgTaskSystem.ownerStep] at ht
      cases howner : s.owner with
      | construct =>
          rw [howner] at ht
          dsimp only at ht
          split at ht
          · rename_i hstarted
            cases ht
            exact hsame rfl (hne (by rw [hstarted]; nofun))
          · rename_i hreleased
            cases ht
            exact hsame rfl (hne (by rw [hreleased]; nofun))
          · obtain ⟨thread, hstep, rfl⟩ := Option.map_eq_some_iff.mp ht
            exact hparent hstep
      | unblock thread =>
          rw [howner] at ht hat
          cases ht
          exact hsame rfl (hne (by rw [hat.2]; nofun))
      | clearThread =>
          rw [howner] at ht hat
          cases ht
          have hstarted : s.thread.parent = .started := hat
          exact hsame rfl (hne (by rw [hstarted]; nofun))
      | deleteThread =>
          rw [howner] at ht hat
          have hstarted : s.thread.parent = .started := hat
          obtain ⟨thread, hstep, rfl⟩ := Option.map_eq_some_iff.mp ht
          show thread.Kept ↔ _
          rw [LocThreadSystem.kept_step_iff h.owned hstep]
          exact and_congr_right fun _ => iff_of_true nofun (hne (by rw [hstarted]; nofun))
      | releasing =>
          rw [howner] at ht
          dsimp only at ht
          split at ht
          · rename_i hreleased
            cases ht
            exact hsame rfl (hne (by rw [hreleased]; nofun))
          · obtain ⟨thread, hstep, rfl⟩ := Option.map_eq_some_iff.mp ht
            exact hparent hstep
      | deleteThis =>
          rw [howner] at hat
          exact absurd hat id
      | _ =>
          rw [howner] at ht
          cases ht

/-- All messages so far have been accepted. -/
def AllAccepted (s : MsgTaskSystem) : Prop := ∀ msg < s.sent, msg ∈ accepts s.log

theorem isOpen_iff : s.isOpen = true ↔ s.Open := by
  unfold isOpen Open
  cases s.mQ with
  | none => simp
  | some q => simp

/-- A message that is sent is accepted if there is memory and the queue is open, and only then. -/
theorem Kept.sendMsg_cases (h : s.Kept taken cells) (malloc : Bool) :
    (s.sendMsg true malloc).sent = s.sent + 1 ∧
      ((malloc = true ∧ s.isOpen = true) ∧
          accepts (s.sendMsg true malloc).log = accepts s.log ++ [s.sent] ∨
        ¬ (malloc = true ∧ s.isOpen = true) ∧
          accepts (s.sendMsg true malloc).log = accepts s.log) := by
  simp only [isOpen_iff]
  unfold MsgTaskSystem.sendMsg
  rw [if_pos rfl]
  rcases msgQSnd_cases h.list (some s.sent) (some locMsgDestroy) malloc with ⟨err, heq, herr⟩ |
    ⟨q, obj, heap, l, hq, hopen, hobj, heq, -, -⟩
  · rw [heq]
    refine ⟨rfl, Or.inr ⟨?_, ?_⟩⟩
    · rintro ⟨rfl, q, hq, hopen⟩
      obtain ⟨l, hl, hholds⟩ := h.list q hq
      obtain ⟨heap, l', hadd, -⟩ := linkedListAdd_eq hholds s.sent (some locMsgDestroy)
      unfold msgQSnd at heq
      rw [hq] at heq
      dsimp only at heq
      rw [if_neg (by rw [hopen]; simp), hl, hadd] at heq
      exact herr (Prod.mk.inj (Option.some.inj heq)).1.symm
    · show accepts (s.log ++ [TaskEntry.use, if err = .success then _ else _]) = _
      rw [if_neg herr, accepts_append]
      exact List.append_nil _
  · cases hobj
    have hmalloc : malloc = true := by
      cases malloc with
      | true => rfl
      | false =>
          obtain ⟨l', hl, -⟩ := h.list q hq
          unfold msgQSnd at heq
          rw [hq] at heq
          dsimp only at heq
          rw [if_neg (by rw [hopen]; simp), hl] at heq
          cases heq
    rw [heq]
    exact ⟨rfl, Or.inl ⟨⟨hmalloc, q, hq, hopen⟩, accepts_append⟩⟩

/-- Nothing has been lost: the worker will delete the task or has done so, and all messages have
been accepted. -/
def Complete (started : Bool) (s : MsgTaskSystem) : Prop :=
  (started = true → s.thread.Kept) ∧ s.AllAccepted

/-- A step loses the task or a message if and only if it does not meet the condition. -/
theorem Sound.complete_iff (h : s.Sound started) (ht : MsgTaskSystem.step s i = some t) :
    t.Complete started ↔ s.Complete started ∧ s.KeepsAll i := by
  obtain ⟨taken, cells, hkept⟩ := h.kept
  -- without a thread there is nothing to lose but messages
  have hthread : (started = true → t.thread.Kept) ↔
      (started = true → s.thread.Kept) ∧ (i = .owner → s.thread.ReadFirst .parent) := by
    cases started with
    | true =>
        rw [forall_prop_of_true rfl, forall_prop_of_true rfl]
        exact (h.threaded rfl).thread_kept_iff ht
    | false =>
        refine iff_of_true nofun ⟨nofun, fun hi _ _ => ?_⟩
        rw [(h.unthreaded rfl).child]
        nofun
  have hmsgs : t.AllAccepted ↔ s.AllAccepted ∧
      ∀ malloc, i = .sendMsg true malloc → malloc = true ∧ s.isOpen = true := by
    by_cases hi : ∃ malloc, i = .sendMsg true malloc
    · obtain ⟨malloc, rfl⟩ := hi
      cases ht
      obtain ⟨hsent, hcases⟩ := hkept.sendMsg_cases malloc
      unfold AllAccepted
      rw [hsent]
      rcases hcases with ⟨hok, haccepts⟩ | ⟨hnot, haccepts⟩
      · rw [haccepts]
        constructor
        · refine fun hall => ⟨fun msg hmsg => ?_, fun malloc' heq => by cases heq; exact hok⟩
          have hmem := List.mem_append.mp (hall msg (Nat.lt_succ_of_lt hmsg))
          refine hmem.resolve_right fun hmem => ?_
          exact absurd (List.mem_singleton.mp hmem) (Nat.ne_of_lt hmsg)
        · rintro ⟨hall, -⟩ msg hmsg
          rcases Nat.lt_succ_iff_lt_or_eq.mp hmsg with hlt | rfl
          · exact List.mem_append_left _ (hall msg hlt)
          · exact List.mem_append_right _ (List.mem_singleton_self _)
      · rw [haccepts]
        refine iff_of_false (fun hall => ?_) fun hall => hnot (hall.2 malloc rfl)
        exact absurd (hkept.bounded _ (hall s.sent (Nat.lt_succ_self _))) (Nat.lt_irrefl _)
    · obtain ⟨hsent, haccepts⟩ := sendsNone_step ht fun malloc heq => hi ⟨malloc, heq⟩
      unfold AllAccepted
      rw [hsent, haccepts]
      exact (and_iff_left fun malloc heq => absurd ⟨malloc, heq⟩ hi).symm
  have hkeeps : s.KeepsAll i ↔ (i = .owner → s.thread.ReadFirst .parent) ∧
      ∀ malloc, i = .sendMsg true malloc → malloc = true ∧ s.isOpen = true := by
    cases i with
    | sendMsg msg malloc =>
        refine (and_iff_right nofun).symm.trans (and_congr_right fun _ => ?_)
        constructor
        · intro hmsg malloc' heq
          cases heq
          exact hmsg rfl
        · rintro hmsg rfl
          exact hmsg malloc rfl
    | owner => exact ⟨fun hread => ⟨fun _ => hread, nofun⟩, fun hboth => hboth.1 rfl⟩
    | destroy => exact iff_of_true trivial ⟨nofun, nofun⟩
    | worker => exact iff_of_true trivial ⟨nofun, nofun⟩
  unfold Complete
  rw [hthread, hmsgs, hkeeps]
  exact and_and_and_comm

/-- At the end everything is deleted if and only if nothing has been lost. -/
theorem Sound.clean_iff (h : s.Sound started) (hfinished : s.finished) :
    s.Clean ↔ s.Complete started := by
  obtain ⟨howner, hchild⟩ := hfinished
  have hgone : s.dtor = .gone ↔ (started = true → s.thread.Kept) := by
    cases started with
    | true =>
        rw [forall_prop_of_true rfl, ← (h.threaded rfl).gone]
        refine ⟨fun hmem => ⟨fun hread => ?_, fun _ => hmem⟩, fun hkept => hkept.past ?_⟩
        · rw [hchild] at hread
          cases hread
        · rw [hchild]
          rfl
    | false =>
        have hat := (h.unthreaded rfl).owner
        unfold OwnerAlone at hat
        rw [howner] at hat
        exact iff_of_true hat nofun
  have hcount : s.log.count .deleteTask = 1 ↔ s.dtor = .gone := by
    rw [h.count]
    by_cases hdtor : s.dtor = .gone
    · simp [hdtor]
    · simp only [hdtor, if_false, Nat.zero_ne_one]
  unfold Clean Complete
  rw [hcount, ← hgone]
  refine and_congr_right fun hdtor => forall₂_congr fun msg hmsg => ?_
  have hserves := h.serves
  constructor
  · intro hone
    exact hserves.owned msg (List.count_pos_iff.mp (hone ▸ Nat.one_pos))
  · exact hserves.deletedOnce (h.mem_deleteTask.mpr hdtor) msg

/-- In every run in which the owner and the worker get through, the task and every message handed
to it are deleted once if and only if every message finds the queue open and memory for its element,
and the parent does not clear the runnable before the worker has read it. -/
theorem clean_iff_guarded (started joinable : Bool) {labels : List MsgTaskLabel}
    {t : MsgTaskSystem} (hrun : LabelledRun.run step (init started joinable) labels = some t)
    (hfinished : t.finished) :
    t.Clean ↔ Guarded step KeepsAll (init started joinable) labels := by
  have hinit : (init started joinable).Complete started :=
    ⟨fun h => h ▸ LocThreadSystem.kept_init joinable,
      fun msg hmsg => absurd hmsg (Nat.not_lt_zero _)⟩
  rcases guarded_or_of_lost (P := fun s => Sound started s ∧ Complete started s)
    (Q := fun s => Sound started s ∧ ¬ Complete started s)
    (fun s i t hs hok ht => ⟨(hs.1.step ht).1, (hs.1.complete_iff ht).mpr ⟨hs.2, hok⟩⟩)
    (fun s i t hs hok ht => ⟨(hs.1.step ht).1, fun h => hok ((hs.1.complete_iff ht).mp h).2⟩)
    (fun s i t hs ht => ⟨(hs.1.step ht).1, fun h => hs.2 ((hs.1.complete_iff ht).mp h).1⟩)
    labels _ t ⟨sound_init started joinable, hinit⟩ hrun with hguarded | hlost
  · exact iff_of_true ((hguarded.2.1.clean_iff hfinished).mpr hguarded.2.2) hguarded.1
  · exact iff_of_false (fun hclean => hlost.2.2 ((hlost.2.1.clean_iff hfinished).mp hclean)) hlost.1

/-- A detached task that processes one message and has another one in the queue when it is
destroyed. -/
def twoMessages : List MsgTaskLabel :=
  List.replicate 3 .owner ++ List.replicate 5 .worker ++ [.sendMsg true true] ++
    List.replicate 5 .worker ++ [.sendMsg true true, .destroy] ++ List.replicate 7 .owner ++
    List.replicate 14 .worker

theorem clean_twoMessages :
    ((LabelledRun.run step (init true false) twoMessages).get (by decide)).Clean :=
  (@clean_iff_guarded true false twoMessages
    ((LabelledRun.run step (init true false) twoMessages).get (by decide)) (by simp)
    (by decide)).mpr (by decide)

/-- The worker, which `destroy` has unblocked, deletes the task before `destroy` goes on. -/
def deletedFirst : List MsgTaskLabel :=
  List.replicate 3 .owner ++ List.replicate 5 .worker ++ [.destroy, .owner] ++
    List.replicate 9 .worker ++ [.owner]

example : ¬ Guarded step LeftAlone (init true false) deletedFirst := by decide

end MsgTaskSystem

end LocHal.Util
