import LocHal.Util.LocThread
import LocHal.Util.MsgQ

/-!
# `LocHal.Util.MsgTask`: the thread that processes the messages

A `MsgTask` is a message queue and the runnable of a `LocThread` that receives from it. Any thread
can call `sendMsg`; the worker receives a message, processes it and deletes it; the owner creates
the task and calls `destroy` once, which unblocks the queue and deletes the thread. The task deletes
itself: `threadMain` deletes its runnable, or `destroy` does when there is no thread.

`MsgTaskSystem.step` is one step of one of them, on top of `LocThreadSystem.step` for the thread and
of the functions of `msg_q.c` for the queue. A message is known by its place among the calls of
`sendMsg`: no address is used twice.

The history tells what has happened: which messages the queue has accepted and refused, which were
processed and deleted, and each access to the task. `Kept` is about the messages in it. Those that
have left the queue and those that are in it are, in this order, all that were accepted. The ones
that have left are processed in this order, but for the one that `run` has in its hands and those
that the destructor frees with the queue. All of them are deleted, but for the one in hand.

`DeletedLast` is the part of it on memory: the last use of a message is its deletion. A step that
moves no message keeps all of this (`Kept.idle`), and the steps that move one are `Kept.sendMsg`,
`Kept.received_some`, `Kept.runStep` and, when the queue is destroyed with messages in it,
`Kept.free`.
-/

set_option autoImplicit false

namespace LocHal.Util

open CellHeap LabelledRun

/-- `LocMsgDestroy`, which the queue calls on the messages that it frees. -/
def locMsgDestroy : DeallocFunc := 0

/-- The next step in `MsgTask::run`. -/
inductive RunStep where
  | rcv
  | waiting
  | proc (msg : DataPtr)
  | delete (msg : DataPtr)
  deriving DecidableEq, Repr

/-- The next step of the owner. `construct` is `LocThread::start` in the constructor, `unblock` and
the steps after it are those of `MsgTask::destroy`, which has read `thread`, and `releasing` is the
destructor of `LocThread`. -/
inductive OwnerStep where
  | construct
  | running
  | unblock (thread : Bool)
  | clearThread
  | deleteThread
  | releasing
  | deleteThis
  | done
  deriving DecidableEq, Repr

/-- The next step of the destructor of `MsgTask`. -/
inductive DtorStep where
  | flush
  | destroy
  | free
  | gone
  deriving DecidableEq, Repr

/-- One entry of the history. `use` is an access to the task or to its queue, and `refused` a
message that `msg_q_snd` did not take. -/
inductive TaskEntry where
  | accepted (msg : DataPtr)
  | refused (msg : DataPtr)
  | proc (msg : DataPtr)
  | deleteMsg (msg : DataPtr)
  | use
  | deleteTask
  deriving DecidableEq, Repr

namespace TaskEntry

/-- The accepted message. -/
def accepted? : TaskEntry → Option DataPtr
  | .accepted msg => some msg
  | _ => none

/-- The processed message. -/
def proc? : TaskEntry → Option DataPtr
  | .proc msg => some msg
  | _ => none

/-- The deleted message. -/
def deleteMsg? : TaskEntry → Option DataPtr
  | .deleteMsg msg => some msg
  | _ => none

/-- The messages that the history accepts, processes and deletes. -/
def accepts (log : List TaskEntry) : List DataPtr := log.filterMap accepted?

def processes (log : List TaskEntry) : List DataPtr := log.filterMap proc?

def deletes (log : List TaskEntry) : List DataPtr := log.filterMap deleteMsg?

/-- The entry is a use of a message. -/
def usesMsg (msg : DataPtr) : TaskEntry → Bool
  | .proc m => m == msg
  | .deleteMsg m => m == msg
  | _ => false

/-- The entry is a use of the task. -/
def usesTask : TaskEntry → Bool
  | .use => true
  | .deleteTask => true
  | _ => false

end TaskEntry

/-- A task with the next step of each side and the history. `mThread` says that the member is not
null, `sent` counts the messages handed to `sendMsg`, and `faulted` says whether a call has accessed
an element of the queue that was not live. -/
structure MsgTaskSystem where
  thread : LocThreadSystem
  heap : Heap ListElement
  mQ : Option MsgQ
  mThread : Bool
  run : RunStep
  owner : OwnerStep
  dtor : DtorStep
  sent : DataPtr
  faulted : Bool
  log : List TaskEntry

/-- What can happen next. `msg` says whether the pointer is not null, and `malloc` whether the
queue can allocate its element. -/
inductive MsgTaskLabel where
  | sendMsg (msg malloc : Bool)
  | destroy
  | owner
  | worker
  deriving DecidableEq, Repr

namespace MsgTaskSystem

open TaskEntry (accepts processes deletes)

/-- The delegate of a thread that could not be created. -/
def notCreated : LocThreadSystem where
  mRunnable := false
  mJoinable := false
  mRefCount := 1
  child := .returned
  parent := .checkRunning
  log := []

/-- The queue is new, and the constructor has called `start`. `started` says whether the thread
could be created. -/
def init (started joinable : Bool) : MsgTaskSystem where
  thread := if started then LocThreadSystem.init joinable else notCreated
  heap := .empty
  mQ := some msgQInit
  mThread := true
  run := .rcv
  owner := .construct
  dtor := .flush
  sent := 0
  faulted := false
  log := []

/-- A call has accessed an element that is not live. -/
def fault (s : MsgTaskSystem) : MsgTaskSystem := { s with faulted := true }

/-- More entries of the history. -/
def record (s : MsgTaskSystem) (es : List TaskEntry) : MsgTaskSystem :=
  { s with log := s.log ++ es }

/-- `MsgTask::sendMsg`, which does not look at what `msg_q_snd` returns. -/
def sendMsg (s : MsgTaskSystem) (msg malloc : Bool) : MsgTaskSystem :=
  if msg then
    (msgQSnd s.heap s.mQ (some s.sent) (some locMsgDestroy) malloc).elim s.fault
      fun (rv, heap, mQ) =>
        { s with
          heap := heap, mQ := mQ, sent := s.sent + 1
          log := s.log ++ [.use, if rv = .success then .accepted s.sent else .refused s.sent] }
  else s

/-- `run` returns to `threadMain`. -/
def returns (s : MsgTaskSystem) (again : Bool) : Option MsgTaskSystem :=
  (s.thread.step (.child again)).map fun thread => { s with thread := thread, run := .rcv }

/-- The worker goes on with what `msg_q_rcv` has done: it waits, or it has a message, or `run`
returns false. -/
def received (s : MsgTaskSystem)
    (r : Option (Option (MsqQErrType × Option DataPtr) × Heap ListElement × Option MsgQ)) :
    Option MsgTaskSystem :=
  match r with
  | none => some s.fault
  | some (got, heap, mQ) =>
      let s' : MsgTaskSystem := { s with heap := heap, mQ := mQ, log := s.log ++ [.use] }
      match got with
      | none => some { s' with run := .waiting }
      | some (.success, some msg) => some { s' with run := .proc msg }
      | some _ => s'.returns false

/-- One step in `MsgTask::run`. -/
def runStep (s : MsgTaskSystem) : Option MsgTaskSystem :=
  match s.run with
  | .rcv => s.received (msgQRcv s.heap s.mQ true)
  | .waiting => s.received (s.mQ.bind (msgQRcvLoop s.heap))
  | .proc msg => some { s with run := .delete msg, log := s.log ++ [.proc msg] }
  | .delete msg => (s.record [.deleteMsg msg]).returns true

/-- The calls of the function of the freed elements. -/
def freedMsgs (freed : List Freed) : List TaskEntry :=
  freed.filterMap fun f => f.call.map fun c => .deleteMsg c.2

/-- One step of `MsgTask::~MsgTask` before the memory of the task is freed. -/
def dtorStep (s : MsgTaskSystem) : MsgTaskSystem :=
  match s.dtor with
  | .flush =>
      (msgQFlush s.heap s.mQ).elim s.fault fun (_, freed, heap, mQ) =>
        { s with
          heap := heap, mQ := mQ, dtor := .destroy
          log := s.log ++ TaskEntry.use :: freedMsgs freed }
  | .destroy =>
      (msgQDestroy s.heap s.mQ).elim s.fault fun (_, freed, heap, mQ) =>
        { s with
          heap := heap, mQ := mQ, dtor := .free
          log := s.log ++ TaskEntry.use :: freedMsgs freed }
  | .free => { s with dtor := .gone, log := s.log ++ [.deleteTask] }
  | .gone => { s with log := s.log ++ [.deleteTask] }

/-- One step of the worker. -/
def worker (s : MsgTaskSystem) : Option MsgTaskSystem :=
  let thread (s : MsgTaskSystem) : Option MsgTaskSystem :=
    (s.thread.step (.child false)).map fun thread => { s with thread := thread }
  match s.thread.child with
  | .prerun => thread (s.record [.use])
  | .run => s.runStep
  | .postrun => thread (s.record [.use])
  | .deleteRunnable =>
      -- the destructor, and then the thread goes on
      match s.dtor with
      | .flush => some s.dtorStep
      | .destroy => some s.dtorStep
      | _ => thread s.dtorStep
  | _ => thread s

/-- One step of the owner inside a call. -/
def ownerStep (s : MsgTaskSystem) : Option MsgTaskSystem :=
  let thread (i : ThreadLabel) (next : OwnerStep) : Option MsgTaskSystem :=
    (s.thread.step i).map fun thread => { s with thread := thread, owner := next }
  match s.owner with
  | .construct =>
      match s.thread.parent with
      | .started => some { s with owner := .running }
      | .released =>
          -- `start` has failed
          some { s with mThread := false, owner := .running, log := s.log ++ [.use] }
      | _ => thread .parent .construct
  | .running => none
  | .unblock thread =>
      some { s with
        mQ := (msgQUnblock s.mQ).2
        owner := if thread then .clearThread else .deleteThis
        log := s.log ++ [.use] }
  | .clearThread =>
      some { s with mThread := false, owner := .deleteThread, log := s.log ++ [.use] }
  | .deleteThread => thread .deleteThread .releasing
  | .releasing =>
      if s.thread.parent = .released then some { s with owner := .done }
      else thread .parent .releasing
  | .deleteThis =>
      match s.dtor with
      | .flush => some s.dtorStep
      | .destroy => some s.dtorStep
      | _ => some { s.dtorStep with owner := .done }
  | .done => none

/-- One step. `destroy` is called once. -/
def step (s : MsgTaskSystem) : MsgTaskLabel → Option MsgTaskSystem
  | .sendMsg msg malloc => some (s.sendMsg msg malloc)
  | .destroy =>
      if s.owner = .running then
        some { s with owner := .unblock s.mThread, log := s.log ++ [.use] }
      else none
  | .owner => s.ownerStep
  | .worker => s.worker

/-- The owner and the worker are through. -/
def finished (s : MsgTaskSystem) : Prop := s.owner = .done ∧ s.thread.child = .returned

instance (s : MsgTaskSystem) : Decidable s.finished := by
  unfold finished
  infer_instance

/-! ### The histories -/

section
variable {log es : List TaskEntry} {msg : DataPtr} {ms : List DataPtr}

@[simp] theorem accepts_append : accepts (log ++ es) = accepts log ++ accepts es :=
  List.filterMap_append

@[simp] theorem processes_append : processes (log ++ es) = processes log ++ processes es :=
  List.filterMap_append

@[simp] theorem deletes_append : deletes (log ++ es) = deletes log ++ deletes es :=
  List.filterMap_append

@[simp] theorem accepts_map_deleteMsg : accepts (ms.map .deleteMsg) = [] := by
  simp [accepts, TaskEntry.accepted?]

@[simp] theorem processes_map_deleteMsg : processes (ms.map .deleteMsg) = [] := by
  simp [processes, TaskEntry.proc?]

@[simp] theorem deletes_map_deleteMsg : deletes (ms.map .deleteMsg) = ms := by
  simp [deletes, TaskEntry.deleteMsg?, Function.comp_def]

@[simp] theorem mem_deletes : msg ∈ deletes log ↔ .deleteMsg msg ∈ log := by
  unfold deletes
  rw [List.mem_filterMap]
  constructor
  · rintro ⟨e, he, heq⟩
    cases e with
    | deleteMsg m =>
        cases heq
        exact he
    | _ => cases heq
  · exact fun h => ⟨_, h, rfl⟩

/-- The entries accept, process and delete nothing. -/
def Quiet (es : List TaskEntry) : Prop := accepts es = [] ∧ processes es = [] ∧ deletes es = []

theorem quiet_nil : Quiet [] := ⟨rfl, rfl, rfl⟩

theorem quiet_use : Quiet [.use] := ⟨rfl, rfl, rfl⟩

theorem Quiet.usesMsg (h : Quiet es) (msg : DataPtr) :
    ∀ e ∈ es, e.usesMsg msg = false ∧ e ≠ .deleteMsg msg := by
  obtain ⟨-, hprocesses, hdeletes⟩ := h
  intro e he
  have hproc := List.filterMap_eq_nil_iff.mp hprocesses e he
  have hdelete := List.filterMap_eq_nil_iff.mp hdeletes e he
  cases e with
  | proc m => cases hproc
  | deleteMsg m => cases hdelete
  | _ => exact ⟨rfl, by simp⟩

/-- The last use of every message is its deletion. -/
def DeletedLast (log : List TaskEntry) : Prop :=
  ∀ msg, LastUse (fun _ => True) (TaskEntry.usesMsg msg) (.deleteMsg msg) log

theorem DeletedLast.quiet (h : DeletedLast log) (hes : Quiet es) : DeletedLast (log ++ es) :=
  fun msg => (h msg).append (hes.usesMsg msg)

theorem DeletedLast.accept (h : DeletedLast log) (msg : DataPtr) :
    DeletedLast (log ++ [.accepted msg]) :=
  fun m => (h m).concat (fun _ => ⟨rfl, by simp⟩) fun _ => trivial

theorem DeletedLast.proc (h : DeletedLast log) (hnot : msg ∉ deletes log) :
    DeletedLast (log ++ [.proc msg]) := by
  refine fun m => (h m).concat (fun hmem => ⟨?_, by simp⟩) fun _ => trivial
  refine beq_eq_false_iff_ne.mpr fun heq => hnot ?_
  rw [heq]
  exact mem_deletes.mpr hmem

/-- Messages that have not been deleted yet are deleted one after the other. -/
theorem DeletedLast.delete (h : DeletedLast log) (hnodup : (deletes log ++ ms).Nodup) :
    DeletedLast (log ++ ms.map .deleteMsg) := by
  induction ms generalizing log with
  | nil => rwa [List.map_nil, List.append_nil]
  | cons msg ms ih =>
      have hnot : msg ∉ deletes log := fun hmem =>
        (List.nodup_append.mp hnodup).2.2 msg hmem msg List.mem_cons_self rfl
      rw [List.map_cons, List.append_cons]
      refine ih (fun m => (h m).concat (fun hmem => ?_) fun _ => trivial) ?_
      · have hne : msg ≠ m := fun heq => hnot (heq ▸ mem_deletes.mpr hmem)
        exact ⟨beq_eq_false_iff_ne.mpr hne, by simp [hne]⟩
      · have hone : deletes [.deleteMsg msg] = [msg] := rfl
        rw [deletes_append, hone, List.append_assoc]
        exact hnodup

end

end MsgTaskSystem

/-! ### The messages of a task -/

/-- The message that `run` still has to process. -/
def RunStep.unprocessed : RunStep → List DataPtr
  | .proc msg => [msg]
  | _ => []

/-- The message that `run` still has to delete. -/
def RunStep.inHand : RunStep → List DataPtr
  | .proc msg => [msg]
  | .delete msg => [msg]
  | _ => []

namespace MsgTaskSystem

open TaskEntry (accepts processes deletes)

/-- The messages in the queue, oldest first. -/
def queued (cells : List Held) : List DataPtr := (cells.map fun c => c.2.1).reverse

/-- What every step keeps about the messages: `taken` have left the queue and `cells` are in it,
from head to tail. -/
structure Kept (s : MsgTaskSystem) (taken : List DataPtr) (cells : List Held) : Prop where
  noFault : s.faulted = false
  list : ∀ q, s.mQ = some q → ∃ l, q.msgList = some l ∧ l.Holds s.heap cells
  destroyed : s.mQ = none ↔ s.dtor = .free ∨ s.dtor = .gone
  empty : s.mQ = none → cells = []
  dealloc : ∀ c ∈ cells, c.2.2 = some locMsgDestroy
  accepted : accepts s.log = taken ++ queued cells
  increasing : (accepts s.log).Pairwise (· < ·)
  bounded : ∀ msg ∈ accepts s.log, msg < s.sent
  order : processes s.log ++ s.run.unprocessed <+: taken
  unflushed : s.dtor = .flush → taken = processes s.log ++ s.run.unprocessed
  deleted : (deletes s.log ++ s.run.inHand).Perm taken
  deletedLast : DeletedLast s.log

variable {s t : MsgTaskSystem} {taken : List DataPtr} {cells : List Held}

theorem kept_init (started joinable : Bool) : (init started joinable).Kept [] [] where
  noFault := rfl
  list := fun q hq => by
    cases hq
    exact ⟨_, rfl, holds_init _⟩
  destroyed := by simp [init]
  empty := fun _ => rfl
  dealloc := fun c hc => by cases hc
  accepted := rfl
  increasing := .nil
  bounded := fun msg hmsg => by cases hmsg
  order := List.prefix_rfl
  unflushed := fun _ => rfl
  deleted := .nil
  deletedLast := fun _ => lastUse_nil

/-- No message is accepted twice. -/
theorem Kept.nodup (h : s.Kept taken cells) : (taken ++ queued cells).Nodup := by
  rw [← h.accepted]
  exact h.increasing.imp fun hlt => Nat.ne_of_lt hlt

/-- What is deleted and what is in the hands of `run` are different messages. -/
theorem Kept.nodup_deleted (h : s.Kept taken cells) : (deletes s.log ++ s.run.inHand).Nodup :=
  h.deleted.nodup_iff.mpr (List.nodup_append.mp h.nodup).1

/-- A step that moves no message. -/
theorem Kept.idle (h : s.Kept taken cells) {es : List TaskEntry} (hes : Quiet es)
    (hlog : t.log = s.log ++ es) (hheap : t.heap = s.heap) (hfaulted : t.faulted = s.faulted)
    (hqueue : t.mQ.map MsgQ.msgList = s.mQ.map MsgQ.msgList)
    (hrun : t.run.unprocessed = s.run.unprocessed ∧ t.run.inHand = s.run.inHand)
    (hdtor : t.dtor = s.dtor ∨ s.dtor = .free ∧ t.dtor = .gone) (hsent : s.sent ≤ t.sent) :
    t.Kept taken cells := by
  obtain ⟨haccepts, hprocesses, hdeletes⟩ := hes
  have hnone : t.mQ = none ↔ s.mQ = none := by
    rw [← Option.map_eq_none_iff, hqueue, Option.map_eq_none_iff]
  have haccepts' : accepts t.log = accepts s.log := by
    rw [hlog, accepts_append, haccepts, List.append_nil]
  have hprocesses' : processes t.log = processes s.log := by
    rw [hlog, processes_append, hprocesses, List.append_nil]
  have hdeletes' : deletes t.log = deletes s.log := by
    rw [hlog, deletes_append, hdeletes, List.append_nil]
  refine ⟨hfaulted.trans h.noFault, fun q hq => ?_, ?_, fun hq => h.empty (hnone.mp hq), h.dealloc,
    haccepts' ▸ h.accepted, haccepts' ▸ h.increasing, fun msg hmsg => ?_, ?_, fun hflush => ?_, ?_,
    hlog ▸ h.deletedLast.quiet ⟨haccepts, hprocesses, hdeletes⟩⟩
  · rw [hq, Option.map_some, eq_comm, Option.map_eq_some_iff] at hqueue
    obtain ⟨q', hq', hlist⟩ := hqueue
    obtain ⟨l, hl, hholds⟩ := h.list q' hq'
    exact ⟨l, hlist ▸ hl, hheap ▸ hholds⟩
  · rw [hnone, h.destroyed]
    rcases hdtor with hdtor | ⟨hfree, hgone⟩
    · rw [hdtor]
    · rw [hfree, hgone]
      simp
  · exact Nat.lt_of_lt_of_le (h.bounded msg (haccepts' ▸ hmsg)) hsent
  · rw [hprocesses', hrun.1]
    exact h.order
  · rw [hprocesses', hrun.1]
    refine h.unflushed ?_
    rcases hdtor with hdtor | ⟨-, hgone⟩
    · exact hdtor ▸ hflush
    · rw [hgone] at hflush
      cases hflush
  · rw [hdeletes', hrun.2]
    exact h.deleted

/-- A message is sent: the queue takes it, or it does not. -/
theorem Kept.sendMsg (h : s.Kept taken cells) (msg malloc : Bool) :
    ∃ cells', (s.sendMsg msg malloc).Kept taken cells' := by
  cases msg with
  | false => exact ⟨cells, h⟩
  | true =>
      unfold MsgTaskSystem.sendMsg
      rw [if_pos rfl]
      rcases msgQSnd_cases h.list (some s.sent) (some locMsgDestroy) malloc with ⟨err, heq, herr⟩ |
        ⟨q, obj, heap, l, hq, -, hobj, heq, hholds, -⟩ <;> rw [heq]
      · refine ⟨cells, h.idle (show Quiet [.use, .refused s.sent] from ⟨rfl, rfl, rfl⟩) ?_
          rfl rfl rfl ⟨rfl, rfl⟩ (Or.inl rfl) (Nat.le_succ _)⟩
        exact congrArg (fun e => s.log ++ [TaskEntry.use, e]) (if_neg herr)
      · cases hobj
        have hqueued : queued ((s.heap.cells.length, s.sent, some locMsgDestroy) :: cells)
            = queued cells ++ [s.sent] := List.reverse_cons
        have haccepts : accepts (s.log ++ [.use, .accepted s.sent]) = accepts s.log ++ [s.sent] :=
          accepts_append
        have hprocesses : processes (s.log ++ [.use, .accepted s.sent]) = processes s.log := by
          rw [processes_append]
          exact List.append_nil _
        have hdeletes : deletes (s.log ++ [.use, .accepted s.sent]) = deletes s.log := by
          rw [deletes_append]
          exact List.append_nil _
        have hsome : s.mQ ≠ none := by rw [hq]; simp
        refine ⟨(s.heap.cells.length, s.sent, some locMsgDestroy) :: cells, ?_⟩
        exact
          { noFault := h.noFault
            list := fun q' hq' => by
              cases hq'
              exact ⟨l, rfl, hholds⟩
            destroyed := iff_of_false (by simp) fun hgone => hsome (h.destroyed.mpr hgone)
            empty := fun hnone => by cases hnone
            dealloc := List.forall_mem_cons.mpr ⟨rfl, h.dealloc⟩
            accepted := by
              rw [hqueued, ← List.append_assoc, ← h.accepted]
              exact haccepts
            increasing := by
              refine haccepts ▸ List.pairwise_append.mpr
                ⟨h.increasing, List.pairwise_singleton _ _, fun m hm m' hm' => ?_⟩
              obtain rfl := List.mem_singleton.mp hm'
              exact h.bounded m hm
            bounded := fun m hm => by
              rcases List.mem_append.mp (haccepts ▸ hm) with hm | hm
              · exact Nat.lt_succ_of_lt (h.bounded m hm)
              · obtain rfl := List.mem_singleton.mp hm
                exact Nat.lt_succ_self _
            order := hprocesses ▸ h.order
            unflushed := fun hflush => (h.unflushed hflush).trans (hprocesses ▸ rfl)
            deleted := hdeletes ▸ h.deleted
            deletedLast := by
              have hlast := (h.deletedLast.quiet quiet_use).accept s.sent
              rwa [List.append_assoc] at hlast }

theorem unprocessed_of_inHand {r : RunStep} (h : r.inHand = []) : r.unprocessed = [] := by
  cases r with
  | proc msg => cases h
  | _ => rfl

/-- `run` returns with nothing in its hands. -/
theorem Kept.returns (h : s.Kept taken cells) (hhand : s.run.inHand = []) {again : Bool}
    (ht : s.returns again = some t) : t.Kept taken cells := by
  obtain ⟨thread, -, rfl⟩ := Option.map_eq_some_iff.mp ht
  exact h.idle quiet_nil (List.append_nil _).symm rfl rfl rfl
    ⟨(unprocessed_of_inHand hhand).symm, hhand.symm⟩ (Or.inl rfl) (Nat.le_refl _)

/-- A receive gives nothing to the worker. -/
theorem Kept.received_none (h : s.Kept taken cells) (hhand : s.run.inHand = [])
    (got : Option (MsqQErrType × Option DataPtr)) (hgot : ∀ msg, got ≠ some (.success, some msg))
    (ht : s.received (some (got, s.heap, s.mQ)) = some t) : t.Kept taken cells := by
  have huse : Kept { s with log := s.log ++ [.use] } taken cells :=
    h.idle quiet_use rfl rfl rfl rfl ⟨rfl, rfl⟩ (Or.inl rfl) (Nat.le_refl _)
  unfold received at ht
  dsimp only at ht
  split at ht
  · cases ht
    exact huse.idle quiet_nil (List.append_nil _).symm rfl rfl rfl
      ⟨(unprocessed_of_inHand hhand).symm, hhand.symm⟩ (Or.inl rfl) (Nat.le_refl _)
  · exact absurd rfl (hgot _)
  · exact huse.returns hhand ht

/-- A receive gives the oldest message to the worker. -/
theorem Kept.received_some {q : MsgQ} {c : Held} {rest : List Held} {heap : Heap ListElement}
    {l : ListState} (h : s.Kept taken (rest ++ [c])) (hhand : s.run.inHand = [])
    (hq : s.mQ = some q) (hflush : s.dtor = .flush) (hholds : l.Holds heap rest) :
    Kept { s with
      heap := heap, mQ := some { q with msgList := some l }
      run := .proc c.2.1, log := s.log ++ [.use] } (taken ++ [c.2.1]) rest := by
  have hqueued : queued (rest ++ [c]) = c.2.1 :: queued rest := by simp [queued]
  have htaken : taken = processes s.log := by
    rw [h.unflushed hflush, unprocessed_of_inHand hhand, List.append_nil]
  have haccepts : accepts (s.log ++ [.use]) = accepts s.log := by
    rw [accepts_append]
    exact List.append_nil _
  have hprocesses : processes (s.log ++ [.use]) = processes s.log := by
    rw [processes_append]
    exact List.append_nil _
  have hdeletes : deletes (s.log ++ [.use]) = deletes s.log := by
    rw [deletes_append]
    exact List.append_nil _
  have hnone : s.mQ ≠ none := by rw [hq]; simp
  exact
    { noFault := h.noFault
      list := fun q' hq' => by
        cases hq'
        exact ⟨l, rfl, hholds⟩
      destroyed := iff_of_false (by simp) fun hgone => hnone (h.destroyed.mpr hgone)
      empty := fun hnone => by cases hnone
      dealloc := fun c' hc' => h.dealloc c' (List.mem_append_left _ hc')
      accepted := by
        rw [haccepts, h.accepted, hqueued, List.append_assoc]
        rfl
      increasing := haccepts ▸ h.increasing
      bounded := fun msg hmsg => h.bounded msg (haccepts ▸ hmsg)
      order := by
        rw [hprocesses, htaken]
        exact List.prefix_rfl
      unflushed := fun _ => by
        rw [hprocesses, htaken]
        rfl
      deleted := by
        have hdeleted := h.deleted
        rw [hhand, List.append_nil] at hdeleted
        rw [hdeletes]
        exact hdeleted.append_right _
      deletedLast := h.deletedLast.quiet quiet_use }

/-- A receive that runs the loop. -/
theorem Kept.rcvLoop (h : s.Kept taken cells) (hhand : s.run.inHand = [])
    (hflush : s.dtor = .flush) {q : MsgQ} (hq : s.mQ = some q)
    (ht : s.received (msgQRcvLoop s.heap q) = some t) :
    ∃ taken' cells', t.Kept taken' cells' := by
  obtain ⟨l, hl, hholds⟩ := h.list q hq
  rcases msgQRcvLoop_cases hl hholds with heq | heq |
    ⟨rest, c, heap, l', rfl, -, heq, hholds', -⟩ <;> rw [heq] at ht
  · exact ⟨taken, cells, h.received_none hhand none (by simp) (hq ▸ ht)⟩
  · exact ⟨taken, cells, h.received_none hhand (some (.unavailableResource, none)) (by simp)
      (hq ▸ ht)⟩
  · cases ht
    exact ⟨_, _, h.received_some hhand hq hflush hholds'⟩

/-- One step in `run`. -/
theorem Kept.runStep (h : s.Kept taken cells) (hflush : s.dtor = .flush)
    (ht : s.runStep = some t) : ∃ taken' cells', t.Kept taken' cells' := by
  unfold MsgTaskSystem.runStep at ht
  cases hrun : s.run with
  | rcv =>
      have hhand : s.run.inHand = [] := by rw [hrun]; rfl
      rw [hrun] at ht
      dsimp only at ht
      unfold msgQRcv at ht
      cases hq : s.mQ with
      | none =>
          rw [hq] at ht
          exact ⟨taken, cells, h.received_none hhand (some (.invalidHandle, none)) (by simp)
            (hq ▸ ht)⟩
      | some q =>
          rw [hq] at ht
          dsimp only at ht
          rw [if_pos rfl] at ht
          split at ht
          · exact ⟨taken, cells, h.received_none hhand
              (some (.unavailableResource, none)) (by simp) (hq ▸ ht)⟩
          · exact h.rcvLoop hhand hflush hq ht
  | waiting =>
      have hhand : s.run.inHand = [] := by rw [hrun]; rfl
      rw [hrun] at ht
      dsimp only at ht
      cases hq : s.mQ with
      | none =>
          have hgone := h.destroyed.mp hq
          rw [hflush] at hgone
          simp at hgone
      | some q =>
          rw [hq] at ht
          exact h.rcvLoop hhand hflush hq ht
  | proc msg =>
      rw [hrun] at ht
      cases ht
      have hinHand : s.run.inHand = [msg] := by rw [hrun]; rfl
      have hunprocessed : s.run.unprocessed = [msg] := by rw [hrun]; rfl
      have hprocesses : processes (s.log ++ [.proc msg]) = processes s.log ++ [msg] :=
        processes_append
      have haccepts : accepts (s.log ++ [.proc msg]) = accepts s.log := by
        rw [accepts_append]
        exact List.append_nil _
      have hdeletes : deletes (s.log ++ [.proc msg]) = deletes s.log := by
        rw [deletes_append]
        exact List.append_nil _
      have hnot : msg ∉ deletes s.log := fun hmem =>
        (List.nodup_append.mp (hinHand ▸ h.nodup_deleted)).2.2 msg hmem msg
          (List.mem_singleton_self _) rfl
      have hunflushed := h.unflushed
      have horder := h.order
      have hdeleted := h.deleted
      rw [hunprocessed] at hunflushed horder
      rw [hinHand] at hdeleted
      refine ⟨taken, cells, h.noFault, h.list, h.destroyed, h.empty, h.dealloc,
        haccepts ▸ h.accepted, haccepts ▸ h.increasing, haccepts ▸ h.bounded, ?_, fun _ => ?_,
        hdeletes ▸ hdeleted, h.deletedLast.proc hnot⟩
      · exact hprocesses ▸ (List.append_nil _).symm ▸ horder
      · exact (hunflushed hflush).trans (hprocesses ▸ (List.append_nil _).symm)
  | delete msg =>
      rw [hrun] at ht
      obtain ⟨thread, -, rfl⟩ := Option.map_eq_some_iff.mp ht
      have hinHand : s.run.inHand = [msg] := by rw [hrun]; rfl
      have hunprocessed : s.run.unprocessed = [] := by rw [hrun]; rfl
      have hprocesses : processes (s.log ++ [.deleteMsg msg]) = processes s.log := by
        rw [processes_append]
        exact List.append_nil _
      have haccepts : accepts (s.log ++ [.deleteMsg msg]) = accepts s.log := by
        rw [accepts_append]
        exact List.append_nil _
      have hdeletes : deletes (s.log ++ [.deleteMsg msg]) = deletes s.log ++ [msg] :=
        deletes_append
      have hunflushed := h.unflushed
      have horder := h.order
      have hdeleted := h.deleted
      have hnodup := h.nodup_deleted
      rw [hunprocessed] at hunflushed horder
      rw [hinHand] at hdeleted hnodup
      refine ⟨taken, cells, h.noFault, h.list, h.destroyed, h.empty, h.dealloc,
        haccepts ▸ h.accepted, haccepts ▸ h.increasing, haccepts ▸ h.bounded, ?_, fun hflush => ?_,
        ?_, h.deletedLast.delete hnodup⟩
      · exact hprocesses ▸ horder
      · exact (hunflushed hflush).trans (hprocesses ▸ rfl)
      · exact hdeletes ▸ (List.append_nil _).symm ▸ hdeleted

/-- The function of the freed elements deletes their messages. -/
theorem freedMsgs_eq (hdealloc : ∀ c ∈ cells, c.2.2 = some locMsgDestroy) :
    freedMsgs (cells.map Held.freed) = (cells.map fun c => c.2.1).map .deleteMsg := by
  induction cells with
  | nil => rfl
  | cons c cells ih =>
      obtain ⟨hc, hrest⟩ := List.forall_mem_cons.mp hdealloc
      have hcall : c.freed.call = some (locMsgDestroy, c.2.1) := by
        unfold Held.freed
        rw [hc]
        rfl
      rw [List.map_cons, List.map_cons, List.map_cons, ← ih hrest]
      unfold freedMsgs
      rw [List.filterMap_cons, hcall]
      rfl

/-- All messages of the queue are deleted. -/
theorem Kept.free (h : s.Kept taken cells) (hhand : s.run.inHand = [])
    (hlog : t.log = s.log ++ TaskEntry.use :: freedMsgs (cells.map Held.freed))
    (hlist : ∀ q, t.mQ = some q → q.msgList = some linkedListInit)
    (hdtor : t.mQ = none ↔ t.dtor = .free ∨ t.dtor = .gone) (hflush : t.dtor ≠ .flush)
    (hrun : t.run = s.run) (hfaulted : t.faulted = s.faulted) (hsent : t.sent = s.sent) :
    t.Kept (taken ++ queued cells) [] := by
  obtain ⟨ms, hms⟩ : ∃ ms, ms = cells.map fun c => c.2.1 := ⟨_, rfl⟩
  have hqueued : queued cells = ms.reverse := by rw [hms]; rfl
  rw [freedMsgs_eq h.dealloc, ← hms, List.append_cons] at hlog
  have haccepts : accepts t.log = accepts s.log := by
    rw [hlog, accepts_append, accepts_append, accepts_map_deleteMsg]
    simp [accepts, TaskEntry.accepted?]
  have hprocesses : processes t.log = processes s.log := by
    rw [hlog, processes_append, processes_append, processes_map_deleteMsg]
    simp [processes, TaskEntry.proc?]
  have hone : deletes (s.log ++ [.use]) = deletes s.log := by
    rw [deletes_append]
    exact List.append_nil _
  have hdeletes : deletes t.log = deletes s.log ++ ms := by
    rw [hlog, deletes_append, hone, deletes_map_deleteMsg]
  have hdeleted := h.deleted
  rw [hhand, List.append_nil] at hdeleted
  have hperm : (deletes s.log ++ ms).Perm (taken ++ queued cells) := by
    rw [hqueued]
    exact hdeleted.append (List.reverse_perm ms).symm
  exact
    { noFault := hfaulted.trans h.noFault
      list := fun q hq => ⟨_, hlist q hq, holds_init _⟩
      destroyed := hdtor
      empty := fun _ => rfl
      dealloc := fun c hc => by cases hc
      accepted := by
        rw [haccepts, h.accepted]
        exact (List.append_nil _).symm
      increasing := haccepts ▸ h.increasing
      bounded := fun msg hmsg => hsent ▸ h.bounded msg (haccepts ▸ hmsg)
      order := by
        rw [hprocesses, hrun]
        exact h.order.trans (List.prefix_append _ _)
      unflushed := fun heq => absurd heq hflush
      deleted := by
        rw [hdeletes, hrun, hhand, List.append_nil]
        exact hperm
      deletedLast := by
        rw [hlog]
        refine (h.deletedLast.quiet quiet_use).delete ?_
        rw [hone]
        exact hperm.nodup_iff.mpr h.nodup }

/-- The queue is there until the destructor destroys it. -/
theorem Kept.exists_mQ (h : s.Kept taken cells) (hdtor : s.dtor = .flush ∨ s.dtor = .destroy) :
    ∃ q, s.mQ = some q := by
  refine Option.ne_none_iff_exists'.mp fun hnone => ?_
  have hdestroyed := h.destroyed.mp hnone
  rcases hdtor with hdtor | hdtor <;> simp [hdtor] at hdestroyed

/-- One step of the destructor. -/
theorem Kept.dtorStep (h : s.Kept taken cells) (hhand : s.run.inHand = [])
    (hgone : s.dtor ≠ .gone) :
    ∃ taken' cells', s.dtorStep.Kept taken' cells' ∧ s.dtorStep.run = s.run := by
  unfold MsgTaskSystem.dtorStep
  cases hdtor : s.dtor with
  | flush =>
      obtain ⟨q, hq⟩ := h.exists_mQ (Or.inl hdtor)
      obtain ⟨l, hl, hholds⟩ := h.list q hq
      obtain ⟨heap, heq, -⟩ := msgQFlush_eq hl hholds
      rw [hq, heq]
      refine ⟨_, _, h.free hhand rfl (fun q' hq' => ?_) ?_ ?_ rfl rfl rfl, rfl⟩
      · cases hq'
        rfl
      · simp
      · simp
  | destroy =>
      obtain ⟨q, hq⟩ := h.exists_mQ (Or.inr hdtor)
      obtain ⟨l, hl, hholds⟩ := h.list q hq
      obtain ⟨heap, heq, -⟩ := msgQDestroy_eq hl hholds
      rw [hq, heq]
      refine ⟨_, _, h.free hhand rfl (fun q' hq' => ?_) ?_ ?_ rfl rfl rfl, rfl⟩
      · cases hq'
      · simp
      · simp
  | free =>
      exact ⟨taken, cells, h.idle (show Quiet [.deleteTask] from ⟨rfl, rfl, rfl⟩) rfl rfl rfl rfl
        ⟨rfl, rfl⟩ (Or.inr ⟨hdtor, rfl⟩) (Nat.le_refl _), rfl⟩
  | gone => exact absurd hdtor hgone

end MsgTaskSystem

end LocHal.Util
