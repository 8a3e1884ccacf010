import Mathlib.Algebra.Group.Int.Defs
import Mathlib.Algebra.Group.Nat.Defs
import Mathlib.Logic.Function.Basic
import LocHal.Lib.LabelledRun
import LocHal.Util.LocHeap

/-!
# `LocHal.Util.LocTimer`: the timer service of `LocTimer.cpp`

One `LocTimerContainer` with any number of `LocTimer` clients. Three kinds of threads touch
it, and the state `LocTimerService` is what they share:

* clients call `LocTimer::start` and `LocTimer::stop`. Both hold the lock of the timer, so
  each is one step. A start allocates a `LocTimerDelegate` and queues `MsgTimerPush`; a stop
  clears `mClient` and queues `MsgTimerRemove`.
* the poll thread waits in `epoll_wait` and then runs `LocTimerContainer::expire`, which is
  three steps: it disarms the timerfd, removes the fd from the poll set and queues
  `MsgTimerExpire`. No lock is held across them (`PollPc`).
* the `MsgTask` takes the messages in FIFO order. `MsgTimerPush` and `MsgTimerRemove` are one
  step each. `MsgTimerExpire` runs the expire loop, and client calls can come between its
  parts: the read of `mClient` in `LocTimerDelegate::expire`, the call of `LocTimer::stop`
  under the lock and the call of `timeOutCallback` are separate steps (`MsgPc`).

`step` is the labelled machine. The label `pollTask` moves the poll thread, `msgTask` moves
the `MsgTask`, and `tick` moves the clock, which never goes back. The kernel is modelled by
what the code uses of it: `timerfd_settime` with a zero value disarms the fd and with another
value arms it, `epoll_ctl` adds or deletes the fd (adding it twice changes nothing), and
`epoll_wait` returns when the fd is in the poll set and its armed time has passed. The fd is
never read, so it stays readable until the next `timerfd_settime`.

`latest` and `fired` record history for the theorems: the delegate of the latest successful
start of each timer, and one `Firing` for each call of `timeOutCallback`.
-/

set_option autoImplicit false

namespace LocHal.Util

open LabelledRun

/-! ### Times -/

/-- `struct timespec`. -/
structure Timespec where
  tvSec : Int
  tvNsec : Int
  deriving DecidableEq, Repr

namespace Timespec

/-- The all-zero `timespec`, which disarms a timerfd. -/
def zero : Timespec := ⟨0, 0⟩

/-- A reading is at or before another one. -/
def Le (a b : Timespec) : Prop := a.tvSec < b.tvSec ∨ (a.tvSec = b.tvSec ∧ a.tvNsec ≤ b.tvNsec)

instance : LE Timespec := ⟨Le⟩

instance (a b : Timespec) : Decidable (a ≤ b) :=
  inferInstanceAs (Decidable (a.tvSec < b.tvSec ∨ (a.tvSec = b.tvSec ∧ a.tvNsec ≤ b.tvNsec)))

theorem le_def {a b : Timespec} :
    a ≤ b ↔ a.tvSec < b.tvSec ∨ (a.tvSec = b.tvSec ∧ a.tvNsec ≤ b.tvNsec) := Iff.rfl

/-- A clock reading: a normalised, positive time since boot. -/
def Reading (a : Timespec) : Prop :=
  0 ≤ a.tvSec ∧ 0 ≤ a.tvNsec ∧ a.tvNsec < 1000000000 ∧ a ≠ zero

instance (a : Timespec) : Decidable a.Reading :=
  inferInstanceAs (Decidable (_ ∧ _ ∧ _ ∧ _))

/-- The deadline that `LocTimer::start` computes from a clock reading. -/
def addMs (now : Timespec) (timeOutInMs : Nat) : Timespec :=
  let tvSec := now.tvSec + (timeOutInMs / 1000 : Nat)
  let tvNsec := now.tvNsec + (timeOutInMs % 1000 * 1000000 : Nat)
  if tvNsec ≥ 1000000000 then ⟨tvSec + tvNsec / 1000000000, tvNsec % 1000000000⟩
  else ⟨tvSec, tvNsec⟩

end Timespec

/-- The conversion of a `long` to the `int` that `LocTimerDelegate::ranks` returns. -/
def intOfLong (x : Int) : Int := x.bmod (2 ^ 32)

/-- `LocTimerDelegate::ranks` on the two deadlines. A larger time ranks lower. -/
def rankTimes (self rankable : Timespec) : Int :=
  let rank := intOfLong (rankable.tvSec - self.tvSec)
  if rank = 0 then intOfLong (rankable.tvNsec - self.tvNsec) else rank

/-! ### The state -/

/-- The address of a `LocTimer`. -/
abbrev TimerId := Nat

/-- The address of a `LocTimerDelegate`. -/
abbrev DelegateId := Nat

/-- `LocTimerDelegate`. `mContainer` says whether the pointer is still set, and `deleted`
whether `MsgTimerRemove` has deleted the object. -/
structure LocTimerDelegate where
  mClient : Option TimerId
  mFutureTime : Timespec
  mContainer : Bool
  deleted : Bool
  deriving DecidableEq, Repr

/-- The messages of the timer `MsgTask`. -/
inductive TimerMsg where
  | timerPush (mTimer : DelegateId)
  | timerRemove (mTimer : DelegateId)
  | timerExpire
  deriving DecidableEq, Repr

/-- Where the poll thread is: in `epoll_wait`, or before one of the three calls of
`LocTimerContainer::expire`. -/
inductive PollPc where
  | epollWait
  | disarm
  | removePoll
  | sendMsg
  deriving DecidableEq, Repr

/-- Where the `MsgTask` is: between two messages, or in the expire loop with a popped delegate
whose `mClient` it is about to read, before `client->stop()`, or before
`client->timeOutCallback()`. `timerOfNow` is the clock reading of the message. -/
inductive MsgPc where
  | receive
  | readClient (timerOfNow : Timespec) (timer : DelegateId)
  | stopClient (timerOfNow : Timespec) (client : TimerId)
  | callback (timerOfNow : Timespec) (client : TimerId)
  deriving DecidableEq, Repr

/-- One call of `timeOutCallback`: the timer, the clock, and the deadline of the delegate that
the latest successful start of the timer created. -/
structure Firing where
  timer : TimerId
  clock : Timespec
  deadline : Option Timespec
  deriving DecidableEq, Repr

/-- One `LocTimerContainer` with its clients, its fd, the poll thread and the `MsgTask`. -/
structure LocTimerService where
  now : Timespec
  mTimer : TimerId → Option DelegateId
  delegate : DelegateId → LocTimerDelegate
  allocated : Nat
  mTree : LocHeapNode DelegateId
  queue : List TimerMsg
  armed : Option Timespec
  polled : Bool
  poll : PollPc
  msg : MsgPc
  latest : TimerId → Option DelegateId
  fired : List Firing

namespace LocTimerService

/-- The service before the first start. The clock has left zero. -/
def init : LocTimerService where
  now := ⟨0, 1⟩
  mTimer := fun _ => none
  delegate := fun _ => ⟨none, ⟨0, 1⟩, false, false⟩
  allocated := 0
  mTree := .null
  queue := []
  armed := none
  polled := false
  poll := .epollWait
  msg := .receive
  latest := fun _ => none
  fired := []

/-- `LocTimerDelegate::ranks` on two delegates of the heap. -/
def ranks (s : LocTimerService) (a b : DelegateId) : Int :=
  rankTimes (s.delegate a).mFutureTime (s.delegate b).mFutureTime

/-- `sendMsg` of the `MsgTask`. -/
def sendMsg (s : LocTimerService) (m : TimerMsg) : LocTimerService :=
  { s with queue := s.queue ++ [m] }

/-- `timerfd_settime` with `TFD_TIMER_ABSTIME`. -/
def timerfdSettime (s : LocTimerService) (itValue : Timespec) : LocTimerService :=
  { s with armed := if itValue = .zero then none else some itValue }

/-- `LocTimerPollTask::addPoll`. -/
def addPoll (s : LocTimerService) : LocTimerService := { s with polled := true }

/-- `LocTimerPollTask::removePoll`. -/
def removePoll (s : LocTimerService) : LocTimerService := { s with polled := false }

/-! ### Client calls -/

/-- `LocTimer::start`. -/
def start (s : LocTimerService) (timer : TimerId) (timeOutInMs : UInt32) :
    LocTimerService × Bool :=
  match s.mTimer timer with
  | some _ => (s, false)
  | none =>
      let futureTime := s.now.addMs timeOutInMs.toNat
      let d := s.allocated
      (sendMsg { s with
        mTimer := Function.update s.mTimer timer (some d)
        delegate := Function.update s.delegate d ⟨some timer, futureTime, true, false⟩
        allocated := d + 1
        latest := Function.update s.latest timer (some d) } (.timerPush d), true)

/-- `LocTimerDelegate::destroyLocked`. -/
def destroyLocked (s : LocTimerService) (d : DelegateId) : LocTimerService :=
  let s' := { s with
    delegate := Function.update s.delegate d
      { s.delegate d with mClient := none, mContainer := false } }
  if (s.delegate d).mContainer then s'.sendMsg (.timerRemove d) else s'

/-- `LocTimer::stop`. -/
def stop (s : LocTimerService) (timer : TimerId) : LocTimerService × Bool :=
  match s.mTimer timer with
  | none => (s, false)
  | some d =>
      (destroyLocked { s with mTimer := Function.update s.mTimer timer none } d, true)

/-! ### The poll thread -/

/-- The next step of the poll thread: the return of `epoll_wait`, and then
`LocTimerContainer::expire`. -/
def pollTask (s : LocTimerService) : Option LocTimerService :=
  match s.poll with
  | .epollWait =>
      match s.polled, s.armed with
      | true, some t => if t ≤ s.now then some { s with poll := .disarm } else none
      | _, _ => none
  | .disarm => some { s.timerfdSettime .zero with poll := .removePoll }
  | .removePoll => some { s.removePoll with poll := .sendMsg }
  | .sendMsg => some { s.sendMsg .timerExpire with poll := .epollWait }

/-! ### The `MsgTask` -/

/-- `LocTimerContainer::updateSoonestTime`. -/
def updateSoonestTime (s : LocTimerService) (priorTop : Option DelegateId) : LocTimerService :=
  let curTop := s.mTree.peek
  -- check if top has changed
  if curTop ≠ priorTop then
    match curTop, priorTop with
    | none, _ => s.removePoll.timerfdSettime .zero
    | some cur, none => s.addPoll.timerfdSettime (s.delegate cur).mFutureTime
    | some cur, some prior =>
        if LocHeapNode.outRanks s.ranks cur prior then
          s.addPoll.timerfdSettime (s.delegate cur).mFutureTime
        else s
  else s

/-- `MsgTimerPush::proc`. -/
def procPush (s : LocTimerService) (d : DelegateId) : LocTimerService :=
  let priorTop := s.mTree.peek
  updateSoonestTime { s with mTree := s.mTree.push s.ranks d } priorTop

/-- `MsgTimerRemove::proc`. The comparison with the removed object also holds when the heap is
empty and nothing is removed. -/
def procRemove (s : LocTimerService) (d : DelegateId) : LocTimerService :=
  let priorTop := s.mTree.peek
  let removed := s.mTree.remove s.ranks d
  let s' := match removed with
    | some (_, tree) => { s with mTree := tree }
    | none => s
  let s'' := if priorTop = removed.map Prod.fst then updateSoonestTime s' none else s'
  { s'' with delegate := Function.update s''.delegate d { s''.delegate d with deleted := true } }

/-- The end of the expire loop: `updateSoonestTime(NULL)`, and the message is done. -/
def finishExpire (s : LocTimerService) : LocTimerService :=
  { s.updateSoonestTime none with msg := .receive }

/-- `MsgTimerExpire::proc` up to the first `timer->expire()`. The first `pop` is
unconditional. -/
def procExpire (s : LocTimerService) : LocTimerService :=
  match s.mTree.pop s.ranks with
  | some (timer, tree) => { s with mTree := tree, msg := .readClient s.now timer }
  | none => s.finishExpire

/-- The next round of the expire loop, with `LocTimerContainer::popIfOutRanks`. -/
def nextExpire (s : LocTimerService) (timerOfNow : Timespec) : LocTimerService :=
  match s.mTree.peek with
  | none => s.finishExpire
  | some top =>
      if rankTimes timerOfNow (s.delegate top).mFutureTime > 0 then s.finishExpire
      else
        match s.mTree.pop s.ranks with
        | some (timer, tree) => { s with mTree := tree, msg := .readClient timerOfNow timer }
        | none => s.finishExpire

/-- The next step of the `MsgTask`. -/
def msgTask (s : LocTimerService) : Option LocTimerService :=
  match s.msg with
  | .receive =>
      match s.queue with
      | [] => none
      | .timerPush d :: queue => some (procPush { s with queue := queue } d)
      | .timerRemove d :: queue => some (procRemove { s with queue := queue } d)
      | .timerExpire :: queue => some (procExpire { s with queue := queue })
  | .readClient timerOfNow timer =>
      match (s.delegate timer).mClient with
      | none => some (s.nextExpire timerOfNow)
      | some client => some { s with msg := .stopClient timerOfNow client }
  | .stopClient timerOfNow client =>
      match s.stop client with
      | (s', true) => some { s' with msg := .callback timerOfNow client }
      | (s', false) => some (s'.nextExpire timerOfNow)
  | .callback timerOfNow client =>
      let deadline := (s.latest client).map fun d => (s.delegate d).mFutureTime
      some (nextExpire { s with fired := s.fired ++ [⟨client, s.now, deadline⟩] } timerOfNow)

/-! ### The machine -/

/-- What can happen next. -/
inductive Action where
  | tick (now : Timespec)
  | start (timer : TimerId) (timeOutInMs : UInt32)
  | stop (timer : TimerId)
  | pollTask
  | msgTask
  deriving DecidableEq, Repr

/-- One step of the service. -/
def step (s : LocTimerService) : Action → Option LocTimerService
  | .tick now => if s.now ≤ now ∧ now.Reading then some { s with now := now } else none
  | .start timer timeOutInMs => some (s.start timer timeOutInMs).1
  | .stop timer => some (s.stop timer).1
  | .pollTask => s.pollTask
  | .msgTask => s.msgTask

/-- The states that the service reaches from `init`. -/
def Reachable (s : LocTimerService) : Prop := ∃ actions, run step init actions = some s

end LocTimerService

end LocHal.Util
