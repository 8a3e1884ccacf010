import LocHal.Lib.LabelledRun
import LocHal.Util.LocTimerClient

/-!
# `LocHal.Gnss.Odcpi`: the ODCPI requests of `GnssAdapter.cpp`

The modem asks for a position on demand (ODCPI). `reportOdcpiRequest` passes the request on to
the framework, and `mOdcpiTimer` repeats it every ten seconds while it is active. `OdcpiTimer`
has a flag of its own beside the `LocTimer` that it extends.

A function of the adapter is modelled by the list of operations that it executes (`OdcpiOp`). The
branches read fields that only the thread of the adapter writes, so the list is known at its
start, and the timer threads can run between two operations. `OdcpiSystem` is the adapter with its
message queue and the timer service. The callback of the timer queues `MsgOdcpiTimerExpire`.

`not_stuck` says that an active request always has a running timer, a callback in progress or an
expiry in the queue. `run_processed` says that the fields of the adapter are those after the
processed messages, taken one after the other.

`Live` is the invariant. It says of every moment, also in the middle of a message, what the rest of
the message leads to: `armedAfter` runs the operations that are left on the one fact whether the
timer is armed. A step of the timer service on its own does not lose a running timer or a callback
(`pending_step`), and the callback queues an expiry, so an armed timer stays armed until the adapter
takes the expiry. That message starts the timer again if the request is still active.
-/

set_option autoImplicit false

namespace LocHal.Gnss

open LabelledRun
open LocHal.Util

/-- `OdcpiRequestType`. -/
inductive OdcpiRequestType where
  | start
  | stop
  deriving DecidableEq, Repr

/-- `OdcpiRequestInfo`, without its size. -/
structure OdcpiRequestInfo where
  type : OdcpiRequestType
  tbfMillis : UInt32
  isEmergencyMode : Bool
  deriving DecidableEq, Repr

/-- The ODCPI fields of `GnssAdapter`. `mActive` is the flag of `mOdcpiTimer`. -/
structure OdcpiAdapter where
  mOdcpiRequestCb : Bool
  mOdcpiRequestActive : Bool
  mActive : Bool
  mOdcpiRequest : OdcpiRequestInfo
  deriving DecidableEq, Repr

/-- The messages of the adapter. -/
inductive OdcpiMsg where
  | reportOdcpiRequest (request : OdcpiRequestInfo)
  | restartSessions
  | odcpiTimerExpire
  deriving DecidableEq, Repr

/-- One operation of a function of the adapter. -/
inductive OdcpiOp where
  | requestCb (request : OdcpiRequestInfo)
  | setRequestActive (active : Bool)
  | setRequest (request : OdcpiRequestInfo)
  | setActive (active : Bool)
  | startLocTimer
  | stopLocTimer
  deriving DecidableEq, Repr

namespace OdcpiTimer

/-- `OdcpiTimer::start`. -/
def start : List OdcpiOp := [.setActive true, .startLocTimer]

/-- `OdcpiTimer::stop`. -/
def stop : List OdcpiOp := [.setActive false, .stopLocTimer]

/-- `OdcpiTimer::restart`. -/
def restart : List OdcpiOp := stop ++ start

end OdcpiTimer

namespace OdcpiAdapter

/-- The constructor, with the callback that `initOdcpi` sets. -/
def new (mOdcpiRequestCb : Bool) : OdcpiAdapter :=
  ⟨mOdcpiRequestCb, false, false, ⟨.start, 0, false⟩⟩

/-- `GnssAdapter::reportOdcpiRequest`. -/
def reportOdcpiRequest (s : OdcpiAdapter) (request : OdcpiRequestInfo) : List OdcpiOp :=
  if s.mOdcpiRequestCb then
    if request.type = .start then
      (if !s.mOdcpiRequestActive && !s.mActive then
        [.requestCb request, .setRequestActive true] ++ OdcpiTimer.start
      -- the stored request is not an emergency, and the new one is
      else if !s.mOdcpiRequest.isEmergencyMode && request.isEmergencyMode then
        [.requestCb request, .setRequestActive true] ++
          if s.mActive then OdcpiTimer.restart else OdcpiTimer.start
      -- wait for the timer before the next request
      else if !s.mOdcpiRequestActive && s.mActive then [.setRequestActive true]
      else []) ++ [.setRequest request]
    else [.setRequestActive false]
  else []

/-- `GnssAdapter::restartSessions`, as far as ODCPI goes. -/
def restartSessions : List OdcpiOp := [.setRequestActive false]

/-- `GnssAdapter::odcpiTimerExpire`. -/
def odcpiTimerExpire (s : OdcpiAdapter) : List OdcpiOp :=
  if s.mOdcpiRequestActive then .requestCb s.mOdcpiRequest :: OdcpiTimer.restart
  else OdcpiTimer.stop

/-- `proc` of a message. -/
def proc (s : OdcpiAdapter) : OdcpiMsg → List OdcpiOp
  | .reportOdcpiRequest request => s.reportOdcpiRequest request
  | .restartSessions => restartSessions
  | .odcpiTimerExpire => s.odcpiTimerExpire

/-- The effect of one operation on the fields. -/
def exec (s : OdcpiAdapter) : OdcpiOp → OdcpiAdapter
  | .setRequestActive active => { s with mOdcpiRequestActive := active }
  | .setRequest request => { s with mOdcpiRequest := request }
  | .setActive active => { s with mActive := active }
  | _ => s

/-- A message as a whole. -/
def process (s : OdcpiAdapter) (msg : OdcpiMsg) : OdcpiAdapter := (s.proc msg).foldl exec s

/-- An active request has an active timer. -/
def Timed (s : OdcpiAdapter) : Prop := s.mOdcpiRequestActive = true → s.mActive = true

/-! ### What a message changes -/

variable {s : OdcpiAdapter} {request : OdcpiRequestInfo}

/-- After a START the request and the timer are active, and the request is the new one. -/
theorem process_start (h : Timed s) (hcb : s.mOdcpiRequestCb = true)
    (htype : request.type = .start) :
    s.process (.reportOdcpiRequest request) =
      { s with mOdcpiRequestActive := true, mActive := true, mOdcpiRequest := request } := by
  obtain ⟨cb, requestActive, active, stored⟩ := s
  cases hcb
  cases requestActive with
  | true =>
      cases h rfl
      cases hup : !stored.isEmergencyMode && request.isEmergencyMode <;>
        simp [process, proc, reportOdcpiRequest, htype, hup, exec, OdcpiTimer.restart,
          OdcpiTimer.stop, OdcpiTimer.start]
  | false =>
      cases hup : !stored.isEmergencyMode && request.isEmergencyMode <;> cases active <;>
        simp [process, proc, reportOdcpiRequest, htype, hup, exec, OdcpiTimer.restart,
          OdcpiTimer.stop, OdcpiTimer.start]

theorem process_stop (hcb : s.mOdcpiRequestCb = true) (htype : request.type ≠ .start) :
    s.process (.reportOdcpiRequest request) = { s with mOdcpiRequestActive := false } := by
  simp [process, proc, reportOdcpiRequest, hcb, htype, exec]

/-- Without a callback a request does nothing. -/
theorem process_of_not_cb (hcb : s.mOdcpiRequestCb = false) :
    s.process (.reportOdcpiRequest request) = s := by
  simp [process, proc, reportOdcpiRequest, hcb]

/-- The timer goes on if and only if the request is still active. -/
theorem process_odcpiTimerExpire :
    s.process .odcpiTimerExpire = { s with mActive := s.mOdcpiRequestActive } := by
  cases hactive : s.mOdcpiRequestActive <;>
    simp [process, proc, odcpiTimerExpire, hactive, exec, OdcpiTimer.restart, OdcpiTimer.stop,
      OdcpiTimer.start]

theorem Timed.process (h : Timed s) (msg : OdcpiMsg) : Timed (s.process msg) := by
  cases msg with
  | reportOdcpiRequest request =>
      cases hcb : s.mOdcpiRequestCb with
      | false =>
          rw [process_of_not_cb hcb]
          exact h
      | true =>
          by_cases htype : request.type = .start
          · rw [process_start h hcb htype]
            exact fun _ => rfl
          · rw [process_stop hcb htype]
            intro hactive
            cases hactive
  | restartSessions => exact fun hactive => by cases hactive
  | odcpiTimerExpire =>
      rw [process_odcpiTimerExpire]
      exact id

end OdcpiAdapter

/-! ### The adapter beside the timer service -/

/-- The adapter, its queue, the rest of the message in progress, and the timer service.
`processed` records the messages that were taken from the queue. -/
structure OdcpiSystem where
  adapter : OdcpiAdapter
  queue : List OdcpiMsg
  ops : List OdcpiOp
  timers : LocTimerService
  processed : List OdcpiMsg

/-- What can happen next: a message of another thread is queued, the adapter takes a message or
executes an operation, or the timer service makes a step. -/
inductive OdcpiLabel where
  | reportOdcpiRequestEvent (request : OdcpiRequestInfo)
  | handleEngineUpEvent
  | take
  | execute
  | timers (action : LocTimerService.Action)

namespace OdcpiSystem

/-- The start. -/
def new : OdcpiSystem := ⟨.new true, [], [], .init, []⟩

/-- `ODCPI_EXPECTED_INJECTION_TIME_MS`. -/
def expectedInjectionTimeMs : UInt32 := 10000

section Defs
variable (mOdcpiTimer : TimerId)

/-- The effect of one operation on the timer service. -/
def execTimer (timers : LocTimerService) : OdcpiOp → LocTimerService
  | .startLocTimer => (timers.start mOdcpiTimer expectedInjectionTimeMs).1
  | .stopLocTimer => (timers.stop mOdcpiTimer).1
  | _ => timers

/-- A call of the timer itself. Only the adapter makes one. -/
def isOwnCall : LocTimerService.Action → Bool
  | .start timer _ => timer == mOdcpiTimer
  | .stop timer => timer == mOdcpiTimer
  | _ => false

/-- A step of the timer service. The other clients start and stop their own timers. The callback
of `mOdcpiTimer` is `odcpiTimerExpireEvent`, which queues `MsgOdcpiTimerExpire`. -/
def stepTimers (s : OdcpiSystem) (action : LocTimerService.Action) : Option OdcpiSystem :=
  if isOwnCall mOdcpiTimer action then none
  else
    (s.timers.step action).map fun timers =>
      { s with
        timers := timers
        queue :=
          if action = .msgTask ∧ s.timers.InCallback mOdcpiTimer then
            s.queue ++ [.odcpiTimerExpire]
          else s.queue }

/-- One step. -/
def step (s : OdcpiSystem) : OdcpiLabel → Option OdcpiSystem
  | .reportOdcpiRequestEvent request =>
      some { s with queue := s.queue ++ [.reportOdcpiRequest request] }
  | .handleEngineUpEvent => some { s with queue := s.queue ++ [.restartSessions] }
  | .take =>
      match s.ops, s.queue with
      | [], msg :: queue =>
          some { s with
            queue := queue
            ops := s.adapter.proc msg
            processed := s.processed ++ [msg] }
      | _, _ => none
  | .execute =>
      match s.ops with
      | op :: ops =>
          some { s with
            adapter := s.adapter.exec op
            ops := ops
            timers := execTimer mOdcpiTimer s.timers op }
      | [] => none
  | .timers action => s.stepTimers mOdcpiTimer action

/-- The timer is running, or its callback is in progress, or the expiry is in the queue. -/
def Armed (s : OdcpiSystem) : Prop :=
  s.timers.Running mOdcpiTimer ∨ s.timers.InCallback mOdcpiTimer ∨ .odcpiTimerExpire ∈ s.queue

/-- Between two messages of the adapter, an active request has an active timer, and an active timer
leads to an expiry. Within a message the flags are set one after the other, and the property need
not hold. -/
def NotStuck (s : OdcpiSystem) : Prop :=
  s.ops = [] →
    (s.adapter.mOdcpiRequestActive = true → s.adapter.mActive = true) ∧
    (s.adapter.mActive = true → s.Armed mOdcpiTimer)

end Defs

/-- Whether the timer is armed after the operations. -/
def armedAfter (armed : Prop) : List OdcpiOp → Prop
  | [] => armed
  | .startLocTimer :: ops => armedAfter True ops
  | .stopLocTimer :: ops => armedAfter False ops
  | _ :: ops => armedAfter armed ops

theorem armedAfter_imp {armed armed' : Prop} (himp : armed → armed') {ops : List OdcpiOp} :
    armedAfter armed ops → armedAfter armed' ops := by
  induction ops generalizing armed armed' with
  | nil => exact himp
  | cons op ops ih =>
      cases op with
      | startLocTimer => exact ih id
      | stopLocTimer => exact ih id
      | _ => exact ih himp

/-- What the rest of the message leads to. -/
def settled (s : OdcpiSystem) : OdcpiAdapter := s.ops.foldl .exec s.adapter

variable {mOdcpiTimer : TimerId} {s t : OdcpiSystem}

/-- What holds in every reachable state, also within a message. -/
structure Live (mOdcpiTimer : TimerId) (s : OdcpiSystem) : Prop where
  timed : s.settled.Timed
  armed : s.settled.mActive = true → armedAfter (s.Armed mOdcpiTimer) s.ops

theorem live_new : Live mOdcpiTimer new := by
  constructor <;> intro h <;> cases h

/-- A step of another thread. -/
theorem Live.congr (h : Live mOdcpiTimer s) (hadapter : t.adapter = s.adapter)
    (hops : t.ops = s.ops) (harmed : s.Armed mOdcpiTimer → t.Armed mOdcpiTimer) :
    Live mOdcpiTimer t := by
  have hsettled : t.settled = s.settled := by
    unfold settled
    rw [hadapter, hops]
  constructor
  · rw [hsettled]
    exact h.timed
  · rw [hsettled, hops]
    exact fun hactive => armedAfter_imp harmed (h.armed hactive)

/-- A START leaves the timer armed, or it starts the timer. -/
theorem armedAfter_start {a : OdcpiAdapter} (h : a.Timed) {armed : Prop}
    (harmed : a.mActive = true → armed) {request : OdcpiRequestInfo}
    (hcb : a.mOdcpiRequestCb = true) (htype : request.type = .start) :
    armedAfter armed (a.proc (.reportOdcpiRequest request)) := by
  unfold OdcpiAdapter.proc OdcpiAdapter.reportOdcpiRequest
  dsimp only
  rw [if_pos hcb, if_pos htype]
  split
  · exact trivial
  · rename_i hnotIdle
    split
    · -- an upgrade to an emergency
      split <;> exact trivial
    · split
      · rename_i hwait
        exact harmed (by simp at hwait; exact hwait.2)
      · rename_i hnotWait
        -- the request is active, and so is the timer
        refine harmed (h ?_)
        cases hactive : a.mOdcpiRequestActive with
        | true => rfl
        | false => simp_all

/-- A message of another thread. -/
theorem Live.enqueue (h : Live mOdcpiTimer s) (msg : OdcpiMsg) :
    Live mOdcpiTimer { s with queue := s.queue ++ [msg] } :=
  h.congr rfl rfl fun harmed =>
    harmed.imp_right fun hrest => hrest.imp_right (List.mem_append_left _)

/-- A message that is no expiry leaves the timer armed, or it starts the timer. -/
theorem armedAfter_proc {a : OdcpiAdapter} (h : a.Timed) {armed : Prop}
    (harmed : a.mActive = true → armed) {msg : OdcpiMsg} (hmsg : msg ≠ .odcpiTimerExpire)
    (hactive : (a.process msg).mActive = true) : armedAfter armed (a.proc msg) := by
  cases msg with
  | reportOdcpiRequest request =>
      cases hcb : a.mOdcpiRequestCb with
      | false =>
          rw [OdcpiAdapter.process_of_not_cb hcb] at hactive
          simpa [OdcpiAdapter.proc, OdcpiAdapter.reportOdcpiRequest, hcb, armedAfter] using
            harmed hactive
      | true =>
          by_cases htype : request.type = .start
          · exact armedAfter_start h harmed hcb htype
          · rw [OdcpiAdapter.process_stop hcb htype] at hactive
            simpa [OdcpiAdapter.proc, OdcpiAdapter.reportOdcpiRequest, hcb, htype, armedAfter]
              using harmed hactive
  | restartSessions => exact harmed hactive
  | odcpiTimerExpire => exact absurd rfl hmsg

/-- The adapter takes a message. -/
theorem Live.take (h : Live mOdcpiTimer s) (ht : s.step mOdcpiTimer .take = some t) :
    Live mOdcpiTimer t := by
  unfold OdcpiSystem.step at ht
  dsimp only at ht
  split at ht
  · rename_i msg queue hops hqueue
    cases ht
    have htimed := h.timed
    have harmed := h.armed
    unfold settled at htimed harmed
    rw [hops] at htimed harmed
    refine ⟨htimed.process msg, fun hactive => ?_⟩
    by_cases hmsg : msg = .odcpiTimerExpire
    · -- the expiry leaves the queue, and it restarts the timer or stops it
      subst hmsg
      show armedAfter _ s.adapter.odcpiTimerExpire
      unfold OdcpiAdapter.odcpiTimerExpire
      have hexpired : (s.adapter.process .odcpiTimerExpire).mActive = true := hactive
      rw [OdcpiAdapter.process_odcpiTimerExpire] at hexpired
      rw [if_pos hexpired]
      exact trivial
    · refine armedAfter_proc htimed (fun hold => ?_) hmsg hactive
      refine (harmed hold).imp_right fun hrest => hrest.imp_right fun hqueued => ?_
      rw [hqueue] at hqueued
      exact (List.mem_cons.mp hqueued).resolve_left fun heq => hmsg heq.symm
  · cases ht

/-- The adapter executes an operation. -/
theorem Live.execute (h : Live mOdcpiTimer s) (ht : s.step mOdcpiTimer .execute = some t) :
    Live mOdcpiTimer t := by
  unfold step at ht
  dsimp only at ht
  split at ht
  · rename_i op ops hops
    cases ht
    have hsettled : settled { s with
        adapter := s.adapter.exec op
        ops := ops
        timers := execTimer mOdcpiTimer s.timers op } = s.settled := by
      unfold settled
      rw [hops]
      rfl
    refine ⟨by rw [hsettled]; exact h.timed, fun hactive => ?_⟩
    rw [hsettled] at hactive
    have harmed := h.armed hactive
    rw [hops] at harmed
    cases op with
    | startLocTimer =>
        refine armedAfter_imp (fun _ => Or.inl ?_) harmed
        exact LocTimerService.running_start s.timers mOdcpiTimer expectedInjectionTimeMs
    | stopLocTimer => exact armedAfter_imp False.elim harmed
    | _ => exact harmed
  · cases ht

/-- The timer service makes a step. -/
theorem Live.timers (h : Live mOdcpiTimer s) {action : LocTimerService.Action}
    (ht : s.stepTimers mOdcpiTimer action = some t) : Live mOdcpiTimer t := by
  unfold stepTimers at ht
  split at ht
  · cases ht
  · rename_i hother
    obtain ⟨timers, hstep, rfl⟩ := Option.map_eq_some_iff.mp ht
    refine h.congr rfl rfl fun harmed => ?_
    have hstart : ∀ ms, action ≠ .start mOdcpiTimer ms := by
      rintro ms rfl
      exact hother (beq_self_eq_true mOdcpiTimer)
    have hstop : action ≠ .stop mOdcpiTimer := by
      rintro rfl
      exact hother (beq_self_eq_true mOdcpiTimer)
    have hqueue : ∀ {msg}, msg ∈ s.queue → msg ∈ (if action = .msgTask ∧
        s.timers.InCallback mOdcpiTimer then s.queue ++ [.odcpiTimerExpire] else s.queue) := by
      intro msg hmsg
      split
      · exact List.mem_append_left _ hmsg
      · exact hmsg
    rcases or_assoc.mpr harmed with hpending | hqueued
    · rcases LocTimerService.pending_step hstep hstart hstop hpending with h | h | h
      · exact Or.inl h
      · exact Or.inr (Or.inl h)
      · -- the callback queues the expiry
        refine Or.inr (Or.inr ?_)
        rw [if_pos h]
        exact List.mem_append_right _ List.mem_cons_self
    · exact Or.inr (Or.inr (hqueue hqueued))

theorem Live.step (h : Live mOdcpiTimer s) {label : OdcpiLabel}
    (ht : s.step mOdcpiTimer label = some t) : Live mOdcpiTimer t := by
  cases label with
  | reportOdcpiRequestEvent request =>
      cases ht
      exact h.enqueue (.reportOdcpiRequest request)
  | handleEngineUpEvent =>
      cases ht
      exact h.enqueue .restartSessions
  | take => exact h.take ht
  | execute => exact h.execute ht
  | timers action => exact h.timers ht

/-- In every reachable state between two messages, an active request has an active timer, and that
is running, in its callback, or has its expiry in the queue.

So there is always an event to come in which the request is looked at again. `Live` is the
invariant, for the states in the middle of a message as well. -/
theorem not_stuck (mOdcpiTimer : TimerId) (labels : List OdcpiLabel) :
    Along (step mOdcpiTimer) (NotStuck mOdcpiTimer) new labels := by
  refine along_of_invariant (I := Live mOdcpiTimer) (fun s h hops => ?_)
    (fun _ _ _ h ht => h.step ht) labels new live_new
  have htimed := h.timed
  have harmed := h.armed
  unfold settled at htimed harmed
  rw [hops] at htimed harmed
  exact ⟨htimed, harmed⟩

/-- The fields of the adapter in a reachable state, with the rest of the message in progress, are
those after the processed messages, each one as a whole. -/
theorem run_processed (labels : List OdcpiLabel)
    (hrun : run (step mOdcpiTimer) new labels = some s) :
    s.settled = s.processed.foldl .process (.new true) := by
  refine run_invariant (P := fun s => s.settled = s.processed.foldl .process (.new true))
    (fun s label t h ht => ?_) labels new s rfl hrun
  cases label with
  | reportOdcpiRequestEvent request =>
      cases ht
      exact h
  | handleEngineUpEvent =>
      cases ht
      exact h
  | take =>
      unfold step at ht
      dsimp only at ht
      split at ht
      · rename_i msg queue hops hqueue
        cases ht
        -- the earlier message has no step left, this one has all of its steps ahead
        show (s.adapter.proc msg).foldl .exec s.adapter = _
        rw [List.foldl_append, ← h]
        unfold settled
        rw [hops]
        rfl
      · cases ht
  | execute =>
      unfold step at ht
      dsimp only at ht
      split at ht
      · rename_i op ops hops
        cases ht
        rw [← h]
        unfold settled
        rw [hops]
        rfl
      · cases ht
  | timers action =>
      simp only [step, stepTimers] at ht
      split at ht
      · cases ht
      · -- the callback adds to the queue only
        obtain ⟨timers, -, rfl⟩ := Option.map_eq_some_iff.mp ht
        exact h

end OdcpiSystem

end LocHal.Gnss
