import LocHal.Gnss.Agps
import LocHal.Lib.LabelledRun

/-!
# `LocHal.Gnss.AgpsManager`: `AgpsManager` and the messages around it

`AgpsManager` holds the three state machines, each of them `none` for a null pointer. `Nif`
names the member that a pointer was read from, so `getAgpsStateMachine` returns a `Nif`.

`AgpsSystem` is the manager together with what its calls leave outside: the posted
`AgpsMsgRequestATL` messages that have not been processed (`msgQueue`), the number of retry
timers that have not expired (`retryTimers`), and the history (`log`). The history records each
call with the machine that it reached and each output with the machine that made it, in order.
The methods of the manager are functions on `AgpsSystem`.

`step` is the labelled machine. A label is a call and the answers of the outside during it. The
posted messages can be processed in any order (`procMsgRequestATL` names one of them), and a
retry timer can expire at any time. A call that reads a null machine pointer has no step.
-/

set_option autoImplicit false

namespace LocHal.Gnss

open LabelledRun

/-- The members of `AgpsManager` that point to a state machine. -/
inductive Nif where
  | agnss
  | internet
  | ds
  deriving DecidableEq, Repr

/-- The state machines of `AgpsManager`. -/
structure AgpsManager where
  mAgnssNif : Option AgpsStateMachine
  mInternetNif : Option AgpsStateMachine
  mDsNif : Option AgpsStateMachine
  deriving DecidableEq, Repr

namespace AgpsManager

/-- The constructor. -/
def new : AgpsManager := ⟨none, none, none⟩

/-- The machine that a member points to. -/
def sm (mgr : AgpsManager) : Nif → Option AgpsStateMachine
  | .agnss => mgr.mAgnssNif
  | .internet => mgr.mInternetNif
  | .ds => mgr.mDsNif

/-- The manager after its machine at `nif` has changed. -/
def setSm (mgr : AgpsManager) (nif : Nif) (m : AgpsStateMachine) : AgpsManager :=
  match nif with
  | .agnss => { mgr with mAgnssNif := some m }
  | .internet => { mgr with mInternetNif := some m }
  | .ds => { mgr with mDsNif := some m }

/-- The machine that `createAgpsStateMachines` creates for a member. -/
def newSm : Nif → AgpsStateMachine
  | .agnss => .new locAgpsTypeSupl
  | .internet => .new locAgpsTypeWwanAny
  | .ds => .newDS

/-- The manager with a machine at `nif`. -/
def create (mgr : AgpsManager) (nif : Nif) : AgpsManager :=
  if mgr.sm nif = none then mgr.setSm nif (newSm nif) else mgr

/-- `AgpsManager::createAgpsStateMachines`. -/
def createAgpsStateMachines (mgr : AgpsManager) (env : AgpsEnv) :
    AgpsManager × List AgpsOutput :=
  let mgr' := mgr.create .internet
  if env.agpsCapable then
    let mgr'' := mgr'.create .agnss
    if mgr''.mDsNif = none ∧ env.useEmergencyPdnForEmergencySupl then
      match env.mDSClientInitFn with
      | none => (mgr'', [])
      | some ret => (if ret ≠ 0 then mgr'' else mgr''.create .ds, [.dsClientInit false])
    else (mgr'', [])
  else (mgr', [])

/-- `AgpsManager::getAgpsStateMachine`, with the member that the returned pointer is read
from. -/
def getAgpsStateMachine (mgr : AgpsManager) (env : AgpsEnv) (agpsType : AGpsExtType) :
    AgpsManager × List AgpsOutput × Nif :=
  if agpsType = locAgpsTypeInvalid ∨ agpsType = locAgpsTypeSupl then (mgr, [], .agnss)
  else if agpsType = locAgpsTypeSuplEs then
    if env.useEmergencyPdnForEmergencySupl then
      if mgr.mDsNif = none then
        let (mgr', outs) := mgr.createAgpsStateMachines env
        (mgr', outs, .ds)
      else (mgr, [], .ds)
    else (mgr, [], .agnss)
  else (mgr, [], .internet)

/-- The machines that list the handle, in the search order of `releaseATL`. -/
def holders (mgr : AgpsManager) (connHandle : ConnHandle) : List Nif :=
  [.agnss, .internet, .ds].filter fun nif =>
    (mgr.sm nif).any fun m => (m.getSubscriber connHandle).isSome

end AgpsManager

/-- One entry of the history. A request carries whether the DS machine posted it, the machine
that it reached, and whether that machine listed the handle already. A release carries the
machines that list the handle; the first of them is the one that it reaches. -/
inductive AgpsLogEntry where
  | requestATL (connHandle : ConnHandle) (agpsType : AGpsExtType) (posted : Bool)
      (sm : Option Nif) (listed : Bool)
  | releaseATL (connHandle : ConnHandle) (holders : List Nif)
  | report (sm : Nif) (event : AgpsEvent)
  | output (sm : Option Nif) (out : AgpsOutput)
  deriving DecidableEq, Repr

/-- The message that an output posts. -/
def AgpsOutput.posted : AgpsOutput → Option (ConnHandle × AGpsExtType)
  | .sendMsgToAdapterQueue connHandle agpsType => some (connHandle, agpsType)
  | _ => none

/-- The manager with the posted messages, the retry timers and the history. -/
structure AgpsSystem where
  mgr : AgpsManager
  msgQueue : List (ConnHandle × AGpsExtType)
  retryTimers : Nat
  log : List AgpsLogEntry
  deriving DecidableEq, Repr

namespace AgpsSystem

/-- The system after the constructor of `AgpsManager`. -/
def init : AgpsSystem := ⟨.new, [], 0, []⟩

/-- The machine that a member points to. -/
def sm (s : AgpsSystem) (nif : Nif) : Option AgpsStateMachine := s.mgr.sm nif

/-- The calls `outs` that `sm` makes to the outside. -/
def emit (s : AgpsSystem) (sm : Option Nif) (outs : List AgpsOutput) : AgpsSystem :=
  { s with
    msgQueue := s.msgQueue ++ outs.filterMap AgpsOutput.posted
    retryTimers := s.retryTimers + outs.count .locTimerStart
    log := s.log ++ outs.map (.output sm) }

/-- One more entry of the history. -/
def note (s : AgpsSystem) (entry : AgpsLogEntry) : AgpsSystem :=
  { s with log := s.log ++ [entry] }

/-- The machine at `nif` has processed an event. -/
def runSm (s : AgpsSystem) (nif : Nif) (r : AgpsStateMachine × List AgpsOutput) : AgpsSystem :=
  { s with mgr := s.mgr.setSm nif r.1 }.emit (some nif) r.2

/-- `AgpsManager::createAgpsStateMachines`. -/
def createAgpsStateMachines (s : AgpsSystem) (env : AgpsEnv) : AgpsSystem :=
  let (mgr, outs) := s.mgr.createAgpsStateMachines env
  { s with mgr := mgr }.emit none outs

/-- `AgpsManager::getAgpsStateMachine`. -/
def getAgpsStateMachine (s : AgpsSystem) (env : AgpsEnv) (agpsType : AGpsExtType) :
    AgpsSystem × Nif :=
  let (mgr, outs, nif) := s.mgr.getAgpsStateMachine env agpsType
  ({ s with mgr := mgr }.emit none outs, nif)

/-- `AgpsManager::requestATL`. -/
def requestATL (s : AgpsSystem) (env : AgpsEnv) (connHandle : ConnHandle)
    (agpsType : AGpsExtType) (posted : Bool) : AgpsSystem :=
  let (s', nif) := s.getAgpsStateMachine env agpsType
  match s'.sm nif with
  | none =>
      (s'.note (.requestATL connHandle agpsType posted none false)).emit none
        [.atlOpenStatusCb connHandle false none agpsApnBearerInvalid agpsType]
  | some m =>
      -- a subscriber of the type SUPL_ES waits for the close to complete
      let subscriber : AgpsSubscriber := ⟨connHandle, agpsType = locAgpsTypeSuplEs, false⟩
      let listed := (m.getSubscriber connHandle).isSome
      (s'.note (.requestATL connHandle agpsType posted (some nif) listed)).runSm nif
        (m.processAgpsEventSubscribe env subscriber)

/-- `AgpsManager::releaseATL`. -/
def releaseATL (s : AgpsSystem) (env : AgpsEnv) (connHandle : ConnHandle) : AgpsSystem :=
  let holders := s.mgr.holders connHandle
  let s' := s.note (.releaseATL connHandle holders)
  match holders with
  | [] => s'.emit none [.atlCloseStatusCb connHandle false]
  | nif :: _ =>
      match (s.sm nif).bind fun m => (m.getSubscriber connHandle).map fun sub => (m, sub) with
      | none => s'
      | some (m, subscriber) => s'.runSm nif (m.processAgpsEventUnsubscribe env subscriber)

/-- The common part of the report methods: the machine processes the event. -/
def report (s : AgpsSystem) (env : AgpsEnv) (nif : Nif) (event : AgpsEvent)
    (m : AgpsStateMachine) : AgpsSystem :=
  (s.note (.report nif event)).runSm nif (m.processReport env event)

/-- `AgpsManager::reportDataCallOpened` and `AgpsManager::reportDataCallClosed`. -/
def reportDataCall (s : AgpsSystem) (env : AgpsEnv) (event : AgpsEvent) : AgpsSystem :=
  match s.sm .ds with
  | none => s
  | some m => s.report env .ds event m

/-- `AgpsManager::reportAtlOpenSuccess`, `reportAtlOpenFailed` and `reportAtlClosed`. The first
sets the bearer and the APN with `update`. -/
def reportAtl (s : AgpsSystem) (env : AgpsEnv) (agpsType : AGpsExtType) (event : AgpsEvent)
    (update : AgpsStateMachine → AgpsStateMachine) : Option AgpsSystem :=
  let (s', nif) := s.getAgpsStateMachine env agpsType
  (s'.sm nif).map fun m => s'.report env nif event (update m)

/-- `AgpsManager::handleModemSSR`. -/
def handleModemSSR (s : AgpsSystem) (env : AgpsEnv) : AgpsSystem :=
  let s' := { s with mgr := {
    mAgnssNif := s.mgr.mAgnssNif.map .dropAllSubscribers
    mInternetNif := s.mgr.mInternetNif.map .dropAllSubscribers
    mDsNif := s.mgr.mDsNif.map .dropAllSubscribers } }
  if env.useEmergencyPdnForEmergencySupl then
    s'.emit none
      [.dsClientStopDataCall, .dsClientCloseDataCall, .dsClientRelease, .dsClientInit true]
  else s'

/-- `delay_callback`, which runs `DSStateMachine::retryCallback`. -/
def delayCallback (s : AgpsSystem) : Option AgpsSystem :=
  match s.retryTimers, s.sm .ds with
  | n + 1, some m => some ({ s with retryTimers := n }.emit (some .ds) m.retryCallback)
  | _, _ => none

end AgpsSystem

/-- What can happen next. -/
inductive AgpsCall where
  | createAgpsStateMachines
  | requestATL (connHandle : ConnHandle) (agpsType : AGpsExtType)
  | procMsgRequestATL (i : Nat)
  | releaseATL (connHandle : ConnHandle)
  | reportDataCallOpened
  | reportDataCallClosed
  | reportAtlOpenSuccess (agpsType : AGpsExtType) (apnName : Option (List UInt8)) (apnLen : Nat)
      (bearerType : AGpsBearerType)
  | reportAtlOpenFailed (agpsType : AGpsExtType)
  | reportAtlClosed (agpsType : AGpsExtType)
  | handleModemSSR
  | delayCallback
  deriving DecidableEq, Repr

namespace AgpsSystem

/-- `AgpsMsgRequestATL::proc` for the message at position `i`. -/
def procMsgRequestATL (s : AgpsSystem) (env : AgpsEnv) (i : Nat) : Option AgpsSystem :=
  (s.msgQueue[i]?).map fun (connHandle, agpsType) =>
    { s with msgQueue := s.msgQueue.eraseIdx i }.requestATL env connHandle agpsType true

/-- One call, with the answers of the outside during it. -/
def step (s : AgpsSystem) : AgpsCall × AgpsEnv → Option AgpsSystem
  | (.createAgpsStateMachines, env) => some (s.createAgpsStateMachines env)
  | (.requestATL connHandle agpsType, env) => some (s.requestATL env connHandle agpsType false)
  | (.procMsgRequestATL i, env) => s.procMsgRequestATL env i
  | (.releaseATL connHandle, env) => some (s.releaseATL env connHandle)
  | (.reportDataCallOpened, env) => some (s.reportDataCall env .granted)
  | (.reportDataCallClosed, env) => some (s.reportDataCall env .released)
  | (.reportAtlOpenSuccess agpsType apnName apnLen bearerType, env) =>
      s.reportAtl env agpsType .granted fun m => (m.setBearer bearerType).setAPN apnName apnLen
  | (.reportAtlOpenFailed agpsType, env) => s.reportAtl env agpsType .denied id
  | (.reportAtlClosed agpsType, env) => s.reportAtl env agpsType .released id
  | (.handleModemSSR, env) => some (s.handleModemSSR env)
  | (.delayCallback, _) => s.delayCallback

end AgpsSystem

/-! ### Answers for concrete runs -/

/-- Emergency requests use the AGNSS machine. -/
def AgpsEnv.supl : AgpsEnv where
  agpsCapable := true
  useEmergencyPdnForEmergencySupl := false
  mDSClientInitFn := some 0
  mDSClientOpenAndStartDataCallFn := some locApiAdapterErrSuccess
  mDSClientStopDataCallFn := true
  locTimerStart := true

/-- Emergency requests use the DS machine, and the start of a data call returns `ret`. -/
def AgpsEnv.emergency (ret : Int) : AgpsEnv where
  agpsCapable := true
  useEmergencyPdnForEmergencySupl := true
  mDSClientInitFn := some 0
  mDSClientOpenAndStartDataCallFn := some ret
  mDSClientStopDataCallFn := true
  locTimerStart := true

end LocHal.Gnss
