import Mathlib.Tactic.Common

/-!
# `LocHal.Gnss.Agps`: the AGPS state machines of `Agps.cpp`

`AgpsStateMachine` is one object of the class `AgpsStateMachine` or of its subclass
`DSStateMachine`. The field `cls` is the dynamic type, and the three methods that the subclass
overrides (`processAgpsEvent`, `requestOrReleaseDataConn` and `notifyEventToSubscriber`)
branch on it.

Every method returns the machine after the call and the calls that it made to the outside, in
order, as a list of `AgpsOutput`. What the outside answers during one call of the manager is in
`AgpsEnv`: the two configuration flags, which can change at run time, the result codes of the
data service client, and whether `loc_timer_start` returned a timer. The client functions that
the code tests before a call are options.

`mSubscriberList` holds the subscriber objects in list order. `mCurrentSubscriber` points to a
local object in `requestATL` and to a listed object in `releaseATL`; here it is an argument, and
the assignment through the pointer is `markInactive`. `mAgpsManager` and `mAPNLen` are left out:
the first is the caller, and the second is set and never read.
-/

set_option autoImplicit false

namespace LocHal.Gnss

/-- `connHandle`. -/
abbrev ConnHandle := Int32

/-- `AGpsExtType`. -/
abbrev AGpsExtType := Int8

/-- `LOC_AGPS_TYPE_INVALID`. -/
def locAgpsTypeInvalid : AGpsExtType := -1

/-- `LOC_AGPS_TYPE_SUPL`. -/
def locAgpsTypeSupl : AGpsExtType := 1

/-- `LOC_AGPS_TYPE_WWAN_ANY`. -/
def locAgpsTypeWwanAny : AGpsExtType := 3

/-- `LOC_AGPS_TYPE_SUPL_ES`. -/
def locAgpsTypeSuplEs : AGpsExtType := 5

/-- `AGpsBearerType`. -/
abbrev AGpsBearerType := Int16

/-- `AGPS_APN_BEARER_INVALID`. -/
def agpsApnBearerInvalid : AGpsBearerType := 0

/-- `LOC_API_ADAPTER_ERR_SUCCESS`. -/
def locApiAdapterErrSuccess : Int := 0

/-- `LOC_API_ADAPTER_ERR_UNSUPPORTED`. -/
def locApiAdapterErrUnsupported : Int := 2

/-- `LOC_API_ADAPTER_ERR_ENGINE_BUSY`. -/
def locApiAdapterErrEngineBusy : Int := 6

/-- `AgpsState`. -/
inductive AgpsState where
  | invalid
  | released
  | pending
  | acquired
  | releasing
  deriving DecidableEq, Repr

/-- `AgpsEvent`. -/
inductive AgpsEvent where
  | invalid
  | subscribe
  | unsubscribe
  | granted
  | released
  | denied
  deriving DecidableEq, Repr

/-- `AgpsNotificationType`. -/
inductive AgpsNotificationType where
  | invalid
  | forAllSubscribers
  | forInactiveSubscribers
  | forActiveSubscribers
  deriving DecidableEq, Repr

/-- `AgpsSubscriber`. -/
structure AgpsSubscriber where
  mConnHandle : ConnHandle
  mWaitForCloseComplete : Bool
  mIsInactive : Bool
  deriving DecidableEq, Repr

/-- The status of an `AGnssExtStatusIpV4`. -/
inductive LocAGpsStatusValue where
  | requestAgpsDataConn
  | releaseAgpsDataConn
  deriving DecidableEq, Repr

/-- The calls that leave the AGPS component. `sendMsgToAdapterQueue` posts an
`AgpsMsgRequestATL`, and `dsClientOpenAndStartDataCall` carries the result code. -/
inductive AgpsOutput where
  | atlOpenStatusCb (handle : ConnHandle) (isSuccess : Bool) (apn : Option (List UInt8))
      (bearerType : AGpsBearerType) (agpsType : AGpsExtType)
  | atlCloseStatusCb (handle : ConnHandle) (isSuccess : Bool)
  | frameworkStatusV4Cb (type : AGpsExtType) (status : LocAGpsStatusValue)
  | sendMsgToAdapterQueue (connHandle : ConnHandle) (agpsType : AGpsExtType)
  | dsClientInit (isDueToSSR : Bool)
  | dsClientOpenAndStartDataCall (ret : Int)
  | dsClientStopDataCall
  | dsClientCloseDataCall
  | dsClientRelease
  | locTimerStart
  deriving DecidableEq, Repr

/-- What the outside answers during one call. `agpsCapable` is the test of `CAPABILITIES` for
MSA or MSB, and an option is `none` where the function is not registered. -/
structure AgpsEnv where
  agpsCapable : Bool
  useEmergencyPdnForEmergencySupl : Bool
  mDSClientInitFn : Option Int
  mDSClientOpenAndStartDataCallFn : Option Int
  mDSClientStopDataCallFn : Bool
  locTimerStart : Bool
  deriving DecidableEq, Repr

/-- The dynamic type of a state machine. -/
inductive AgpsClass where
  | agpsStateMachine
  | dsStateMachine
  deriving DecidableEq, Repr

/-- `AgpsStateMachine`, and `DSStateMachine` with its `mRetries`. -/
structure AgpsStateMachine where
  cls : AgpsClass
  mAgpsType : AGpsExtType
  mState : AgpsState
  mSubscriberList : List AgpsSubscriber
  mAPN : Option (List UInt8)
  mBearer : AGpsBearerType
  mRetries : Nat
  deriving DecidableEq, Repr

/-- The test of the loop of `notifyAllSubscribers`. -/
def AgpsNotificationType.selects (notificationType : AgpsNotificationType)
    (subscriber : AgpsSubscriber) : Bool :=
  match notificationType with
  | .invalid => false
  | .forAllSubscribers => true
  | .forInactiveSubscribers => subscriber.mIsInactive
  | .forActiveSubscribers => !subscriber.mIsInactive

namespace AgpsStateMachine

/-- `DSStateMachine::MAX_START_DATA_CALL_RETRIES`. -/
def maxStartDataCallRetries : Nat := 4

/-- The constructor of `AgpsStateMachine`. -/
def new (agpsType : AGpsExtType) : AgpsStateMachine where
  cls := .agpsStateMachine
  mAgpsType := agpsType
  mState := .released
  mSubscriberList := []
  mAPN := none
  mBearer := agpsApnBearerInvalid
  mRetries := 0

/-- The constructor of `DSStateMachine`. -/
def newDS : AgpsStateMachine := { new locAgpsTypeSuplEs with cls := .dsStateMachine }

/-! ### The subscriber list -/

/-- `AgpsStateMachine::getSubscriber`. -/
def getSubscriber (m : AgpsStateMachine) (connHandle : ConnHandle) : Option AgpsSubscriber :=
  m.mSubscriberList.find? fun s => s.mConnHandle = connHandle

/-- `AgpsStateMachine::getFirstSubscriber`. -/
def getFirstSubscriber (m : AgpsStateMachine) (isInactive : Bool) : Option AgpsSubscriber :=
  m.mSubscriberList.find? fun s => s.mIsInactive = isInactive

/-- `AgpsStateMachine::anyActiveSubscribers`. -/
def anyActiveSubscribers (m : AgpsStateMachine) : Bool :=
  m.mSubscriberList.any fun s => !s.mIsInactive

/-- `AgpsStateMachine::addSubscriber`. A handle that is already in the list is not added,
whatever the flags of the listed subscriber are. -/
def addSubscriber (m : AgpsStateMachine) (subscriberToAdd : AgpsSubscriber) : AgpsStateMachine :=
  if m.mSubscriberList.any fun s => s.mConnHandle = subscriberToAdd.mConnHandle then m
  else { m with mSubscriberList := m.mSubscriberList ++ [subscriberToAdd] }

/-- `AgpsStateMachine::deleteSubscriber`. -/
def deleteSubscriber (m : AgpsStateMachine) (subscriberToDelete : AgpsSubscriber) :
    AgpsStateMachine :=
  { m with mSubscriberList :=
      m.mSubscriberList.filter fun s => s.mConnHandle ≠ subscriberToDelete.mConnHandle }

/-- `AgpsStateMachine::dropAllSubscribers`. -/
def dropAllSubscribers (m : AgpsStateMachine) : AgpsStateMachine :=
  { m with mSubscriberList := [] }

/-- `mIsInactive = true` in the first subscriber with the handle. -/
def setInactive (connHandle : ConnHandle) : List AgpsSubscriber → List AgpsSubscriber
  | [] => []
  | s :: rest =>
      if s.mConnHandle = connHandle then { s with mIsInactive := true } :: rest
      else s :: setInactive connHandle rest

/-- `mCurrentSubscriber->mIsInactive = true`. -/
def markInactive (m : AgpsStateMachine) (mCurrentSubscriber : AgpsSubscriber) :
    AgpsStateMachine :=
  { m with mSubscriberList := setInactive mCurrentSubscriber.mConnHandle m.mSubscriberList }

/-- `AgpsStateMachine::setAPN`. -/
def setAPN (m : AgpsStateMachine) (apn : Option (List UInt8)) (len : Nat) : AgpsStateMachine :=
  { m with mAPN := apn.map fun name => name.take len }

/-- `AgpsStateMachine::setBearer`. -/
def setBearer (m : AgpsStateMachine) (bearer : AGpsBearerType) : AgpsStateMachine :=
  { m with mBearer := bearer }

/-- `AgpsStateMachine::transitionState`. -/
def transitionState (m : AgpsStateMachine) (newState : AgpsState) : AgpsStateMachine :=
  { m with mState := newState }

/-! ### Notifications -/

/-- `AgpsStateMachine::notifyEventToSubscriber` and `DSStateMachine::notifyEventToSubscriber`
up to the deletion. -/
def notifyEvent (m : AgpsStateMachine) (event : AgpsEvent) (subscriberToNotify : AgpsSubscriber) :
    AgpsStateMachine × List AgpsOutput :=
  let handle := subscriberToNotify.mConnHandle
  match m.cls, event with
  | .agpsStateMachine, .granted =>
      (m, [.atlOpenStatusCb handle true m.mAPN m.mBearer m.mAgpsType])
  | .agpsStateMachine, .denied =>
      (m, [.atlOpenStatusCb handle false m.mAPN m.mBearer m.mAgpsType])
  | .agpsStateMachine, .unsubscribe => (m, [.atlCloseStatusCb handle true])
  | .agpsStateMachine, .released => (m, [.atlCloseStatusCb handle true])
  | .dsStateMachine, .granted =>
      (m, [.atlOpenStatusCb handle true none agpsApnBearerInvalid locAgpsTypeSuplEs])
  | .dsStateMachine, .denied =>
      ({ m with mRetries := 0 }, [.sendMsgToAdapterQueue handle locAgpsTypeSupl])
  | .dsStateMachine, .unsubscribe => (m, [.atlCloseStatusCb handle true])
  | .dsStateMachine, .released =>
      (m, [.dsClientCloseDataCall, .atlCloseStatusCb handle true])
  | _, _ => (m, [])

/-- `notifyEventToSubscriber`. -/
def notifyEventToSubscriber (m : AgpsStateMachine) (event : AgpsEvent)
    (subscriberToNotify : AgpsSubscriber) (deleteSubscriberPostNotify : Bool) :
    AgpsStateMachine × List AgpsOutput :=
  let (m', outs) := m.notifyEvent event subscriberToNotify
  (if deleteSubscriberPostNotify then m'.deleteSubscriber subscriberToNotify else m', outs)

/-- The loop of `notifyAllSubscribers` over the rest of the list. It returns the subscribers
that stay. -/
def notifyAllLoop (event : AgpsEvent) (deleteSubscriberPostNotify : Bool)
    (notificationType : AgpsNotificationType) :
    AgpsStateMachine → List AgpsSubscriber →
      AgpsStateMachine × List AgpsSubscriber × List AgpsOutput
  | m, [] => (m, [], [])
  | m, subscriber :: rest =>
      if notificationType.selects subscriber then
        let (m', outs) := m.notifyEventToSubscriber event subscriber false
        let (m'', kept, outs') :=
          notifyAllLoop event deleteSubscriberPostNotify notificationType m' rest
        (m'', if deleteSubscriberPostNotify then kept else subscriber :: kept, outs ++ outs')
      else
        let (m', kept, outs) :=
          notifyAllLoop event deleteSubscriberPostNotify notificationType m rest
        (m', subscriber :: kept, outs)

/-- `AgpsStateMachine::notifyAllSubscribers`. -/
def notifyAllSubscribers (m : AgpsStateMachine) (event : AgpsEvent)
    (deleteSubscriberPostNotify : Bool) (notificationType : AgpsNotificationType) :
    AgpsStateMachine × List AgpsOutput :=
  let (m', kept, outs) :=
    notifyAllLoop event deleteSubscriberPostNotify notificationType m m.mSubscriberList
  ({ m' with mSubscriberList := kept }, outs)

/-- `AgpsStateMachine::requestOrReleaseDataConn` and
`DSStateMachine::requestOrReleaseDataConn`, with the return value last. -/
def requestOrReleaseDataConn (m : AgpsStateMachine) (env : AgpsEnv) (request : Bool) :
    AgpsStateMachine × List AgpsOutput × Int :=
  match m.cls with
  | .agpsStateMachine =>
      let status := if request then .requestAgpsDataConn else .releaseAgpsDataConn
      (m, [.frameworkStatusV4Cb m.mAgpsType status], 0)
  | .dsStateMachine =>
      if !request && env.mDSClientStopDataCallFn then
        (m, [.dsClientStopDataCall], 0)
      else
        match m.getFirstSubscriber false with
        | none => (m, [], -1)
        | some subscriber =>
            match env.mDSClientOpenAndStartDataCallFn with
            | none =>
                let (m', outs) := m.notifyEventToSubscriber .denied subscriber false
                (m', outs, -1)
            | some ret =>
                let call := AgpsOutput.dsClientOpenAndStartDataCall ret
                if ret = locApiAdapterErrEngineBusy then
                  let m' := { m with mRetries := m.mRetries + 1 }
                  if m'.mRetries > maxStartDataCallRetries then
                    let (m'', outs) := m'.notifyEventToSubscriber .denied subscriber false
                    (m'', call :: outs, ret)
                  else if env.locTimerStart then
                    -- a started timer is a non-null handle, which the code takes for an error
                    (m', [call, .locTimerStart], -1)
                  else
                    (m', [call], ret)
                else if ret = locApiAdapterErrUnsupported then
                  let (m', outs) := m.notifyEventToSubscriber .denied subscriber false
                  (m', call :: outs, ret)
                else
                  (m, [call], ret)

/-! ### The events -/

/-- `AgpsStateMachine::processAgpsEventSubscribe`. -/
def processAgpsEventSubscribe (m : AgpsStateMachine) (env : AgpsEnv)
    (mCurrentSubscriber : AgpsSubscriber) : AgpsStateMachine × List AgpsOutput :=
  match m.mState with
  | .released =>
      let (m', outs, ret) := (m.addSubscriber mCurrentSubscriber).requestOrReleaseDataConn env true
      (if ret = 0 then m'.transitionState .pending else m', outs)
  | .pending => (m.addSubscriber mCurrentSubscriber, [])
  | .acquired =>
      let (m', outs) := m.notifyEventToSubscriber .granted mCurrentSubscriber false
      (m'.addSubscriber mCurrentSubscriber, outs)
  | .releasing => (m.addSubscriber mCurrentSubscriber, [])
  | .invalid => (m, [])

/-- The start of `processAgpsEventUnsubscribe` outside the released state: the subscriber
becomes inactive, or it is notified and deleted. -/
def unsubscribeCurrent (m : AgpsStateMachine) (mCurrentSubscriber : AgpsSubscriber) :
    AgpsStateMachine × List AgpsOutput :=
  if mCurrentSubscriber.mWaitForCloseComplete then (m.markInactive mCurrentSubscriber, [])
  else m.notifyEventToSubscriber .unsubscribe mCurrentSubscriber true

/-- The end of `processAgpsEventUnsubscribe` in the pending and the acquired state: the data
connection is released when no active subscriber is left. -/
def releaseUnused (m : AgpsStateMachine) (env : AgpsEnv) : AgpsStateMachine × List AgpsOutput :=
  if m.mSubscriberList.isEmpty then
    let (m', outs, _) := (m.transitionState .released).requestOrReleaseDataConn env false
    (m', outs)
  else if !m.anyActiveSubscribers then
    let (m', outs, _) := (m.transitionState .releasing).requestOrReleaseDataConn env false
    (m', outs)
  else (m, [])

/-- `AgpsStateMachine::processAgpsEventUnsubscribe`. -/
def processAgpsEventUnsubscribe (m : AgpsStateMachine) (env : AgpsEnv)
    (mCurrentSubscriber : AgpsSubscriber) : AgpsStateMachine × List AgpsOutput :=
  match m.mState with
  | .released => m.notifyEventToSubscriber .unsubscribe mCurrentSubscriber false
  | .pending | .acquired =>
      let (m', outs) := m.unsubscribeCurrent mCurrentSubscriber
      let (m'', outs') := m'.releaseUnused env
      (m'', outs ++ outs')
  | .releasing =>
      let (m', outs) := m.unsubscribeCurrent mCurrentSubscriber
      (if m'.mSubscriberList.isEmpty then m'.transitionState .released else m', outs)
  | .invalid => (m, [])

/-- `AgpsStateMachine::processAgpsEventGranted`. -/
def processAgpsEventGranted (m : AgpsStateMachine) : AgpsStateMachine × List AgpsOutput :=
  match m.mState with
  | .pending =>
      (m.transitionState .acquired).notifyAllSubscribers .granted false .forActiveSubscribers
  | _ => (m, [])

/-- The branch for the releasing state that `processAgpsEventReleased` and
`processAgpsEventDenied` share. -/
def finishReleasing (m : AgpsStateMachine) (env : AgpsEnv) :
    AgpsStateMachine × List AgpsOutput :=
  let (m', outs) := m.notifyAllSubscribers .released true .forInactiveSubscribers
  if m'.anyActiveSubscribers then
    let (m'', outs', _) := (m'.transitionState .pending).requestOrReleaseDataConn env true
    (m'', outs ++ outs')
  else (m'.transitionState .released, outs)

/-- `AgpsStateMachine::processAgpsEventReleased`. -/
def processAgpsEventReleased (m : AgpsStateMachine) (env : AgpsEnv) :
    AgpsStateMachine × List AgpsOutput :=
  match m.mState with
  | .released => (m, [])
  | .acquired =>
      (m.transitionState .released).notifyAllSubscribers .released true .forAllSubscribers
  | .releasing => m.finishReleasing env
  | .pending => (m, [])
  | .invalid => (m, [])

/-- `AgpsStateMachine::processAgpsEventDenied`. -/
def processAgpsEventDenied (m : AgpsStateMachine) (env : AgpsEnv) :
    AgpsStateMachine × List AgpsOutput :=
  match m.mState with
  | .released => (m, [])
  | .acquired => (m, [])
  | .releasing => m.finishReleasing env
  | .pending =>
      (m.transitionState .released).notifyAllSubscribers .denied true .forAllSubscribers
  | .invalid => (m, [])

/-- `DSStateMachine::processAgpsEvent` reads a release in the pending state as a denial. -/
def translateEvent (m : AgpsStateMachine) (event : AgpsEvent) : AgpsEvent :=
  if m.cls = .dsStateMachine ∧ event = .released ∧ m.mState = .pending then .denied else event

/-- `processAgpsEvent` for the events that a report brings. -/
def processReport (m : AgpsStateMachine) (env : AgpsEnv) (event : AgpsEvent) :
    AgpsStateMachine × List AgpsOutput :=
  match m.translateEvent event with
  | .granted => m.processAgpsEventGranted
  | .released => m.processAgpsEventReleased env
  | .denied => m.processAgpsEventDenied env
  | _ => (m, [])

/-- `DSStateMachine::retryCallback`. -/
def retryCallback (m : AgpsStateMachine) : List AgpsOutput :=
  match m.getFirstSubscriber false with
  | none => []
  | some subscriber => [.sendMsgToAdapterQueue subscriber.mConnHandle locAgpsTypeSuplEs]

end AgpsStateMachine

end LocHal.Gnss
