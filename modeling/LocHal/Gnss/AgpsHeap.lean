import LocHal.Gnss.AgpsLists
import LocHal.Lib.CellHeap

/-!
# `LocHal.Gnss.AgpsHeap`: the AGPS state machines with pointers to subscribers

The methods of `Agps.lean` once more, over a list of pointers to heap cells. A method reads,
writes and deletes a subscriber where the source does, and `none` is a fault: the field of a
deleted subscriber was used, or it was deleted again.

`mCurrentSubscriber` is an argument, as in `Agps.lean`. In `requestATL` it points to a cell that
lives as long as the call. In `releaseATL` it points to the listed subscriber, and
`deleteSubscriber` gets this pointer both as the key of its search and as an element of the list.

Where a method makes calls to the outside they are those of `AgpsStateMachine.notifyEvent`, which
reads nothing but the handle of the subscriber. `HeapSystem` is the manager, with the posted
messages and the retry timers; the history of `AgpsSystem` is left out.
-/

set_option autoImplicit false

namespace LocHal.Gnss

open CellHeap (Heap Ptr)

/-- `AgpsStateMachine` with its list of pointers. -/
structure HeapStateMachine where
  cls : AgpsClass
  mAgpsType : AGpsExtType
  mState : AgpsState
  mSubscriberList : List Ptr
  mAPN : Option (List UInt8)
  mBearer : AGpsBearerType
  mRetries : Nat
  deriving DecidableEq, Repr

namespace HeapStateMachine

/-- The machine with the subscribers in place of the pointers. -/
def withValues (m : HeapStateMachine) (l : List AgpsSubscriber) : AgpsStateMachine where
  cls := m.cls
  mAgpsType := m.mAgpsType
  mState := m.mState
  mSubscriberList := l
  mAPN := m.mAPN
  mBearer := m.mBearer
  mRetries := m.mRetries

/-- The constructors of `AgpsStateMachine` and `DSStateMachine`, for the member `nif`. -/
def new (nif : Nif) : HeapStateMachine where
  cls := (AgpsManager.newSm nif).cls
  mAgpsType := (AgpsManager.newSm nif).mAgpsType
  mState := .released
  mSubscriberList := []
  mAPN := none
  mBearer := agpsApnBearerInvalid
  mRetries := 0

/-! ### The subscriber list -/

/-- The loop of `getSubscriber`, `getFirstSubscriber` and `anyActiveSubscribers`. -/
def findLoop (h : Heap AgpsSubscriber) (test : AgpsSubscriber → Bool) :
    List Ptr → Option (Option Ptr)
  | [] => some none
  | subscriber :: rest => do
      let s ← h.read subscriber
      if test s then some (some subscriber) else findLoop h test rest

/-- `AgpsStateMachine::getSubscriber`. -/
def getSubscriber (m : HeapStateMachine) (h : Heap AgpsSubscriber) (connHandle : ConnHandle) :
    Option (Option Ptr) :=
  findLoop h (fun s => s.mConnHandle = connHandle) m.mSubscriberList

/-- `AgpsStateMachine::getFirstSubscriber`. -/
def getFirstSubscriber (m : HeapStateMachine) (h : Heap AgpsSubscriber) (isInactive : Bool) :
    Option (Option Ptr) :=
  findLoop h (fun s => s.mIsInactive = isInactive) m.mSubscriberList

/-- `AgpsStateMachine::anyActiveSubscribers`. -/
def anyActiveSubscribers (m : HeapStateMachine) (h : Heap AgpsSubscriber) : Option Bool :=
  (findLoop h (fun s => !s.mIsInactive) m.mSubscriberList).map Option.isSome

/-- The loop of `addSubscriber`: whether `subscriberToAdd` equals a listed subscriber. -/
def listedLoop (h : Heap AgpsSubscriber) (subscriberToAdd : Ptr) : List Ptr → Option Bool
  | [] => some false
  | subscriber :: rest => do
      let s ← h.read subscriber
      let a ← h.read subscriberToAdd
      if s.mConnHandle = a.mConnHandle then some true else listedLoop h subscriberToAdd rest

/-- `AgpsStateMachine::addSubscriber`. The list gets a clone. -/
def addSubscriber (m : HeapStateMachine) (h : Heap AgpsSubscriber) (subscriberToAdd : Ptr) :
    Option (HeapStateMachine × Heap AgpsSubscriber) := do
  let listed ← listedLoop h subscriberToAdd m.mSubscriberList
  if listed then some (m, h)
  else
    let a ← h.read subscriberToAdd
    let cloned := h.new a
    some ({ m with mSubscriberList := m.mSubscriberList ++ [cloned.2] }, cloned.1)

/-- The loop of `deleteSubscriber`. It compares every listed subscriber with `subscriberToDelete`,
also after that one was deleted. -/
def deleteLoop (subscriberToDelete : Ptr) :
    Heap AgpsSubscriber → List Ptr → Option (Heap AgpsSubscriber × List Ptr)
  | h, [] => some (h, [])
  | h, subscriber :: rest => do
      let s ← h.read subscriber
      -- `equals` reads the deleted subscriber again when it is not the last one
      let d ← h.read subscriberToDelete
      if s.mConnHandle = d.mConnHandle then
        let h' ← h.delete subscriber
        deleteLoop subscriberToDelete h' rest
      else
        let (h', kept) ← deleteLoop subscriberToDelete h rest
        some (h', subscriber :: kept)

/-- `AgpsStateMachine::deleteSubscriber`. -/
def deleteSubscriber (m : HeapStateMachine) (h : Heap AgpsSubscriber) (subscriberToDelete : Ptr) :
    Option (HeapStateMachine × Heap AgpsSubscriber) := do
  let (h', kept) ← deleteLoop subscriberToDelete h m.mSubscriberList
  some ({ m with mSubscriberList := kept }, h')

/-- The loop of `dropAllSubscribers`. -/
def dropLoop : Heap AgpsSubscriber → List Ptr → Option (Heap AgpsSubscriber)
  | h, [] => some h
  | h, subscriber :: rest => do
      let h' ← h.delete subscriber
      dropLoop h' rest

/-- `AgpsStateMachine::dropAllSubscribers`. -/
def dropAllSubscribers (m : HeapStateMachine) (h : Heap AgpsSubscriber) :
    Option (HeapStateMachine × Heap AgpsSubscriber) := do
  let h' ← dropLoop h m.mSubscriberList
  some ({ m with mSubscriberList := [] }, h')

/-- `mCurrentSubscriber->mIsInactive = true`. -/
def markInactive (h : Heap AgpsSubscriber) (mCurrentSubscriber : Ptr) :
    Option (Heap AgpsSubscriber) := do
  let s ← h.read mCurrentSubscriber
  h.write mCurrentSubscriber { s with mIsInactive := true }

/-- `AgpsStateMachine::transitionState`. -/
def transitionState (m : HeapStateMachine) (newState : AgpsState) : HeapStateMachine :=
  { m with mState := newState }

/-! ### Notifications -/

/-- `notifyEventToSubscriber` of both classes up to the deletion. -/
def notifyEvent (m : HeapStateMachine) (h : Heap AgpsSubscriber) (event : AgpsEvent)
    (subscriberToNotify : Ptr) : Option (HeapStateMachine × List AgpsOutput) := do
  let s ← h.read subscriberToNotify
  let r := (m.withValues []).notifyEvent event s
  some ({ m with mRetries := r.1.mRetries }, r.2)

/-- The loop of `notifyAllSubscribers`. It deletes a subscriber after it was notified. -/
def notifyAllLoop (event : AgpsEvent) (deleteSubscriberPostNotify : Bool)
    (notificationType : AgpsNotificationType) :
    HeapStateMachine → Heap AgpsSubscriber → List Ptr →
      Option (HeapStateMachine × Heap AgpsSubscriber × List Ptr × List AgpsOutput)
  | m, h, [] => some (m, h, [], [])
  | m, h, subscriber :: rest => do
      let s ← h.read subscriber
      if notificationType.selects s then
        let (m', outs) ← m.notifyEvent h event subscriber
        if deleteSubscriberPostNotify then
          let h' ← h.delete subscriber
          let (m'', h'', kept, outs') ←
            notifyAllLoop event deleteSubscriberPostNotify notificationType m' h' rest
          some (m'', h'', kept, outs ++ outs')
        else
          let (m'', h'', kept, outs') ←
            notifyAllLoop event deleteSubscriberPostNotify notificationType m' h rest
          some (m'', h'', subscriber :: kept, outs ++ outs')
      else
        let (m', h', kept, outs) ←
          notifyAllLoop event deleteSubscriberPostNotify notificationType m h rest
        some (m', h', subscriber :: kept, outs)

/-- `AgpsStateMachine::notifyAllSubscribers`. -/
def notifyAllSubscribers (m : HeapStateMachine) (h : Heap AgpsSubscriber) (event : AgpsEvent)
    (deleteSubscriberPostNotify : Bool) (notificationType : AgpsNotificationType) :
    Option (HeapStateMachine × Heap AgpsSubscriber × List AgpsOutput) := do
  let (m', h', kept, outs) ←
    notifyAllLoop event deleteSubscriberPostNotify notificationType m h m.mSubscriberList
  some ({ m' with mSubscriberList := kept }, h', outs)

/-- `AgpsStateMachine::requestOrReleaseDataConn` and
`DSStateMachine::requestOrReleaseDataConn`, with the return value last. -/
def requestOrReleaseDataConn (m : HeapStateMachine) (h : Heap AgpsSubscriber) (env : AgpsEnv)
    (request : Bool) : Option (HeapStateMachine × List AgpsOutput × Int) :=
  match m.cls with
  | .agpsStateMachine =>
      let status := if request then .requestAgpsDataConn else .releaseAgpsDataConn
      some (m, [.frameworkStatusV4Cb m.mAgpsType status], 0)
  | .dsStateMachine =>
      -- a close without the function goes on as if it were a request
      if !request && env.mDSClientStopDataCallFn then
        some (m, [.dsClientStopDataCall], 0)
      else do
        match ← m.getFirstSubscriber h false with
        | none => some (m, [], -1)
        | some subscriber =>
            match env.mDSClientOpenAndStartDataCallFn with
            | none =>
                let (m', outs) ← m.notifyEvent h .denied subscriber
                some (m', outs, -1)
            | some ret =>
                let call := AgpsOutput.dsClientOpenAndStartDataCall ret
                if ret = locApiAdapterErrEngineBusy then
                  let m' := { m with mRetries := m.mRetries + 1 }
                  if m'.mRetries > AgpsStateMachine.maxStartDataCallRetries then
                    let (m'', outs) ← m'.notifyEvent h .denied subscriber
                    some (m'', call :: outs, ret)
                  else if env.locTimerStart then
                    some (m', [call, .locTimerStart], -1)
                  else
                    some (m', [call], ret)
                else if ret = locApiAdapterErrUnsupported then
                  let (m', outs) ← m.notifyEvent h .denied subscriber
                  some (m', call :: outs, ret)
                else
                  some (m, [call], ret)

/-! ### The events -/

/-- `AgpsStateMachine::processAgpsEventSubscribe`. -/
def processAgpsEventSubscribe (m : HeapStateMachine) (h : Heap AgpsSubscriber) (env : AgpsEnv)
    (mCurrentSubscriber : Ptr) :
    Option (HeapStateMachine × Heap AgpsSubscriber × List AgpsOutput) :=
  match m.mState with
  | .released => do
      let (m', h') ← m.addSubscriber h mCurrentSubscriber
      let (m'', outs, ret) ← m'.requestOrReleaseDataConn h' env true
      some (if ret = 0 then m''.transitionState .pending else m'', h', outs)
  | .pending => do
      let (m', h') ← m.addSubscriber h mCurrentSubscriber
      some (m', h', [])
  | .acquired => do
      let (m', outs) ← m.notifyEvent h .granted mCurrentSubscriber
      -- the connection is there, so no call is started
      let (m'', h') ← m'.addSubscriber h mCurrentSubscriber
      some (m'', h', outs)
  | .releasing => do
      let (m', h') ← m.addSubscriber h mCurrentSubscriber
      some (m', h', [])
  | .invalid => some (m, h, [])

/-- The start of `processAgpsEventUnsubscribe` outside the released state. -/
def unsubscribeCurrent (m : HeapStateMachine) (h : Heap AgpsSubscriber)
    (mCurrentSubscriber : Ptr) :
    Option (HeapStateMachine × Heap AgpsSubscriber × List AgpsOutput) := do
  let s ← h.read mCurrentSubscriber
  if s.mWaitForCloseComplete then
    -- it stays listed until the close is reported
    let h' ← markInactive h mCurrentSubscriber
    some (m, h', [])
  else
    let (m', outs) ← m.notifyEvent h .unsubscribe mCurrentSubscriber
    let (m'', h') ← m'.deleteSubscriber h mCurrentSubscriber
    some (m'', h', outs)

/-- The end of `processAgpsEventUnsubscribe` in the pending and the acquired state. -/
def releaseUnused (m : HeapStateMachine) (h : Heap AgpsSubscriber) (env : AgpsEnv) :
    Option (HeapStateMachine × List AgpsOutput) := do
  if m.mSubscriberList.isEmpty then
    let (m', outs, _) ← (m.transitionState .released).requestOrReleaseDataConn h env false
    some (m', outs)
  else
    let active ← m.anyActiveSubscribers h
    if !active then
      let (m', outs, _) ← (m.transitionState .releasing).requestOrReleaseDataConn h env false
      some (m', outs)
    else some (m, [])

/-- `AgpsStateMachine::processAgpsEventUnsubscribe`. -/
def processAgpsEventUnsubscribe (m : HeapStateMachine) (h : Heap AgpsSubscriber) (env : AgpsEnv)
    (mCurrentSubscriber : Ptr) :
    Option (HeapStateMachine × Heap AgpsSubscriber × List AgpsOutput) :=
  match m.mState with
  | .released => do
      let (m', outs) ← m.notifyEvent h .unsubscribe mCurrentSubscriber
      some (m', h, outs)
  | .pending | .acquired => do
      let (m', h', outs) ← m.unsubscribeCurrent h mCurrentSubscriber
      let (m'', outs') ← m'.releaseUnused h' env
      some (m'', h', outs ++ outs')
  | .releasing => do
      let (m', h', outs) ← m.unsubscribeCurrent h mCurrentSubscriber
      some (if m'.mSubscriberList.isEmpty then m'.transitionState .released else m', h', outs)
  | .invalid => some (m, h, [])

/-- `AgpsStateMachine::processAgpsEventGranted`. -/
def processAgpsEventGranted (m : HeapStateMachine) (h : Heap AgpsSubscriber) :
    Option (HeapStateMachine × Heap AgpsSubscriber × List AgpsOutput) :=
  match m.mState with
  | .pending =>
      (m.transitionState .acquired).notifyAllSubscribers h .granted false .forActiveSubscribers
  | _ => some (m, h, [])

/-- The branch for the releasing state that `processAgpsEventReleased` and
`processAgpsEventDenied` share. -/
def finishReleasing (m : HeapStateMachine) (h : Heap AgpsSubscriber) (env : AgpsEnv) :
    Option (HeapStateMachine × Heap AgpsSubscriber × List AgpsOutput) := do
  let (m', h', outs) ← m.notifyAllSubscribers h .released true .forInactiveSubscribers
  let active ← m'.anyActiveSubscribers h'
  if active then
    let (m'', outs', _) ← (m'.transitionState .pending).requestOrReleaseDataConn h' env true
    some (m'', h', outs ++ outs')
  else some (m'.transitionState .released, h', outs)

/-- `AgpsStateMachine::processAgpsEventReleased`. -/
def processAgpsEventReleased (m : HeapStateMachine) (h : Heap AgpsSubscriber) (env : AgpsEnv) :
    Option (HeapStateMachine × Heap AgpsSubscriber × List AgpsOutput) :=
  match m.mState with
  | .released => some (m, h, [])
  | .acquired =>
      (m.transitionState .released).notifyAllSubscribers h .released true .forAllSubscribers
  | .releasing => m.finishReleasing h env
  | .pending => some (m, h, [])
  | .invalid => some (m, h, [])

/-- `AgpsStateMachine::processAgpsEventDenied`. -/
def processAgpsEventDenied (m : HeapStateMachine) (h : Heap AgpsSubscriber) (env : AgpsEnv) :
    Option (HeapStateMachine × Heap AgpsSubscriber × List AgpsOutput) :=
  match m.mState with
  | .released => some (m, h, [])
  | .acquired => some (m, h, [])
  | .releasing => m.finishReleasing h env
  | .pending =>
      (m.transitionState .released).notifyAllSubscribers h .denied true .forAllSubscribers
  | .invalid => some (m, h, [])

/-- `DSStateMachine::processAgpsEvent` reads a release in the pending state as a denial. -/
def translateEvent (m : HeapStateMachine) (event : AgpsEvent) : AgpsEvent :=
  if m.cls = .dsStateMachine ∧ event = .released ∧ m.mState = .pending then .denied else event

/-- `processAgpsEvent` for the events that a report brings. -/
def processReport (m : HeapStateMachine) (h : Heap AgpsSubscriber) (env : AgpsEnv)
    (event : AgpsEvent) : Option (HeapStateMachine × Heap AgpsSubscriber × List AgpsOutput) :=
  match m.translateEvent event with
  | .granted => m.processAgpsEventGranted h
  | .released => m.processAgpsEventReleased h env
  | .denied => m.processAgpsEventDenied h env
  | _ => some (m, h, [])

/-- `DSStateMachine::retryCallback`. -/
def retryCallback (m : HeapStateMachine) (h : Heap AgpsSubscriber) : Option (List AgpsOutput) := do
  match ← m.getFirstSubscriber h false with
  | none => some []
  | some subscriber =>
      let s ← h.read subscriber
      some [.sendMsgToAdapterQueue s.mConnHandle locAgpsTypeSuplEs]

end HeapStateMachine

end LocHal.Gnss
