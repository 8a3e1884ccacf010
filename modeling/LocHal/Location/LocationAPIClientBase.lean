import Mathlib.Logic.Function.Basic
import Mathlib.Tactic.Common

/-!
# `LocHal.Location.LocationAPIClientBase`: sessions and their requests

`LocationAPIClientBase` maps the ids of its clients to the sessions of `LocationAPI`, and keeps a
request object for every response that it expects. All requests of tracking and batching sessions
are in one queue, `REQUEST_SESSION`, and a request object does not name its session.

Every method returns the client after the call, the error, and the calls of `LocationAPI` that it
makes, in order. Such a call carries its session and the request object that its response is for.
The stop that is the first half of a change between tracking and batching has no request object.
The session that `startTracking` or `startBatching` returns comes from the outside, and so does
the address of a new request object. The options and the count that are handed on to `LocationAPI`
are left out.
-/

set_option autoImplicit false

namespace LocHal.Location

/-- `SESSION_MODE_ON_FULL`. -/
def sessionModeOnFull : UInt32 := 1

/-- `SESSION_MODE_ON_FIX`. -/
def sessionModeOnFix : UInt32 := 2

/-- `SESSION_MODE_ON_TRIP_COMPLETED`. -/
def sessionModeOnTripCompleted : UInt32 := 3

/-- `LocationError`. -/
inductive LocationError where
  | success
  | generalFailure
  | callbackMissing
  | invalidParameter
  | idExists
  | idUnknown
  | alreadyStarted
  | geofencesAtMax
  | notSupported
  deriving DecidableEq, Repr

/-- `BatchingMode`. -/
inductive BatchingMode where
  | routine
  | trip
  | noAutoReport
  deriving DecidableEq, Repr

/-- The switch over the session mode. -/
def batchingMode (sessionMode : UInt32) : BatchingMode :=
  if sessionMode = sessionModeOnFull then .routine
  else if sessionMode = sessionModeOnTripCompleted then .trip
  else .noAutoReport

/-! ### `BiDict` -/

/-- `BiDict`. -/
structure BiDict (T : Type) where
  mForwardMap : UInt32 → Option UInt32
  mBackwardMap : UInt32 → Option UInt32
  mExtMap : UInt32 → Option T

namespace BiDict

variable {T : Type}

/-- The empty dictionary. -/
def empty : BiDict T := ⟨fun _ => none, fun _ => none, fun _ => none⟩

/-- `BiDict::hasId`. -/
def hasId (d : BiDict T) (id : UInt32) : Bool := (d.mForwardMap id).isSome

/-- `BiDict::hasSession`. -/
def hasSession (d : BiDict T) (session : UInt32) : Bool := (d.mBackwardMap session).isSome

/-- `BiDict::set`. -/
def set (d : BiDict T) (id session : UInt32) (ext : T) : BiDict T where
  mForwardMap := Function.update d.mForwardMap id (some session)
  mBackwardMap := Function.update d.mBackwardMap session (some id)
  mExtMap := Function.update d.mExtMap session (some ext)

/-- `BiDict::rmById`. A missing entry reads as 0. -/
def rmById (d : BiDict T) (id : UInt32) : BiDict T :=
  let session := (d.mForwardMap id).getD 0
  { mForwardMap := Function.update d.mForwardMap id none
    mBackwardMap := Function.update d.mBackwardMap session none
    mExtMap := Function.update d.mExtMap session none }

/-- `BiDict::rmBySession`. A missing entry reads as 0. -/
def rmBySession (d : BiDict T) (session : UInt32) : BiDict T :=
  let id := (d.mBackwardMap session).getD 0
  { mForwardMap := Function.update d.mForwardMap id none
    mBackwardMap := Function.update d.mBackwardMap session none
    mExtMap := Function.update d.mExtMap session none }

/-- `BiDict::getSession`. -/
def getSession (d : BiDict T) (id : UInt32) : UInt32 := (d.mForwardMap id).getD 0

/-- `BiDict::getExtBySession`; `zero` is the cleared value. -/
def getExtBySession (d : BiDict T) (zero : T) (session : UInt32) : T :=
  (d.mExtMap session).getD zero

/-- `BiDict::getExtById`, for an id of the dictionary. -/
def getExtById (d : BiDict T) (zero : T) (id : UInt32) : T :=
  let session := (d.mForwardMap id).getD 0
  if 0 < session then d.getExtBySession zero session else zero

end BiDict

/-! ### Requests -/

/-- The classes of the request objects of sessions. -/
inductive RequestClass where
  | startTrackingRequest
  | stopTrackingRequest
  | updateTrackingOptionsRequest
  | startBatchingRequest
  | stopBatchingRequest
  | updateBatchingOptionsRequest
  | getBatchedLocationsRequest
  deriving DecidableEq, Repr

/-- A `LocationAPIRequest`, with the address of the object. -/
structure LocationAPIRequest where
  cls : RequestClass
  address : Nat
  deriving DecidableEq, Repr

/-- `REQUEST_TYPE`. -/
inductive RequestType where
  | tracking
  | session
  | geofence
  | niResponse
  deriving DecidableEq, Repr

/-- `RequestQueue`. -/
structure RequestQueue where
  mSession : UInt32
  mQueue : List LocationAPIRequest
  deriving DecidableEq, Repr

namespace RequestQueue

/-- `RequestQueue::setSession`. -/
def setSession (q : RequestQueue) (session : UInt32) : RequestQueue :=
  { q with mSession := session }

/-- `RequestQueue::push`. -/
def push (q : RequestQueue) (request : LocationAPIRequest) : RequestQueue :=
  { q with mQueue := q.mQueue ++ [request] }

/-- `RequestQueue::pop`. -/
def pop (q : RequestQueue) : Option LocationAPIRequest × RequestQueue :=
  (q.mQueue.head?, { q with mQueue := q.mQueue.tail })

end RequestQueue

/-! ### The client -/

/-- `SessionEntity`. -/
structure SessionEntity where
  id : UInt32
  trackingSession : UInt32
  batchingSession : UInt32
  sessionMode : UInt32
  deriving DecidableEq, Repr

/-- A cleared `SessionEntity`. -/
def SessionEntity.zero : SessionEntity := ⟨0, 0, 0, 0⟩

/-- The methods of `LocationAPI` for sessions. -/
inductive LocationAPIMethod where
  | startTracking
  | stopTracking
  | updateTrackingOptions
  | startBatching (mode : BatchingMode)
  | stopBatching
  | updateBatchingOptions (mode : BatchingMode)
  | getBatchedLocations
  deriving DecidableEq, Repr

/-- A call of `LocationAPI`: the method, the session, and the request that the response is
for. -/
structure LocationAPICall where
  method : LocationAPIMethod
  session : UInt32
  request : Option LocationAPIRequest
  deriving DecidableEq, Repr

/-- The part of `LocationAPIClientBase` that the sessions use. `mLocationAPI` says whether the
pointer is set. -/
structure LocationAPIClientBase where
  mLocationAPI : Bool
  mRequestQueues : RequestType → RequestQueue
  mSessionBiDict : BiDict SessionEntity

namespace LocationAPIClientBase

/-- The constructor, and `locAPISetCallbacks` when `LocationAPI::createInstance` succeeds. -/
def new (mLocationAPI : Bool) : LocationAPIClientBase := ⟨mLocationAPI, fun _ => ⟨0, []⟩, .empty⟩

/-- `mRequestQueues[REQUEST_SESSION].push`. -/
def pushRequest (c : LocationAPIClientBase) (request : LocationAPIRequest) :
    LocationAPIClientBase :=
  { c with
    mRequestQueues :=
      Function.update c.mRequestQueues .session ((c.mRequestQueues .session).push request) }

/-- `mRequestQueues[REQUEST_SESSION].setSession`. -/
def setSession (c : LocationAPIClientBase) (session : UInt32) : LocationAPIClientBase :=
  { c with
    mRequestQueues :=
      Function.update c.mRequestQueues .session ((c.mRequestQueues .session).setSession session) }

/-- `mSessionBiDict.set`. -/
def setEntity (c : LocationAPIClientBase) (id session : UInt32) (entity : SessionEntity) :
    LocationAPIClientBase :=
  { c with mSessionBiDict := c.mSessionBiDict.set id session entity }

/-- `LocationAPIClientBase::locAPIStartSession`. -/
def locAPIStartSession (c : LocationAPIClientBase) (address : Nat)
    (id sessionMode newSession : UInt32) :
    LocationAPIClientBase × LocationError × List LocationAPICall :=
  if !c.mLocationAPI then (c, .generalFailure, [])
  else if c.mSessionBiDict.hasId id then (c, .alreadyStarted, [])
  else if sessionMode = sessionModeOnFix then
    -- `mSession` of the queue is set for batching only
    let request : LocationAPIRequest := ⟨.startTrackingRequest, address⟩
    ((c.pushRequest request).setEntity id newSession ⟨id, newSession, 0, sessionMode⟩, .success,
      [⟨.startTracking, newSession, some request⟩])
  else
    let request : LocationAPIRequest := ⟨.startBatchingRequest, address⟩
    (((c.setSession newSession).pushRequest request).setEntity id newSession
      ⟨id, 0, newSession, sessionMode⟩, .success,
      [⟨.startBatching (batchingMode sessionMode), newSession, some request⟩])

/-- `LocationAPIClientBase::locAPIStopSession`. -/
def locAPIStopSession (c : LocationAPIClientBase) (address : Nat) (id : UInt32) :
    LocationAPIClientBase × LocationError × List LocationAPICall :=
  if !c.mLocationAPI then (c, .generalFailure, [])
  else if c.mSessionBiDict.hasId id then
    let entity := c.mSessionBiDict.getExtById .zero id
    if entity.sessionMode = sessionModeOnFix then
      let request : LocationAPIRequest := ⟨.stopTrackingRequest, address⟩
      (c.pushRequest request, .success,
        [⟨.stopTracking, entity.trackingSession, some request⟩])
    else
      let request : LocationAPIRequest := ⟨.stopBatchingRequest, address⟩
      (c.pushRequest request, .success,
        [⟨.stopBatching, entity.batchingSession, some request⟩])
  else (c, .idUnknown, [])

/-- The end of `locAPIUpdateSessionOptions`: the new values replace the old ones. -/
def replaceEntity (c : LocationAPIClientBase) (id session : UInt32) (entity : SessionEntity) :
    LocationAPIClientBase :=
  { c with mSessionBiDict := (c.mSessionBiDict.rmById id).set id session entity }

/-- `LocationAPIClientBase::locAPIUpdateSessionOptions`. -/
def locAPIUpdateSessionOptions (c : LocationAPIClientBase) (address : Nat)
    (id sessionMode newSession : UInt32) :
    LocationAPIClientBase × LocationError × List LocationAPICall :=
  if !c.mLocationAPI then (c, .generalFailure, [])
  else if c.mSessionBiDict.hasId id then
    let entity := c.mSessionBiDict.getExtById .zero id
    if sessionMode = sessionModeOnFix then
      let request : LocationAPIRequest := ⟨.updateTrackingOptionsRequest, address⟩
      let c' := c.pushRequest request
      if entity.sessionMode = sessionModeOnFix then
        (c'.replaceEntity id entity.trackingSession { entity with sessionMode := sessionMode },
          .success, [⟨.updateTrackingOptions, entity.trackingSession, some request⟩])
      else
        -- stop batching, start tracking
        ((c'.setSession 0).replaceEntity id newSession
            { entity with
              trackingSession := newSession, batchingSession := 0, sessionMode := sessionMode },
          .success, [⟨.stopBatching, entity.batchingSession, none⟩,
            ⟨.startTracking, newSession, some request⟩])
    else
      let request : LocationAPIRequest := ⟨.updateBatchingOptionsRequest, address⟩
      let c' := c.pushRequest request
      if entity.sessionMode = sessionModeOnFix then
        -- stop tracking, start batching
        ((c'.setSession newSession).replaceEntity id newSession
            { entity with
              trackingSession := 0, batchingSession := newSession, sessionMode := sessionMode },
          .success, [⟨.stopTracking, entity.trackingSession, none⟩,
            ⟨.startBatching (batchingMode sessionMode), newSession, some request⟩])
      else
        (c'.replaceEntity id entity.batchingSession { entity with sessionMode := sessionMode },
          .success, [⟨.updateBatchingOptions (batchingMode sessionMode), entity.batchingSession,
            some request⟩])
  else (c, .idUnknown, [])

/-- `LocationAPIClientBase::locAPIGetBatchedLocations`. -/
def locAPIGetBatchedLocations (c : LocationAPIClientBase) (address : Nat) (id : UInt32) :
    LocationAPIClientBase × LocationError × List LocationAPICall :=
  if !c.mLocationAPI then (c, .generalFailure, [])
  else if c.mSessionBiDict.hasId id then
    let entity := c.mSessionBiDict.getExtById .zero id
    if entity.sessionMode ≠ sessionModeOnFix then
      let request : LocationAPIRequest := ⟨.getBatchedLocationsRequest, address⟩
      (c.pushRequest request, .success,
        [⟨.getBatchedLocations, entity.batchingSession, some request⟩])
    else (c, .notSupported, [])
  else (c, .idUnknown, [])

/-! ### Responses -/

/-- `LocationAPIClientBase::removeSession`. -/
def removeSession (c : LocationAPIClientBase) (session : UInt32) : LocationAPIClientBase :=
  if c.mSessionBiDict.hasSession session then
    { c with mSessionBiDict := c.mSessionBiDict.rmBySession session }
  else c

/-- `pop` of one of the queues. -/
def popRequest (c : LocationAPIClientBase) (type : RequestType) :
    Option LocationAPIRequest × LocationAPIClientBase :=
  let (request, queue) := (c.mRequestQueues type).pop
  (request, { c with mRequestQueues := Function.update c.mRequestQueues type queue })

/-- The loop of `getRequestBySession` over the queues with a session of their own. -/
def popBySession (c : LocationAPIClientBase) (session : UInt32) :
    List RequestType → Option LocationAPIRequest × LocationAPIClientBase
  | [] => (none, c)
  | type :: types =>
      if (c.mRequestQueues type).mSession = session then c.popRequest type
      else c.popBySession session types

/-- `LocationAPIClientBase::getRequestBySession`. -/
def getRequestBySession (c : LocationAPIClientBase) (session : UInt32) :
    Option LocationAPIRequest × LocationAPIClientBase :=
  match c.popBySession session [.tracking, .niResponse] with
  | (some request, c') => (some request, c')
  | (none, c') =>
      -- the session only selects the queue, and its oldest request is taken
      if c'.mSessionBiDict.hasSession session then c'.popRequest .session else (none, c')

/-- `onResponse` of a request object, besides its callback. -/
def onResponse (c : LocationAPIClientBase) (request : LocationAPIRequest) (error : LocationError)
    (id : UInt32) : LocationAPIClientBase :=
  match request.cls with
  | .startTrackingRequest | .startBatchingRequest =>
      if error ≠ .success then c.removeSession id else c
  | .stopTrackingRequest | .stopBatchingRequest =>
      if error = .success then c.removeSession id else c
  | _ => c

/-- `LocationAPIClientBase::onResponseCb`, with the request that it dispatches to. -/
def onResponseCb (c : LocationAPIClientBase) (error : LocationError) (id : UInt32) :
    Option LocationAPIRequest × LocationAPIClientBase :=
  match c.getRequestBySession id with
  | (none, c') => (none, c')
  | (some request, c') => (some request, c'.onResponse request error id)

/-- The loop of `beforeBatchingStatusCb` for completed trips. -/
def tripCompleted (c : LocationAPIClientBase) (tripCompletedList : List UInt32) :
    LocationAPIClientBase :=
  tripCompletedList.foldl (fun c session =>
    if c.mSessionBiDict.hasSession session ∧
        (c.mSessionBiDict.getExtBySession .zero session).sessionMode
          = sessionModeOnTripCompleted then
      { c with mSessionBiDict := c.mSessionBiDict.rmBySession session }
    else c) c

end LocationAPIClientBase

end LocHal.Location
