import LocHal.Location.LocationAPIClientBase

/-!
# `LocHal.Location.RequestQueues`: one current session for each request queue

The requests that wait for a response are in queues, and each queue has one current session. A
response names its session, and `getRequestBySession` gives it to the oldest request of the first
queue whose session is that one. `reset` deletes the requests that are in the queue and sets the
new session.

This module has the queue over the request objects of any client, and the part of
`LocationAPIClientBase` that the tracking methods and `locAPIGnssNiResponse` use. A client that
uses these methods only has an empty `mSessionBiDict`, so the second half of `getRequestBySession`
finds nothing there and is left out. The options and the NI answer that are handed on to
`LocationAPI` are left out too.
-/

set_option autoImplicit false

namespace LocHal.Location

/-- `RequestQueue`, over the request objects of a client. -/
structure RequestQueueOf (R : Type) where
  mSession : UInt32
  mQueue : List R
  deriving DecidableEq, Repr

namespace RequestQueueOf

variable {R : Type}

/-- `RequestQueue::RequestQueue`. -/
def new : RequestQueueOf R := ⟨0, []⟩

/-- `RequestQueue::reset`. The requests of the queue are deleted. -/
def reset (_ : RequestQueueOf R) (session : UInt32) : RequestQueueOf R := ⟨session, []⟩

/-- `RequestQueue::push`. -/
def push (q : RequestQueueOf R) (request : R) : RequestQueueOf R :=
  { q with mQueue := q.mQueue ++ [request] }

/-- `RequestQueue::pop`. -/
def pop (q : RequestQueueOf R) : Option R × RequestQueueOf R :=
  (q.mQueue.head?, { q with mQueue := q.mQueue.tail })

@[simp] theorem push_mQueue (q : RequestQueueOf R) (request : R) :
    (q.push request).mQueue = q.mQueue ++ [request] := rfl

@[simp] theorem pop_mQueue (q : RequestQueueOf R) : q.pop.2.mQueue = q.mQueue.tail := rfl

end RequestQueueOf

section Lookup
variable {K R : Type} [DecidableEq K]

/-- The loop of `getRequestBySession` over the queues `keys`. It stops at the first queue of the
session, also when that queue is empty. -/
def getRequestBySession (queues : K → RequestQueueOf R) (session : UInt32) :
    List K → Option R × (K → RequestQueueOf R)
  | [] => (none, queues)
  | k :: keys =>
      if (queues k).mSession = session then
        ((queues k).pop.1, Function.update queues k (queues k).pop.2)
      else getRequestBySession queues session keys

/-- The first queue of the list has the session. -/
theorem getRequestBySession_cons_of_eq {queues : K → RequestQueueOf R} {session : UInt32} {k : K}
    {keys : List K} (h : (queues k).mSession = session) :
    getRequestBySession queues session (k :: keys) =
      ((queues k).mQueue.head?, Function.update queues k (queues k).pop.2) := if_pos h

/-- The first queue of the list has another session. -/
theorem getRequestBySession_cons_of_ne {queues : K → RequestQueueOf R} {session : UInt32} {k : K}
    {keys : List K} (h : (queues k).mSession ≠ session) :
    getRequestBySession queues session (k :: keys) = getRequestBySession queues session keys :=
  if_neg h

/-- The request that a response gets is at the head of a queue with its session. -/
theorem getRequestBySession_some {queues : K → RequestQueueOf R} {session : UInt32} {r : R} :
    ∀ {keys : List K}, (getRequestBySession queues session keys).1 = some r →
      ∃ k ∈ keys, (queues k).mSession = session ∧ (queues k).mQueue.head? = some r := by
  intro keys
  induction keys with
  | nil =>
      intro h
      cases h
  | cons k keys ih =>
      intro h
      by_cases hk : (queues k).mSession = session
      · rw [getRequestBySession_cons_of_eq hk] at h
        exact ⟨k, List.mem_cons_self, hk, h⟩
      · rw [getRequestBySession_cons_of_ne hk] at h
        obtain ⟨k', hk', hrest⟩ := ih h
        exact ⟨k', List.mem_cons_of_mem k hk', hrest⟩

/-- A lookup keeps the session of every queue, and takes requests away only. -/
theorem getRequestBySession_keep (queues : K → RequestQueueOf R) (session : UInt32) (k : K) :
    ∀ keys : List K,
      ((getRequestBySession queues session keys).2 k).mSession = (queues k).mSession ∧
        ∀ r ∈ ((getRequestBySession queues session keys).2 k).mQueue, r ∈ (queues k).mQueue := by
  intro keys
  induction keys with
  | nil => exact ⟨rfl, fun r hr => hr⟩
  | cons k' keys ih =>
      by_cases hk : (queues k').mSession = session
      · rw [getRequestBySession_cons_of_eq hk]
        by_cases hkk : k = k'
        · subst hkk
          dsimp only
          rw [Function.update_self]
          exact ⟨rfl, fun r hr => List.mem_of_mem_tail hr⟩
        · dsimp only
          rw [Function.update_of_ne hkk]
          exact ⟨rfl, fun r hr => hr⟩
      · rw [getRequestBySession_cons_of_ne hk]
        exact ih

end Lookup

/-! ### The tracking and NI methods -/

/-- The classes of the request objects of the tracking methods and of `locAPIGnssNiResponse`. -/
inductive TrackingRequestClass where
  | startTrackingRequest
  | stopTrackingRequest
  | updateTrackingOptionsRequest
  | gnssNiResponseRequest
  deriving DecidableEq, Repr

/-- A request object of the class `C`, with its address. -/
structure ClientRequest (C : Type) where
  cls : C
  address : Nat
  deriving DecidableEq, Repr

/-- A call that leaves the client: the session it names, and the request object that its response
is for. The class of the object says which method was called. -/
structure ClientCall (C : Type) where
  session : UInt32
  request : ClientRequest C
  deriving DecidableEq, Repr

/-- The call is a `gnssNiResponse`. -/
def ClientCall.isNi (call : ClientCall TrackingRequestClass) : Bool :=
  call.request.cls = .gnssNiResponseRequest

/-- The call is a `startTracking`. -/
def ClientCall.isStart (call : ClientCall TrackingRequestClass) : Bool :=
  call.request.cls = .startTrackingRequest

/-- `LocAdapterBase::generateSessionId`, from the value of the counter. -/
def generateSessionId (mSessionIdCounter : UInt32) : UInt32 :=
  if mSessionIdCounter + 1 = 0xFFFFFFFF then 1 else mSessionIdCounter + 1

/-- The part of `LocationAPIClientBase` that the tracking methods and `locAPIGnssNiResponse`
use. `mLocationAPI` says whether the pointer is set. -/
structure TrackingClient where
  mLocationAPI : Bool
  mTracking : Bool
  mRequestQueues : RequestType → RequestQueueOf (ClientRequest TrackingRequestClass)

namespace TrackingClient

/-- The constructor, and `locAPISetCallbacks`. -/
def new (mLocationAPI : Bool) : TrackingClient := ⟨mLocationAPI, false, fun _ => .new⟩

/-- The client with another queue in one place. -/
def setQueue (c : TrackingClient) (type : RequestType)
    (queue : RequestQueueOf (ClientRequest TrackingRequestClass)) : TrackingClient :=
  { c with mRequestQueues := Function.update c.mRequestQueues type queue }

/-- `LocationAPIClientBase::locAPIStartTracking`. -/
def locAPIStartTracking (c : TrackingClient) (address : Nat) (newSession : UInt32) :
    TrackingClient × LocationError × Option (ClientCall TrackingRequestClass) :=
  if !c.mLocationAPI then (c, .generalFailure, none)
  else if c.mTracking then (c, .success, none)
  else
    let request := ⟨.startTrackingRequest, address⟩
    -- requests that still wait for a response are deleted here
    let queue := ((c.mRequestQueues .tracking).reset newSession).push request
    ({ c.setQueue .tracking queue with mTracking := true }, .success, some ⟨newSession, request⟩)

/-- `LocationAPIClientBase::locAPIStopTracking`. -/
def locAPIStopTracking (c : TrackingClient) (address : Nat) :
    TrackingClient × Option (ClientCall TrackingRequestClass) :=
  if !c.mLocationAPI then (c, none)
  else
    let session := (c.mRequestQueues .tracking).mSession
    if 0 < session then
      let request := ⟨.stopTrackingRequest, address⟩
      let queue := (c.mRequestQueues .tracking).push request
      ({ c.setQueue .tracking queue with mTracking := false }, some ⟨session, request⟩)
    else (c, none)

/-- `LocationAPIClientBase::locAPIUpdateTrackingOptions`. -/
def locAPIUpdateTrackingOptions (c : TrackingClient) (address : Nat) :
    TrackingClient × Option (ClientCall TrackingRequestClass) :=
  if !c.mLocationAPI then (c, none)
  else
    let session := (c.mRequestQueues .tracking).mSession
    if 0 < session then
      let request := ⟨.updateTrackingOptionsRequest, address⟩
      let queue := (c.mRequestQueues .tracking).push request
      (c.setQueue .tracking queue, some ⟨session, request⟩)
    else (c, none)

/-- `LocationAPIClientBase::locAPIGnssNiResponse`. -/
def locAPIGnssNiResponse (c : TrackingClient) (address : Nat) (id : UInt32) :
    TrackingClient × Option (ClientCall TrackingRequestClass) :=
  if !c.mLocationAPI then (c, none)
  else
    let request := ⟨.gnssNiResponseRequest, address⟩
    let queue := ((c.mRequestQueues .niResponse).reset id).push request
    (c.setQueue .niResponse queue, some ⟨id, request⟩)

/-- `LocationAPIClientBase::onResponseCb`, with the request that it dispatches to. The loop of
`getRequestBySession` leaves `REQUEST_SESSION` and `REQUEST_GEOFENCE` out. -/
def onResponseCb (c : TrackingClient) (id : UInt32) :
    Option (ClientRequest TrackingRequestClass) × TrackingClient :=
  let found := getRequestBySession c.mRequestQueues id [.tracking, .niResponse]
  (found.1, { c with mRequestQueues := found.2 })

/-- What a method does to the two queues when it makes the call `call` with a request object at
`address`. -/
inductive Issues (c : TrackingClient) (address : Nat) (c' : TrackingClient) :
    Option (ClientCall TrackingRequestClass) → Prop where
  /-- The method returns without a call. -/
  | nothing (hclient : c' = c) : Issues c address c' none
  /-- A call on the current tracking session. -/
  | onSession (cls : TrackingRequestClass)
      (hcls : cls = .stopTrackingRequest ∨ cls = .updateTrackingOptionsRequest)
      (htracking : c'.mRequestQueues .tracking = (c.mRequestQueues .tracking).push ⟨cls, address⟩)
      (hother : c'.mRequestQueues .niResponse = c.mRequestQueues .niResponse) :
      Issues c address c' (some ⟨(c.mRequestQueues .tracking).mSession, ⟨cls, address⟩⟩)
  /-- A new tracking session. -/
  | newSession (session : UInt32)
      (htracking : c'.mRequestQueues .tracking =
        ((c.mRequestQueues .tracking).reset session).push ⟨.startTrackingRequest, address⟩)
      (hother : c'.mRequestQueues .niResponse = c.mRequestQueues .niResponse) :
      Issues c address c' (some ⟨session, ⟨.startTrackingRequest, address⟩⟩)
  /-- An NI answer. -/
  | niAnswer (id : UInt32)
      (hresponse : c'.mRequestQueues .niResponse =
        ((c.mRequestQueues .niResponse).reset id).push ⟨.gnssNiResponseRequest, address⟩)
      (hother : c'.mRequestQueues .tracking = c.mRequestQueues .tracking) :
      Issues c address c' (some ⟨id, ⟨.gnssNiResponseRequest, address⟩⟩)

theorem locAPIStartTracking_issues (c : TrackingClient) (address : Nat) (newSession : UInt32) :
    c.Issues address (c.locAPIStartTracking address newSession).1
      (c.locAPIStartTracking address newSession).2.2 := by
  unfold locAPIStartTracking
  split
  · exact .nothing rfl
  · split
    · exact .nothing rfl
    · exact .newSession newSession rfl rfl

theorem locAPIStopTracking_issues (c : TrackingClient) (address : Nat) :
    c.Issues address (c.locAPIStopTracking address).1 (c.locAPIStopTracking address).2 := by
  unfold locAPIStopTracking
  split
  · exact .nothing rfl
  · dsimp only
    split
    · exact .onSession _ (Or.inl rfl) rfl rfl
    · exact .nothing rfl

theorem locAPIUpdateTrackingOptions_issues (c : TrackingClient) (address : Nat) :
    c.Issues address (c.locAPIUpdateTrackingOptions address).1
      (c.locAPIUpdateTrackingOptions address).2 := by
  unfold locAPIUpdateTrackingOptions
  split
  · exact .nothing rfl
  · dsimp only
    split
    · exact .onSession _ (Or.inr rfl) rfl rfl
    · exact .nothing rfl

theorem locAPIGnssNiResponse_issues (c : TrackingClient) (address : Nat) (id : UInt32) :
    c.Issues address (c.locAPIGnssNiResponse address id).1
      (c.locAPIGnssNiResponse address id).2 := by
  unfold locAPIGnssNiResponse
  split
  · exact .nothing rfl
  · exact .niAnswer id rfl rfl

end TrackingClient

end LocHal.Location
