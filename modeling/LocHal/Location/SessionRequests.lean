import LocHal.Lib.LabelledRun
import LocHal.Location.LocationAPIClientBase

/-!
# `LocHal.Location.SessionRequests`: which request a response reaches

`ClientSystem` is the client with the calls of `LocationAPI` that are not answered yet. Responses
come in any order, but those of one session in the order of its calls: a response answers the
oldest call of its session. `dispatched` records for each response the request that it is for,
and the request that `onResponseCb` takes.

The requests of all sessions are popped in the order in which they were pushed, so a response
that overtakes the response of another session takes the wrong request, and so does every later
one. `allRight_iff_guarded` is the exact condition over every run.

The client has a queue for the requests of all its sessions. `Pushes` says what a method of the
client may do about it: it pushes one request for one call of `LocationAPI`, or it makes no call and
pushes none, and it leaves the queues of the other kinds empty. Each of the methods is an instance
(`pushes_startSession`, `pushes_stopSession`, `pushes_updateSessionOptions`,
`pushes_getBatchedLocations`).

`Inv` says that the queue has the requests of the unanswered calls, in their order, as long as all
responses were for the oldest call. So the response to the oldest call finds its request and keeps
this (`Inv.respond`). The response to a younger one takes the request of the oldest, which is wrong
at once (`Inv.inOrder`). The responses of sessions that the client does not know any more take no
request; `respond` has both.
-/

set_option autoImplicit false

namespace LocHal.Location

open LabelledRun

/-- The client, the address of the next request object, the calls that are not answered, and for
each response the request that it is for and the request that it reached. -/
structure ClientSystem where
  client : LocationAPIClientBase
  nextAddress : Nat
  unanswered : List LocationAPICall
  dispatched : List (Option LocationAPIRequest × Option LocationAPIRequest)

/-- What happens next: a call of the client's user, a response, or trips are completed. -/
inductive ClientStep where
  | startSession (id sessionMode newSession : UInt32)
  | stopSession (id : UInt32)
  | updateSessionOptions (id sessionMode newSession : UInt32)
  | getBatchedLocations (id : UInt32)
  | response (error : LocationError) (session : UInt32)
  | tripCompleted (sessions : List UInt32)
  deriving DecidableEq, Repr

namespace ClientSystem

/-- The system after the constructor. -/
def init (mLocationAPI : Bool) : ClientSystem := ⟨.new mLocationAPI, 0, [], []⟩

/-- A method of the client has returned. -/
def perform (s : ClientSystem)
    (r : LocationAPIClientBase × LocationError × List LocationAPICall) : ClientSystem :=
  { s with
    client := r.1
    nextAddress := s.nextAddress + 1
    unanswered := s.unanswered ++ r.2.2 }

/-- The oldest call of a session that is not answered. -/
def oldest (s : ClientSystem) (session : UInt32) : Option LocationAPICall :=
  s.unanswered.find? fun c => c.session = session

/-- A response to the oldest call of a session. -/
def respond (s : ClientSystem) (error : LocationError) (session : UInt32) : Option ClientSystem :=
  (s.oldest session).map fun call =>
    { s with
      client := (s.client.onResponseCb error session).2
      unanswered := s.unanswered.eraseP fun c => c.session = session
      dispatched := s.dispatched ++ [(call.request, (s.client.onResponseCb error session).1)] }

/-- One step. -/
def step (s : ClientSystem) : ClientStep → Option ClientSystem
  | .startSession id sessionMode newSession =>
      some (s.perform (s.client.locAPIStartSession s.nextAddress id sessionMode newSession))
  | .stopSession id => some (s.perform (s.client.locAPIStopSession s.nextAddress id))
  | .updateSessionOptions id sessionMode newSession =>
      some (s.perform (s.client.locAPIUpdateSessionOptions s.nextAddress id sessionMode newSession))
  | .getBatchedLocations id =>
      some (s.perform (s.client.locAPIGetBatchedLocations s.nextAddress id))
  | .response error session => s.respond error session
  | .tripCompleted sessions => some { s with client := s.client.tripCompleted sessions }

/-- Every response has reached the request that it was for. A pair of `dispatched` is the request of
the call that was answered and the request whose callback was called. Both may be `none`: a call
without a request needs no callback. -/
def AllRight (s : ClientSystem) : Prop := ∀ r ∈ s.dispatched, r.1 = r.2

/-- The requests that wait for a response, oldest first. -/
def requests (s : ClientSystem) : List LocationAPIRequest :=
  s.unanswered.filterMap LocationAPICall.request

/-- What a response must meet. All sessions share one queue, and a response takes the oldest request
of it. So for a call with a request, no older request of any session may wait, and the session must
be known, since the response of an unknown one is dropped. A response to a call without a request
would take the request of another call. So its session must be unknown, or no request waits. -/
def InOrder (s : ClientSystem) : ClientStep → Prop
  | .response _ session => ∀ call ∈ s.oldest session,
      if call.request = none then
        s.client.mSessionBiDict.hasSession session = false ∨ s.requests = []
      else s.client.mSessionBiDict.hasSession session = true ∧ s.requests.head? = call.request
  | _ => True

end ClientSystem

namespace LocationAPIClientBase

variable {c : LocationAPIClientBase}

/-! ### The requests of a method -/

/-- The queue of the session requests. -/
def sessionQueue (c : LocationAPIClientBase) : List LocationAPIRequest :=
  (c.mRequestQueues .session).mQueue

/-- The queues of the other requests are as the constructor leaves them. -/
def OthersEmpty (c : LocationAPIClientBase) : Prop :=
  ∀ type, type ≠ .session → c.mRequestQueues type = ⟨0, []⟩

@[simp] theorem sessionQueue_pushRequest (request : LocationAPIRequest) :
    (c.pushRequest request).sessionQueue = c.sessionQueue ++ [request] := by
  simp [sessionQueue, pushRequest, RequestQueue.push]

@[simp] theorem sessionQueue_setSession (session : UInt32) :
    (c.setSession session).sessionQueue = c.sessionQueue := by
  simp [sessionQueue, setSession, RequestQueue.setSession]

@[simp] theorem sessionQueue_setEntity (id session : UInt32) (entity : SessionEntity) :
    (c.setEntity id session entity).sessionQueue = c.sessionQueue := rfl

@[simp] theorem sessionQueue_replaceEntity (id session : UInt32) (entity : SessionEntity) :
    (c.replaceEntity id session entity).sessionQueue = c.sessionQueue := rfl

theorem OthersEmpty.pushRequest (h : c.OthersEmpty) (request : LocationAPIRequest) :
    (c.pushRequest request).OthersEmpty := by
  intro type htype
  rw [← h type htype]
  exact Function.update_of_ne htype _ _

theorem OthersEmpty.setSession (h : c.OthersEmpty) (session : UInt32) :
    (c.setSession session).OthersEmpty := by
  intro type htype
  rw [← h type htype]
  exact Function.update_of_ne htype _ _

theorem OthersEmpty.setEntity (h : c.OthersEmpty) (id session : UInt32) (entity : SessionEntity) :
    (c.setEntity id session entity).OthersEmpty := h

theorem OthersEmpty.replaceEntity (h : c.OthersEmpty) (id session : UInt32)
    (entity : SessionEntity) : (c.replaceEntity id session entity).OthersEmpty := h

/-- What a method does to the requests: the calls that it makes have at most one request, with the
given address, and that request is pushed. -/
structure Pushes (c : LocationAPIClientBase) (address : Nat)
    (r : LocationAPIClientBase × LocationError × List LocationAPICall) : Prop where
  others : r.1.OthersEmpty
  queue : r.1.sessionQueue = c.sessionQueue ++ r.2.2.filterMap LocationAPICall.request
  fresh : (r.2.2.filterMap LocationAPICall.request = []) ∨
    ∃ cls, r.2.2.filterMap LocationAPICall.request = [⟨cls, address⟩]

/-- A method that fails pushes nothing. -/
theorem Pushes.fail (h : c.OthersEmpty) (address : Nat) (error : LocationError) :
    c.Pushes address (c, error, []) :=
  ⟨h, (List.append_nil _).symm, .inl rfl⟩

/-- A method that pushes one request for one of its calls. -/
theorem Pushes.one {c' : LocationAPIClientBase} {calls : List LocationAPICall} {address : Nat}
    {cls : RequestClass} (hothers : c'.OthersEmpty)
    (hqueue : c'.sessionQueue = c.sessionQueue ++ [⟨cls, address⟩])
    (hcalls : calls.filterMap LocationAPICall.request = [⟨cls, address⟩]) :
    c.Pushes address (c', .success, calls) :=
  ⟨hothers, by rw [hqueue, hcalls], .inr ⟨cls, hcalls⟩⟩

theorem pushes_startSession (h : c.OthersEmpty) (address : Nat)
    (id sessionMode newSession : UInt32) :
    c.Pushes address (c.locAPIStartSession address id sessionMode newSession) := by
  unfold locAPIStartSession
  split
  · exact .fail h address _
  · split
    · exact .fail h address _
    · split
      · exact .one ((h.pushRequest _).setEntity _ _ _) (by simp [sessionQueue_setEntity]) rfl
      · exact .one (((h.setSession _).pushRequest _).setEntity _ _ _)
          (by simp [sessionQueue_setEntity]) rfl

theorem pushes_stopSession (h : c.OthersEmpty) (address : Nat) (id : UInt32) :
    c.Pushes address (c.locAPIStopSession address id) := by
  unfold locAPIStopSession
  split
  · exact .fail h address _
  · split
    · dsimp only
      split
      · exact .one (h.pushRequest _) (by simp) rfl
      · exact .one (h.pushRequest _) (by simp) rfl
    · exact .fail h address _

theorem pushes_updateSessionOptions (h : c.OthersEmpty) (address : Nat)
    (id sessionMode newSession : UInt32) :
    c.Pushes address (c.locAPIUpdateSessionOptions address id sessionMode newSession) := by
  unfold locAPIUpdateSessionOptions
  split
  · exact .fail h address _
  · split
    · dsimp only
      split
      · split
        · exact .one ((h.pushRequest _).replaceEntity _ _ _)
            (by simp [sessionQueue_replaceEntity]) rfl
        · exact .one (((h.pushRequest _).setSession _).replaceEntity _ _ _)
            (by simp [sessionQueue_replaceEntity]) rfl
      · split
        · exact .one (((h.pushRequest _).setSession _).replaceEntity _ _ _)
            (by simp [sessionQueue_replaceEntity]) rfl
        · exact .one ((h.pushRequest _).replaceEntity _ _ _)
            (by simp [sessionQueue_replaceEntity]) rfl
    · exact .fail h address _

theorem pushes_getBatchedLocations (h : c.OthersEmpty) (address : Nat) (id : UInt32) :
    c.Pushes address (c.locAPIGetBatchedLocations address id) := by
  unfold locAPIGetBatchedLocations
  split
  · exact .fail h address _
  · split
    · dsimp only
      split
      · exact .one (h.pushRequest _) (by simp) rfl
      · exact .fail h address _
    · exact .fail h address _

/-! ### The request of a response -/

/-- The queues of the other requests have nothing to pop. -/
theorem popBySession_eq (h : c.OthersEmpty) (session : UInt32) : ∀ types : List RequestType,
    (∀ type ∈ types, type ≠ .session) → c.popBySession session types = (none, c) := by
  intro types
  induction types with
  | nil => intro _; rfl
  | cons type types ih =>
      intro hne
      have htype := h type (hne type List.mem_cons_self)
      rw [popBySession]
      split
      -- the queue of the type is empty, and its `pop` changes nothing
      · show ((c.mRequestQueues type).pop.1, { c with
          mRequestQueues :=
            Function.update c.mRequestQueues type (c.mRequestQueues type).pop.2 }) = (none, c)
        have hsame : Function.update c.mRequestQueues type (c.mRequestQueues type).pop.2
            = c.mRequestQueues := by
          rw [htype]
          exact Function.update_eq_self_iff.mpr htype.symm
        rw [hsame, htype]
        rfl
      · exact ih fun t ht => hne t (List.mem_cons_of_mem type ht)

/-- A response of a known session takes the oldest request of all sessions. -/
theorem getRequestBySession_eq (h : c.OthersEmpty) (session : UInt32) :
    c.getRequestBySession session
      = if c.mSessionBiDict.hasSession session then c.popRequest .session else (none, c) := by
  unfold getRequestBySession
  rw [popBySession_eq h session [.tracking, .niResponse] (by decide)]

theorem mRequestQueues_removeSession (session : UInt32) :
    (c.removeSession session).mRequestQueues = c.mRequestQueues := by
  unfold removeSession
  split <;> rfl

theorem mRequestQueues_onResponse (request : LocationAPIRequest) (error : LocationError)
    (id : UInt32) : (c.onResponse request error id).mRequestQueues = c.mRequestQueues := by
  unfold onResponse
  split
  · split
    · exact mRequestQueues_removeSession id
    · rfl
  · split
    · exact mRequestQueues_removeSession id
    · rfl
  · split
    · exact mRequestQueues_removeSession id
    · rfl
  · split
    · exact mRequestQueues_removeSession id
    · rfl
  · rfl

/-- The request that a response reaches, and the queues after it. -/
theorem onResponseCb_eq (error : LocationError) (session : UInt32) :
    (c.onResponseCb error session).1 = (c.getRequestBySession session).1 ∧
      (c.onResponseCb error session).2.mRequestQueues
        = (c.getRequestBySession session).2.mRequestQueues := by
  unfold onResponseCb
  split
  · rename_i heq
    rw [heq]
    exact ⟨rfl, rfl⟩
  · rename_i heq
    rw [heq]
    exact ⟨rfl, mRequestQueues_onResponse _ _ _⟩

/-- The request that a response reaches. -/
theorem onResponseCb_request (h : c.OthersEmpty) (error : LocationError) (session : UInt32) :
    (c.onResponseCb error session).1
      = if c.mSessionBiDict.hasSession session then c.sessionQueue.head? else none := by
  rw [(onResponseCb_eq error session).1, getRequestBySession_eq h]
  split <;> rfl

/-- The requests after a response. -/
theorem onResponseCb_queue (h : c.OthersEmpty) (error : LocationError) (session : UInt32) :
    (c.onResponseCb error session).2.sessionQueue
      = if c.mSessionBiDict.hasSession session then c.sessionQueue.tail else c.sessionQueue := by
  unfold sessionQueue
  rw [(onResponseCb_eq error session).2, getRequestBySession_eq h]
  split
  · show (Function.update c.mRequestQueues .session _ .session).mQueue = _
    rw [Function.update_self]
    rfl
  · rfl

theorem OthersEmpty.onResponseCb (h : c.OthersEmpty) (error : LocationError) (session : UInt32) :
    (c.onResponseCb error session).2.OthersEmpty := by
  intro type htype
  rw [(onResponseCb_eq error session).2, getRequestBySession_eq h, ← h type htype]
  split
  · exact Function.update_of_ne htype _ _
  · rfl

/-- Completed trips leave the requests alone. -/
theorem mRequestQueues_tripCompleted (sessions : List UInt32) :
    (c.tripCompleted sessions).mRequestQueues = c.mRequestQueues := by
  unfold tripCompleted
  induction sessions generalizing c with
  | nil => rfl
  | cons session sessions ih =>
      rw [List.foldl_cons, ih]
      split <;> rfl

end LocationAPIClientBase

namespace ClientSystem

variable {s t : ClientSystem}

/-! ### The invariant -/

/-- While every response was right, the queue holds the requests that wait. -/
structure Inv (s : ClientSystem) : Prop where
  others : s.client.OthersEmpty
  queue : s.client.sessionQueue = s.requests
  nodup : s.requests.Nodup
  fresh : ∀ request ∈ s.requests, request.address < s.nextAddress
  right : s.AllRight

theorem inv_init (mLocationAPI : Bool) : (init mLocationAPI).Inv where
  others := fun _ _ => rfl
  queue := rfl
  nodup := List.nodup_nil
  fresh := fun _ h => absurd h List.not_mem_nil
  right := fun _ h => absurd h List.not_mem_nil

/-- A method keeps the invariant. -/
theorem Inv.perform (h : s.Inv)
    {r : LocationAPIClientBase × LocationError × List LocationAPICall}
    (hr : s.client.Pushes s.nextAddress r) : (s.perform r).Inv := by
  have hrequests : (s.perform r).requests
      = s.requests ++ r.2.2.filterMap LocationAPICall.request := List.filterMap_append
  refine ⟨hr.others, ?_, ?_, ?_, h.right⟩
  · show r.1.sessionQueue = _
    rw [hrequests, hr.queue, h.queue]
  -- the address of a new request is above all the others
  · rw [hrequests]
    rcases hr.fresh with hnil | ⟨cls, hone⟩
    · rw [hnil, List.append_nil]
      exact h.nodup
    · rw [hone]
      refine List.nodup_append.mpr ⟨h.nodup, List.pairwise_singleton _ _, ?_⟩
      intro a ha b hb
      rw [List.mem_singleton.mp hb]
      rintro rfl
      exact Nat.lt_irrefl _ (h.fresh _ ha)
  · intro request hrequest
    rw [hrequests] at hrequest
    show request.address < s.nextAddress + 1
    rcases List.mem_append.mp hrequest with hold | hnew
    · exact Nat.lt_succ_of_lt (h.fresh request hold)
    · rcases hr.fresh with hnil | ⟨cls, hone⟩
      · rw [hnil] at hnew
        cases hnew
      · rw [hone] at hnew
        rw [List.mem_singleton.mp hnew]
        exact Nat.lt_succ_self _

/-- A response answers the first call of its session. -/
theorem eq_of_respond {error : LocationError} {session : UInt32}
    (h : s.respond error session = some t) :
    ∃ call older younger, s.oldest session = some call ∧
      s.unanswered = older ++ call :: younger ∧ t = { s with
        client := (s.client.onResponseCb error session).2
        unanswered := older ++ younger
        dispatched := s.dispatched ++
          [(call.request, (s.client.onResponseCb error session).1)] } := by
  unfold respond at h
  obtain ⟨call, hcall, rfl⟩ := Option.map_eq_some_iff.mp h
  obtain ⟨hsession, older, younger, heq, holder⟩ := List.find?_eq_some_iff_append.mp hcall
  refine ⟨call, older, younger, hcall, heq, ?_⟩
  have herase : (call :: younger).eraseP (fun c => decide (c.session = session)) = younger :=
    List.eraseP_cons_of_pos hsession
  rw [heq, List.eraseP_append_right _ (by simpa using holder), herase]

/-- The requests that wait, around the call that is answered. -/
theorem requests_eq {call : LocationAPICall} {older younger : List LocationAPICall}
    (h : s.unanswered = older ++ call :: younger) :
    s.requests = older.filterMap LocationAPICall.request ++
      (call.request.toList ++ younger.filterMap LocationAPICall.request) := by
  unfold requests
  rw [h, List.filterMap_append]
  congr 1
  cases hrequest : call.request with
  | none => rw [List.filterMap_cons_none hrequest, Option.toList_none, List.nil_append]
  | some request =>
      rw [List.filterMap_cons_some hrequest, Option.toList_some, List.singleton_append]

/-- The condition of `InOrder` says that the oldest request of all sessions is the right one. -/
theorem request_eq_iff (request : Option LocationAPIRequest) (known : Bool)
    (requests : List LocationAPIRequest) :
    request = (if known then requests.head? else none) ↔
      if request = none then known = false ∨ requests = []
      else known = true ∧ requests.head? = request := by
  cases request with
  | none => cases known <;> simp [eq_comm]
  | some r => cases known <;> simp [eq_comm]

/-- A request that occurs once and comes first has nothing before it. -/
theorem eq_nil_of_head {r : LocationAPIRequest} {a b : List LocationAPIRequest}
    (hnodup : (a ++ r :: b).Nodup) (hhead : (a ++ r :: b).head? = some r) : a = [] := by
  cases a with
  | nil => rfl
  | cons x a =>
      have hx : x = r := Option.some.inj hhead
      rw [List.cons_append, List.nodup_cons, hx] at hnodup
      exact absurd (List.mem_append_right a List.mem_cons_self) hnodup.1

/-- After a response in order the queue holds the requests that still wait. -/
theorem Inv.requests_after (h : s.Inv) {call : LocationAPICall}
    {older younger : List LocationAPICall} {known : Bool}
    (hsplit : s.unanswered = older ++ call :: younger)
    (hok : if call.request = none then known = false ∨ s.requests = []
      else known = true ∧ s.requests.head? = call.request) :
    (if known then s.requests.tail else s.requests)
      = older.filterMap LocationAPICall.request ++ younger.filterMap LocationAPICall.request := by
  have hrequests := requests_eq hsplit
  cases hrequest : call.request with
  | none =>
      rw [hrequest, if_pos rfl] at hok
      rw [hrequest, Option.toList_none, List.nil_append] at hrequests
      rw [← hrequests]
      rcases hok with hunknown | hnil
      · rw [hunknown]
        rfl
      · rw [hnil]
        split <;> rfl
  | some r =>
      rw [hrequest, if_neg (Option.some_ne_none r)] at hok
      rw [hrequest, Option.toList_some, List.singleton_append] at hrequests
      -- no request is twice in the queue, so the first one is the one of the call
      have hnil := eq_nil_of_head (hrequests ▸ h.nodup) (hrequests ▸ hok.2)
      rw [hok.1, if_pos rfl, hrequests, hnil]
      rfl

/-- A response in order keeps the invariant. -/
theorem Inv.respond (h : s.Inv) {error : LocationError} {session : UInt32}
    (hok : s.InOrder (.response error session)) (hstep : s.respond error session = some t) :
    t.Inv := by
  obtain ⟨call, older, younger, hcall, hsplit, rfl⟩ := eq_of_respond hstep
  have hrequests := requests_eq hsplit
  have hafter : ∀ client dispatched, requests ⟨client, s.nextAddress, older ++ younger, dispatched⟩
      = older.filterMap LocationAPICall.request ++ younger.filterMap LocationAPICall.request :=
    fun _ _ => List.filterMap_append
  have hsub : (older.filterMap LocationAPICall.request ++
      younger.filterMap LocationAPICall.request).Sublist s.requests := by
    rw [hrequests]
    exact (List.Sublist.refl _).append (List.sublist_append_right _ _)
  have hok' := hok call hcall
  refine ⟨h.others.onResponseCb error session, ?_, ?_, ?_, ?_⟩
  · show (s.client.onResponseCb error session).2.sessionQueue = _
    rw [hafter, LocationAPIClientBase.onResponseCb_queue h.others, h.queue]
    exact h.requests_after hsplit hok'
  · rw [hafter]
    exact h.nodup.sublist hsub
  · intro request hrequest
    rw [hafter] at hrequest
    exact h.fresh request (hsub.subset hrequest)
  · intro r hr
    rcases List.mem_append.mp hr with hold | hnew
    · exact h.right r hold
    · rw [List.mem_singleton.mp hnew]
      show call.request = (s.client.onResponseCb error session).1
      rw [LocationAPIClientBase.onResponseCb_request h.others, h.queue]
      exact (request_eq_iff _ _ _).mpr hok'

/-- Every allowed step keeps the invariant. -/
theorem Inv.step (h : s.Inv) {i : ClientStep} (hok : s.InOrder i) (hstep : s.step i = some t) :
    t.Inv := by
  cases i with
  | startSession id sessionMode newSession =>
      cases hstep
      exact h.perform (LocationAPIClientBase.pushes_startSession h.others _ _ _ _)
  | stopSession id =>
      cases hstep
      exact h.perform (LocationAPIClientBase.pushes_stopSession h.others _ _)
  | updateSessionOptions id sessionMode newSession =>
      cases hstep
      exact h.perform (LocationAPIClientBase.pushes_updateSessionOptions h.others _ _ _ _)
  | getBatchedLocations id =>
      cases hstep
      exact h.perform (LocationAPIClientBase.pushes_getBatchedLocations h.others _ _)
  | response error session => exact h.respond hok hstep
  | tripCompleted sessions =>
      cases hstep
      have hqueues := LocationAPIClientBase.mRequestQueues_tripCompleted (c := s.client) sessions
      refine ⟨fun type htype => ?_, ?_, h.nodup, h.fresh, h.right⟩
      · rw [hqueues]
        exact h.others type htype
      · unfold LocationAPIClientBase.sessionQueue
        rw [hqueues]
        exact h.queue

/-- A response that reaches the right request was in order. -/
theorem Inv.inOrder (h : s.Inv) {i : ClientStep} (hstep : s.step i = some t)
    (hright : t.AllRight) : s.InOrder i := by
  cases i with
  | response error session =>
      obtain ⟨call, older, younger, hcall, hsplit, rfl⟩ := eq_of_respond hstep
      intro call' hcall'
      cases hcall.symm.trans hcall'
      have hlast : call.request = (s.client.onResponseCb error session).1 :=
        hright _ (List.mem_append_right _ List.mem_cons_self)
      rw [LocationAPIClientBase.onResponseCb_request h.others, h.queue] at hlast
      exact (request_eq_iff _ _ _).mp hlast
  | _ => exact trivial

/-- In every run every response reaches the request that it is for if and only if the responses come
in order.

The requests of all sessions wait in one queue and do not name their session. A response takes the
oldest one, so it is right when no older request of any session is unanswered. The stop in the
middle of a mode change has no request, and its response has to find no session, or nothing to
take. -/
theorem allRight_iff_guarded (mLocationAPI : Bool) (steps : List ClientStep) :
    Along ClientSystem.step AllRight (init mLocationAPI) steps ↔
      Guarded ClientSystem.step InOrder (init mLocationAPI) steps := by
  refine along_iff_guarded (I := Inv) (fun s hs => hs.right) ?_ ?_ ?_ steps (init mLocationAPI)
    (inv_init mLocationAPI)
  · intro s i t hs hok hstep
    exact hs.step hok hstep
  · intro s i t hs hstep hright
    exact hs.inOrder hstep hright
  · intro s i hs hnone
    cases i with
    | response error session =>
        intro call hcall
        have hsome : s.respond error session = none := hnone
        unfold respond at hsome
        rw [hcall] at hsome
        cases hsome
    | _ => exact trivial

/-- A tracking session and a batching session are started, and the batching adapter answers
first. -/
def batchingFirst : List ClientStep :=
  [.startSession 1 sessionModeOnFix 11, .startSession 2 sessionModeOnFull 12,
    .response .success 12]

/-- The response to the start of batching reaches the request of the start of tracking. -/
theorem batchingFirst_dispatched :
    ∃ s, run ClientSystem.step (init true) batchingFirst = some s ∧
      s.dispatched = [(some ⟨.startBatchingRequest, 1⟩, some ⟨.startTrackingRequest, 0⟩)] ∧
        ¬ s.AllRight :=
  ⟨_, rfl, rfl, fun h => absurd (h _ List.mem_cons_self) (by decide)⟩

end ClientSystem

end LocHal.Location
