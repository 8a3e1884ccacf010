import LocHal.Lib.LabelledRun
import LocHal.Location.RequestQueues

/-!
# `LocHal.Location.NiTracking`: tracking sessions and NI ids in one namespace

`GnssAdapter` answers a tracking call with the session id and an NI answer with the NI id. The
session ids come from `LocAdapterBase::mSessionIdCounter` and the NI ids from
`NiData::reqIDCounter`. The client looks both up in the same way: the queue of tracking requests
first, then the queue of NI requests.

`NiTracking` is a client with the two counters, the calls that it has made and the calls that wait
for their response. A label is a call of the client, an id that another client takes, an NI request
of the network, or the response to one of the waiting calls. The responses come in any order, and a
call can stay without response.

`Dispatched` says what the log of responses should look like: a response has reached a request
that a call with the same id made, an NI request for an NI id and a tracking request for a session
id. `Distinguished` is the condition on one step. `along_dispatched_iff` shows that it is exact.

`Consistent` is the invariant: a request in the tracking queue was made by a call with the session
of the queue, and the one in the NI queue by an answer with its id. So a response that finds the
right queue finds a request of the right kind and id, if there is one (`answer_of_distinguished`). A
response against the condition finds the wrong queue or an empty one (`distinguished_of_answer`),
and the log keeps it.

The two counters go on independently of each other, so a session and an NI request may have the same
number, as in `collidingIds`.
-/

set_option autoImplicit false

namespace LocHal.Location

open LabelledRun

/-- A client, the counters behind its ids, and its calls. The address of a request object is the
number of the call that made it. -/
structure NiTracking where
  client : TrackingClient
  mSessionIdCounter : UInt32
  reqIDCounter : UInt32
  /-- The NI ids that have come with an NI request. -/
  notified : List UInt32
  /-- The calls that the client has made. -/
  issued : List (ClientCall TrackingRequestClass)
  /-- The calls without response so far. -/
  waiting : List (ClientCall TrackingRequestClass)
  /-- The responses, each with the request that it was dispatched to. -/
  responses : List (ClientCall TrackingRequestClass × Option (ClientRequest TrackingRequestClass))

/-- What happens next. -/
inductive NiTrackingLabel where
  | startTracking
  | updateTrackingOptions
  | stopTracking
  | gnssNiResponse (id : UInt32)
  /-- Another client of the adapter takes a session id. -/
  | otherSession
  /-- `GnssAdapter::requestNiNotify` hands out the next NI id. -/
  | requestNiNotify
  /-- The adapter answers one of the waiting calls. -/
  | response (i : Nat)

namespace NiTracking

/-- The start of the process, with a client that has set its callbacks. -/
def new (mLocationAPI : Bool) : NiTracking where
  client := .new mLocationAPI
  mSessionIdCounter := 1
  reqIDCounter := 0
  notified := []
  issued := []
  waiting := []
  responses := []

/-- The state after a method of the client that made the calls `call`. -/
def issue (s : NiTracking) (client : TrackingClient)
    (call : Option (ClientCall TrackingRequestClass)) : NiTracking :=
  { s with
    client := client
    issued := s.issued ++ call.toList
    waiting := s.waiting ++ call.toList }

/-- The response to `call` reaches the client. -/
def answer (s : NiTracking) (call : ClientCall TrackingRequestClass) : NiTracking :=
  let found := s.client.onResponseCb call.session
  { s with client := found.2, responses := s.responses ++ [(call, found.1)] }

/-- One step. -/
def step (s : NiTracking) : NiTrackingLabel → Option NiTracking
  | .startTracking =>
      let newSession := generateSessionId s.mSessionIdCounter
      let (client, _, call) := s.client.locAPIStartTracking s.issued.length newSession
      -- `LocationAPI::startTracking` takes the id, and it is not always called
      let counter := if call.isSome then newSession else s.mSessionIdCounter
      some { s.issue client call with mSessionIdCounter := counter }
  | .updateTrackingOptions =>
      let (client, call) := s.client.locAPIUpdateTrackingOptions s.issued.length
      some (s.issue client call)
  | .stopTracking =>
      let (client, call) := s.client.locAPIStopTracking s.issued.length
      some (s.issue client call)
  | .gnssNiResponse id =>
      if id ∈ s.notified then
        let (client, call) := s.client.locAPIGnssNiResponse s.issued.length id
        some (s.issue client call)
      else none
  | .otherSession => some { s with mSessionIdCounter := generateSessionId s.mSessionIdCounter }
  | .requestNiNotify =>
      let reqID := s.reqIDCounter + 1
      some { s with reqIDCounter := reqID, notified := reqID :: s.notified }
  | .response i =>
      match s.waiting[i]? with
      | none => none
      | some call => some { s.answer call with waiting := s.waiting.eraseIdx i }

/-- The request was made for the session or NI id of `call`, by a call of the same kind. -/
def IssuedFor (issued : List (ClientCall TrackingRequestClass))
    (call : ClientCall TrackingRequestClass) (request : ClientRequest TrackingRequestClass) :
    Prop :=
  ∃ c ∈ issued, c.request = request ∧ c.session = call.session ∧ c.isNi = call.isNi

/-- Every response has reached a request that was made for its id. The ids of NI requests and the
sessions of the tracking have their own counters, and the callback tells them apart by their value
alone. -/
def Dispatched (s : NiTracking) : Prop :=
  ∀ r ∈ s.responses, ∃ request, r.2 = some request ∧ IssuedFor s.issued r.1 request

/-- The exact condition on a response. `getRequestBySession` compares the id with the session of
each queue, the tracking queue before the queue of the NI responses, and takes the first that is
equal. So an NI id must differ from the current tracking session. It must be the id of the last NI
answer, since the queue has room for one, and the answer must still wait for its response. A session
must be the current tracking session, with a request that still waits: the response to an older
session finds the queue of the newer one. -/
def Distinguished (s : NiTracking) : NiTrackingLabel → Prop
  | .response i =>
      ∀ call ∈ s.waiting[i]?,
        if call.isNi then
          (s.client.mRequestQueues .tracking).mSession ≠ call.session ∧
            (s.client.mRequestQueues .niResponse).mSession = call.session ∧
            (s.client.mRequestQueues .niResponse).mQueue ≠ []
        else
          (s.client.mRequestQueues .tracking).mSession = call.session ∧
            (s.client.mRequestQueues .tracking).mQueue ≠ []
  | _ => True

/-! ### The requests of a queue belong to its session -/

/-- Every request of the queue was made for the session of the queue, by a call that is an NI
answer or not as `ni` says. -/
def QueueOf (issued : List (ClientCall TrackingRequestClass)) (ni : Bool)
    (q : RequestQueueOf (ClientRequest TrackingRequestClass)) : Prop :=
  ∀ r ∈ q.mQueue, ∃ c ∈ issued, c.request = r ∧ c.session = q.mSession ∧ c.isNi = ni

/-- What holds in every state: the tracking queue has tracking requests of its session, and the NI
queue has NI requests of its id. -/
structure Consistent (s : NiTracking) : Prop where
  tracking : QueueOf s.issued false (s.client.mRequestQueues .tracking)
  niResponse : QueueOf s.issued true (s.client.mRequestQueues .niResponse)

section Queue
variable {issued : List (ClientCall TrackingRequestClass)} {ni : Bool}
  {q : RequestQueueOf (ClientRequest TrackingRequestClass)}

/-- Later calls do not matter. -/
theorem QueueOf.append (h : QueueOf issued ni q) (calls : List (ClientCall TrackingRequestClass)) :
    QueueOf (issued ++ calls) ni q := by
  intro r hr
  obtain ⟨c, hc, hrest⟩ := h r hr
  exact ⟨c, List.mem_append_left calls hc, hrest⟩

/-- The call that pushes a request names the session of the queue. -/
theorem QueueOf.push (h : QueueOf issued ni q) {request : ClientRequest TrackingRequestClass}
    (hni : ClientCall.isNi ⟨q.mSession, request⟩ = ni) :
    QueueOf (issued ++ [⟨q.mSession, request⟩]) ni (q.push request) := by
  intro r hr
  rw [RequestQueueOf.push_mQueue, List.mem_append, List.mem_singleton] at hr
  rcases hr with hr | rfl
  · exact h.append _ r hr
  · exact ⟨⟨q.mSession, r⟩, List.mem_append_right issued List.mem_cons_self, rfl, rfl, hni⟩

/-- A queue without requests. -/
theorem QueueOf.reset (q : RequestQueueOf (ClientRequest TrackingRequestClass))
    (session : UInt32) : QueueOf issued ni (q.reset session) := by
  intro r hr
  cases hr

/-- A lookup leaves only requests that were there. -/
theorem QueueOf.lookup {queues : RequestType → RequestQueueOf (ClientRequest TrackingRequestClass)}
    {k : RequestType} (h : QueueOf issued ni (queues k)) (session : UInt32)
    (keys : List RequestType) :
    QueueOf issued ni ((getRequestBySession queues session keys).2 k) := by
  obtain ⟨hsession, hsub⟩ := getRequestBySession_keep queues session k keys
  intro r hr
  rw [hsession]
  exact h r (hsub r hr)

end Queue

/-- A request that was issued for a call is of the same kind as the call. -/
theorem IssuedFor.isNi_eq {issued : List (ClientCall TrackingRequestClass)}
    {call c : ClientCall TrackingRequestClass} {request : ClientRequest TrackingRequestClass}
    (h : IssuedFor issued call request) (hc : c.request = request) : c.isNi = call.isNi := by
  obtain ⟨c', -, rfl, -, hni⟩ := h
  rw [← hni, ClientCall.isNi, ClientCall.isNi, hc]

/-! ### One step -/

/-- A step makes a call at most and keeps the responses, or it is the response to a waiting
call. -/
theorem step_cases {s t : NiTracking} {l : NiTrackingLabel} (h : step s l = some t) :
    (∃ call, s.client.Issues s.issued.length t.client call ∧ t.issued = s.issued ++ call.toList ∧
        t.responses = s.responses ∧ Distinguished s l) ∨
      ∃ i call, l = .response i ∧ s.waiting[i]? = some call ∧
        t = { s.answer call with waiting := s.waiting.eraseIdx i } := by
  cases l with
  | startTracking =>
      cases h
      exact Or.inl ⟨_, s.client.locAPIStartTracking_issues _ _, rfl, rfl, trivial⟩
  | updateTrackingOptions =>
      cases h
      exact Or.inl ⟨_, s.client.locAPIUpdateTrackingOptions_issues _, rfl, rfl, trivial⟩
  | stopTracking =>
      cases h
      exact Or.inl ⟨_, s.client.locAPIStopTracking_issues _, rfl, rfl, trivial⟩
  | gnssNiResponse id =>
      simp only [step, Option.ite_none_right_eq_some, Option.some.injEq] at h
      obtain ⟨-, rfl⟩ := h
      exact Or.inl ⟨_, s.client.locAPIGnssNiResponse_issues _ id, rfl, rfl, trivial⟩
  | otherSession =>
      cases h
      exact Or.inl ⟨none, .nothing rfl, (List.append_nil _).symm, rfl, trivial⟩
  | requestNiNotify =>
      cases h
      exact Or.inl ⟨none, .nothing rfl, (List.append_nil _).symm, rfl, trivial⟩
  | response i =>
      simp only [step] at h
      split at h
      · cases h
      · rename_i call hcall
        cases h
        exact Or.inr ⟨i, call, rfl, hcall, rfl⟩

/-- A call of the client keeps the queues consistent. -/
theorem Consistent.issues {s t : NiTracking} (hs : Consistent s)
    {call : Option (ClientCall TrackingRequestClass)}
    (h : s.client.Issues s.issued.length t.client call)
    (hissued : t.issued = s.issued ++ call.toList) : Consistent t := by
  cases h with
  | nothing hclient =>
      rw [Option.toList_none, List.append_nil] at hissued
      constructor
      · rw [hclient, hissued]
        exact hs.tracking
      · rw [hclient, hissued]
        exact hs.niResponse
  | onSession cls hcls htracking hother =>
      constructor
      · rw [htracking, hissued]
        exact hs.tracking.push (by rcases hcls with rfl | rfl <;> rfl)
      · rw [hother, hissued]
        exact hs.niResponse.append _
  | newSession session htracking hother =>
      constructor
      · rw [htracking, hissued]
        exact (QueueOf.reset _ session).push rfl
      · rw [hother, hissued]
        exact hs.niResponse.append _
  | niAnswer id hresponse hother =>
      constructor
      · rw [hother, hissued]
        exact hs.tracking.append _
      · rw [hresponse, hissued]
        exact (QueueOf.reset _ id).push rfl

/-- A response keeps the queues consistent. -/
theorem Consistent.answer {s : NiTracking} (hs : Consistent s)
    (call : ClientCall TrackingRequestClass) (waiting : List (ClientCall TrackingRequestClass)) :
    Consistent { s.answer call with waiting := waiting } :=
  ⟨hs.tracking.lookup _ _, hs.niResponse.lookup _ _⟩

/-- The head of a consistent queue was made for a call with the session of the queue. -/
theorem QueueOf.head {issued : List (ClientCall TrackingRequestClass)}
    {call : ClientCall TrackingRequestClass}
    {q : RequestQueueOf (ClientRequest TrackingRequestClass)} (h : QueueOf issued call.isNi q)
    (hsession : q.mSession = call.session) (hne : q.mQueue ≠ []) :
    ∃ request, q.mQueue.head? = some request ∧ IssuedFor issued call request := by
  cases hq : q.mQueue with
  | nil => exact absurd hq hne
  | cons request rest =>
      obtain ⟨c, hc, hrest⟩ := h request (hq ▸ List.mem_cons_self)
      rw [hsession] at hrest
      exact ⟨request, rfl, c, hc, hrest⟩

/-- A distinguished response reaches a request that was made for its id. -/
theorem answer_of_distinguished {s : NiTracking} (hs : Consistent s) {i : Nat}
    {call : ClientCall TrackingRequestClass} (hcall : s.waiting[i]? = some call)
    (hok : Distinguished s (.response i)) :
    ∃ request, (s.client.onResponseCb call.session).1 = some request ∧
      IssuedFor s.issued call request := by
  have hcond := hok call hcall
  unfold TrackingClient.onResponseCb
  dsimp only
  split at hcond
  · rename_i hni
    obtain ⟨htracking, hsession, hne⟩ := hcond
    -- the tracking queue is passed over
    rw [getRequestBySession_cons_of_ne htracking, getRequestBySession_cons_of_eq hsession]
    exact QueueOf.head (hni ▸ hs.niResponse) hsession hne
  · rename_i hni
    obtain ⟨hsession, hne⟩ := hcond
    rw [getRequestBySession_cons_of_eq hsession]
    have hfalse : call.isNi = false := Bool.eq_false_iff.mpr hni
    exact QueueOf.head (hfalse ▸ hs.tracking) hsession hne

/-- A response that reaches a request made for its id was distinguished. -/
theorem distinguished_of_answer {s : NiTracking} (hs : Consistent s) {i : Nat}
    {call : ClientCall TrackingRequestClass} (hcall : s.waiting[i]? = some call)
    {request : ClientRequest TrackingRequestClass}
    (hfound : (s.client.onResponseCb call.session).1 = some request)
    (hfor : IssuedFor s.issued call request) : Distinguished s (.response i) := by
  intro call' hcall'
  cases hcall.symm.trans hcall'
  unfold TrackingClient.onResponseCb at hfound
  dsimp only at hfound
  by_cases htracking : (s.client.mRequestQueues .tracking).mSession = call.session
  · -- the head of the tracking queue is a tracking request
    rw [getRequestBySession_cons_of_eq htracking] at hfound
    have hmem := List.mem_of_head? hfound
    obtain ⟨c, -, hreq, -, hni⟩ := hs.tracking request hmem
    have hcallni : call.isNi = false := by rw [← hfor.isNi_eq hreq, hni]
    rw [if_neg (by simp [hcallni])]
    exact ⟨htracking, List.ne_nil_of_mem hmem⟩
  · rw [getRequestBySession_cons_of_ne htracking] at hfound
    obtain ⟨k, hk, hsession, hhead⟩ := getRequestBySession_some hfound
    cases List.mem_singleton.mp hk
    -- the head of the NI queue is an NI request
    have hmem := List.mem_of_head? hhead
    obtain ⟨c, -, hreq, -, hni⟩ := hs.niResponse request hmem
    have hcallni : call.isNi = true := by rw [← hfor.isNi_eq hreq, hni]
    rw [if_pos hcallni]
    exact ⟨htracking, hsession, List.ne_nil_of_mem hmem⟩

/-- Later calls keep what a response has reached. -/
theorem IssuedFor.append {issued : List (ClientCall TrackingRequestClass)}
    {call : ClientCall TrackingRequestClass} {request : ClientRequest TrackingRequestClass}
    (h : IssuedFor issued call request) (calls : List (ClientCall TrackingRequestClass)) :
    IssuedFor (issued ++ calls) call request := by
  obtain ⟨c, hc, hrest⟩ := h
  exact ⟨c, List.mem_append_left calls hc, hrest⟩

/-- A distinguished step keeps the queues consistent and every response at its request. -/
theorem consistent_step {s t : NiTracking} {l : NiTrackingLabel} (h : step s l = some t)
    (hs : Consistent s ∧ Dispatched s) (hok : Distinguished s l) :
    Consistent t ∧ Dispatched t := by
  obtain ⟨hcons, hdisp⟩ := hs
  obtain ⟨call, hissues, hissued, hresponses, -⟩ | ⟨i, call, rfl, hcall, rfl⟩ := step_cases h
  · refine ⟨hcons.issues hissues hissued, fun r hr => ?_⟩
    rw [hresponses] at hr
    obtain ⟨request, hrequest, hfor⟩ := hdisp r hr
    exact ⟨request, hrequest, hissued ▸ hfor.append call.toList⟩
  · refine ⟨hcons.answer call _, fun r hr => ?_⟩
    rcases List.mem_append.mp hr with hr | hr
    · exact hdisp r hr
    · cases List.mem_singleton.mp hr
      exact answer_of_distinguished hcons hcall hok

/-- A step after which every response is at its request was distinguished. -/
theorem distinguished_of_step {s t : NiTracking} {l : NiTrackingLabel} (h : step s l = some t)
    (hs : Consistent s) (ht : Dispatched t) : Distinguished s l := by
  obtain ⟨-, -, -, -, hok⟩ | ⟨i, call, rfl, hcall, rfl⟩ := step_cases h
  · exact hok
  · have hlast : (call, (s.client.onResponseCb call.session).1) ∈
        { s.answer call with waiting := s.waiting.eraseIdx i }.responses :=
      List.mem_append_right _ List.mem_cons_self
    obtain ⟨request, hfound, hfor⟩ := ht _ hlast
    exact distinguished_of_answer hs hcall hfound hfor

/-! ### Runs -/

/-- In the first state both queues are empty. -/
theorem consistent_new (mLocationAPI : Bool) :
    Consistent (new mLocationAPI) ∧ Dispatched (new mLocationAPI) :=
  ⟨⟨fun _ hr => absurd hr List.not_mem_nil, fun _ hr => absurd hr List.not_mem_nil⟩,
    fun _ hr => absurd hr List.not_mem_nil⟩

/-- A response that cannot come is allowed. -/
theorem distinguished_of_none {s : NiTracking} {l : NiTrackingLabel} (h : step s l = none) :
    Distinguished s l := by
  cases l with
  | response i =>
      intro call hcall
      simp [step, Option.mem_def.mp hcall] at h
  | _ => trivial

/-- Every response of a run reaches a request that was made for its id if and only if every response
is distinguished.

The ids of sessions and of NI requests come from two counters and can be equal. The dispatch looks
for the first queue with the id, and the queue of the tracking requests comes first. The other
clauses are about a queue that a later call has replaced. -/
theorem along_dispatched_iff (mLocationAPI : Bool) (labels : List NiTrackingLabel) :
    Along step Dispatched (new mLocationAPI) labels ↔
      Guarded step Distinguished (new mLocationAPI) labels :=
  along_iff_guarded (fun _ hs => hs.2) (fun _ _ _ hs hok h => consistent_step h hs hok)
    (fun _ _ _ hs h ht => distinguished_of_step h hs.1 ht)
    (fun _ _ _ h => distinguished_of_none h) labels _ (consistent_new mLocationAPI)

/-- The second NI request comes while the first tracking session is current. Both have the id 2.
The responses come in the order of the calls. -/
def collidingIds : List NiTrackingLabel :=
  [.requestNiNotify, .requestNiNotify, .startTracking, .gnssNiResponse 2, .response 0, .response 0]

/-- The response to the NI answer is looked up in the empty tracking queue, and is lost. -/
theorem not_along_dispatched : ¬ Along step Dispatched (new true) collidingIds := by
  intro h
  have hlast := h.last (t := (run step (new true) collidingIds).get rfl) rfl
  have hlost : ((⟨2, ⟨.gnssNiResponseRequest, 1⟩⟩ : ClientCall TrackingRequestClass), none) ∈
      ((run step (new true) collidingIds).get rfl).responses := by decide
  obtain ⟨request, hnone, -⟩ := hlast _ hlost
  cases hnone

end NiTracking

end LocHal.Location
