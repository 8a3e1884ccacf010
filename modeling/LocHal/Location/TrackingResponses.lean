import LocHal.Lib.LabelledRun
import LocHal.Location.PendingRequests

/-!
# `LocHal.Location.TrackingResponses`: the responses of `GnssAdapter` to tracking calls

The tracking calls of a client become messages of `GnssAdapter`, which answers them one by one in
the order of the calls. A start is always answered. An update or a stop is answered when the
session is one that the adapter has saved, and dropped without response otherwise.

`locAPIStartTracking` resets the queue of the client, although calls of the session before it may
still wait for their response. `Delivered` says that every response has reached the request object
of its own call. `Undisturbed` is the condition on one message: a call that is answered has no
start behind it. `along_delivered` shows that it is exact.

What carries the proof is `Synced`: as long as the adapter answers calls of the current session,
the queue of the client holds the requests of the messages from the last start on.

A request that is overwritten by a reset is not lost at once: its response is still to come, and it
finds an empty queue, or the request of a later call. So the condition looks ahead in the queue of
messages: when a call is answered, no start is among the messages that still wait.

`step_proc_cases` says what the processing of one message does, and `synced_step` that it keeps the
invariant under the condition. `undisturbed_of_step` is the other direction: a response that has
reached its request shows that the condition was met.
-/

set_option autoImplicit false

namespace LocHal.Location

open LabelledRun

/-- A client and the part of `GnssAdapter` that answers its tracking calls. -/
structure TrackingResponses where
  client : TrackingClient
  mSessionIdCounter : UInt32
  /-- The address of the next request object. -/
  nextAddress : Nat
  /-- The messages of the adapter, in the order of the calls. -/
  messages : List (ClientCall TrackingRequestClass)
  /-- The sessions of this client in `mTrackingSessions`. -/
  mTrackingSessions : UInt32 → Bool
  /-- The responses, each with the request that it was dispatched to. -/
  responses : List (ClientCall TrackingRequestClass × Option (ClientRequest TrackingRequestClass))

/-- What happens next. -/
inductive TrackingLabel where
  | startTracking
  | updateTrackingOptions
  | stopTracking
  /-- Another client of the adapter takes a session id. -/
  | otherSession
  /-- The adapter processes the oldest message. Its work ends with `err`. -/
  | proc (err : LocationError)

namespace TrackingResponses

/-- A client that has set its callbacks, before its first call. -/
def new (mLocationAPI : Bool) : TrackingResponses where
  client := .new mLocationAPI
  mSessionIdCounter := 1
  nextAddress := 0
  messages := []
  mTrackingSessions := fun _ => false
  responses := []

/-- The state after a method of the client that made the calls `call`. -/
def issue (s : TrackingResponses) (client : TrackingClient)
    (call : Option (ClientCall TrackingRequestClass)) : TrackingResponses :=
  { s with
    client := client
    nextAddress := s.nextAddress + call.toList.length
    messages := s.messages ++ call.toList }

/-- The adapter answers the call: a start always, another call when its session is saved. -/
def answers (s : TrackingResponses) (call : ClientCall TrackingRequestClass) : Bool :=
  call.isStart || s.mTrackingSessions call.session

/-- The saved sessions after the message of `call`. A start saves its session, and a stop erases
it, when they succeed. An update saves the session that is there. -/
def sessionsAfter (s : TrackingResponses) (call : ClientCall TrackingRequestClass)
    (err : LocationError) : UInt32 → Bool :=
  if err = .success then
    match call.request.cls with
    | .startTrackingRequest => Function.update s.mTrackingSessions call.session true
    | .stopTrackingRequest => Function.update s.mTrackingSessions call.session false
    | _ => s.mTrackingSessions
  else s.mTrackingSessions

/-- The response to `call` reaches the client. -/
def answer (s : TrackingResponses) (call : ClientCall TrackingRequestClass) : TrackingResponses :=
  let found := s.client.onResponseCb call.session
  { s with client := found.2, responses := s.responses ++ [(call, found.1)] }

/-- A method that returns without a call. -/
theorem issue_none (s : TrackingResponses) : s.issue s.client none = s := by simp [issue]

/-- One step. -/
def step (s : TrackingResponses) : TrackingLabel → Option TrackingResponses
  | .startTracking =>
      let newSession := generateSessionId s.mSessionIdCounter
      let (client, _, call) := s.client.locAPIStartTracking s.nextAddress newSession
      let counter := if call.isSome then newSession else s.mSessionIdCounter
      some { s.issue client call with mSessionIdCounter := counter }
  | .updateTrackingOptions =>
      let (client, call) := s.client.locAPIUpdateTrackingOptions s.nextAddress
      some (s.issue client call)
  | .stopTracking =>
      let (client, call) := s.client.locAPIStopTracking s.nextAddress
      some (s.issue client call)
  | .otherSession => some { s with mSessionIdCounter := generateSessionId s.mSessionIdCounter }
  | .proc err =>
      match s.messages with
      | [] => none
      | call :: rest =>
          let taken := { s with messages := rest }
          if s.answers call then
            some { taken.answer call with mTrackingSessions := s.sessionsAfter call err }
          else some taken

/-- Every response has reached the request of its own call: a pair of `responses` is the call that
was answered and the request whose callback was called. -/
def Delivered (s : TrackingResponses) : Prop := ∀ r ∈ s.responses, r.2 = some r.1.request

/-- The exact condition on a message: a call that is answered has no start behind it. A start
replaces the request that waits, without a look at whether it was answered. So the response of an
older call would find the request of the start. -/
def Undisturbed (s : TrackingResponses) : TrackingLabel → Prop
  | .proc _ =>
      match s.messages with
      | [] => True
      | call :: rest => s.answers call = true → rest.any ClientCall.isStart = false
  | _ => True

/-! ### The queue and the messages -/

/-- The queue of tracking requests. -/
def queue (s : TrackingResponses) : RequestQueueOf (ClientRequest TrackingRequestClass) :=
  s.client.mRequestQueues .tracking

/-- What holds after every undisturbed step. The queue is in step with the messages as long as the
adapter has saved the current session. -/
structure Synced (s : TrackingResponses) : Prop where
  distinct : Distinct s.nextAddress s.messages
  pending : Pending ClientCall.isStart (s.mTrackingSessions s.queue.mSession = true) s.messages
    s.queue
  noNi : (s.client.mRequestQueues .niResponse).mQueue = []

/-- A call of the client other than an NI answer. -/
theorem Synced.issues {s : TrackingResponses} (hs : Synced s) {client : TrackingClient}
    {call : Option (ClientCall TrackingRequestClass)}
    (h : s.client.Issues s.nextAddress client call) (hni : ∀ c ∈ call, c.isNi = false) :
    Synced (s.issue client call) := by
  cases h with
  | nothing hclient =>
      rw [hclient, issue_none]
      exact hs
  | niAnswer id hresponse hother => exact absurd (hni _ rfl) (by simp [ClientCall.isNi])
  | onSession cls hcls htracking hother =>
      have hmark : ClientCall.isStart ⟨s.queue.mSession, ⟨cls, s.nextAddress⟩⟩ = false := by
        rcases hcls with rfl | rfl <;> rfl
      refine ⟨hs.distinct.concat _ cls, ?_, hother ▸ hs.noNi⟩
      unfold queue
      dsimp only [issue]
      rw [htracking]
      exact hs.pending.push hmark
  | newSession session htracking hother =>
      refine ⟨hs.distinct.concat session _, ?_, hother ▸ hs.noNi⟩
      unfold queue
      dsimp only [issue]
      rw [htracking]
      exact Pending.reset _ s.messages rfl

/-! ### One message -/

/-- What a message does: nothing reaches the client, or the response does. -/
theorem step_proc_cases {s t : TrackingResponses} {err : LocationError}
    (h : step s (.proc err) = some t) :
    ∃ call rest, s.messages = call :: rest ∧
      (s.answers call = false ∧ t = { s with messages := rest } ∨
        s.answers call = true ∧
          t = { ({ s with messages := rest } : TrackingResponses).answer call with
            mTrackingSessions := s.sessionsAfter call err }) := by
  simp only [step] at h
  split at h
  · cases h
  · rename_i call rest hmessages
    refine ⟨call, rest, hmessages, ?_⟩
    split at h
    · rename_i hanswers
      cases h
      exact Or.inr ⟨hanswers, rfl⟩
    · rename_i hanswers
      cases h
      exact Or.inl ⟨Bool.eq_false_iff.mpr hanswers, rfl⟩

/-- A step is a call of the client, an id that another client takes, or a message. -/
theorem step_cases {s t : TrackingResponses} {l : TrackingLabel} (h : step s l = some t) :
    (∃ client call, s.client.Issues s.nextAddress client call ∧ (∀ c ∈ call, c.isNi = false) ∧
        (∃ counter, t = { s.issue client call with mSessionIdCounter := counter }) ∧
        Undisturbed s l) ∨
      ∃ err, l = .proc err := by
  cases l with
  | startTracking =>
      cases h
      refine Or.inl ⟨_, _, s.client.locAPIStartTracking_issues _ _, ?_, ⟨_, rfl⟩, trivial⟩
      intro c hc
      unfold TrackingClient.locAPIStartTracking at hc
      grind [ClientCall.isNi]
  | updateTrackingOptions =>
      cases h
      refine Or.inl ⟨_, _, s.client.locAPIUpdateTrackingOptions_issues _, ?_, ⟨_, rfl⟩, trivial⟩
      intro c hc
      unfold TrackingClient.locAPIUpdateTrackingOptions at hc
      grind [ClientCall.isNi]
  | stopTracking =>
      cases h
      refine Or.inl ⟨_, _, s.client.locAPIStopTracking_issues _, ?_, ⟨_, rfl⟩, trivial⟩
      intro c hc
      unfold TrackingClient.locAPIStopTracking at hc
      grind [ClientCall.isNi]
  | otherSession =>
      cases h
      refine Or.inl ⟨s.client, none, .nothing rfl, nofun,
        ⟨generateSessionId s.mSessionIdCounter, ?_⟩, trivial⟩
      rw [issue_none]
  | proc err => exact Or.inr ⟨err, rfl⟩

/-- The answered call gets its request when it is undisturbed. -/
theorem Synced.onResponseCb_fst {s : TrackingResponses} (hs : Synced s)
    {call : ClientCall TrackingRequestClass} {rest : List (ClientCall TrackingRequestClass)}
    (hmessages : s.messages = call :: rest) (hanswers : s.answers call = true)
    (hany : rest.any ClientCall.isStart = false) :
    s.client.onResponseCb call.session =
      (some call.request, s.client.setQueue .tracking s.queue.pop.2) := by
  have hpending := hs.pending
  rw [hmessages] at hpending
  have hsession := hpending.session_head hany
  have hlive : call.isStart = true ∨ s.mTrackingSessions s.queue.mSession = true := by
    rw [hsession]
    exact Bool.or_eq_true_iff.mp hanswers
  have hqueue := hpending.mQueue_head hany hlive
  have htracking : (s.client.mRequestQueues .tracking).mSession = call.session := hsession
  have hhead : (s.client.mRequestQueues .tracking).mQueue.head? = some call.request := by
    show s.queue.mQueue.head? = some call.request
    rw [hqueue]
    rfl
  unfold TrackingClient.onResponseCb
  dsimp only
  rw [getRequestBySession_cons_of_eq htracking, hhead]
  rfl

/-- A response behind which a start waits does not reach its request. -/
theorem Synced.onResponseCb_ne {s : TrackingResponses} (hs : Synced s)
    {call : ClientCall TrackingRequestClass} {rest : List (ClientCall TrackingRequestClass)}
    (hmessages : s.messages = call :: rest) (hany : rest.any ClientCall.isStart = true) :
    (s.client.onResponseCb call.session).1 ≠ some call.request := by
  have hpending := hs.pending
  have hdistinct := hs.distinct
  rw [hmessages] at hpending hdistinct
  intro hfound
  obtain ⟨k, hk, -, hhead⟩ := getRequestBySession_some hfound
  simp only [List.mem_cons, List.not_mem_nil, or_false] at hk
  rcases hk with rfl | rfl
  · exact hdistinct.head_not_mem (hpending.mem_of_head? hany hhead)
  · rw [hs.noNi] at hhead
    cases hhead

/-- An undisturbed message keeps the queue in step. -/
theorem Synced.proc {s t : TrackingResponses} (hs : Synced s) {err : LocationError}
    (h : step s (.proc err) = some t) (hok : Undisturbed s (.proc err)) : Synced t := by
  obtain ⟨call, rest, hmessages, hcases⟩ := step_proc_cases h
  have hdistinct := hs.distinct
  have hpending := hs.pending
  rw [hmessages] at hdistinct hpending
  rcases hcases with ⟨hanswers, rfl⟩ | ⟨hanswers, rfl⟩
  · -- the call is dropped, so the adapter does not know its session
    refine ⟨hdistinct.tail, hpending.skip ?_, hs.noNi⟩
    by_cases hany : rest.any ClientCall.isStart = true
    · exact Or.inl hany
    · have hsession := hpending.session_head (Bool.eq_false_iff.mpr hany)
      rw [hsession]
      have hnot := (Bool.or_eq_false_iff.mp hanswers).2
      exact Or.inr (Bool.eq_false_iff.mp hnot)
  · have hany : rest.any ClientCall.isStart = false := by
      have hok' := hok
      simp only [Undisturbed, hmessages] at hok'
      exact hok' hanswers
    have hresponse := hs.onResponseCb_fst hmessages hanswers hany
    have hlive : call.isStart = true ∨ s.mTrackingSessions s.queue.mSession = true := by
      rw [hpending.session_head hany]
      exact Bool.or_eq_true_iff.mp hanswers
    unfold answer
    simp only [hresponse]
    exact ⟨hdistinct.tail, hpending.pop hany hlive _, hs.noNi⟩

/-- An undisturbed step keeps the queue in step and every response at its request. -/
theorem synced_step {s t : TrackingResponses} {l : TrackingLabel} (h : step s l = some t)
    (hs : Synced s ∧ Delivered s) (hok : Undisturbed s l) : Synced t ∧ Delivered t := by
  obtain ⟨client, call, hissues, hni, ⟨counter, rfl⟩, -⟩ | ⟨err, rfl⟩ := step_cases h
  · obtain ⟨hdistinct, hpending, hnoNi⟩ := hs.1.issues hissues hni
    exact ⟨⟨hdistinct, hpending, hnoNi⟩, hs.2⟩
  · refine ⟨hs.1.proc h hok, ?_⟩
    obtain ⟨call, rest, hmessages, hcases⟩ := step_proc_cases h
    rcases hcases with ⟨-, rfl⟩ | ⟨hanswers, rfl⟩
    · exact hs.2
    · have hany : rest.any ClientCall.isStart = false := by
        simp only [Undisturbed, hmessages] at hok
        exact hok hanswers
      intro r hr
      rcases List.mem_append.mp hr with hr | hr
      · exact hs.2 r hr
      · cases List.mem_singleton.mp hr
        exact congrArg Prod.fst (hs.1.onResponseCb_fst hmessages hanswers hany)

/-- A step after which every response is at its request was undisturbed. -/
theorem undisturbed_of_step {s t : TrackingResponses} {l : TrackingLabel} (h : step s l = some t)
    (hs : Synced s) (ht : Delivered t) : Undisturbed s l := by
  obtain ⟨-, -, -, -, -, hok⟩ | ⟨err, rfl⟩ := step_cases h
  · exact hok
  · obtain ⟨call, rest, hmessages, hcases⟩ := step_proc_cases h
    simp only [Undisturbed, hmessages]
    intro hanswers
    rcases hcases with ⟨hnot, -⟩ | ⟨-, rfl⟩
    · rw [hnot] at hanswers
      cases hanswers
    · have hlast := ht _ (List.mem_append_right s.responses List.mem_cons_self)
      refine Bool.eq_false_iff.mpr fun hany => ?_
      exact hs.onResponseCb_ne hmessages hany hlast

/-! ### Runs -/

/-- No call and no request yet. -/
theorem synced_new (mLocationAPI : Bool) :
    Synced (new mLocationAPI) ∧ Delivered (new mLocationAPI) :=
  ⟨⟨Distinct.nil 0, Pending.nil fun _ => rfl, rfl⟩, fun _ hr => absurd hr List.not_mem_nil⟩

/-- A message that cannot be processed is allowed. -/
theorem undisturbed_of_none {s : TrackingResponses} {l : TrackingLabel} (h : step s l = none) :
    Undisturbed s l := by
  cases l with
  | proc err =>
      simp only [Undisturbed]
      split
      · exact trivial
      · rename_i call rest hmessages
        simp only [step, hmessages] at h
        split at h <;> cases h
  | _ => trivial

/-- Every response of a run reaches the request of its call if and only if no answered call has a
start behind it. -/
theorem along_delivered (mLocationAPI : Bool) (labels : List TrackingLabel) :
    Along step Delivered (new mLocationAPI) labels ↔
      Guarded step Undisturbed (new mLocationAPI) labels :=
  along_iff_guarded (fun _ hs => hs.2) (fun _ _ _ hs hok h => synced_step h hs hok)
    (fun _ _ _ hs h ht => undisturbed_of_step h hs.1 ht)
    (fun _ _ _ h => undisturbed_of_none h) labels _ (synced_new mLocationAPI)

end TrackingResponses

end LocHal.Location
