import LocHal.Location.TrackingResponses

/-!
# `LocHal.Location.ControlResponses`: the responses to `LocationAPIControlClient`

`LocationAPIControlClient` has one queue for `locAPIGnssDeleteAidingData` and one for `locAPIEnable`
and `locAPIDisable`. `GnssAdapter` answers every one of their messages, in the order of the calls.

A delete and an enable reset their queue. So a response gets lost when another delete, or another
enable, was called before it came. `Undisturbed` is the exact condition, and
`responses_delivered_iff` states it together with the one for the tracking calls.

The two queues are independent, so the invariant has two parts of the same shape: the queue holds
the requests of the messages of its kind from the last reset on. `deletes` and `controls` are the
messages of the two kinds. `Synced.issues` keeps the invariant when a call is made, and
`Synced.answer` when a message is answered; each is a case on the kind of the call.

A disable does not reset its queue, so it may follow anything, and a delete leaves the queue of the
enables alone. What connects the two queues is the look-up of a response, which goes through the
queue of deletes first. There it must not find its own session (`Synced.isDelete_of_control` and
`Synced.undisturbed`).
-/

set_option autoImplicit false

namespace LocHal.Location

open LabelledRun

/-- `CTRL_REQUEST_TYPE`. -/
inductive CtrlRequestType where
  | deleteAidingData
  | control
  | config
  deriving DecidableEq, Repr

/-- The classes of the request objects, besides the one of `locAPIGnssUpdateConfig`. -/
inductive ControlRequestClass where
  | gnssDeleteAidingDataRequest
  | enableRequest
  | disableRequest
  deriving DecidableEq, Repr

/-- The call is a `gnssDeleteAidingData`. -/
def ClientCall.isDelete (call : ClientCall ControlRequestClass) : Bool :=
  call.request.cls = .gnssDeleteAidingDataRequest

/-- The call is an `enable`. -/
def ClientCall.isEnable (call : ClientCall ControlRequestClass) : Bool :=
  call.request.cls = .enableRequest

/-- The part of `LocationAPIControlClient` that these methods use. `mLocationControlAPI` says
whether the pointer is set. -/
structure ControlClient where
  mLocationControlAPI : Bool
  mEnabled : Bool
  mRequestQueues : CtrlRequestType → RequestQueueOf (ClientRequest ControlRequestClass)

namespace ControlClient

/-- The constructor. -/
def new (mLocationControlAPI : Bool) : ControlClient := ⟨mLocationControlAPI, false, fun _ => .new⟩

/-- The client with another queue in one place. -/
def setQueue (c : ControlClient) (type : CtrlRequestType)
    (queue : RequestQueueOf (ClientRequest ControlRequestClass)) : ControlClient :=
  { c with mRequestQueues := Function.update c.mRequestQueues type queue }

/-- `LocationAPIControlClient::locAPIGnssDeleteAidingData`. -/
def locAPIGnssDeleteAidingData (c : ControlClient) (address : Nat) (newSession : UInt32) :
    ControlClient × LocationError × Option (ClientCall ControlRequestClass) :=
  if c.mLocationControlAPI then
    let request := ⟨.gnssDeleteAidingDataRequest, address⟩
    -- requests that still wait for a response are deleted here
    let queue := ((c.mRequestQueues .deleteAidingData).reset newSession).push request
    (c.setQueue .deleteAidingData queue, .success, some ⟨newSession, request⟩)
  else (c, .generalFailure, none)

/-- `LocationAPIControlClient::locAPIEnable`. -/
def locAPIEnable (c : ControlClient) (address : Nat) (newSession : UInt32) :
    ControlClient × LocationError × Option (ClientCall ControlRequestClass) :=
  if c.mEnabled then (c, .success, none)
  else if c.mLocationControlAPI then
    let request := ⟨.enableRequest, address⟩
    -- here as well
    let queue := ((c.mRequestQueues .control).reset newSession).push request
    ({ c.setQueue .control queue with mEnabled := true }, .success, some ⟨newSession, request⟩)
  else (c, .generalFailure, none)

/-- `LocationAPIControlClient::locAPIDisable`. -/
def locAPIDisable (c : ControlClient) (address : Nat) :
    ControlClient × Option (ClientCall ControlRequestClass) :=
  if c.mEnabled && c.mLocationControlAPI then
    let session := (c.mRequestQueues .control).mSession
    if 0 < session then
      let request := ⟨.disableRequest, address⟩
      let queue := (c.mRequestQueues .control).push request
      ({ c.setQueue .control queue with mEnabled := false }, some ⟨session, request⟩)
    else (c, none)
  else (c, none)

/-- `LocationAPIControlClient::onCtrlResponseCb`, with the request that it dispatches to. The loop
of `getRequestBySession` leaves `CTRL_REQUEST_CONFIG` out. -/
def onCtrlResponseCb (c : ControlClient) (id : UInt32) :
    Option (ClientRequest ControlRequestClass) × ControlClient :=
  let found := getRequestBySession c.mRequestQueues id [.deleteAidingData, .control]
  (found.1, { c with mRequestQueues := found.2 })

/-- What a method does to the two queues when it makes the call `call` with a request object at
`address`. -/
inductive Issues (c : ControlClient) (address : Nat) (c' : ControlClient) :
    Option (ClientCall ControlRequestClass) → Prop where
  /-- The method returns without a call. -/
  | nothing (hclient : c' = c) : Issues c address c' none
  | delete (session : UInt32)
      (hdelete : c'.mRequestQueues .deleteAidingData =
        ((c.mRequestQueues .deleteAidingData).reset session).push
          ⟨.gnssDeleteAidingDataRequest, address⟩)
      (hother : c'.mRequestQueues .control = c.mRequestQueues .control) :
      Issues c address c' (some ⟨session, ⟨.gnssDeleteAidingDataRequest, address⟩⟩)
  | enable (session : UInt32)
      (hcontrol : c'.mRequestQueues .control =
        ((c.mRequestQueues .control).reset session).push ⟨.enableRequest, address⟩)
      (hother : c'.mRequestQueues .deleteAidingData = c.mRequestQueues .deleteAidingData) :
      Issues c address c' (some ⟨session, ⟨.enableRequest, address⟩⟩)
  | disable
      (hcontrol : c'.mRequestQueues .control =
        (c.mRequestQueues .control).push ⟨.disableRequest, address⟩)
      (hother : c'.mRequestQueues .deleteAidingData = c.mRequestQueues .deleteAidingData) :
      Issues c address c' (some ⟨(c.mRequestQueues .control).mSession, ⟨.disableRequest, address⟩⟩)

theorem locAPIGnssDeleteAidingData_issues (c : ControlClient) (address : Nat)
    (newSession : UInt32) :
    c.Issues address (c.locAPIGnssDeleteAidingData address newSession).1
      (c.locAPIGnssDeleteAidingData address newSession).2.2 := by
  unfold locAPIGnssDeleteAidingData
  split
  · exact .delete newSession rfl rfl
  · exact .nothing rfl

theorem locAPIEnable_issues (c : ControlClient) (address : Nat) (newSession : UInt32) :
    c.Issues address (c.locAPIEnable address newSession).1
      (c.locAPIEnable address newSession).2.2 := by
  unfold locAPIEnable
  split
  · exact .nothing rfl
  · split
    · exact .enable newSession rfl rfl
    · exact .nothing rfl

theorem locAPIDisable_issues (c : ControlClient) (address : Nat) :
    c.Issues address (c.locAPIDisable address).1 (c.locAPIDisable address).2 := by
  unfold locAPIDisable
  split
  · dsimp only
    split
    · exact .disable rfl rfl
    · exact .nothing rfl
  · exact .nothing rfl

end ControlClient

/-- A control client and the part of `GnssAdapter` that answers it. -/
structure ControlResponses where
  client : ControlClient
  mSessionIdCounter : UInt32
  /-- The address of the next request object. -/
  nextAddress : Nat
  /-- The messages of the adapter, in the order of the calls. -/
  messages : List (ClientCall ControlRequestClass)
  /-- The responses, each with the request that it was dispatched to. -/
  responses : List (ClientCall ControlRequestClass × Option (ClientRequest ControlRequestClass))

/-- What happens next. -/
inductive ControlLabel where
  | gnssDeleteAidingData
  | enable
  | disable
  /-- Another client of the adapter takes a session id. -/
  | otherSession
  /-- The adapter processes the oldest message and answers it. -/
  | proc

namespace ControlResponses

/-- A client before its first call. -/
def new (mLocationControlAPI : Bool) : ControlResponses := ⟨.new mLocationControlAPI, 1, 0, [], []⟩

/-- The state after a method of the client that made the calls `call`. -/
def issue (s : ControlResponses) (client : ControlClient)
    (call : Option (ClientCall ControlRequestClass)) : ControlResponses :=
  { s with
    client := client
    nextAddress := s.nextAddress + call.toList.length
    messages := s.messages ++ call.toList }

/-- The response to `call` reaches the client. -/
def answer (s : ControlResponses) (call : ClientCall ControlRequestClass) : ControlResponses :=
  let found := s.client.onCtrlResponseCb call.session
  { s with client := found.2, responses := s.responses ++ [(call, found.1)] }

/-- A method that returns without a call. -/
theorem issue_none (s : ControlResponses) : s.issue s.client none = s := by simp [issue]

/-- One step. -/
def step (s : ControlResponses) : ControlLabel → Option ControlResponses
  | .gnssDeleteAidingData =>
      let newSession := generateSessionId s.mSessionIdCounter
      let (client, _, call) := s.client.locAPIGnssDeleteAidingData s.nextAddress newSession
      let counter := if call.isSome then newSession else s.mSessionIdCounter
      some { s.issue client call with mSessionIdCounter := counter }
  | .enable =>
      let newSession := generateSessionId s.mSessionIdCounter
      let (client, _, call) := s.client.locAPIEnable s.nextAddress newSession
      let counter := if call.isSome then newSession else s.mSessionIdCounter
      some { s.issue client call with mSessionIdCounter := counter }
  | .disable =>
      let (client, call) := s.client.locAPIDisable s.nextAddress
      some (s.issue client call)
  | .otherSession => some { s with mSessionIdCounter := generateSessionId s.mSessionIdCounter }
  | .proc =>
      match s.messages with
      | [] => none
      | call :: rest => some (({ s with messages := rest } : ControlResponses).answer call)

/-- Every response has reached the request of its own call: a pair of `responses` is the call that
was answered and the request whose callback was called. -/
def Delivered (s : ControlResponses) : Prop := ∀ r ∈ s.responses, r.2 = some r.1.request

/-- The exact condition on a message. A delete has no delete behind it, and an enable or a disable
has no enable behind it, since each of these replaces the queue that the response needs. The session
of an enable or a disable is not the one of the last delete, since the response looks for its
session in the queue of the deletes first. -/
def Undisturbed (s : ControlResponses) : ControlLabel → Prop
  | .proc =>
      match s.messages with
      | [] => True
      | call :: rest =>
          if call.isDelete then rest.any ClientCall.isDelete = false
          else
            rest.any ClientCall.isEnable = false ∧
              (s.client.mRequestQueues .deleteAidingData).mSession ≠ call.session
  | _ => True

/-! ### The queues and the messages -/

/-- The messages of the queue of deletes. -/
def deletes (messages : List (ClientCall ControlRequestClass)) :
    List (ClientCall ControlRequestClass) := messages.filter ClientCall.isDelete

/-- The messages of the queue of enables and disables. -/
def controls (messages : List (ClientCall ControlRequestClass)) :
    List (ClientCall ControlRequestClass) := messages.filter fun call => !call.isDelete

/-- What holds after every undisturbed step: each queue is in step with its messages. -/
structure Synced (s : ControlResponses) : Prop where
  distinct : Distinct s.nextAddress s.messages
  deleteAidingData : Pending ClientCall.isDelete True (deletes s.messages)
    (s.client.mRequestQueues .deleteAidingData)
  control : Pending ClientCall.isEnable True (controls s.messages)
    (s.client.mRequestQueues .control)

section Split
variable {messages : List (ClientCall ControlRequestClass)} {call : ClientCall ControlRequestClass}

theorem deletes_concat_of_delete (h : call.isDelete = true) :
    deletes (messages ++ [call]) = deletes messages ++ [call] := by simp [deletes, h]

theorem deletes_concat_of_control (h : call.isDelete = false) :
    deletes (messages ++ [call]) = deletes messages := by simp [deletes, h]

theorem controls_concat_of_delete (h : call.isDelete = true) :
    controls (messages ++ [call]) = controls messages := by simp [controls, h]

theorem controls_concat_of_control (h : call.isDelete = false) :
    controls (messages ++ [call]) = controls messages ++ [call] := by simp [controls, h]

theorem deletes_cons_of_delete (h : call.isDelete = true) :
    deletes (call :: messages) = call :: deletes messages := List.filter_cons_of_pos h

theorem deletes_cons_of_control (h : call.isDelete = false) :
    deletes (call :: messages) = deletes messages := List.filter_cons_of_neg (by simp [h])

theorem controls_cons_of_delete (h : call.isDelete = true) :
    controls (call :: messages) = controls messages := List.filter_cons_of_neg (by simp [h])

theorem controls_cons_of_control (h : call.isDelete = false) :
    controls (call :: messages) = call :: controls messages := List.filter_cons_of_pos (by simp [h])

/-- A delete among the messages is among the deletes. -/
theorem any_deletes : (deletes messages).any ClientCall.isDelete =
    messages.any ClientCall.isDelete := by
  simp [deletes, List.any_filter]

/-- An enable is not a delete. -/
theorem any_controls : (controls messages).any ClientCall.isEnable =
    messages.any ClientCall.isEnable := by
  rw [controls, List.any_filter]
  congr 1
  funext c
  rcases c with ⟨session, ⟨cls, address⟩⟩
  cases cls <;> rfl

end Split

/-- A call of the client. -/
theorem Synced.issues {s : ControlResponses} (hs : Synced s) {client : ControlClient}
    {call : Option (ClientCall ControlRequestClass)}
    (h : s.client.Issues s.nextAddress client call) : Synced (s.issue client call) := by
  cases h with
  | nothing hclient =>
      rw [hclient, issue_none]
      exact hs
  | delete session hdelete hother =>
      refine ⟨hs.distinct.concat session _, ?_, ?_⟩
      · dsimp only [issue, Option.toList_some]
        rw [hdelete, deletes_concat_of_delete rfl]
        exact Pending.reset _ _ rfl
      · dsimp only [issue, Option.toList_some]
        rw [hother, controls_concat_of_delete rfl]
        exact hs.control
  | enable session hcontrol hother =>
      refine ⟨hs.distinct.concat session _, ?_, ?_⟩
      · dsimp only [issue, Option.toList_some]
        rw [hother, deletes_concat_of_control rfl]
        exact hs.deleteAidingData
      · dsimp only [issue, Option.toList_some]
        rw [hcontrol, controls_concat_of_control rfl]
        exact Pending.reset _ _ rfl
  | disable hcontrol hother =>
      refine ⟨hs.distinct.concat _ _, ?_, ?_⟩
      · dsimp only [issue, Option.toList_some]
        rw [hother, deletes_concat_of_control rfl]
        exact hs.deleteAidingData
      · dsimp only [issue, Option.toList_some]
        rw [hcontrol, controls_concat_of_control rfl]
        exact hs.control.push rfl

/-! ### One message -/

/-- A step is a call of the client, an id that another client takes, or a message. -/
theorem step_cases {s t : ControlResponses} {l : ControlLabel} (h : step s l = some t) :
    (∃ client call, s.client.Issues s.nextAddress client call ∧
        (∃ counter, t = { s.issue client call with mSessionIdCounter := counter }) ∧
        Undisturbed s l) ∨
      l = .proc ∧ ∃ call rest, s.messages = call :: rest ∧
        t = ({ s with messages := rest } : ControlResponses).answer call := by
  cases l with
  | gnssDeleteAidingData =>
      cases h
      exact Or.inl ⟨_, _, s.client.locAPIGnssDeleteAidingData_issues _ _, ⟨_, rfl⟩, trivial⟩
  | enable =>
      cases h
      exact Or.inl ⟨_, _, s.client.locAPIEnable_issues _ _, ⟨_, rfl⟩, trivial⟩
  | disable =>
      cases h
      exact Or.inl ⟨_, _, s.client.locAPIDisable_issues _, ⟨_, rfl⟩, trivial⟩
  | otherSession =>
      cases h
      refine Or.inl ⟨s.client, none, .nothing rfl, ⟨generateSessionId s.mSessionIdCounter, ?_⟩,
        trivial⟩
      rw [issue_none]
  | proc =>
      refine Or.inr ⟨rfl, ?_⟩
      simp only [step] at h
      split at h
      · cases h
      · rename_i call rest hmessages
        cases h
        exact ⟨call, rest, hmessages, rfl⟩

/-- The response to an undisturbed message reaches its request, and the queues stay in step. -/
theorem Synced.answer {s : ControlResponses} (hs : Synced s)
    {call : ClientCall ControlRequestClass} {rest : List (ClientCall ControlRequestClass)}
    (hmessages : s.messages = call :: rest) (hok : Undisturbed s .proc) :
    (s.client.onCtrlResponseCb call.session).1 = some call.request ∧
      Synced (({ s with messages := rest } : ControlResponses).answer call) := by
  obtain ⟨hdistinct, hdelete, hcontrol⟩ := hs
  rw [hmessages] at hdistinct hdelete hcontrol
  simp only [Undisturbed, hmessages] at hok
  unfold ControlResponses.answer ControlClient.onCtrlResponseCb
  dsimp only
  split at hok
  · rename_i hkind
    rw [deletes_cons_of_delete hkind] at hdelete
    rw [controls_cons_of_delete hkind] at hcontrol
    have hany : (deletes rest).any ClientCall.isDelete = false := any_deletes.trans hok
    rw [getRequestBySession_cons_of_eq (hdelete.session_head hany),
      hdelete.mQueue_head hany (Or.inr trivial)]
    exact ⟨rfl, hdistinct.tail, hdelete.pop hany (Or.inr trivial) True, hcontrol⟩
  · rename_i hkind
    have hkind' : call.isDelete = false := Bool.eq_false_iff.mpr hkind
    rw [deletes_cons_of_control hkind'] at hdelete
    rw [controls_cons_of_control hkind'] at hcontrol
    obtain ⟨hrest, hne⟩ := hok
    have hany : (controls rest).any ClientCall.isEnable = false := any_controls.trans hrest
    -- the queue of deletes is passed over
    rw [getRequestBySession_cons_of_ne hne,
      getRequestBySession_cons_of_eq (hcontrol.session_head hany),
      hcontrol.mQueue_head hany (Or.inr trivial)]
    exact ⟨rfl, hdistinct.tail, hdelete, hcontrol.pop hany (Or.inr trivial) True⟩

/-- The request of a queue in step is one of its messages. -/
theorem mem_of_head? {p : ClientCall ControlRequestClass → Bool}
    {messages : List (ClientCall ControlRequestClass)}
    {q : RequestQueueOf (ClientRequest ControlRequestClass)} (h : Pending p True messages q)
    {request : ClientRequest ControlRequestClass} (hhead : q.mQueue.head? = some request) :
    ∃ c ∈ messages, c.request = request := by
  rw [h.requests (Or.inr trivial)] at hhead
  obtain ⟨c, hc, hreq⟩ := List.mem_map.mp (List.mem_of_head? hhead)
  exact ⟨c, SinceLast.mem_of_mem_sinceLast hc, hreq⟩

/-- The head of the queue of deletes is a delete. -/
theorem Synced.isDelete_of_head? {s : ControlResponses} (hs : Synced s)
    {call : ClientCall ControlRequestClass}
    (hhead : (s.client.mRequestQueues .deleteAidingData).mQueue.head? = some call.request) :
    call.isDelete = true := by
  obtain ⟨c, hc, hreq⟩ := mem_of_head? hs.deleteAidingData hhead
  rw [ClientCall.isDelete, ← hreq]
  exact (List.mem_filter.mp hc).2

/-- The head of the queue of enables and disables is no delete. -/
theorem Synced.isDelete_of_control {s : ControlResponses} (hs : Synced s)
    {call : ClientCall ControlRequestClass}
    (hhead : (s.client.mRequestQueues .control).mQueue.head? = some call.request) :
    call.isDelete = false := by
  obtain ⟨c, hc, hreq⟩ := mem_of_head? hs.control hhead
  rw [ClientCall.isDelete, ← hreq]
  exact Bool.not_eq_true' _ ▸ (List.mem_filter.mp hc).2

/-- A response that reaches the request of its call was undisturbed. -/
theorem Synced.undisturbed {s : ControlResponses} (hs : Synced s)
    {call : ClientCall ControlRequestClass} {rest : List (ClientCall ControlRequestClass)}
    (hmessages : s.messages = call :: rest)
    (hfound : (s.client.onCtrlResponseCb call.session).1 = some call.request) :
    Undisturbed s .proc := by
  have hdelete := hs.deleteAidingData
  have hcontrol := hs.control
  have hdistinct := hs.distinct
  rw [hmessages] at hdelete hcontrol hdistinct
  simp only [Undisturbed, hmessages]
  unfold ControlClient.onCtrlResponseCb at hfound
  dsimp only at hfound
  by_cases hsession : (s.client.mRequestQueues .deleteAidingData).mSession = call.session
  · rw [getRequestBySession_cons_of_eq hsession] at hfound
    have hkind := hs.isDelete_of_head? hfound
    rw [if_pos hkind]
    rw [deletes_cons_of_delete hkind] at hdelete
    -- with a delete behind the call the head would be a later request
    refine Bool.eq_false_iff.mpr fun hany => ?_
    have hmem := hdelete.mem_of_head? (any_deletes.trans hany) hfound
    obtain ⟨c, hc, hreq⟩ := List.mem_map.mp hmem
    exact hdistinct.head_not_mem (hreq ▸ List.mem_map_of_mem (List.mem_filter.mp hc).1)
  · rw [getRequestBySession_cons_of_ne hsession] at hfound
    obtain ⟨k, hk, -, hhead⟩ := getRequestBySession_some hfound
    cases List.mem_singleton.mp hk
    have hkind := hs.isDelete_of_control hhead
    rw [if_neg (by simp [hkind])]
    rw [controls_cons_of_control hkind] at hcontrol
    refine ⟨Bool.eq_false_iff.mpr fun hany => ?_, hsession⟩
    have hmem := hcontrol.mem_of_head? (any_controls.trans hany) hhead
    obtain ⟨c, hc, hreq⟩ := List.mem_map.mp hmem
    exact hdistinct.head_not_mem (hreq ▸ List.mem_map_of_mem (List.mem_filter.mp hc).1)

/-- An undisturbed step keeps the queues in step and every response at its request. -/
theorem synced_step {s t : ControlResponses} {l : ControlLabel} (h : step s l = some t)
    (hs : Synced s ∧ Delivered s) (hok : Undisturbed s l) : Synced t ∧ Delivered t := by
  obtain ⟨client, call, hissues, ⟨counter, rfl⟩, -⟩ | ⟨rfl, call, rest, hmessages, rfl⟩ :=
    step_cases h
  · obtain ⟨hdistinct, hdelete, hcontrol⟩ := hs.1.issues hissues
    exact ⟨⟨hdistinct, hdelete, hcontrol⟩, hs.2⟩
  · obtain ⟨hfound, hsynced⟩ := hs.1.answer hmessages hok
    refine ⟨hsynced, fun r hr => ?_⟩
    rcases List.mem_append.mp hr with hr | hr
    · exact hs.2 r hr
    · cases List.mem_singleton.mp hr
      exact hfound

/-- A step after which every response is at its request was undisturbed. -/
theorem undisturbed_of_step {s t : ControlResponses} {l : ControlLabel} (h : step s l = some t)
    (hs : Synced s) (ht : Delivered t) : Undisturbed s l := by
  obtain ⟨-, -, -, -, hok⟩ | ⟨rfl, call, rest, hmessages, rfl⟩ := step_cases h
  · exact hok
  · have hlast := ht _ (List.mem_append_right s.responses List.mem_cons_self)
    exact hs.undisturbed hmessages hlast

/-! ### Runs -/

/-- No call and no request yet. -/
theorem synced_new (mLocationControlAPI : Bool) :
    Synced (new mLocationControlAPI) ∧ Delivered (new mLocationControlAPI) :=
  ⟨⟨Distinct.nil 0, Pending.nil fun _ => rfl, Pending.nil fun _ => rfl⟩,
    fun _ hr => absurd hr List.not_mem_nil⟩

/-- A message that cannot be processed is allowed. -/
theorem undisturbed_of_none {s : ControlResponses} {l : ControlLabel} (h : step s l = none) :
    Undisturbed s l := by
  cases l with
  | proc =>
      simp only [Undisturbed]
      split
      · exact trivial
      · rename_i call rest hmessages
        simp [step, hmessages] at h
  | _ => trivial

/-- The exact condition for the responses to a control client. -/
theorem along_delivered (mLocationControlAPI : Bool) (labels : List ControlLabel) :
    Along step Delivered (new mLocationControlAPI) labels ↔
      Guarded step Undisturbed (new mLocationControlAPI) labels :=
  along_iff_guarded (fun _ hs => hs.2) (fun _ _ _ hs hok h => synced_step h hs hok)
    (fun _ _ _ hs h ht => undisturbed_of_step h hs.1 ht)
    (fun _ _ _ h => undisturbed_of_none h) labels _ (synced_new mLocationControlAPI)

end ControlResponses

/-- Every response reaches the request of its call if and only if no answered tracking call has a
start behind it, no delete has a delete behind it, and no enable or disable has an enable behind it
or the session of the last delete. -/
theorem responses_delivered_iff (mLocationAPI : Bool) :
    (∀ labels, Along TrackingResponses.step TrackingResponses.Delivered
        (.new mLocationAPI) labels ↔
      Guarded TrackingResponses.step TrackingResponses.Undisturbed (.new mLocationAPI) labels) ∧
    (∀ labels, Along ControlResponses.step ControlResponses.Delivered (.new mLocationAPI) labels ↔
      Guarded ControlResponses.step ControlResponses.Undisturbed (.new mLocationAPI) labels) :=
  ⟨TrackingResponses.along_delivered mLocationAPI, ControlResponses.along_delivered mLocationAPI⟩

/-- A client starts, stops and starts again before the first response. -/
def startStopStart : List TrackingLabel :=
  [.startTracking, .stopTracking, .startTracking, .proc .success]

/-- Two deletes before the first response. -/
def deleteTwice : List ControlLabel := [.gnssDeleteAidingData, .gnssDeleteAidingData, .proc]

/-- In both runs the first response has no request left. -/
theorem not_responses_delivered :
    ¬ Along TrackingResponses.step TrackingResponses.Delivered (.new true) startStopStart ∧
      ¬ Along ControlResponses.step ControlResponses.Delivered (.new true) deleteTwice := by
  constructor
  · intro h
    have hlast := h.last (t := (run TrackingResponses.step (.new true) startStopStart).get rfl) rfl
    have hlost : ((⟨2, ⟨.startTrackingRequest, 0⟩⟩ : ClientCall TrackingRequestClass), none) ∈
        ((run TrackingResponses.step (.new true) startStopStart).get rfl).responses := by decide
    cases hlast _ hlost
  · intro h
    have hlast := h.last (t := (run ControlResponses.step (.new true) deleteTwice).get rfl) rfl
    have hlost : ((⟨2, ⟨.gnssDeleteAidingDataRequest, 0⟩⟩ : ClientCall ControlRequestClass),
        none) ∈ ((run ControlResponses.step (.new true) deleteTwice).get rfl).responses := by decide
    cases hlast _ hlost

end LocHal.Location
