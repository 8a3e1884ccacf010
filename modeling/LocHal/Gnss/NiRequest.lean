import LocHal.Lib.LabelledRun

/-!
# `LocHal.Gnss.NiRequest`: network-initiated requests of `GnssAdapter.cpp`

A request comes with a payload that the modem needs back. `requestNiNotify` puts it into one of two
sessions and starts a thread, which waits for the response of a client or for a time-out and then
sends response and payload to the modem. The parties are the message task of the adapter and any
number of NI threads.

`NiSystem.step` is the labelled machine, with these atomic steps:

* a request or a client response is posted (`requestNiNotifyEvent`, `gnssNiResponseCommand`);
* the message task processes the next message. A client response takes several steps, since its
  tests of `reqID` and `rawRequest` are outside the lock: the test, the test of the other session
  after an accepted emergency request, and each locked write;
* an NI thread runs its locked section, resets `respTimeLeft` and `reqID` after the lock, or posts
  the response for the modem. A thread that waits can time out whatever the session says, since
  it may get the lock only after another thread has written.

`respTimeLeft` is the length of the wait, and time is not modelled. What the adapter tells a client
about its response is left out, and so is the notification that `gnssNiCb` passes on. Payloads
are numbered in the order of the requests. The history records requests, responses and the ends
of payloads, and a thread carries the payload of the request that started it.

`step_cases` takes a step apart, and the invariants of the system are proved along its cases.
-/

set_option autoImplicit false

namespace LocHal.Gnss

/-- `GnssNiType`. -/
inductive GnssNiType where
  | voice
  | supl
  | controlPlane
  | emergencySupl
  deriving DecidableEq, Repr

/-- `GnssNiResponse`. -/
inductive GnssNiResponse where
  | accept
  | deny
  | noResponse
  | ignore
  deriving DecidableEq, Repr

/-- `GnssNiNotification`, as far as `requestNiNotify` reads it. -/
structure GnssNiNotification where
  type : GnssNiType
  timeout : UInt32
  deriving DecidableEq, Repr

/-- The payload of a request, which the code has as a pointer. -/
abbrev Payload := Nat

/-- A `LocationAPI` pointer. -/
abbrev NiClient := Nat

/-- `LOC_NI_NO_RESPONSE_TIME`. -/
def locNiNoResponseTime : UInt32 := 20

/-- `NiSession`. `resp` is `none` for the 0 of the constructor, which is no response. -/
structure NiSession where
  respTimeLeft : UInt32
  respRecvd : Bool
  rawRequest : Option Payload
  reqID : UInt32
  resp : Option GnssNiResponse
  deriving DecidableEq, Repr

namespace NiSession

/-- The session after the constructor. -/
def init : NiSession := ⟨0, false, none, 0, none⟩

/-- A response is written under the lock. -/
def respond (ns : NiSession) (resp : GnssNiResponse) : NiSession :=
  { ns with resp := some resp, respRecvd := true }

/-- The session after the locked section of `niThreadProc`. -/
def consume (ns : NiSession) : NiSession := { ns with respRecvd := false, rawRequest := none }

/-- What the locked section of `niThreadProc` takes out to send. -/
def toSend (ns : NiSession) : Option (Option GnssNiResponse × Payload) :=
  match ns.rawRequest with
  | none => none
  | some raw => if ns.resp ≠ some .ignore then some (ns.resp, raw) else none

/-- What the locked section of `niThreadProc` frees. -/
def toFree (ns : NiSession) : Option Payload :=
  match ns.rawRequest with
  | none => none
  | some raw => if ns.resp ≠ some .ignore then none else some raw

end NiSession

/-- The members of `NiData` that are sessions. -/
inductive NiSlot where
  | session
  | sessionEs
  deriving DecidableEq, Repr

/-- `NiData`. -/
structure NiData where
  session : NiSession
  sessionEs : NiSession
  reqIDCounter : UInt32
  deriving DecidableEq, Repr

namespace NiData

def get (d : NiData) : NiSlot → NiSession
  | .session => d.session
  | .sessionEs => d.sessionEs

def set (d : NiData) (slot : NiSlot) (ns : NiSession) : NiData :=
  match slot with
  | .session => { d with session := ns }
  | .sessionEs => { d with sessionEs := ns }

@[simp] theorem get_set_self (d : NiData) (slot : NiSlot) (ns : NiSession) :
    (d.set slot ns).get slot = ns := by
  cases slot <;> rfl

@[simp] theorem get_set_of_ne (d : NiData) {slot other : NiSlot} (h : other ≠ slot)
    (ns : NiSession) : (d.set slot ns).get other = d.get other := by
  cases slot <;> cases other <;> first | rfl | exact absurd rfl h

@[simp] theorem get_reqIDCounter (d : NiData) (counter : UInt32) (slot : NiSlot) :
    { d with reqIDCounter := counter }.get slot = d.get slot := by
  cases slot <;> rfl

/-- What holds of the session that is set and of the others holds of all. -/
theorem forall_get_set {P : NiSession → Prop} {d : NiData} {slot : NiSlot} {ns : NiSession}
    (hns : P ns) (hall : ∀ other, P (d.get other)) (other : NiSlot) :
    P ((d.set slot ns).get other) := by
  by_cases heq : other = slot
  · subst heq
    rwa [get_set_self]
  · rw [get_set_of_ne d heq]
    exact hall other

/-- The session that `requestNiNotify` uses for a request, or none when one is in progress. -/
def select (d : NiData) (notify : GnssNiNotification) : Option NiSlot :=
  if notify.type = .emergencySupl then
    if d.sessionEs.rawRequest.isSome then none else some .sessionEs
  else if d.session.rawRequest.isSome || d.sessionEs.rawRequest.isSome then none
  else some .session

/-- The session that a client response is for. -/
def find (d : NiData) (id : UInt32) : Option NiSlot :=
  if id = d.sessionEs.reqID ∧ d.sessionEs.rawRequest.isSome then some .sessionEs
  else if id = d.session.reqID ∧ d.session.rawRequest.isSome then some .session
  else none

/-- `requestNiNotify` selects a session without a request. -/
theorem rawRequest_of_select {d : NiData} {notify : GnssNiNotification} {slot : NiSlot}
    (h : d.select notify = some slot) : (d.get slot).rawRequest = none := by
  unfold select at h
  split at h <;> split at h
  · cases h
  · rename_i hes
    cases h
    exact Option.not_isSome_iff_eq_none.mp hes
  · cases h
  · rename_i hboth
    cases h
    rw [Bool.or_eq_true, not_or] at hboth
    exact Option.not_isSome_iff_eq_none.mp hboth.1

end NiData

/-- The messages of the adapter. -/
inductive NiMsg where
  | reportNiNotify (notify : GnssNiNotification) (data : Option Payload)
  | gnssNiResponse (client : NiClient) (id : UInt32) (resp : GnssNiResponse)
  | informNiResponse (resp : Option GnssNiResponse) (payload : Payload)
  deriving DecidableEq, Repr

/-- Where the message task is. After the test of a client response it may have to test and to
write the other session before it writes the one of the response. -/
inductive NiTask where
  | idle
  | ignoreTest (id : UInt32) (resp : GnssNiResponse)
  | ignoreWrite (id : UInt32) (resp : GnssNiResponse)
  | respond (slot : NiSlot) (id : UInt32) (resp : GnssNiResponse)
  deriving DecidableEq, Repr

/-- Where an NI thread is: before its first lock, in the wait, after the lock, and after the
resets. -/
inductive NiThreadPc where
  | started
  | waiting
  | unlocked (send : Option (Option GnssNiResponse × Payload))
  | reset (send : Option (Option GnssNiResponse × Payload))
  deriving DecidableEq, Repr

/-- The locked section of a thread is still to come. -/
def NiThreadPc.Running : NiThreadPc → Prop
  | .started => True
  | .waiting => True
  | .unlocked _ => False
  | .reset _ => False

/-- A thread of `niThreadProc` with its session, and the payload of the request that started it. -/
structure NiThread where
  slot : NiSlot
  own : Option Payload
  pc : NiThreadPc
  deriving DecidableEq, Repr

/-- What holds of a list and of the new element holds after one element is replaced. -/
theorem forall_mem_set {α : Type} {P : α → Prop} {l : List α} {i : Nat} {a : α} (ha : P a)
    (hl : ∀ x ∈ l, P x) : ∀ x ∈ l.set i a, P x := by
  intro x hx
  rcases List.mem_or_eq_of_mem_set hx with hold | rfl
  · exact hl x hold
  · exact ha

/-- What happened. -/
inductive NiEvent where
  | handed (payload : Payload)
  | assigned (payload : Option Payload) (reqID : UInt32)
  | response (client : NiClient) (id : UInt32) (resp : GnssNiResponse)
  | timedOut (own : Option Payload)
  | freed (payload : Payload)
  | informed (resp : Option GnssNiResponse) (payload : Payload)
  deriving DecidableEq, Repr

/-- The NI part of the adapter. `mClientData` says for each client whether it has a `gnssNiCb`. -/
structure NiSystem where
  niData : NiData
  mClientData : List (NiClient × Bool)
  msgQueue : List NiMsg
  msgTask : NiTask
  threads : List NiThread
  nextPayload : Payload
  history : List NiEvent
  deriving DecidableEq, Repr

/-- What can happen next. `threadCreated` is the success of `pthread_create`. -/
inductive NiCall where
  | clients (mClientData : List (NiClient × Bool))
  | requestNiNotifyEvent (notify : GnssNiNotification) (nonNull : Bool)
  | gnssNiResponseCommand (client : NiClient) (id : UInt32) (resp : GnssNiResponse)
  | proc (threadCreated : Bool)
  | thread (i : Nat) (timedOut : Bool)
  deriving DecidableEq, Repr

namespace NiSystem

/-- The adapter after its constructor. -/
def init : NiSystem := ⟨⟨.init, .init, 0⟩, [], [], .idle, [], 0, []⟩

/-- `GnssAdapter::hasNiNotifyCallback`. -/
def hasNiNotifyCallback (s : NiSystem) (client : NiClient) : Bool :=
  (s.mClientData.find? fun c => c.1 = client).any fun c => c.2

/-- One more entry of the history, if there is one. -/
def note (s : NiSystem) (event : Option NiEvent) : NiSystem :=
  { s with history := s.history ++ event.toList }

/-- `GnssAdapter::requestNiNotify`. -/
def requestNiNotify (s : NiSystem) (notify : GnssNiNotification) (data : Option Payload)
    (threadCreated : Bool) : NiSystem :=
  -- without a client that has a callback the request is dropped, and the payload with it
  if !s.mClientData.any fun c => c.2 then s
  else
    match s.niData.select notify with
    | none => s.note (data.map .freed)
    | some slot =>
        let reqID := s.niData.reqIDCounter + 1
        let ns : NiSession := { s.niData.get slot with
          rawRequest := data
          reqID := reqID
          respTimeLeft := 5 + if notify.timeout ≠ 0 then notify.timeout else locNiNoResponseTime }
        -- a thread that cannot be created is logged only
        { s with
          niData := { s.niData with reqIDCounter := reqID }.set slot ns
          threads := s.threads ++ if threadCreated then [⟨slot, data, .started⟩] else []
          history := s.history ++ [.assigned data reqID] }

/-- The start of `MsgGnssNiResponse::proc` for a client response, up to the first lock. -/
def procResponse (s : NiSystem) (client : NiClient) (id : UInt32) (resp : GnssNiResponse) :
    NiSystem :=
  if !s.hasNiNotifyCallback client then s
  else
    match s.niData.find id with
    | none => s
    | some slot =>
        { s with msgTask :=
            -- an accepted emergency request makes the other session ignore its own
            if slot = .sessionEs ∧ resp = .accept then .ignoreTest id resp
            else .respond slot id resp }

/-- The message task takes a message. -/
def procMsg (s : NiSystem) (threadCreated : Bool) : NiMsg → NiSystem
  | .reportNiNotify notify data =>
      (s.note (data.map .handed)).requestNiNotify notify data threadCreated
  | .gnssNiResponse client id resp => s.procResponse client id resp
  | .informNiResponse resp payload => s.note (some (.informed resp payload))

/-- A step of the message task. -/
def proc (s : NiSystem) (threadCreated : Bool) : Option NiSystem :=
  match s.msgTask with
  | .idle =>
      match s.msgQueue with
      | [] => none
      | msg :: rest => some ({ s with msgQueue := rest }.procMsg threadCreated msg)
  | .ignoreTest id resp =>
      -- tested without the lock
      some { s with msgTask :=
        if s.niData.session.rawRequest.isSome then .ignoreWrite id resp
        else .respond .sessionEs id resp }
  | .ignoreWrite id resp =>
      some { s with
        niData := s.niData.set .session (s.niData.session.respond .ignore)
        msgTask := .respond .sessionEs id resp }
  | .respond slot _ resp =>
      some { s with
        niData := s.niData.set slot ((s.niData.get slot).respond resp)
        msgTask := .idle }

/-- The end of the locked section of the thread `th` at position `i`, with its session `ns`. -/
def finish (s : NiSystem) (i : Nat) (th : NiThread) (ns : NiSession) : NiSystem :=
  { s with
    niData := s.niData.set th.slot ns.consume
    threads := s.threads.set i { th with pc := .unlocked ns.toSend }
    history := s.history ++ (ns.toFree.map .freed).toList }

/-- A step of the NI thread at position `i`. -/
def thread (s : NiSystem) (i : Nat) (timedOut : Bool) : Option NiSystem :=
  match s.threads[i]? with
  | none => none
  | some th =>
      let ns := s.niData.get th.slot
      match th.pc, timedOut with
      | .started, false =>
          -- the loop is skipped when the flag is set already
          if ns.respRecvd then some (s.finish i th ns)
          else some { s with threads := s.threads.set i { th with pc := .waiting } }
      | .waiting, false =>
          -- without a response the wake-up is spurious
          if ns.respRecvd then some (s.finish i th ns) else some s
      | .waiting, true =>
          -- `ETIMEDOUT` overwrites `resp` and ends the loop
          some ((s.note (some (.timedOut th.own))).finish i th
            { ns with resp := some .noResponse })
      | .unlocked send, false =>
          -- after `pthread_mutex_unlock`
          some { s with
            niData := s.niData.set th.slot { ns with respTimeLeft := 0, reqID := 0 }
            threads := s.threads.set i { th with pc := .reset send } }
      | .reset send, false =>
          some { s with
            msgQueue := s.msgQueue ++ (send.map fun r => .informNiResponse r.1 r.2).toList
            threads := s.threads.eraseIdx i }
      | _, true => none

/-- One step. -/
def step (s : NiSystem) : NiCall → Option NiSystem
  | .clients mClientData => some { s with mClientData := mClientData }
  | .requestNiNotifyEvent notify nonNull =>
      some { s with
        msgQueue := s.msgQueue ++
          [.reportNiNotify notify (if nonNull then some s.nextPayload else none)]
        nextPayload := if nonNull then s.nextPayload + 1 else s.nextPayload }
  | .gnssNiResponseCommand client id resp =>
      some { s with
        msgQueue := s.msgQueue ++ [.gnssNiResponse client id resp]
        history := s.history ++ [.response client id resp] }
  | .proc threadCreated => s.proc threadCreated
  | .thread i timedOut => s.thread i timedOut

/-! ### The cases of a step -/

/-- What a step can do. -/
inductive Move (s : NiSystem) : NiCall → NiSystem → Prop
  | clients (mClientData : List (NiClient × Bool)) :
      Move s (.clients mClientData) { s with mClientData := mClientData }
  | event (notify : GnssNiNotification) (nonNull : Bool) :
      Move s (.requestNiNotifyEvent notify nonNull)
        { s with
          msgQueue := s.msgQueue ++
            [.reportNiNotify notify (if nonNull then some s.nextPayload else none)]
          nextPayload := if nonNull then s.nextPayload + 1 else s.nextPayload }
  | response (client : NiClient) (id : UInt32) (resp : GnssNiResponse) :
      Move s (.gnssNiResponseCommand client id resp)
        { s with
          msgQueue := s.msgQueue ++ [.gnssNiResponse client id resp]
          history := s.history ++ [.response client id resp] }
  /-- A request without a client that has a callback. -/
  | dropped {notify : GnssNiNotification} {data : Option Payload} {rest : List NiMsg}
      {threadCreated : Bool} (htask : s.msgTask = .idle)
      (hqueue : s.msgQueue = .reportNiNotify notify data :: rest)
      (hclient : (s.mClientData.any fun c => c.2) = false) :
      Move s (.proc threadCreated)
        { s with msgQueue := rest, history := s.history ++ (data.map .handed).toList }
  /-- A request while another one is in progress. -/
  | ignored {notify : GnssNiNotification} {data : Option Payload} {rest : List NiMsg}
      {threadCreated : Bool} (htask : s.msgTask = .idle)
      (hqueue : s.msgQueue = .reportNiNotify notify data :: rest)
      (hclient : (s.mClientData.any fun c => c.2) = true)
      (hselect : s.niData.select notify = none) :
      Move s (.proc threadCreated)
        { s with
          msgQueue := rest
          history := s.history ++ (data.map .handed).toList ++ (data.map .freed).toList }
  /-- A request that gets a session. -/
  | accepted {notify : GnssNiNotification} {data : Option Payload} {rest : List NiMsg}
      {threadCreated : Bool} {slot : NiSlot} (htask : s.msgTask = .idle)
      (hqueue : s.msgQueue = .reportNiNotify notify data :: rest)
      (hclient : (s.mClientData.any fun c => c.2) = true)
      (hselect : s.niData.select notify = some slot) (left : UInt32) :
      Move s (.proc threadCreated)
        { s with
          niData := { s.niData with reqIDCounter := s.niData.reqIDCounter + 1 }.set slot
            { s.niData.get slot with
              rawRequest := data
              reqID := s.niData.reqIDCounter + 1
              respTimeLeft := left }
          msgQueue := rest
          threads := s.threads ++ if threadCreated then [⟨slot, data, .started⟩] else []
          history := s.history ++ (data.map .handed).toList ++
            [.assigned data (s.niData.reqIDCounter + 1)] }
  /-- A client response that is for no session. -/
  | rejected {client : NiClient} {id : UInt32} {resp : GnssNiResponse} {rest : List NiMsg}
      {threadCreated : Bool} (htask : s.msgTask = .idle)
      (hqueue : s.msgQueue = .gnssNiResponse client id resp :: rest) :
      Move s (.proc threadCreated) { s with msgQueue := rest }
  /-- A client response for a session. -/
  | found {client : NiClient} {id : UInt32} {resp : GnssNiResponse} {rest : List NiMsg}
      {threadCreated : Bool} {slot : NiSlot} (htask : s.msgTask = .idle)
      (hqueue : s.msgQueue = .gnssNiResponse client id resp :: rest)
      (hclient : s.hasNiNotifyCallback client = true)
      (hfind : s.niData.find id = some slot) (task : NiTask)
      (hnext : task = .respond slot id resp ∨ task = .ignoreTest id resp ∧ slot = .sessionEs) :
      Move s (.proc threadCreated) { s with msgQueue := rest, msgTask := task }
  | informed {resp : Option GnssNiResponse} {payload : Payload} {rest : List NiMsg}
      {threadCreated : Bool} (htask : s.msgTask = .idle)
      (hqueue : s.msgQueue = .informNiResponse resp payload :: rest) :
      Move s (.proc threadCreated)
        { s with msgQueue := rest, history := s.history ++ [.informed resp payload] }
  | ignoreTest {id : UInt32} {resp : GnssNiResponse} {threadCreated : Bool}
      (htask : s.msgTask = .ignoreTest id resp) (task : NiTask)
      (hnext : task = .respond .sessionEs id resp ∨ task = .ignoreWrite id resp) :
      Move s (.proc threadCreated) { s with msgTask := task }
  | ignoreWrite {id : UInt32} {resp : GnssNiResponse} {threadCreated : Bool}
      (htask : s.msgTask = .ignoreWrite id resp) :
      Move s (.proc threadCreated)
        { s with
          niData := s.niData.set .session (s.niData.session.respond .ignore)
          msgTask := .respond .sessionEs id resp }
  | respond {slot : NiSlot} {id : UInt32} {resp : GnssNiResponse} {threadCreated : Bool}
      (htask : s.msgTask = .respond slot id resp) :
      Move s (.proc threadCreated)
        { s with
          niData := s.niData.set slot ((s.niData.get slot).respond resp)
          msgTask := .idle }
  /-- A thread starts to wait. -/
  | waits {i : Nat} {th : NiThread} (hth : s.threads[i]? = some th) (hpc : th.pc = .started) :
      Move s (.thread i false) { s with threads := s.threads.set i { th with pc := .waiting } }
  | spurious {i : Nat} : Move s (.thread i false) s
  /-- A thread sees a response. -/
  | wakes {i : Nat} {th : NiThread} (hth : s.threads[i]? = some th) (hpc : th.pc.Running)
      (hrecvd : (s.niData.get th.slot).respRecvd = true) :
      Move s (.thread i false) (s.finish i th (s.niData.get th.slot))
  | timesOut {i : Nat} {th : NiThread} (hth : s.threads[i]? = some th) (hpc : th.pc = .waiting) :
      Move s (.thread i true)
        ((s.note (some (.timedOut th.own))).finish i th
          { s.niData.get th.slot with resp := some .noResponse })
  | resets {i : Nat} {th : NiThread} {send : Option (Option GnssNiResponse × Payload)}
      (hth : s.threads[i]? = some th) (hpc : th.pc = .unlocked send) :
      Move s (.thread i false)
        { s with
          niData := s.niData.set th.slot
            { s.niData.get th.slot with respTimeLeft := 0, reqID := 0 }
          threads := s.threads.set i { th with pc := .reset send } }
  | sends {i : Nat} {th : NiThread} {send : Option (Option GnssNiResponse × Payload)}
      (hth : s.threads[i]? = some th) (hpc : th.pc = .reset send) :
      Move s (.thread i false)
        { s with
          msgQueue := s.msgQueue ++ (send.map fun r => .informNiResponse r.1 r.2).toList
          threads := s.threads.eraseIdx i }

/-- The cases of a message. -/
theorem procMsg_cases {s : NiSystem} {msg : NiMsg} {rest : List NiMsg} (threadCreated : Bool)
    (htask : s.msgTask = .idle) (hqueue : s.msgQueue = msg :: rest) :
    Move s (.proc threadCreated) ({ s with msgQueue := rest }.procMsg threadCreated msg) := by
  cases msg with
  | informNiResponse resp payload => exact .informed htask hqueue
  | gnssNiResponse client id resp =>
      unfold procMsg procResponse
      dsimp only
      split
      · exact .rejected htask hqueue
      · rename_i hclient
        rw [Bool.not_eq_true', Bool.not_eq_false] at hclient
        cases hfind : s.niData.find id with
        | none => exact .rejected htask hqueue
        | some slot =>
            refine .found htask hqueue hclient hfind _ ?_
            split
            · rename_i hes
              exact Or.inr ⟨rfl, hes.1⟩
            · exact Or.inl rfl
  | reportNiNotify notify data =>
      unfold procMsg requestNiNotify note
      dsimp only
      cases hclient : s.mClientData.any fun c => c.2 with
      | false => exact .dropped htask hqueue hclient
      | true =>
          rw [Bool.not_true, if_neg Bool.false_ne_true]
          cases hselect : s.niData.select notify with
          | none => exact .ignored htask hqueue hclient hselect
          | some slot => exact .accepted htask hqueue hclient hselect _

theorem proc_cases {s t : NiSystem} {threadCreated : Bool} (h : s.proc threadCreated = some t) :
    Move s (.proc threadCreated) t := by
  unfold proc at h
  split at h
  · rename_i htask
    split at h
    · cases h
    · rename_i msg rest hqueue
      cases h
      exact procMsg_cases threadCreated htask hqueue
  · rename_i id resp htask
    cases h
    refine .ignoreTest htask _ ?_
    split
    · exact Or.inr rfl
    · exact Or.inl rfl
  · rename_i id resp htask
    cases h
    exact .ignoreWrite htask
  · rename_i slot id resp htask
    cases h
    exact .respond htask

theorem thread_cases {s t : NiSystem} {i : Nat} {timedOut : Bool}
    (h : s.thread i timedOut = some t) : Move s (.thread i timedOut) t := by
  unfold thread at h
  cases hth : s.threads[i]? with
  | none =>
      rw [hth] at h
      cases h
  | some th =>
      rw [hth] at h
      dsimp only at h
      cases hpc : th.pc <;> cases timedOut <;> simp only [hpc] at h
      · split at h
        · rename_i hrecvd
          cases h
          exact .wakes hth (by rw [hpc]; exact trivial) hrecvd
        · cases h
          exact .waits hth hpc
      · cases h
      · split at h
        · rename_i hrecvd
          cases h
          exact .wakes hth (by rw [hpc]; exact trivial) hrecvd
        · cases h
          exact .spurious
      · cases h
        exact .timesOut hth hpc
      · cases h
        exact .resets hth hpc
      · cases h
      · cases h
        exact .sends hth hpc
      · cases h

/-- The cases of a step. -/
theorem step_cases {s t : NiSystem} {call : NiCall} (h : s.step call = some t) :
    Move s call t := by
  cases call with
  | clients mClientData =>
      cases h
      exact .clients mClientData
  | requestNiNotifyEvent notify nonNull =>
      cases h
      exact .event notify nonNull
  | gnssNiResponseCommand client id resp =>
      cases h
      exact .response client id resp
  | proc threadCreated => exact proc_cases h
  | thread i timedOut => exact thread_cases h

/-- What the message task takes and what it leaves is from the queue. -/
theorem mem_msgQueue {s : NiSystem} {msg : NiMsg} {rest : List NiMsg}
    (hqueue : s.msgQueue = msg :: rest) : msg ∈ s.msgQueue ∧ rest ⊆ s.msgQueue := by
  rw [hqueue]
  exact ⟨List.mem_cons_self, List.subset_cons_self msg rest⟩

end NiSystem

end LocHal.Gnss
