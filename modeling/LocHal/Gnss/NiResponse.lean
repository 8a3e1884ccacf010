import LocHal.Gnss.NiRequest

/-!
# `LocHal.Gnss.NiResponse`: the modem gets the answer of its own request

A response that the modem gets with a payload must be the one that a client gave for the `reqID`
of the payload, or no response after the thread of the payload timed out (`AnsweredOwn`).

The code reuses its sessions and does not always clear them, and a run can break this in three
ways:

* the client response is written after the thread has taken the request away. Then `respRecvd` and
  `resp` stay for the next request in the session;
* a thread of an old request clears `reqID` after the next request has got it. Then the response
  of a client for the id 0 is taken for that request;
* the thread of a request without a payload times out after the session has got the next request.

`AnswersOwn` excludes exactly these steps, and `answeredOwn_of_guarded` says that a run without them
is right. The invariant follows a response from the queue to the task, the session, the thread,
and the queue of the responses for the modem.

The steps are small, since the locks are: the message task takes a message, finds a session, and
writes the response under the lock of that session. The thread of a request waits, takes the
response and the payload under the lock, and then sends them. The model has a program counter for
each of them, and any thread may go next.

`AllOwn` is the invariant. A response that is on its way from a client carries the id that it was
given for, and `Own` says in each place what it must be the answer of: the message and the task name
the session by its id, the session holds the payload that the id was assigned to, and the thread
holds the payload with the response that it took. `takes_of_answersOwn` is where the condition is
used, at the step from the message to the session; the other two parts of it are used where a
session is written and where a thread times out.

The history of the run says which payload was assigned which id, which client gave which response,
and which thread timed out. It only grows, so what a response is an answer of stays true
(`Own.mono`).
-/

set_option autoImplicit false

namespace LocHal.Gnss

open LabelledRun

section Invariant

variable (h : List NiEvent)

/-- A client gave `resp` for the `reqID` of `payload`. -/
def Answered (resp : GnssNiResponse) (payload : Payload) : Prop :=
  ∃ id client, .assigned (some payload) id ∈ h ∧ .response client id resp ∈ h

/-- `resp` is an answer to the request with `payload`. -/
def OwnAnswer (resp : Option GnssNiResponse) (payload : Payload) : Prop :=
  (∃ r, resp = some r ∧ Answered h r payload) ∨
    resp = some .noResponse ∧ .timedOut (some payload) ∈ h

/-- What a thread or a message has to send. -/
def OwnSend (send : Option (Option GnssNiResponse × Payload)) : Prop :=
  ∀ r ∈ send, OwnAnswer h r.1 r.2

/-- A response in a session ignores the request or is for the request in the session. -/
def NiSession.Own (ns : NiSession) : Prop :=
  ns.respRecvd = true → ns.resp = some .ignore ∨
    ∃ p r, ns.rawRequest = some p ∧ ns.resp = some r ∧ Answered h r p

/-- The response `resp` for `id` can be written into a session. -/
def NiSession.Takes (ns : NiSession) (id : UInt32) (resp : GnssNiResponse) : Prop :=
  resp = .ignore ∨
    (∃ client, .response client id resp ∈ h) ∧
      ∀ p ∈ ns.rawRequest, .assigned (some p) id ∈ h

/-- What the message task goes on with is a response for its session. -/
def NiTask.Own (d : NiData) : NiTask → Prop
  | .idle => True
  | .ignoreTest id resp => d.sessionEs.Takes h id resp
  | .ignoreWrite id resp => d.sessionEs.Takes h id resp
  | .respond slot id resp => (d.get slot).Takes h id resp

def NiMsg.Own : NiMsg → Prop
  | .reportNiNotify _ _ => True
  | .gnssNiResponse client id resp => .response client id resp ∈ h
  | .informNiResponse resp payload => OwnAnswer h resp payload

def NiThreadPc.Own : NiThreadPc → Prop
  | .started => True
  | .waiting => True
  | .unlocked send => OwnSend h send
  | .reset send => OwnSend h send

/-- Where a response can be, each place with responses of the history `h` only. -/
structure NiSystem.Own (s : NiSystem) : Prop where
  niData : ∀ slot, (s.niData.get slot).Own h
  msgTask : s.msgTask.Own h s.niData
  msgQueue : ∀ msg ∈ s.msgQueue, msg.Own h
  threads : ∀ th ∈ s.threads, th.pc.Own h
  history : ∀ resp payload, .informed resp payload ∈ s.history → OwnAnswer h resp payload

end Invariant

/-! ### More history -/

section Mono

variable {h h' : List NiEvent} (hsub : h ⊆ h')

include hsub

theorem Answered.mono {resp : GnssNiResponse} {payload : Payload} (ha : Answered h resp payload) :
    Answered h' resp payload := by
  obtain ⟨id, client, hid, hresp⟩ := ha
  exact ⟨id, client, hsub hid, hsub hresp⟩

theorem OwnAnswer.mono {resp : Option GnssNiResponse} {payload : Payload}
    (ha : OwnAnswer h resp payload) : OwnAnswer h' resp payload := by
  rcases ha with ⟨r, hr, ha⟩ | ⟨hr, ht⟩
  · exact Or.inl ⟨r, hr, ha.mono hsub⟩
  · exact Or.inr ⟨hr, hsub ht⟩

theorem NiSession.Takes.mono {ns : NiSession} {id : UInt32} {resp : GnssNiResponse}
    (ht : ns.Takes h id resp) : ns.Takes h' id resp := by
  rcases ht with ht | ⟨⟨client, hresp⟩, hraw⟩
  · exact Or.inl ht
  · exact Or.inr ⟨⟨client, hsub hresp⟩, fun p hp => hsub (hraw p hp)⟩

theorem NiSystem.Own.mono {s : NiSystem} (ho : s.Own h) : s.Own h' where
  niData slot hrecvd := by
    rcases ho.niData slot hrecvd with hi | ⟨p, r, hraw, hresp, ha⟩
    · exact Or.inl hi
    · exact Or.inr ⟨p, r, hraw, hresp, ha.mono hsub⟩
  msgTask := by
    have ht := ho.msgTask
    cases hs : s.msgTask with
    | idle => exact trivial
    | ignoreTest id resp =>
        rw [hs] at ht
        exact NiSession.Takes.mono hsub ht
    | ignoreWrite id resp =>
        rw [hs] at ht
        exact NiSession.Takes.mono hsub ht
    | respond slot id resp =>
        rw [hs] at ht
        exact NiSession.Takes.mono hsub ht
  msgQueue msg hmsg := by
    have hm := ho.msgQueue msg hmsg
    cases msg with
    | reportNiNotify notify data => exact trivial
    | gnssNiResponse client id resp => exact hsub hm
    | informNiResponse resp payload => exact OwnAnswer.mono hsub hm
  threads th hth := by
    have ht := ho.threads th hth
    cases hpc : th.pc with
    | started => exact trivial
    | waiting => exact trivial
    | unlocked send =>
        rw [hpc] at ht
        exact fun r hr => (ht r hr).mono hsub
    | reset send =>
        rw [hpc] at ht
        exact fun r hr => (ht r hr).mono hsub
  history resp payload hi := (ho.history resp payload hi).mono hsub

end Mono

/-! ### The steps -/

section Steps

variable {h : List NiEvent} {s : NiSystem}

/-- The sessions stay right when one is set to a right one. -/
theorem NiSystem.Own.set (ho : s.Own h) (slot : NiSlot) {ns : NiSession} (hns : ns.Own h) :
    ∀ other, ((s.niData.set slot ns).get other).Own h :=
  NiData.forall_get_set hns ho.niData

/-- The task of the message task goes on when no session gets a request. -/
theorem NiTask.Own.of_raw {d d' : NiData} {task : NiTask} (ht : task.Own h d)
    (hraw : ∀ slot, ∀ p ∈ (d'.get slot).rawRequest, p ∈ (d.get slot).rawRequest) :
    task.Own h d' := by
  have hkeep : ∀ slot id resp, (d.get slot).Takes h id resp → (d'.get slot).Takes h id resp := by
    rintro slot id resp (hi | ⟨hresp, hassigned⟩)
    · exact Or.inl hi
    · exact Or.inr ⟨hresp, fun p hp => hassigned p (hraw slot p hp)⟩
  cases task with
  | idle => exact trivial
  | ignoreTest id resp => exact hkeep .sessionEs id resp ht
  | ignoreWrite id resp => exact hkeep .sessionEs id resp ht
  | respond slot id resp => exact hkeep slot id resp ht

/-- A session that is set keeps or loses its request. -/
theorem NiTask.Own.set {d : NiData} {task : NiTask} (ht : task.Own h d) (slot : NiSlot)
    {ns : NiSession} (hraw : ∀ p ∈ ns.rawRequest, p ∈ (d.get slot).rawRequest) :
    task.Own h (d.set slot ns) := by
  refine ht.of_raw fun other p hp => ?_
  by_cases heq : other = slot
  · subst heq
    rw [NiData.get_set_self] at hp
    exact hraw p hp
  · rwa [NiData.get_set_of_ne d heq] at hp

/-- A thread takes its session and has what `toSend` says to send. -/
theorem NiSystem.Own.finish (ho : s.Own h) (i : Nat) (th : NiThread) {ns : NiSession}
    (hsend : OwnSend h ns.toSend) : (s.finish i th ns).Own h where
  niData := ho.set th.slot fun hrecvd => Bool.noConfusion hrecvd
  msgTask := ho.msgTask.set th.slot fun p hp => by cases hp
  msgQueue := ho.msgQueue
  threads := forall_mem_set hsend ho.threads
  history resp payload hi := by
    refine ho.history resp payload ?_
    have hfree : .informed resp payload ∉ (ns.toFree.map NiEvent.freed).toList := by
      cases ns.toFree <;> simp
    exact (List.mem_append.mp hi).resolve_right hfree

/-- A thread that sees a response sends the one of its session. -/
theorem NiSession.Own.toSend {ns : NiSession} (hns : ns.Own h) (hrecvd : ns.respRecvd = true) :
    OwnSend h ns.toSend := by
  rintro ⟨resp, payload⟩ hr
  unfold NiSession.toSend at hr
  -- an `ignore` is freed and not sent
  rcases hns hrecvd with hi | ⟨p, r, hraw, hresp, ha⟩
  · rw [hi] at hr
    cases hraw : ns.rawRequest <;> simp [hraw] at hr
  · rw [hraw, hresp] at hr
    dsimp only at hr
    split at hr
    · cases hr
      exact Or.inl ⟨r, rfl, ha⟩
    · cases hr

/-- A thread that times out sends no response, for its own request. -/
theorem ownSend_timedOut {ns : NiSession} {own : Option Payload} (ht : .timedOut own ∈ h)
    (hown : ∀ p ∈ ns.rawRequest, own = some p) :
    OwnSend h ({ ns with resp := some .noResponse } : NiSession).toSend := by
  rintro ⟨resp, payload⟩ hr
  unfold NiSession.toSend at hr
  cases hraw : ns.rawRequest with
  | none =>
      rw [hraw] at hr
      cases hr
  | some p =>
      rw [hraw] at hr
      cases hr
      rw [hown payload hraw] at ht
      exact Or.inr ⟨rfl, ht⟩

/-- A response that a session takes is right in it, when it still has a request. -/
theorem NiSession.Takes.respond {ns : NiSession} {id : UInt32} {resp : GnssNiResponse}
    (ht : ns.Takes h id resp) (hraw : resp = .ignore ∨ ns.rawRequest ≠ none) :
    (ns.respond resp).Own h := by
  intro _
  rcases ht with hi | ⟨⟨client, hresp⟩, hassigned⟩
  · exact Or.inl (congrArg some hi)
  · rcases hraw with hi | hraw
    · exact Or.inl (congrArg some hi)
    · obtain ⟨p, hp⟩ := Option.ne_none_iff_exists'.mp hraw
      exact Or.inr ⟨p, resp, hp, rfl, id, client, hassigned p hp, hresp⟩

/-- A session without a request is right for the next one. -/
theorem NiSession.Own.request {ns : NiSession} (hns : ns.Own h) (hfree : ns.rawRequest = none)
    (data : Option Payload) (reqID left : UInt32) :
    ({ ns with rawRequest := data, reqID := reqID, respTimeLeft := left } : NiSession).Own h := by
  intro hrecvd
  rcases hns hrecvd with hi | ⟨p, r, hraw, -⟩
  · exact Or.inl hi
  · rw [hfree] at hraw
    cases hraw

end Steps

namespace NiSystem

/-- The step takes no response over to another request: the client response that is taken is for
a session under the `reqID` of its payload, a session that is written still has a request, and a
thread that times out finds its own request. An `ignore` is not sent, so it can go anywhere. -/
def AnswersOwn (s : NiSystem) : NiCall → Prop
  | .proc _ =>
      match s.msgTask, s.msgQueue with
      | .idle, .gnssNiResponse client id resp :: _ =>
          resp = .ignore ∨ s.hasNiNotifyCallback client = false ∨
            ∀ slot ∈ s.niData.find id, ∀ p ∈ (s.niData.get slot).rawRequest,
              .assigned (some p) id ∈ s.history
      | .respond slot _ resp, _ => resp = .ignore ∨ (s.niData.get slot).rawRequest ≠ none
      | _, _ => True
  | .thread i true =>
      ∀ th ∈ s.threads[i]?, th.pc = .waiting →
        ∀ p ∈ (s.niData.get th.slot).rawRequest, th.own = some p
  | _ => True

instance : ∀ (s : NiSystem) (call : NiCall), Decidable (s.AnswersOwn call)
  | s, .proc _ =>
      match ht : s.msgTask, hq : s.msgQueue with
      | .idle, .gnssNiResponse client id resp :: _ =>
          decidable_of_iff (resp = .ignore ∨ s.hasNiNotifyCallback client = false ∨
            ∀ slot ∈ s.niData.find id, ∀ p ∈ (s.niData.get slot).rawRequest,
              .assigned (some p) id ∈ s.history) (by simp only [AnswersOwn, ht, hq])
      | .respond slot _ resp, _ =>
          decidable_of_iff (resp = .ignore ∨ (s.niData.get slot).rawRequest ≠ none)
            (by simp only [AnswersOwn, ht])
      | .idle, [] => isTrue (by simp only [AnswersOwn, ht, hq])
      | .idle, .reportNiNotify _ _ :: _ => isTrue (by simp only [AnswersOwn, ht, hq])
      | .idle, .informNiResponse _ _ :: _ => isTrue (by simp only [AnswersOwn, ht, hq])
      | .ignoreTest _ _, _ => isTrue (by simp only [AnswersOwn, ht])
      | .ignoreWrite _ _, _ => isTrue (by simp only [AnswersOwn, ht])
  | s, .thread i true =>
      inferInstanceAs (Decidable (∀ th ∈ s.threads[i]?, th.pc = .waiting →
        ∀ p ∈ (s.niData.get th.slot).rawRequest, th.own = some p))
  | _, .thread _ false => isTrue trivial
  | _, .clients _ => isTrue trivial
  | _, .requestNiNotifyEvent _ _ => isTrue trivial
  | _, .gnssNiResponseCommand _ _ _ => isTrue trivial

/-- What the adapter is right about when all its responses are from its own history. -/
def AllOwn (s : NiSystem) : Prop := s.Own s.history

/-- A response that the message task takes fits the session that it is for. -/
theorem takes_of_answersOwn {s : NiSystem} {threadCreated : Bool} {client : NiClient} {id : UInt32}
    {resp : GnssNiResponse} {rest : List NiMsg} {slot : NiSlot}
    (hok : s.AnswersOwn (.proc threadCreated)) (htask : s.msgTask = .idle)
    (hqueue : s.msgQueue = .gnssNiResponse client id resp :: rest)
    (hclient : s.hasNiNotifyCallback client = true) (hfind : s.niData.find id = some slot)
    (hresp : .response client id resp ∈ s.history) :
    (s.niData.get slot).Takes s.history id resp := by
  simp only [AnswersOwn, htask, hqueue] at hok
  rcases hok with hi | hnone | hassigned
  · exact Or.inl hi
  · rw [hclient] at hnone
    cases hnone
  · exact Or.inr ⟨⟨client, hresp⟩, hassigned slot hfind⟩

/-- The adapter stays right when it takes messages and notes what happened, as long as the
responses for the modem in the note are answers. -/
theorem AllOwn.note {s : NiSystem} (ho : s.AllOwn) {queue : List NiMsg} {l : List NiEvent}
    (hqueue : queue ⊆ s.msgQueue)
    (hl : ∀ resp payload, .informed resp payload ∈ l →
      OwnAnswer (s.history ++ l) resp payload) :
    AllOwn { s with msgQueue := queue, history := s.history ++ l } := by
  have hgrow : s.Own (s.history ++ l) := NiSystem.Own.mono (List.subset_append_left _ l) ho
  refine { hgrow with
    msgQueue := fun msg hmsg => hgrow.msgQueue msg (hqueue hmsg)
    history := fun resp payload hi => ?_ }
  rcases List.mem_append.mp hi with hi | hi
  · exact hgrow.history resp payload hi
  · exact hl resp payload hi

/-- The adapter stays right over the locked section of a thread. -/
theorem AllOwn.finish {s : NiSystem} (ho : s.AllOwn) (i : Nat) (th : NiThread) {ns : NiSession}
    (hsend : OwnSend s.history ns.toSend) : (s.finish i th ns).AllOwn := by
  have hsub : s.history ⊆ (s.finish i th ns).history := List.subset_append_left _ _
  exact NiSystem.Own.finish (NiSystem.Own.mono hsub ho) i th fun r hr => (hsend r hr).mono hsub

/-- The message task keeps the responses right. -/
theorem AllOwn.proc {s t : NiSystem} {threadCreated : Bool} (ho : s.AllOwn)
    (hok : s.AnswersOwn (.proc threadCreated)) (hproc : s.proc threadCreated = some t) :
    t.AllOwn := by
  cases proc_cases hproc with
  | @dropped notify data rest threadCreated htask hqueue hclient =>
      exact ho.note (mem_msgQueue hqueue).2 (by cases data <;> simp)
  | @ignored notify data rest threadCreated htask hqueue hclient hselect =>
      exact (ho.note (mem_msgQueue hqueue).2 (by cases data <;> simp)).note (List.Subset.refl _)
        (by cases data <;> simp)
  | @accepted notify data rest threadCreated slot htask hqueue hclient hselect left =>
      have hnote := (ho.note (l := (data.map NiEvent.handed).toList) (mem_msgQueue hqueue).2
        (by cases data <;> simp)).note
          (l := [.assigned data (s.niData.reqIDCounter + 1)]) (List.Subset.refl _) (by simp)
      refine { hnote with
        niData := NiData.forall_get_set ?_ fun other => ?_
        msgTask := ?_
        threads := List.forall_mem_append.mpr ⟨hnote.threads, fun th hth => ?_⟩ }
      -- what is in the session from before ignores the request or is for none
      · exact (hnote.niData slot).request (NiData.rawRequest_of_select hselect) _ _ _
      · rw [NiData.get_reqIDCounter]
        exact hnote.niData other
      · rw [htask]
        exact trivial
      · split at hth
        · cases List.mem_singleton.mp hth
          exact trivial
        · cases hth
  | rejected htask hqueue =>
      exact { ho with msgQueue := fun msg hm => ho.msgQueue msg ((mem_msgQueue hqueue).2 hm) }
  | @found client id resp rest threadCreated slot htask hqueue hclient hfind task hnext =>
      have htakes := takes_of_answersOwn hok htask hqueue hclient hfind
        (ho.msgQueue _ (mem_msgQueue hqueue).1)
      refine { ho with
        msgTask := ?_
        msgQueue := fun msg hm => ho.msgQueue msg ((mem_msgQueue hqueue).2 hm) }
      rcases hnext with rfl | ⟨rfl, rfl⟩
      · exact htakes
      · exact htakes
  | @informed resp payload rest threadCreated htask hqueue =>
      refine ho.note (mem_msgQueue hqueue).2 fun resp' payload' hi => ?_
      cases List.mem_singleton.mp hi
      exact OwnAnswer.mono (List.subset_append_left _ _) (ho.msgQueue _ (mem_msgQueue hqueue).1)
  | ignoreTest htask task hnext =>
      have htakes := ho.msgTask
      rw [htask] at htakes
      refine { ho with msgTask := ?_ }
      rcases hnext with rfl | rfl
      · exact htakes
      · exact htakes
  | ignoreWrite htask =>
      have htakes := ho.msgTask
      rw [htask] at htakes
      exact { ho with
        niData := ho.set .session fun _ => Or.inl rfl
        msgTask := htakes }
  | @respond slot id resp threadCreated htask =>
      have htakes := ho.msgTask
      rw [htask] at htakes
      simp only [AnswersOwn, htask] at hok
      exact { ho with
        niData := ho.set slot (htakes.respond hok)
        msgTask := trivial }

/-- A thread keeps the responses right. -/
theorem AllOwn.thread {s t : NiSystem} {i : Nat} {timedOut : Bool} (ho : s.AllOwn)
    (hok : s.AnswersOwn (.thread i timedOut)) (hthread : s.thread i timedOut = some t) :
    t.AllOwn := by
  cases thread_cases hthread with
  | @waits i th hth hpc =>
      exact { ho with threads := forall_mem_set trivial ho.threads }
  | spurious => exact ho
  | @wakes i th hth hpc hrecvd => exact ho.finish i th ((ho.niData th.slot).toSend hrecvd)
  | @timesOut i th hth hpc =>
      have hnote := ho.note (l := [.timedOut th.own]) (List.Subset.refl _) (by simp)
      exact hnote.finish i th (ownSend_timedOut
        (List.mem_append_right _ (List.mem_singleton_self _)) (hok th hth hpc))
  | @resets i th send hth hpc =>
      have hsend := ho.threads th (List.mem_of_getElem? hth)
      rw [hpc] at hsend
      exact { ho with
        niData := ho.set th.slot (ho.niData th.slot)
        msgTask := ho.msgTask.set th.slot fun p hp => hp
        threads := forall_mem_set hsend ho.threads }
  | @sends i th send hth hpc =>
      have hsend := ho.threads th (List.mem_of_getElem? hth)
      rw [hpc] at hsend
      refine { ho with
        msgQueue := List.forall_mem_append.mpr ⟨ho.msgQueue, fun msg hm => ?_⟩
        threads := fun th' hth' => ho.threads th' (List.mem_of_mem_eraseIdx hth') }
      obtain ⟨r, hr, rfl⟩ := Option.map_eq_some_iff.mp (Option.mem_toList.mp hm)
      exact hsend r hr

/-- A step that answers its own request keeps the responses right. -/
theorem AllOwn.step {s t : NiSystem} {call : NiCall} (ho : s.AllOwn) (hok : s.AnswersOwn call)
    (hstep : s.step call = some t) : t.AllOwn := by
  cases call with
  | clients mClientData =>
      cases hstep
      exact { ho with }
  | requestNiNotifyEvent notify nonNull =>
      cases hstep
      have hnew : (NiMsg.reportNiNotify notify (if nonNull then some s.nextPayload else none)).Own
          s.history := trivial
      exact { ho with
        msgQueue := List.forall_mem_append.mpr ⟨ho.msgQueue, List.forall_mem_singleton.mpr hnew⟩ }
  | gnssNiResponseCommand client id resp =>
      cases hstep
      have hnote := ho.note (l := [.response client id resp]) (List.Subset.refl _) (by simp)
      have hnew : (NiMsg.gnssNiResponse client id resp).Own
          (s.history ++ [.response client id resp]) :=
        List.mem_append_right _ (List.mem_singleton_self _)
      exact { hnote with
        msgQueue := List.forall_mem_append.mpr
          ⟨hnote.msgQueue, List.forall_mem_singleton.mpr hnew⟩ }
  | proc threadCreated => exact ho.proc hok hstep
  | thread i timedOut => exact ho.thread hok hstep

theorem allOwn_init : init.AllOwn where
  niData slot hrecvd := by cases slot <;> cases hrecvd
  msgTask := trivial
  msgQueue msg hmsg := by cases hmsg
  threads th hth := by cases hth
  history resp payload hi := by cases hi

/-! ### Runs -/

/-- The modem got nothing but answers of its own requests. The payload that goes to the modem with
an answer names the request that is answered, and the answer must be the one that the user gave to
that request, or the default of its time-out. -/
def AnsweredOwn (s : NiSystem) : Prop :=
  ∀ resp payload, .informed resp payload ∈ s.history → OwnAnswer s.history resp payload

/-- When no step takes a response over to another request, the modem gets answers of its own
requests only.

A session object is used for one request after the other. A response is tested before the lock is
taken, and the flag of a response is not cleared when the next request is saved. The condition is on
the three steps that can meet a session with another request in it. -/
theorem answeredOwn_of_guarded (calls : List NiCall)
    (hok : Guarded step AnswersOwn init calls) : Along step AnsweredOwn init calls :=
  Guarded.along (I := AllOwn) (fun _ ho => ho.history)
    (fun _ _ _ ho hok hstep => ho.step hok hstep) calls init allOwn_init hok

/-- A request that a client accepts. -/
theorem answeredOwn_of_accept :
    Along step AnsweredOwn init
      [.clients [(0, true)], .requestNiNotifyEvent ⟨.supl, 0⟩ true, .proc true, .thread 0 false,
        .gnssNiResponseCommand 0 1 .accept, .proc true, .proc true, .thread 0 false,
        .thread 0 false, .thread 0 false, .proc true] :=
  answeredOwn_of_guarded _ (by decide)

/-- A client accepts the request 1, and the thread of that request times out between the test of
the response and its write. The client never answers the request 2. -/
def acceptLate : List NiCall :=
  [.clients [(0, true)],
    .requestNiNotifyEvent ⟨.supl, 0⟩ true, .proc true, .thread 0 false,
    .gnssNiResponseCommand 0 1 .accept, .proc true, .thread 0 true, .proc true,
    .thread 0 false, .thread 0 false, .proc true,
    .requestNiNotifyEvent ⟨.supl, 0⟩ true, .proc true, .thread 0 false, .thread 0 false,
    .thread 0 false, .proc true]

/-- The modem gets an `accept` for the second request. -/
theorem acceptLate_answersNext : ¬ Along step AnsweredOwn init acceptLate := by
  intro h
  obtain ⟨t, ht, hhistory⟩ : ∃ t, run step init acceptLate = some t ∧ t.history =
      [.handed 0, .assigned (some 0) 1, .response 0 1 .accept, .timedOut (some 0),
        .informed (some .noResponse) 0, .handed 1, .assigned (some 1) 2,
        .informed (some .accept) 1] := ⟨_, rfl, rfl⟩
  have hlast := h.last ht
  unfold AnsweredOwn at hlast
  rw [hhistory] at hlast
  obtain ⟨r, hr, id, client, hid, hresp⟩ | ⟨hr, -⟩ := hlast (some .accept) 1 (by decide)
  · have hid' : id = 2 := by simpa using hid
    subst hid'
    simp at hresp
  · cases hr

end NiSystem

end LocHal.Gnss
