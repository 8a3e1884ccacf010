import LocHal.Gnss.NiRequest

/-!
# `LocHal.Gnss.NiPayload`: the payload of a request is consumed once

A payload is in a message, in a session, with a thread that is about to send it, or it was freed or
given to the modem, which frees it. `NiSystem.payloads` lists the payloads of all these places. Its
steps move payloads from place to place, and only `requestNiNotify` can lose one:

* without a client that has a `gnssNiCb` it returns early and does not free the payload;
* when `pthread_create` fails it goes on, and no thread takes the payload out of the session again.
  A thread that an earlier request without a payload left in the session would do so.

`KeepsPayload` excludes these two, and `consumed_iff_guarded` says that it is the exact condition: a
run that comes to rest has consumed each payload once, with both sessions free, if and only if all
its steps meet it. A run is either in `Kept` or has a `Lost` payload, and what is lost stays lost.

The proof counts. `count_payloads_step` says that a step under the condition has as many copies of
each payload in all the places together as before, and one more of the payload that a message
brings. So in `Kept` each payload that was handed over has one copy, and in a state at rest this
copy is in the history: it was freed or it was given to the modem (`Kept.consumed`).

`Lost` is the state of a payload that was handed over and has no copy left, or has one in a session
that no thread will look at any more. Each step keeps it (`Lost.step`), and a state at rest with a
lost payload has not consumed it (`Lost.not_consumed`). `Kept.lost` connects the two: a step against
the condition loses the payload of its message.
-/

set_option autoImplicit false

namespace LocHal.Gnss

open LabelledRun

/-! ### The places -/

/-- The payload in a message. -/
def NiMsg.payloads : NiMsg → List Payload
  | .reportNiNotify _ data => data.toList
  | .gnssNiResponse _ _ _ => []
  | .informNiResponse _ payload => [payload]

/-- The payload that a thread has to send. -/
def NiThreadPc.payloads : NiThreadPc → List Payload
  | .started => []
  | .waiting => []
  | .unlocked send => (send.map Prod.snd).toList
  | .reset send => (send.map Prod.snd).toList

def NiThread.payloads (th : NiThread) : List Payload := th.pc.payloads

def NiSession.payloads (ns : NiSession) : List Payload := ns.rawRequest.toList

def NiData.payloads (d : NiData) : List Payload := d.session.payloads ++ d.sessionEs.payloads

/-- The payload that was freed, or given to the modem. -/
def NiEvent.payloads : NiEvent → List Payload
  | .freed payload => [payload]
  | .informed _ payload => [payload]
  | .handed _ => []
  | .assigned _ _ => []
  | .response _ _ _ => []
  | .timedOut _ => []

/-- A thread that will still take the request out of the session `slot`. -/
def Runs (threads : List NiThread) (slot : NiSlot) : Prop :=
  ∃ th ∈ threads, th.slot = slot ∧ th.pc.Running

/-! ### The threads of a session -/

section Runs

variable {threads : List NiThread} {slot : NiSlot} {i : Nat} {th th' : NiThread}

/-- A thread that is replaced by one that runs as well. -/
theorem Runs.set (hr : Runs threads slot) (hth : threads[i]? = some th)
    (hslot : th'.slot = th.slot) (hpc : th.pc.Running → th'.pc.Running) :
    Runs (threads.set i th') slot := by
  obtain ⟨x, hx, hxslot, hxpc⟩ := hr
  obtain ⟨j, hj⟩ := List.mem_iff_getElem?.mp hx
  by_cases hij : i = j
  · subst hij
    cases hth.symm.trans hj
    refine ⟨th', ?_, hslot.trans hxslot, hpc hxpc⟩
    exact List.mem_set (List.getElem?_eq_some_iff.mp hth).1 th'
  · refine ⟨x, ?_, hxslot, hxpc⟩
    exact List.mem_of_getElem? ((List.getElem?_set_ne hij).trans hj)

/-- A thread of another session is replaced. -/
theorem Runs.set_of_ne (hr : Runs threads slot) (hth : threads[i]? = some th)
    (hslot : slot ≠ th.slot) : Runs (threads.set i th') slot := by
  obtain ⟨x, hx, hxslot, hxpc⟩ := hr
  obtain ⟨j, hj⟩ := List.mem_iff_getElem?.mp hx
  have hij : i ≠ j := by
    rintro rfl
    cases hth.symm.trans hj
    exact hslot hxslot.symm
  exact ⟨x, List.mem_of_getElem? ((List.getElem?_set_ne hij).trans hj), hxslot, hxpc⟩

/-- A thread that runs after a replacement ran before. -/
theorem Runs.of_set (hr : Runs (threads.set i th') slot) (hth : threads[i]? = some th)
    (hslot : th'.slot = th.slot) (hpc : th'.pc.Running → th.pc.Running) : Runs threads slot := by
  obtain ⟨x, hx, hxslot, hxpc⟩ := hr
  rcases List.mem_or_eq_of_mem_set hx with hx | rfl
  · exact ⟨x, hx, hxslot, hxpc⟩
  · exact ⟨th, List.mem_of_getElem? hth, hslot.symm.trans hxslot, hpc hxpc⟩

/-- More threads are started. -/
theorem Runs.append_left (hr : Runs threads slot) (l : List NiThread) :
    Runs (threads ++ l) slot := by
  obtain ⟨x, hx, hx'⟩ := hr
  exact ⟨x, List.mem_append_left l hx, hx'⟩

/-- A thread that is past its locked section ends. -/
theorem Runs.eraseIdx (hr : Runs threads slot) (hth : threads[i]? = some th)
    (hpc : ¬ th.pc.Running) : Runs (threads.eraseIdx i) slot := by
  obtain ⟨x, hx, hxslot, hxpc⟩ := hr
  obtain ⟨j, hj⟩ := List.mem_iff_getElem?.mp hx
  refine ⟨x, List.mem_eraseIdx_iff_getElem?.mpr ⟨j, ?_, hj⟩, hxslot, hxpc⟩
  rintro rfl
  cases hth.symm.trans hj
  exact hpc hxpc

end Runs

/-! ### Counting over a list -/

section Count

variable {α : Type} (f : α → List Payload) (p : Payload)

/-- An element of a list is replaced. -/
theorem count_flatMap_set {l : List α} {i : Nat} {x : α} (y : α) (h : l[i]? = some x) :
    ((l.set i y).flatMap f).count p + (f x).count p = (l.flatMap f).count p + (f y).count p := by
  induction l generalizing i with
  | nil => cases h
  | cons a l ih =>
      cases i with
      | zero =>
          cases h
          simp only [List.set_cons_zero, List.flatMap_cons, List.count_append]
          omega
      | succ i =>
          have hl := ih (i := i) h
          simp only [List.set_cons_succ, List.flatMap_cons, List.count_append]
          omega

/-- An element of a list is removed. -/
theorem count_flatMap_eraseIdx {l : List α} {i : Nat} {x : α} (h : l[i]? = some x) :
    ((l.eraseIdx i).flatMap f).count p + (f x).count p = (l.flatMap f).count p := by
  induction l generalizing i with
  | nil => cases h
  | cons a l ih =>
      cases i with
      | zero =>
          cases h
          simp only [List.eraseIdx_cons_zero, List.flatMap_cons, List.count_append]
          omega
      | succ i =>
          have hl := ih (i := i) h
          simp only [List.eraseIdx_cons_succ, List.flatMap_cons, List.count_append]
          omega

end Count

/-- A session is replaced. -/
theorem NiData.count_payloads_set (d : NiData) (slot : NiSlot) (ns : NiSession) (p : Payload) :
    (d.set slot ns).payloads.count p + (d.get slot).payloads.count p =
      d.payloads.count p + ns.payloads.count p := by
  cases slot <;> simp only [payloads, set, get, List.count_append] <;> omega

/-- The requests of the sessions when one session is changed and keeps its own. -/
theorem NiData.rawRequest_set (d : NiData) (slot : NiSlot) (ns : NiSession)
    (h : ns.rawRequest = (d.get slot).rawRequest) (other : NiSlot) :
    ((d.set slot ns).get other).rawRequest = (d.get other).rawRequest := by
  by_cases heq : other = slot
  · subst heq
    rw [get_set_self, h]
  · rw [get_set_of_ne d heq]

theorem NiData.rawRequest_respond (d : NiData) (slot : NiSlot) (resp : GnssNiResponse)
    (other : NiSlot) : ((d.set slot ((d.get slot).respond resp)).get other).rawRequest =
      (d.get other).rawRequest :=
  d.rawRequest_set slot ((d.get slot).respond resp) rfl other

theorem NiData.rawRequest_reset (d : NiData) (slot other : NiSlot) :
    ((d.set slot { d.get slot with respTimeLeft := 0, reqID := 0 }).get other).rawRequest =
      (d.get other).rawRequest :=
  d.rawRequest_set slot { d.get slot with respTimeLeft := 0, reqID := 0 } rfl other

/-- A session is changed and keeps its request. -/
theorem NiData.payloads_set (d : NiData) (slot : NiSlot) (ns : NiSession)
    (h : ns.rawRequest = (d.get slot).rawRequest) : (d.set slot ns).payloads = d.payloads := by
  have hns : ns.payloads = (d.get slot).payloads := congrArg Option.toList h
  cases slot <;> simp only [payloads, set, hns, get]

/-- A session without a request gets one. -/
theorem NiData.count_payloads_request {d : NiData} {slot : NiSlot}
    (h : (d.get slot).rawRequest = none) (counter : UInt32) (ns : NiSession) (p : Payload) :
    ({ d with reqIDCounter := counter }.set slot ns).payloads.count p =
      d.payloads.count p + ns.payloads.count p := by
  have hset := NiData.count_payloads_set { d with reqIDCounter := counter } slot ns p
  have hfree : (d.get slot).payloads = [] := congrArg Option.toList h
  rw [get_reqIDCounter, hfree, List.count_nil] at hset
  exact hset

/-- The locked section of a thread sends the request or frees it. -/
theorem NiSession.count_payloads_split (ns : NiSession) (p : Payload) :
    (ns.toSend.map Prod.snd).toList.count p + (ns.toFree.toList).count p = ns.payloads.count p := by
  unfold toSend toFree payloads
  cases ns.rawRequest with
  | none => rfl
  | some raw =>
      dsimp only
      split
      · simp
      · simp

namespace NiSystem

/-- The payloads at all the places. -/
def payloads (s : NiSystem) : List Payload :=
  s.msgQueue.flatMap NiMsg.payloads ++ s.niData.payloads ++
    s.threads.flatMap NiThread.payloads ++ s.history.flatMap NiEvent.payloads

/-- How often the payload is at one of the places. -/
theorem count_payloads (s : NiSystem) (p : Payload) :
    s.payloads.count p = (s.msgQueue.flatMap NiMsg.payloads).count p + s.niData.payloads.count p +
      (s.threads.flatMap NiThread.payloads).count p +
      (s.history.flatMap NiEvent.payloads).count p := by
  unfold payloads
  rw [List.count_append, List.count_append, List.count_append]

/-- The step loses no payload. A request with a payload finds a client with a callback, since
without one `requestNiNotify` returns without a look at the payload. And when it gets a session, a
thread will take it out again: `pthread_create` succeeds, or the thread of the session before still
runs. -/
def KeepsPayload (s : NiSystem) : NiCall → Prop
  | .proc threadCreated =>
      match s.msgTask, s.msgQueue with
      | .idle, .reportNiNotify notify (some _) :: _ =>
          (s.mClientData.any fun c => c.2) = true ∧
            ∀ slot ∈ s.niData.select notify, threadCreated = true ∨ Runs s.threads slot
      | _, _ => True
  | _ => True

/-- Every payload of a request so far is at exactly one place, and what is in a session will be
taken out by a thread. -/
structure Kept (s : NiSystem) : Prop where
  once : ∀ p, s.payloads.count p = (List.range s.nextPayload).count p
  handed : ∀ p, .handed p ∈ s.history → p < s.nextPayload
  running : ∀ slot, (s.niData.get slot).rawRequest ≠ none → Runs s.threads slot

/-! ### The steps that keep the payloads -/

/-- The locked section of a thread clears the request of its session. -/
theorem rawRequest_finish (s : NiSystem) (i : Nat) (th : NiThread) (ns : NiSession)
    (slot : NiSlot) : ((s.finish i th ns).niData.get slot).rawRequest =
      if slot = th.slot then none else (s.niData.get slot).rawRequest := by
  unfold finish
  by_cases heq : slot = th.slot
  · subst heq
    rw [NiData.get_set_self, if_pos rfl]
    rfl
  · rw [NiData.get_set_of_ne _ heq, if_neg heq]

/-- The locked section of a thread leaves the thread of the other session. -/
theorem running_finish {s : NiSystem} {i : Nat} {th : NiThread} {ns : NiSession}
    (hr : ∀ slot, (s.niData.get slot).rawRequest ≠ none → Runs s.threads slot)
    (hth : s.threads[i]? = some th) (slot : NiSlot)
    (hraw : ((s.finish i th ns).niData.get slot).rawRequest ≠ none) :
    Runs (s.finish i th ns).threads slot := by
  rw [rawRequest_finish] at hraw
  split at hraw
  · exact absurd rfl hraw
  · rename_i hne
    exact (hr slot hraw).set_of_ne hth hne

/-- The locked section of a thread moves the payload of its session. -/
theorem count_payloads_finish {s : NiSystem} {i : Nat} {th : NiThread} (ns : NiSession)
    (hth : s.threads[i]? = some th) (hpc : th.pc.Running)
    (hraw : ns.rawRequest = (s.niData.get th.slot).rawRequest) (p : Payload) :
    (s.finish i th ns).payloads.count p = s.payloads.count p := by
  have hset := s.niData.count_payloads_set th.slot ns.consume p
  have hthreads := count_flatMap_set NiThread.payloads p { th with pc := .unlocked ns.toSend } hth
  have hsplit := ns.count_payloads_split p
  have hns : ns.payloads = (s.niData.get th.slot).payloads := congrArg Option.toList hraw
  have hnone : th.payloads = [] := by
    unfold NiThread.payloads
    cases hth : th.pc with
    | started => rfl
    | waiting => rfl
    | unlocked send => rw [hth] at hpc; exact hpc.elim
    | reset send => rw [hth] at hpc; exact hpc.elim
  have hsend : NiThread.payloads { th with pc := .unlocked ns.toSend } =
      (ns.toSend.map Prod.snd).toList := rfl
  have hfree : ((ns.toFree.map NiEvent.freed).toList.flatMap NiEvent.payloads) =
      ns.toFree.toList := by
    cases ns.toFree <;> rfl
  have hconsume : ns.consume.payloads = [] := rfl
  rw [hnone, hsend, List.count_nil] at hthreads
  rw [hconsume, List.count_nil, ← hns] at hset
  rw [count_payloads, count_payloads]
  unfold finish
  simp only [List.flatMap_append, List.count_append, hfree]
  omega

/-- The message task moves payloads when it loses none. -/
theorem count_payloads_proc {s t : NiSystem} {threadCreated : Bool}
    (hok : s.KeepsPayload (.proc threadCreated)) (hproc : s.proc threadCreated = some t)
    (p : Payload) : t.payloads.count p = s.payloads.count p := by
  cases proc_cases hproc with
  | @dropped notify data rest threadCreated htask hqueue hclient =>
      cases data with
      | none => simp [count_payloads, hqueue, NiMsg.payloads]
      | some q =>
          simp only [KeepsPayload, htask, hqueue, hclient] at hok
          exact absurd hok.1 Bool.false_ne_true
  | @ignored notify data rest threadCreated htask hqueue hclient hselect =>
      cases data with
      | none => simp [count_payloads, hqueue, NiMsg.payloads]
      | some q =>
          simp only [count_payloads, hqueue, List.flatMap_cons, List.flatMap_append,
            List.count_append, NiMsg.payloads, NiEvent.payloads, Option.map_some,
            Option.toList_some, List.flatMap_nil, List.count_nil]
          omega
  | @accepted notify data rest threadCreated slot htask hqueue hclient hselect left =>
      have hfree := NiData.rawRequest_of_select hselect
      have hnew : ((if threadCreated then [⟨slot, data, .started⟩] else []).flatMap
          NiThread.payloads).count p = 0 := by
        cases threadCreated <;> rfl
      have hhanded : ((data.map NiEvent.handed).toList.flatMap NiEvent.payloads).count p = 0 := by
        cases data <;> rfl
      -- the session was free, so nothing is overwritten
      simp only [count_payloads, hqueue, List.flatMap_cons, List.flatMap_append,
        List.count_append, hnew, hhanded, NiData.count_payloads_request hfree]
      simp only [NiMsg.payloads, NiSession.payloads, NiEvent.payloads, List.flatMap_nil,
        List.count_nil]
      omega
  | rejected htask hqueue => simp [count_payloads, hqueue, NiMsg.payloads]
  | found htask hqueue hclient hfind task hnext =>
      simp [count_payloads, hqueue, NiMsg.payloads]
  | @informed resp payload rest threadCreated htask hqueue =>
      simp only [count_payloads, hqueue, List.flatMap_cons, List.flatMap_append,
        List.count_append, NiMsg.payloads, NiEvent.payloads, List.flatMap_nil, List.count_nil]
      omega
  | ignoreTest htask task hnext => rfl
  | ignoreWrite htask => rfl
  | @respond slot id resp threadCreated htask =>
      have hdata := NiData.payloads_set s.niData slot
        ((s.niData.get slot).respond resp) rfl
      simp only [count_payloads, hdata]

/-- A thread moves payloads. -/
theorem count_payloads_thread {s t : NiSystem} {i : Nat} {timedOut : Bool}
    (hthread : s.thread i timedOut = some t) (p : Payload) :
    t.payloads.count p = s.payloads.count p := by
  cases thread_cases hthread with
  -- a waiting thread holds no payload yet
  | @waits i th hth hpc =>
      have hset := count_flatMap_set NiThread.payloads p { th with pc := .waiting } hth
      have hold : th.payloads = [] := by rw [NiThread.payloads, hpc]; rfl
      have hnew : NiThread.payloads { th with pc := .waiting } = [] := rfl
      rw [hold, hnew] at hset
      simp only [count_payloads]
      omega
  | spurious => rfl
  | @wakes i th hth hpc hrecvd =>
      exact count_payloads_finish _ hth hpc rfl p
  | @timesOut i th hth hpc =>
      have hrunning : th.pc.Running := by rw [hpc]; exact trivial
      have hnote := count_payloads_finish (s := s.note (some (.timedOut th.own)))
        { s.niData.get th.slot with resp := some .noResponse } hth hrunning rfl p
      rw [hnote]
      simp [count_payloads, note, NiEvent.payloads]
  | @resets i th send hth hpc =>
      have hset := count_flatMap_set NiThread.payloads p { th with pc := .reset send } hth
      have hsame : NiThread.payloads { th with pc := .reset send } = th.payloads := by
        unfold NiThread.payloads
        rw [hpc]
        rfl
      have hdata := NiData.payloads_set s.niData th.slot
        { s.niData.get th.slot with respTimeLeft := 0, reqID := 0 } rfl
      rw [hsame] at hset
      simp only [count_payloads, hdata]
      omega
  | @sends i th send hth hpc =>
      have herase := count_flatMap_eraseIdx NiThread.payloads p hth
      have hth' : th.payloads = (send.map Prod.snd).toList := by
        unfold NiThread.payloads
        rw [hpc]
        rfl
      -- the payload leaves the thread in its message
      have hmsg : ((send.map fun r => NiMsg.informNiResponse r.1 r.2).toList.flatMap
          NiMsg.payloads) = (send.map Prod.snd).toList := by
        cases send <;> rfl
      rw [hth'] at herase
      simp only [count_payloads, List.flatMap_append, List.count_append, hmsg]
      omega

/-- The payloads that were handed out, after a step of the message task or of a thread. -/
theorem nextPayload_of_proc {s t : NiSystem} {threadCreated : Bool}
    (hproc : s.proc threadCreated = some t) : t.nextPayload = s.nextPayload := by
  cases proc_cases hproc <;> rfl

theorem nextPayload_of_thread {s t : NiSystem} {i : Nat} {timedOut : Bool}
    (hthread : s.thread i timedOut = some t) : t.nextPayload = s.nextPayload := by
  cases thread_cases hthread <;> rfl

/-- A step that loses no payload moves payloads or hands out the next one. -/
theorem count_payloads_step {s t : NiSystem} {call : NiCall} (hok : s.KeepsPayload call)
    (hstep : s.step call = some t) (p : Payload) :
    t.payloads.count p + (List.range s.nextPayload).count p =
      s.payloads.count p + (List.range t.nextPayload).count p := by
  cases call with
  | clients mClientData =>
      cases hstep
      rfl
  | requestNiNotifyEvent notify nonNull =>
      cases hstep
      cases nonNull with
      | false => simp [count_payloads, NiMsg.payloads]
      | true =>
          simp only [count_payloads, if_true, List.flatMap_append, List.count_append,
            List.range_succ]
          simp only [List.flatMap_singleton, NiMsg.payloads, Option.toList_some]
          omega
  | gnssNiResponseCommand client id resp =>
      cases hstep
      simp [count_payloads, NiMsg.payloads, NiEvent.payloads]
  | proc threadCreated =>
      rw [count_payloads_proc hok hstep, nextPayload_of_proc hstep]
  | thread i timedOut =>
      rw [count_payloads_thread hstep, nextPayload_of_thread hstep]

/-! ### Runs that keep every payload -/

theorem Kept.lt_of_mem {s : NiSystem} (hk : s.Kept) {p : Payload} (hp : p ∈ s.payloads) :
    p < s.nextPayload := by
  rw [← List.count_pos_iff, hk.once p, List.count_pos_iff] at hp
  exact List.mem_range.mp hp

theorem nextPayload_le_step {s t : NiSystem} {call : NiCall} (hstep : s.step call = some t) :
    s.nextPayload ≤ t.nextPayload := by
  cases call with
  | clients mClientData =>
      cases hstep
      exact Nat.le_refl _
  | requestNiNotifyEvent notify nonNull =>
      cases hstep
      dsimp only
      split
      · exact Nat.le_succ _
      · exact Nat.le_refl _
  | gnssNiResponseCommand client id resp =>
      cases hstep
      exact Nat.le_refl _
  | proc threadCreated => exact Nat.le_of_eq (nextPayload_of_proc hstep).symm
  | thread i timedOut => exact Nat.le_of_eq (nextPayload_of_thread hstep).symm

/-- A payload that is handed to `requestNiNotify` comes from the queue. -/
theorem handed_step {s t : NiSystem} {call : NiCall} (hstep : s.step call = some t) {p : Payload}
    (hp : .handed p ∈ t.history) : .handed p ∈ s.history ∨ p ∈ s.payloads := by
  -- only a request adds such an entry, and its payload is in the message
  have hrequest : ∀ {notify data rest}, s.msgQueue = .reportNiNotify notify data :: rest →
      .handed p ∈ s.history ∨ data = some p → .handed p ∈ s.history ∨ p ∈ s.payloads := by
    rintro notify data rest hqueue (hold | rfl)
    · exact Or.inl hold
    · exact Or.inr (by simp [payloads, hqueue, NiMsg.payloads])
  cases step_cases hstep with
  | response client id resp => exact Or.inl (by simpa using hp)
  | @dropped notify data rest threadCreated htask hqueue hclient =>
      exact hrequest hqueue (by simpa using hp)
  | @ignored notify data rest threadCreated htask hqueue hclient hselect =>
      exact hrequest hqueue (by simpa using hp)
  | @accepted notify data rest threadCreated slot htask hqueue hclient hselect left =>
      exact hrequest hqueue (by simpa using hp)
  | informed htask hqueue => exact Or.inl (by simpa using hp)
  | wakes hth hpc hrecvd => exact Or.inl (by simpa [finish] using hp)
  | timesOut hth hpc => exact Or.inl (by simpa [finish, note] using hp)
  | _ => exact Or.inl hp

/-- What is in a session is taken out by a thread, after a step that loses no payload as well. -/
theorem running_step {s t : NiSystem} {call : NiCall}
    (hr : ∀ slot, (s.niData.get slot).rawRequest ≠ none → Runs s.threads slot)
    (hok : s.KeepsPayload call) (hstep : s.step call = some t) (slot : NiSlot)
    (hraw : (t.niData.get slot).rawRequest ≠ none) : Runs t.threads slot := by
  cases step_cases hstep with
  | @accepted notify data rest threadCreated slot' htask hqueue hclient hselect left =>
      by_cases heq : slot = slot'
      · subst heq
        -- the request is new, and the condition gives it a thread
        rw [NiData.get_set_self] at hraw
        obtain ⟨p, rfl⟩ := Option.ne_none_iff_exists'.mp hraw
        simp only [KeepsPayload, htask, hqueue] at hok
        rcases hok.2 slot hselect with rfl | hruns
        · exact ⟨_, List.mem_append_right _ (List.mem_singleton_self _), rfl, trivial⟩
        · exact hruns.append_left _
      · rw [NiData.get_set_of_ne _ heq, NiData.get_reqIDCounter] at hraw
        exact (hr slot hraw).append_left _
  | ignoreWrite htask =>
      have hsame := s.niData.rawRequest_respond .session .ignore slot
      exact hr slot (hsame ▸ hraw)
  | @respond slot' id resp threadCreated htask =>
      have hsame := s.niData.rawRequest_respond slot' resp slot
      exact hr slot (hsame ▸ hraw)
  | @waits i th hth hpc => exact (hr slot hraw).set hth rfl fun _ => trivial
  | @wakes i th hth hpc hrecvd => exact running_finish hr hth slot hraw
  | @timesOut i th hth hpc =>
      exact running_finish (s := s.note (some (.timedOut th.own))) hr hth slot hraw
  | @resets i th send hth hpc =>
      have hsame := s.niData.rawRequest_reset th.slot slot
      refine (hr slot (hsame ▸ hraw)).set hth rfl fun hrunning => ?_
      rw [hpc] at hrunning
      exact hrunning
  | @sends i th send hth hpc =>
      refine (hr slot hraw).eraseIdx hth ?_
      rw [hpc]
      exact not_false
  | _ => exact hr slot hraw

/-- A step that loses no payload keeps all of them. -/
theorem Kept.step {s t : NiSystem} {call : NiCall} (hk : s.Kept) (hok : s.KeepsPayload call)
    (hstep : s.step call = some t) : t.Kept where
  once p := by
    have hcount := count_payloads_step hok hstep p
    have honce := hk.once p
    omega
  handed p hp := by
    have hle := nextPayload_le_step hstep
    rcases handed_step hstep hp with hold | hmem
    · exact Nat.lt_of_lt_of_le (hk.handed p hold) hle
    · exact Nat.lt_of_lt_of_le (hk.lt_of_mem hmem) hle
  running := running_step hk.running hok hstep

theorem kept_init : init.Kept where
  once p := rfl
  handed p hp := by cases hp
  running slot hraw := by cases slot <;> exact absurd rfl hraw

/-! ### Runs that lose a payload -/

/-- The payload `p` was handed to `requestNiNotify` and will not be consumed: at most it is in a
session that no thread will take it out of. -/
structure Lost (p : Payload) (s : NiSystem) : Prop where
  handed : .handed p ∈ s.history
  old : p < s.nextPayload
  msgQueue : ∀ msg ∈ s.msgQueue, p ∉ msg.payloads
  threads : ∀ th ∈ s.threads, p ∉ th.payloads
  history : ∀ event ∈ s.history, p ∉ event.payloads
  niData : ∀ slot, (s.niData.get slot).rawRequest = some p → ¬ Runs s.threads slot

/-- No thread takes a lost payload out of a session. -/
theorem Lost.finish {p : Payload} {s : NiSystem} (hl : s.Lost p) {i : Nat} {th : NiThread}
    {ns : NiSession} (hth : s.threads[i]? = some th) (hpc : th.pc.Running)
    (hraw : ns.rawRequest = (s.niData.get th.slot).rawRequest) : (s.finish i th ns).Lost p := by
  have hne : (s.niData.get th.slot).rawRequest ≠ some p := fun hp =>
    hl.niData th.slot hp ⟨th, List.mem_of_getElem? hth, rfl, hpc⟩
  -- so the thread neither sends nor frees it
  have hzero : ns.payloads.count p = 0 := by
    rw [List.count_eq_zero]
    intro hp
    exact hne (hraw ▸ Option.mem_toList.mp hp)
  have hsplit := ns.count_payloads_split p
  rw [hzero] at hsplit
  refine { hl with
    handed := List.mem_append_left _ hl.handed
    threads := forall_mem_set ?_ hl.threads
    history := List.forall_mem_append.mpr ⟨hl.history, fun event hevent => ?_⟩
    niData := fun slot hp hruns => ?_ }
  · exact List.count_eq_zero.mp (Nat.eq_zero_of_add_eq_zero_right hsplit)
  · obtain ⟨q, hq, rfl⟩ := Option.map_eq_some_iff.mp (Option.mem_toList.mp hevent)
    have hfree : p ∉ ns.toFree.toList :=
      List.count_eq_zero.mp (Nat.eq_zero_of_add_eq_zero_left hsplit)
    rw [hq] at hfree
    exact hfree
  · rw [rawRequest_finish] at hp
    split at hp
    · cases hp
    · exact hl.niData slot hp (hruns.of_set hth rfl False.elim)

/-- What is lost stays lost when messages are taken, as long as the note about them does not name
it. -/
theorem Lost.note {p : Payload} {s : NiSystem} (hl : s.Lost p) {queue : List NiMsg}
    {l : List NiEvent} (hqueue : queue ⊆ s.msgQueue) (hnote : ∀ event ∈ l, p ∉ event.payloads) :
    Lost p { s with msgQueue := queue, history := s.history ++ l } :=
  { hl with
    handed := List.mem_append_left _ hl.handed
    msgQueue := fun msg hmsg => hl.msgQueue msg (hqueue hmsg)
    history := List.forall_mem_append.mpr ⟨hl.history, hnote⟩ }

/-- The message task finds nothing of what is lost. -/
theorem Lost.proc {p : Payload} {s t : NiSystem} {threadCreated : Bool} (hl : s.Lost p)
    (hproc : s.proc threadCreated = some t) : t.Lost p := by
  -- a payload that is lost is in no message, so it is in none of the rest
  have hrest : ∀ {msg rest}, s.msgQueue = msg :: rest → p ∉ msg.payloads ∧ rest ⊆ s.msgQueue := by
    intro msg rest hqueue
    exact ⟨hl.msgQueue msg (mem_msgQueue hqueue).1, (mem_msgQueue hqueue).2⟩
  cases proc_cases hproc with
  | @dropped notify data rest threadCreated htask hqueue hclient =>
      exact hl.note (hrest hqueue).2 (by cases data <;> simp [NiEvent.payloads])
  | @ignored notify data rest threadCreated htask hqueue hclient hselect =>
      have hdata := (hrest hqueue).1
      refine (hl.note (hrest hqueue).2 (by cases data <;> simp [NiEvent.payloads])).note
        (List.Subset.refl _) fun event hevent => ?_
      obtain ⟨q, rfl, rfl⟩ := Option.map_eq_some_iff.mp (Option.mem_toList.mp hevent)
      exact hdata
  | @accepted notify data rest threadCreated slot htask hqueue hclient hselect left =>
      have hdata := (hrest hqueue).1
      have hnote := (hl.note (l := (data.map NiEvent.handed).toList) (hrest hqueue).2
        (by cases data <;> simp [NiEvent.payloads])).note
          (l := [.assigned data (s.niData.reqIDCounter + 1)]) (List.Subset.refl _)
          (by simp [NiEvent.payloads])
      refine { hnote with
        threads := List.forall_mem_append.mpr ⟨hl.threads, fun th hth => ?_⟩
        niData := fun slot' hp hruns => ?_ }
      · split at hth
        · cases List.mem_singleton.mp hth
          exact List.not_mem_nil
        · cases hth
      · by_cases heq : slot' = slot
        · subst heq
          -- the new request has another payload
          rw [NiData.get_set_self] at hp
          exact hdata (Option.mem_toList.mpr hp)
        · rw [NiData.get_set_of_ne _ heq, NiData.get_reqIDCounter] at hp
          refine hl.niData slot' hp ?_
          obtain ⟨th, hth, hslot, hpc⟩ := hruns
          refine ⟨th, (List.mem_append.mp hth).resolve_right fun hnew => ?_, hslot, hpc⟩
          split at hnew
          · cases List.mem_singleton.mp hnew
            exact heq hslot.symm
          · cases hnew
  | rejected htask hqueue =>
      exact { hl with msgQueue := fun msg hmsg => hl.msgQueue msg ((hrest hqueue).2 hmsg) }
  | found htask hqueue hclient hfind task hnext =>
      exact { hl with msgQueue := fun msg hmsg => hl.msgQueue msg ((hrest hqueue).2 hmsg) }
  | informed htask hqueue =>
      refine hl.note (hrest hqueue).2 fun event hevent => ?_
      cases List.mem_singleton.mp hevent
      exact (hrest hqueue).1
  | ignoreTest htask task hnext => exact { hl with }
  | ignoreWrite htask =>
      -- an answer changes no payload
      refine { hl with niData := fun slot hp => hl.niData slot ?_ }
      have hsame := s.niData.rawRequest_respond .session .ignore slot
      exact hsame ▸ hp
  | @respond slot' id resp threadCreated htask =>
      refine { hl with niData := fun slot hp => hl.niData slot ?_ }
      have hsame := s.niData.rawRequest_respond slot' resp slot
      exact hsame ▸ hp

/-- A thread finds nothing of what is lost. -/
theorem Lost.thread {p : Payload} {s t : NiSystem} {i : Nat} {timedOut : Bool} (hl : s.Lost p)
    (hthread : s.thread i timedOut = some t) : t.Lost p := by
  cases thread_cases hthread with
  | @waits i th hth hpc =>
      refine { hl with
        threads := forall_mem_set List.not_mem_nil hl.threads
        niData := fun slot hp hruns => hl.niData slot hp (hruns.of_set hth rfl fun _ => ?_) }
      rw [hpc]
      exact trivial
  | spurious => exact hl
  | @wakes i th hth hpc hrecvd => exact hl.finish hth hpc rfl
  | @timesOut i th hth hpc =>
      have hnote := hl.note (l := [.timedOut th.own]) (List.Subset.refl _)
        (by simp [NiEvent.payloads])
      exact hnote.finish hth (by rw [hpc]; exact trivial) rfl
  | @resets i th send hth hpc =>
      have hsend := hl.threads th (List.mem_of_getElem? hth)
      unfold NiThread.payloads at hsend
      rw [hpc] at hsend
      refine { hl with
        threads := forall_mem_set hsend hl.threads
        niData := fun slot hp hruns => hl.niData slot ?_ (hruns.of_set hth rfl False.elim) }
      have hsame := s.niData.rawRequest_reset th.slot slot
      exact hsame ▸ hp
  | @sends i th send hth hpc =>
      have hsend := hl.threads th (List.mem_of_getElem? hth)
      unfold NiThread.payloads at hsend
      rw [hpc] at hsend
      refine { hl with
        msgQueue := List.forall_mem_append.mpr ⟨hl.msgQueue, fun msg hmsg => ?_⟩
        threads := fun th' hth' => hl.threads th' (List.mem_of_mem_eraseIdx hth')
        niData := fun slot hp hruns => hl.niData slot hp ?_ }
      · obtain ⟨r, rfl, rfl⟩ := Option.map_eq_some_iff.mp (Option.mem_toList.mp hmsg)
        exact hsend
      · obtain ⟨th', hth', h⟩ := hruns
        exact ⟨th', List.mem_of_mem_eraseIdx hth', h⟩

/-- What is lost stays lost. -/
theorem Lost.step {p : Payload} {s t : NiSystem} {call : NiCall} (hl : s.Lost p)
    (hstep : s.step call = some t) : t.Lost p := by
  cases call with
  | clients mClientData =>
      cases hstep
      exact { hl with }
  | requestNiNotifyEvent notify nonNull =>
      have hle := nextPayload_le_step hstep
      cases hstep
      refine { hl with
        old := Nat.lt_of_lt_of_le hl.old hle
        msgQueue := List.forall_mem_append.mpr ⟨hl.msgQueue, List.forall_mem_singleton.mpr ?_⟩ }
      cases nonNull with
      | false => exact List.not_mem_nil
      -- the new payload is younger than the lost one
      | true => exact fun hp => Nat.ne_of_lt hl.old (List.mem_singleton.mp hp)
  | gnssNiResponseCommand client id resp =>
      cases hstep
      have hnote := hl.note (l := [.response client id resp]) (List.Subset.refl _)
        (by simp [NiEvent.payloads])
      exact { hnote with
        msgQueue := List.forall_mem_append.mpr
          ⟨hl.msgQueue, List.forall_mem_singleton.mpr List.not_mem_nil⟩ }
  | proc threadCreated => exact hl.proc hstep
  | thread i timedOut => exact hl.thread hstep

/-- What a step that is not allowed finds. -/
theorem of_not_keepsPayload {s : NiSystem} {call : NiCall} (hok : ¬ s.KeepsPayload call) :
    ∃ threadCreated notify p rest, call = .proc threadCreated ∧ s.msgTask = .idle ∧
      s.msgQueue = .reportNiNotify notify (some p) :: rest ∧
      ((s.mClientData.any fun c => c.2) = true → ∃ slot, s.niData.select notify = some slot ∧
        threadCreated = false ∧ ¬ Runs s.threads slot) := by
  unfold KeepsPayload at hok
  split at hok
  · rename_i threadCreated
    split at hok
    · rename_i notify p rest htask hqueue
      refine ⟨threadCreated, notify, p, rest, rfl, htask, hqueue, fun hclient => ?_⟩
      by_contra hnone
      refine hok ⟨hclient, fun slot hslot => ?_⟩
      by_contra hlost
      rw [not_or] at hlost
      exact hnone ⟨slot, hslot, eq_false_of_ne_true hlost.1, hlost.2⟩
    · exact absurd trivial hok
  · exact absurd trivial hok

/-- When a request is taken from the queue, its payload is nowhere else. -/
theorem Kept.lost_of_taken {s : NiSystem} (hk : s.Kept) {notify : GnssNiNotification}
    {p : Payload} {rest : List NiMsg}
    (hqueue : s.msgQueue = .reportNiNotify notify (some p) :: rest) :
    Lost p { s with msgQueue := rest, history := s.history ++ [.handed p] } := by
  have hone : s.payloads.count p ≤ 1 := by
    rw [hk.once p]
    exact List.nodup_iff_count.mp List.nodup_range p
  rw [count_payloads, hqueue] at hone
  simp only [List.flatMap_cons, NiMsg.payloads, Option.toList_some, List.count_append,
    List.count_singleton_self] at hone
  -- the message accounts for the whole count
  have hrest : p ∉ rest.flatMap NiMsg.payloads := List.count_eq_zero.mp (by omega)
  have hdata : p ∉ s.niData.payloads := List.count_eq_zero.mp (by omega)
  have hthreads : p ∉ s.threads.flatMap NiThread.payloads := List.count_eq_zero.mp (by omega)
  have hhistory : p ∉ s.history.flatMap NiEvent.payloads := List.count_eq_zero.mp (by omega)
  refine ⟨?_, ?_, ?_, ?_, ?_, ?_⟩
  · exact List.mem_append_right _ (List.mem_singleton_self _)
  · exact hk.lt_of_mem (by simp [payloads, hqueue, NiMsg.payloads])
  · exact fun msg hmsg hp => hrest (List.mem_flatMap.mpr ⟨msg, hmsg, hp⟩)
  · exact fun th hth hp => hthreads (List.mem_flatMap.mpr ⟨th, hth, hp⟩)
  · intro event hevent hp
    rcases List.mem_append.mp hevent with hold | hnew
    · exact hhistory (List.mem_flatMap.mpr ⟨event, hold, hp⟩)
    · cases List.mem_singleton.mp hnew
      cases hp
  · intro slot hp _
    refine hdata (List.mem_append.mpr ?_)
    cases slot with
    | session => exact Or.inl (Option.mem_toList.mpr hp)
    | sessionEs => exact Or.inr (Option.mem_toList.mpr hp)

/-- A step that is not allowed loses the payload of the request that it takes. -/
theorem Kept.lost {s t : NiSystem} {call : NiCall} (hk : s.Kept) (hok : ¬ s.KeepsPayload call)
    (hstep : s.step call = some t) : ∃ p, t.Lost p := by
  obtain ⟨threadCreated, notify, p, rest, rfl, htask, hqueue, hcases⟩ := of_not_keepsPayload hok
  refine ⟨p, ?_⟩
  have hlost := hk.lost_of_taken hqueue
  cases step_cases hstep with
  | dropped _ hqueue' hclient =>
      cases hqueue.symm.trans hqueue'
      exact hlost
  | ignored _ hqueue' hclient hselect =>
      cases hqueue.symm.trans hqueue'
      obtain ⟨slot, hslot, -⟩ := hcases hclient
      cases hselect.symm.trans hslot
  | @accepted _ _ _ _ slot _ hqueue' hclient hselect left =>
      cases hqueue.symm.trans hqueue'
      obtain ⟨slot', hslot, rfl, hruns⟩ := hcases hclient
      cases hselect.symm.trans hslot
      have hnote := hlost.note (l := [.assigned (some p) (s.niData.reqIDCounter + 1)])
        (List.Subset.refl _) (by simp [NiEvent.payloads])
      refine { hnote with
        threads := fun th hth => hlost.threads th (by simpa using hth)
        niData := fun other hp hruns' => ?_ }
      rw [if_neg Bool.false_ne_true, List.append_nil] at hruns'
      by_cases heq : other = slot
      · exact hruns (heq ▸ hruns')
      · rw [NiData.get_set_of_ne _ heq, NiData.get_reqIDCounter] at hp
        exact hlost.niData other hp hruns'
  | rejected _ hqueue' => cases hqueue.symm.trans hqueue'
  | found _ hqueue' => cases hqueue.symm.trans hqueue'
  | informed _ hqueue' => cases hqueue.symm.trans hqueue'
  | ignoreTest htask' => cases htask.symm.trans htask'
  | ignoreWrite htask' => cases htask.symm.trans htask'
  | respond htask' => cases htask.symm.trans htask'

/-! ### Rest -/

/-- No message is left, and no NI thread runs. Before that a payload may still be on its way. -/
def Quiescent (s : NiSystem) : Prop := s.msgQueue = [] ∧ s.msgTask = .idle ∧ s.threads = []

/-- How often the payload was freed. -/
def freed (s : NiSystem) (p : Payload) : Nat := s.history.count (.freed p)

/-- How often the payload was given to the modem. -/
def informed (s : NiSystem) (p : Payload) : Nat :=
  s.history.countP fun
    | .informed _ q => q = p
    | _ => false

/-- Each payload that was handed to `requestNiNotify` was freed once or given to the modem once, and
no session has a request. Both at once would be a use of freed memory, and neither a leak. -/
def Consumed (s : NiSystem) : Prop :=
  (∀ p, .handed p ∈ s.history →
    s.freed p = 1 ∧ s.informed p = 0 ∨ s.freed p = 0 ∧ s.informed p = 1) ∧
    ∀ slot, (s.niData.get slot).rawRequest = none

/-- A payload is consumed as often as it is in the history. -/
theorem count_history (s : NiSystem) (p : Payload) :
    (s.history.flatMap NiEvent.payloads).count p = s.freed p + s.informed p := by
  unfold freed informed
  induction s.history with
  | nil => rfl
  | cons event history ih =>
      rw [List.flatMap_cons, List.count_append, ih, List.count_cons, List.countP_cons]
      cases event <;> simp [NiEvent.payloads, List.count_singleton] <;> omega

/-- A system at rest that kept its payloads has consumed them. -/
theorem Kept.consumed {s : NiSystem} (hk : s.Kept) (hq : s.Quiescent) : s.Consumed := by
  obtain ⟨hqueue, -, hthreads⟩ := hq
  have hraw : ∀ slot, (s.niData.get slot).rawRequest = none := by
    intro slot
    by_contra hne
    obtain ⟨th, hth, -⟩ := hk.running slot hne
    rw [hthreads] at hth
    cases hth
  refine ⟨fun p hp => ?_, hraw⟩
  -- only the history is left to have the payload
  have hone : s.payloads.count p = 1 := by
    rw [hk.once p, List.nodup_range.count, if_pos (List.mem_range.mpr (hk.handed p hp))]
  have hdata : s.niData.payloads = [] := by
    unfold NiData.payloads NiSession.payloads
    have hes : s.niData.sessionEs.rawRequest = none := hraw .sessionEs
    have hsession : s.niData.session.rawRequest = none := hraw .session
    rw [hes, hsession]
    rfl
  rw [count_payloads, hqueue, hthreads, hdata, count_history] at hone
  simp only [List.flatMap_nil, List.count_nil] at hone
  omega

/-- A system that lost a payload has not consumed it. -/
theorem Lost.not_consumed {p : Payload} {s : NiSystem} (hl : s.Lost p) : ¬ s.Consumed := by
  rintro ⟨hconsumed, -⟩
  have hzero : (s.history.flatMap NiEvent.payloads).count p = 0 := by
    rw [List.count_eq_zero]
    intro hp
    obtain ⟨event, hevent, hmem⟩ := List.mem_flatMap.mp hp
    exact hl.history event hevent hmem
  rw [count_history] at hzero
  have hcases := hconsumed p hl.handed
  omega

/-- A run that comes to rest has consumed every payload once if and only if no step loses one.

A step loses a payload when there is no client to ask, since the message returns without freeing it,
and when the thread that should wait for the answer is not created, since nothing takes the payload
out of the session then. A thread that an earlier request without a payload has left there takes it
over. -/
theorem consumed_iff_guarded {calls : List NiCall} {t : NiSystem}
    (hrun : run step init calls = some t) (hq : t.Quiescent) :
    t.Consumed ↔ Guarded step KeepsPayload init calls := by
  have hcases := guarded_or_of_lost (Q := fun s => ∃ p, Lost p s)
    (fun s call t hk hok hstep => Kept.step hk hok hstep)
    (fun s call t hk hok hstep => Kept.lost hk hok hstep)
    (fun s call t ⟨p, hl⟩ hstep => ⟨p, hl.step hstep⟩) calls init t kept_init hrun
  rcases hcases with ⟨hg, hk⟩ | ⟨hg, p, hl⟩
  · exact iff_of_true (hk.consumed hq) hg
  · exact iff_of_false hl.not_consumed hg

/-- A request that a client accepts. -/
theorem consumed_iff_guarded_of_accept :
    ∃ t, run step init
        [.clients [(0, true)], .requestNiNotifyEvent ⟨.supl, 0⟩ true, .proc true,
          .thread 0 false, .gnssNiResponseCommand 0 1 .accept, .proc true, .proc true,
          .thread 0 false, .thread 0 false, .thread 0 false, .proc true] = some t ∧
      t.history = [.handed 0, .assigned (some 0) 1, .response 0 1 .accept,
        .informed (some .accept) 0] ∧
      (t.Consumed ↔ Guarded step KeepsPayload init
        [.clients [(0, true)], .requestNiNotifyEvent ⟨.supl, 0⟩ true, .proc true,
          .thread 0 false, .gnssNiResponseCommand 0 1 .accept, .proc true, .proc true,
          .thread 0 false, .thread 0 false, .thread 0 false, .proc true]) :=
  ⟨_, rfl, rfl, consumed_iff_guarded rfl ⟨rfl, rfl, rfl⟩⟩

/-- Without a client the payload is not freed, and without a thread it stays in the session. -/
theorem payload_notConsumed :
    (∃ t, run step init [.requestNiNotifyEvent ⟨.supl, 0⟩ true, .proc true] = some t ∧
      t.Quiescent ∧ ¬ t.Consumed) ∧
    ∃ t, run step init
        [.clients [(0, true)], .requestNiNotifyEvent ⟨.supl, 0⟩ true, .proc false] = some t ∧
      t.Quiescent ∧ ¬ t.Consumed := by
  refine ⟨⟨_, rfl, ⟨rfl, rfl, rfl⟩, fun h => ?_⟩, ⟨_, rfl, ⟨rfl, rfl, rfl⟩, fun h => ?_⟩⟩
  · have hzero := h.1 0 (List.mem_singleton_self _)
    revert hzero
    decide
  · cases h.2 .session

end NiSystem

end LocHal.Gnss
