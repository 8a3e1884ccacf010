import LocHal.Gnss.AgpsAgreement

/-!
# `LocHal.Gnss.AgpsRequest`: when a request is swallowed

`addSubscriber` compares handles only. A request of a handle that is still listed as inactive
adds nobody: the handle stays inactive, and it gets no answer, or a success for a connection that
is about to be released. `RequestAnswered` says what a request should leave behind, and
`request_answered_iff` is the exact condition, in every state that a run without a modem restart
reaches. The same theorem says that no other call reports a success to a handle that is not held
as active.

The proof reads the outputs of one event: `openSuccess_of_mem_notifyOuts` says that only a grant
reports a success, and it does so to the subscriber that it notifies.

The property is about the entries that one step adds to the history (`newEntries`). After a request
the handle is held as active by the machine that got it, or it has been told of a failure, or SUPL
has been asked instead (`RequestAnswered`). And whatever the step is, a success goes to a handle
that is held as active after it (`SuccessIsHeld`).

The condition is on the state before the request: the handle is not listed as inactive.
`holdsActive_subscribe` and `not_holdsActive_subscribe` are the two directions for one machine, and
`requestAnswered_iff` carries them to the system. The agreement of state and list, `Agrees`, is what
makes the answer right in the other states.
-/

set_option autoImplicit false

namespace LocHal.Gnss

open LabelledRun

/-- A report of an opened connection. -/
def AgpsOutput.OpenSuccess (o : AgpsOutput) (connHandle : ConnHandle) : Prop :=
  ∃ apn bearer type, o = .atlOpenStatusCb connHandle true apn bearer type

/-- A report of a failure, or a request to fall back to SUPL. -/
def AgpsOutput.OpenFailure (o : AgpsOutput) (connHandle : ConnHandle) : Prop :=
  (∃ apn bearer type, o = .atlOpenStatusCb connHandle false apn bearer type) ∨
    o = .sendMsgToAdapterQueue connHandle locAgpsTypeSupl

namespace AgpsStateMachine

variable {m : AgpsStateMachine} {env : AgpsEnv} {h : ConnHandle}

/-! ### The outputs of one event -/

/-- Only a grant reports a success, to the notified subscriber. -/
theorem openSuccess_of_mem_notifyOuts {event : AgpsEvent} {sub : AgpsSubscriber} {o : AgpsOutput}
    (ho : o ∈ m.notifyOuts event sub) (hopen : o.OpenSuccess h) :
    event = .granted ∧ sub.mConnHandle = h := by
  obtain ⟨apn, bearer, type, rfl⟩ := hopen
  unfold notifyOuts notifyEvent at ho
  cases hcls : m.cls <;> rw [hcls] at ho <;> cases event <;> simp at ho <;> exact ⟨rfl, ho.1.symm⟩

/-- A grant is one report of a success. -/
theorem notifyOuts_granted (m : AgpsStateMachine) (sub : AgpsSubscriber) :
    ∃ o, m.notifyOuts .granted sub = [o] ∧ o.OpenSuccess sub.mConnHandle := by
  unfold notifyOuts notifyEvent
  cases m.cls with
  | agpsStateMachine => exact ⟨_, rfl, _, _, _, rfl⟩
  | dsStateMachine => exact ⟨_, rfl, _, _, _, rfl⟩

/-- A request for a data connection reports no success. -/
theorem not_openSuccess_of_mem_request {o : AgpsOutput}
    (ho : o ∈ (m.requestOrReleaseDataConn env true).2.1) : ¬ o.OpenSuccess h := by
  rintro ⟨apn, bearer, type, rfl⟩
  cases hcls : m.cls with
  | agpsStateMachine => simp [requestOrReleaseDataConn_base hcls] at ho
  | dsStateMachine =>
      obtain ⟨calls, heq, hcalls⟩ := requestOrReleaseDataConn_ds hcls env
      rw [heq, List.mem_append] at ho
      rcases ho with ho | ho
      · rcases hcalls _ ho with ho | ⟨ret, ho⟩ <;> cases ho
      · split at ho
        · cases ho
        · split at ho <;> simp at ho

/-- The outputs of a subscription outside the released state. -/
theorem processAgpsEventSubscribe_outs (sub : AgpsSubscriber) (hvalid : m.mState ≠ .invalid)
    (hreleased : m.mState ≠ .released) :
    (m.processAgpsEventSubscribe env sub).2
      = if m.mState = .acquired then m.notifyOuts .granted sub else [] := by
  unfold processAgpsEventSubscribe
  cases hst : m.mState with
  | invalid => exact absurd hst hvalid
  | released => exact absurd hst hreleased
  | pending => rfl
  | acquired => rfl
  | releasing => rfl

/-- The outputs of a subscription in the released state are those of the request. -/
theorem processAgpsEventSubscribe_outs_released (sub : AgpsSubscriber)
    (hreleased : m.mState = .released) :
    (m.processAgpsEventSubscribe env sub).2
      = ((m.addSubscriber sub).requestOrReleaseDataConn env true).2.1 := by
  unfold processAgpsEventSubscribe
  rw [hreleased]

/-- A subscription reports a success to its own subscriber only. -/
theorem openSuccess_subscribe {sub : AgpsSubscriber} (hvalid : m.mState ≠ .invalid)
    {o : AgpsOutput} (ho : o ∈ (m.processAgpsEventSubscribe env sub).2) (hopen : o.OpenSuccess h) :
    sub.mConnHandle = h := by
  by_cases hreleased : m.mState = .released
  · rw [processAgpsEventSubscribe_outs_released sub hreleased] at ho
    exact absurd hopen (not_openSuccess_of_mem_request ho)
  · rw [processAgpsEventSubscribe_outs sub hvalid hreleased] at ho
    split at ho
    · exact (openSuccess_of_mem_notifyOuts ho hopen).2
    · cases ho

/-- An unsubscription reports no success. -/
theorem not_openSuccess_unsubscribe {sub : AgpsSubscriber} (hvalid : m.mState ≠ .invalid)
    {o : AgpsOutput} (ho : o ∈ (m.processAgpsEventUnsubscribe env sub).2) :
    ¬ o.OpenSuccess h := by
  rintro ⟨apn, bearer, type, rfl⟩
  rcases of_mem_unsubscribe hvalid ho with ho | ho
  · cases ho
  · rcases of_mem_releaseOuts ho with ⟨-, ho⟩ | ⟨-, ho⟩ <;> cases ho

/-- A report brings a success to the active subscribers only, and keeps them. -/
theorem openSuccess_report {event : AgpsEvent} {o : AgpsOutput}
    (ho : o ∈ (m.processReport env event).2) (hopen : o.OpenSuccess h) :
    (m.processReport env event).1.HoldsActive h := by
  have hnot : ∀ notified, notified ≠ .granted → ∀ l : List AgpsSubscriber,
      o ∉ l.flatMap (m.notifyOuts notified) := fun notified hne l hl => by
    obtain ⟨sub, -, hsub⟩ := List.mem_flatMap.mp hl
    exact hne (openSuccess_of_mem_notifyOuts hsub hopen).1
  rcases processReport_cases m env event with heq | ⟨hst, -, heq⟩ | ⟨notified, hcase, heq⟩ |
    ⟨-, -, heq⟩ <;> rw [heq] at ho ⊢
  · cases ho
  · rw [processAgpsEventGranted_eq hst] at ho ⊢
    obtain ⟨sub, hsub, hmem⟩ := List.mem_flatMap.mp ho
    obtain ⟨hlisted, hactive⟩ := List.mem_filter.mp hsub
    exact ⟨sub, hlisted, (openSuccess_of_mem_notifyOuts hmem hopen).2, by simpa using hactive⟩
  · obtain ⟨r, hclear⟩ := notifyAndClear_eq m notified
    rw [hclear] at ho
    refine absurd ho (hnot notified ?_ _)
    rcases hcase with ⟨-, -, rfl⟩ | ⟨-, rfl, -⟩ <;> simp
  · rw [finishReleasing_eq m env] at ho
    split at ho
    · rcases List.mem_append.mp ho with ho | ho
      · exact absurd ho (hnot .released (by simp) _)
      · exact absurd hopen (not_openSuccess_of_mem_request ho)
    · exact absurd ho (hnot .released (by simp) _)

/-! ### One request -/

/-- The subscriber with the handle, after a subscription: the listed one, or the new one. -/
theorem holdsActive_subscribe (env : AgpsEnv) (sub : AgpsSubscriber)
    (hvalid : m.mState ≠ .invalid) (hactive : sub.mIsInactive = false)
    (hlisted : ∀ s ∈ m.mSubscriberList, s.mConnHandle = sub.mConnHandle → s.mIsInactive = false) :
    (m.processAgpsEventSubscribe env sub).1.HoldsActive sub.mConnHandle := by
  obtain ⟨st, r, heq, -⟩ := processAgpsEventSubscribe_eq m env sub hvalid
  rw [heq]
  obtain ⟨s, hs, hsh⟩ := exists_mem_addSubscriber m sub
  refine ⟨s, hs, hsh, ?_⟩
  rcases mem_addSubscriber.mp hs with hold | ⟨rfl, -⟩
  · exact hlisted s hold hsh
  · exact hactive

/-- A handle that is listed as inactive stays so. -/
theorem not_holdsActive_subscribe (env : AgpsEnv) (sub : AgpsSubscriber) {s : AgpsSubscriber}
    (hm : Agrees m) (hs : s ∈ m.mSubscriberList) (hsh : s.mConnHandle = sub.mConnHandle)
    (hinactive : s.mIsInactive = true) :
    ¬ (m.processAgpsEventSubscribe env sub).1.HoldsActive sub.mConnHandle := by
  obtain ⟨st, r, heq, -⟩ := processAgpsEventSubscribe_eq m env sub hm.valid
  rw [heq]
  rintro ⟨t, ht, hth, hactive⟩
  rcases mem_addSubscriber.mp ht with ht | ⟨rfl, hnew⟩
  · rw [eq_of_handle_eq hm.nodup ht hs (hth.trans hsh.symm), hinactive] at hactive
    cases hactive
  · exact hnew s hs hsh

/-- A machine that lists an inactive subscriber answers a subscription with a success at
most. -/
theorem not_openFailure_subscribe {sub s : AgpsSubscriber} (hm : Agrees m)
    (hs : s ∈ m.mSubscriberList) (hinactive : s.mIsInactive = true) {o : AgpsOutput}
    (ho : o ∈ (m.processAgpsEventSubscribe env sub).2) : ¬ o.OpenFailure h := by
  have hreleased : m.mState ≠ .released := fun hst => by
    cases hcls : m.cls with
    | agpsStateMachine => rw [hm.releasedBase hst hcls] at hs; cases hs
    | dsStateMachine => rw [hm.releasedDs hst hcls s hs] at hinactive; cases hinactive
  rw [processAgpsEventSubscribe_outs sub hm.valid hreleased] at ho
  split at ho
  · obtain ⟨o', heq, apn, bearer, type, hopen⟩ := notifyOuts_granted m sub
    rw [heq, List.mem_singleton] at ho
    rw [ho, hopen]
    rintro (⟨apn', bearer', type', hfail⟩ | hfail) <;> cases hfail
  · cases ho

end AgpsStateMachine

namespace AgpsSystem

open AgpsStateMachine (Agrees)

/-- The part of the history that the call from `s` to `t` has added. -/
def newEntries (s t : AgpsSystem) : List AgpsLogEntry := t.log.drop s.log.length

/-- Every success of the call from `s` to `t` goes to a handle that the reporting machine holds as
active. A success for another handle would be a connection that nobody releases. -/
def SuccessIsHeld (s t : AgpsSystem) : Prop :=
  ∀ sm o h, .output sm o ∈ s.newEntries t → o.OpenSuccess h →
    ∃ nif, sm = some nif ∧ t.HoldsActive nif h

/-- The request of `h` that leads from `s` to `t` is answered: the machine holds `h` as active, or
the call has reported a failure or asked for the SUPL fallback; and no success of the call goes
to a handle that is not held as active. -/
def RequestAnswered (s t : AgpsSystem) (nif : Nif) (h : ConnHandle) : Prop :=
  (t.HoldsActive nif h ∨ ∃ sm o, .output sm o ∈ s.newEntries t ∧ o.OpenFailure h) ∧
    SuccessIsHeld s t

/-- A call that only adds to the history. -/
theorem newEntries_eq {s t : AgpsSystem} {entries : List AgpsLogEntry}
    (h : t.log = s.log ++ entries) : s.newEntries t = entries := by
  rw [newEntries, h, List.drop_left]

/-- The outputs of a call: an initialisation of the data service client when machines were
created, and what the dispatch added. -/
theorem mem_newEntries {env : AgpsEnv} {s s' t : AgpsSystem} (hcreated : Created env s s')
    {entries : List AgpsLogEntry} (hlog : t.log = s'.log ++ entries) {sm : Option Nif}
    {o : AgpsOutput} (ho : .output sm o ∈ s.newEntries t) :
    sm = none ∧ o = .dsClientInit false ∨ .output sm o ∈ entries := by
  obtain ⟨outs, hlog', houts⟩ := hcreated.log
  rw [newEntries_eq (hlog.trans (by rw [hlog', List.append_assoc])), List.mem_append] at ho
  rcases ho with ho | ho
  · obtain ⟨o', ho', heq⟩ := List.mem_map.mp ho
    cases heq
    exact Or.inl ⟨rfl, houts o ho'⟩
  · exact Or.inr ho

/-- The outputs of the machine that ran are those of the call, up to the creation. -/
theorem mem_newEntries_runSm {env : AgpsEnv} {s s' : AgpsSystem} (hcreated : Created env s s')
    {entry : AgpsLogEntry} {nif : Nif} {r : AgpsStateMachine × List AgpsOutput} {sm : Option Nif}
    {o : AgpsOutput} (hentry : ∀ sm o, entry ≠ .output sm o)
    (ho : .output sm o ∈ s.newEntries ((s'.note entry).runSm nif r)) :
    sm = none ∧ o = .dsClientInit false ∨ sm = some nif ∧ o ∈ r.2 := by
  have hlog : ((s'.note entry).runSm nif r).log
      = s'.log ++ entry :: r.2.map (.output (some nif)) := by simp
  refine (mem_newEntries hcreated hlog ho).imp_right fun ho => ?_
  rcases List.mem_cons.mp ho with ho | ho
  · exact absurd ho.symm (hentry sm o)
  · obtain ⟨o', ho', heq⟩ := List.mem_map.mp ho
    cases heq
    exact ⟨rfl, ho'⟩

/-- A request that reaches a machine. -/
theorem requestATL_eq {s : AgpsSystem} {env : AgpsEnv} {ty : AGpsExtType} {m : AgpsStateMachine}
    (h : ConnHandle) (posted : Bool)
    (hsm : (s.getAgpsStateMachine env ty).1.sm (route env ty) = some m) :
    s.requestATL env h ty posted
      = ((s.getAgpsStateMachine env ty).1.note (.requestATL h ty posted (some (route env ty))
            (m.getSubscriber h).isSome)).runSm (route env ty)
          (m.processAgpsEventSubscribe env (newSubscriber h ty)) := by
  unfold requestATL
  dsimp only
  rw [(created_getAgpsStateMachine s env ty).2, hsm]
  rfl

/-- The machine that ran holds the handle. -/
theorem holdsActive_runSm {s : AgpsSystem} {nif : Nif} {r : AgpsStateMachine × List AgpsOutput}
    {h : ConnHandle} : (s.runSm nif r).HoldsActive nif h ↔ r.1.HoldsActive h := by
  unfold HoldsActive
  rw [sm_runSm_self]
  simp

/-- One request in a state in which the machines agree with their lists. -/
theorem requestAnswered_iff {s : AgpsSystem} (hs : ∀ nif m, s.sm nif = some m → Agrees m)
    {env : AgpsEnv} {ty : AGpsExtType} {m : AgpsStateMachine} (h : ConnHandle) (posted : Bool)
    (hsm : (s.getAgpsStateMachine env ty).1.sm (route env ty) = some m) :
    RequestAnswered s (s.requestATL env h ty posted) (route env ty) h ↔
      ∀ sub ∈ m.mSubscriberList, sub.mConnHandle = h → sub.mIsInactive = false := by
  have hcreated := (created_getAgpsStateMachine s env ty).1
  have hm : Agrees m := hcreated.forall (P := fun _ m => Agrees m) agrees_newSm hs _ m hsm
  have houts := @mem_newEntries_runSm env s _ hcreated
    (.requestATL h ty posted (some (route env ty)) (m.getSubscriber h).isSome) (route env ty)
    (m.processAgpsEventSubscribe env (newSubscriber h ty))
  rw [requestATL_eq h posted hsm]
  constructor
  · rintro ⟨hanswer, -⟩ sub hsub hsubh
    by_contra hinactive
    rw [Bool.not_eq_false] at hinactive
    rcases hanswer with hactive | ⟨sm, o, ho, hfail⟩
    · exact AgpsStateMachine.not_holdsActive_subscribe env (newSubscriber h ty) hm hsub hsubh
        hinactive (holdsActive_runSm.mp hactive)
    · rcases houts (by simp) ho with ⟨-, rfl⟩ | ⟨-, ho⟩
      · rcases hfail with ⟨_, _, _, hfail⟩ | hfail <;> cases hfail
      · exact AgpsStateMachine.not_openFailure_subscribe hm hsub hinactive ho hfail
  · intro hlisted
    have hactive := AgpsStateMachine.holdsActive_subscribe env (newSubscriber h ty) hm.valid
      rfl hlisted
    refine ⟨Or.inl (holdsActive_runSm.mpr hactive), fun sm o h' ho hopen => ?_⟩
    rcases houts (by simp) ho with ⟨-, rfl⟩ | ⟨hsmo, ho⟩
    · obtain ⟨_, _, _, hopen⟩ := hopen
      cases hopen
    · have heq := AgpsStateMachine.openSuccess_subscribe hm.valid ho hopen
      exact ⟨route env ty, hsmo, holdsActive_runSm.mpr (heq ▸ hactive)⟩

/-- Every call but a request reports a success to active subscribers only. -/
theorem successIsHeld_step {s t : AgpsSystem} {i : AgpsCall × AgpsEnv}
    (hs : ∀ nif m, s.sm nif = some m → Agrees m) (hcall : s.requestOf i.1 = none)
    (ht : s.step i = some t) : SuccessIsHeld s t := by
  obtain ⟨call, env⟩ := i
  obtain ⟨s', hcreated, hdispatch⟩ := step_cases ht
  have hlog : ∃ outs : List AgpsOutput, s'.log = s.log ++ outs.map (.output none) ∧
      ∀ o ∈ outs, o = .dsClientInit false := by
    simpa using hcreated.log
  have hs' : ∀ nif m, s'.sm nif = some m → Agrees m :=
    hcreated.forall (P := fun _ m => Agrees m) agrees_newSm
      fun nif m hm => hs nif m (by rwa [sm_dequeue] at hm)
  -- of the calls, only a report answers a request with success
  intro sm o h ho hopen
  obtain ⟨apn, bearer, type, rfl⟩ := hopen
  have hsame : s.newEntries t = (s.dequeue call).newEntries t := by
    unfold newEntries
    rw [log_dequeue]
  rw [hsame] at ho
  cases hdispatch with
  | idle =>
      rcases mem_newEntries hcreated (List.append_nil _).symm ho with ⟨-, ho⟩ | ho <;> cases ho
  | requestNull hreq => rw [hcall] at hreq; cases hreq
  | request hreq => rw [hcall] at hreq; cases hreq
  | releaseNone =>
      rcases mem_newEntries hcreated (List.append_assoc _ _ _) ho with ⟨-, ho⟩ | ho
      · cases ho
      · simp at ho
  | release _ _ hsm hsub =>
      rcases mem_newEntries_runSm hcreated (by simp) ho with ⟨-, ho⟩ | ⟨-, ho⟩
      · cases ho
      · exact absurd ⟨apn, bearer, type, rfl⟩
          (AgpsStateMachine.not_openSuccess_unsubscribe (hs' _ _ hsm).valid ho)
  | report _ hsm =>
      -- a report is told to active subscribers, which stay in the list
      rcases mem_newEntries_runSm hcreated (by simp) ho with ⟨-, ho⟩ | ⟨hsmo, ho⟩
      · cases ho
      · exact ⟨_, hsmo, holdsActive_runSm.mpr
          (AgpsStateMachine.openSuccess_report ho ⟨apn, bearer, type, rfl⟩)⟩
  | modemSSR =>
      obtain ⟨outs, hlog, houts⟩ := log_handleModemSSR s' env
      rcases mem_newEntries hcreated hlog ho with ⟨-, ho⟩ | ho
      · cases ho
      · obtain ⟨o', ho', heq⟩ := List.mem_map.mp ho
        cases heq
        exact absurd (houts _ ho') (by simp)
  | retry _ _ =>
      rcases mem_newEntries hcreated (log_emit _ _ _) ho with ⟨-, ho⟩ | ho
      · cases ho
      · unfold AgpsStateMachine.retryCallback at ho
        split at ho <;> simp at ho

/-- The exact condition, in every state that a run without a modem restart reaches: a request of `h`
that reaches the machine `m` is answered if and only if `m` does not list `h` as inactive. Every
other call reports a success to active subscribers only.

`addSubscriber` compares the handles and not the flag, so a handle that was released and still waits
for its close is taken for one that is listed already. Nothing is then said to it. -/
theorem request_answered_iff (calls : List (AgpsCall × AgpsEnv)) (s : AgpsSystem)
    (hssr : ∀ i ∈ calls, i.1 ≠ .handleModemSSR) (hrun : run step init calls = some s) :
    (∀ env ty h posted m, (s.getAgpsStateMachine env ty).1.sm (route env ty) = some m →
      (RequestAnswered s (s.requestATL env h ty posted) (route env ty) h ↔
        ∀ sub ∈ m.mSubscriberList, sub.mConnHandle = h → sub.mIsInactive = false)) ∧
    ∀ i t, s.requestOf i.1 = none → s.step i = some t → SuccessIsHeld s t := by
  have hs := agrees_of_run hssr hrun
  exact ⟨fun env ty h posted m hsm => requestAnswered_iff hs h posted hsm,
    fun i t hcall ht => successIsHeld_step hs hcall ht⟩

/-- Handle 1 is released while it holds the emergency connection. -/
def releasedEmergency : List (AgpsCall × AgpsEnv) :=
  [(.requestATL 1 locAgpsTypeSuplEs, .emergency 0), (.reportDataCallOpened, .emergency 0),
    (.releaseATL 1, .emergency 0)]

/-- The second request of handle 1 in the releasing state is swallowed. -/
theorem request_swallowed :
    ∃ s, run step init releasedEmergency = some s ∧
      (s.getAgpsStateMachine (.emergency 0) locAgpsTypeSuplEs).1.sm .ds ≠ none ∧
      ¬ RequestAnswered s (s.requestATL (.emergency 0) 1 locAgpsTypeSuplEs false) .ds 1 := by
  refine ⟨_, rfl, by decide, ?_⟩
  rintro ⟨⟨m, hm, sub, hsub, -, hactive⟩ | ⟨sm, o, ho, -⟩, -⟩
  · cases hm
    cases List.mem_singleton.mp hsub
    cases hactive
  · cases List.mem_singleton.mp ho

/-- Handles 1 and 2 hold the emergency connection, and handle 1 is released. It stays listed, as
inactive, since handle 2 still holds the connection. -/
def releasedByOne : List (AgpsCall × AgpsEnv) :=
  [(.requestATL 1 locAgpsTypeSuplEs, .emergency 0), (.requestATL 2 locAgpsTypeSuplEs, .emergency 0),
    (.reportDataCallOpened, .emergency 0), (.releaseATL 1, .emergency 0)]

/-- A request of handle 2, which is listed as active, and one of handle 3, which is not listed, are
answered, and one of handle 1 is not. -/
theorem request_answered_iff_listed :
    ∃ s, run step init releasedByOne = some s ∧
      RequestAnswered s (s.requestATL (.emergency 0) 2 locAgpsTypeSuplEs false) .ds 2 ∧
      RequestAnswered s (s.requestATL (.emergency 0) 3 locAgpsTypeSuplEs false) .ds 3 ∧
      ¬ RequestAnswered s (s.requestATL (.emergency 0) 1 locAgpsTypeSuplEs false) .ds 1 := by
  refine ⟨_, rfl, ?_⟩
  have hiff := fun h m hm => (request_answered_iff releasedByOne _ (by decide) rfl).1
    (.emergency 0) locAgpsTypeSuplEs h false m hm
  exact ⟨(hiff 2 _ rfl).mpr (by decide), (hiff 3 _ rfl).mpr (by decide),
    fun h => absurd ((hiff 1 _ rfl).mp h) (by decide)⟩

end AgpsSystem

end LocHal.Gnss
