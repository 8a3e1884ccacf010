import LocHal.Gnss.AgpsLists

/-!
# `LocHal.Gnss.AgpsDataCall`: what the pending DS machine waits for

`latestCall` reads the history: the result of the latest start of the data call, and whether an
open, a close or a failure has been reported to the DS machine since. `WaitsForStarted` says that
the pending DS machine waits for a call that was started and that nothing was reported about.

The DS machine becomes pending in two ways. A subscription of the released machine checks the
result of the start. The end of a release with a subscriber waiting (`finishReleasing`) does not.
`waitsForStarted_iff_guarded` is the exact condition over every run: each of these starts
succeeds.

`latestCall` is a fold over the history, and `callOuts` is the same fold over the outputs of one
call. Most outputs start no data call (`startsNoCall`), so they can be passed over.
`callOuts_request` is the request for a data connection: it tries a start and returns its result,
whatever else it does about retries and fallbacks.

`waitsForStarted_report_iff` is the lemma that the condition comes from: a report keeps the property
of the machine if and only if the start that it makes succeeds, or it makes none. The base machines
start nothing of their own (`startsNoCall_report_base`), so a step that runs one of them is no
concern of the property (`waitsForStarted_runSm_of_ne`).
-/

set_option autoImplicit false

namespace LocHal.Gnss

open LabelledRun

/-! ### The history -/

/-- The effect of one entry of the history on the latest start: its result, and whether something
has been reported since. -/
def dataCallEntry (call : Option (Int × Bool)) : AgpsLogEntry → Option (Int × Bool)
  | .output _ (.dsClientOpenAndStartDataCall ret) => some (ret, false)
  | .report .ds _ => call.map fun c => (c.1, true)
  | _ => call

/-- The latest start of the data call. -/
def latestCall (log : List AgpsLogEntry) : Option (Int × Bool) :=
  log.foldl dataCallEntry none

theorem latestCall_append (log log' : List AgpsLogEntry) :
    latestCall (log ++ log') = log'.foldl dataCallEntry (latestCall log) :=
  List.foldl_append

/-- The latest start after the outputs of a machine. -/
def callOuts (call : Option (Int × Bool)) (outs : List AgpsOutput) : Option (Int × Bool) :=
  outs.foldl (fun c o => dataCallEntry c (.output none o)) call

theorem foldl_dataCallEntry_output (sm : Option Nif) (outs : List AgpsOutput)
    (call : Option (Int × Bool)) :
    (outs.map (AgpsLogEntry.output sm)).foldl dataCallEntry call = callOuts call outs := by
  unfold callOuts
  rw [List.foldl_map]
  congr 1
  funext c o
  cases o <;> rfl

theorem callOuts_append (call : Option (Int × Bool)) (outs outs' : List AgpsOutput) :
    callOuts call (outs ++ outs') = callOuts (callOuts call outs) outs' :=
  List.foldl_append

/-- An output that starts no data call. -/
def AgpsOutput.startsNoCall : AgpsOutput → Bool
  | .dsClientOpenAndStartDataCall _ => false
  | _ => true

/-- Outputs that start no data call. -/
theorem callOuts_of_startsNoCall {outs : List AgpsOutput}
    (h : ∀ o ∈ outs, o.startsNoCall = true) (call : Option (Int × Bool)) :
    callOuts call outs = call := by
  unfold callOuts
  induction outs with
  | nil => rfl
  | cons o outs ih =>
      have hstep : dataCallEntry call (.output none o) = call := by
        have ho := h o List.mem_cons_self
        cases o with
        | dsClientOpenAndStartDataCall ret => cases ho
        | _ => rfl
      rw [List.foldl_cons, hstep]
      exact ih fun o ho => h o (List.mem_cons_of_mem _ ho)

namespace AgpsStateMachine

variable {m : AgpsStateMachine} {call : Option (Int × Bool)}

/-! ### The starts of one machine -/

theorem startsNoCall_notifyOuts (m : AgpsStateMachine) (event : AgpsEvent)
    (l : List AgpsSubscriber) :
    ∀ o ∈ l.flatMap (m.notifyOuts event), o.startsNoCall = true := by
  intro o ho
  obtain ⟨sub, -, hsub⟩ := List.mem_flatMap.mp ho
  unfold notifyOuts notifyEvent at hsub
  cases hcls : m.cls <;> cases event <;> simp [hcls] at hsub
  case dsStateMachine.released =>
    rcases hsub with rfl | rfl <;> rfl
  all_goals
    subst hsub
    rfl

theorem startsNoCall_releaseOuts (m : AgpsStateMachine) (env : AgpsEnv) :
    ∀ o ∈ m.releaseOuts env, o.startsNoCall = true := by
  intro o ho
  rcases of_mem_releaseOuts ho with ⟨-, rfl⟩ | ⟨-, rfl⟩ <;> rfl

/-- An unsubscription starts no data call. -/
theorem startsNoCall_unsubscribe (env : AgpsEnv) (sub : AgpsSubscriber)
    (hvalid : m.mState ≠ .invalid) :
    ∀ o ∈ (m.processAgpsEventUnsubscribe env sub).2, o.startsNoCall = true := by
  intro o ho
  rcases of_mem_unsubscribe hvalid ho with rfl | ho
  · rfl
  · exact startsNoCall_releaseOuts m env o ho

/-- The first active subscriber. -/
theorem getFirstSubscriber_eq_none :
    m.getFirstSubscriber false = none ↔ m.anyActiveSubscribers = false := by
  unfold getFirstSubscriber anyActiveSubscribers
  rw [List.find?_eq_none, List.any_eq_false]
  simp

/-- A request without an active subscriber does nothing. -/
theorem requestOrReleaseDataConn_inactive (hcls : m.cls = .dsStateMachine) (env : AgpsEnv)
    (hnone : m.anyActiveSubscribers = false) :
    m.requestOrReleaseDataConn env true = (m, [], -1) := by
  unfold requestOrReleaseDataConn
  rw [hcls, getFirstSubscriber_eq_none.mpr hnone]
  rfl

/-- A request of the DS class with an active subscriber starts the data call when the start
function is registered, and it returns 0 when the start succeeds only. -/
theorem callOuts_request (hcls : m.cls = .dsStateMachine) (env : AgpsEnv)
    (hactive : m.anyActiveSubscribers = true) (call : Option (Int × Bool)) :
    callOuts call (m.requestOrReleaseDataConn env true).2.1
        = env.mDSClientOpenAndStartDataCallFn.elim call (fun ret => some (ret, false)) ∧
      ((m.requestOrReleaseDataConn env true).2.2 = 0 →
        env.mDSClientOpenAndStartDataCallFn = some locApiAdapterErrSuccess) := by
  have hcodes : locApiAdapterErrEngineBusy ≠ 0 ∧ locApiAdapterErrUnsupported ≠ 0 := by decide
  cases hfirst : m.getFirstSubscriber false with
  | none => rw [getFirstSubscriber_eq_none.mp hfirst] at hactive; cases hactive
  | some sub =>
      unfold requestOrReleaseDataConn
      rw [hcls, hfirst]
      cases env.mDSClientOpenAndStartDataCallFn with
      | none =>
          refine ⟨?_, by simp⟩
          simp [notifyEventToSubscriber, notifyEvent, hcls, callOuts, dataCallEntry]
      | some ret =>
          by_cases hbusy : ret = locApiAdapterErrEngineBusy
          · subst hbusy
            by_cases hretries : maxStartDataCallRetries < m.mRetries + 1
            · simp [hretries, notifyEventToSubscriber, notifyEvent, callOuts, dataCallEntry, hcodes]
            · cases env.locTimerStart <;> simp [hretries, callOuts, dataCallEntry, hcodes]
          · by_cases hunsupported : ret = locApiAdapterErrUnsupported
            · subst hunsupported
              simp [hbusy, notifyEventToSubscriber, notifyEvent, hcls, callOuts, dataCallEntry,
                hcodes]
            · refine ⟨by simp [hbusy, hunsupported, callOuts, dataCallEntry], ?_⟩
              simp only [hbusy, hunsupported, if_false, Bool.not_true, Bool.false_and,
                Bool.false_eq_true]
              rintro rfl
              rfl

/-- The pending DS machine waits for a started call that nothing was reported about. `call` is the
result of the latest start, and whether an open or a close of it was reported since. In any other
state the machine does not wait. -/
def WaitsForStarted (m : AgpsStateMachine) (call : Option (Int × Bool)) : Prop :=
  m.mState = .pending → call = some (locApiAdapterErrSuccess, false)

/-- A subscription checks the result of the start. -/
theorem WaitsForStarted.subscribe (h : m.WaitsForStarted call) (hcls : m.cls = .dsStateMachine)
    (hvalid : m.mState ≠ .invalid) (env : AgpsEnv) (sub : AgpsSubscriber) :
    (m.processAgpsEventSubscribe env sub).1.WaitsForStarted
      (callOuts call (m.processAgpsEventSubscribe env sub).2) := by
  have hst' : (m.addSubscriber sub).mState = m.mState := by rw [addSubscriber_eq]
  have hcls' : (m.addSubscriber sub).cls = .dsStateMachine := by rw [addSubscriber_eq]; exact hcls
  unfold processAgpsEventSubscribe
  cases hst : m.mState with
  | invalid => exact absurd hst hvalid
  | released =>
      dsimp only
      obtain ⟨r, hfst⟩ := requestOrReleaseDataConn_fst (m.addSubscriber sub) env true
      cases hactive : (m.addSubscriber sub).anyActiveSubscribers with
      | false =>
          -- without an active subscriber no call is made
          rw [requestOrReleaseDataConn_inactive hcls' env hactive,
            if_neg (show ¬ (-1 : Int) = 0 by decide)]
          intro hpending
          rw [hst', hst] at hpending
          cases hpending
      | true =>
          obtain ⟨hcall, hret⟩ := callOuts_request hcls' env hactive call
          intro hpending
          rw [hcall]
          by_cases hzero : ((m.addSubscriber sub).requestOrReleaseDataConn env true).2.2 = 0
          · rw [hret hzero]
            rfl
          · -- the machine stays released
            rw [if_neg hzero, hfst, hst', hst] at hpending
            cases hpending
  | pending =>
      -- a pending machine does not call again
      intro _
      exact h hst
  | acquired =>
      -- the connection is there already
      obtain ⟨r, hnotify, -⟩ := notifyEventToSubscriber_eq m .granted sub
      dsimp only
      rw [hnotify]
      intro hpending
      dsimp only at hpending
      rw [addSubscriber_eq, hst] at hpending
      cases hpending
  | releasing =>
      intro hpending
      rw [hst', hst] at hpending
      cases hpending

/-- An unsubscription leads to the pending state from the pending state only. -/
theorem WaitsForStarted.unsubscribe (h : m.WaitsForStarted call) (hvalid : m.mState ≠ .invalid)
    (env : AgpsEnv) (sub : AgpsSubscriber) :
    (m.processAgpsEventUnsubscribe env sub).1.WaitsForStarted
      (callOuts call (m.processAgpsEventUnsubscribe env sub).2) := by
  rw [callOuts_of_startsNoCall (startsNoCall_unsubscribe env sub hvalid)]
  by_cases hreleased : m.mState = .released
  · rw [processAgpsEventUnsubscribe_released hreleased]
    exact h
  · rw [processAgpsEventUnsubscribe_eq m env sub hvalid hreleased]
    intro hpending
    dsimp only [unsubscribedState] at hpending
    split at hpending
    · cases hpending
    · split at hpending
      · cases hpending
      · exact h hpending

/-- A report takes the DS machine out of the pending state. -/
theorem processReport_pending (hcls : m.cls = .dsStateMachine) (env : AgpsEnv)
    {event : AgpsEvent} (hevent : event = .granted ∨ event = .released ∨ event = .denied)
    (hst : m.mState = .pending) : (m.processReport env event).1.mState ≠ .pending := by
  have hdenied : (m.processAgpsEventDenied env).1.mState = .released := by
    obtain ⟨r, hclear⟩ := notifyAndClear_eq m .denied
    unfold processAgpsEventDenied
    rw [hst]
    dsimp only
    rw [hclear]
  have hgranted : m.processAgpsEventGranted.1.mState = .acquired := by
    rw [processAgpsEventGranted_eq hst]
  unfold processReport translateEvent
  rcases hevent with rfl | rfl | rfl
  · rw [if_neg (by simp)]
    dsimp only
    rw [hgranted]
    simp
  · rw [if_pos ⟨hcls, rfl, hst⟩]
    dsimp only
    rw [hdenied]
    simp
  · rw [if_neg (by simp)]
    dsimp only
    rw [hdenied]
    simp

/-- A report leaves the DS machine pending at the end of a release only, and then it waits for a
started call if and only if the start succeeds. -/
theorem waitsForStarted_report_iff (hcls : m.cls = .dsStateMachine) (env : AgpsEnv)
    {event : AgpsEvent} (hevent : event = .granted ∨ event = .released ∨ event = .denied)
    (hcall : call ≠ some (locApiAdapterErrSuccess, false)) :
    (m.processReport env event).1.WaitsForStarted
        (callOuts call (m.processReport env event).2) ↔
      (event = .released ∨ event = .denied → m.mState = .releasing →
        m.anyActiveSubscribers = true →
        env.mDSClientOpenAndStartDataCallFn = some locApiAdapterErrSuccess) := by
  by_cases hend : m.mState = .releasing ∧ (event = .released ∨ event = .denied) ∧
      m.anyActiveSubscribers = true
  · obtain ⟨hst, hclose, hactive⟩ := hend
    -- the end of a release, with subscribers left
    have hfinish : m.processReport env event = m.finishReleasing env := by
      unfold processReport translateEvent
      rcases hclose with rfl | rfl <;>
        simp [hst, processAgpsEventReleased, processAgpsEventDenied]
    obtain ⟨r, hfst⟩ := requestOrReleaseDataConn_fst { m with
      mState := .pending
      mSubscriberList := m.mSubscriberList.filter fun s => !s.mIsInactive } env true
    -- those that are active stay in the list
    have hactive' : AgpsStateMachine.anyActiveSubscribers { m with
        mState := .pending
        mSubscriberList := m.mSubscriberList.filter fun s => !s.mIsInactive } = true := by
      unfold anyActiveSubscribers at hactive ⊢
      rw [List.any_filter]
      simpa using hactive
    rw [hfinish, finishReleasing_eq, if_pos hactive]
    dsimp only
    rw [callOuts_append, callOuts_of_startsNoCall (startsNoCall_notifyOuts m _ _),
      (callOuts_request (by exact hcls) env hactive' call).1]
    unfold WaitsForStarted
    rw [hfst]
    constructor
    · intro hwaits _ _ _
      have hstarted := hwaits rfl
      cases hfn : env.mDSClientOpenAndStartDataCallFn with
      | none =>
          rw [hfn] at hstarted
          exact absurd hstarted hcall
      | some ret =>
          rw [hfn] at hstarted
          cases hstarted
          rfl
    · intro hstarts _
      rw [hstarts hclose hst hactive]
      rfl
  · refine iff_of_true ?_ fun hclose hst hactive => absurd ⟨hst, hclose, hactive⟩ hend
    -- every other report ends outside the pending state
    intro hpending
    by_cases hst : m.mState = .pending
    · exact absurd hpending (processReport_pending hcls env hevent hst)
    · rcases processReport_cases m env event with heq | ⟨hst', -, -⟩ | ⟨notified, -, heq⟩ |
        ⟨hst', hclose, heq⟩
      · rw [heq] at hpending
        exact absurd hpending hst
      · exact absurd hst' hst
      · obtain ⟨r, hclear⟩ := notifyAndClear_eq m notified
        rw [heq, hclear] at hpending
        cases hpending
      · have hnone : ¬ m.anyActiveSubscribers = true := fun hactive =>
          hend ⟨hst', hclose, hactive⟩
        rw [heq, finishReleasing_eq, if_neg hnone] at hpending
        cases hpending

/-! ### The base class -/

theorem startsNoCall_subscribe_base (hcls : m.cls = .agpsStateMachine) (env : AgpsEnv)
    (sub : AgpsSubscriber) (hvalid : m.mState ≠ .invalid) :
    ∀ o ∈ (m.processAgpsEventSubscribe env sub).2, o.startsNoCall = true := by
  rw [processAgpsEventSubscribe_base hcls env sub hvalid]
  intro o ho
  dsimp only [subscribeOuts] at ho
  split at ho
  · rw [List.mem_singleton.mp ho]
    rfl
  · rw [List.mem_singleton.mp ho]
    rfl
  · cases ho

theorem startsNoCall_report_base (hcls : m.cls = .agpsStateMachine) (env : AgpsEnv)
    (event : AgpsEvent) : ∀ o ∈ (m.processReport env event).2, o.startsNoCall = true := by
  rcases processReport_cases m env event with heq | ⟨hst, -, heq⟩ | ⟨notified, -, heq⟩ |
    ⟨-, -, heq⟩ <;> rw [heq]
  · simp
  · rw [processAgpsEventGranted_eq hst]
    exact startsNoCall_notifyOuts m _ _
  · obtain ⟨r, hclear⟩ := notifyAndClear_eq m notified
    rw [hclear]
    exact startsNoCall_notifyOuts m _ _
  · rw [finishReleasing_eq]
    split
    · dsimp only
      rw [requestOrReleaseDataConn_base (by exact hcls)]
      intro o ho
      rcases List.mem_append.mp ho with ho | ho
      · exact startsNoCall_notifyOuts m _ _ o ho
      · rw [List.mem_singleton.mp ho]
        rfl
    · exact startsNoCall_notifyOuts m _ _

end AgpsStateMachine

namespace AgpsSystem

open AgpsStateMachine (Sane)
open AgpsManager (newSm)

/-- The pending DS machine waits for a started call that nothing was reported about. -/
def WaitsForStarted (s : AgpsSystem) : Prop :=
  ∀ m, s.sm .ds = some m → m.WaitsForStarted (latestCall s.log)

/-- The condition on one step: a data call that is asked for at the end of a release starts. In
`RELEASING` with an active subscriber, a report that the call is closed makes the machine go to
`PENDING`, and only then it asks for the call, so it waits there whatever the answer is. In the
released state the order is the other one: a refused start leaves the machine released. So no other
step needs a condition. -/
def ReleaseEndStarts (s : AgpsSystem) (i : AgpsCall × AgpsEnv) : Prop :=
  ∀ report ∈ reportOf i.2 i.1, report.1 = .ds → report.2 = .released ∨ report.2 = .denied →
    ∀ m ∈ s.sm .ds, m.mState = .releasing → m.anyActiveSubscribers = true →
      i.2.mDSClientOpenAndStartDataCallFn = some locApiAdapterErrSuccess

/-- What the steps that meet the condition keep. -/
structure DataCallInv (s : AgpsSystem) : Prop where
  waits : s.WaitsForStarted
  sane : ∀ nif m, s.sm nif = some m → Sane nif m

theorem dataCallInv_init : DataCallInv init where
  waits := fun m hm => by cases hm
  sane := sane_init

variable {s t : AgpsSystem} {nif : Nif} {r : AgpsStateMachine × List AgpsOutput}

/-- New entries that start no data call and report nothing. -/
theorem WaitsForStarted.congr (h : s.WaitsForStarted) (hsm : t.sm .ds = s.sm .ds)
    (hlog : latestCall t.log = latestCall s.log) : t.WaitsForStarted := by
  intro m hm
  rw [hlog]
  exact h m (hsm.symm.trans hm)

theorem latestCall_emit (sm : Option Nif) {outs : List AgpsOutput}
    (h : ∀ o ∈ outs, o.startsNoCall = true) :
    latestCall (s.emit sm outs).log = latestCall s.log := by
  rw [log_emit, latestCall_append, foldl_dataCallEntry_output, callOuts_of_startsNoCall h]

/-- The history after a machine ran. -/
theorem latestCall_runSm (s : AgpsSystem) (entry : AgpsLogEntry) (nif : Nif)
    (r : AgpsStateMachine × List AgpsOutput) :
    latestCall ((s.note entry).runSm nif r).log
      = callOuts (dataCallEntry (latestCall s.log) entry) r.2 := by
  rw [log_runSm, log_note, List.append_assoc, latestCall_append, List.foldl_append,
    foldl_dataCallEntry_output]
  rfl

/-- A base machine ran. -/
theorem waitsForStarted_runSm_of_ne (h : s.WaitsForStarted) (hne : nif ≠ .ds)
    {entry : AgpsLogEntry} (hentry : ∀ call, dataCallEntry call entry = call)
    (houts : ∀ o ∈ r.2, o.startsNoCall = true) :
    ((s.note entry).runSm nif r).WaitsForStarted := by
  refine h.congr (sm_runSm_of_ne _ hne.symm _) ?_
  rw [latestCall_runSm, hentry, callOuts_of_startsNoCall houts]

/-- The DS machine ran. -/
theorem waitsForStarted_runSm_ds {entry : AgpsLogEntry} :
    ((s.note entry).runSm .ds r).WaitsForStarted ↔
      r.1.WaitsForStarted (callOuts (dataCallEntry (latestCall s.log) entry) r.2) := by
  unfold WaitsForStarted
  rw [latestCall_runSm, sm_runSm_self]
  constructor
  · intro h
    exact h r.1 rfl
  · intro h m hm
    cases hm
    exact h

/-- A created DS machine is released. -/
theorem WaitsForStarted.created {env : AgpsEnv} (h : s.WaitsForStarted)
    (hcreated : Created env s t) : t.WaitsForStarted := by
  obtain ⟨outs, hlog, houts⟩ := hcreated.log
  have hsame : latestCall t.log = latestCall s.log := by
    rw [hlog, latestCall_append, foldl_dataCallEntry_output, callOuts_of_startsNoCall]
    intro o ho
    rw [houts o ho]
    rfl
  rcases hcreated.sm .ds with hsm | ⟨-, hnew⟩
  · exact h.congr hsm hsame
  · intro m hm
    cases hnew.symm.trans hm
    intro hpending
    cases hpending

/-- The report of an event to the DS machine. -/
theorem waitsForStarted_report_ds {env : AgpsEnv} {event : AgpsEvent} {m : AgpsStateMachine}
    (hsane : Sane .ds m)
    (hevent : event = .granted ∨ event = .released ∨ event = .denied) :
    (s.report env .ds event m).WaitsForStarted ↔
      (event = .released ∨ event = .denied → m.mState = .releasing →
        m.anyActiveSubscribers = true →
        env.mDSClientOpenAndStartDataCallFn = some locApiAdapterErrSuccess) := by
  refine waitsForStarted_runSm_ds.trans ?_
  refine AgpsStateMachine.waitsForStarted_report_iff hsane.cls env hevent ?_
  -- something has just been reported
  show (latestCall s.log).map (fun c => (c.1, true)) ≠ _
  cases latestCall s.log <;> simp

/-- The events that a report brings. -/
theorem event_of_reportOf {env : AgpsEnv} {call : AgpsCall} {report : Nif × AgpsEvent}
    (hcall : reportOf env call = some report) :
    report.2 = .granted ∨ report.2 = .released ∨ report.2 = .denied := by
  cases call <;> cases hcall <;> simp

/-- Every step that meets the condition keeps the invariant. -/
theorem DataCallInv.step {i : AgpsCall × AgpsEnv} (h : DataCallInv s)
    (hok : s.ReleaseEndStarts i) (ht : s.step i = some t) : DataCallInv t := by
  obtain ⟨call, env⟩ := i
  refine ⟨?_, sane_step h.sane ht⟩
  obtain ⟨s', hcreated, hdispatch⟩ := step_cases ht
  have hdequeue : (s.dequeue call).WaitsForStarted := h.waits.congr (by simp) (by simp)
  have hwaits : s'.WaitsForStarted := hdequeue.created hcreated
  have hsane : ∀ nif m, s'.sm nif = some m → Sane nif m :=
    hcreated.forall sane_newSm fun nif m hm => h.sane nif m (by rwa [sm_dequeue] at hm)
  have hbase : ∀ nif m, nif ≠ .ds → s'.sm nif = some m → m.cls = .agpsStateMachine := by
    intro nif m hne hm
    rw [(hsane nif m hm).cls]
    cases nif with
    | ds => exact absurd rfl hne
    | _ => rfl
  cases hdispatch with
  | idle => exact hwaits
  | requestNull =>
      refine hwaits.congr rfl ?_
      rw [latestCall_emit none (by simp [AgpsOutput.startsNoCall]), log_note, latestCall_append]
      rfl
  | @request _ connHandle agpsType posted m hcall hsm =>
      -- the other machines start no data call
      by_cases hds : route env agpsType = .ds
      · rw [hds] at hsm ⊢
        have hm := hsane .ds m hsm
        exact waitsForStarted_runSm_ds.mpr
          (AgpsStateMachine.WaitsForStarted.subscribe (hwaits m hsm) hm.cls hm.list.valid env _)
      · refine waitsForStarted_runSm_of_ne hwaits hds (fun _ => rfl) ?_
        exact AgpsStateMachine.startsNoCall_subscribe_base (hbase _ m hds hsm) env _
          (hsane _ m hsm).list.valid
  | releaseNone =>
      refine hwaits.congr rfl ?_
      rw [latestCall_emit none (by simp [AgpsOutput.startsNoCall]), log_note, latestCall_append]
      rfl
  | @release connHandle nif rest m subscriber hs hholders hsm hsub =>
      have hvalid := (hsane _ m hsm).list.valid
      by_cases hds : nif = .ds
      · subst hds
        exact waitsForStarted_runSm_ds.mpr
          (AgpsStateMachine.WaitsForStarted.unsubscribe (hwaits m hsm) hvalid env _)
      · refine waitsForStarted_runSm_of_ne hwaits hds (fun _ => rfl) ?_
        exact AgpsStateMachine.startsNoCall_unsubscribe env _ hvalid
  | @report _ nif event m hcall hsm apn bearer =>
      by_cases hds : nif = .ds
      · subst hds
        have hm : Sane .ds { m with mAPN := apn, mBearer := bearer } :=
          ⟨(hsane _ m hsm).cls, (hsane _ m hsm).type, (hsane _ m hsm).list⟩
        refine (waitsForStarted_report_ds hm (event_of_reportOf hcall)).mpr ?_
        -- the end of a release starts the next call, by the condition on the step
        intro hclose hst hactive
        have hold : s.sm .ds = some m := sm_of_created hcreated hsm (by rw [hst]; simp)
        exact hok _ hcall rfl hclose m hold hst hactive
      · refine waitsForStarted_runSm_of_ne hwaits hds ?_ ?_
        · intro call
          cases nif with
          | ds => exact absurd rfl hds
          | _ => rfl
        · exact AgpsStateMachine.startsNoCall_report_base (m := { m with
            mAPN := apn, mBearer := bearer }) (hbase _ m hds hsm) env event
  | modemSSR =>
      -- the state of the machine stays
      obtain ⟨outs, hlog, houts⟩ := log_handleModemSSR s' env
      intro m hm
      rw [sm_handleModemSSR, Option.map_eq_some_iff] at hm
      obtain ⟨m', hm', rfl⟩ := hm
      rw [hlog, latestCall_append, foldl_dataCallEntry_output, callOuts_of_startsNoCall]
      · exact hwaits m' hm'
      · intro o ho
        have hmem := houts o ho
        simp only [List.mem_cons, List.not_mem_nil, or_false] at hmem
        rcases hmem with rfl | rfl | rfl | rfl <;> rfl
  | @retry n m htimers hsm =>
      refine hwaits.congr rfl ?_
      refine latestCall_emit (s := { s' with retryTimers := n }) (some .ds) ?_
      intro o ho
      unfold AgpsStateMachine.retryCallback at ho
      split at ho
      · cases ho
      · rw [List.mem_singleton.mp ho]
        rfl

/-- The condition is exact for one step. -/
theorem releaseEndStarts_of_waits {i : AgpsCall × AgpsEnv} (h : DataCallInv s)
    (ht : s.step i = some t) (hwaits : t.WaitsForStarted) : s.ReleaseEndStarts i := by
  obtain ⟨call, env⟩ := i
  rintro ⟨nif, event⟩ hcall hds hclose m hm hst hactive
  obtain rfl : nif = .ds := hds
  obtain ⟨s', apn, bearer, -, hstep⟩ := step_of_report hcall hm
  cases hstep.symm.trans ht
  have hsane : Sane .ds { m with mAPN := apn, mBearer := bearer } :=
    ⟨(h.sane _ m hm).cls, (h.sane _ m hm).type, (h.sane _ m hm).list⟩
  exact (waitsForStarted_report_ds hsane (event_of_reportOf hcall)).mp hwaits hclose hst hactive

/-- A report that has no step finds no machine. -/
theorem releaseEndStarts_of_step_none {i : AgpsCall × AgpsEnv} (hnone : s.step i = none) :
    s.ReleaseEndStarts i := by
  obtain ⟨call, env⟩ := i
  rintro ⟨nif, event⟩ hcall hds - m hm - -
  obtain ⟨s', apn, bearer, -, hstep⟩ := step_of_report hcall (hds ▸ hm)
  cases hstep.symm.trans hnone

/-- In every run the pending DS machine waits for a started data call, that nothing was reported
about, in every state if and only if every data call that is started at the end of a release starts.

A request in RELEASED, a retry included, looks at the result of the start. When a release ends and
there are subscribers that wait for a new connection, the machine starts the call and goes to
PENDING whatever the result is. -/
theorem waitsForStarted_iff_guarded (calls : List (AgpsCall × AgpsEnv)) :
    Along AgpsSystem.step WaitsForStarted init calls ↔
      Guarded AgpsSystem.step ReleaseEndStarts init calls := by
  refine along_iff_guarded (I := DataCallInv) (fun s hs => hs.waits) ?_ ?_ ?_ calls init
    dataCallInv_init
  · intro s i t hs hok ht
    exact hs.step hok ht
  · intro s i t hs ht hwaits
    exact releaseEndStarts_of_waits hs ht hwaits
  · intro s i hs hnone
    exact releaseEndStarts_of_step_none hnone

/-- The modem is busy when the release of the first data call ends and a second subscriber
waits. -/
def busyAfterRelease : List (AgpsCall × AgpsEnv) :=
  [(.requestATL 1 locAgpsTypeSuplEs, .emergency locApiAdapterErrSuccess),
    (.reportDataCallOpened, .emergency locApiAdapterErrSuccess),
    (.releaseATL 1, .emergency locApiAdapterErrSuccess),
    (.requestATL 2 locAgpsTypeSuplEs, .emergency locApiAdapterErrSuccess),
    (.reportDataCallClosed, .emergency locApiAdapterErrEngineBusy)]

/-- The DS machine is pending although the start failed. -/
theorem busyAfterRelease_waits :
    ∃ s m, run AgpsSystem.step init busyAfterRelease = some s ∧ s.sm .ds = some m ∧
      m.mState = .pending ∧ latestCall s.log = some (locApiAdapterErrEngineBusy, false) :=
  ⟨_, _, rfl, rfl, rfl, rfl⟩

end AgpsSystem

end LocHal.Gnss
