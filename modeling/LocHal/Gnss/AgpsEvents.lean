import LocHal.Gnss.Agps

/-!
# `LocHal.Gnss.AgpsEvents`: what one event does to a state machine

One lemma for each method, in terms of the state, the subscriber list and the outputs. An event
never changes the class, the type, the APN or the bearer, and the list changes in three ways: a
subscriber is added at the end, one is marked inactive or deleted (`unsubscribed`), or the
notified ones are deleted. `mRetries` is left open, since only `requestOrReleaseDataConn` of the
DS class reads it.

* `notifyAllSubscribers_eq`: the loop notifies the selected subscribers in list order.
* `requestOrReleaseDataConn_fst` and `requestOrReleaseDataConn_base`: the request changes
  `mRetries` only, and the base class sends one status to the framework.
* `processAgpsEventSubscribe_eq`, `processAgpsEventUnsubscribe_released`,
  `processAgpsEventUnsubscribe_eq`, `processAgpsEventGranted_eq`, `finishReleasing_eq` and
  `notifyAndClear_eq`: the events.
-/

set_option autoImplicit false

namespace LocHal.Gnss

namespace AgpsStateMachine

variable {m : AgpsStateMachine} {env : AgpsEnv} {sub : AgpsSubscriber} {event : AgpsEvent}

/-! ### Notifications -/

/-- The outputs of one notification. They do not depend on the state, the list or
`mRetries`. -/
def notifyOuts (m : AgpsStateMachine) (event : AgpsEvent) (sub : AgpsSubscriber) :
    List AgpsOutput := (m.notifyEvent event sub).2

@[simp] theorem notifyOuts_update (m : AgpsStateMachine) (event : AgpsEvent)
    (sub : AgpsSubscriber) (st : AgpsState) (l : List AgpsSubscriber) (r : Nat) :
    notifyOuts { m with mState := st, mSubscriberList := l, mRetries := r } event sub
      = notifyOuts m event sub := by
  unfold notifyOuts notifyEvent
  cases m.cls <;> cases event <;> rfl

/-- A notification changes `mRetries` at most, and only a denial does. -/
theorem notifyEvent_fst (m : AgpsStateMachine) (event : AgpsEvent) (sub : AgpsSubscriber) :
    ∃ r, (m.notifyEvent event sub).1 = { m with mRetries := r } ∧
      (event ≠ .denied → r = m.mRetries) := by
  obtain ⟨cls, _, _, _, _, _, _⟩ := m
  cases cls <;> cases event <;> first
    | exact ⟨_, rfl, fun _ => rfl⟩
    | exact ⟨_, rfl, fun h => absurd rfl h⟩

/-- A notification without deletion. -/
theorem notifyEventToSubscriber_eq (m : AgpsStateMachine) (event : AgpsEvent)
    (sub : AgpsSubscriber) :
    ∃ r, m.notifyEventToSubscriber event sub false
        = ({ m with mRetries := r }, m.notifyOuts event sub) ∧
      (event ≠ .denied → r = m.mRetries) := by
  obtain ⟨r, h, hr⟩ := notifyEvent_fst m event sub
  exact ⟨r, Prod.ext h rfl, hr⟩

/-- Both classes answer an unsubscription with a close. -/
theorem notifyEvent_unsubscribe (m : AgpsStateMachine) (sub : AgpsSubscriber) :
    m.notifyEvent .unsubscribe sub = (m, [.atlCloseStatusCb sub.mConnHandle true]) := by
  unfold notifyEvent
  cases m.cls <;> rfl

/-- The loop of `notifyAllSubscribers`. -/
theorem notifyAllLoop_eq (event : AgpsEvent) (delete : Bool) (type : AgpsNotificationType) :
    ∀ (l : List AgpsSubscriber) (m : AgpsStateMachine),
      ∃ r, notifyAllLoop event delete type m l
          = ({ m with mRetries := r },
            if delete then l.filter fun s => !type.selects s else l,
            (l.filter type.selects).flatMap (m.notifyOuts event)) ∧
        (event ≠ .denied → r = m.mRetries) := by
  intro l
  induction l with
  | nil => intro m; exact ⟨m.mRetries, by cases delete <;> rfl, fun _ => rfl⟩
  | cons s rest ih =>
      intro m
      unfold notifyAllLoop
      by_cases hsel : type.selects s = true
      · obtain ⟨r, hnotify, hr⟩ := notifyEventToSubscriber_eq m event s
        obtain ⟨r', hrest, hr'⟩ := ih { m with mRetries := r }
        have houts : notifyOuts { m with mRetries := r } event = m.notifyOuts event :=
          funext fun sub => notifyOuts_update m event sub m.mState m.mSubscriberList r
        refine ⟨r', ?_, fun hevent => (hr' hevent).trans (hr hevent)⟩
        rw [if_pos hsel, hnotify]
        dsimp only
        rw [hrest, houts]
        cases delete <;> simp [hsel]
      · obtain ⟨r, hrest, hr⟩ := ih m
        refine ⟨r, ?_, hr⟩
        rw [if_neg hsel, hrest]
        cases delete <;> simp [hsel]

/-- `notifyAllSubscribers` notifies the selected subscribers in list order, and deletes them if
it is told to. -/
theorem notifyAllSubscribers_eq (m : AgpsStateMachine) (event : AgpsEvent) (delete : Bool)
    (type : AgpsNotificationType) :
    ∃ r, m.notifyAllSubscribers event delete type
        = ({ m with
              mSubscriberList :=
                if delete then m.mSubscriberList.filter fun s => !type.selects s
                else m.mSubscriberList
              mRetries := r },
            (m.mSubscriberList.filter type.selects).flatMap (m.notifyOuts event)) ∧
      (event ≠ .denied → r = m.mRetries) := by
  obtain ⟨r, h, hr⟩ := notifyAllLoop_eq event delete type m.mSubscriberList m
  exact ⟨r, by unfold notifyAllSubscribers; rw [h], hr⟩

/-! ### The data connection -/

/-- A request or release changes `mRetries` only. -/
theorem requestOrReleaseDataConn_fst (m : AgpsStateMachine) (env : AgpsEnv) (request : Bool) :
    ∃ r, (m.requestOrReleaseDataConn env request).1 = { m with mRetries := r } := by
  unfold requestOrReleaseDataConn
  split
  · exact ⟨_, rfl⟩
  · split
    · exact ⟨_, rfl⟩
    · split
      · exact ⟨_, rfl⟩
      · rename_i s _
        split
        · obtain ⟨r, h, -⟩ := notifyEventToSubscriber_eq m .denied s
          exact ⟨r, by rw [h]⟩
        · dsimp only
          split
          · split
            · obtain ⟨r, h, -⟩ :=
                notifyEventToSubscriber_eq { m with mRetries := m.mRetries + 1 } .denied s
              exact ⟨r, by rw [h]⟩
            · split
              · exact ⟨_, rfl⟩
              · exact ⟨_, rfl⟩
          · split
            · obtain ⟨r, h, -⟩ := notifyEventToSubscriber_eq m .denied s
              exact ⟨r, by rw [h]⟩
            · exact ⟨_, rfl⟩

/-- The base class sends one status to the framework, and succeeds. -/
theorem requestOrReleaseDataConn_base (hcls : m.cls = .agpsStateMachine) (env : AgpsEnv)
    (request : Bool) :
    m.requestOrReleaseDataConn env request
      = (m, [.frameworkStatusV4Cb m.mAgpsType
          (if request then .requestAgpsDataConn else .releaseAgpsDataConn)], 0) := by
  unfold requestOrReleaseDataConn
  rw [hcls]

/-- The outputs of a release request when no active subscriber is left. -/
def releaseOuts (m : AgpsStateMachine) (env : AgpsEnv) : List AgpsOutput :=
  match m.cls with
  | .agpsStateMachine => [.frameworkStatusV4Cb m.mAgpsType .releaseAgpsDataConn]
  | .dsStateMachine => if env.mDSClientStopDataCallFn then [.dsClientStopDataCall] else []

/-- A release request has one output at most. -/
theorem of_mem_releaseOuts {env : AgpsEnv} {o : AgpsOutput} (ho : o ∈ m.releaseOuts env) :
    m.cls = .agpsStateMachine ∧ o = .frameworkStatusV4Cb m.mAgpsType .releaseAgpsDataConn ∨
      m.cls = .dsStateMachine ∧ o = .dsClientStopDataCall := by
  unfold releaseOuts at ho
  cases hcls : m.cls with
  | agpsStateMachine =>
      rw [hcls] at ho
      exact Or.inl ⟨rfl, List.mem_singleton.mp ho⟩
  | dsStateMachine =>
      rw [hcls] at ho
      dsimp only at ho
      split at ho
      · exact Or.inr ⟨rfl, List.mem_singleton.mp ho⟩
      · cases ho

/-- A release request without active subscribers does not start a data call, even where the
stop function is not registered. -/
theorem requestOrReleaseDataConn_release (m : AgpsStateMachine) (env : AgpsEnv)
    (hnone : m.anyActiveSubscribers = false) :
    ∃ ret, m.requestOrReleaseDataConn env false = (m, m.releaseOuts env, ret) := by
  have hfirst : m.getFirstSubscriber false = none := by
    unfold anyActiveSubscribers at hnone
    unfold getFirstSubscriber
    rw [List.find?_eq_none]
    simpa using hnone
  unfold requestOrReleaseDataConn releaseOuts
  rw [hfirst]
  cases m.cls with
  | agpsStateMachine => exact ⟨_, rfl⟩
  | dsStateMachine =>
      cases env.mDSClientStopDataCallFn with
      | true => exact ⟨_, rfl⟩
      | false => exact ⟨_, rfl⟩

/-- The start of a data call is refused for good: the start function is not registered, it
returns `LOC_API_ADAPTER_ERR_UNSUPPORTED`, or it is busy and the retries are used up. -/
def startDenied (m : AgpsStateMachine) (env : AgpsEnv) : Bool :=
  match env.mDSClientOpenAndStartDataCallFn with
  | none => true
  | some ret =>
      ret = locApiAdapterErrUnsupported ||
        (ret = locApiAdapterErrEngineBusy && m.mRetries ≥ maxStartDataCallRetries)

/-- The outputs of a request of the DS class: the start of a data call and of a retry timer,
and the fallback to SUPL for the first active subscriber when the start is refused for good. -/
theorem requestOrReleaseDataConn_ds (hcls : m.cls = .dsStateMachine) (env : AgpsEnv) :
    ∃ calls, (m.requestOrReleaseDataConn env true).2.1
        = calls ++ (match m.getFirstSubscriber false with
          | none => []
          | some sub =>
              if m.startDenied env then [.sendMsgToAdapterQueue sub.mConnHandle locAgpsTypeSupl]
              else []) ∧
      ∀ o ∈ calls, o = .locTimerStart ∨ ∃ ret, o = .dsClientOpenAndStartDataCall ret := by
  have hcodes : locApiAdapterErrEngineBusy ≠ locApiAdapterErrUnsupported := by decide
  unfold requestOrReleaseDataConn startDenied
  rw [hcls]
  cases m.getFirstSubscriber false with
  | none => exact ⟨[], rfl, by simp⟩
  | some sub =>
      cases env.mDSClientOpenAndStartDataCallFn with
      | none => exact ⟨[], by simp [notifyEventToSubscriber, notifyEvent, hcls], by simp⟩
      | some ret =>
          by_cases hbusy : ret = locApiAdapterErrEngineBusy
          · subst hbusy
            by_cases hretries : maxStartDataCallRetries < m.mRetries + 1
            · refine ⟨[.dsClientOpenAndStartDataCall locApiAdapterErrEngineBusy], ?_, by simp⟩
              simp [hretries, notifyEventToSubscriber, notifyEvent, Nat.le_of_lt_succ hretries]
            · have hle : ¬ maxStartDataCallRetries ≤ m.mRetries := by omega
              cases env.locTimerStart with
              | true =>
                  refine ⟨[.dsClientOpenAndStartDataCall locApiAdapterErrEngineBusy,
                    .locTimerStart], ?_, by simp⟩
                  simp [hretries, hle, hcodes]
              | false =>
                  refine ⟨[.dsClientOpenAndStartDataCall locApiAdapterErrEngineBusy], ?_, by simp⟩
                  simp [hretries, hle, hcodes]
          · by_cases hunsupported : ret = locApiAdapterErrUnsupported
            · subst hunsupported
              refine ⟨[.dsClientOpenAndStartDataCall locApiAdapterErrUnsupported], ?_, by simp⟩
              simp [hcodes.symm, notifyEventToSubscriber, notifyEvent, hcls]
            · refine ⟨[.dsClientOpenAndStartDataCall ret], ?_, by simp⟩
              simp [hbusy, hunsupported]

/-! ### The subscriber list -/

theorem mem_of_getSubscriber {h : ConnHandle} (hget : m.getSubscriber h = some sub) :
    sub ∈ m.mSubscriberList ∧ sub.mConnHandle = h :=
  ⟨List.mem_of_find?_eq_some hget, by simpa using List.find?_some hget⟩

/-- The list after `addSubscriber`. -/
theorem addSubscriber_eq (m : AgpsStateMachine) (sub : AgpsSubscriber) :
    m.addSubscriber sub = { m with mSubscriberList := (m.addSubscriber sub).mSubscriberList } := by
  unfold addSubscriber
  split <;> rfl

/-- A subscriber of the list after `addSubscriber` was there, or it is the new one and its
handle was not in the list. -/
theorem mem_addSubscriber {s : AgpsSubscriber} :
    s ∈ (m.addSubscriber sub).mSubscriberList ↔
      s ∈ m.mSubscriberList ∨
        (s = sub ∧ ∀ t ∈ m.mSubscriberList, t.mConnHandle ≠ sub.mConnHandle) := by
  unfold addSubscriber
  split
  · rename_i hany
    simp only [List.any_eq_true, decide_eq_true_eq] at hany
    obtain ⟨t, ht, hth⟩ := hany
    constructor
    · exact Or.inl
    · rintro (hs | ⟨-, hnone⟩)
      · exact hs
      · exact absurd hth (hnone t ht)
  · rename_i hany
    simp only [List.any_eq_true, decide_eq_true_eq, not_exists, not_and] at hany
    rw [List.mem_append, List.mem_singleton]
    exact or_congr_right ⟨fun h => ⟨h, hany⟩, fun h => h.1⟩

/-- A listed handle is not added again. -/
theorem addSubscriber_of_listed (hlisted : (m.getSubscriber sub.mConnHandle).isSome = true) :
    m.addSubscriber sub = m := by
  have hany : (m.mSubscriberList.any fun s => s.mConnHandle = sub.mConnHandle) = true := by
    rw [List.any_eq_true]
    unfold getSubscriber at hlisted
    rw [List.find?_isSome] at hlisted
    exact hlisted
  unfold addSubscriber
  rw [if_pos hany]

/-- The handle is in the list after `addSubscriber`. -/
theorem exists_mem_addSubscriber (m : AgpsStateMachine) (sub : AgpsSubscriber) :
    ∃ s ∈ (m.addSubscriber sub).mSubscriberList, s.mConnHandle = sub.mConnHandle := by
  by_cases hnew : ∀ t ∈ m.mSubscriberList, t.mConnHandle ≠ sub.mConnHandle
  · exact ⟨sub, mem_addSubscriber.mpr (Or.inr ⟨rfl, hnew⟩), rfl⟩
  · push Not at hnew
    obtain ⟨t, ht, hth⟩ := hnew
    exact ⟨t, mem_addSubscriber.mpr (Or.inl ht), hth⟩

/-- The list that an unsubscription leaves: a subscriber that waits for the close becomes
inactive, and another one is deleted. -/
def unsubscribed (sub : AgpsSubscriber) (l : List AgpsSubscriber) : List AgpsSubscriber :=
  if sub.mWaitForCloseComplete then setInactive sub.mConnHandle l
  else l.filter fun s => s.mConnHandle ≠ sub.mConnHandle

theorem unsubscribeCurrent_eq (m : AgpsStateMachine) (sub : AgpsSubscriber) :
    m.unsubscribeCurrent sub
      = ({ m with mSubscriberList := unsubscribed sub m.mSubscriberList },
        if sub.mWaitForCloseComplete then [] else [.atlCloseStatusCb sub.mConnHandle true]) := by
  unfold unsubscribeCurrent unsubscribed markInactive notifyEventToSubscriber
  rw [notifyEvent_unsubscribe]
  cases sub.mWaitForCloseComplete <;> rfl

/-! ### The events -/

/-- A subscription adds the subscriber. It moves a released machine to the pending state when
the request returns 0, as the one of the base class does. -/
theorem processAgpsEventSubscribe_eq (m : AgpsStateMachine) (env : AgpsEnv)
    (sub : AgpsSubscriber) (hvalid : m.mState ≠ .invalid) :
    ∃ st r, (m.processAgpsEventSubscribe env sub).1
        = { m with
            mState := st, mSubscriberList := (m.addSubscriber sub).mSubscriberList
            mRetries := r } ∧
      (m.mState = .released ∧
          (st = .pending ∨ st = .released ∧ m.cls = .dsStateMachine) ∨
        m.mState ≠ .released ∧ st = m.mState) := by
  unfold processAgpsEventSubscribe
  rw [addSubscriber_eq]
  split
  · rename_i hst
    obtain ⟨r, h⟩ := requestOrReleaseDataConn_fst
      { m with mSubscriberList := (m.addSubscriber sub).mSubscriberList } env true
    dsimp only
    rw [h]
    split
    · exact ⟨.pending, r, rfl, Or.inl ⟨hst, Or.inl rfl⟩⟩
    · rename_i hret
      refine ⟨.released, r, by rw [← hst], Or.inl ⟨hst, Or.inr ⟨rfl, ?_⟩⟩⟩
      cases hcls : m.cls with
      | agpsStateMachine =>
          exact absurd (by rw [requestOrReleaseDataConn_base (by exact hcls)]) hret
      | dsStateMachine => rfl
  · rename_i hst
    exact ⟨m.mState, m.mRetries, rfl, Or.inr ⟨by simp [hst], rfl⟩⟩
  · rename_i hst
    obtain ⟨r, h, -⟩ := notifyEventToSubscriber_eq m .granted sub
    rw [h]
    exact ⟨m.mState, r, by unfold addSubscriber; dsimp only; split <;> rfl,
      Or.inr ⟨by simp [hst], rfl⟩⟩
  · rename_i hst
    exact ⟨m.mState, m.mRetries, rfl, Or.inr ⟨by simp [hst], rfl⟩⟩
  · rename_i hst
    exact absurd hst hvalid

/-- The outputs of a subscription of the base class. -/
def subscribeOuts (m : AgpsStateMachine) (sub : AgpsSubscriber) : List AgpsOutput :=
  match m.mState with
  | .released => [.frameworkStatusV4Cb m.mAgpsType .requestAgpsDataConn]
  | .acquired => [.atlOpenStatusCb sub.mConnHandle true m.mAPN m.mBearer m.mAgpsType]
  | _ => []

/-- A subscription of the base class in full. -/
theorem processAgpsEventSubscribe_base (hcls : m.cls = .agpsStateMachine) (env : AgpsEnv)
    (sub : AgpsSubscriber) (hvalid : m.mState ≠ .invalid) :
    m.processAgpsEventSubscribe env sub
      = ({ m with
            mState := if m.mState = .released then .pending else m.mState
            mSubscriberList := (m.addSubscriber sub).mSubscriberList },
          m.subscribeOuts sub) := by
  obtain ⟨cls, _, st, l, _, _, _⟩ := m
  cases hcls
  unfold processAgpsEventSubscribe addSubscriber
  cases st with
  | invalid => exact absurd rfl hvalid
  | released => dsimp only; split <;> rfl
  | pending => dsimp only; split <;> rfl
  | acquired =>
      dsimp only [notifyEventToSubscriber, notifyEvent]
      rw [if_neg Bool.false_ne_true]
      split <;> rfl
  | releasing => dsimp only; split <;> rfl

/-- An unsubscription in the released state only notifies. -/
theorem processAgpsEventUnsubscribe_released (hst : m.mState = .released) (env : AgpsEnv)
    (sub : AgpsSubscriber) :
    m.processAgpsEventUnsubscribe env sub
      = (m, [.atlCloseStatusCb sub.mConnHandle true]) := by
  unfold processAgpsEventUnsubscribe notifyEventToSubscriber
  rw [hst]
  dsimp only
  rw [notifyEvent_unsubscribe]
  rfl

/-- The state after an unsubscription that leaves the list `l`. -/
def unsubscribedState (st : AgpsState) (l : List AgpsSubscriber) : AgpsState :=
  if l = [] then .released
  else if st ≠ .releasing ∧ (l.any fun s => !s.mIsInactive) = false then .releasing
  else st

/-- The release of a connection that nobody uses. -/
theorem releaseUnused_eq (m : AgpsStateMachine) (env : AgpsEnv) (hne : m.mState ≠ .releasing) :
    m.releaseUnused env
      = ({ m with mState := unsubscribedState m.mState m.mSubscriberList },
        if m.anyActiveSubscribers then [] else m.releaseOuts env) := by
  unfold releaseUnused unsubscribedState
  by_cases hl : m.mSubscriberList = []
  · have hnone : m.anyActiveSubscribers = false := by
      unfold anyActiveSubscribers
      rw [hl]
      rfl
    obtain ⟨ret, hreq⟩ := requestOrReleaseDataConn_release (m.transitionState .released) env hnone
    rw [hreq, hnone, if_pos hl, if_pos (by rw [hl]; rfl)]
    rfl
  · rw [if_neg (by simpa using hl), if_neg hl]
    cases hactive : m.anyActiveSubscribers with
    | true =>
        have hany : (m.mSubscriberList.any fun s => !s.mIsInactive) = true := hactive
        simp [hany]
    | false =>
        obtain ⟨ret, hreq⟩ :=
          requestOrReleaseDataConn_release (m.transitionState .releasing) env hactive
        have hany : (m.mSubscriberList.any fun s => !s.mIsInactive) = false := hactive
        rw [hany, if_pos (show (!false) = true from rfl), hreq, if_pos ⟨hne, rfl⟩]
        rfl

/-- An unsubscription in another state. A release is requested when no active subscriber is
left, unless it has been requested before. -/
theorem processAgpsEventUnsubscribe_eq (m : AgpsStateMachine) (env : AgpsEnv)
    (sub : AgpsSubscriber) (hvalid : m.mState ≠ .invalid) (hreleased : m.mState ≠ .released) :
    m.processAgpsEventUnsubscribe env sub
      = ({ m with
            mState := unsubscribedState m.mState (unsubscribed sub m.mSubscriberList)
            mSubscriberList := unsubscribed sub m.mSubscriberList },
          (if sub.mWaitForCloseComplete then [] else [.atlCloseStatusCb sub.mConnHandle true]) ++
            if m.mState = .releasing ∨
                ((unsubscribed sub m.mSubscriberList).any fun s => !s.mIsInactive) = true
              then [] else m.releaseOuts env) := by
  unfold processAgpsEventUnsubscribe
  rw [unsubscribeCurrent_eq]
  dsimp only
  cases hst : m.mState with
  | invalid => exact absurd hst hvalid
  | released => exact absurd hst hreleased
  | pending =>
      dsimp only
      rw [releaseUnused_eq _ _ (by simp)]
      simp [anyActiveSubscribers, releaseOuts]
  | acquired =>
      dsimp only
      rw [releaseUnused_eq _ _ (by simp)]
      simp [anyActiveSubscribers, releaseOuts]
  | releasing =>
      dsimp only
      unfold unsubscribedState transitionState
      cases unsubscribed sub m.mSubscriberList <;> simp

/-- The outputs of an unsubscription: the status of the close, and a release request. -/
theorem of_mem_unsubscribe (hvalid : m.mState ≠ .invalid) {env : AgpsEnv} {sub : AgpsSubscriber}
    {o : AgpsOutput} (ho : o ∈ (m.processAgpsEventUnsubscribe env sub).2) :
    o = .atlCloseStatusCb sub.mConnHandle true ∨ o ∈ m.releaseOuts env := by
  by_cases hreleased : m.mState = .released
  · rw [processAgpsEventUnsubscribe_released hreleased] at ho
    exact Or.inl (List.mem_singleton.mp ho)
  · rw [processAgpsEventUnsubscribe_eq m env sub hvalid hreleased] at ho
    rcases List.mem_append.mp ho with ho | ho
    · split at ho
      · cases ho
      · exact Or.inl (List.mem_singleton.mp ho)
    · split at ho
      · cases ho
      · exact Or.inr ho

/-- A grant notifies the active subscribers of a pending machine. -/
theorem processAgpsEventGranted_eq (hst : m.mState = .pending) :
    m.processAgpsEventGranted
      = ({ m with mState := .acquired },
        (m.mSubscriberList.filter fun s => !s.mIsInactive).flatMap (m.notifyOuts .granted)) := by
  unfold processAgpsEventGranted
  rw [hst]
  obtain ⟨r, h, hr⟩ := notifyAllSubscribers_eq (m.transitionState .acquired) .granted false
    .forActiveSubscribers
  have houts : notifyOuts (m.transitionState .acquired) .granted = m.notifyOuts .granted :=
    funext fun sub => notifyOuts_update m .granted sub .acquired m.mSubscriberList m.mRetries
  rw [houts, hr (by simp)] at h
  exact h

/-- A close or a denial that clears the list notifies every subscriber. -/
theorem notifyAndClear_eq (m : AgpsStateMachine) (event : AgpsEvent) :
    ∃ r, (m.transitionState .released).notifyAllSubscribers event true .forAllSubscribers
      = ({ m with mState := .released, mSubscriberList := [], mRetries := r },
        m.mSubscriberList.flatMap (m.notifyOuts event)) := by
  obtain ⟨r, h, -⟩ := notifyAllSubscribers_eq (m.transitionState .released) event true
    .forAllSubscribers
  have houts : notifyOuts (m.transitionState .released) event = m.notifyOuts event :=
    funext fun sub => notifyOuts_update m event sub .released m.mSubscriberList m.mRetries
  rw [houts] at h
  refine ⟨r, h.trans ?_⟩
  have hall : (m.transitionState .released).mSubscriberList.filter
      AgpsNotificationType.forAllSubscribers.selects = m.mSubscriberList :=
    List.filter_eq_self.mpr fun _ _ => rfl
  have hnone : (m.transitionState .released).mSubscriberList.filter
      (fun s => !AgpsNotificationType.forAllSubscribers.selects s) = [] :=
    List.filter_eq_nil_iff.mpr fun _ _ => by simp [AgpsNotificationType.selects]
  rw [hall, hnone]
  rfl

/-- The end of a release: the inactive subscribers are notified and deleted, and the machine
asks for a new connection if an active subscriber is left. -/
theorem finishReleasing_eq (m : AgpsStateMachine) (env : AgpsEnv) :
    m.finishReleasing env
      = if m.anyActiveSubscribers then
          let m' := { m with
            mState := .pending
            mSubscriberList := m.mSubscriberList.filter fun s => !s.mIsInactive }
          ((m'.requestOrReleaseDataConn env true).1,
            (m.mSubscriberList.filter fun s => s.mIsInactive).flatMap (m.notifyOuts .released) ++
              (m'.requestOrReleaseDataConn env true).2.1)
        else
          ({ m with mState := .released, mSubscriberList := [] },
            (m.mSubscriberList.filter fun s => s.mIsInactive).flatMap
              (m.notifyOuts .released)) := by
  obtain ⟨r, h, hr⟩ := notifyAllSubscribers_eq m .released true .forInactiveSubscribers
  rw [hr (by simp)] at h
  have hany : AgpsStateMachine.anyActiveSubscribers { m with
      mSubscriberList := m.mSubscriberList.filter fun s => !s.mIsInactive }
        = m.anyActiveSubscribers := by
    unfold anyActiveSubscribers
    rw [List.any_filter]
    simp
  unfold finishReleasing
  rw [h]
  simp only [AgpsNotificationType.selects, if_true, transitionState]
  rw [hany]
  cases hactive : m.anyActiveSubscribers with
  | true => rfl
  | false =>
      have hnil : (m.mSubscriberList.filter fun s => !s.mIsInactive) = [] := by
        unfold anyActiveSubscribers at hactive
        rw [List.filter_eq_nil_iff]
        simpa using hactive
      rw [hnil]
      rfl

/-- The machine at the end of a release: with an active subscriber it asks for a new connection,
without one it is released. -/
theorem finishReleasing_fst (m : AgpsStateMachine) (env : AgpsEnv) :
    (m.anyActiveSubscribers = true ∧ ∃ r, (m.finishReleasing env).1 = { m with
      mState := .pending
      mSubscriberList := m.mSubscriberList.filter fun s => !s.mIsInactive
      mRetries := r }) ∨
    (m.anyActiveSubscribers = false ∧
      (m.finishReleasing env).1 = { m with mState := .released, mSubscriberList := [] }) := by
  rw [finishReleasing_eq]
  cases hactive : m.anyActiveSubscribers with
  | true =>
      obtain ⟨r, hreq⟩ := requestOrReleaseDataConn_fst { m with
        mState := .pending
        mSubscriberList := m.mSubscriberList.filter fun s => !s.mIsInactive } env true
      exact Or.inl ⟨rfl, r, hreq⟩
  | false => exact Or.inr ⟨rfl, rfl⟩

/-- The four things that a report can do: nothing, the grant of a pending machine, the clearing
of the list with a close or a denial, and the end of a release. -/
theorem processReport_cases (m : AgpsStateMachine) (env : AgpsEnv) (event : AgpsEvent) :
    m.processReport env event = (m, []) ∨
    (m.mState = .pending ∧ event = .granted ∧
      m.processReport env event = m.processAgpsEventGranted) ∨
    (∃ notified, (m.mState = .acquired ∧ event = .released ∧ notified = .released ∨
        m.mState = .pending ∧ notified = .denied ∧
          (event = .denied ∨ event = .released ∧ m.cls = .dsStateMachine)) ∧
      m.processReport env event
        = (m.transitionState .released).notifyAllSubscribers notified true .forAllSubscribers) ∨
    (m.mState = .releasing ∧ (event = .released ∨ event = .denied) ∧
      m.processReport env event = m.finishReleasing env) := by
  unfold processReport translateEvent
  cases hst : m.mState with
  | invalid =>
      left
      cases event <;> simp [processAgpsEventGranted, processAgpsEventReleased,
        processAgpsEventDenied, hst]
  | released =>
      left
      cases event <;> simp [processAgpsEventGranted, processAgpsEventReleased,
        processAgpsEventDenied, hst]
  -- only these two answer a request; the DS machine takes a release for a denial
  | pending =>
      cases event with
      | granted => simp
      | denied =>
          right; right; left
          exact ⟨.denied, Or.inr ⟨rfl, rfl, Or.inl rfl⟩, by simp [processAgpsEventDenied, hst]⟩
      | released =>
          cases hcls : m.cls with
          | agpsStateMachine => left; simp [processAgpsEventReleased, hst]
          | dsStateMachine =>
              right; right; left
              exact ⟨.denied, Or.inr ⟨rfl, rfl, Or.inr ⟨rfl, rfl⟩⟩,
                by simp [processAgpsEventDenied, hst]⟩
      | invalid => simp
      | subscribe => simp
      | unsubscribe => simp
  -- a connection can only be lost
  | acquired =>
      cases event with
      | released =>
          right; right; left
          exact ⟨.released, Or.inl ⟨rfl, rfl, rfl⟩, by simp [processAgpsEventReleased, hst]⟩
      | denied => left; simp [processAgpsEventDenied, hst]
      | granted => left; simp [processAgpsEventGranted, hst]
      | invalid => simp
      | subscribe => simp
      | unsubscribe => simp
  | releasing =>
      cases event with
      | released => simp [processAgpsEventReleased, hst]
      | denied => simp [processAgpsEventDenied, hst]
      | granted => left; simp [processAgpsEventGranted, hst]
      | invalid => simp
      | subscribe => simp
      | unsubscribe => simp

end AgpsStateMachine

end LocHal.Gnss
