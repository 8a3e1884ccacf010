import LocHal.Gnss.AgpsLists

/-!
# `LocHal.Gnss.AgpsMessages`: the messages that an event posts

Only the DS class posts messages. A denial posts one for every listed subscriber and empties the
list (`report_denied`), and a refused start posts one for the first active subscriber and leaves
it listed. Every other event of a listed subscriber, and every other report, is `Quiet`: it
posts nothing, and a subscriber that it leaves was listed before, possibly as active.

A subscription adds the new subscriber at most (`mem_subscribe`) and posts nothing when the start
is not refused (`messages_subscribe`).

The messages matter because a posted request comes back later as a request of the handle. What a
denial posts is counted, one message for each subscriber. Of the others it is enough to know for
whom they are: for an active subscriber of the list, or for the new one
(`holdsActive_of_mem_subscribe`, `holdsActive_of_mem_report`). A handle that is not active anywhere
is therefore never requested again on its own account.
-/

set_option autoImplicit false

namespace LocHal.Gnss

namespace AgpsStateMachine

variable {m : AgpsStateMachine} {env : AgpsEnv} {sub : AgpsSubscriber} {event : AgpsEvent}

/-- The event leaves listed subscribers only, some of them inactive now, and posts nothing. -/
structure Quiet (m : AgpsStateMachine) (r : AgpsStateMachine × List AgpsOutput) : Prop where
  listed : ∀ t ∈ r.1.mSubscriberList, t ∈ m.mSubscriberList ∨
    ∃ u ∈ m.mSubscriberList, t = { u with mIsInactive := true }
  messages : r.2.filterMap AgpsOutput.posted = []

/-- No new handle comes with a quiet event. -/
theorem Quiet.handle {r : AgpsStateMachine × List AgpsOutput} (h : Quiet m r)
    {t : AgpsSubscriber} (ht : t ∈ r.1.mSubscriberList) :
    ∃ u ∈ m.mSubscriberList, u.mConnHandle = t.mConnHandle := by
  rcases h.listed t ht with ht | ⟨u, hu, rfl⟩
  · exact ⟨t, ht, rfl⟩
  · exact ⟨u, hu, rfl⟩

/-- An active subscriber after a quiet event was listed as it is. -/
theorem Quiet.active {r : AgpsStateMachine × List AgpsOutput} (h : Quiet m r)
    {t : AgpsSubscriber} (ht : t ∈ r.1.mSubscriberList) (hactive : t.mIsInactive = false) :
    t ∈ m.mSubscriberList := by
  rcases h.listed t ht with ht | ⟨u, _, rfl⟩
  · exact ht
  · cases hactive

/-! ### The messages of the parts -/

/-- Only a denial of the DS class posts a message. -/
theorem messages_notifyOuts (hquiet : m.cls = .agpsStateMachine ∨ event ≠ .denied)
    (sub : AgpsSubscriber) : (m.notifyOuts event sub).filterMap AgpsOutput.posted = [] := by
  show (m.notifyEvent event sub).2.filterMap AgpsOutput.posted = []
  unfold notifyEvent
  cases hcls : m.cls with
  | agpsStateMachine => cases event <;> rfl
  | dsStateMachine =>
      have hevent : event ≠ .denied := hquiet.resolve_left (by simp [hcls])
      cases event with
      | denied => exact absurd rfl hevent
      | _ => rfl

theorem messages_notifyAll (hquiet : m.cls = .agpsStateMachine ∨ event ≠ .denied)
    (l : List AgpsSubscriber) :
    (l.flatMap (m.notifyOuts event)).filterMap AgpsOutput.posted = [] := by
  induction l with
  | nil => rfl
  | cons sub rest ih =>
      rw [List.flatMap_cons, List.filterMap_append, messages_notifyOuts hquiet sub, ih]
      rfl

/-- A denial of the DS class posts one message for each notified subscriber. -/
theorem messages_denyAll (hcls : m.cls = .dsStateMachine) (l : List AgpsSubscriber) :
    (l.flatMap (m.notifyOuts .denied)).filterMap AgpsOutput.posted
      = l.map fun sub => (sub.mConnHandle, locAgpsTypeSupl) := by
  induction l with
  | nil => rfl
  | cons sub rest ih =>
      have hone : m.notifyOuts .denied sub
          = [.sendMsgToAdapterQueue sub.mConnHandle locAgpsTypeSupl] := by
        show (m.notifyEvent .denied sub).2 = _
        unfold notifyEvent
        rw [hcls]
      rw [List.flatMap_cons, List.filterMap_append, ih, hone]
      rfl

/-- A request that is not refused posts nothing. -/
theorem messages_request (hstart : m.cls = .dsStateMachine → m.startDenied env = false) :
    (m.requestOrReleaseDataConn env true).2.1.filterMap AgpsOutput.posted = [] := by
  cases hcls : m.cls with
  | agpsStateMachine => rw [requestOrReleaseDataConn_base hcls]; rfl
  | dsStateMachine =>
      obtain ⟨calls, heq, hcalls⟩ := requestOrReleaseDataConn_ds hcls env
      have hnone : calls.filterMap AgpsOutput.posted = [] := by
        rw [List.filterMap_eq_nil_iff]
        intro o ho
        rcases hcalls o ho with rfl | ⟨ret, rfl⟩
        · rfl
        · rfl
      rw [heq, hstart hcls, List.filterMap_append, hnone]
      cases m.getFirstSubscriber false with
      | none => rfl
      | some first => rfl

/-- The release of an unused connection posts nothing. -/
theorem messages_releaseOuts (m : AgpsStateMachine) (env : AgpsEnv) :
    (m.releaseOuts env).filterMap AgpsOutput.posted = [] := by
  unfold releaseOuts
  cases m.cls with
  | agpsStateMachine => rfl
  | dsStateMachine => cases env.mDSClientStopDataCallFn <;> rfl

/-! ### The events -/

/-- A subscription adds the new subscriber at most. -/
theorem mem_subscribe (hvalid : m.mState ≠ .invalid) {t : AgpsSubscriber}
    (ht : t ∈ (m.processAgpsEventSubscribe env sub).1.mSubscriberList) :
    t ∈ m.mSubscriberList ∨ t = sub := by
  obtain ⟨st, r, heq, -⟩ := processAgpsEventSubscribe_eq m env sub hvalid
  rw [heq] at ht
  exact (mem_addSubscriber.mp ht).imp_right And.left

/-- A subscription posts nothing, unless it comes in the released state of the DS class and the
start is refused. -/
theorem messages_subscribe
    (hstart : m.cls = .dsStateMachine → m.mState = .released → m.startDenied env = false) :
    (m.processAgpsEventSubscribe env sub).2.filterMap AgpsOutput.posted = [] := by
  unfold processAgpsEventSubscribe
  cases hst : m.mState with
  | invalid => rfl
  | released =>
      dsimp only
      rw [addSubscriber_eq]
      exact messages_request fun hcls => hstart hcls hst
  | pending => rfl
  | acquired =>
      obtain ⟨r, h, -⟩ := notifyEventToSubscriber_eq m .granted sub
      dsimp only
      rw [h]
      exact messages_notifyOuts (Or.inr (by simp)) sub
  | releasing => rfl

/-- An unsubscription of a listed subscriber is quiet. -/
theorem quiet_unsubscribe (hvalid : m.mState ≠ .invalid) (env : AgpsEnv) (sub : AgpsSubscriber) :
    Quiet m (m.processAgpsEventUnsubscribe env sub) := by
  by_cases hreleased : m.mState = .released
  · rw [processAgpsEventUnsubscribe_released hreleased]
    exact ⟨fun _ ht => Or.inl ht, rfl⟩
  · rw [processAgpsEventUnsubscribe_eq m env sub hvalid hreleased]
    constructor
    · show ∀ t ∈ unsubscribed sub m.mSubscriberList, _
      intro t ht
      unfold unsubscribed at ht
      split at ht
      · exact (mem_of_mem_setInactive ht).imp_right fun ⟨u, hu, _, heq⟩ => ⟨u, hu, heq⟩
      · exact Or.inl (List.mem_filter.mp ht).1
    · rw [List.filterMap_append]
      have hrelease := messages_releaseOuts m env
      split <;> split <;> simp [hrelease, AgpsOutput.posted]

/-- A denial of a pending machine of the DS class posts one message for each listed subscriber
and empties the list. -/
theorem report_denied (env : AgpsEnv) (hcls : m.cls = .dsStateMachine)
    (hst : m.mState = .pending)
    (hevent : event = .denied ∨ event = .released) :
    (m.processReport env event).1.mSubscriberList = [] ∧
      (m.processReport env event).2.filterMap AgpsOutput.posted
        = m.mSubscriberList.map fun sub => (sub.mConnHandle, locAgpsTypeSupl) := by
  have heq : m.processReport env event
      = (m.transitionState .released).notifyAllSubscribers .denied true .forAllSubscribers := by
    rcases hevent with rfl | rfl <;>
      simp [processReport, translateEvent, hst, hcls, processAgpsEventDenied]
  obtain ⟨r, hclear⟩ := notifyAndClear_eq m .denied
  rw [heq, hclear]
  exact ⟨rfl, messages_denyAll hcls m.mSubscriberList⟩

/-- A report leaves listed subscribers only. -/
theorem listed_report {t : AgpsSubscriber}
    (ht : t ∈ (m.processReport env event).1.mSubscriberList) : t ∈ m.mSubscriberList := by
  rcases processReport_cases m env event with heq | ⟨hst, -, heq⟩ | ⟨notified, -, heq⟩ |
    ⟨-, -, heq⟩ <;> rw [heq] at ht
  · exact ht
  · rw [processAgpsEventGranted_eq hst] at ht
    exact ht
  · obtain ⟨r, hclear⟩ := notifyAndClear_eq m notified
    rw [hclear] at ht
    cases ht
  · rcases finishReleasing_fst m env with ⟨-, r, hfinish⟩ | ⟨-, hfinish⟩ <;> rw [hfinish] at ht
    · exact (List.mem_filter.mp ht).1
    · cases ht

/-- A report other than the denial of a pending machine of the DS class posts nothing but the
messages of a request for a new connection. -/
theorem messages_report
    (hdenied : m.cls = .dsStateMachine → m.mState = .pending →
      ¬ (event = .denied ∨ event = .released)) :
    (m.processReport env event).2.filterMap AgpsOutput.posted = [] ∨
    m.mState = .releasing ∧ (event = .released ∨ event = .denied) ∧
      m.anyActiveSubscribers = true ∧
      (m.processReport env event).2.filterMap AgpsOutput.posted
        = ({ m with
              mState := .pending
              mSubscriberList := m.mSubscriberList.filter fun s => !s.mIsInactive
            }.requestOrReleaseDataConn env true).2.1.filterMap AgpsOutput.posted := by
  rcases processReport_cases m env event with heq | ⟨hst, -, heq⟩ | ⟨notified, hcase, heq⟩ |
    ⟨hst, hevent, heq⟩ <;> rw [heq]
  · exact Or.inl rfl
  · rw [processAgpsEventGranted_eq hst]
    exact Or.inl (messages_notifyAll (Or.inr (by simp)) _)
  · obtain ⟨r, hclear⟩ := notifyAndClear_eq m notified
    rw [hclear]
    refine Or.inl (messages_notifyAll ?_ _)
    rcases hcase with ⟨-, -, rfl⟩ | ⟨hpending, -, hevent⟩
    · exact Or.inr (by simp)
    · -- the list is cleared with a denial, so the machine is not of the DS class
      cases hcls : m.cls with
      | agpsStateMachine => exact Or.inl rfl
      | dsStateMachine => exact absurd (hevent.imp_right And.left) (hdenied hcls hpending)
  · have htold : (List.flatMap (m.notifyOuts .released)
        (m.mSubscriberList.filter fun s => s.mIsInactive)).filterMap AgpsOutput.posted = [] :=
      messages_notifyAll (Or.inr (by simp)) _
    rw [finishReleasing_eq m env]
    cases hactive : m.anyActiveSubscribers with
    | true =>
        refine Or.inr ⟨hst, hevent, rfl, ?_⟩
        rw [if_pos rfl]
        dsimp only
        rw [List.filterMap_append, htold, List.nil_append]
    | false => exact Or.inl htold

/-- Every other report is quiet, unless it asks for a new connection and the start is refused. -/
theorem quiet_report
    (hdenied : m.cls = .dsStateMachine → m.mState = .pending →
      ¬ (event = .denied ∨ event = .released))
    (hstart : m.cls = .dsStateMachine → m.mState = .releasing →
      event = .released ∨ event = .denied → m.anyActiveSubscribers = true →
      m.startDenied env = false) :
    Quiet m (m.processReport env event) where
  listed := fun _ ht => Or.inl (listed_report ht)
  messages := by
    rcases messages_report hdenied with hnone | ⟨hst, hevent, hactive, heq⟩
    · exact hnone
    · rw [heq]
      exact messages_request fun hcls => hstart hcls hst hevent hactive

/-! ### Messages for active subscribers -/

/-- A request for a data connection posts a message for an active subscriber at most. -/
theorem holdsActive_of_mem_request {h : ConnHandle} {agpsType : AGpsExtType}
    (hmem : (h, agpsType) ∈
      (m.requestOrReleaseDataConn env true).2.1.filterMap AgpsOutput.posted) :
    m.HoldsActive h := by
  cases hcls : m.cls with
  | agpsStateMachine =>
      rw [requestOrReleaseDataConn_base hcls] at hmem
      cases hmem
  | dsStateMachine =>
      obtain ⟨calls, heq, hcalls⟩ := requestOrReleaseDataConn_ds hcls env
      rw [heq, List.filterMap_append, List.mem_append] at hmem
      rcases hmem with hmem | hmem
      · obtain ⟨o, ho, hposted⟩ := List.mem_filterMap.mp hmem
        rcases hcalls o ho with rfl | ⟨ret, rfl⟩ <;> cases hposted
      · cases hfirst : m.getFirstSubscriber false with
        | none =>
            rw [hfirst] at hmem
            cases hmem
        | some first =>
            have hin : first.mIsInactive = false := by simpa using List.find?_some hfirst
            rw [hfirst] at hmem
            dsimp only at hmem
            split at hmem
            · simp only [List.filterMap_cons, List.filterMap_nil, AgpsOutput.posted,
                List.mem_singleton, Prod.mk.injEq] at hmem
              exact ⟨first, List.mem_of_find?_eq_some hfirst, hmem.1.symm, hin⟩
            · cases hmem

/-- A subscription posts a message for an active subscriber or for the new one. -/
theorem holdsActive_of_mem_subscribe {h : ConnHandle} {agpsType : AGpsExtType}
    (hmem : (h, agpsType) ∈
      (m.processAgpsEventSubscribe env sub).2.filterMap AgpsOutput.posted) :
    m.HoldsActive h ∨ h = sub.mConnHandle := by
  by_cases hst : m.mState = .released
  · have hactive : (m.addSubscriber sub).HoldsActive h := by
      unfold processAgpsEventSubscribe at hmem
      rw [hst] at hmem
      exact holdsActive_of_mem_request hmem
    obtain ⟨t, ht, hth, hin⟩ := hactive
    rcases mem_addSubscriber.mp ht with ht | ⟨rfl, -⟩
    · exact Or.inl ⟨t, ht, hth, hin⟩
    · exact Or.inr hth.symm
  · rw [messages_subscribe fun _ hreleased => absurd hreleased hst] at hmem
    cases hmem

/-- A report that does not deny a pending machine of the DS class posts a message for an active
subscriber at most. -/
theorem holdsActive_of_mem_report {h : ConnHandle} {agpsType : AGpsExtType}
    (hdenied : m.cls = .dsStateMachine → m.mState = .pending →
      ¬ (event = .denied ∨ event = .released))
    (hmem : (h, agpsType) ∈ (m.processReport env event).2.filterMap AgpsOutput.posted) :
    m.HoldsActive h := by
  rcases messages_report hdenied with hnone | ⟨-, -, -, heq⟩
  · rw [hnone] at hmem
    cases hmem
  · rw [heq] at hmem
    obtain ⟨t, ht, hth, hin⟩ := holdsActive_of_mem_request hmem
    exact ⟨t, (List.mem_filter.mp ht).1, hth, hin⟩

/-- A retry asks for the first active subscriber. -/
theorem mem_retryCallback {h : ConnHandle} {agpsType : AGpsExtType}
    (hmem : (h, agpsType) ∈ m.retryCallback.filterMap AgpsOutput.posted) :
    agpsType = locAgpsTypeSuplEs ∧ m.HoldsActive h := by
  unfold retryCallback at hmem
  split at hmem
  · cases hmem
  · rename_i first hfirst
    have hin : first.mIsInactive = false := by simpa using List.find?_some hfirst
    simp only [List.filterMap_cons, List.filterMap_nil, AgpsOutput.posted, List.mem_singleton,
      Prod.mk.injEq] at hmem
    exact ⟨hmem.2, first, List.mem_of_find?_eq_some hfirst, hmem.1.symm, hin⟩

end AgpsStateMachine

end LocHal.Gnss
