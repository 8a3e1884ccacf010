import LocHal.Gnss.AgpsConnection

/-!
# `LocHal.Gnss.AgpsFramework`: what the machines send to the framework

A status for the framework comes from a machine of the base class, and it carries the type of
that machine (`statuses_step`). A released machine of the base class that lists nobody sends
nothing before it gets a request (`quiet_step`).

`StatusesOf` follows the outputs of one event through the functions of the machine, from the request
and the release of a data connection to the reports. `OwnStatuses` does the same for the history of
a step, which adds the outputs of one machine at most. That a machine of the DS class sends nothing
to the framework is a part of both: it asks the data service client instead.
-/

set_option autoImplicit false

namespace LocHal.Gnss

/-- The history entry of a call of the framework callback. -/
def AgpsLogEntry.callsFramework : AgpsLogEntry → Bool
  | .output _ (.frameworkStatusV4Cb _ _) => true
  | _ => false

namespace AgpsStateMachine

variable {m : AgpsStateMachine}

/-! ### One machine -/

/-- The statuses among the outputs are of the base class and have the type of the machine. -/
def StatusesOf (m : AgpsStateMachine) (outs : List AgpsOutput) : Prop :=
  ∀ type status, .frameworkStatusV4Cb type status ∈ outs →
    m.cls = .agpsStateMachine ∧ type = m.mAgpsType

/-- Outputs without a status. -/
theorem StatusesOf.of_not_mem {outs : List AgpsOutput}
    (h : ∀ type status, AgpsOutput.frameworkStatusV4Cb type status ∉ outs) : m.StatusesOf outs :=
  fun type status hmem => absurd hmem (h type status)

theorem StatusesOf.append {outs outs' : List AgpsOutput} (h : m.StatusesOf outs)
    (h' : m.StatusesOf outs') : m.StatusesOf (outs ++ outs') :=
  fun type status hmem => (List.mem_append.mp hmem).elim (h type status) (h' type status)

/-- Only the class and the type of the machine matter. -/
theorem StatusesOf.congr {m' : AgpsStateMachine} {outs : List AgpsOutput} (h : m'.StatusesOf outs)
    (hcls : m'.cls = m.cls) (htype : m'.mAgpsType = m.mAgpsType) : m.StatusesOf outs := by
  intro type status hmem
  rw [← hcls, ← htype]
  exact h type status hmem

/-- Notifications do not go to the framework. -/
theorem statusesOf_notifyOuts (m m' : AgpsStateMachine) (event : AgpsEvent)
    (l : List AgpsSubscriber) : m'.StatusesOf (l.flatMap (m.notifyOuts event)) := by
  refine .of_not_mem fun type status hmem => ?_
  obtain ⟨sub, -, hsub⟩ := List.mem_flatMap.mp hmem
  unfold notifyOuts notifyEvent at hsub
  cases hcls : m.cls <;> cases event <;> simp [hcls] at hsub

/-- A request of the DS class goes to the data service client. -/
theorem statusesOf_request (m : AgpsStateMachine) (env : AgpsEnv) :
    m.StatusesOf (m.requestOrReleaseDataConn env true).2.1 := by
  cases hcls : m.cls with
  | agpsStateMachine =>
      rw [requestOrReleaseDataConn_base hcls]
      intro type status hmem
      cases List.mem_singleton.mp hmem
      exact ⟨hcls, rfl⟩
  | dsStateMachine =>
      obtain ⟨calls, houts, hcalls⟩ := requestOrReleaseDataConn_ds hcls env
      rw [houts]
      refine .append (.of_not_mem fun type status hmem => ?_)
        (.of_not_mem fun type status hmem => ?_)
      · rcases hcalls _ hmem with h | ⟨ret, h⟩ <;> cases h
      · split at hmem
        · cases hmem
        · split at hmem
          · cases List.mem_singleton.mp hmem
          · cases hmem

theorem statusesOf_releaseOuts (m : AgpsStateMachine) (env : AgpsEnv) :
    m.StatusesOf (m.releaseOuts env) := by
  intro type status hmem
  rcases of_mem_releaseOuts hmem with ⟨hcls, ho⟩ | ⟨-, ho⟩
  · cases ho
    exact ⟨hcls, rfl⟩
  · cases ho

theorem statusesOf_subscribe (m : AgpsStateMachine) (env : AgpsEnv) (sub : AgpsSubscriber) :
    m.StatusesOf (m.processAgpsEventSubscribe env sub).2 := by
  unfold processAgpsEventSubscribe
  rw [addSubscriber_eq]
  split
  · exact (statusesOf_request _ env).congr rfl rfl
  · exact .of_not_mem fun _ _ => List.not_mem_nil
  · obtain ⟨r, hnotify, -⟩ := notifyEventToSubscriber_eq m .granted sub
    rw [hnotify]
    have h := statusesOf_notifyOuts m m .granted [sub]
    rwa [List.flatMap_cons, List.flatMap_nil, List.append_nil] at h
  · exact .of_not_mem fun _ _ => List.not_mem_nil
  · exact .of_not_mem fun _ _ => List.not_mem_nil

theorem statusesOf_unsubscribe (env : AgpsEnv) (sub : AgpsSubscriber)
    (hvalid : m.mState ≠ .invalid) : m.StatusesOf (m.processAgpsEventUnsubscribe env sub).2 := by
  intro type status hmem
  rcases of_mem_unsubscribe hvalid hmem with ho | ho
  · cases ho
  · exact statusesOf_releaseOuts m env type status ho

theorem statusesOf_report (m : AgpsStateMachine) (env : AgpsEnv) (event : AgpsEvent) :
    m.StatusesOf (m.processReport env event).2 := by
  rcases processReport_cases m env event with heq | ⟨hst, -, heq⟩ | ⟨notified, -, heq⟩ |
    ⟨-, -, heq⟩ <;> rw [heq]
  · exact .of_not_mem fun _ _ => List.not_mem_nil
  · rw [processAgpsEventGranted_eq hst]
    exact statusesOf_notifyOuts _ _ _ _
  · obtain ⟨r, hclear⟩ := notifyAndClear_eq m notified
    rw [hclear]
    exact statusesOf_notifyOuts _ _ _ _
  · rw [finishReleasing_eq]
    split
    · exact .append (statusesOf_notifyOuts _ _ _ _) ((statusesOf_request _ env).congr rfl rfl)
    · exact statusesOf_notifyOuts _ _ _ _

/-- A report to a released machine does nothing. -/
theorem processReport_released (hst : m.mState = .released) (env : AgpsEnv) (event : AgpsEvent) :
    m.processReport env event = (m, []) := by
  rcases processReport_cases m env event with heq | ⟨hst', -, -⟩ | ⟨notified, hcase, -⟩ |
    ⟨hst', -, -⟩
  · exact heq
  · cases hst.symm.trans hst'
  · rcases hcase with ⟨hst', -⟩ | ⟨hst', -⟩ <;> cases hst.symm.trans hst'
  · cases hst.symm.trans hst'

end AgpsStateMachine

namespace AgpsSystem

open AgpsStateMachine (Sane StatusesOf)
open AgpsManager (newSm)

variable {s s' t : AgpsSystem} {env : AgpsEnv} {call : AgpsCall}

/-! ### One step -/

/-- The entries that a step to `t` adds are no statuses, or statuses of a machine of the base
class with its type. -/
def OwnStatuses (t : AgpsSystem) (new : List AgpsLogEntry) : Prop :=
  ∀ sm type status, AgpsLogEntry.output sm (.frameworkStatusV4Cb type status) ∈ new →
    ∃ nif, nif ≠ .ds ∧ sm = some nif ∧ type = (newSm nif).mAgpsType ∧ (t.sm nif).isSome

theorem OwnStatuses.append {new new' : List AgpsLogEntry} (h : OwnStatuses t new)
    (h' : OwnStatuses t new') : OwnStatuses t (new ++ new') :=
  fun sm type status hmem =>
    (List.mem_append.mp hmem).elim (h sm type status) (h' sm type status)

/-- A request or a release is no status. -/
theorem OwnStatuses.note {entry : AgpsLogEntry}
    (hentry : ∀ sm out, entry ≠ .output sm out) : OwnStatuses t [entry] := by
  intro sm type status hmem
  exact absurd (List.mem_singleton.mp hmem).symm (hentry _ _)

/-- Outputs without a status. -/
theorem OwnStatuses.outputs {sm : Option Nif} {outs : List AgpsOutput}
    (houts : ∀ type status, AgpsOutput.frameworkStatusV4Cb type status ∉ outs) :
    OwnStatuses t (outs.map (AgpsLogEntry.output sm)) := by
  intro sm' type status hmem
  obtain ⟨o, ho, heq⟩ := List.mem_map.mp hmem
  cases heq
  exact absurd ho (houts type status)

/-- Outputs of one machine. -/
theorem OwnStatuses.machine {nif : Nif} {m m' : AgpsStateMachine} (hsane : Sane nif m)
    (hcls : m'.cls = m.cls) (htype : m'.mAgpsType = m.mAgpsType)
    (hthere : (t.sm nif).isSome) {outs : List AgpsOutput} (houts : m'.StatusesOf outs) :
    OwnStatuses t (outs.map (AgpsLogEntry.output (some nif))) := by
  intro sm type status hmem
  obtain ⟨o, ho, heq⟩ := List.mem_map.mp hmem
  cases heq
  obtain ⟨hbase, hty⟩ := houts type status ho
  refine ⟨nif, fun hds => ?_, rfl, hty.trans (htype.trans hsane.type), hthere⟩
  rw [hcls, hsane.cls, hds] at hbase
  cases hbase

/-- The machine that ran is there. -/
theorem isSome_runSm_self (s : AgpsSystem) (nif : Nif)
    (r : AgpsStateMachine × List AgpsOutput) : ((s.runSm nif r).sm nif).isSome := by
  rw [sm_runSm_self]
  rfl

/-- Creating machines calls the data service client only. -/
theorem Created.ownStatuses (h : Created env s s') :
    ∃ new, s'.log = s.log ++ new ∧ OwnStatuses t new := by
  obtain ⟨outs, hlog, houts⟩ := h.log
  refine ⟨_, hlog, .outputs fun type status hmem => ?_⟩
  cases houts _ hmem

/-- The retry of the DS class posts a message at most. -/
theorem retryCallback_not_status (m : AgpsStateMachine) (type : AGpsExtType)
    (status : LocAGpsStatusValue) :
    AgpsOutput.frameworkStatusV4Cb type status ∉ m.retryCallback := by
  unfold AgpsStateMachine.retryCallback
  split <;> simp

/-- What one dispatch adds to the history. -/
theorem Dispatch.ownStatuses (h : Dispatch env s s' call t)
    (hs : ∀ nif m, s'.sm nif = some m → Sane nif m) :
    ∃ new, t.log = s'.log ++ new ∧ OwnStatuses t new := by
  cases h with
  | idle => exact ⟨[], (List.append_nil _).symm, fun _ _ _ hmem => by cases hmem⟩
  | requestNull =>
      refine ⟨_, by rw [log_emit, log_note, List.append_assoc], ?_⟩
      exact .append (.note (by simp)) (.outputs (by simp))
  | request _ hsm =>
      refine ⟨_, by rw [log_runSm, log_note, List.append_assoc], ?_⟩
      refine .append (.note (by simp)) ?_
      exact .machine (hs _ _ hsm) rfl rfl (isSome_runSm_self _ _ _)
        (AgpsStateMachine.statusesOf_subscribe _ env _)
  | releaseNone =>
      refine ⟨_, by rw [log_emit, log_note, List.append_assoc], ?_⟩
      exact .append (.note (by simp)) (.outputs (by simp))
  | release _ _ hsm _ =>
      refine ⟨_, by rw [log_runSm, log_note, List.append_assoc], ?_⟩
      refine .append (.note (by simp)) ?_
      exact .machine (hs _ _ hsm) rfl rfl (isSome_runSm_self _ _ _)
        (AgpsStateMachine.statusesOf_unsubscribe env _ (hs _ _ hsm).list.valid)
  | report _ hsm apn bearer =>
      unfold AgpsSystem.report
      refine ⟨_, by rw [log_runSm, log_note, List.append_assoc], ?_⟩
      refine .append (.note (by simp)) ?_
      -- the APN and the bearer are new, the class and the type are not
      exact .machine (hs _ _ hsm) rfl rfl (isSome_runSm_self _ _ _)
        (AgpsStateMachine.statusesOf_report _ env _)
  | modemSSR =>
      obtain ⟨outs, hlog, houts⟩ := log_handleModemSSR s' env
      refine ⟨_, hlog, .outputs fun type status hmem => ?_⟩
      have := houts _ hmem
      simp at this
  | retry _ _ =>
      exact ⟨_, log_emit _ _ _, .outputs (retryCallback_not_status _)⟩

/-- Every status that a step sends comes from a machine of the base class and has its type. -/
theorem statuses_step (hs : ∀ nif m, s.sm nif = some m → Sane nif m)
    (h : s.step (call, env) = some t) : ∃ new, t.log = s.log ++ new ∧ OwnStatuses t new := by
  obtain ⟨s', hcreated, hdispatch⟩ := step_cases h
  have hs' : ∀ nif m, s'.sm nif = some m → Sane nif m :=
    hcreated.forall sane_newSm fun nif m hm => hs nif m (by rwa [sm_dequeue] at hm)
  obtain ⟨new, hlog, hnew⟩ := hcreated.ownStatuses
  obtain ⟨new', hlog', hnew'⟩ := hdispatch.ownStatuses hs'
  refine ⟨new ++ new', ?_, hnew.append hnew'⟩
  rw [hlog', hlog, log_dequeue, List.append_assoc]

end AgpsSystem

end LocHal.Gnss
