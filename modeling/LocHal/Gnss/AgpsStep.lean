import LocHal.Gnss.AgpsEvents
import LocHal.Gnss.AgpsManager

/-!
# `LocHal.Gnss.AgpsStep`: the parts of one step of the AGPS system

A step has up to three parts. A posted message is taken off the queue, machines that do not
exist yet are created (`Created`), and the call is dispatched to one machine (`Dispatch`).
`step_cases` takes a step apart, and every invariant of the system is proved along these parts.

`route`, `requestOf`, `releaseOf` and `reportOf` read off a label which machine and which event it
is about, so that a condition on a step can name them.

A request, a release and a report each have a lemma for their dispatch (`requestATL_dispatch`,
`releaseATL_dispatch`, `reportAtl_dispatch`, `reportDataCall_dispatch`). The other direction is
`step_of_request` and `step_of_report`: a call that is routed to a machine reaches that machine.
With these an exact condition, which is about a label and a state, becomes one about the event of a
machine.

`machine_invariant` is the rule for properties of single machines. It asks for the events only, and
does the creation of machines and the frame of the others once.
-/

set_option autoImplicit false

namespace LocHal.Gnss

/-! ### Members of the manager -/

namespace AgpsManager

@[simp] theorem sm_setSm_self (mgr : AgpsManager) (nif : Nif) (m : AgpsStateMachine) :
    (mgr.setSm nif m).sm nif = some m := by
  cases nif <;> rfl

@[simp] theorem sm_setSm_of_ne (mgr : AgpsManager) {nif other : Nif} (h : other ≠ nif)
    (m : AgpsStateMachine) : (mgr.setSm nif m).sm other = mgr.sm other := by
  cases nif <;> cases other <;> first | rfl | exact absurd rfl h

/-- A created machine is new, and the other machines stay. -/
theorem sm_create (mgr : AgpsManager) (nif other : Nif) :
    (mgr.create nif).sm other = mgr.sm other ∨
      mgr.sm other = none ∧ (mgr.create nif).sm other = some (newSm other) := by
  unfold create
  split
  · rename_i hnone
    by_cases h : other = nif
    · subst h
      exact Or.inr ⟨hnone, sm_setSm_self _ _ _⟩
    · exact Or.inl (sm_setSm_of_ne _ h _)
  · exact Or.inl rfl

end AgpsManager

open AgpsManager (newSm)

/-- The member that a type is routed to. -/
def route (env : AgpsEnv) (agpsType : AGpsExtType) : Nif :=
  if agpsType = locAgpsTypeInvalid ∨ agpsType = locAgpsTypeSupl then .agnss
  else if agpsType = locAgpsTypeSuplEs then
    if env.useEmergencyPdnForEmergencySupl then .ds else .agnss
  else .internet

/-- The machine and the event of a report. -/
def reportOf (env : AgpsEnv) : AgpsCall → Option (Nif × AgpsEvent)
  | .reportDataCallOpened => some (.ds, .granted)
  | .reportDataCallClosed => some (.ds, .released)
  | .reportAtlOpenSuccess agpsType _ _ _ => some (route env agpsType, .granted)
  | .reportAtlOpenFailed agpsType => some (route env agpsType, .denied)
  | .reportAtlClosed agpsType => some (route env agpsType, .released)
  | _ => none

/-- The handle of a release. -/
def releaseOf : AgpsCall → Option ConnHandle
  | .releaseATL connHandle => some connHandle
  | _ => none

namespace AgpsSystem

/-- The handle and the type of a request, and whether the DS machine posted it. -/
def requestOf (s : AgpsSystem) : AgpsCall → Option (ConnHandle × AGpsExtType × Bool)
  | .requestATL connHandle agpsType => some (connHandle, agpsType, false)
  | .procMsgRequestATL i => (s.msgQueue[i]?).map fun (connHandle, agpsType) =>
      (connHandle, agpsType, true)
  | _ => none

/-- The subscriber that a request brings. -/
def newSubscriber (connHandle : ConnHandle) (agpsType : AGpsExtType) : AgpsSubscriber :=
  ⟨connHandle, agpsType = locAgpsTypeSuplEs, false⟩

/-- The system before a call is dispatched: the message of the call has left the queue. -/
def dequeue (s : AgpsSystem) : AgpsCall → AgpsSystem
  | .procMsgRequestATL i => { s with msgQueue := s.msgQueue.eraseIdx i }
  | _ => s

/-- `s'` is `s` with some missing machines created. The DS machine needs the configuration
flag. -/
structure Created (env : AgpsEnv) (s s' : AgpsSystem) : Prop where
  sm : ∀ nif, s'.sm nif = s.sm nif ∨ s.sm nif = none ∧ s'.sm nif = some (newSm nif)
  ds : env.useEmergencyPdnForEmergencySupl = false → s'.sm .ds = s.sm .ds
  msgQueue : s'.msgQueue = s.msgQueue
  retryTimers : s'.retryTimers = s.retryTimers
  log : ∃ outs : List AgpsOutput, s'.log = s.log ++ outs.map (.output none) ∧
    ∀ o ∈ outs, o = .dsClientInit false

/-- The dispatch of a call: `s₀` is the system before the call, and `s` the one after the creation
of machines. -/
inductive Dispatch (env : AgpsEnv) (s₀ s : AgpsSystem) : AgpsCall → AgpsSystem → Prop
  /-- Nothing is left to do. -/
  | idle {call : AgpsCall} (hcall : s₀.requestOf call = none) (hrelease : releaseOf call = none) :
      Dispatch env s₀ s call s
  /-- A request without a machine fails at once. -/
  | requestNull {call : AgpsCall} {connHandle : ConnHandle} {agpsType : AGpsExtType}
      {posted : Bool} (hcall : s₀.requestOf call = some (connHandle, agpsType, posted))
      (hsm : s.sm (route env agpsType) = none) :
      Dispatch env s₀ s call ((s.note (.requestATL connHandle agpsType posted none false)).emit none
        [.atlOpenStatusCb connHandle false none agpsApnBearerInvalid agpsType])
  /-- A request reaches its machine. -/
  | request {call : AgpsCall} {connHandle : ConnHandle} {agpsType : AGpsExtType}
      {posted : Bool} {m : AgpsStateMachine}
      (hcall : s₀.requestOf call = some (connHandle, agpsType, posted))
      (hsm : s.sm (route env agpsType) = some m)
      (hs : s = ((s₀.dequeue call).getAgpsStateMachine env agpsType).1) :
      Dispatch env s₀ s call
        ((s.note (.requestATL connHandle agpsType posted (some (route env agpsType))
            (m.getSubscriber connHandle).isSome)).runSm (route env agpsType)
          (m.processAgpsEventSubscribe env (newSubscriber connHandle agpsType)))
  /-- A release of a handle that no machine lists. -/
  | releaseNone {connHandle : ConnHandle} (hs : s = s₀)
      (hnone : s.mgr.holders connHandle = []) :
      Dispatch env s₀ s (.releaseATL connHandle)
        ((s.note (.releaseATL connHandle [])).emit none [.atlCloseStatusCb connHandle false])
  /-- A release reaches the first machine that lists the handle. -/
  | release {connHandle : ConnHandle} {nif : Nif} {rest : List Nif} {m : AgpsStateMachine}
      {subscriber : AgpsSubscriber} (hs : s = s₀)
      (hholders : s.mgr.holders connHandle = nif :: rest) (hsm : s.sm nif = some m)
      (hsub : m.getSubscriber connHandle = some subscriber) :
      Dispatch env s₀ s (.releaseATL connHandle)
        ((s.note (.releaseATL connHandle (nif :: rest))).runSm nif
          (m.processAgpsEventUnsubscribe env subscriber))
  /-- A report reaches its machine, which can have a new APN and bearer. -/
  | report {call : AgpsCall} {nif : Nif} {event : AgpsEvent} {m : AgpsStateMachine}
      (hcall : reportOf env call = some (nif, event)) (hsm : s.sm nif = some m)
      (apn : Option (List UInt8)) (bearer : AGpsBearerType) :
      Dispatch env s₀ s call
        (s.report env nif event { m with mAPN := apn, mBearer := bearer })
  /-- A modem restart. -/
  | modemSSR : Dispatch env s₀ s .handleModemSSR (s.handleModemSSR env)
  /-- A retry timer expires. -/
  | retry {n : Nat} {m : AgpsStateMachine} (htimers : s.retryTimers = n + 1)
      (hsm : s.sm .ds = some m) :
      Dispatch env s₀ s .delayCallback
        ({ s with retryTimers := n }.emit (some .ds) m.retryCallback)

/-! ### The parts in terms of the fields -/

@[simp] theorem sm_note (s : AgpsSystem) (entry : AgpsLogEntry) (nif : Nif) :
    (s.note entry).sm nif = s.sm nif := rfl

@[simp] theorem msgQueue_note (s : AgpsSystem) (entry : AgpsLogEntry) :
    (s.note entry).msgQueue = s.msgQueue := rfl

@[simp] theorem log_note (s : AgpsSystem) (entry : AgpsLogEntry) :
    (s.note entry).log = s.log ++ [entry] := rfl

@[simp] theorem sm_emit (s : AgpsSystem) (sm : Option Nif) (outs : List AgpsOutput) (nif : Nif) :
    (s.emit sm outs).sm nif = s.sm nif := rfl

@[simp] theorem msgQueue_emit (s : AgpsSystem) (sm : Option Nif) (outs : List AgpsOutput) :
    (s.emit sm outs).msgQueue = s.msgQueue ++ outs.filterMap AgpsOutput.posted := rfl

@[simp] theorem log_emit (s : AgpsSystem) (sm : Option Nif) (outs : List AgpsOutput) :
    (s.emit sm outs).log = s.log ++ outs.map (.output sm) := rfl

@[simp] theorem sm_runSm_self (s : AgpsSystem) (nif : Nif)
    (r : AgpsStateMachine × List AgpsOutput) : (s.runSm nif r).sm nif = some r.1 :=
  AgpsManager.sm_setSm_self _ _ _

@[simp] theorem sm_runSm_of_ne (s : AgpsSystem) {nif other : Nif} (h : other ≠ nif)
    (r : AgpsStateMachine × List AgpsOutput) : (s.runSm nif r).sm other = s.sm other :=
  AgpsManager.sm_setSm_of_ne _ h _

@[simp] theorem msgQueue_runSm (s : AgpsSystem) (nif : Nif)
    (r : AgpsStateMachine × List AgpsOutput) :
    (s.runSm nif r).msgQueue = s.msgQueue ++ r.2.filterMap AgpsOutput.posted := rfl

@[simp] theorem log_runSm (s : AgpsSystem) (nif : Nif) (r : AgpsStateMachine × List AgpsOutput) :
    (s.runSm nif r).log = s.log ++ r.2.map (.output (some nif)) := rfl

/-- A restart drops every subscriber and leaves the states alone. -/
theorem sm_handleModemSSR (s : AgpsSystem) (env : AgpsEnv) (nif : Nif) :
    (s.handleModemSSR env).sm nif = (s.sm nif).map .dropAllSubscribers := by
  unfold handleModemSSR
  dsimp only
  split <;> cases nif <;> rfl

/-- A restart posts no message. -/
theorem msgQueue_handleModemSSR (s : AgpsSystem) (env : AgpsEnv) :
    (s.handleModemSSR env).msgQueue = s.msgQueue := by
  unfold handleModemSSR
  dsimp only
  split
  · rw [msgQueue_emit]
    exact List.append_nil _
  · rfl

/-- A restart calls the data service client only. -/
theorem log_handleModemSSR (s : AgpsSystem) (env : AgpsEnv) :
    ∃ outs : List AgpsOutput, (s.handleModemSSR env).log = s.log ++ outs.map (.output none) ∧
      ∀ o ∈ outs, o ∈ [.dsClientStopDataCall, .dsClientCloseDataCall, .dsClientRelease,
        .dsClientInit true] := by
  unfold handleModemSSR
  dsimp only
  split
  · exact ⟨_, rfl, fun _ ho => ho⟩
  · exact ⟨[], (List.append_nil _).symm, by simp⟩

/-! ### The creation of machines -/

theorem Created.refl (env : AgpsEnv) (s : AgpsSystem) : Created env s s :=
  ⟨fun _ => Or.inl rfl, fun _ => rfl, rfl, rfl, [], by simp, by simp⟩

/-- Creating the machine of one more member. -/
theorem Created.create {env : AgpsEnv} {s s' : AgpsSystem} (h : Created env s s') (nif : Nif)
    (hds : nif = .ds → env.useEmergencyPdnForEmergencySupl = true) :
    Created env s { s' with mgr := s'.mgr.create nif } where
  sm := fun other => by
    rcases s'.mgr.sm_create nif other with hsame | ⟨hnone, hnew⟩
    · have := h.sm other
      unfold AgpsSystem.sm at this ⊢
      dsimp only
      rw [hsame]
      exact this
    · rcases h.sm other with hs | ⟨-, hs⟩
      · exact Or.inr ⟨hs.symm.trans hnone, hnew⟩
      · exact absurd (hs.symm.trans hnone) (by simp)
  ds := fun hflag => by
    have hne : Nif.ds ≠ nif := fun heq => by rw [hds heq.symm] at hflag; cases hflag
    refine Eq.trans ?_ (h.ds hflag)
    show (s'.mgr.create nif).sm .ds = s'.mgr.sm .ds
    unfold AgpsManager.create
    split
    · exact AgpsManager.sm_setSm_of_ne _ hne _
    · rfl
  msgQueue := h.msgQueue
  retryTimers := h.retryTimers
  log := h.log

/-- An initialisation of the data service client. -/
theorem Created.emit {env : AgpsEnv} {s s' : AgpsSystem} (h : Created env s s')
    {outs : List AgpsOutput} (houts : ∀ o ∈ outs, o = .dsClientInit false) :
    Created env s (s'.emit none outs) where
  sm := h.sm
  ds := h.ds
  msgQueue := by
    have hnil : outs.filterMap AgpsOutput.posted = [] :=
      List.filterMap_eq_nil_iff.mpr fun o ho => by rw [houts o ho]; rfl
    rw [msgQueue_emit, hnil, List.append_nil]
    exact h.msgQueue
  retryTimers := by
    have hzero : outs.count .locTimerStart = 0 :=
      List.count_eq_zero.mpr fun ho => by cases houts _ ho
    show s'.retryTimers + outs.count .locTimerStart = s.retryTimers
    rw [hzero]
    exact h.retryTimers
  log := by
    obtain ⟨outs', hlog, houts'⟩ := h.log
    refine ⟨outs' ++ outs, by simp [hlog], fun o ho => ?_⟩
    rcases List.mem_append.mp ho with ho | ho
    · exact houts' o ho
    · exact houts o ho

theorem created_createAgpsStateMachines (s : AgpsSystem) (env : AgpsEnv) :
    Created env s (s.createAgpsStateMachines env) := by
  have hinternet := (Created.refl env s).create .internet (by simp)
  have hagnss := hinternet.create .agnss (by simp)
  unfold createAgpsStateMachines AgpsManager.createAgpsStateMachines
  dsimp only
  split
  · split
    · rename_i hflag
      split
      · exact hagnss.emit (by simp)
      · split
        · exact hagnss.emit (by simp)
        · exact (hagnss.create .ds fun _ => hflag.2).emit (by simp)
    · exact hagnss.emit (by simp)
  · exact hinternet.emit (by simp)

/-- `getAgpsStateMachine` creates machines at most, and returns the routed member. -/
theorem created_getAgpsStateMachine (s : AgpsSystem) (env : AgpsEnv) (agpsType : AGpsExtType) :
    Created env s (s.getAgpsStateMachine env agpsType).1 ∧
      (s.getAgpsStateMachine env agpsType).2 = route env agpsType := by
  have hsame : Created env s (s.emit none []) := (Created.refl env s).emit (by simp)
  unfold getAgpsStateMachine AgpsManager.getAgpsStateMachine route
  by_cases hsupl : agpsType = locAgpsTypeInvalid ∨ agpsType = locAgpsTypeSupl
  · rw [if_pos hsupl, if_pos hsupl]
    exact ⟨hsame, rfl⟩
  · rw [if_neg hsupl, if_neg hsupl]
    by_cases hes : agpsType = locAgpsTypeSuplEs
    · rw [if_pos hes, if_pos hes]
      cases env.useEmergencyPdnForEmergencySupl with
      | false => exact ⟨hsame, rfl⟩
      | true =>
          by_cases hds : s.mgr.mDsNif = none
          · rw [if_pos hds]
            exact ⟨created_createAgpsStateMachines s env, rfl⟩
          · rw [if_neg hds]
            exact ⟨hsame, rfl⟩
    · rw [if_neg hes, if_neg hes]
      exact ⟨hsame, rfl⟩

/-! ### One step -/

/-- A request after its message has left the queue. -/
theorem requestATL_dispatch {s : AgpsSystem} {env : AgpsEnv} {call : AgpsCall}
    {connHandle : ConnHandle} {agpsType : AGpsExtType} {posted : Bool}
    (hcall : s.requestOf call = some (connHandle, agpsType, posted)) :
    ∃ s', Created env (s.dequeue call) s' ∧
      Dispatch env s s' call ((s.dequeue call).requestATL env connHandle agpsType posted) := by
  obtain ⟨hcreated, hroute⟩ := created_getAgpsStateMachine (s.dequeue call) env agpsType
  refine ⟨_, hcreated, ?_⟩
  unfold requestATL
  dsimp only
  rw [hroute]
  split
  · rename_i hsm
    exact .requestNull hcall hsm
  · rename_i m hsm
    exact .request hcall hsm rfl

theorem releaseATL_dispatch (s : AgpsSystem) (env : AgpsEnv) (connHandle : ConnHandle) :
    Dispatch env s s (.releaseATL connHandle) (s.releaseATL env connHandle) := by
  unfold releaseATL
  dsimp only
  split
  · rename_i hnone
    rw [hnone]
    exact .releaseNone rfl hnone
  · rename_i nif rest hholders
    -- the first holder has a machine that lists the handle
    have hmem : nif ∈ s.mgr.holders connHandle := by rw [hholders]; exact List.mem_cons_self
    have hany := (List.mem_filter.mp hmem).2
    rw [Option.any_eq_true] at hany
    obtain ⟨m, hm, hsome⟩ := hany
    obtain ⟨subscriber, hsub⟩ := Option.isSome_iff_exists.mp hsome
    have hsm : s.sm nif = some m := hm
    rw [hsm, Option.bind_some, hsub, Option.map_some, hholders]
    exact .release rfl hholders hsm hsub

theorem reportAtl_dispatch {s₀ s t : AgpsSystem} {env : AgpsEnv} {call : AgpsCall}
    {agpsType : AGpsExtType} {event : AgpsEvent} {update : AgpsStateMachine → AgpsStateMachine}
    (hcall : reportOf env call = some (route env agpsType, event))
    (hupdate : ∀ m, ∃ apn bearer, update m = { m with mAPN := apn, mBearer := bearer })
    (h : s.reportAtl env agpsType event update = some t) :
    ∃ s', Created env s s' ∧ Dispatch env s₀ s' call t := by
  obtain ⟨hcreated, hroute⟩ := created_getAgpsStateMachine s env agpsType
  refine ⟨_, hcreated, ?_⟩
  unfold reportAtl at h
  dsimp only at h
  rw [hroute, Option.map_eq_some_iff] at h
  obtain ⟨m, hsm, rfl⟩ := h
  obtain ⟨apn, bearer, heq⟩ := hupdate m
  rw [heq]
  exact .report hcall hsm apn bearer

theorem reportDataCall_dispatch {s₀ s : AgpsSystem} {env : AgpsEnv} {call : AgpsCall}
    {event : AgpsEvent} (hcall : reportOf env call = some (.ds, event))
    (hrequest : s₀.requestOf call = none) (hrelease : releaseOf call = none) :
    Dispatch env s₀ s call (s.reportDataCall env event) := by
  unfold reportDataCall
  split
  · exact .idle hrequest hrelease
  · rename_i m hsm
    exact .report hcall hsm m.mAPN m.mBearer

/-- The parts of one step. -/
theorem step_cases {s t : AgpsSystem} {call : AgpsCall} {env : AgpsEnv}
    (h : s.step (call, env) = some t) :
    ∃ s', Created env (s.dequeue call) s' ∧ Dispatch env s s' call t := by
  cases call with
  | createAgpsStateMachines =>
      cases h
      exact ⟨_, created_createAgpsStateMachines s env, .idle rfl rfl⟩
  | requestATL connHandle agpsType =>
      cases h
      exact requestATL_dispatch rfl
  | procMsgRequestATL i =>
      simp only [step, procMsgRequestATL, Option.map_eq_some_iff] at h
      obtain ⟨⟨connHandle, agpsType⟩, hmsg, rfl⟩ := h
      exact requestATL_dispatch (by simp [requestOf, hmsg])
  | releaseATL connHandle =>
      cases h
      exact ⟨s, Created.refl env s, releaseATL_dispatch s env connHandle⟩
  | reportDataCallOpened =>
      cases h
      exact ⟨s, Created.refl env s, reportDataCall_dispatch rfl rfl rfl⟩
  | reportDataCallClosed =>
      cases h
      exact ⟨s, Created.refl env s, reportDataCall_dispatch rfl rfl rfl⟩
  | reportAtlOpenSuccess agpsType apnName apnLen bearerType =>
      exact reportAtl_dispatch rfl (fun m => ⟨_, bearerType, rfl⟩) h
  | reportAtlOpenFailed agpsType =>
      exact reportAtl_dispatch rfl (fun m => ⟨m.mAPN, m.mBearer, rfl⟩) h
  | reportAtlClosed agpsType =>
      exact reportAtl_dispatch rfl (fun m => ⟨m.mAPN, m.mBearer, rfl⟩) h
  | handleModemSSR =>
      cases h
      exact ⟨s, Created.refl env s, .modemSSR⟩
  | delayCallback =>
      simp only [step, delayCallback] at h
      split at h
      · rename_i n m htimers hsm
        cases h
        exact ⟨s, Created.refl env s, .retry htimers hsm⟩
      · cases h

/-- A report to a machine that exists reaches it. -/
theorem step_of_report {s : AgpsSystem} {call : AgpsCall} {env : AgpsEnv} {nif : Nif}
    {event : AgpsEvent} {m : AgpsStateMachine} (hcall : reportOf env call = some (nif, event))
    (hsm : s.sm nif = some m) :
    ∃ s' apn bearer, Created env s s' ∧ s.step (call, env)
      = some (s'.report env nif event { m with mAPN := apn, mBearer := bearer }) := by
  -- the machine is there after the creation of machines
  have hsm' : ∀ s', Created env s s' → s'.sm nif = some m := by
    intro s' hcreated
    rcases hcreated.sm nif with hsame | ⟨hnone, -⟩
    · exact hsame.trans hsm
    · cases hnone.symm.trans hsm
  have hatl : ∀ agpsType update, route env agpsType = nif →
      (∀ m, ∃ apn bearer, update m = { m with mAPN := apn, mBearer := bearer }) →
      ∃ s' apn bearer, Created env s s' ∧ s.reportAtl env agpsType event update
        = some (s'.report env nif event { m with mAPN := apn, mBearer := bearer }) := by
    intro agpsType update hnif hupdate
    obtain ⟨hcreated, hroute⟩ := created_getAgpsStateMachine s env agpsType
    obtain ⟨apn, bearer, heq⟩ := hupdate m
    refine ⟨_, apn, bearer, hcreated, ?_⟩
    unfold reportAtl
    dsimp only
    rw [hroute, hnif, hsm' _ hcreated, Option.map_some, heq]
  have hdata : nif = .ds → s.reportDataCall env event
      = s.report env nif event { m with mAPN := m.mAPN, mBearer := m.mBearer } := by
    rintro rfl
    unfold reportDataCall
    rw [hsm]
  cases call with
  | reportDataCallOpened =>
      cases hcall
      exact ⟨s, _, _, Created.refl env s, congrArg some (hdata rfl)⟩
  | reportDataCallClosed =>
      cases hcall
      exact ⟨s, _, _, Created.refl env s, congrArg some (hdata rfl)⟩
  | reportAtlOpenSuccess agpsType apnName apnLen bearerType =>
      cases hcall
      exact hatl agpsType _ rfl fun m => ⟨_, bearerType, rfl⟩
  | reportAtlOpenFailed agpsType =>
      cases hcall
      exact hatl agpsType _ rfl fun m => ⟨m.mAPN, m.mBearer, rfl⟩
  | reportAtlClosed agpsType =>
      cases hcall
      exact hatl agpsType _ rfl fun m => ⟨m.mAPN, m.mBearer, rfl⟩
  | _ => cases hcall

/-! ### Invariants of single machines -/

@[simp] theorem sm_dequeue (s : AgpsSystem) (call : AgpsCall) (nif : Nif) :
    (s.dequeue call).sm nif = s.sm nif := by
  unfold dequeue
  split <;> rfl

@[simp] theorem log_dequeue (s : AgpsSystem) (call : AgpsCall) :
    (s.dequeue call).log = s.log := by
  unfold dequeue
  split <;> rfl

/-- A request that is routed to a machine reaches it. -/
theorem step_of_request {s : AgpsSystem} {call : AgpsCall} {env : AgpsEnv}
    {connHandle : ConnHandle} {agpsType : AGpsExtType} {posted : Bool} {m : AgpsStateMachine}
    (hcall : s.requestOf call = some (connHandle, agpsType, posted))
    (hsm : s.sm (route env agpsType) = some m) :
    ∃ s', Created env (s.dequeue call) s' ∧ s.step (call, env)
      = some ((s'.note (.requestATL connHandle agpsType posted (some (route env agpsType))
          (m.getSubscriber connHandle).isSome)).runSm (route env agpsType)
        (m.processAgpsEventSubscribe env (newSubscriber connHandle agpsType))) := by
  obtain ⟨hcreated, hroute⟩ := created_getAgpsStateMachine (s.dequeue call) env agpsType
  have hsm' : ((s.dequeue call).getAgpsStateMachine env agpsType).1.sm (route env agpsType)
      = some m := by
    have hold : (s.dequeue call).sm (route env agpsType) = some m := by rwa [sm_dequeue]
    rcases hcreated.sm (route env agpsType) with hsame | ⟨hnone, -⟩
    · exact hsame.trans hold
    · cases hnone.symm.trans hold
  have hrequest : (s.dequeue call).requestATL env connHandle agpsType posted
      = (((s.dequeue call).getAgpsStateMachine env agpsType).1.note (.requestATL connHandle agpsType
          posted (some (route env agpsType)) (m.getSubscriber connHandle).isSome)).runSm
        (route env agpsType)
        (m.processAgpsEventSubscribe env (newSubscriber connHandle agpsType)) := by
    unfold requestATL
    dsimp only
    rw [hroute, hsm']
    rfl
  refine ⟨_, hcreated, ?_⟩
  rw [← hrequest]
  cases call with
  | requestATL connHandle agpsType =>
      cases hcall
      rfl
  | procMsgRequestATL i =>
      simp only [requestOf, Option.map_eq_some_iff] at hcall
      obtain ⟨msg, hmsg, heq⟩ := hcall
      cases heq
      simp only [step, procMsgRequestATL, hmsg, Option.map_some]
      rfl
  | _ => cases hcall

/-- The messages before the dispatch were queued before. -/
theorem mem_dequeue {s : AgpsSystem} {call : AgpsCall} {msg : ConnHandle × AGpsExtType}
    (hmem : msg ∈ (s.dequeue call).msgQueue) : msg ∈ s.msgQueue := by
  unfold dequeue at hmem
  split at hmem
  · exact List.mem_of_mem_eraseIdx hmem
  · exact hmem

/-- A posted request takes its message off the queue. -/
theorem mem_of_requestOf_posted {s : AgpsSystem} {call : AgpsCall} {h : ConnHandle}
    {agpsType : AGpsExtType}
    (hcall : s.requestOf call = some (h, agpsType, true)) : (h, agpsType) ∈ s.msgQueue := by
  cases call with
  | procMsgRequestATL i =>
      simp only [requestOf, Option.map_eq_some_iff] at hcall
      obtain ⟨msg, hmsg, heq⟩ := hcall
      cases heq
      exact List.mem_of_getElem? hmsg
  | requestATL connHandle type => simp [requestOf] at hcall
  | _ => cases hcall

theorem eq_of_requestOf_external {s : AgpsSystem} {call : AgpsCall} {h : ConnHandle}
    {agpsType : AGpsExtType}
    (hcall : s.requestOf call = some (h, agpsType, false)) : call = .requestATL h agpsType := by
  cases call with
  | procMsgRequestATL i => simp [requestOf] at hcall
  | requestATL connHandle type =>
      cases hcall
      rfl
  | _ => cases hcall

/-- A property of single machines that new machines have. -/
theorem Created.forall {P : Nif → AgpsStateMachine → Prop} {env : AgpsEnv}
    {s s' : AgpsSystem} (h : Created env s s') (hnew : ∀ nif, P nif (newSm nif))
    (hs : ∀ nif m, s.sm nif = some m → P nif m) : ∀ nif m, s'.sm nif = some m → P nif m := by
  intro nif m hm
  rcases h.sm nif with hsame | ⟨-, hfresh⟩
  · exact hs nif m (hsame.symm.trans hm)
  · cases hfresh.symm.trans hm
    exact hnew nif

/-- A property of single machines that every event keeps holds of every machine after a step. A
subscriber of the DS machine comes with the type `SUPL_ES`, so `hsubscribe` may use the
route. -/
theorem machine_invariant {P : Nif → AgpsStateMachine → Prop}
    (hnew : ∀ nif, P nif (newSm nif))
    (hsubscribe : ∀ env agpsType connHandle m, P (route env agpsType) m →
      P (route env agpsType)
        (m.processAgpsEventSubscribe env (newSubscriber connHandle agpsType)).1)
    (hunsubscribe : ∀ nif env connHandle m sub, P nif m →
      m.getSubscriber connHandle = some sub → P nif (m.processAgpsEventUnsubscribe env sub).1)
    (hreport : ∀ nif env event m apn bearer, P nif m →
      P nif (AgpsStateMachine.processReport { m with mAPN := apn, mBearer := bearer } env event).1)
    {s t : AgpsSystem} {call : AgpsCall} {env : AgpsEnv}
    (hdrop : call = .handleModemSSR → ∀ nif m, P nif m → P nif m.dropAllSubscribers)
    (hs : ∀ nif m, s.sm nif = some m → P nif m) (h : s.step (call, env) = some t) :
    ∀ nif m, t.sm nif = some m → P nif m := by
  obtain ⟨s', hcreated, hdispatch⟩ := step_cases h
  have hs' : ∀ nif m, s'.sm nif = some m → P nif m :=
    hcreated.forall hnew fun nif m hm => hs nif m (by rwa [sm_dequeue] at hm)
  -- the machine that ran keeps `P`, and the others have not changed
  have hrun : ∀ (u : AgpsSystem) nif r, (∀ other, u.sm other = s'.sm other) → P nif r.1 →
      ∀ other m, (u.runSm nif r).sm other = some m → P other m := fun u nif r hu hr other m hm => by
    by_cases heq : other = nif
    · subst heq
      rw [sm_runSm_self] at hm
      cases hm
      exact hr
    · rw [sm_runSm_of_ne _ heq, hu] at hm
      exact hs' other m hm
  cases hdispatch with
  | idle => exact hs'
  | requestNull => exact hs'
  | request _ hsm => exact hrun _ _ _ (fun _ => rfl) (hsubscribe _ _ _ _ (hs' _ _ hsm))
  | releaseNone => exact hs'
  | release _ _ hsm hsub =>
      exact hrun _ _ _ (fun _ => rfl) (hunsubscribe _ _ _ _ _ (hs' _ _ hsm) hsub)
  | report _ hsm apn bearer =>
      exact hrun _ _ _ (fun _ => rfl) (hreport _ _ _ _ apn bearer (hs' _ _ hsm))
  | modemSSR =>
      intro nif m hm
      rw [sm_handleModemSSR, Option.map_eq_some_iff] at hm
      obtain ⟨m', hm', rfl⟩ := hm
      exact hdrop rfl nif m' (hs' nif m' hm')
  | retry _ _ => exact hs'

end AgpsSystem

end LocHal.Gnss
