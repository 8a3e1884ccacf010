import LocHal.Gnss.AgpsFramework

/-!
# `LocHal.Gnss.AgpsAdapter`: the AGPS manager before and after `initAgps`

`GnssAdapter` registers the status callback of the framework and creates the machines in
`initAgps`, which does nothing without the MSA and the MSB capability. Requests and reports can
come before it, and a `SUPL_ES` request can create machines on its own. `AgpsAdapter` is the
manager with the registration, and `crashed` says that a method of a null machine or the null
callback was called; nothing happens after that.

`requestATL` tests the pointer of its machine, and `reportAtlOpenSuccess`, `reportAtlOpenFailed`
and `reportAtlClosed` do not. No call of the framework callback tests it.
`noNullUse_iff_guarded` is the exact condition over every run.

The model adds to the manager what decides about its callback: the priority of the registered
callbacks and whether one was registered. `manager` runs a call of the manager, and `finish` looks
at what the call has added to the history: a status to the framework without a registered callback
is the crash. A report to a machine that is not there is found before the call (`nullMachine`).

`BaseReleased` is what holds before the registration under the condition: the machines of the base
class are released, so nobody else will call the framework (`quiet_step`). For the other direction,
a request that reaches a base machine then asks the framework for a connection at once
(`status_of_baseRequest`), and a report without a machine crashes by itself. `machineThere_iff`
writes the condition on a report as what the look-up returns.
-/

set_option autoImplicit false

namespace LocHal.Gnss

open LabelledRun
open AgpsStateMachine (Sane)
open AgpsManager (newSm)

/-- The AGPS manager in `GnssAdapter`. `mFrameworkStatusV4Cb` says whether the callback is
registered. -/
structure AgpsAdapter where
  agps : AgpsSystem
  cbPriority : Nat
  mFrameworkStatusV4Cb : Bool
  crashed : Bool
  deriving DecidableEq, Repr

/-- The messages: `AgpsMsgInit`, and the calls of the manager other than
`createAgpsStateMachines`, which `initAgps` makes. -/
inductive AgpsAdapterCall where
  | initAgps (cbPriority : Nat)
  | manager (call : AgpsCall)
  deriving DecidableEq, Repr

/-- The type that a report of the framework carries. -/
def atlType : AgpsCall → Option AGpsExtType
  | .reportAtlOpenSuccess agpsType _ _ _ => some agpsType
  | .reportAtlOpenFailed agpsType => some agpsType
  | .reportAtlClosed agpsType => some agpsType
  | _ => none

namespace AgpsAdapter

/-- The adapter after its constructor, which registers the ATL callbacks. -/
def init : AgpsAdapter := ⟨.init, 0, false, false⟩

/-- `GnssAdapter::initAgps` with a callback that is not null. -/
def initAgps (a : AgpsAdapter) (env : AgpsEnv) (cbPriority : Nat) : AgpsAdapter :=
  if !env.agpsCapable then a
  else if a.cbPriority > cbPriority then a
  else
    { a with
      agps := a.agps.createAgpsStateMachines env
      cbPriority := cbPriority
      mFrameworkStatusV4Cb := true }

/-- Whether the machine that a report looks up is null. -/
def nullMachine (s : AgpsSystem) (env : AgpsEnv) (call : AgpsCall) : Bool :=
  (atlType call).any fun agpsType =>
    let (s', nif) := s.getAgpsStateMachine env agpsType
    (s'.sm nif).isNone

/-- The adapter after a call of the manager. -/
def finish (a : AgpsAdapter) (s : AgpsSystem) : AgpsAdapter :=
  if !a.mFrameworkStatusV4Cb &&
      (s.log.drop a.agps.log.length).any AgpsLogEntry.callsFramework then
    { a with crashed := true }
  else { a with agps := s }

/-- A call of the manager. -/
def manager (a : AgpsAdapter) (env : AgpsEnv) (call : AgpsCall) : Option AgpsAdapter :=
  if call = .createAgpsStateMachines then none
  else if nullMachine a.agps env call then some { a with crashed := true }
  else (a.agps.step (call, env)).map a.finish

/-- One message, with the answers of the outside during it. -/
def step (a : AgpsAdapter) : AgpsAdapterCall × AgpsEnv → Option AgpsAdapter
  | (.initAgps cbPriority, env) => if a.crashed then none else some (a.initAgps env cbPriority)
  | (.manager call, env) => if a.crashed then none else a.manager env call

/-- Neither a null machine nor the null callback was used. `crashed` is set where the code follows a
pointer that is null, or calls an empty `std::function`. -/
def NoNullUse (a : AgpsAdapter) : Prop := a.crashed = false

/-- A report finds a machine: it is there, or the look-up creates it. The machines are created when
the AGPS part is initialised. `getAgpsStateMachine` tries again for SUPL_ES with an emergency PDN
only, and then it needs the capability MSA or MSB and a client of the data service that can be
initialised. -/
def MachineThere (s : AgpsSystem) (env : AgpsEnv) (agpsType : AGpsExtType) : Prop :=
  (s.sm (route env agpsType)).isSome ∨
    route env agpsType = .ds ∧ env.agpsCapable = true ∧ env.mDSClientInitFn = some 0

/-- The call is no request for a machine of the base class that is there. -/
def NoBaseRequest (s : AgpsSystem) (env : AgpsEnv) (call : AgpsCall) : Prop :=
  ∀ connHandle agpsType posted, s.requestOf call = some (connHandle, agpsType, posted) →
    route env agpsType = .ds ∨ s.sm (route env agpsType) = none

/-- What a message must meet. The reports of the data service are handed to a machine without a
test, so it has to be there. And the base machines call `mFrameworkStatusV4Cb`, which `AgpsMsgInit`
sets. So before that no request is for a machine of the base class that is there. The DS machine
does not use this callback, and a request for a machine that is not there is answered at once with a
failed open. -/
def Guards (a : AgpsAdapter) : AgpsAdapterCall × AgpsEnv → Prop
  | (.initAgps _, _) => True
  | (.manager call, env) =>
      (∀ agpsType, atlType call = some agpsType → MachineThere a.agps env agpsType) ∧
      (a.mFrameworkStatusV4Cb = false → NoBaseRequest a.agps env call)

end AgpsAdapter

/-! ### The machine of a report -/

namespace AgpsSystem

open AgpsAdapter (NoBaseRequest)

variable {s t : AgpsSystem} {env : AgpsEnv} {call : AgpsCall}

/-- The look-up of a machine of the base class creates none. -/
theorem getAgpsStateMachine_base (s : AgpsSystem) {agpsType : AGpsExtType}
    (hbase : route env agpsType ≠ .ds) :
    (s.getAgpsStateMachine env agpsType).1 = s.emit none [] := by
  unfold route at hbase
  unfold getAgpsStateMachine AgpsManager.getAgpsStateMachine
  by_cases hsupl : agpsType = locAgpsTypeInvalid ∨ agpsType = locAgpsTypeSupl
  · rw [if_pos hsupl]
  · rw [if_neg hsupl] at hbase ⊢
    by_cases hes : agpsType = locAgpsTypeSuplEs
    · rw [if_pos hes] at hbase ⊢
      by_cases hflag : env.useEmergencyPdnForEmergencySupl = true
      · rw [if_pos hflag] at hbase
        exact absurd rfl hbase
      · rw [if_neg hflag]
    · rw [if_neg hes]

/-- The look-up of the DS machine creates it when it can. -/
theorem getAgpsStateMachine_ds (s : AgpsSystem) {agpsType : AGpsExtType}
    (hds : route env agpsType = .ds) :
    ((s.getAgpsStateMachine env agpsType).1.sm .ds).isSome ↔
      (s.sm .ds).isSome ∨ env.agpsCapable = true ∧ env.mDSClientInitFn = some 0 := by
  unfold route at hds
  have hsupl : ¬ (agpsType = locAgpsTypeInvalid ∨ agpsType = locAgpsTypeSupl) := by
    intro hsupl
    rw [if_pos hsupl] at hds
    cases hds
  rw [if_neg hsupl] at hds
  have hes : agpsType = locAgpsTypeSuplEs := by
    by_contra hes
    rw [if_neg hes] at hds
    cases hds
  have hflag : env.useEmergencyPdnForEmergencySupl = true := by
    by_contra hflag
    rw [if_pos hes, if_neg hflag] at hds
    cases hds
  unfold getAgpsStateMachine AgpsManager.getAgpsStateMachine
  rw [if_neg hsupl, if_pos hes, if_pos hflag]
  obtain ⟨⟨agnss, internet, ds⟩, msgQueue, retryTimers, log⟩ := s
  cases ds with
  | some m => simp [sm, emit, AgpsManager.sm]
  | none =>
      cases hcap : env.agpsCapable with
      | false =>
          cases agnss <;> cases internet <;>
            simp [AgpsManager.createAgpsStateMachines, AgpsManager.create, AgpsManager.sm,
              AgpsManager.setSm, sm, emit, hcap]
      | true =>
          cases hinit : env.mDSClientInitFn with
          | none =>
              cases agnss <;> cases internet <;>
                simp [AgpsManager.createAgpsStateMachines, AgpsManager.create, AgpsManager.sm,
                  AgpsManager.setSm, sm, emit, hcap, hflag, hinit]
          | some ret =>
              by_cases hret : ret = 0 <;> cases agnss <;> cases internet <;>
                simp [AgpsManager.createAgpsStateMachines, AgpsManager.create, AgpsManager.sm,
                  AgpsManager.setSm, sm, emit, hcap, hflag, hinit, hret]

/-- The look-up finds a machine exactly when one is there or can be created. -/
theorem machineThere_iff (s : AgpsSystem) (env : AgpsEnv) (agpsType : AGpsExtType) :
    ((s.getAgpsStateMachine env agpsType).1.sm (route env agpsType)).isSome ↔
      AgpsAdapter.MachineThere s env agpsType := by
  by_cases hds : route env agpsType = .ds
  · have h := getAgpsStateMachine_ds s hds
    unfold AgpsAdapter.MachineThere
    rw [hds]
    rw [h]
    simp
  · unfold AgpsAdapter.MachineThere
    rw [getAgpsStateMachine_base s hds, sm_emit]
    simp [hds]

/-! ### Steps before the callback is registered -/

/-- The machines of the base class have done nothing yet. -/
def BaseReleased (s : AgpsSystem) : Prop :=
  ∀ nif m, nif ≠ .ds → s.sm nif = some m → m.mState = .released

/-- Entries that call the framework callback nowhere. -/
def NoStatus (new : List AgpsLogEntry) : Prop := new.any AgpsLogEntry.callsFramework = false

theorem NoStatus.append {new new' : List AgpsLogEntry} (h : NoStatus new) (h' : NoStatus new') :
    NoStatus (new ++ new') := by
  unfold NoStatus at *
  rw [List.any_append, h, h']
  rfl

theorem NoStatus.note {entry : AgpsLogEntry} (hentry : entry.callsFramework = false) :
    NoStatus [entry] := by
  show ([entry].any AgpsLogEntry.callsFramework) = false
  simp [hentry]

/-- Outputs without a status. -/
theorem NoStatus.outputs {sm : Option Nif} {outs : List AgpsOutput}
    (houts : ∀ type status, AgpsOutput.frameworkStatusV4Cb type status ∉ outs) :
    NoStatus (outs.map (AgpsLogEntry.output sm)) := by
  show (outs.map (AgpsLogEntry.output sm)).any AgpsLogEntry.callsFramework = false
  rw [List.any_map, List.any_eq_false]
  intro o ho
  cases o with
  | frameworkStatusV4Cb type status => exact absurd ho (houts type status)
  | _ => simp [AgpsLogEntry.callsFramework]

/-- Outputs of the DS machine. -/
theorem NoStatus.dsMachine {m m' : AgpsStateMachine} (hsane : Sane .ds m)
    (hcls : m'.cls = m.cls) {outs : List AgpsOutput} (houts : m'.StatusesOf outs) :
    NoStatus (outs.map (AgpsLogEntry.output (some .ds))) := by
  refine .outputs fun type status hmem => ?_
  obtain ⟨hbase, -⟩ := houts type status hmem
  rw [hcls, hsane.cls] at hbase
  cases hbase

/-- Only the DS machine ran. -/
theorem BaseReleased.runDs (h : BaseReleased s) (entry : AgpsLogEntry)
    (r : AgpsStateMachine × List AgpsOutput) : BaseReleased ((s.note entry).runSm .ds r) := by
  intro nif m hne hm
  rw [sm_runSm_of_ne _ hne, sm_note] at hm
  exact h nif m hne hm

theorem BaseReleased.created {s' : AgpsSystem} (h : BaseReleased s) (hcreated : Created env s s') :
    BaseReleased s' := by
  intro nif m hne hm
  rcases hcreated.sm nif with hsame | ⟨-, hnew⟩
  · exact h nif m hne (hsame.symm.trans hm)
  · cases hnew.symm.trans hm
    cases nif <;> rfl

/-- A released machine of the base class is listed by nobody, so a release reaches the DS
machine. -/
theorem BaseReleased.ds_of_listed (h : BaseReleased s) {nif : Nif} {m : AgpsStateMachine}
    (hsane : Sane nif m) (hsm : s.sm nif = some m) {connHandle : ConnHandle}
    {sub : AgpsSubscriber} (hsub : m.getSubscriber connHandle = some sub) : nif = .ds := by
  by_contra hne
  have hmem := (AgpsStateMachine.mem_of_getSubscriber hsub).1
  rw [hsane.list.releasedBase (h nif m hne hsm) (cls_of_sane hsane hne)] at hmem
  cases hmem

/-- A request that reaches a machine of the base class finds it there. -/
theorem ds_of_request {s' : AgpsSystem} (h : NoBaseRequest s env call)
    {connHandle : ConnHandle} {agpsType : AGpsExtType} {posted : Bool} {m : AgpsStateMachine}
    (hcall : s.requestOf call = some (connHandle, agpsType, posted))
    (hsm : s'.sm (route env agpsType) = some m)
    (hs' : s' = ((s.dequeue call).getAgpsStateMachine env agpsType).1) :
    route env agpsType = .ds := by
  rcases h _ _ _ hcall with hds | hnone
  · exact hds
  · by_contra hne
    rw [hs', getAgpsStateMachine_base _ hne, sm_emit, sm_dequeue, hnone] at hsm
    cases hsm

/-- Without a request for a machine of the base class, these machines stay as they are and send
nothing. -/
theorem quiet_step (hs : ∀ nif m, s.sm nif = some m → Sane nif m) (hbase : BaseReleased s)
    (hrequest : NoBaseRequest s env call) (h : s.step (call, env) = some t) :
    BaseReleased t ∧ ∃ new, t.log = s.log ++ new ∧ NoStatus new := by
  obtain ⟨s', hcreated, hdispatch⟩ := step_cases h
  have hs' : ∀ nif m, s'.sm nif = some m → Sane nif m :=
    hcreated.forall sane_newSm fun nif m hm => hs nif m (by rwa [sm_dequeue] at hm)
  have hdequeue : BaseReleased (s.dequeue call) := fun nif m hne hm =>
    hbase nif m hne (by rwa [sm_dequeue] at hm)
  have hbase' : BaseReleased s' := hdequeue.created hcreated
  obtain ⟨outs, hlog, houts⟩ := hcreated.log
  have hnew : NoStatus (outs.map (AgpsLogEntry.output none)) :=
    .outputs fun type status hmem => by cases houts _ hmem
  rw [log_dequeue] at hlog
  -- the history after the dispatch, from what the dispatch adds
  have hadd : ∀ new, t.log = s'.log ++ new → NoStatus new →
      ∃ new, t.log = s.log ++ new ∧ NoStatus new := fun new hlog' hnew' =>
    ⟨_, by rw [hlog', hlog, List.append_assoc], hnew.append hnew'⟩
  cases hdispatch with
  | idle => exact ⟨hbase', hadd [] (List.append_nil _).symm rfl⟩
  | requestNull =>
      refine ⟨hbase', hadd _ (by rw [log_emit, log_note, List.append_assoc]) ?_⟩
      exact .append (.note rfl) (.outputs (by simp))
  | request hcall hsm heq =>
      -- only the DS machine can have a request here
      have hds := ds_of_request hrequest hcall hsm heq
      rw [hds] at hsm hadd ⊢
      refine ⟨hbase'.runDs _ _, hadd _ (by rw [log_runSm, log_note, List.append_assoc]) ?_⟩
      refine .append (.note rfl) (.dsMachine (hs' _ _ hsm) rfl ?_)
      exact AgpsStateMachine.statusesOf_subscribe _ env _
  | releaseNone =>
      refine ⟨hbase', hadd _ (by rw [log_emit, log_note, List.append_assoc]) ?_⟩
      exact .append (.note rfl) (.outputs (by simp))
  | release _ _ hsm hsub =>
      -- a released machine has no subscriber, so it is the DS machine
      have hds := hbase'.ds_of_listed (hs' _ _ hsm) hsm hsub
      subst hds
      refine ⟨hbase'.runDs _ _, hadd _ (by rw [log_runSm, log_note, List.append_assoc]) ?_⟩
      refine .append (.note rfl) (.dsMachine (hs' _ _ hsm) rfl ?_)
      exact AgpsStateMachine.statusesOf_unsubscribe env _ (hs' _ _ hsm).list.valid
  | report _ hsm apn bearer =>
      rename_i nif event m _
      by_cases hds : nif = .ds
      · subst hds
        refine ⟨hbase'.runDs _ _,
          hadd _ (by rw [AgpsSystem.report, log_runSm, log_note, List.append_assoc]) ?_⟩
        refine .append (.note rfl) (.dsMachine (hs' _ _ hsm) rfl ?_)
        exact AgpsStateMachine.statusesOf_report _ env _
      · -- a released machine only takes the APN and the bearer
        have hidle := AgpsStateMachine.processReport_released
          (m := { m with mAPN := apn, mBearer := bearer }) (hbase' nif m hds hsm) env event
        unfold AgpsSystem.report at hadd ⊢
        rw [hidle] at hadd ⊢
        refine ⟨fun other m' hne hm' => ?_,
          hadd _ (by rw [log_runSm, log_note, List.append_assoc])
            (.append (.note rfl) (.outputs (by simp)))⟩
        by_cases heq : other = nif
        · subst heq
          rw [sm_runSm_self] at hm'
          cases hm'
          exact hbase' other m hds hsm
        · rw [sm_runSm_of_ne _ heq, sm_note] at hm'
          exact hbase' other m' hne hm'
  | modemSSR =>
      obtain ⟨outs', hlog', houts'⟩ := log_handleModemSSR s' env
      refine ⟨fun nif m hne hm => ?_, hadd _ hlog' (.outputs fun type status hmem => ?_)⟩
      · rw [sm_handleModemSSR, Option.map_eq_some_iff] at hm
        obtain ⟨m', hm', rfl⟩ := hm
        exact hbase' nif m' hne hm'
      · have hcall := houts' _ hmem
        simp at hcall
  | retry _ _ => exact ⟨hbase', hadd _ (log_emit _ _ _) (.outputs (retryCallback_not_status _))⟩

/-- A request for a released machine of the base class goes to the framework. -/
theorem status_of_baseRequest (hs : ∀ nif m, s.sm nif = some m → Sane nif m)
    (hbase : BaseReleased s) (hrequest : ¬ NoBaseRequest s env call)
    (h : s.step (call, env) = some t) :
    ∃ new, t.log = s.log ++ new ∧ new.any AgpsLogEntry.callsFramework = true := by
  unfold NoBaseRequest at hrequest
  push Not at hrequest
  obtain ⟨connHandle, agpsType, posted, hcall, hne, hsome⟩ := hrequest
  obtain ⟨m, hm⟩ := Option.ne_none_iff_exists'.mp hsome
  -- the step is the request, after its message has left the queue
  have ht : t = (s.dequeue call).requestATL env connHandle agpsType posted := by
    cases call with
    | requestATL c a =>
        cases hcall
        cases h
        rfl
    | procMsgRequestATL i =>
        simp only [requestOf, Option.map_eq_some_iff] at hcall
        obtain ⟨msg, hmsg, heq⟩ := hcall
        cases heq
        simp only [step, procMsgRequestATL, hmsg, Option.map_some, Option.some.injEq] at h
        exact h.symm
    | _ => cases hcall
  have hroute := (created_getAgpsStateMachine (s.dequeue call) env agpsType).2
  have hsm : ((s.dequeue call).getAgpsStateMachine env agpsType).1.sm (route env agpsType)
      = some m := by
    rw [getAgpsStateMachine_base _ hne, sm_emit, sm_dequeue, hm]
  have hsane := hs _ m hm
  have hst := hbase _ m hne hm
  -- the subscription of a released machine of the base class sends the request
  have houts : (m.processAgpsEventSubscribe env (newSubscriber connHandle agpsType)).2
      = [.frameworkStatusV4Cb m.mAgpsType .requestAgpsDataConn] := by
    rw [AgpsStateMachine.processAgpsEventSubscribe_base (cls_of_sane hsane hne) env _
      hsane.list.valid]
    show m.subscribeOuts _ = _
    unfold AgpsStateMachine.subscribeOuts
    rw [hst]
  refine ⟨[.requestATL connHandle agpsType posted (some (route env agpsType))
      (m.getSubscriber connHandle).isSome,
    .output (some (route env agpsType)) (.frameworkStatusV4Cb m.mAgpsType .requestAgpsDataConn)],
    ?_, rfl⟩
  rw [ht]
  unfold requestATL
  dsimp only
  rw [hroute, hsm]
  show ((AgpsSystem.runSm _ _ _).log) = _
  rw [log_runSm, log_note]
  unfold newSubscriber at houts
  rw [houts, getAgpsStateMachine_base _ hne, log_emit, log_dequeue]
  simp

/-- A call that cannot happen is no request. -/
theorem requestOf_of_step_eq_none (h : s.step (call, env) = none) : s.requestOf call = none := by
  cases call with
  | procMsgRequestATL i =>
      simp only [step, procMsgRequestATL, Option.map_eq_none_iff] at h
      simp [requestOf, h]
  | requestATL connHandle agpsType => cases h
  | _ => rfl

end AgpsSystem

/-! ### Every run -/

namespace AgpsAdapter

variable {a t : AgpsAdapter} {env : AgpsEnv} {call : AgpsCall}

/-- What the messages that meet the condition keep. -/
structure Inv (a : AgpsAdapter) : Prop where
  safe : a.crashed = false
  sane : ∀ nif m, a.agps.sm nif = some m → Sane nif m
  quiet : a.mFrameworkStatusV4Cb = false → a.agps.BaseReleased

theorem inv_init : Inv init where
  safe := rfl
  sane := AgpsSystem.sane_init
  quiet := fun _ nif m _ hm => by cases nif <;> cases hm

theorem nullMachine_eq_false (s : AgpsSystem) (env : AgpsEnv) (call : AgpsCall) :
    nullMachine s env call = false ↔
      ∀ agpsType, atlType call = some agpsType → MachineThere s env agpsType := by
  unfold nullMachine
  cases htype : atlType call with
  | none => simp
  | some agpsType =>
      have hroute := (AgpsSystem.created_getAgpsStateMachine s env agpsType).2
      dsimp only [Option.any_some]
      rw [hroute, ← Option.not_isSome, Bool.not_eq_false', AgpsSystem.machineThere_iff]
      simp

/-- A call of the manager that happens. -/
theorem manager_cases (h : a.manager env call = some t) :
    nullMachine a.agps env call = true ∧ t = { a with crashed := true } ∨
      nullMachine a.agps env call = false ∧
        ∃ s, a.agps.step (call, env) = some s ∧ t = a.finish s := by
  unfold manager at h
  split at h
  · cases h
  · cases hnull : nullMachine a.agps env call with
    | true =>
        rw [hnull, if_pos rfl] at h
        cases h
        exact Or.inl ⟨rfl, rfl⟩
    | false =>
        rw [hnull, if_neg (by simp), Option.map_eq_some_iff] at h
        obtain ⟨s, hs, rfl⟩ := h
        exact Or.inr ⟨rfl, s, hs, rfl⟩

/-- The callback was called although it is not registered. -/
theorem finish_eq (a : AgpsAdapter) {s : AgpsSystem} {new : List AgpsLogEntry}
    (hlog : s.log = a.agps.log ++ new) :
    a.finish s =
      if !a.mFrameworkStatusV4Cb && new.any AgpsLogEntry.callsFramework then
        { a with crashed := true }
      else { a with agps := s } := by
  unfold finish
  rw [hlog, List.drop_left]

/-- With the callback registered a call cannot crash. -/
theorem finish_registered (hcb : a.mFrameworkStatusV4Cb = true) (s : AgpsSystem) :
    a.finish s = { a with agps := s } := by
  unfold finish
  rw [hcb, Bool.not_true, Bool.false_and]
  rfl

/-- The initialisation keeps the invariant. -/
theorem Inv.initAgps (h : Inv a) (env : AgpsEnv) (cbPriority : Nat) :
    Inv (a.initAgps env cbPriority) := by
  have hstep : a.agps.step (.createAgpsStateMachines, env)
      = some (a.agps.createAgpsStateMachines env) := rfl
  have hcreate := AgpsSystem.sane_step h.sane hstep
  unfold AgpsAdapter.initAgps
  split
  · exact h
  · split
    · exact h
    · exact ⟨h.safe, hcreate, fun hcb => by cases hcb⟩

/-- A message that meets the condition keeps the invariant. -/
theorem Inv.step (h : Inv a) {i : AgpsAdapterCall × AgpsEnv} (hok : Guards a i)
    (ht : a.step i = some t) : Inv t := by
  obtain ⟨msg, env⟩ := i
  cases msg with
  | initAgps cbPriority =>
      simp only [AgpsAdapter.step, h.safe] at ht
      cases ht
      exact h.initAgps env cbPriority
  | manager call =>
      simp only [AgpsAdapter.step, h.safe] at ht
      obtain ⟨hthere, hrequest⟩ := hok
      have hnull := (nullMachine_eq_false a.agps env call).mpr hthere
      rcases manager_cases ht with ⟨hnull', -⟩ | ⟨-, s, hs, rfl⟩
      · rw [hnull] at hnull'
        cases hnull'
      · have hsane := AgpsSystem.sane_step h.sane hs
        cases hcb : a.mFrameworkStatusV4Cb with
        | true =>
            rw [finish_registered hcb]
            exact ⟨h.safe, hsane, fun hcb' => by cases hcb.symm.trans hcb'⟩
        | false =>
            obtain ⟨hbase, new, hlog, hnew⟩ :=
              AgpsSystem.quiet_step h.sane (h.quiet hcb) (hrequest hcb) hs
            rw [finish_eq a hlog, hnew, Bool.and_false]
            exact ⟨h.safe, hsane, fun _ => hbase⟩

/-- A message that does not meet the condition uses something null. -/
theorem Inv.guards_of_step (h : Inv a) {i : AgpsAdapterCall × AgpsEnv} (ht : a.step i = some t)
    (hsafe : NoNullUse t) : Guards a i := by
  obtain ⟨msg, env⟩ := i
  cases msg with
  | initAgps cbPriority => exact trivial
  | manager call =>
      simp only [AgpsAdapter.step, h.safe] at ht
      rcases manager_cases ht with ⟨-, rfl⟩ | ⟨hnull, s, hs, rfl⟩
      · cases hsafe
      · refine ⟨(nullMachine_eq_false a.agps env call).mp hnull, fun hcb => ?_⟩
        by_contra hrequest
        obtain ⟨new, hlog, hnew⟩ :=
          AgpsSystem.status_of_baseRequest h.sane (h.quiet hcb) hrequest hs
        unfold NoNullUse at hsafe
        rw [finish_eq a hlog, hcb, hnew] at hsafe
        cases hsafe

/-- A message that cannot happen meets the condition. -/
theorem Inv.guards_of_none (h : Inv a) {i : AgpsAdapterCall × AgpsEnv} (hnone : a.step i = none) :
    Guards a i := by
  obtain ⟨msg, env⟩ := i
  cases msg with
  | initAgps cbPriority => exact trivial
  | manager call =>
      simp only [AgpsAdapter.step, h.safe] at hnone
      -- the calls without a step are no requests, and no reports to a null machine
      have hrequestOf : a.agps.requestOf call = none ∧ nullMachine a.agps env call = false := by
        change a.manager env call = none at hnone
        unfold manager at hnone
        by_cases hcreate : call = .createAgpsStateMachines
        · rw [hcreate]
          exact ⟨rfl, rfl⟩
        · rw [if_neg hcreate] at hnone
          cases hnull : nullMachine a.agps env call with
          | true =>
              rw [hnull, if_pos rfl] at hnone
              cases hnone
          | false =>
              rw [hnull, if_neg (by simp), Option.map_eq_none_iff] at hnone
              exact ⟨AgpsSystem.requestOf_of_step_eq_none hnone, rfl⟩
      refine ⟨(nullMachine_eq_false a.agps env call).mp hrequestOf.2, fun _ => ?_⟩
      intro connHandle agpsType posted hcall
      cases hrequestOf.1.symm.trans hcall

/-- The exact condition: a run uses neither a null machine nor the null callback if and only if
every report finds its machine, and before `initAgps` has registered the callback no request
reaches a machine of the base class. -/
theorem noNullUse_iff_guarded (calls : List (AgpsAdapterCall × AgpsEnv)) :
    Along step NoNullUse init calls ↔ Guarded step Guards init calls :=
  along_iff_guarded (I := Inv) (P := NoNullUse) (fun _ hs => hs.safe)
    (fun _ _ _ hs hok ht => hs.step hok ht) (fun _ _ _ hs ht hsafe => hs.guards_of_step ht hsafe)
    (fun _ _ hs hnone => hs.guards_of_none hnone)
    calls init inv_init

/-- A close that the framework reports before the first `initAgps`, and an emergency request that
creates the machines before a request for a data connection. -/
theorem beforeInit_crashes :
    (∃ a, run step init [(.manager (.reportAtlClosed locAgpsTypeSupl), .supl)] = some a ∧
      a.crashed = true) ∧
    ∃ a, run step init [(.manager (.requestATL 1 locAgpsTypeSuplEs), .emergency 0),
        (.manager (.requestATL 2 locAgpsTypeSupl), .emergency 0)] = some a ∧ a.crashed = true :=
  ⟨⟨_, rfl, rfl⟩, _, rfl, rfl⟩

end AgpsAdapter

end LocHal.Gnss
