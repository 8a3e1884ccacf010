import LocHal.Gnss.AgpsAdapter

/-!
# `LocHal.Android.AGnss`: the framework behind the AGPS machines

The HIDL object `AGnss` is the framework callback of the AGPS manager. `statusIpV4Cb` translates
the type of a status to an `AGnssType`, which is SUPL or C2K, and drops a status of any other
type. `dataConnOpen`, `dataConnFailed` and `dataConnClosed` answer without a type, and the object
answers the manager with `LOC_AGPS_TYPE_SUPL`.

`AGnssSystem` is the adapter with the HIDL object, the message queue and the framework. Other
threads post messages, the framework answers at any time, and `proc` processes the first message.
`history` is what the framework sees: the statuses that it gets and its answers. For the proofs a
status carries the machine that sent it, and a queued answer carries the requests that were
outstanding when it was given.

The machine of the type `WWAN_ANY` sends statuses that never reach the framework
(`wwanAny_notForwarded`). `answerable_run` says that this is the only gap: the statuses of the
AGNSS machine are exactly the ones that the framework gets, and an answer to the only outstanding
request is processed by the machine that sent it.

`translateType`, `translateStatus` and `bearerOf` are the switches of the HIDL object, with their
defaults. `dataConn` is what the three answers of the framework call in the manager.

The proof follows a status from the machine to the framework. `log_step` says what a step of the
adapter adds to the history of the manager, and `filterMap_forward` that what the object forwards of
it are the statuses of the AGNSS machine. `CanAnswer` is what an answer needs when it is processed:
the machine that sent the request is there, and it is the one that the answer is routed to. It holds
from the request on, through any steps in between (`CanAnswer.step`), and a queued answer keeps the
requests that were outstanding when it was given, so that the two can be compared.
-/

set_option autoImplicit false

namespace LocHal.Gnss

open LabelledRun
open AgpsStateMachine (Sane)
open AgpsManager (newSm)

/-- `LOC_AGPS_TYPE_C2K`. -/
def locAgpsTypeC2k : AGpsExtType := 2

/-- `AGPS_CB_PRIORITY_LOW`. -/
def agpsCbPriorityLow : Nat := 1

/-- `IAGnssCallback::AGnssType`. -/
inductive AGnssType where
  | typeSupl
  | typeC2k
  deriving DecidableEq, Repr

/-- `IAGnssCallback::AGnssStatusValue`, for the two values that a machine sends. -/
inductive AGnssStatusValue where
  | requestAgnssDataConn
  | releaseAgnssDataConn
  deriving DecidableEq, Repr

/-- `IAGnssCallback::AGnssStatusIpV4`. -/
structure AGnssStatusIpV4 where
  type : AGnssType
  status : AGnssStatusValue
  ipV4Addr : UInt32
  deriving DecidableEq, Repr

/-- `AGnssExtStatusIpV4`, as `requestOrReleaseDataConn` fills it. -/
structure AGnssExtStatusIpV4 where
  type : AGpsExtType
  status : LocAGpsStatusValue
  ipV4Addr : UInt32
  deriving DecidableEq, Repr

/-- `IAGnss::ApnIpType`. -/
inductive ApnIpType where
  | invalid
  | ipv4
  | ipv6
  | ipv4v6
  deriving DecidableEq, Repr

/-- The answers of the framework. -/
inductive DataConnAnswer where
  | dataConnOpen (apn : List UInt8) (apnIpType : ApnIpType)
  | dataConnFailed
  | dataConnClosed
  deriving DecidableEq, Repr

namespace AGnss

/-- The switch of `AGnss::statusIpV4Cb` over the type. -/
def translateType (type : AGpsExtType) : Option AGnssType :=
  if type = locAgpsTypeSupl then some .typeSupl
  else if type = locAgpsTypeC2k then some .typeC2k
  else none

/-- The switch of `AGnss::statusIpV4Cb` over the status. -/
def translateStatus : LocAGpsStatusValue → AGnssStatusValue
  | .requestAgpsDataConn => .requestAgnssDataConn
  | .releaseAgpsDataConn => .releaseAgnssDataConn

/-- `AGnss::statusIpV4Cb`: what is passed to the `agnssStatusIpV4Cb` of the framework. -/
def statusIpV4Cb (mAGnssCbIface : Bool) (status : AGnssExtStatusIpV4) : Option AGnssStatusIpV4 :=
  match translateType status.type with
  | none => none
  | some type =>
      if mAGnssCbIface then some ⟨type, translateStatus status.status, status.ipV4Addr⟩ else none

/-- The switch of `AGnss::dataConnOpen` over the IP type. -/
def bearerOf : ApnIpType → AGpsBearerType
  | .ipv4 => 1
  | .ipv6 => 2
  | .ipv4v6 => 3
  | .invalid => 1

/-- `AGnss::dataConnOpen`, `AGnss::dataConnFailed` and `AGnss::dataConnClosed`: the call that is
posted to the manager. -/
def dataConn : DataConnAnswer → Option AgpsCall
  | .dataConnOpen apn apnIpType =>
      if apn.isEmpty then none
      else some (.reportAtlOpenSuccess locAgpsTypeSupl (some apn) apn.length (bearerOf apnIpType))
  | .dataConnFailed => some (.reportAtlOpenFailed locAgpsTypeSupl)
  | .dataConnClosed => some (.reportAtlClosed locAgpsTypeSupl)

end AGnss

/-- The event that an answer stands for. -/
def DataConnAnswer.event : DataConnAnswer → AgpsEvent
  | .dataConnOpen _ _ => .granted
  | .dataConnFailed => .denied
  | .dataConnClosed => .released

/-- What the framework sees: a status with the machine that sent it, and an accepted answer. -/
inductive FrameworkEvent where
  | agnssStatusIpV4Cb (sender : Nif) (status : AGnssStatusIpV4)
  | answer (answer : DataConnAnswer)
  deriving DecidableEq, Repr

/-- The requests that are open for the framework after one more event. A release takes back the
requests of its machine, and an answer settles the open ones. -/
def outstandingStep (senders : List Nif) : FrameworkEvent → List Nif
  | .agnssStatusIpV4Cb sender status =>
      match status.status with
      | .requestAgnssDataConn => senders ++ [sender]
      | .releaseAgnssDataConn => senders.filter fun nif => nif ≠ sender
  | .answer _ => []

/-- The machines whose forwarded requests are outstanding. -/
def outstanding (history : List FrameworkEvent) : List Nif := history.foldl outstandingStep []

/-- A queued message. An answer of the framework carries the requests that were outstanding. -/
structure AGnssMsg where
  call : AgpsAdapterCall
  answers : Option (DataConnAnswer × List Nif)
  deriving DecidableEq, Repr

/-- The adapter, the HIDL object and the framework. `mAGnssCbIface` says whether the interface of
the framework is set. -/
structure AGnssSystem where
  adapter : AgpsAdapter
  msgQueue : List AGnssMsg
  mAGnssCbIface : Bool
  history : List FrameworkEvent
  deriving DecidableEq, Repr

/-- What can happen next. -/
inductive AGnssCall where
  | setCallback
  | post (call : AgpsCall)
  | answer (answer : DataConnAnswer)
  | proc (env : AgpsEnv)
  deriving DecidableEq, Repr

/-- What the framework sees of an entry of the history of the manager. The machines leave the
address 0. -/
def AgpsLogEntry.forward (mAGnssCbIface : Bool) : AgpsLogEntry → Option FrameworkEvent
  | .output (some sender) (.frameworkStatusV4Cb type status) =>
      (AGnss.statusIpV4Cb mAGnssCbIface ⟨type, status, 0⟩).map (.agnssStatusIpV4Cb sender)
  | _ => none

namespace AGnssSystem

/-- Nothing is registered. -/
def init : AGnssSystem := ⟨.init, [], false, []⟩

/-- The first message is processed, and its statuses reach the HIDL object. -/
def proc (s : AGnssSystem) (env : AgpsEnv) : Option AGnssSystem :=
  match s.msgQueue with
  | [] => none
  | msg :: rest =>
      (s.adapter.step (msg.call, env)).map fun adapter =>
        let new := adapter.agps.log.drop s.adapter.agps.log.length
        { s with
          adapter := adapter
          msgQueue := rest
          history := s.history ++ new.filterMap (AgpsLogEntry.forward s.mAGnssCbIface) }

/-- One step. `setCallback` has an interface that is not null. -/
def step (s : AGnssSystem) : AGnssCall → Option AGnssSystem
  | .setCallback =>
      some { s with
        mAGnssCbIface := true
        msgQueue := s.msgQueue ++ [⟨.initAgps agpsCbPriorityLow, none⟩] }
  | .post call => some { s with msgQueue := s.msgQueue ++ [⟨.manager call, none⟩] }
  | .answer answer =>
      (AGnss.dataConn answer).map fun call =>
        { s with
          msgQueue := s.msgQueue ++
            [⟨.manager call, some (answer, outstanding s.history)⟩]
          history := s.history ++ [.answer answer] }
  | .proc env => s.proc env

/-! ### What is promised -/

/-- A status of the framework with its machine. -/
def statusOf : FrameworkEvent → Option (Nif × AGnssStatusIpV4)
  | .agnssStatusIpV4Cb sender status => some (sender, status)
  | .answer _ => none

/-- A status of the AGNSS machine, as the framework should see it. -/
def suplStatus : AgpsLogEntry → Option (Nif × AGnssStatusIpV4)
  | .output (some .agnss) (.frameworkStatusV4Cb _ status) =>
      some (.agnss, ⟨.typeSupl, AGnss.translateStatus status, 0⟩)
  | _ => none

/-- The framework gets the statuses of the AGNSS machine, in order, and no others. The answer to the
only outstanding request is processed by the machine that sent the request: the message finds that
machine, with the access point and the bearer of the answer, and reports the event to it. -/
structure Answerable (s : AGnssSystem) : Prop where
  forwarded : s.history.filterMap statusOf = s.adapter.agps.log.filterMap suplStatus
  answered : ∀ call answer nif rest env,
    s.msgQueue = ⟨call, some (answer, [nif])⟩ :: rest → s.adapter.crashed = false →
      ∃ m s' apn bearer t, s.adapter.agps.sm nif = some m ∧
        AgpsSystem.Created env s.adapter.agps s' ∧ s.step (.proc env) = some t ∧
        t.adapter.agps = s'.report env nif answer.event
          { m with mAPN := apn, mBearer := bearer }

end AGnssSystem

/-! ### One step of the manager -/

namespace AgpsSystem

variable {s t : AgpsSystem} {i : AgpsCall × AgpsEnv} {nif : Nif}

theorem Created.isSome {env : AgpsEnv} {s' : AgpsSystem} (h : Created env s s')
    (hs : (s.sm nif).isSome) : (s'.sm nif).isSome := by
  rcases h.sm nif with hsame | ⟨-, hnew⟩
  · rw [hsame]
    exact hs
  · rw [hnew]
    rfl

/-- A machine that ran is there, and the others are untouched. -/
theorem isSome_runSm {other : Nif} {r : AgpsStateMachine × List AgpsOutput}
    (hs : (s.sm nif).isSome) : ((s.runSm other r).sm nif).isSome := by
  by_cases heq : nif = other
  · subst heq
    exact isSome_runSm_self s nif r
  · rw [sm_runSm_of_ne _ heq]
    exact hs

/-- No machine disappears. -/
theorem isSome_step (hs : (s.sm nif).isSome) (h : s.step i = some t) : (t.sm nif).isSome := by
  obtain ⟨call, env⟩ := i
  obtain ⟨s', hcreated, hdispatch⟩ := step_cases h
  have hs' : (s'.sm nif).isSome := hcreated.isSome (by rwa [sm_dequeue])
  cases hdispatch with
  | idle => exact hs'
  | requestNull => exact hs'
  | request => exact isSome_runSm hs'
  | releaseNone => exact hs'
  | release => exact isSome_runSm hs'
  | report => exact isSome_runSm hs'
  | modemSSR =>
      rw [sm_handleModemSSR, Option.isSome_map]
      exact hs'
  | retry => exact hs'

end AgpsSystem

/-! ### One step of the adapter -/

namespace AgpsAdapter

variable {a t : AgpsAdapter} {msg : AgpsAdapterCall} {env : AgpsEnv}

/-- A message leaves the manager alone, initialises it, or makes one step of it. Before the
callback is registered that step sends no status. -/
theorem step_cases (h : a.step (msg, env) = some t) :
    (t.agps = a.agps ∧ t.mFrameworkStatusV4Cb = a.mFrameworkStatusV4Cb) ∨
    (∃ cbPriority, msg = .initAgps cbPriority ∧
      t.agps = a.agps.createAgpsStateMachines env ∧ t.mFrameworkStatusV4Cb = true) ∨
    (∃ call, msg = .manager call ∧ a.agps.step (call, env) = some t.agps ∧
      t.mFrameworkStatusV4Cb = a.mFrameworkStatusV4Cb ∧
      (a.mFrameworkStatusV4Cb = false →
        AgpsSystem.NoStatus (t.agps.log.drop a.agps.log.length))) := by
  unfold step at h
  cases msg with
  | initAgps cbPriority =>
      dsimp only at h
      split at h
      · cases h
      · cases h
        unfold AgpsAdapter.initAgps
        split
        · exact Or.inl ⟨rfl, rfl⟩
        · split
          · exact Or.inl ⟨rfl, rfl⟩
          · exact Or.inr (Or.inl ⟨cbPriority, rfl, rfl, rfl⟩)
  | manager call =>
      dsimp only at h
      split at h
      · cases h
      · rcases manager_cases h with ⟨-, rfl⟩ | ⟨-, s, hs, rfl⟩
        · exact Or.inl ⟨rfl, rfl⟩
        · unfold finish
          split
          · exact Or.inl ⟨rfl, rfl⟩
          · rename_i hquiet
            refine Or.inr (Or.inr ⟨call, rfl, hs, rfl, fun hcb => ?_⟩)
            rw [hcb, Bool.not_false, Bool.true_and] at hquiet
            exact (Bool.not_eq_true _).mp hquiet

/-- The message that registers the callback is `AgpsMsgInit`. -/
theorem registered_of_step (h : a.step (msg, env) = some t)
    (hreg : t.mFrameworkStatusV4Cb = true) :
    a.mFrameworkStatusV4Cb = true ∨ ∃ cbPriority, msg = .initAgps cbPriority := by
  rcases step_cases h with ⟨-, hcb⟩ | ⟨cbPriority, hmsg, -, -⟩ | ⟨-, -, -, hcb, -⟩
  · exact Or.inl (hcb.symm.trans hreg)
  · exact Or.inr ⟨cbPriority, hmsg⟩
  · exact Or.inl (hcb.symm.trans hreg)

/-- The callback stays registered. -/
theorem registered_step (h : a.step (msg, env) = some t) (hreg : a.mFrameworkStatusV4Cb = true) :
    t.mFrameworkStatusV4Cb = true := by
  rcases step_cases h with ⟨-, hcb⟩ | ⟨-, -, -, hcb⟩ | ⟨-, -, -, hcb, -⟩
  · exact hcb.trans hreg
  · exact hcb
  · exact hcb.trans hreg

/-- No machine disappears. -/
theorem isSome_step (h : a.step (msg, env) = some t) {nif : Nif} (hs : (a.agps.sm nif).isSome) :
    (t.agps.sm nif).isSome := by
  rcases step_cases h with ⟨heq, -⟩ | ⟨-, -, heq, -⟩ | ⟨_, -, hstep, -⟩
  · rw [heq]
    exact hs
  · rw [heq]
    exact (AgpsSystem.created_createAgpsStateMachines a.agps env).isSome hs
  · exact AgpsSystem.isSome_step hs hstep

/-- Every message keeps the machines sane. -/
theorem sane_step (h : a.step (msg, env) = some t)
    (hs : ∀ nif m, a.agps.sm nif = some m → Sane nif m) :
    ∀ nif m, t.agps.sm nif = some m → Sane nif m := by
  rcases step_cases h with ⟨heq, -⟩ | ⟨-, -, heq, -⟩ | ⟨_, -, hstep, -⟩
  · rw [heq]
    exact hs
  · have hstep : a.agps.step (.createAgpsStateMachines, env) = some t.agps := by
      rw [heq]
      rfl
    exact AgpsSystem.sane_step hs hstep
  · exact AgpsSystem.sane_step hs hstep

/-- What a message adds to the history of the manager: statuses of machines of the base class,
and none before the callback is registered. -/
theorem log_step (h : a.step (msg, env) = some t)
    (hs : ∀ nif m, a.agps.sm nif = some m → Sane nif m) :
    ∃ new, t.agps.log = a.agps.log ++ new ∧ AgpsSystem.OwnStatuses t.agps new ∧
      (a.mFrameworkStatusV4Cb = false → AgpsSystem.NoStatus new) := by
  rcases step_cases h with ⟨heq, -⟩ | ⟨-, -, heq, -⟩ | ⟨_, -, hstep, -, hquiet⟩
  · rw [heq]
    exact ⟨[], (List.append_nil _).symm, (fun _ _ _ hmem => by cases hmem), fun _ => rfl⟩
  · obtain ⟨outs, hlog, houts⟩ := (AgpsSystem.created_createAgpsStateMachines a.agps env).log
    have hno : ∀ type status, AgpsOutput.frameworkStatusV4Cb type status ∉ outs :=
      fun type status hmem => by cases houts _ hmem
    rw [heq]
    exact ⟨_, hlog, .outputs hno, fun _ => .outputs hno⟩
  · obtain ⟨new, hlog, hnew⟩ := AgpsSystem.statuses_step hs hstep
    refine ⟨new, hlog, hnew, fun hcb => ?_⟩
    have := hquiet hcb
    rwa [hlog, List.drop_left] at this

end AgpsAdapter

/-! ### What the framework gets -/

namespace AGnssSystem

open AgpsSystem (OwnStatuses NoStatus)

/-- The type of the AGNSS machine is an `AGnssType`, and the one of the internet machine is
not. -/
theorem translateType_newSm :
    AGnss.translateType (newSm .agnss).mAgpsType = some .typeSupl ∧
      AGnss.translateType (newSm .internet).mAgpsType = none := ⟨rfl, rfl⟩

/-- With an interface that is set, an entry reaches the framework exactly when it is a status of
the AGNSS machine. -/
theorem forward_own {s : AgpsSystem} {entry : AgpsLogEntry} (hown : OwnStatuses s [entry]) :
    (entry.forward true).bind statusOf = suplStatus entry := by
  cases entry with
  | output sm out =>
      cases out with
      | frameworkStatusV4Cb type status =>
          obtain ⟨nif, hne, rfl, rfl, -⟩ := hown sm type status List.mem_cons_self
          cases nif with
          | agnss => rfl
          | internet => rfl
          | ds => exact absurd rfl hne
      | _ => cases sm <;> first | rfl | (rename_i nif; cases nif <;> rfl)
  | _ => rfl

/-- An entry that is no status concerns nobody. -/
theorem forward_noStatus {entry : AgpsLogEntry} (b : Bool) (hno : entry.callsFramework = false) :
    (entry.forward b).bind statusOf = suplStatus entry := by
  cases entry with
  | output sm out =>
      cases out with
      | frameworkStatusV4Cb type status => cases hno
      | _ => cases sm <;> first | rfl | (rename_i nif; cases nif <;> rfl)
  | _ => rfl

/-- What one message adds for the framework. -/
theorem filterMap_forward {s : AgpsSystem} {new : List AgpsLogEntry} {iface : Bool}
    (hown : OwnStatuses s new) (hiface : iface = false → NoStatus new) :
    (new.filterMap (AgpsLogEntry.forward iface)).filterMap statusOf
      = new.filterMap suplStatus := by
  rw [List.filterMap_filterMap]
  apply List.filterMap_congr
  intro entry hentry
  cases iface with
  | true =>
      refine forward_own fun sm type status hmem => hown sm type status ?_
      rw [List.mem_singleton.mp hmem]
      exact hentry
  | false =>
      refine forward_noStatus false ?_
      have hno := hiface rfl
      unfold NoStatus at hno
      rw [List.any_eq_false] at hno
      exact (Bool.not_eq_true _).mp (hno entry hentry)

/-- A machine that the framework can answer: the AGNSS machine, which is there, with the callback
registered. -/
structure CanAnswer (a : AgpsAdapter) (nif : Nif) : Prop where
  agnss : nif = .agnss
  there : (a.agps.sm nif).isSome
  registered : a.mFrameworkStatusV4Cb = true

/-- Only the AGNSS machine reaches the framework, and only with the callback registered. -/
theorem canAnswer_of_forward {a : AgpsAdapter} {new : List AgpsLogEntry} {iface : Bool}
    (hown : OwnStatuses a.agps new) (hreg : a.mFrameworkStatusV4Cb = false → NoStatus new)
    {nif : Nif} {status : AGnssStatusIpV4}
    (hmem : .agnssStatusIpV4Cb nif status ∈ new.filterMap (AgpsLogEntry.forward iface)) :
    CanAnswer a nif := by
  obtain ⟨entry, hentry, hforward⟩ := List.mem_filterMap.mp hmem
  -- the entry is a status of the machine
  have hstatus : ∃ type value, entry = .output (some nif) (.frameworkStatusV4Cb type value) ∧
      (AGnss.translateType type).isSome := by
    unfold AgpsLogEntry.forward at hforward
    split at hforward
    · rename_i sender type value
      rw [Option.map_eq_some_iff] at hforward
      obtain ⟨st, hst, heq⟩ := hforward
      cases heq
      refine ⟨type, value, rfl, ?_⟩
      unfold AGnss.statusIpV4Cb at hst
      split at hst
      · cases hst
      · rename_i ty hty
        dsimp only at hty
        rw [hty]
        rfl
    · cases hforward
  obtain ⟨type, value, rfl, htype⟩ := hstatus
  obtain ⟨nif', hne, heq, rfl, hthere⟩ := hown _ _ _ hentry
  cases heq
  refine ⟨?_, hthere, ?_⟩
  · cases nif with
    | agnss => rfl
    | internet =>
        rw [translateType_newSm.2] at htype
        cases htype
    | ds => exact absurd rfl hne
  · refine (Bool.not_eq_false _).mp fun hfalse => ?_
    have hno := hreg hfalse
    unfold NoStatus at hno
    rw [List.any_eq_false] at hno
    exact hno _ hentry rfl

/-- A machine with an outstanding request has sent a status. -/
theorem mem_outstanding {history : List FrameworkEvent} {nif : Nif}
    (hmem : nif ∈ outstanding history) :
    ∃ status, .agnssStatusIpV4Cb nif status ∈ history := by
  -- the open requests are among the senders, event by event
  have hfold : ∀ (l : List FrameworkEvent) (senders : List Nif),
      nif ∈ l.foldl outstandingStep senders →
        nif ∈ senders ∨ ∃ status, FrameworkEvent.agnssStatusIpV4Cb nif status ∈ l := by
    intro l
    induction l with
    | nil => intro senders h; exact Or.inl h
    | cons event l ih =>
        intro senders h
        rcases ih _ h with hfirst | ⟨status, hrest⟩
        · cases event with
          | agnssStatusIpV4Cb sender status =>
              unfold outstandingStep at hfirst
              cases hst : status.status with
              | requestAgnssDataConn =>
                  simp only [hst, List.mem_append, List.mem_singleton] at hfirst
                  rcases hfirst with hold | rfl
                  · exact Or.inl hold
                  · exact Or.inr ⟨status, List.mem_cons_self⟩
              | releaseAgnssDataConn =>
                  simp only [hst] at hfirst
                  exact Or.inl (List.mem_of_mem_filter hfirst)
          | answer a => cases hfirst
        · exact Or.inr ⟨status, List.mem_cons_of_mem _ hrest⟩
  rcases hfold history [] hmem with hnil | hsent
  · cases hnil
  · exact hsent

/-! ### Every run -/

theorem CanAnswer.step {a t : AgpsAdapter} {nif : Nif} (h : CanAnswer a nif)
    {msg : AgpsAdapterCall} {env : AgpsEnv} (ht : a.step (msg, env) = some t) :
    CanAnswer t nif where
  agnss := h.agnss
  there := AgpsAdapter.isSome_step ht h.there
  registered := AgpsAdapter.registered_step ht h.registered

/-- What every step keeps. -/
structure Inv (s : AGnssSystem) : Prop where
  sane : ∀ nif m, s.adapter.agps.sm nif = some m → Sane nif m
  iface : s.adapter.mFrameworkStatusV4Cb = true → s.mAGnssCbIface = true
  initPosted : ∀ msg ∈ s.msgQueue, ∀ cbPriority, msg.call = .initAgps cbPriority →
    s.mAGnssCbIface = true
  forwarded : s.history.filterMap statusOf = s.adapter.agps.log.filterMap suplStatus
  sent : ∀ nif status, .agnssStatusIpV4Cb nif status ∈ s.history → CanAnswer s.adapter nif
  queued : ∀ msg ∈ s.msgQueue, ∀ answer senders, msg.answers = some (answer, senders) →
    (∃ call, AGnss.dataConn answer = some call ∧ msg.call = .manager call) ∧
      ∀ nif ∈ senders, CanAnswer s.adapter nif

variable {s t : AGnssSystem}

theorem inv_init : Inv init where
  sane := AgpsSystem.sane_init
  iface := fun h => by cases h
  initPosted := fun _ hmem => by cases hmem
  forwarded := rfl
  sent := fun _ _ hmem => by cases hmem
  queued := fun _ hmem => by cases hmem

/-- A message that is posted. -/
theorem Inv.post (h : Inv s) (msg : AGnssMsg) (iface : Bool) (answers : List FrameworkEvent)
    (hiface : s.mAGnssCbIface = true → iface = true)
    (hinit : ∀ cbPriority, msg.call = .initAgps cbPriority → iface = true)
    (hanswers : ∀ event ∈ answers, ∃ answer, event = .answer answer)
    (hqueued : ∀ answer senders, msg.answers = some (answer, senders) →
      (∃ call, AGnss.dataConn answer = some call ∧ msg.call = .manager call) ∧
        ∀ nif ∈ senders, CanAnswer s.adapter nif) :
    Inv { s with
      msgQueue := s.msgQueue ++ [msg]
      mAGnssCbIface := iface
      history := s.history ++ answers } where
  sane := h.sane
  iface := fun hcb => hiface (h.iface hcb)
  initPosted := fun msg' hmem cbPriority hcall => by
    rcases List.mem_append.mp hmem with hold | hnew
    · exact hiface (h.initPosted msg' hold cbPriority hcall)
    · rw [List.mem_singleton.mp hnew] at hcall
      exact hinit cbPriority hcall
  forwarded := by
    have hnil : answers.filterMap statusOf = [] :=
      List.filterMap_eq_nil_iff.mpr fun event hevent => by
        obtain ⟨answer, rfl⟩ := hanswers event hevent
        rfl
    rw [List.filterMap_append, hnil, List.append_nil]
    exact h.forwarded
  sent := fun nif status hmem => by
    rcases List.mem_append.mp hmem with hold | hnew
    · exact h.sent nif status hold
    · obtain ⟨answer, heq⟩ := hanswers _ hnew
      cases heq
  queued := fun msg' hmem answer senders hans => by
    rcases List.mem_append.mp hmem with hold | hnew
    · exact h.queued msg' hold answer senders hans
    · rw [List.mem_singleton.mp hnew] at hans ⊢
      exact hqueued answer senders hans

/-- A message that is processed. -/
theorem Inv.proc (h : Inv s) {env : AgpsEnv} (ht : s.proc env = some t) : Inv t := by
  unfold AGnssSystem.proc at ht
  split at ht
  · cases ht
  · rename_i msg rest hqueue
    rw [Option.map_eq_some_iff] at ht
    obtain ⟨adapter, hstep, rfl⟩ := ht
    have hmem : msg ∈ s.msgQueue := by rw [hqueue]; exact List.mem_cons_self
    have hrest : ∀ msg' ∈ rest, msg' ∈ s.msgQueue := fun msg' hm => by
      rw [hqueue]; exact List.mem_cons_of_mem _ hm
    obtain ⟨new, hlog, hown, hquiet⟩ := AgpsAdapter.log_step hstep h.sane
    have hdrop : adapter.agps.log.drop s.adapter.agps.log.length = new := by
      rw [hlog, List.drop_left]
    -- without an interface the callback is not registered, so there is no status
    have hno : s.mAGnssCbIface = false → AgpsSystem.NoStatus new := fun hfalse => by
      refine hquiet ((Bool.not_eq_true _).mp fun hcb => ?_)
      cases hfalse.symm.trans (h.iface hcb)
    have hforward := filterMap_forward hown hno
    refine ⟨AgpsAdapter.sane_step hstep h.sane, fun hcb => ?_, fun msg' hm => ?_, ?_, ?_, ?_⟩
    · rcases AgpsAdapter.registered_of_step hstep hcb with hold | ⟨cbPriority, hinit⟩
      · exact h.iface hold
      · exact h.initPosted msg hmem cbPriority hinit
    · exact h.initPosted msg' (hrest msg' hm)
    · show (s.history ++ _).filterMap statusOf = adapter.agps.log.filterMap suplStatus
      rw [hdrop, List.filterMap_append, hforward, h.forwarded, hlog, List.filterMap_append]
    · intro nif status hm
      dsimp only at hm
      rw [hdrop] at hm
      rcases List.mem_append.mp hm with hold | hnew
      · exact (h.sent nif status hold).step hstep
      · exact canAnswer_of_forward hown (fun hcb => hquiet ((Bool.not_eq_true _).mp fun hold => by
          rw [AgpsAdapter.registered_step hstep hold] at hcb
          cases hcb)) hnew
    · intro msg' hm answer senders hans
      obtain ⟨hcall, hsenders⟩ := h.queued msg' (hrest msg' hm) answer senders hans
      exact ⟨hcall, fun nif hnif => (hsenders nif hnif).step hstep⟩

/-- Every step keeps the invariant. -/
theorem Inv.step (h : Inv s) {call : AGnssCall} (ht : s.step call = some t) : Inv t := by
  cases call with
  | setCallback =>
      cases ht
      have hpost := h.post ⟨.initAgps agpsCbPriorityLow, none⟩ true [] (fun _ => rfl)
        (fun _ _ => rfl) (fun _ hmem => by cases hmem) (fun _ _ hans => by cases hans)
      simpa using hpost
  | post call =>
      cases ht
      have hpost := h.post ⟨.manager call, none⟩ s.mAGnssCbIface [] id
        (fun _ hinit => by cases hinit) (fun _ hmem => by cases hmem)
        (fun _ _ hans => by cases hans)
      simpa using hpost
  | answer answer =>
      simp only [AGnssSystem.step, Option.map_eq_some_iff] at ht
      obtain ⟨call, hcall, rfl⟩ := ht
      refine h.post _ _ _ id (fun _ hinit => by cases hinit) (fun event hmem => ?_)
        (fun answer' senders hans => ?_)
      · exact ⟨answer, List.mem_singleton.mp hmem⟩
      · cases hans
        refine ⟨⟨call, hcall, rfl⟩, fun nif hnif => ?_⟩
        obtain ⟨status, hmem⟩ := mem_outstanding hnif
        exact h.sent nif status hmem
  | proc env => exact h.proc ht

/-- An answer is a report for the AGNSS machine. -/
theorem reportOf_dataConn {answer : DataConnAnswer} {call : AgpsCall}
    (hcall : AGnss.dataConn answer = some call) (env : AgpsEnv) :
    reportOf env call = some (.agnss, answer.event) ∧ atlType call = some locAgpsTypeSupl := by
  cases answer with
  | dataConnOpen apn apnIpType =>
      unfold AGnss.dataConn at hcall
      dsimp only at hcall
      split at hcall
      · cases hcall
      · cases hcall
        exact ⟨rfl, rfl⟩
  | dataConnFailed =>
      cases hcall
      exact ⟨rfl, rfl⟩
  | dataConnClosed =>
      cases hcall
      exact ⟨rfl, rfl⟩

theorem Inv.answerable (h : Inv s) : Answerable s where
  forwarded := h.forwarded
  answered := fun call answer nif rest env hqueue hsafe => by
    have hmem : (⟨call, some (answer, [nif])⟩ : AGnssMsg) ∈ s.msgQueue := by
      rw [hqueue]
      exact List.mem_cons_self
    obtain ⟨⟨c, hc, rfl⟩, hsenders⟩ := h.queued _ hmem answer [nif] rfl
    obtain ⟨rfl, hthere, hreg⟩ := hsenders nif List.mem_cons_self
    obtain ⟨hreport, htype⟩ := reportOf_dataConn hc env
    obtain ⟨m, hm⟩ := Option.isSome_iff_exists.mp hthere
    obtain ⟨s', apn, bearer, hcreated, hstep⟩ := AgpsSystem.step_of_report hreport hm
    have hnull : AgpsAdapter.nullMachine s.adapter.agps env c = false := by
      refine (AgpsAdapter.nullMachine_eq_false _ env c).mpr fun agpsType heq => Or.inl ?_
      cases htype.symm.trans heq
      exact hthere
    have hcreate : c ≠ .createAgpsStateMachines := by
      intro heq
      rw [heq] at htype
      cases htype
    -- the callback is registered, so the report is the whole step
    have hadapter : s.adapter.step (.manager c, env) = some { s.adapter with
        agps := s'.report env .agnss answer.event { m with mAPN := apn, mBearer := bearer } } := by
      show (if s.adapter.crashed then none else s.adapter.manager env c) = _
      unfold AgpsAdapter.manager
      rw [if_neg (by simp [hsafe]), if_neg hcreate, hnull, if_neg Bool.false_ne_true, hstep,
        Option.map_some, AgpsAdapter.finish_registered hreg]
    have hproc : ∃ t, s.step (.proc env) = some t ∧ t.adapter.agps
        = s'.report env .agnss answer.event { m with mAPN := apn, mBearer := bearer } := by
      show ∃ t, s.proc env = some t ∧ _
      unfold AGnssSystem.proc
      rw [hqueue]
      dsimp only
      rw [hadapter]
      exact ⟨_, rfl, rfl⟩
    obtain ⟨t, ht, hagps⟩ := hproc
    exact ⟨m, s', apn, bearer, t, hm, hcreated, ht, hagps⟩

/-- In every state of every run the framework gets the statuses of the AGNSS machine and no others,
and the machine that sent the only outstanding request processes the answer to it.

The answers of the framework name no machine, so they reach the one of type SUPL. The statuses of
the internet machine have a type that HIDL does not have, and they are refused before the framework
is called. -/
theorem answerable_run (calls : List AGnssCall) : Along step Answerable init calls :=
  along_of_invariant (fun _ hs => hs.answerable) (fun _ _ _ hs ht => hs.step ht)
    calls init inv_init

/-- The request of the internet machine is not forwarded. -/
theorem wwanAny_notForwarded :
    ∃ s, run step init [.setCallback, .proc .supl, .post (.requestATL 1 locAgpsTypeWwanAny),
        .proc .supl] = some s ∧
      .output (some .internet) (.frameworkStatusV4Cb locAgpsTypeWwanAny .requestAgpsDataConn)
        ∈ s.adapter.agps.log ∧ s.history = [] :=
  ⟨_, rfl, by decide, rfl⟩

/-- A request of handle 1 for SUPL that the framework gets, and the answer to it. -/
example : ((run step init [.setCallback, .proc .supl, .post (.requestATL 1 locAgpsTypeSupl),
    .proc .supl, .answer (.dataConnOpen [105] .ipv6), .proc .supl]).bind
      fun s => s.adapter.agps.sm .agnss).map (fun m => (m.mState, m.mBearer))
        = some (.acquired, 2) := by decide +kernel

end AGnssSystem

end LocHal.Gnss
