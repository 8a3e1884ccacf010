import LocHal.Gnss.AgpsMessages

/-!
# `LocHal.Gnss.AgpsEmergency`: when a released emergency handle stays released

The DS machine posts requests for its own subscribers: a retry for the first active subscriber,
and a fallback to SUPL when a call is denied. `released h` reads off the history whether the
latest release of `h` found it in the list of the DS machine and no external request of `h` has
come since. `StaysReleased` is the property: a posted request is never processed for a released
handle.

Two kinds of steps break it, and `EmergencyStepOk` excludes them:

* a release that leaves something behind: a message for the handle in the queue, the handle in
  another list (the release reaches that one), or the handle in the list of the released DS
  machine (the release only notifies);
* a denial of the pending DS machine while it lists a released handle, since a denial posts a
  message for the inactive subscribers too.

The invariant is `Forgotten`: no message is queued for a released handle, and the DS machine does
not list it as active. Everything that the DS machine posts otherwise is for an active
subscriber. `stays_released` is the result over every run.

`released` is a fold over the history as well, and only two kinds of entries change it: a release
that finds the handle in the list of the DS machine, and an external request. A posted request of
the handle leaves it alone, and that is what the property is about. So outputs change neither the
flag (`released_outputs`) nor the property (`StaysReleased.outputs`).

`forgotten_runDs` is the lemma for a call of the DS machine: what it posts is for its active
subscribers, unless it denies. The condition on a release, `ReleaseComplete`, gives the invariant
for the handle that is released in the step, and `NoReleasedAtDenial` keeps it for the ones released
before.
-/

set_option autoImplicit false

namespace LocHal.Gnss

open LabelledRun

/-- The effect of one entry of the history on whether `h` is released. -/
def releasedEntry (h : ConnHandle) (b : Bool) : AgpsLogEntry → Bool
  | .releaseATL connHandle holders => (connHandle = h ∧ Nif.ds ∈ holders) || b
  | .requestATL connHandle _ false _ _ => connHandle ≠ h && b
  | _ => b

/-- The latest release of `h` found it in the list of the DS machine, and no external request of
`h` has come since. -/
def released (h : ConnHandle) (log : List AgpsLogEntry) : Bool :=
  log.foldl (releasedEntry h) false

/-- No posted request in the history is for a handle that is released at that time. The adapter has
released the handle, and a connection that is opened for it now is one that nobody closes. -/
def StaysReleased (log : List AgpsLogEntry) : Prop :=
  ∀ before h agpsType sm listed,
    before ++ [.requestATL h agpsType true sm listed] <+: log → released h before = false

namespace AgpsSystem

/-- A release of a handle that the DS machine lists leaves nothing behind: the DS machine is not
released, since it would ignore the event, no message for the handle is queued, since it would be
processed after the release, and no other machine lists it, since only the first one is told. -/
def ReleaseComplete (s : AgpsSystem) (i : AgpsCall × AgpsEnv) : Prop :=
  ∀ h ∈ releaseOf i.1, Nif.ds ∈ s.mgr.holders h →
    s.mgr.holders h = [.ds] ∧ (∀ m ∈ s.sm .ds, m.mState ≠ .released) ∧
      ∀ msg ∈ s.msgQueue, msg.1 ≠ h

instance (s : AgpsSystem) (i : AgpsCall × AgpsEnv) : Decidable (s.ReleaseComplete i) :=
  have (h : ConnHandle) : Decidable (∀ msg ∈ s.msgQueue, msg.1 ≠ h) :=
    List.decidableBAll (fun msg => msg.1 ≠ h) s.msgQueue
  Option.decidableForallMem (releaseOf i.1)

/-- No denial of the pending DS machine comes while it lists a released handle. The denial posts a
request to fall back to SUPL for every subscriber of the list, also for one that is released and
only waits for its close. -/
def NoReleasedAtDenial (s : AgpsSystem) (i : AgpsCall × AgpsEnv) : Prop :=
  ∀ report ∈ reportOf i.2 i.1, report.1 = .ds → report.2 = .denied ∨ report.2 = .released →
    ∀ m ∈ s.sm .ds, m.mState = .pending →
      ∀ sub ∈ m.mSubscriberList, released sub.mConnHandle s.log = false

instance (s : AgpsSystem) (i : AgpsCall × AgpsEnv) : Decidable (s.NoReleasedAtDenial i) :=
  inferInstanceAs (Decidable (∀ report ∈ reportOf i.2 i.1, _ → _))

/-- The condition on one step. There are two ways to a request for a released handle: the release
was not complete, or a denial asks for every listed handle. Each part excludes one of them. -/
def EmergencyStepOk (s : AgpsSystem) (i : AgpsCall × AgpsEnv) : Prop :=
  s.ReleaseComplete i ∧ s.NoReleasedAtDenial i

instance (s : AgpsSystem) (i : AgpsCall × AgpsEnv) : Decidable (s.EmergencyStepOk i) :=
  inferInstanceAs (Decidable (_ ∧ _))

end AgpsSystem

/-! ### The history -/

variable {log : List AgpsLogEntry} {entry : AgpsLogEntry} {h : ConnHandle}

theorem released_snoc (h : ConnHandle) (log : List AgpsLogEntry) (entry : AgpsLogEntry) :
    released h (log ++ [entry]) = releasedEntry h (released h log) entry := by
  show (log ++ [entry]).foldl (releasedEntry h) false = _
  rw [List.foldl_append]
  rfl

/-- Outputs release nothing. -/
theorem released_outputs (h : ConnHandle) (sm : Option Nif) (outs : List AgpsOutput) :
    ∀ log, released h (log ++ outs.map (.output sm)) = released h log := by
  induction outs with
  | nil =>
      intro log
      rw [List.map_nil, List.append_nil]
  | cons o outs ih =>
      intro log
      have hcons : log ++ (o :: outs).map (.output sm)
          = (log ++ [.output sm o]) ++ outs.map (.output sm) := by
        rw [List.map_cons, List.append_assoc]
        rfl
      rw [hcons, ih, released_snoc]
      rfl

/-- One more entry of the history. -/
theorem StaysReleased.snoc (hlog : StaysReleased log)
    (hentry : ∀ h agpsType sm listed, entry = .requestATL h agpsType true sm listed →
      released h log = false) : StaysReleased (log ++ [entry]) := by
  intro before h agpsType sm listed hprefix
  rcases List.prefix_concat_iff.mp hprefix with heq | hprefix
  · obtain ⟨rfl, hlast⟩ := List.append_inj' heq rfl
    exact hentry h agpsType sm listed (List.singleton_inj.mp hlast).symm
  · exact hlog before h agpsType sm listed hprefix

theorem StaysReleased.outputs (sm : Option Nif) (outs : List AgpsOutput) :
    ∀ {log}, StaysReleased log → StaysReleased (log ++ outs.map (.output sm)) := by
  induction outs with
  | nil =>
      intro log hlog
      rw [List.map_nil, List.append_nil]
      exact hlog
  | cons o outs ih =>
      intro log hlog
      have hcons : log ++ (o :: outs).map (.output sm)
          = (log ++ [.output sm o]) ++ outs.map (.output sm) := by
        rw [List.map_cons, List.append_assoc]
        rfl
      rw [hcons]
      exact ih (hlog.snoc fun _ _ _ _ heq => by cases heq)

namespace AgpsSystem

open AgpsStateMachine (Sane Quiet)
open AgpsManager (newSm)

/-! ### The invariant -/

/-- Nothing is left of a released handle, and none has come back. -/
structure Forgotten (s : AgpsSystem) : Prop where
  message : ∀ msg ∈ s.msgQueue, released msg.1 s.log = false
  active : ∀ m, s.sm .ds = some m → ∀ h, m.HoldsActive h → released h s.log = false
  stays : StaysReleased s.log

variable {s s' t u : AgpsSystem} {nif : Nif}

/-- The rule for a run of the DS machine: afterwards it holds as active handles that are not
released, and it posts messages for such handles only. What it held before plays no part. -/
theorem forgotten_runDs {r : AgpsStateMachine × List AgpsOutput}
    (hqueue : ∀ msg ∈ u.msgQueue, released msg.1 u.log = false) (hstays : StaysReleased u.log)
    (hactive : ∀ h, r.1.HoldsActive h → released h u.log = false)
    (hmessages : ∀ msg ∈ r.2.filterMap AgpsOutput.posted, released msg.1 u.log = false) :
    Forgotten (u.runSm .ds r) where
  message := by
    intro msg hmsg
    rw [log_runSm, released_outputs]
    rw [msgQueue_runSm, List.mem_append] at hmsg
    exact hmsg.elim (hqueue msg) (hmessages msg)
  active := by
    intro m hm h hholds
    rw [log_runSm, released_outputs]
    rw [sm_runSm_self] at hm
    cases hm
    exact hactive h hholds
  stays := by
    rw [log_runSm]
    exact hstays.outputs _ _

/-- The rule for a run of any machine. -/
theorem Forgotten.runSm {r : AgpsStateMachine × List AgpsOutput} (hu : Forgotten u)
    (hactive : ∀ h, r.1.HoldsActive h → nif = .ds → released h u.log = false)
    (hmessages : ∀ msg ∈ r.2.filterMap AgpsOutput.posted, released msg.1 u.log = false) :
    Forgotten (u.runSm nif r) := by
  by_cases hds : nif = .ds
  · subst hds
    exact forgotten_runDs hu.message hu.stays (fun h hholds => hactive h hholds rfl) hmessages
  · constructor
    · intro msg hmsg
      rw [log_runSm, released_outputs]
      rw [msgQueue_runSm, List.mem_append] at hmsg
      exact hmsg.elim (hu.message msg) (hmessages msg)
    · intro m hm h hholds
      rw [log_runSm, released_outputs]
      rw [sm_runSm_of_ne _ (Ne.symm hds)] at hm
      exact hu.active m hm h hholds
    · rw [log_runSm]
      exact hu.stays.outputs _ _

/-- The rule for outputs without a message. -/
theorem Forgotten.emit {sm : Option Nif} {outs : List AgpsOutput} (hu : Forgotten u)
    (hmessages : ∀ msg ∈ outs.filterMap AgpsOutput.posted, released msg.1 u.log = false) :
    Forgotten (u.emit sm outs) where
  message := by
    intro msg hmsg
    rw [log_emit, released_outputs]
    rw [msgQueue_emit, List.mem_append] at hmsg
    exact hmsg.elim (hu.message msg) (hmessages msg)
  active := by
    intro m hm h hholds
    rw [log_emit, released_outputs]
    exact hu.active m hm h hholds
  stays := by
    rw [log_emit]
    exact hu.stays.outputs _ _

/-- The rule for an entry of the history that releases nothing. -/
theorem Forgotten.note {entry : AgpsLogEntry} (hu : Forgotten u)
    (hentry : ∀ h, released h u.log = false → releasedEntry h (released h u.log) entry = false)
    (hposted : ∀ h agpsType sm listed, entry = .requestATL h agpsType true sm listed →
      released h u.log = false) : Forgotten (u.note entry) where
  message := by
    intro msg hmsg
    rw [log_note, released_snoc]
    exact hentry msg.1 (hu.message msg hmsg)
  active := by
    intro m hm h hholds
    rw [log_note, released_snoc]
    exact hentry h (hu.active m hm h hholds)
  stays := by
    rw [log_note]
    exact hu.stays.snoc hposted

/-- A request releases nothing, and a posted one has been queued. -/
theorem Forgotten.note_request {agpsType : AGpsExtType} {posted : Bool} {sm : Option Nif}
    {listed : Bool} (hu : Forgotten u) (hposted : posted = true → released h u.log = false) :
    Forgotten (u.note (.requestATL h agpsType posted sm listed)) := by
  refine hu.note (fun h' hh' => ?_) ?_
  · cases posted with
    | true => exact hh'
    | false =>
        show (decide (h ≠ h') && released h' u.log) = false
        rw [hh', Bool.and_false]
  · rintro h' agpsType' sm' listed' heq
    cases heq
    exact hposted rfl

/-- A requested handle is not released. -/
theorem released_note_request {agpsType : AGpsExtType} {posted : Bool} {sm : Option Nif}
    {listed : Bool} (hposted : posted = true → released h u.log = false) :
    released h (u.note (.requestATL h agpsType posted sm listed)).log = false := by
  rw [log_note, released_snoc]
  cases posted with
  | true => exact hposted rfl
  | false =>
      show (decide (h ≠ h) && released h u.log) = false
      simp

/-! ### The steps -/

/-- Taking a message off the queue and creating machines. -/
theorem Forgotten.created {env : AgpsEnv} {call : AgpsCall} (hs : Forgotten s)
    (hcreated : Created env (s.dequeue call) s') :
    Forgotten s' ∧ ∀ h, released h s'.log = released h s.log := by
  obtain ⟨outs, hlog, -⟩ := hcreated.log
  rw [log_dequeue] at hlog
  have hsame : ∀ h, released h s'.log = released h s.log := by
    intro h
    rw [hlog, released_outputs]
  refine ⟨⟨fun msg hmsg => ?_, fun m hm h hholds => ?_, ?_⟩, hsame⟩
  · rw [hcreated.msgQueue] at hmsg
    rw [hsame]
    exact hs.message msg (mem_dequeue hmsg)
  · rw [hsame]
    rcases hcreated.sm .ds with hold | ⟨-, hnew⟩
    · rw [sm_dequeue] at hold
      exact hs.active m (hold.symm.trans hm) h hholds
    · -- a new machine lists nobody
      cases hnew.symm.trans hm
      obtain ⟨sub, hsub, -⟩ := hholds
      cases hsub
  · rw [hlog]
    exact hs.stays.outputs _ _

/-- A request. The machine posts a message for the new handle or for an active one. -/
theorem Forgotten.request {env : AgpsEnv} {agpsType : AGpsExtType} {posted listed : Bool}
    {m : AgpsStateMachine} (hu : Forgotten u) (hsane : Sane nif m) (hsm : u.sm nif = some m)
    (hposted : posted = true → released h u.log = false) :
    Forgotten ((u.note (.requestATL h agpsType posted (some nif) listed)).runSm nif
      (m.processAgpsEventSubscribe env (newSubscriber h agpsType))) := by
  have hnote : Forgotten (u.note (.requestATL h agpsType posted (some nif) listed)) :=
    hu.note_request hposted
  have hself : released h (u.note (.requestATL h agpsType posted (some nif) listed)).log = false :=
    released_note_request hposted
  refine hnote.runSm ?_ ?_
  · rintro h' ⟨sub, hsub, hsubh, hin⟩ hds
    subst hds
    rcases AgpsStateMachine.mem_subscribe hsane.list.valid hsub with hsub | rfl
    · exact hnote.active m hsm h' ⟨sub, hsub, hsubh, hin⟩
    · subst hsubh
      exact hself
  · rintro ⟨h', type⟩ hmsg
    cases hcls : m.cls with
    | agpsStateMachine =>
        rw [AgpsStateMachine.messages_subscribe (by simp [hcls])] at hmsg
        cases hmsg
    | dsStateMachine =>
        obtain rfl := eq_ds_of_sane hsane hcls
        rcases AgpsStateMachine.holdsActive_of_mem_subscribe hmsg with hholds | heq
        · exact hnote.active m hsm h' hholds
        · rw [heq]
          exact hself

/-- A release that leaves nothing behind. -/
theorem Forgotten.release {env : AgpsEnv} {rest : List Nif} {m : AgpsStateMachine}
    {sub : AgpsSubscriber} (hs : Forgotten s) (hsane : Sane nif m) (hsm : s.sm nif = some m)
    (hholders : s.mgr.holders h = nif :: rest) (hsub : m.getSubscriber h = some sub)
    (hok : s.ReleaseComplete (.releaseATL h, env)) :
    Forgotten ((s.note (.releaseATL h (nif :: rest))).runSm nif
      (m.processAgpsEventUnsubscribe env sub)) := by
  have hquiet : Quiet m (m.processAgpsEventUnsubscribe env sub) :=
    AgpsStateMachine.quiet_unsubscribe hsane.list.valid env sub
  have hstays : StaysReleased (s.note (.releaseATL h (nif :: rest))).log :=
    hs.stays.snoc fun _ _ _ _ heq => by cases heq
  -- only the released handle is counted, and only for the DS machine
  have hother : ∀ h', (h = h' → Nif.ds ∉ nif :: rest) → released h' s.log = false →
      released h' (s.note (.releaseATL h (nif :: rest))).log = false := by
    intro h' hne hh'
    rw [log_note, released_snoc]
    show (decide (h = h' ∧ Nif.ds ∈ nif :: rest) || released h' s.log) = false
    rw [hh', Bool.or_false, decide_eq_false_iff_not]
    exact fun hand => hne hand.1 hand.2
  by_cases hds : Nif.ds ∈ nif :: rest
  · -- the DS machine is the only holder, and it has no active subscriber `h` afterwards
    obtain ⟨honly, hreleased, hqueue⟩ := hok h rfl (by rwa [hholders])
    rw [hholders] at honly
    cases honly
    obtain ⟨-, hsubh⟩ := AgpsStateMachine.mem_of_getSubscriber hsub
    have hgone := AgpsStateMachine.not_holdsActive_unsubscribe sub hsane.list
      (hreleased m hsm) env
    refine forgotten_runDs ?_ hstays ?_ ?_
    · intro msg hmsg
      exact hother msg.1 (fun heq => absurd heq.symm (hqueue msg hmsg)) (hs.message msg hmsg)
    · rintro h' ⟨t, ht, hth, hin⟩
      have hactive : m.HoldsActive h' := ⟨t, hquiet.active ht hin, hth, hin⟩
      refine hother h' (fun heq => ?_) (hs.active m hsm h' hactive)
      rw [hsubh, heq] at hgone
      exact absurd ⟨t, ht, hth, hin⟩ hgone
    · rw [hquiet.messages]
      intro msg hmsg
      cases hmsg
  · -- the DS machine is no holder, so its handles are not released
    refine Forgotten.runSm ⟨fun msg hmsg => ?_, fun m' hm' h' hholds => ?_, hstays⟩ ?_ ?_
    · exact hother msg.1 (fun _ => hds) (hs.message msg hmsg)
    · exact hother h' (fun _ => hds) (hs.active m' hm' h' hholds)
    · rintro h' - rfl
      exact absurd List.mem_cons_self hds
    · rw [hquiet.messages]
      intro msg hmsg
      cases hmsg

/-- A report. A denial of the pending DS machine posts a message for every listed handle, and
none of them is released. -/
theorem Forgotten.report {env : AgpsEnv} {event : AgpsEvent} {m : AgpsStateMachine}
    (hu : Forgotten u) (hsane : Sane nif m) (hsm : u.sm nif = some m)
    (hdenial : nif = .ds → event = .denied ∨ event = .released → m.mState = .pending →
      ∀ sub ∈ m.mSubscriberList, released sub.mConnHandle u.log = false)
    (apn : Option (List UInt8)) (bearer : AGpsBearerType) :
    Forgotten (u.report env nif event { m with mAPN := apn, mBearer := bearer }) := by
  have hnote : Forgotten (u.note (.report nif event)) :=
    hu.note (fun _ hh => hh) fun _ _ _ _ heq => by cases heq
  have hsame : ∀ h, released h (u.note (.report nif event)).log = released h u.log := by
    intro h
    rw [log_note, released_snoc]
    rfl
  refine hnote.runSm ?_ ?_
  · rintro h ⟨sub, hsub, hsubh, hin⟩ hds
    subst hds
    have hlisted : sub ∈ m.mSubscriberList :=
      AgpsStateMachine.listed_report (m := { m with mAPN := apn, mBearer := bearer }) hsub
    exact hnote.active m hsm h ⟨sub, hlisted, hsubh, hin⟩
  · rintro ⟨h, type⟩ hmsg
    cases hcls : m.cls with
    | agpsStateMachine =>
        -- a machine that is not the DS machine posts nothing
        have hquiet : Quiet { m with mAPN := apn, mBearer := bearer }
            (AgpsStateMachine.processReport { m with mAPN := apn, mBearer := bearer } env event) :=
          AgpsStateMachine.quiet_report (by simp [hcls]) (by simp [hcls])
        rw [hquiet.messages] at hmsg
        cases hmsg
    | dsStateMachine =>
        obtain rfl := eq_ds_of_sane hsane hcls
        -- a denial posts a retry for each subscriber, anything else for active ones only
        by_cases hden : m.mState = .pending ∧ (event = .denied ∨ event = .released)
        · obtain ⟨-, hmessages⟩ := AgpsStateMachine.report_denied
            (m := { m with mAPN := apn, mBearer := bearer }) env hcls hden.1 hden.2
          rw [hmessages, List.mem_map] at hmsg
          obtain ⟨sub, hsub, heq⟩ := hmsg
          cases heq
          rw [hsame]
          exact hdenial rfl hden.2 hden.1 sub hsub
        · have hholds : m.HoldsActive h := AgpsStateMachine.holdsActive_of_mem_report
            (m := { m with mAPN := apn, mBearer := bearer })
            (fun _ hpending hevent => hden ⟨hpending, hevent⟩) hmsg
          exact hnote.active m hsm h hholds

/-- A modem restart empties the lists. -/
theorem Forgotten.modemSSR {env : AgpsEnv} (hu : Forgotten u) :
    Forgotten (u.handleModemSSR env) := by
  obtain ⟨outs, hlog, -⟩ := log_handleModemSSR u env
  constructor
  · intro msg hmsg
    rw [msgQueue_handleModemSSR] at hmsg
    rw [hlog, released_outputs]
    exact hu.message msg hmsg
  · intro m hm h hholds
    rw [sm_handleModemSSR, Option.map_eq_some_iff] at hm
    obtain ⟨m', -, rfl⟩ := hm
    obtain ⟨sub, hsub, -⟩ := hholds
    cases hsub
  · rw [hlog]
    exact hu.stays.outputs _ _

/-- Every step that meets the condition keeps the invariant. -/
theorem Forgotten.step {call : AgpsCall} {env : AgpsEnv}
    (hsane : ∀ nif m, s.sm nif = some m → Sane nif m) (hs : Forgotten s)
    (hok : s.EmergencyStepOk (call, env)) (ht : s.step (call, env) = some t) : Forgotten t := by
  obtain ⟨s', hcreated, hdispatch⟩ := step_cases ht
  obtain ⟨hs', hsame⟩ := hs.created hcreated
  have hsane' : ∀ nif m, s'.sm nif = some m → Sane nif m :=
    hcreated.forall sane_newSm fun nif m hm => hsane nif m (by rwa [sm_dequeue] at hm)
  -- a message in the queue is for a handle that is not released
  have hposted : ∀ h agpsType posted, s.requestOf call = some (h, agpsType, posted) →
      posted = true → released h s'.log = false := by
    rintro h agpsType posted hcall rfl
    rw [hsame]
    exact hs.message _ (mem_of_requestOf_posted hcall)
  cases hdispatch with
  | idle => exact hs'
  | requestNull hcall hsm =>
      refine (hs'.note_request (hposted _ _ _ hcall)).emit ?_
      intro msg hmsg
      cases hmsg
  | request hcall hsm hmgr => exact hs'.request (hsane' _ _ hsm) hsm (hposted _ _ _ hcall)
  | releaseNone hs₀ hnone =>
      rename_i h
      refine Forgotten.emit (hs'.note (fun h' hh' => ?_) fun _ _ _ _ heq => by cases heq) ?_
      · show (decide (h = h' ∧ Nif.ds ∈ []) || released h' s'.log) = false
        simp [hh']
      · intro msg hmsg
        cases hmsg
  | release hs₀ hholders hsm hsub =>
      subst hs₀
      exact hs.release (hsane _ _ hsm) hsm hholders hsub hok.1
  | report hcall hsm apn bearer =>
      refine hs'.report (hsane' _ _ hsm) hsm ?_ apn bearer
      rintro rfl hevent hpending sub hsub
      rw [hsame]
      exact hok.2 _ hcall rfl hevent _ (sm_of_created hcreated hsm (by simp [hpending])) hpending
        sub hsub
  | modemSSR => exact hs'.modemSSR
  | retry htimers hsm =>
      rename_i n m
      refine Forgotten.emit (u := { s' with retryTimers := n })
        ⟨hs'.message, hs'.active, hs'.stays⟩ ?_
      rintro ⟨h, type⟩ hmsg
      exact hs'.active m hsm h (AgpsStateMachine.mem_retryCallback hmsg).2

/-- The invariant before the first call. -/
theorem forgotten_init : Forgotten init where
  message := by
    intro msg hmsg
    cases hmsg
  active := by
    intro m hm
    cases hm
  stays := by
    intro before h agpsType sm listed hprefix
    have hnil := List.prefix_nil.mp hprefix
    simp at hnil

/-- A released emergency handle stays released: in every run whose steps all meet the condition, no
posted request is processed for a handle between a release that found it in the list of the DS
machine and its next external request.

The condition is on the two calls that can bring a handle back. A release has to take effect (the
RELEASED machine only reports the close, and a queued message would outlive it), and a denial must
not find a released handle, for which it posts a message too. -/
theorem stays_released (calls : List (AgpsCall × AgpsEnv)) (s : AgpsSystem)
    (hguard : Guarded AgpsSystem.step EmergencyStepOk init calls)
    (hrun : run AgpsSystem.step init calls = some s) : StaysReleased s.log := by
  have hinv := Guarded.run_invariant
    (P := fun s => (∀ nif m, AgpsSystem.sm s nif = some m → Sane nif m) ∧ Forgotten s)
    (fun _ ⟨_, _⟩ _ hs hok ht => ⟨sane_step hs.1 ht, hs.2.step hs.1 hok ht⟩)
    calls init s ⟨sane_init, forgotten_init⟩ hguard hrun
  exact hinv.2.stays

/-- Handle 1 is released while its data call is up, and handle 2 keeps asking. -/
def releasedWhileAcquired : List (AgpsCall × AgpsEnv) :=
  [(.requestATL 1 locAgpsTypeSuplEs, .emergency locApiAdapterErrSuccess),
    (.reportDataCallOpened, .emergency locApiAdapterErrSuccess),
    (.releaseATL 1, .emergency locApiAdapterErrSuccess),
    (.requestATL 2 locAgpsTypeSuplEs, .emergency locApiAdapterErrSuccess),
    (.reportDataCallClosed, .emergency locApiAdapterErrEngineBusy),
    (.delayCallback, .emergency locApiAdapterErrSuccess),
    (.procMsgRequestATL 0, .emergency locApiAdapterErrSuccess)]

theorem stays_released_releasedWhileAcquired :
    ∃ s, run AgpsSystem.step init releasedWhileAcquired = some s ∧
      released 1 s.log = true ∧ StaysReleased s.log :=
  ⟨_, rfl, by decide, stays_released releasedWhileAcquired _ (by decide) rfl⟩

/-- The engine is busy when handle 1 asks for its data call. It is released before the retry
timer expires. -/
def releasedBeforeRetry : List (AgpsCall × AgpsEnv) :=
  [(.requestATL 1 locAgpsTypeSuplEs, .emergency locApiAdapterErrEngineBusy),
    (.releaseATL 1, .emergency locApiAdapterErrSuccess),
    (.delayCallback, .emergency locApiAdapterErrSuccess),
    (.procMsgRequestATL 0, .emergency locApiAdapterErrSuccess)]

/-- The history of that run before the retry is processed. -/
def beforeRetry : List AgpsLogEntry :=
  [.output none (.dsClientInit false),
    .requestATL 1 locAgpsTypeSuplEs false (some .ds) false,
    .output (some .ds) (.dsClientOpenAndStartDataCall locApiAdapterErrEngineBusy),
    .output (some .ds) .locTimerStart,
    .releaseATL 1 [.ds],
    .output (some .ds) (.atlCloseStatusCb 1 true),
    .output (some .ds) (.sendMsgToAdapterQueue 1 locAgpsTypeSuplEs)]

/-- The retry of the released handle is processed. -/
theorem releasedBeforeRetry_resurrected :
    ∃ s, run AgpsSystem.step init releasedBeforeRetry = some s ∧ ¬ StaysReleased s.log := by
  refine ⟨_, rfl, fun hstays => ?_⟩
  have hreleased := hstays beforeRetry 1 locAgpsTypeSuplEs (some .ds) true (by decide)
  exact absurd hreleased (by decide)

end AgpsSystem

end LocHal.Gnss
