import LocHal.Gnss.AgpsMessages

/-!
# `LocHal.Gnss.AgpsOwnership`: when a handle belongs to one machine

The DS machine hands a subscriber over to the AGNSS machine with a posted message. So a handle
belongs to a machine (`Owns`) when the machine lists it, or when a message is on its way that
will bring it there: a message of the type SUPL_ES leads to the DS machine, and one of the type
SUPL to the AGNSS machine. `Tracked` is the invariant: a handle belongs to one machine at most.

Four kinds of steps break it, and `OwnerStepOk` excludes them:

* a refused start posts the message and leaves the subscriber in the list of the DS machine;
* a denial of the DS machine posts the message while a retry for the same handle is queued;
* a queued retry is processed after the emergency flag has been switched off;
* a release in the released state of the DS machine leaves the subscriber active.

`one_owner` is the result over every run with fresh handles.

`Tracked` carries the handles that were used so far. A request of a fresh handle finds it owned by
nobody, and a posted request finds it owned by the machine that it leads to (`owner_of_posted`), so
neither makes a second owner. A denial of the DS machine is the step that moves a handle:
`Tracked.denied` shows that the machine forgets the subscribers that it has posted messages for.

The property has two halves: a handle has one owner at most, and after a release nobody holds it as
active (`Tracked.not_holdsActive_of_release`). A step may be free of the condition in one run and
need it in another, so the condition is about the state before the step and the answers that come in
it.
-/

set_option autoImplicit false

namespace LocHal.Gnss

open LabelledRun

/-- The machine that a posted message leads to while the emergency flag is on. -/
def destination (agpsType : AGpsExtType) : Nif :=
  if agpsType = locAgpsTypeSuplEs then .ds else .agnss

/-- The handle of an external request. -/
def externalOf : AgpsCall → Option ConnHandle
  | .requestATL connHandle _ => some connHandle
  | _ => none

/-- The handles of the external requests, in order. -/
def externalHandles (calls : List (AgpsCall × AgpsEnv)) : List ConnHandle :=
  calls.filterMap fun i => externalOf i.1

namespace AgpsSystem

/-- The handle belongs to the machine at `nif`: it is listed, or a message for it is queued. -/
def Owns (s : AgpsSystem) (nif : Nif) (h : ConnHandle) : Prop :=
  s.Lists nif h ∨ ∃ agpsType, (h, agpsType) ∈ s.msgQueue ∧ destination agpsType = nif

/-! ### The condition on one step -/

/-- The DS machine does not ask for a data call whose start is refused for good. It asks in two
places: when a request finds it released, and when a release ends while an active subscriber is
listed. A refusal for good (no function registered, no emergency profile, or the retries used up)
posts a request for SUPL, which leads to the AGNSS machine, and leaves the subscriber in the list of
the DS machine. So two machines would have it. -/
def StartNotRefused (s : AgpsSystem) (i : AgpsCall × AgpsEnv) : Prop :=
  (∀ request ∈ s.requestOf i.1, route i.2 request.2.1 = .ds →
    ∀ m ∈ (s.getAgpsStateMachine i.2 request.2.1).1.sm .ds, m.mState = .released →
      m.startDenied i.2 = false) ∧
  ∀ report ∈ reportOf i.2 i.1, report.1 = .ds → report.2 = .released ∨ report.2 = .denied →
    ∀ m ∈ s.sm .ds, m.mState = .releasing → m.anyActiveSubscribers = true →
      m.startDenied i.2 = false

instance (s : AgpsSystem) (i : AgpsCall × AgpsEnv) : Decidable (s.StartNotRefused i) :=
  @instDecidableAnd _ _ (Option.decidableForallMem (s.requestOf i.1))
    (Option.decidableForallMem (reportOf i.2 i.1))

/-- No denial of the pending DS machine comes while a retry for one of its subscribers is queued.
The denial hands the subscribers to the AGNSS machine, and the retry would list them in the DS
machine again. -/
def NoRetryAtDenial (s : AgpsSystem) (i : AgpsCall × AgpsEnv) : Prop :=
  ∀ report ∈ reportOf i.2 i.1, report.1 = .ds → report.2 = .denied ∨ report.2 = .released →
    ∀ m ∈ s.sm .ds, m.mState = .pending →
      ∀ sub ∈ m.mSubscriberList, (sub.mConnHandle, locAgpsTypeSuplEs) ∉ s.msgQueue

instance (s : AgpsSystem) (i : AgpsCall × AgpsEnv) : Decidable (s.NoRetryAtDenial i) :=
  inferInstanceAs (Decidable (∀ report ∈ reportOf i.2 i.1, _ → _))

/-- A queued retry that is processed with the emergency flag off is the last one for its handle, and
the DS machine does not list the handle any more. With the flag off the retry goes to another
machine than the one that has queued it. -/
def RetryNotRerouted (s : AgpsSystem) (i : AgpsCall × AgpsEnv) : Prop :=
  ∀ request ∈ s.requestOf i.1, request.2.2 = true → request.2.1 = locAgpsTypeSuplEs →
    i.2.useEmergencyPdnForEmergencySupl = false →
      (request.1, request.2.1) ∉ (s.dequeue i.1).msgQueue ∧
      ∀ m ∈ s.sm .ds, ∀ sub ∈ m.mSubscriberList, sub.mConnHandle ≠ request.1

instance (s : AgpsSystem) (i : AgpsCall × AgpsEnv) : Decidable (s.RetryNotRerouted i) :=
  Option.decidableForallMem (s.requestOf i.1)

/-- A release does not reach the released DS machine. There the event is ignored, and the subscriber
stays listed after its release. -/
def ReleaseNotIdle (s : AgpsSystem) (i : AgpsCall × AgpsEnv) : Prop :=
  ∀ h ∈ releaseOf i.1, ∀ m ∈ s.sm .ds, m.mState = .released →
    ∀ sub ∈ m.mSubscriberList, sub.mConnHandle ≠ h

instance (s : AgpsSystem) (i : AgpsCall × AgpsEnv) : Decidable (s.ReleaseNotIdle i) :=
  Option.decidableForallMem (releaseOf i.1)

/-- The condition on one step. Each of the four parts excludes one way to a handle with two owners:
a refused start, after which the subscriber stays listed (`StartNotRefused`), a denial that
overtakes a queued retry (`NoRetryAtDenial`), a retry that goes to another machine
(`RetryNotRerouted`), and a release that is ignored (`ReleaseNotIdle`). -/
def OwnerStepOk (s : AgpsSystem) (i : AgpsCall × AgpsEnv) : Prop :=
  s.StartNotRefused i ∧ s.NoRetryAtDenial i ∧ s.RetryNotRerouted i ∧ s.ReleaseNotIdle i

instance (s : AgpsSystem) (i : AgpsCall × AgpsEnv) : Decidable (s.OwnerStepOk i) :=
  inferInstanceAs (Decidable (_ ∧ _ ∧ _ ∧ _))

/-! ### The invariant -/

/-- Every handle belongs to one machine at most, and to none before its first request. -/
structure Tracked (used : List ConnHandle) (s : AgpsSystem) : Prop where
  type : ∀ msg ∈ s.msgQueue, msg.2 = locAgpsTypeSupl ∨ msg.2 = locAgpsTypeSuplEs
  used : ∀ nif h, s.Owns nif h → h ∈ used
  one : ∀ h nif nif', s.Owns nif h → s.Owns nif' h → nif = nif'

variable {used : List ConnHandle} {s s' t u : AgpsSystem} {nif other : Nif} {h : ConnHandle}

/-- The rule for one step. A handle keeps its owner, or all that is left of it leads to one
machine. -/
theorem Tracked.of_owns {used' : List ConnHandle} (hs : Tracked used s)
    (hused : ∀ h ∈ used, h ∈ used')
    (htype : ∀ msg ∈ t.msgQueue, msg.2 = locAgpsTypeSupl ∨ msg.2 = locAgpsTypeSuplEs)
    (howns : ∀ h, (∀ nif, t.Owns nif h → s.Owns nif h) ∨
      h ∈ used' ∧ ∃ home, ∀ nif, t.Owns nif h → nif = home) : Tracked used' t where
  type := htype
  used := by
    intro nif h hown
    rcases howns h with hsame | ⟨hmem, -⟩
    · exact hused h (hs.used nif h (hsame nif hown))
    · exact hmem
  one := by
    intro h nif nif' hown hown'
    rcases howns h with hsame | ⟨-, home, hhome⟩
    · exact hs.one h nif nif' (hsame nif hown) (hsame nif' hown')
    · rw [hhome nif hown, hhome nif' hown']

/-- The owners after the machine at `nif` has run. -/
theorem owns_runSm {r : AgpsStateMachine × List AgpsOutput} (hown : (u.runSm nif r).Owns other h) :
    (other = nif ∧ ∃ sub ∈ r.1.mSubscriberList, sub.mConnHandle = h) ∨
    (other ≠ nif ∧ u.Lists other h) ∨
    ∃ agpsType, ((h, agpsType) ∈ u.msgQueue ∨
      (h, agpsType) ∈ r.2.filterMap AgpsOutput.posted) ∧ destination agpsType = other := by
  rcases hown with ⟨m, hm, hsub⟩ | ⟨agpsType, hmem, hdest⟩
  · by_cases heq : other = nif
    · subst heq
      rw [sm_runSm_self] at hm
      cases hm
      exact Or.inl ⟨rfl, hsub⟩
    · rw [sm_runSm_of_ne _ heq] at hm
      exact Or.inr (Or.inl ⟨heq, m, hm, hsub⟩)
  · rw [msgQueue_runSm, List.mem_append] at hmem
    exact Or.inr (Or.inr ⟨agpsType, hmem, hdest⟩)

/-- A quiet event gives nobody a new owner. -/
theorem owns_of_quiet {m : AgpsStateMachine} {r : AgpsStateMachine × List AgpsOutput}
    (hsm : u.sm nif = some m)
    (hlisted : ∀ sub ∈ r.1.mSubscriberList, ∃ sub' ∈ m.mSubscriberList,
      sub'.mConnHandle = sub.mConnHandle)
    (hmessages : r.2.filterMap AgpsOutput.posted = []) (hown : (u.runSm nif r).Owns other h) :
    u.Owns other h := by
  rcases owns_runSm hown with ⟨rfl, sub, hsub, rfl⟩ | ⟨-, hlists⟩ | ⟨agpsType, hmem, hdest⟩
  · obtain ⟨sub', hsub', heq⟩ := hlisted sub hsub
    exact Or.inl ⟨m, hsm, sub', hsub', heq⟩
  · exact Or.inl hlists
  · rw [hmessages] at hmem
    exact Or.inr ⟨agpsType, hmem.resolve_right List.not_mem_nil, hdest⟩

/-- Taking a message off the queue and creating machines gives nobody a new owner. -/
theorem owns_of_created {env : AgpsEnv} {call : AgpsCall}
    (hcreated : Created env (s.dequeue call) s') (hown : s'.Owns nif h) : s.Owns nif h := by
  rcases hown with ⟨m, hm, sub, hsub, hsubh⟩ | ⟨agpsType, hmem, hdest⟩
  · rcases hcreated.sm nif with hold | ⟨-, hnew⟩
    · rw [sm_dequeue] at hold
      exact Or.inl ⟨m, hold.symm.trans hm, sub, hsub, hsubh⟩
    · cases hnew.symm.trans hm
      cases nif <;> cases hsub
  · rw [hcreated.msgQueue] at hmem
    exact Or.inr ⟨agpsType, mem_dequeue hmem, hdest⟩

/-! ### The steps -/

/-- The messages of a run are of the two types when the machine posts such messages only. -/
theorem type_runSm {r : AgpsStateMachine × List AgpsOutput}
    (hu : ∀ msg ∈ u.msgQueue, msg.2 = locAgpsTypeSupl ∨ msg.2 = locAgpsTypeSuplEs)
    (hr : ∀ msg ∈ r.2.filterMap AgpsOutput.posted,
      msg.2 = locAgpsTypeSupl ∨ msg.2 = locAgpsTypeSuplEs) :
    ∀ msg ∈ (u.runSm nif r).msgQueue, msg.2 = locAgpsTypeSupl ∨ msg.2 = locAgpsTypeSuplEs := by
  intro msg hmem
  rw [msgQueue_runSm, List.mem_append] at hmem
  exact hmem.elim (hu msg) (hr msg)

/-- A request that adds its handle at most and posts nothing. -/
theorem Tracked.request {used' : List ConnHandle} {m : AgpsStateMachine}
    {r : AgpsStateMachine × List AgpsOutput} (hs : Tracked used s)
    (hused : ∀ h ∈ used, h ∈ used')
    (hu : ∀ nif h, u.Owns nif h → s.Owns nif h)
    (htype : ∀ msg ∈ u.msgQueue, msg.2 = locAgpsTypeSupl ∨ msg.2 = locAgpsTypeSuplEs)
    (hsm : u.sm nif = some m)
    (hlisted : ∀ sub ∈ r.1.mSubscriberList, sub ∈ m.mSubscriberList ∨ sub.mConnHandle = h)
    (hmessages : r.2.filterMap AgpsOutput.posted = [])
    (hmem : h ∈ used') (hhome : ∀ other, u.Owns other h → other = nif) :
    Tracked used' (u.runSm nif r) := by
  refine hs.of_owns hused (type_runSm htype (by simp [hmessages])) ?_
  intro h'
  by_cases hself : h' = h
  · subst hself
    refine Or.inr ⟨hmem, nif, fun other hown => ?_⟩
    rcases owns_runSm hown with ⟨rfl, -⟩ | ⟨-, hlists⟩ | ⟨agpsType, hmsg, hdest⟩
    · rfl
    · exact hhome other (Or.inl hlists)
    · rw [hmessages] at hmsg
      exact hhome other (Or.inr ⟨agpsType, hmsg.resolve_right List.not_mem_nil, hdest⟩)
  · refine Or.inl fun other hown => hu other h' ?_
    rcases owns_runSm hown with ⟨rfl, sub, hsub, rfl⟩ | ⟨-, hlists⟩ | ⟨agpsType, hmsg, hdest⟩
    · exact Or.inl ⟨m, hsm, sub, (hlisted sub hsub).resolve_right hself, rfl⟩
    · exact Or.inl hlists
    · rw [hmessages] at hmsg
      exact Or.inr ⟨agpsType, hmsg.resolve_right List.not_mem_nil, hdest⟩

/-- A denial of the pending DS machine hands every listed subscriber over to the AGNSS
machine. -/
theorem Tracked.denied {m : AgpsStateMachine} {r : AgpsStateMachine × List AgpsOutput}
    (hs : Tracked used s) (hu : ∀ nif h, u.Owns nif h → s.Owns nif h)
    (htype : ∀ msg ∈ u.msgQueue, msg.2 = locAgpsTypeSupl ∨ msg.2 = locAgpsTypeSuplEs)
    (hsm : u.sm .ds = some m) (hempty : r.1.mSubscriberList = [])
    (hmessages : r.2.filterMap AgpsOutput.posted
      = m.mSubscriberList.map fun sub => (sub.mConnHandle, locAgpsTypeSupl))
    (hretry : ∀ sub ∈ m.mSubscriberList, (sub.mConnHandle, locAgpsTypeSuplEs) ∉ u.msgQueue) :
    Tracked used (u.runSm .ds r) := by
  -- the retries that the machine posts
  have hposted : ∀ msg ∈ r.2.filterMap AgpsOutput.posted, ∃ sub ∈ m.mSubscriberList,
      msg = (sub.mConnHandle, locAgpsTypeSupl) := by
    intro msg hmsg
    rw [hmessages, List.mem_map] at hmsg
    obtain ⟨sub, hsub, rfl⟩ := hmsg
    exact ⟨sub, hsub, rfl⟩
  refine hs.of_owns (fun _ hmem => hmem) (type_runSm htype ?_) ?_
  · intro msg hmsg
    obtain ⟨sub, -, rfl⟩ := hposted msg hmsg
    exact Or.inl rfl
  · intro h
    by_cases hlisted : ∃ sub ∈ m.mSubscriberList, sub.mConnHandle = h
    · -- the DS machine listed the handle, so nothing else led to another machine
      have howned : s.Owns .ds h := hu .ds h (Or.inl ⟨m, hsm, hlisted⟩)
      obtain ⟨sub₀, hsub₀, hsub₀h⟩ := hlisted
      refine Or.inr ⟨hs.used _ _ howned, .agnss, fun other hown => ?_⟩
      rcases owns_runSm hown with ⟨-, sub, hsub, -⟩ | ⟨hne, hlists⟩ | ⟨agpsType, hmsg, hdest⟩
      · rw [hempty] at hsub
        cases hsub
      · exact absurd (hs.one h other .ds (hu other h (Or.inl hlists)) howned) hne
      · rcases hmsg with hmsg | hmsg
        · rcases htype _ hmsg with hsupl | hes
          · subst hsupl
            exact hdest.symm
          · subst hes
            exact absurd hmsg (hsub₀h ▸ hretry sub₀ hsub₀)
        · obtain ⟨sub, -, heq⟩ := hposted _ hmsg
          cases heq
          exact hdest.symm
    · -- an unlisted handle is owned by whoever owned it before
      refine Or.inl fun other hown => hu other h ?_
      rcases owns_runSm hown with ⟨-, sub, hsub, -⟩ | ⟨-, hlists⟩ | ⟨agpsType, hmsg, hdest⟩
      · rw [hempty] at hsub
        cases hsub
      · exact Or.inl hlists
      · rcases hmsg with hmsg | hmsg
        · exact Or.inr ⟨agpsType, hmsg, hdest⟩
        · obtain ⟨sub, hsub, heq⟩ := hposted _ hmsg
          cases heq
          exact absurd ⟨sub, hsub, rfl⟩ hlisted

/-! ### One step and every run -/

open AgpsStateMachine (Sane Quiet)

/-- The message of a call plays no part in the creation of machines. -/
theorem sm_getAgpsStateMachine_dequeue (s : AgpsSystem) (call : AgpsCall) (env : AgpsEnv)
    (agpsType : AGpsExtType) (nif : Nif) :
    (((s.dequeue call).getAgpsStateMachine env agpsType).1).sm nif
      = ((s.getAgpsStateMachine env agpsType).1).sm nif := by
  cases call <;> rfl

/-- A posted request that does not follow its message: the retry of a handle that the DS machine
does not list any more, with the emergency flag off. -/
theorem owner_of_posted {env : AgpsEnv} {call : AgpsCall} {agpsType : AGpsExtType}
    (hs : Tracked used s) (hretry : s.RetryNotRerouted (call, env))
    (hcreated : Created env (s.dequeue call) s')
    (hcall : s.requestOf call = some (h, agpsType, true)) (hown : s'.Owns other h) :
    other = route env agpsType := by
  have hmem : (h, agpsType) ∈ s.msgQueue := mem_of_requestOf_posted hcall
  have howned : s.Owns (destination agpsType) h := Or.inr ⟨agpsType, hmem, rfl⟩
  have hother : other = destination agpsType :=
    hs.one h _ _ (owns_of_created hcreated hown) howned
  rcases hs.type _ hmem with hsupl | hes
  · subst hsupl
    exact hother
  · subst hes
    cases hflag : env.useEmergencyPdnForEmergencySupl with
    | true =>
        rw [hother]
        show Nif.ds = if env.useEmergencyPdnForEmergencySupl then Nif.ds else Nif.agnss
        rw [hflag]
        rfl
    | false =>
        -- nothing is left that could lead to the DS machine
        obtain ⟨hlast, hunlisted⟩ := hretry _ hcall rfl rfl hflag
        rcases hown with ⟨m, hm, sub, hsub, hsubh⟩ | ⟨type, hmsg, hdest⟩
        · subst hother
          rcases hcreated.sm .ds with hold | ⟨-, hnew⟩
          · rw [sm_dequeue] at hold
            exact absurd hsubh (hunlisted m (hold.symm.trans hm) sub hsub)
          · cases hnew.symm.trans hm
            cases hsub
        · rw [hcreated.msgQueue] at hmsg
          rcases hs.type _ (mem_dequeue hmsg) with hsupl | hes
          · subst hsupl
            subst hdest
            cases hother
          · subst hes
            exact absurd hmsg hlast

/-- A request keeps the invariant. -/
theorem Tracked.request_step {env : AgpsEnv} {call : AgpsCall} {agpsType : AGpsExtType}
    {posted : Bool} {m : AgpsStateMachine} (hs : Tracked used s)
    (hcreated : Created env (s.dequeue call) s') (hsane : Sane (route env agpsType) m)
    (hfresh : ∀ h ∈ externalOf call, h ∉ used) (hstart : s.StartNotRefused (call, env))
    (hretry : s.RetryNotRerouted (call, env))
    (hcall : s.requestOf call = some (h, agpsType, posted))
    (hsm : s'.sm (route env agpsType) = some m)
    (hmgr : s' = ((s.dequeue call).getAgpsStateMachine env agpsType).1) :
    Tracked (used ++ (externalOf call).toList)
      ((s'.note (.requestATL h agpsType posted (some (route env agpsType))
          (m.getSubscriber h).isSome)).runSm (route env agpsType)
        (m.processAgpsEventSubscribe env (newSubscriber h agpsType))) := by
  have htype : ∀ msg ∈ s'.msgQueue, msg.2 = locAgpsTypeSupl ∨ msg.2 = locAgpsTypeSuplEs := by
    intro msg hmsg
    rw [hcreated.msgQueue] at hmsg
    exact hs.type msg (mem_dequeue hmsg)
  -- the request adds one subscriber to the machine
  have hlisted : ∀ sub ∈ (m.processAgpsEventSubscribe env
      (newSubscriber h agpsType)).1.mSubscriberList,
      sub ∈ m.mSubscriberList ∨ sub.mConnHandle = h := by
    intro sub hsub
    rcases AgpsStateMachine.mem_subscribe hsane.list.valid hsub with hsub | rfl
    · exact Or.inl hsub
    · exact Or.inr rfl
  -- and posts no message, since a start is not refused
  have hmessages : (m.processAgpsEventSubscribe env
      (newSubscriber h agpsType)).2.filterMap AgpsOutput.posted = [] := by
    refine AgpsStateMachine.messages_subscribe fun hcls hreleased => ?_
    have hds : route env agpsType = .ds := eq_ds_of_sane hsane hcls
    refine hstart.1 _ hcall hds m ?_ hreleased
    rw [hds, hmgr, sm_getAgpsStateMachine_dequeue] at hsm
    exact hsm
  refine hs.request (fun _ hmem => List.mem_append_left _ hmem)
    (fun _ _ hown => owns_of_created hcreated hown) htype hsm hlisted hmessages ?_ ?_
  · show h ∈ used ++ (externalOf call).toList
    -- the handle of a posted request was in use; any other comes in with the call
    cases posted with
    | false =>
        cases eq_of_requestOf_external hcall
        exact List.mem_append_right _ List.mem_cons_self
    | true =>
        have howned : s.Owns (destination agpsType) h :=
          Or.inr ⟨agpsType, mem_of_requestOf_posted hcall, rfl⟩
        exact List.mem_append_left _ (hs.used _ h howned)
  · intro other hown
    cases posted with
    | false =>
        cases eq_of_requestOf_external hcall
        exact absurd (hs.used other h (owns_of_created hcreated hown)) (hfresh h rfl)
    | true => exact owner_of_posted hs hretry hcreated hcall hown

/-- A report keeps the invariant. -/
theorem Tracked.report_step {env : AgpsEnv} {call : AgpsCall} {event : AgpsEvent}
    {m : AgpsStateMachine} (hs : Tracked used s) (hcreated : Created env (s.dequeue call) s')
    (hsane : Sane nif m) (hstart : s.StartNotRefused (call, env))
    (hdenial : s.NoRetryAtDenial (call, env)) (hcall : reportOf env call = some (nif, event))
    (hsm : s'.sm nif = some m) (apn : Option (List UInt8)) (bearer : AGpsBearerType) :
    Tracked used (s'.report env nif event { m with mAPN := apn, mBearer := bearer }) := by
  have hu : ∀ nif h, s'.Owns nif h → s.Owns nif h := fun _ _ => owns_of_created hcreated
  have htype : ∀ msg ∈ s'.msgQueue, msg.2 = locAgpsTypeSupl ∨ msg.2 = locAgpsTypeSuplEs := by
    intro msg hmsg
    rw [hcreated.msgQueue] at hmsg
    exact hs.type msg (mem_dequeue hmsg)
  by_cases hden : m.cls = .dsStateMachine ∧ m.mState = .pending ∧
      (event = .denied ∨ event = .released)
  · obtain ⟨hcls, hpending, hevent⟩ := hden
    obtain rfl := eq_ds_of_sane hsane hcls
    have hold : s.sm .ds = some m := sm_of_created hcreated hsm (by simp [hpending])
    obtain ⟨hempty, hmessages⟩ := AgpsStateMachine.report_denied
      (m := { m with mAPN := apn, mBearer := bearer }) env hcls hpending hevent
    refine hs.denied (u := s'.note (.report .ds event)) hu htype hsm hempty hmessages ?_
    intro sub hsub hmsg
    rw [msgQueue_note, hcreated.msgQueue] at hmsg
    exact hdenial _ hcall rfl hevent m hold hpending sub hsub (mem_dequeue hmsg)
  · have hquiet : Quiet { m with mAPN := apn, mBearer := bearer }
        (AgpsStateMachine.processReport { m with mAPN := apn, mBearer := bearer } env event) := by
      refine AgpsStateMachine.quiet_report
        (fun hcls hpending hevent => hden ⟨hcls, hpending, hevent⟩) ?_
      intro hcls hreleasing hevent hactive
      obtain rfl := eq_ds_of_sane hsane hcls
      have hne : m.mState ≠ .released := by
        rw [show m.mState = .releasing from hreleasing]
        simp
      exact hstart.2 _ hcall rfl hevent m (sm_of_created hcreated hsm hne) hreleasing hactive
    refine hs.of_owns (fun _ hmem => hmem) (type_runSm htype (by simp [hquiet.messages])) ?_
    intro h
    refine Or.inl fun other hown => hu other h ?_
    exact owns_of_quiet (u := s'.note (.report nif event)) hsm (fun _ => hquiet.handle)
      hquiet.messages hown

/-- A modem restart gives nobody a new owner. -/
theorem owns_of_handleModemSSR {env : AgpsEnv} (hown : (u.handleModemSSR env).Owns nif h) :
    u.Owns nif h := by
  rcases hown with ⟨m, hm, sub, hsub, -⟩ | hmsg
  · -- the lists are empty
    rw [sm_handleModemSSR, Option.map_eq_some_iff] at hm
    obtain ⟨m', -, rfl⟩ := hm
    cases hsub
  · rw [msgQueue_handleModemSSR] at hmsg
    exact Or.inr hmsg

/-- A retry asks for a handle that the DS machine lists. -/
theorem owns_of_retry {m : AgpsStateMachine} {n : Nat} (hsm : u.sm .ds = some m)
    (hown : ({ u with retryTimers := n }.emit (some .ds) m.retryCallback).Owns nif h) :
    u.Owns nif h := by
  rcases hown with hlists | ⟨agpsType, hmsg, hdest⟩
  · exact Or.inl hlists
  · rw [msgQueue_emit, List.mem_append] at hmsg
    rcases hmsg with hmsg | hmsg
    · exact Or.inr ⟨agpsType, hmsg, hdest⟩
    · obtain ⟨rfl, sub, hsub, hsubh, -⟩ := AgpsStateMachine.mem_retryCallback hmsg
      subst hdest
      exact Or.inl ⟨m, hsm, sub, hsub, hsubh⟩

/-- Every step that meets the condition keeps the invariant. -/
theorem Tracked.step {call : AgpsCall} {env : AgpsEnv}
    (hsane : ∀ nif m, s.sm nif = some m → Sane nif m) (hs : Tracked used s)
    (hfresh : ∀ h ∈ externalOf call, h ∉ used) (hok : s.OwnerStepOk (call, env))
    (ht : s.step (call, env) = some t) : Tracked (used ++ (externalOf call).toList) t := by
  obtain ⟨hstart, hdenial, hretry, -⟩ := hok
  obtain ⟨s', hcreated, hdispatch⟩ := step_cases ht
  have htype : ∀ msg ∈ s'.msgQueue, msg.2 = locAgpsTypeSupl ∨ msg.2 = locAgpsTypeSuplEs := by
    intro msg hmsg
    rw [hcreated.msgQueue] at hmsg
    exact hs.type msg (mem_dequeue hmsg)
  have hsane' : ∀ nif m, s'.sm nif = some m → Sane nif m :=
    hcreated.forall sane_newSm fun nif m hm => hsane nif m (by rwa [sm_dequeue] at hm)
  have hused : ∀ h ∈ used, h ∈ used ++ (externalOf call).toList :=
    fun _ hmem => List.mem_append_left _ hmem
  -- a step that gives nobody a new owner
  have hkeep : ∀ t' : AgpsSystem, (∀ nif h, t'.Owns nif h → s'.Owns nif h) →
      (∀ msg ∈ t'.msgQueue, msg.2 = locAgpsTypeSupl ∨ msg.2 = locAgpsTypeSuplEs) →
      Tracked (used ++ (externalOf call).toList) t' := by
    intro t' howns htype'
    refine hs.of_owns hused htype' ?_
    intro h
    exact Or.inl fun nif hown => owns_of_created hcreated (howns nif h hown)
  -- a step that changes neither the machines nor the queue
  have hsame : ∀ t' : AgpsSystem, (∀ nif, t'.sm nif = s'.sm nif) → t'.msgQueue = s'.msgQueue →
      Tracked (used ++ (externalOf call).toList) t' := by
    intro t' hsm hqueue
    refine hkeep t' (fun nif h hown => ?_) (by rwa [hqueue])
    show (∃ m, s'.sm nif = some m ∧ _) ∨ ∃ agpsType, (h, agpsType) ∈ s'.msgQueue ∧ _
    rw [← hsm, ← hqueue]
    exact hown
  cases hdispatch with
  | idle => exact hsame _ (fun _ => rfl) rfl
  | requestNull hcall hsm => exact hsame _ (fun _ => rfl) (List.append_nil _)
  | request hcall hsm hmgr =>
      exact hs.request_step hcreated (hsane' _ _ hsm) hfresh hstart hretry hcall hsm hmgr
  | releaseNone hs₀ hnone => exact hsame _ (fun _ => rfl) (List.append_nil _)
  | release hs₀ hholders hsm hsub =>
      rename_i nif rest m sub
      -- a release posts no retry
      have hquiet := AgpsStateMachine.quiet_unsubscribe (hsane' _ _ hsm).list.valid env sub
      refine hkeep _ (fun _ _ hown => ?_) (type_runSm htype (by simp [hquiet.messages]))
      exact owns_of_quiet (u := s'.note _) hsm (fun _ => hquiet.handle) hquiet.messages hown
  | report hcall hsm apn bearer =>
      have htracked := hs.report_step hcreated (hsane' _ _ hsm) hstart hdenial hcall hsm apn bearer
      exact htracked.of_owns hused htracked.type fun _ => Or.inl fun _ hown => hown
  | modemSSR =>
      exact hkeep _ (fun _ _ => owns_of_handleModemSSR) (by rwa [msgQueue_handleModemSSR])
  | retry htimers hsm =>
      refine hkeep _ (fun _ _ => owns_of_retry hsm) ?_
      intro msg hmsg
      rw [msgQueue_emit, List.mem_append] at hmsg
      rcases hmsg with hmsg | hmsg
      · exact htype msg hmsg
      · exact Or.inr (AgpsStateMachine.mem_retryCallback (h := msg.1) hmsg).1

/-- The invariant over a run. The handles of the external requests are used up one by one. -/
theorem tracked_of_run : ∀ (calls : List (AgpsCall × AgpsEnv)) (used : List ConnHandle)
    (s t : AgpsSystem), (∀ nif m, s.sm nif = some m → Sane nif m) → Tracked used s →
      (used ++ externalHandles calls).Nodup → Guarded AgpsSystem.step OwnerStepOk s calls →
      run AgpsSystem.step s calls = some t →
      (∀ nif m, t.sm nif = some m → Sane nif m) ∧ ∃ used', Tracked used' t := by
  intro calls
  induction calls with
  | nil =>
      intro used s t hsane hs _ _ hrun
      cases hrun
      exact ⟨hsane, used, hs⟩
  | cons i calls ih =>
      intro used s t hsane hs hnodup hguard hrun
      obtain ⟨u, hu, ht⟩ := run_cons_eq_some.mp hrun
      have hsplit : externalHandles (i :: calls)
          = (externalOf i.1).toList ++ externalHandles calls := by
        show List.filterMap _ (i :: calls) = _
        rw [List.filterMap_cons]
        cases externalOf i.1 <;> rfl
      rw [hsplit, ← List.append_assoc] at hnodup
      have hfresh : ∀ h ∈ externalOf i.1, h ∉ used := by
        intro h hh hmem
        have hdisjoint := List.disjoint_of_nodup_append (List.Nodup.of_append_left hnodup)
        exact hdisjoint hmem (Option.mem_toList.mpr hh)
      exact ih _ u t (sane_step hsane hu) (hs.step hsane hfresh hguard.1 hu) hnodup
        (hguard.2 u hu) ht

/-! ### The release -/

/-- A release that meets the condition leaves no active holder. The released machine is the only
one that listed the handle. -/
theorem Tracked.not_holdsActive_of_release {env : AgpsEnv}
    (hsane : ∀ nif m, s.sm nif = some m → Sane nif m) (hs : Tracked used s)
    (hok : s.ReleaseNotIdle (.releaseATL h, env))
    (ht : s.step (.releaseATL h, env) = some t) (nif : Nif) : ¬ t.HoldsActive nif h := by
  obtain ⟨s', -, hdispatch⟩ := step_cases ht
  cases hdispatch with
  | idle hcall hrelease => cases hrelease
  | requestNull hcall hsm => cases hcall
  | request hcall hsm hmgr => cases hcall
  | report hcall hsm apn bearer => cases hcall
  | releaseNone hs₀ hnone =>
      rintro ⟨m, hm, sub, hsub, hsubh, -⟩
      have hlists : s'.Lists nif h := ⟨m, hm, sub, hsub, hsubh⟩
      exact absurd hlists.mem_holders (by simp [hnone])
  | release hs₀ hholders hsm hsub =>
      rename_i holder rest m sub
      subst hs₀
      obtain ⟨hsub, hsubh⟩ := AgpsStateMachine.mem_of_getSubscriber hsub
      rintro ⟨m', hm', hactive⟩
      by_cases heq : nif = holder
      · subst heq
        rw [sm_runSm_self] at hm'
        cases hm'
        have hreleased : m.mState ≠ .released := by
          intro hst
          cases hcls : m.cls with
          | agpsStateMachine =>
              rw [(hsane _ _ hsm).list.releasedBase hst hcls] at hsub
              cases hsub
          | dsStateMachine =>
              obtain rfl := eq_ds_of_sane (hsane _ _ hsm) hcls
              exact hok h rfl m hsm hst sub hsub hsubh
        subst hsubh
        have hlist := (hsane _ _ hsm).list
        exact AgpsStateMachine.not_holdsActive_unsubscribe _ hlist hreleased env hactive
      · rw [sm_runSm_of_ne _ heq] at hm'
        obtain ⟨sub', hsub', hsubh', -⟩ := hactive
        exact heq (hs.one h nif holder (Or.inl ⟨m', hm', sub', hsub', hsubh'⟩)
          (Or.inl ⟨m, hsm, sub, hsub, hsubh⟩))

/-- The invariant before the first call. -/
theorem tracked_init : Tracked [] init where
  type := by simp [init]
  used := by
    rintro nif h (⟨m, hm, -⟩ | ⟨agpsType, hmsg, -⟩)
    · cases nif <;> cases hm
    · cases hmsg
  one := by
    rintro h nif nif' (⟨m, hm, -⟩ | ⟨agpsType, hmsg, -⟩)
    · cases nif <;> cases hm
    · cases hmsg

/-- A handle is listed by one machine at most: in every run with fresh handles whose steps all meet
the condition, and a release that meets it leaves no machine that holds the handle as an active
subscriber.

The machines share a handle only through the messages that the DS machine posts, for a retry or as
the fallback. The condition says that such a message is posted for a subscriber that leaves the
list, that it is the last one for its handle when it is processed, and that a release has an
effect. -/
theorem one_owner (calls : List (AgpsCall × AgpsEnv)) (s : AgpsSystem)
    (hfresh : (externalHandles calls).Nodup)
    (hguard : Guarded AgpsSystem.step OwnerStepOk init calls)
    (hrun : run AgpsSystem.step init calls = some s) :
    (∀ h nif nif', s.Lists nif h → s.Lists nif' h → nif = nif') ∧
    ∀ h env t, s.OwnerStepOk (.releaseATL h, env) → s.step (.releaseATL h, env) = some t →
      ∀ nif, ¬ t.HoldsActive nif h := by
  obtain ⟨hsane, used, htracked⟩ := tracked_of_run calls [] init s sane_init tracked_init
    (by rwa [List.nil_append]) hguard hrun
  constructor
  · intro h nif nif' hlists hlists'
    exact htracked.one h nif nif' (Or.inl hlists) (Or.inl hlists')
  · intro h env t hok ht
    exact htracked.not_holdsActive_of_release hsane hok.2.2.2 ht

/-- An emergency request is denied, and its handle moves to the AGNSS machine. -/
def deniedEmergency : List (AgpsCall × AgpsEnv) :=
  [(.requestATL 1 locAgpsTypeSuplEs, .emergency locApiAdapterErrSuccess),
    (.reportDataCallClosed, .emergency locApiAdapterErrSuccess),
    (.procMsgRequestATL 0, .emergency locApiAdapterErrSuccess)]

theorem one_owner_deniedEmergency :
    ∃ s, run AgpsSystem.step init deniedEmergency = some s ∧
      s.mgr.holders 1 = [.agnss] ∧ ∀ nif, s.Lists nif 1 → nif = .agnss :=
  ⟨_, rfl, by decide, fun nif hlists => (one_owner deniedEmergency _ (by decide) (by decide)
    rfl).1 1 nif .agnss hlists ⟨_, rfl, _, List.mem_cons_self, rfl⟩⟩

/-- No emergency profile is found: the start is refused, and the handle stays in the list of the
DS machine while the message takes it to the AGNSS machine. -/
def refusedStart : List (AgpsCall × AgpsEnv) :=
  [(.requestATL 1 locAgpsTypeSuplEs, .emergency locApiAdapterErrUnsupported),
    (.procMsgRequestATL 0, .emergency locApiAdapterErrUnsupported)]

/-- The handle is in two lists, and its release leaves it active in the list of the DS
machine. -/
theorem refusedStart_two_owners :
    ∃ s t, run AgpsSystem.step init refusedStart = some s ∧ (externalHandles refusedStart).Nodup ∧
      s.Lists .agnss 1 ∧ s.Lists .ds 1 ∧
      s.step (.releaseATL 1, .emergency locApiAdapterErrUnsupported) = some t ∧
      t.HoldsActive .ds 1 :=
  ⟨_, _, rfl, by decide, ⟨_, rfl, _, List.mem_cons_self, rfl⟩, ⟨_, rfl, _, List.mem_cons_self, rfl⟩,
    rfl, ⟨_, rfl, _, List.mem_cons_self, rfl, rfl⟩⟩

end AgpsSystem

end LocHal.Gnss
