import LocHal.Gnss.AgpsLists

/-!
# `LocHal.Gnss.AgpsConnection`: when a data connection is leaked

`connRequested` reads the history: the last request for a data connection that a machine sent to
the framework has been followed neither by a release nor by a reported close or failure for that
machine. `NoLeak` says that a base machine in this position has an active subscriber.

`handleModemSSR` drops the subscribers and tells the framework nothing. `noLeak_iff_guarded` is
the exact condition: a run keeps `NoLeak` in every state if and only if no modem restart comes
while a base machine has a connection requested. The invariant `ConnInv` ties the history to the
machine: a machine with a requested connection is pending or acquired.

`connEntry` follows one machine through the history: its request to the framework sets the flag, its
release and the reports of a close or a failure clear it. `ConnOk` is the invariant of one machine,
for a flag that is an argument: if the flag is set, the machine is pending or acquired, and so it
has an active subscriber, by the agreement of state and list. Each of the three events keeps it
(`ConnOk.subscribe`, `ConnOk.unsubscribe`, `ConnOk.report`).

The restart is the only step that empties a list and tells the framework nothing. If the flag is set
then, the property is lost at once, which is the other direction (`connStepOk_of_noLeak`).
-/

set_option autoImplicit false

namespace LocHal.Gnss

open LabelledRun

/-- The effect of one entry of the history on the requested connection of `nif`. -/
def connEntry (nif : Nif) (requested : Bool) : AgpsLogEntry → Bool
  | .output (some sm) (.frameworkStatusV4Cb _ .requestAgpsDataConn) =>
      if sm = nif then true else requested
  | .output (some sm) (.frameworkStatusV4Cb _ .releaseAgpsDataConn) =>
      if sm = nif then false else requested
  | .report sm event =>
      if sm = nif ∧ (event = .released ∨ event = .denied) then false else requested
  | _ => requested

/-- The last request of `nif` has been followed neither by a release nor by a reported close or
failure. So the framework or the data service holds a connection, or is about to open one. -/
def connRequested (nif : Nif) (log : List AgpsLogEntry) : Bool :=
  log.foldl (connEntry nif) false

/-- The effect of the outputs of the machine itself. -/
def connOuts (requested : Bool) (outs : List AgpsOutput) : Bool :=
  outs.foldl (fun b o => connEntry .agnss b (.output (some .agnss) o)) requested

theorem connRequested_append (nif : Nif) (log log' : List AgpsLogEntry) :
    connRequested nif (log ++ log') = log'.foldl (connEntry nif) (connRequested nif log) :=
  List.foldl_append

/-- The outputs of the machine at `nif`. -/
theorem foldl_connEntry_self (nif : Nif) (outs : List AgpsOutput) (b : Bool) :
    (outs.map (AgpsLogEntry.output (some nif))).foldl (connEntry nif) b = connOuts b outs := by
  unfold connOuts
  rw [List.foldl_map]
  congr 1
  funext b o
  cases o with
  | frameworkStatusV4Cb type status => cases status <;> simp [connEntry]
  | _ => rfl

/-- The outputs of another machine, or of the manager. -/
theorem foldl_connEntry_other {nif : Nif} {sm : Option Nif} (hne : sm ≠ some nif)
    (outs : List AgpsOutput) (b : Bool) :
    (outs.map (AgpsLogEntry.output sm)).foldl (connEntry nif) b = b := by
  induction outs with
  | nil => rfl
  | cons o outs ih =>
      have hstep : connEntry nif b (.output sm o) = b := by
        cases sm with
        | none => rfl
        | some other =>
            have hother : other ≠ nif := fun h => hne (congrArg some h)
            cases o with
            | frameworkStatusV4Cb type status => cases status <;> simp [connEntry, hother]
            | _ => rfl
      rw [List.map_cons, List.foldl_cons, hstep, ih]

theorem connOuts_append (b : Bool) (outs outs' : List AgpsOutput) :
    connOuts b (outs ++ outs') = connOuts (connOuts b outs) outs' :=
  List.foldl_append

/-- Outputs that do not go to the framework. -/
theorem connOuts_of_forall {outs : List AgpsOutput}
    (h : ∀ o ∈ outs, ∀ type status, o ≠ .frameworkStatusV4Cb type status) (b : Bool) :
    connOuts b outs = b := by
  unfold connOuts
  induction outs with
  | nil => rfl
  | cons o outs ih =>
      have hstep : connEntry .agnss b (.output (some .agnss) o) = b := by
        cases o with
        | frameworkStatusV4Cb type status => exact absurd rfl (h _ List.mem_cons_self type status)
        | _ => rfl
      rw [List.foldl_cons, hstep]
      exact ih fun o ho => h o (List.mem_cons_of_mem _ ho)

namespace AgpsStateMachine

/-! ### One machine of the base class -/

/-- A requested connection belongs to a pending or acquired machine with an active
subscriber. -/
def ConnOk (m : AgpsStateMachine) (requested : Bool) : Prop :=
  requested = true → (m.mState = .pending ∨ m.mState = .acquired) ∧
    ∃ sub ∈ m.mSubscriberList, sub.mIsInactive = false

variable {m : AgpsStateMachine} {requested : Bool}

/-- Notifications of the base class do not go to the framework. -/
theorem notifyOuts_not_framework (hcls : m.cls = .agpsStateMachine) (event : AgpsEvent)
    (l : List AgpsSubscriber) :
    ∀ o ∈ l.flatMap (m.notifyOuts event), ∀ type status, o ≠ .frameworkStatusV4Cb type status := by
  intro o ho type status heq
  obtain ⟨sub, -, hsub⟩ := List.mem_flatMap.mp ho
  unfold notifyOuts notifyEvent at hsub
  rw [hcls, heq] at hsub
  cases event <;> simp at hsub

theorem ConnOk.subscribe (h : ConnOk m requested) (hcls : m.cls = .agpsStateMachine)
    (hlist : ListOk m.cls m.mState m.mSubscriberList) (env : AgpsEnv) {sub : AgpsSubscriber}
    (hactive : sub.mIsInactive = false) :
    ConnOk (m.processAgpsEventSubscribe env sub).1
      (connOuts requested (m.processAgpsEventSubscribe env sub).2) := by
  rw [processAgpsEventSubscribe_base hcls env sub hlist.valid]
  by_cases hreleased : m.mState = .released
  · -- the list of a released machine is empty, so the new subscriber is in it
    refine fun _ => ⟨Or.inl (if_pos hreleased), sub, ?_, hactive⟩
    refine mem_addSubscriber.mpr (Or.inr ⟨rfl, fun t ht => ?_⟩)
    rw [hlist.releasedBase hreleased hcls] at ht
    cases ht
  · have houts : connOuts requested (m.subscribeOuts sub) = requested := by
      unfold subscribeOuts
      cases hst : m.mState with
      | released => exact absurd hst hreleased
      | _ => rfl
    rw [houts, if_neg hreleased]
    intro hrequested
    obtain ⟨hst, s, hs, hin⟩ := h hrequested
    exact ⟨hst, s, mem_addSubscriber.mpr (Or.inl hs), hin⟩

theorem ConnOk.unsubscribe (h : ConnOk m requested) (hcls : m.cls = .agpsStateMachine)
    (hlist : ListOk m.cls m.mState m.mSubscriberList) (env : AgpsEnv) (sub : AgpsSubscriber) :
    ConnOk (m.processAgpsEventUnsubscribe env sub).1
      (connOuts requested (m.processAgpsEventUnsubscribe env sub).2) := by
  by_cases hreleased : m.mState = .released
  · rw [processAgpsEventUnsubscribe_released hreleased]
    exact h
  · rw [processAgpsEventUnsubscribe_eq m env sub hlist.valid hreleased]
    have hclose : connOuts requested
        (if sub.mWaitForCloseComplete then [] else [.atlCloseStatusCb sub.mConnHandle true])
          = requested := by split <;> rfl
    dsimp only
    rw [connOuts_append, hclose]
    by_cases hcase : m.mState = .releasing ∨
        ((unsubscribed sub m.mSubscriberList).any fun s => !s.mIsInactive) = true
    · rw [if_pos hcase]
      intro hrequested
      obtain ⟨hst, -⟩ := h hrequested
      have hne : m.mState ≠ .releasing := by rcases hst with hst | hst <;> simp [hst]
      have hany := hcase.resolve_left hne
      obtain ⟨s, hs, hin⟩ := List.any_eq_true.mp hany
      refine ⟨?_, s, hs, by simpa using hin⟩
      dsimp only [unsubscribedState]
      rw [if_neg (List.ne_nil_of_mem hs), if_neg (by simp [hany])]
      exact hst
    · -- the release goes out
      have hrelease : connOuts requested (m.releaseOuts env) = false := by
        unfold releaseOuts
        rw [hcls]
        rfl
      rw [if_neg hcase, hrelease]
      exact fun h => by cases h

theorem ConnOk.report (h : ConnOk m requested) (hcls : m.cls = .agpsStateMachine)
    (env : AgpsEnv) {event : AgpsEvent} {requested' : Bool}
    (hrequested : requested' =
      if event = .released ∨ event = .denied then false else requested) :
    ConnOk (m.processReport env event).1 (connOuts requested' (m.processReport env event).2) := by
  have hok : ConnOk m requested' := by
    rw [hrequested]
    split
    · exact fun h => by cases h
    · exact h
  rcases processReport_cases m env event with heq | ⟨hst, hevent, heq⟩ | ⟨notified, hcase, heq⟩ |
    ⟨-, hevent, heq⟩ <;> rw [heq]
  · exact hok
  · rw [processAgpsEventGranted_eq hst, connOuts_of_forall (notifyOuts_not_framework hcls _ _)]
    intro hr
    obtain ⟨-, hactive⟩ := hok hr
    exact ⟨Or.inr rfl, hactive⟩
  · obtain ⟨r, hclear⟩ := notifyAndClear_eq m notified
    rw [hclear, connOuts_of_forall (notifyOuts_not_framework hcls _ _), hrequested]
    rw [if_pos (by rcases hcase with ⟨-, h, -⟩ | ⟨-, -, h | ⟨h, -⟩⟩ <;> simp [h])]
    exact fun h => by cases h
  · rw [finishReleasing_eq m env]
    split
    · rename_i hany
      dsimp only
      rw [requestOrReleaseDataConn_base (by exact hcls)]
      have hactive : ∃ s ∈ m.mSubscriberList, s.mIsInactive = false := by
        simpa [anyActiveSubscribers] using hany
      obtain ⟨s, hs, hin⟩ := hactive
      exact fun _ => ⟨Or.inl rfl, s, List.mem_filter.mpr ⟨hs, by simp [hin]⟩, hin⟩
    · rw [connOuts_of_forall (notifyOuts_not_framework hcls _ _), hrequested, if_pos hevent]
      exact fun h => by cases h

end AgpsStateMachine

namespace AgpsSystem

open AgpsStateMachine (Sane ConnOk)
open AgpsManager (newSm)

/-- A base machine whose last request is neither released nor reported closed or failed has an
active subscriber. Without one nobody is left whose release would close the connection, and it stays
open. -/
def NoLeak (s : AgpsSystem) : Prop :=
  ∀ nif, nif ≠ .ds → connRequested nif s.log = true →
    ∃ m, s.sm nif = some m ∧ ∃ sub ∈ m.mSubscriberList, sub.mIsInactive = false

/-- The condition on one step: no modem restart while a base machine has a connection requested.
`handleModemSSR` drops all subscribers and sends no release for the connection that they had asked
for. All other calls are free. -/
def ConnStepOk (s : AgpsSystem) (i : AgpsCall × AgpsEnv) : Prop :=
  i.1 = .handleModemSSR → ∀ nif, nif ≠ .ds → connRequested nif s.log = false

/-- The history agrees with the base machines. -/
structure HistoryOk (s : AgpsSystem) : Prop where
  missing : ∀ nif, nif ≠ .ds → s.sm nif = none → connRequested nif s.log = false
  conn : ∀ nif m, nif ≠ .ds → s.sm nif = some m → ConnOk m (connRequested nif s.log)

/-- What the steps that meet the condition keep. -/
structure ConnInv (s : AgpsSystem) : Prop extends HistoryOk s where
  sane : ∀ nif m, s.sm nif = some m → Sane nif m

theorem connInv_init : ConnInv init where
  missing := fun _ _ _ => rfl
  conn := fun nif m _ hm => by cases nif <;> cases hm
  sane := sane_init

theorem ConnInv.noLeak {s : AgpsSystem} (h : ConnInv s) : NoLeak s := by
  intro nif hne hrequested
  cases hm : s.sm nif with
  | none => rw [h.missing nif hne hm] at hrequested; cases hrequested
  | some m => exact ⟨m, rfl, (h.conn nif m hne hm hrequested).2⟩

theorem cls_of_sane {nif : Nif} {m : AgpsStateMachine} (h : Sane nif m) (hne : nif ≠ .ds) :
    m.cls = .agpsStateMachine := by
  rw [h.cls]
  cases nif with
  | agnss => rfl
  | internet => rfl
  | ds => exact absurd rfl hne

/-- New entries that do not concern any connection. -/
theorem HistoryOk.congr {s t : AgpsSystem} (h : HistoryOk s) (hsm : ∀ nif, t.sm nif = s.sm nif)
    (hlog : ∀ nif, nif ≠ .ds → connRequested nif t.log = connRequested nif s.log) :
    HistoryOk t where
  missing := fun nif hne hnone => by
    rw [hlog nif hne]
    exact h.missing nif hne ((hsm nif).symm.trans hnone)
  conn := fun nif m hne hm => by
    rw [hlog nif hne]
    exact h.conn nif m hne ((hsm nif).symm.trans hm)

theorem HistoryOk.created {env : AgpsEnv} {s s' : AgpsSystem} (h : HistoryOk s)
    (hcreated : Created env s s') :
    HistoryOk s' := by
  obtain ⟨outs, hlog, -⟩ := hcreated.log
  have hsame : ∀ nif, connRequested nif s'.log = connRequested nif s.log := fun nif => by
    rw [hlog, connRequested_append, foldl_connEntry_other (by simp)]
  refine ⟨fun nif hne hnone => ?_, fun nif m hne hm => ?_⟩ <;> rw [hsame]
  · rcases hcreated.sm nif with hsm | ⟨hsm, -⟩
    · exact h.missing nif hne (hsm.symm.trans hnone)
    · exact h.missing nif hne hsm
  · rcases hcreated.sm nif with hsm | ⟨hsm, -⟩
    · exact h.conn nif m hne (hsm.symm.trans hm)
    · rw [h.missing nif hne hsm]
      exact fun h => by cases h

/-- The history after one machine ran, for that machine and for the others. -/
theorem connRequested_runSm (s : AgpsSystem) (entry : AgpsLogEntry) (nif other : Nif)
    (r : AgpsStateMachine × List AgpsOutput) :
    connRequested other ((s.note entry).runSm nif r).log
      = if other = nif then connOuts (connEntry nif (connRequested nif s.log) entry) r.2
        else connEntry other (connRequested other s.log) entry := by
  rw [log_runSm, log_note, List.append_assoc, connRequested_append, List.foldl_append,
    List.foldl_cons, List.foldl_nil]
  split
  · rename_i heq
    rw [heq, foldl_connEntry_self]
  · rename_i hne
    exact foldl_connEntry_other (fun h => hne (Option.some.inj h).symm) _ _

/-- A machine ran, and its entry of the history concerns no other machine. -/
theorem HistoryOk.runSm {s : AgpsSystem} (h : HistoryOk s) {entry : AgpsLogEntry} {nif : Nif}
    {r : AgpsStateMachine × List AgpsOutput}
    (hentry : ∀ other b, other ≠ nif → connEntry other b entry = b)
    (hr : nif ≠ .ds → ConnOk r.1 (connOuts (connEntry nif (connRequested nif s.log) entry) r.2)) :
    HistoryOk ((s.note entry).runSm nif r) := by
  refine ⟨fun other hne hnone => ?_, fun other m hne hm => ?_⟩ <;> rw [connRequested_runSm] <;>
    by_cases heq : other = nif
  · subst heq
    rw [sm_runSm_self] at hnone
    cases hnone
  · rw [sm_runSm_of_ne _ heq] at hnone
    rw [if_neg heq, hentry other _ heq]
    exact h.missing other hne hnone
  · subst heq
    rw [sm_runSm_self] at hm
    cases hm
    rw [if_pos rfl]
    exact hr hne
  · rw [sm_runSm_of_ne _ heq] at hm
    rw [if_neg heq, hentry other _ heq]
    exact h.conn other m hne hm

/-- A modem restart sends nothing to the framework. -/
theorem connRequested_handleModemSSR (s : AgpsSystem) (env : AgpsEnv) (nif : Nif) :
    connRequested nif (s.handleModemSSR env).log = connRequested nif s.log := by
  obtain ⟨outs, hlog, -⟩ := log_handleModemSSR s env
  rw [hlog, connRequested_append, foldl_connEntry_other (by simp)]

/-- Every step that meets the condition keeps the invariant. -/
theorem ConnInv.step {s t : AgpsSystem} {i : AgpsCall × AgpsEnv} (h : ConnInv s)
    (hok : s.ConnStepOk i) (ht : s.step i = some t) : ConnInv t := by
  obtain ⟨call, env⟩ := i
  refine ⟨?_, sane_step h.sane ht⟩
  obtain ⟨s', hcreated, hdispatch⟩ := step_cases ht
  have hdequeue : HistoryOk (s.dequeue call) := h.toHistoryOk.congr (by simp) (by simp)
  have hs := hdequeue.created hcreated
  have hsane : ∀ nif m, s'.sm nif = some m → Sane nif m :=
    hcreated.forall sane_newSm fun nif m hm => h.sane nif m (by rwa [sm_dequeue] at hm)
  cases hdispatch with
  | idle => exact hs
  | requestNull =>
      refine hs.congr (fun _ => rfl) fun nif hne => ?_
      rw [log_emit, log_note, List.append_assoc, connRequested_append]
      rfl
  | request _ hsm =>
      refine hs.runSm (fun _ _ _ => rfl) fun hne => ?_
      exact (hs.conn _ _ hne hsm).subscribe (cls_of_sane (hsane _ _ hsm) hne)
        (hsane _ _ hsm).list env rfl
  | releaseNone =>
      refine hs.congr (fun _ => rfl) fun nif hne => ?_
      rw [log_emit, log_note, List.append_assoc, connRequested_append]
      rfl
  | release _ _ hsm hsub =>
      refine hs.runSm (fun _ _ _ => rfl) fun hne => ?_
      exact (hs.conn _ _ hne hsm).unsubscribe (cls_of_sane (hsane _ _ hsm) hne)
        (hsane _ _ hsm).list env _
  | report _ hsm apn bearer =>
      rename_i nif event m _
      refine hs.runSm (fun other b hne => ?_) fun hne => ?_
      · -- the entry of the report is about its own machine
        exact if_neg fun hcase => hne hcase.1.symm
      · have hconn := hs.conn nif m hne hsm
        have hcls := cls_of_sane (hsane nif m hsm) hne
        exact ConnOk.report (m := { m with mAPN := apn, mBearer := bearer }) hconn hcls env
          (by simp [connEntry])
  | modemSSR =>
      -- no base machine has a connection requested, so an empty list is no leak
      have hnone : ∀ nif, nif ≠ .ds →
          connRequested nif (s'.handleModemSSR env).log = false := fun nif hne => by
        obtain ⟨outs, hlog, -⟩ := hcreated.log
        rw [connRequested_handleModemSSR, hlog, connRequested_append,
          foldl_connEntry_other (by simp), log_dequeue]
        exact hok rfl nif hne
      exact ⟨fun nif hne _ => hnone nif hne, fun nif m hne _ hr => by
        rw [hnone nif hne] at hr; cases hr⟩
  | retry _ _ =>
      refine hs.congr (fun _ => rfl) fun nif hne => ?_
      rw [log_emit, connRequested_append]
      exact foldl_connEntry_other (fun h => hne (Option.some.inj h).symm) _ _

/-- A restart that is not allowed leaks a connection: the list of the machine is empty. -/
theorem connStepOk_of_noLeak {s t : AgpsSystem} {i : AgpsCall × AgpsEnv}
    (ht : s.step i = some t) (hleak : NoLeak t) : s.ConnStepOk i := by
  obtain ⟨call, env⟩ := i
  rintro rfl nif hne
  cases ht
  by_contra hrequested
  rw [Bool.not_eq_false] at hrequested
  obtain ⟨m, hm, sub, hsub, -⟩ := hleak nif hne (by rwa [connRequested_handleModemSSR])
  rw [sm_handleModemSSR, Option.map_eq_some_iff] at hm
  obtain ⟨m', -, rfl⟩ := hm
  cases hsub

/-- The exact condition: a run leaks no data connection in any state if and only if no modem restart
comes while a base machine has a connection requested.

The restart is the only event that empties a list without a release to the framework. Every other
one that takes away the last active subscriber, a denial included, either sends the release or is
the report that there is no connection any more. -/
theorem noLeak_iff_guarded (calls : List (AgpsCall × AgpsEnv)) :
    Along step NoLeak init calls ↔ Guarded step ConnStepOk init calls :=
  along_iff_guarded (I := ConnInv) (P := NoLeak) (fun _ hs => hs.noLeak)
    (fun _ _ _ hs hok ht => hs.step hok ht) (fun _ _ _ _ ht hleak => connStepOk_of_noLeak ht hleak)
    (fun _ i _ hnone hssr => by obtain ⟨call, env⟩ := i; cases hssr; cases hnone)
    calls init connInv_init

/-- A restart while the request of handle 1 is pending. -/
def restartWhilePending : List (AgpsCall × AgpsEnv) :=
  [(.createAgpsStateMachines, .supl), (.requestATL 1 locAgpsTypeSupl, .supl),
    (.handleModemSSR, .supl)]

/-- The AGNSS machine has asked for a connection and lists nobody. -/
theorem restartWhilePending_leaks :
    ∃ s m, run step init restartWhilePending = some s ∧ connRequested .agnss s.log = true ∧
      s.sm .agnss = some m ∧ ¬ ∃ sub ∈ m.mSubscriberList, sub.mIsInactive = false :=
  ⟨_, _, rfl, rfl, rfl, by decide⟩

end AgpsSystem

end LocHal.Gnss
