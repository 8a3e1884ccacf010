import LocHal.Gnss.AgpsStep
import Mathlib.Data.List.Nodup

/-!
# `LocHal.Gnss.AgpsLists`: the subscriber lists in every run

`ListOk` is what every call keeps, a modem restart included: the handles of a list are distinct,
an inactive subscriber waits for the close, and a released machine of the base class has an empty
list. The order of the facts matters: only a subscriber that waits for the close can become
inactive, so an unsubscription never deletes an inactive subscriber.

`Sane` adds that the machine at each member has the class and the type of that member.
`sane_step` says that every step keeps it.

`Lists` and `HoldsActive` are the terms of the later modules: the machine at a member lists a
handle, or has it as an active subscriber. `eq_ds_of_sane` tells the machines apart by their class,
and `not_holdsActive_unsubscribe` says what a release achieves.
-/

set_option autoImplicit false

namespace LocHal.Gnss

open LabelledRun

namespace AgpsStateMachine

variable {cls : AgpsClass} {st : AgpsState} {l : List AgpsSubscriber}

/-! ### The subscriber list -/

/-- The machine holds the handle as an active subscriber. -/
def HoldsActive (m : AgpsStateMachine) (h : ConnHandle) : Prop :=
  ∃ sub ∈ m.mSubscriberList, sub.mConnHandle = h ∧ sub.mIsInactive = false

/-- Distinct handles: a handle determines its subscriber. -/
theorem eq_of_handle_eq {s t : AgpsSubscriber} (hnodup : (l.map AgpsSubscriber.mConnHandle).Nodup)
    (hs : s ∈ l) (ht : t ∈ l) (h : s.mConnHandle = t.mConnHandle) : s = t :=
  List.inj_on_of_nodup_map hnodup hs ht h

theorem nodup_addSubscriber {m : AgpsStateMachine} (sub : AgpsSubscriber)
    (hnodup : (m.mSubscriberList.map AgpsSubscriber.mConnHandle).Nodup) :
    ((m.addSubscriber sub).mSubscriberList.map AgpsSubscriber.mConnHandle).Nodup := by
  unfold addSubscriber
  split
  · exact hnodup
  · rename_i hany
    simp only [List.any_eq_true, decide_eq_true_eq, not_exists, not_and] at hany
    rw [List.map_append, List.nodup_append]
    refine ⟨hnodup, List.nodup_singleton _, fun a ha b hb heq => ?_⟩
    obtain ⟨t, ht, rfl⟩ := List.mem_map.mp ha
    rw [List.map_singleton, List.mem_singleton] at hb
    exact hany t ht (heq.trans hb)

/-- Marking a subscriber keeps the handles. -/
theorem map_handle_setInactive (h : ConnHandle) (l : List AgpsSubscriber) :
    (setInactive h l).map AgpsSubscriber.mConnHandle = l.map AgpsSubscriber.mConnHandle := by
  induction l with
  | nil => rfl
  | cons s rest ih =>
      unfold setInactive
      split
      · rfl
      · rw [List.map_cons, List.map_cons, ih]

/-- A subscriber of the marked list was there, or it is the marked one. -/
theorem mem_of_mem_setInactive {h : ConnHandle} {s : AgpsSubscriber} :
    s ∈ setInactive h l → s ∈ l ∨
      ∃ t ∈ l, t.mConnHandle = h ∧ s = { t with mIsInactive := true } := by
  induction l with
  | nil => exact Or.inl
  | cons t rest ih =>
      unfold setInactive
      split
      · rename_i hth
        rw [List.mem_cons]
        rintro (rfl | hs)
        · exact Or.inr ⟨t, List.mem_cons_self, hth, rfl⟩
        · exact Or.inl (List.mem_cons_of_mem _ hs)
      · rw [List.mem_cons]
        rintro (rfl | hs)
        · exact Or.inl List.mem_cons_self
        · rcases ih hs with hs | ⟨u, hu, huh, rfl⟩
          · exact Or.inl (List.mem_cons_of_mem _ hs)
          · exact Or.inr ⟨u, List.mem_cons_of_mem _ hu, huh, rfl⟩

/-- A subscriber with another handle stays as it is. -/
theorem mem_setInactive_of_ne {h : ConnHandle} {s : AgpsSubscriber} (hs : s ∈ l)
    (hne : s.mConnHandle ≠ h) : s ∈ setInactive h l := by
  induction l with
  | nil => cases hs
  | cons t rest ih =>
      unfold setInactive
      rcases List.mem_cons.mp hs with rfl | hs
      · rw [if_neg hne]
        exact List.mem_cons_self
      · split
        · exact List.mem_cons_of_mem _ hs
        · exact List.mem_cons_of_mem _ (ih hs)

/-- The subscriber with the handle is inactive afterwards, when handles are distinct. -/
theorem inactive_of_mem_setInactive {h : ConnHandle} {s : AgpsSubscriber}
    (hnodup : (l.map AgpsSubscriber.mConnHandle).Nodup) (hs : s ∈ setInactive h l)
    (hsh : s.mConnHandle = h) : s.mIsInactive = true := by
  induction l with
  | nil => cases hs
  | cons t rest ih =>
      rw [List.map_cons, List.nodup_cons] at hnodup
      unfold setInactive at hs
      split at hs
      · rename_i hth
        rcases List.mem_cons.mp hs with rfl | hs
        · rfl
        · exact absurd (List.mem_map.mpr ⟨s, hs, hsh.trans hth.symm⟩) hnodup.1
      · rename_i hth
        rcases List.mem_cons.mp hs with rfl | hs
        · exact absurd hsh hth
        · exact ih hnodup.2 hs

/-! ### The invariant of one list -/

/-- What every call keeps of the state and the list of a machine. -/
structure ListOk (cls : AgpsClass) (st : AgpsState) (l : List AgpsSubscriber) : Prop where
  valid : st ≠ .invalid
  nodup : (l.map AgpsSubscriber.mConnHandle).Nodup
  waits : ∀ s ∈ l, s.mIsInactive = true → s.mWaitForCloseComplete = true
  releasedBase : st = .released → cls = .agpsStateMachine → l = []

theorem ListOk.nil (cls : AgpsClass) (hvalid : st ≠ .invalid) : ListOk cls st [] where
  valid := hvalid
  nodup := List.nodup_nil
  waits := by simp
  releasedBase := fun _ _ => rfl

/-- Fewer subscribers, in a state that is not released. -/
theorem ListOk.sublist {st' : AgpsState} {l' : List AgpsSubscriber} (h : ListOk cls st l)
    (hsub : l'.Sublist l) (hvalid : st' ≠ .invalid) (hreleased : st' ≠ .released) :
    ListOk cls st' l' where
  valid := hvalid
  nodup := h.nodup.sublist (hsub.map _)
  waits := fun s hs => h.waits s (hsub.subset hs)
  releasedBase := fun hst => absurd hst hreleased

/-- A subscription. The new subscriber is active. -/
theorem ListOk.subscribe {m : AgpsStateMachine} (h : ListOk m.cls m.mState m.mSubscriberList)
    (env : AgpsEnv) {sub : AgpsSubscriber} (hactive : sub.mIsInactive = false) :
    ListOk m.cls (m.processAgpsEventSubscribe env sub).1.mState
      (m.processAgpsEventSubscribe env sub).1.mSubscriberList := by
  obtain ⟨st, r, heq, hst⟩ := processAgpsEventSubscribe_eq m env sub h.valid
  rw [heq]
  refine ⟨?_, nodup_addSubscriber sub h.nodup, fun s hs hin => ?_, fun hreleased hbase => ?_⟩
  · rcases hst with ⟨-, rfl | ⟨rfl, -⟩⟩ | ⟨-, rfl⟩
    · simp
    · simp
    · exact h.valid
  · rcases mem_addSubscriber.mp hs with hs | ⟨rfl, -⟩
    · exact h.waits s hs hin
    · rw [hactive] at hin; cases hin
  · rcases hst with ⟨-, rfl | ⟨-, hds⟩⟩ | ⟨hne, rfl⟩
    · cases hreleased
    · rw [hds] at hbase; cases hbase
    · exact absurd hreleased hne

/-- The list after an unsubscription. An inactive subscriber that was there is still there:
marking keeps it, and the deleted subscriber does not wait for the close. -/
theorem ListOk.unsubscribed {sub : AgpsSubscriber} (h : ListOk cls st l) (hsub : sub ∈ l) :
    ((unsubscribed sub l).map AgpsSubscriber.mConnHandle).Nodup ∧
    (∀ s ∈ unsubscribed sub l, s.mIsInactive = true → s.mWaitForCloseComplete = true) ∧
    ((∃ s ∈ l, s.mIsInactive = true) → ∃ s ∈ unsubscribed sub l, s.mIsInactive = true) := by
  unfold AgpsStateMachine.unsubscribed
  split
  · rename_i hwait
    refine ⟨by rw [map_handle_setInactive]; exact h.nodup, fun s hs hin => ?_, ?_⟩
    · rcases mem_of_mem_setInactive hs with hs | ⟨t, ht, hth, rfl⟩
      · exact h.waits s hs hin
      · rw [eq_of_handle_eq h.nodup ht hsub hth]
        exact hwait
    · rintro ⟨s, hs, hin⟩
      by_cases hsh : s.mConnHandle = sub.mConnHandle
      · have hmem : s.mConnHandle ∈ (setInactive sub.mConnHandle l).map
            AgpsSubscriber.mConnHandle := by
          rw [map_handle_setInactive]
          exact List.mem_map_of_mem hs
        obtain ⟨t, ht, hth⟩ := List.mem_map.mp hmem
        refine ⟨t, ht, inactive_of_mem_setInactive h.nodup ht (hth.trans hsh)⟩
      · exact ⟨s, mem_setInactive_of_ne hs hsh, hin⟩
  · rename_i hwait
    refine ⟨?_, fun s hs hin => h.waits s (List.mem_filter.mp hs).1 hin, ?_⟩
    · exact h.nodup.sublist (List.filter_sublist.map _)
    · rintro ⟨s, hs, hin⟩
      refine ⟨s, List.mem_filter.mpr ⟨hs, decide_eq_true fun hsh => hwait ?_⟩, hin⟩
      rw [← eq_of_handle_eq h.nodup hs hsub hsh]
      exact h.waits s hs hin

/-- An unsubscription of a listed subscriber. -/
theorem ListOk.unsubscribe {m : AgpsStateMachine} (h : ListOk m.cls m.mState m.mSubscriberList)
    (env : AgpsEnv) {sub : AgpsSubscriber} (hsub : sub ∈ m.mSubscriberList) :
    ListOk m.cls (m.processAgpsEventUnsubscribe env sub).1.mState
      (m.processAgpsEventUnsubscribe env sub).1.mSubscriberList := by
  by_cases hreleased : m.mState = .released
  · rw [processAgpsEventUnsubscribe_released hreleased]
    exact h
  · rw [processAgpsEventUnsubscribe_eq m env sub h.valid hreleased]
    obtain ⟨hnodup, hwaits, -⟩ := h.unsubscribed hsub
    refine ⟨?_, hnodup, hwaits, ?_⟩ <;> dsimp only [unsubscribedState] <;> split
    · simp
    · split
      · simp
      · exact h.valid
    · exact fun _ _ => by assumption
    · split
      · exact fun hst => by cases hst
      · exact fun hst => absurd hst hreleased

/-- An unsubscription outside the released state leaves no active subscriber with the handle. -/
theorem not_holdsActive_unsubscribe {m : AgpsStateMachine} (sub : AgpsSubscriber)
    (h : ListOk m.cls m.mState m.mSubscriberList) (hreleased : m.mState ≠ .released)
    (env : AgpsEnv) :
    ¬ (m.processAgpsEventUnsubscribe env sub).1.HoldsActive sub.mConnHandle := by
  rw [processAgpsEventUnsubscribe_eq m env sub h.valid hreleased]
  rintro ⟨t, ht, hth, hactive⟩
  unfold AgpsStateMachine.unsubscribed at ht
  split at ht
  · have hinactive := inactive_of_mem_setInactive h.nodup ht hth
    rw [hactive] at hinactive
    cases hinactive
  · simp [hth] at ht

/-- A report. -/
theorem ListOk.report {m : AgpsStateMachine} (h : ListOk m.cls m.mState m.mSubscriberList)
    (env : AgpsEnv) (event : AgpsEvent) :
    ListOk m.cls (m.processReport env event).1.mState
      (m.processReport env event).1.mSubscriberList := by
  rcases processReport_cases m env event with heq | ⟨hst, -, heq⟩ | ⟨notified, -, heq⟩ |
    ⟨-, -, heq⟩ <;> rw [heq]
  · exact h
  · rw [processAgpsEventGranted_eq hst]
    exact h.sublist (List.Sublist.refl _) (by simp) (by simp)
  · obtain ⟨r, hclear⟩ := notifyAndClear_eq m notified
    rw [hclear]
    exact ListOk.nil _ (by simp)
  · rcases finishReleasing_fst m env with ⟨-, r, hfinish⟩ | ⟨-, hfinish⟩ <;> rw [hfinish]
    · exact h.sublist List.filter_sublist (by simp) (by simp)
    · exact ListOk.nil _ (by simp)

/-! ### Class and type -/

/-- No event changes the class or the type. -/
theorem class_subscribe (m : AgpsStateMachine) (env : AgpsEnv) (sub : AgpsSubscriber)
    (hvalid : m.mState ≠ .invalid) :
    (m.processAgpsEventSubscribe env sub).1.cls = m.cls ∧
      (m.processAgpsEventSubscribe env sub).1.mAgpsType = m.mAgpsType := by
  obtain ⟨st, r, heq, -⟩ := processAgpsEventSubscribe_eq m env sub hvalid
  rw [heq]
  exact ⟨rfl, rfl⟩

theorem class_unsubscribe (m : AgpsStateMachine) (env : AgpsEnv) (sub : AgpsSubscriber)
    (hvalid : m.mState ≠ .invalid) :
    (m.processAgpsEventUnsubscribe env sub).1.cls = m.cls ∧
      (m.processAgpsEventUnsubscribe env sub).1.mAgpsType = m.mAgpsType := by
  by_cases hreleased : m.mState = .released
  · rw [processAgpsEventUnsubscribe_released hreleased]
    exact ⟨rfl, rfl⟩
  · rw [processAgpsEventUnsubscribe_eq m env sub hvalid hreleased]
    exact ⟨rfl, rfl⟩

theorem class_report (m : AgpsStateMachine) (env : AgpsEnv) (event : AgpsEvent) :
    (m.processReport env event).1.cls = m.cls ∧
      (m.processReport env event).1.mAgpsType = m.mAgpsType := by
  rcases processReport_cases m env event with heq | ⟨hst, -, heq⟩ | ⟨notified, -, heq⟩ |
    ⟨-, -, heq⟩ <;> rw [heq]
  · exact ⟨rfl, rfl⟩
  · rw [processAgpsEventGranted_eq hst]
    exact ⟨rfl, rfl⟩
  · obtain ⟨r, hclear⟩ := notifyAndClear_eq m notified
    rw [hclear]
    exact ⟨rfl, rfl⟩
  · rcases finishReleasing_fst m env with ⟨-, r, hfinish⟩ | ⟨-, hfinish⟩ <;> rw [hfinish]
    · exact ⟨rfl, rfl⟩
    · exact ⟨rfl, rfl⟩

end AgpsStateMachine

open AgpsManager (newSm)

/-- The machine at a member of the manager. -/
structure AgpsStateMachine.Sane (nif : Nif) (m : AgpsStateMachine) : Prop where
  cls : m.cls = (newSm nif).cls
  type : m.mAgpsType = (newSm nif).mAgpsType
  list : ListOk m.cls m.mState m.mSubscriberList

namespace AgpsSystem

open AgpsStateMachine (Sane ListOk)

/-- The machine at `nif` lists the handle. -/
def Lists (s : AgpsSystem) (nif : Nif) (h : ConnHandle) : Prop :=
  ∃ m, s.sm nif = some m ∧ ∃ sub ∈ m.mSubscriberList, sub.mConnHandle = h

/-- The machine at `nif` holds the handle as an active subscriber. -/
def HoldsActive (s : AgpsSystem) (nif : Nif) (h : ConnHandle) : Prop :=
  ∃ m, s.sm nif = some m ∧ m.HoldsActive h

/-- `releaseATL` searches every machine. -/
theorem Lists.mem_holders {s : AgpsSystem} {nif : Nif} {h : ConnHandle} (hlists : s.Lists nif h) :
    nif ∈ s.mgr.holders h := by
  obtain ⟨m, hm, sub, hsub, hsubh⟩ := hlists
  refine List.mem_filter.mpr ⟨by cases nif <;> simp, ?_⟩
  rw [show s.mgr.sm nif = some m from hm]
  show (m.getSubscriber h).isSome = true
  unfold AgpsStateMachine.getSubscriber
  rw [List.find?_isSome]
  exact ⟨sub, hsub, decide_eq_true hsubh⟩

theorem sane_newSm (nif : Nif) : Sane nif (newSm nif) := by
  cases nif <;> exact ⟨rfl, rfl, ListOk.nil _ (by decide)⟩

/-- Every call keeps the machines sane. -/
theorem sane_step {s t : AgpsSystem} {call : AgpsCall} {env : AgpsEnv}
    (hs : ∀ nif m, s.sm nif = some m → Sane nif m) (h : s.step (call, env) = some t) :
    ∀ nif m, t.sm nif = some m → Sane nif m := by
  refine machine_invariant (P := Sane) sane_newSm (fun env ty ch m hm => ?_)
    (fun nif env ch m sub hm hsub => ?_) (fun nif env event m apn bearer hm => ?_)
    (fun _ nif m hm => ?_) hs h
  · have hclass := AgpsStateMachine.class_subscribe m env (newSubscriber ch ty) hm.list.valid
    refine ⟨hclass.1.trans hm.cls, hclass.2.trans hm.type, ?_⟩
    rw [hclass.1]
    exact hm.list.subscribe env rfl
  · have hclass := AgpsStateMachine.class_unsubscribe m env sub hm.list.valid
    refine ⟨hclass.1.trans hm.cls, hclass.2.trans hm.type, ?_⟩
    rw [hclass.1]
    exact hm.list.unsubscribe env (AgpsStateMachine.mem_of_getSubscriber hsub).1
  · have hclass := AgpsStateMachine.class_report { m with mAPN := apn, mBearer := bearer } env event
    refine ⟨hclass.1.trans hm.cls, hclass.2.trans hm.type, ?_⟩
    rw [hclass.1]
    exact ListOk.report (m := { m with mAPN := apn, mBearer := bearer }) hm.list env event
  · exact ⟨hm.cls, hm.type, ListOk.nil _ hm.list.valid⟩

/-- Only the machine at `ds` is of the DS class. -/
theorem eq_ds_of_sane {nif : Nif} {m : AgpsStateMachine} (hsane : Sane nif m)
    (hcls : m.cls = .dsStateMachine) : nif = .ds := by
  rw [hsane.cls] at hcls
  cases nif with
  | ds => rfl
  | _ => cases hcls

/-- A machine that is not released was there before the call. -/
theorem sm_of_created {s s' : AgpsSystem} {nif : Nif} {env : AgpsEnv} {call : AgpsCall}
    {m : AgpsStateMachine} (hcreated : Created env (s.dequeue call) s')
    (hsm : s'.sm nif = some m) (hst : m.mState ≠ .released) : s.sm nif = some m := by
  rcases hcreated.sm nif with hold | ⟨-, hnew⟩
  · rw [sm_dequeue] at hold
    exact hold.symm.trans hsm
  · cases hnew.symm.trans hsm
    cases nif <;> exact absurd rfl hst

/-- The machines before the first call. -/
theorem sane_init (nif : Nif) (m : AgpsStateMachine) (hm : init.sm nif = some m) :
    Sane nif m := by
  cases nif <;> cases hm

end AgpsSystem

end LocHal.Gnss
