import LocHal.Gnss.AgpsLists

/-!
# `LocHal.Gnss.AgpsAgreement`: the state of a machine agrees with its subscriber list

`ListInv` is the invariant of one machine, as a relation of its class, its state and its list. It
adds the agreement to `ListOk`: a pending or acquired machine lists an active subscriber, a
releasing one lists an inactive one, and a released machine of the DS class lists active ones
only.

* `Agrees.subscribe`, `Agrees.unsubscribe` and `Agrees.report`: every event keeps it.
* `agrees_of_run`: the invariant after every run without a modem restart.
* `agreement_of_run`: the agreement in full, for every machine.

A modem restart empties the lists and keeps the states, so it breaks the agreement.

A machine handles an event in three steps: it changes its list, it changes its state, and it tells
somebody. `ListInv` is a relation of the class, the state and the list only, so the outputs do not
matter here, and neither do the answers of the data service client. That is why the result is for
every answer.

`ListOk` has what holds after a restart too: the handles of a list are different. The agreement is
what the other modules about the machines start from, whenever they need to know that somebody is
there to be told.
-/

set_option autoImplicit false

namespace LocHal.Gnss

open LabelledRun

namespace AgpsStateMachine

/-- The state agrees with the list. -/
structure ListInv (cls : AgpsClass) (st : AgpsState) (l : List AgpsSubscriber) : Prop
    extends ListOk cls st l where
  active : st = .pending ∨ st = .acquired → ∃ s ∈ l, s.mIsInactive = false
  inactive : st = .releasing → ∃ s ∈ l, s.mIsInactive = true
  releasedDs : st = .released → cls = .dsStateMachine → ∀ s ∈ l, s.mIsInactive = false

theorem ListInv.nil (cls : AgpsClass) : ListInv cls .released [] where
  toListOk := ListOk.nil cls (by simp)
  active := by simp
  inactive := by simp
  releasedDs := by simp

/-- The invariant of a machine. -/
def Agrees (m : AgpsStateMachine) : Prop := ListInv m.cls m.mState m.mSubscriberList

/-- A subscription keeps the invariant. The new subscriber is active. -/
theorem Agrees.subscribe {m : AgpsStateMachine} (h : Agrees m) (env : AgpsEnv)
    {sub : AgpsSubscriber} (hactive : sub.mIsInactive = false) :
    Agrees (m.processAgpsEventSubscribe env sub).1 := by
  have hok := h.toListOk.subscribe env hactive
  obtain ⟨st, r, heq, hst⟩ := processAgpsEventSubscribe_eq m env sub h.valid
  rw [heq] at hok ⊢
  have hold : ∀ s ∈ m.mSubscriberList, s ∈ (m.addSubscriber sub).mSubscriberList := fun s hs =>
    mem_addSubscriber.mpr (Or.inl hs)
  rcases hst with ⟨hreleased, hst⟩ | ⟨hnot, rfl⟩
  · -- in the released state every listed subscriber is active, the new one included
    have hall : ∀ s ∈ (m.addSubscriber sub).mSubscriberList, s.mIsInactive = false :=
      fun s hs => by
        rcases mem_addSubscriber.mp hs with hs | ⟨rfl, -⟩
        · cases hcls : m.cls with
          | agpsStateMachine => rw [h.releasedBase hreleased hcls] at hs; cases hs
          | dsStateMachine => exact h.releasedDs hreleased hcls s hs
        · exact hactive
    rcases hst with rfl | ⟨rfl, -⟩
    · obtain ⟨s, hs, -⟩ := exists_mem_addSubscriber m sub
      exact ⟨hok, fun _ => ⟨s, hs, hall s hs⟩, by simp, by simp⟩
    · exact ⟨hok, by simp, by simp, fun _ _ => hall⟩
  · exact ⟨hok,
      fun hst => (h.active hst).imp fun s hs => ⟨hold s hs.1, hs.2⟩,
      fun hst => (h.inactive hst).imp fun s hs => ⟨hold s hs.1, hs.2⟩,
      fun hst => absurd hst hnot⟩

/-- An unsubscription of a listed subscriber keeps the invariant. -/
theorem Agrees.unsubscribe {m : AgpsStateMachine} (h : Agrees m) (env : AgpsEnv)
    {sub : AgpsSubscriber} (hsub : sub ∈ m.mSubscriberList) :
    Agrees (m.processAgpsEventUnsubscribe env sub).1 := by
  by_cases hreleased : m.mState = .released
  · rw [processAgpsEventUnsubscribe_released hreleased]
    exact h
  · have hok := h.toListOk.unsubscribe env hsub
    obtain ⟨-, -, hinactive⟩ := h.toListOk.unsubscribed hsub
    rw [processAgpsEventUnsubscribe_eq m env sub h.valid hreleased] at hok ⊢
    refine ⟨hok, fun hst => ?_, fun hst => ?_, fun hst _ => ?_⟩ <;>
      dsimp only [unsubscribedState] at hst ⊢
    · split at hst
      · simp at hst
      · split at hst
        · simp at hst
        · rename_i hcase
          have hany :
              ¬ ((unsubscribed sub m.mSubscriberList).any fun s => !s.mIsInactive) = false :=
            fun hany => hcase ⟨by rcases hst with hst | hst <;> simp [hst], hany⟩
          simpa using hany
    · split at hst
      · cases hst
      · rename_i hnil
        split at hst
        · rename_i hcase
          obtain ⟨t, ht⟩ := List.exists_mem_of_ne_nil _ hnil
          have hnone : ∀ s ∈ unsubscribed sub m.mSubscriberList, s.mIsInactive = true := by
            simpa using hcase.2
          exact ⟨t, ht, hnone t ht⟩
        · exact hinactive (h.inactive hst)
    · split at hst
      · rename_i hnil
        rw [hnil]
        simp
      · split at hst
        · cases hst
        · exact absurd hst hreleased

/-- A report keeps the invariant. -/
theorem Agrees.report {m : AgpsStateMachine} (h : Agrees m) (env : AgpsEnv) (event : AgpsEvent) :
    Agrees (m.processReport env event).1 := by
  have hok := h.toListOk.report env event
  rcases processReport_cases m env event with heq | ⟨hst, -, heq⟩ | ⟨notified, -, heq⟩ |
    ⟨-, -, heq⟩ <;> rw [heq] at hok ⊢
  · exact h
  · rw [processAgpsEventGranted_eq hst] at hok ⊢
    exact ⟨hok, fun _ => h.active (Or.inl hst), by simp, by simp⟩
  · obtain ⟨r, hclear⟩ := notifyAndClear_eq m notified
    rw [hclear]
    exact ListInv.nil _
  · rcases finishReleasing_fst m env with ⟨hany, r, hfinish⟩ | ⟨-, hfinish⟩ <;>
      rw [hfinish] at hok ⊢
    · have hactive : ∃ s ∈ m.mSubscriberList, s.mIsInactive = false := by
        simpa [anyActiveSubscribers] using hany
      obtain ⟨s, hs, hin⟩ := hactive
      exact ⟨hok, fun _ => ⟨s, List.mem_filter.mpr ⟨hs, by simp [hin]⟩, hin⟩, by simp, by simp⟩
    · exact ListInv.nil _

end AgpsStateMachine

namespace AgpsSystem

open AgpsStateMachine (Agrees ListInv)
open AgpsManager (newSm)

theorem agrees_newSm (nif : Nif) : Agrees (newSm nif) := by
  cases nif <;> exact ListInv.nil _

/-- Every call but a modem restart keeps the invariant of every machine. -/
theorem agrees_step {s t : AgpsSystem} {call : AgpsCall} {env : AgpsEnv}
    (hssr : call ≠ .handleModemSSR) (hs : ∀ nif m, s.sm nif = some m → Agrees m)
    (h : s.step (call, env) = some t) : ∀ nif m, t.sm nif = some m → Agrees m :=
  machine_invariant (P := fun _ m => Agrees m)
    agrees_newSm
    (fun env _ _ _ hm => hm.subscribe env rfl)
    (fun _ env _ _ _ hm hsub =>
      hm.unsubscribe env (AgpsStateMachine.mem_of_getSubscriber hsub).1)
    (fun _ env event m apn bearer hm =>
      Agrees.report (m := { m with mAPN := apn, mBearer := bearer }) hm env event)
    (fun hcall => absurd hcall hssr) hs h

/-- The invariant after every run without a modem restart. -/
theorem agrees_of_run {calls : List (AgpsCall × AgpsEnv)} {s : AgpsSystem}
    (hssr : ∀ i ∈ calls, i.1 ≠ .handleModemSSR) (hrun : run step init calls = some s) :
    ∀ nif m, s.sm nif = some m → Agrees m := by
  have hguard : Guarded step (fun _ i => i.1 ≠ .handleModemSSR) init calls :=
    guarded_of_forall init fun i hi _ => hssr i hi
  exact Guarded.run_invariant (P := fun s => ∀ nif m, AgpsSystem.sm s nif = some m → Agrees m)
    (fun _ ⟨_, _⟩ _ hs hok ht => agrees_step hok hs ht) calls init s
    (fun nif m hm => by cases nif <;> cases hm) hguard hrun

/-- The state of every machine agrees with its subscriber list after every sequence of calls without
a modem restart, for any handles and any results of the data service client.

The restart is left out because it empties the lists and leaves the states as they are. The DS
machine differs from the two others in one clause: it stays in RELEASED while it waits for its next
attempt, with active subscribers in its list. -/
theorem agreement_of_run (calls : List (AgpsCall × AgpsEnv)) (s : AgpsSystem)
    (hssr : ∀ i ∈ calls, i.1 ≠ .handleModemSSR) (hrun : run step init calls = some s)
    (nif : Nif) (m : AgpsStateMachine) (hsm : s.sm nif = some m) :
    (m.mState = .pending ∨ m.mState = .acquired →
      ∃ sub ∈ m.mSubscriberList, sub.mIsInactive = false) ∧
    (m.mState = .releasing → ∃ sub ∈ m.mSubscriberList, sub.mIsInactive = true) ∧
    (m.mSubscriberList.map AgpsSubscriber.mConnHandle).Nodup ∧
    (m.mState = .released → m.cls = .agpsStateMachine → m.mSubscriberList = []) ∧
    (m.mState = .released → m.cls = .dsStateMachine →
      ∀ sub ∈ m.mSubscriberList, sub.mIsInactive = false) := by
  have h := agrees_of_run hssr hrun nif m hsm
  exact ⟨h.active, h.inactive, h.nodup, h.releasedBase, h.releasedDs⟩

/-- Two subscribers of the AGNSS machine, one of them waiting for the close. -/
theorem agreement_of_run_two_subscribers :
    ∃ s m, run step init
        [(.createAgpsStateMachines, .supl), (.requestATL 1 locAgpsTypeSupl, .supl),
          (.requestATL 2 locAgpsTypeSuplEs, .supl), (.releaseATL 2, .supl)] = some s ∧
      s.sm .agnss = some m ∧ m.mSubscriberList.length = 2 ∧
      (m.mState = .pending ∨ m.mState = .acquired →
        ∃ sub ∈ m.mSubscriberList, sub.mIsInactive = false) :=
  ⟨_, _, rfl, rfl, rfl, (agreement_of_run
    [(.createAgpsStateMachines, .supl), (.requestATL 1 locAgpsTypeSupl, .supl),
      (.requestATL 2 locAgpsTypeSuplEs, .supl), (.releaseATL 2, .supl)] _
    (by decide) rfl .agnss _ rfl).1⟩

end AgpsSystem

end LocHal.Gnss
