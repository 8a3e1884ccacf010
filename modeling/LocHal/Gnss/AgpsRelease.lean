import LocHal.Gnss.AgpsAgreement

/-!
# `LocHal.Gnss.AgpsRelease`: when a release is answered as a close

`watch h` reads the history and follows the latest release of the handle `h`: which machine it
reached, whether `h` has been requested again, and how many opens and closes `h` has been told
of since. `ReleaseAnswered` is the property: no open before the next request, and exactly one
close once the subscriber has left the list.

A denial of a pending machine is told to every subscriber as a failed open, the inactive ones
included, and deletes them without a close. `ReleaseStepOk` excludes it, and it excludes the
release of a handle that two machines list, since `releaseATL` reaches the first of them only.

The invariant is `WatchedList`: while the released subscriber is listed it is inactive and has
not been told of a close, and a machine that the release did not reach does not list the handle
before the next request. `release_answered` is the result over every run.

`watchEntry` is a function of one entry of the history, so the watch of a history is a fold, and the
outputs of a machine can be folded in one go. What a machine does to the watch is said for its
outputs alone: a list of opens sets the flag (`foldl_watch_opens`), a list of closes counts up
(`foldl_watch_closes`), and outputs that are not about the handle change nothing.

`WatchStep` relates the watch and the list of a machine before an event to the ones after it, and
each event has its lemma (`watchStep_report`, `watchStep_subscribe_self`,
`watchStep_unsubscribe_self`, and the ones for other handles). The system adds that a call runs one
machine, and that the machines that it does not run keep their lists (`watched_runSm`).
-/

set_option autoImplicit false

namespace LocHal.Gnss

open LabelledRun

/-- What has happened since the latest release of a handle. -/
structure ReleaseWatch where
  sm : Nif
  beforeRequest : Bool
  opens : Nat
  closes : Nat
  deriving DecidableEq, Repr

/-- The watch of `h` after the machine at `nif` has told the subscribers in `closed` of a
close. -/
def ReleaseWatch.told (r : ReleaseWatch) (nif : Nif) (h : ConnHandle)
    (closed : List AgpsSubscriber) : ReleaseWatch :=
  { r with closes :=
      r.closes + if r.sm = nif ∧ ∃ sub ∈ closed, sub.mConnHandle = h then 1 else 0 }

/-- The effect of one entry of the history. A request of a handle that its machine does not list
any more brings a new subscriber, so nothing is left to watch. -/
def watchEntry (h : ConnHandle) (w : Option ReleaseWatch) : AgpsLogEntry → Option ReleaseWatch
  | .releaseATL connHandle (nif :: _) =>
      if connHandle = h then some ⟨nif, true, 0, 0⟩ else w
  | .requestATL connHandle _ _ sm listed =>
      if connHandle = h then
        w.bind fun r => if sm = some r.sm ∧ listed = false then none
          else some { r with beforeRequest := false }
      else w
  | .output _ (.atlOpenStatusCb connHandle _ _ _ _) =>
      if connHandle = h then
        w.map fun r => if r.beforeRequest then { r with opens := r.opens + 1 } else r
      else w
  | .output sm (.atlCloseStatusCb connHandle true) =>
      if connHandle = h then
        w.map fun r => if sm = some r.sm then { r with closes := r.closes + 1 } else r
      else w
  | _ => w

/-- The latest release of a handle in the history. -/
def watch (h : ConnHandle) (log : List AgpsLogEntry) : Option ReleaseWatch :=
  log.foldl (watchEntry h) none

namespace AgpsSystem

/-- Every released handle has been told of no open before its next request, and of exactly one close
once its subscriber has left the list. `watch` goes through the history and counts both from the
release of the handle to its next request. -/
def ReleaseAnswered (s : AgpsSystem) : Prop :=
  ∀ h r, watch h s.log = some r → r.opens = 0 ∧ (¬ s.Lists r.sm h → r.closes = 1)

/-- The condition on one step. A release is for a handle that at most one machine lists:
`releaseATL` stops at the first machine, and a subscriber in a second list would stay there and be
told of an open. And no failed open reaches a pending machine that lists an inactive subscriber:
`notifyAllSubscribers` tells the denial to all of them, and the inactive one waits for its close. -/
def ReleaseStepOk (s : AgpsSystem) (i : AgpsCall × AgpsEnv) : Prop :=
  (∀ h ∈ releaseOf i.1, (s.mgr.holders h).length ≤ 1) ∧
  ∀ report ∈ reportOf i.2 i.1, report.2 = .denied → ∀ m ∈ s.sm report.1, m.mState = .pending →
    ∀ sub ∈ m.mSubscriberList, sub.mIsInactive = false

instance (s : AgpsSystem) (i : AgpsCall × AgpsEnv) : Decidable (s.ReleaseStepOk i) :=
  have := Option.decidableForallMem (p := fun h => (s.mgr.holders h).length ≤ 1) (releaseOf i.1)
  inferInstanceAs (Decidable (_ ∧ ∀ report ∈ reportOf i.2 i.1, _ → _))

end AgpsSystem

/-! ### The outputs of one machine -/

variable {h : ConnHandle} {w : Option ReleaseWatch} {r : ReleaseWatch} {nif : Nif}

theorem watch_append (h : ConnHandle) (log log' : List AgpsLogEntry) :
    watch h (log ++ log') = log'.foldl (watchEntry h) (watch h log) :=
  List.foldl_append

/-- The output is not about the handle. -/
def AgpsOutput.NotAbout (h : ConnHandle) : AgpsOutput → Prop
  | .atlOpenStatusCb connHandle _ _ _ _ => connHandle ≠ h
  | .atlCloseStatusCb connHandle isSuccess => isSuccess = true → connHandle ≠ h
  | _ => True

/-- Outputs about other handles. -/
theorem foldl_watch_notAbout (sm : Option Nif) : ∀ outs : List AgpsOutput,
    (∀ o ∈ outs, o.NotAbout h) →
      (outs.map (AgpsLogEntry.output sm)).foldl (watchEntry h) w = w := by
  intro outs
  induction outs with
  | nil => intro _; rfl
  | cons o outs ih =>
      intro hall
      have ho : o.NotAbout h := hall o List.mem_cons_self
      have hstep : watchEntry h w (.output sm o) = w := by
        cases o with
        | atlOpenStatusCb connHandle isSuccess apn bearer type => exact if_neg ho
        | atlCloseStatusCb connHandle isSuccess =>
            cases isSuccess with
            | false => rfl
            | true => exact if_neg (ho rfl)
        | _ => rfl
      rw [List.map_cons, List.foldl_cons, hstep]
      exact ih fun o' ho' => hall o' (List.mem_cons_of_mem _ ho')

/-- A handle that is not watched. -/
theorem foldl_watch_none (sm : Option Nif) (outs : List AgpsOutput) :
    (outs.map (AgpsLogEntry.output sm)).foldl (watchEntry h) none = none := by
  induction outs with
  | nil => rfl
  | cons o outs ih =>
      have hstep : watchEntry h none (.output sm o) = none := by
        cases o with
        | atlOpenStatusCb connHandle isSuccess apn bearer type => exact ite_self _
        | atlCloseStatusCb connHandle isSuccess =>
            cases isSuccess with
            | false => rfl
            | true => exact ite_self _
        | _ => rfl
      rw [List.map_cons, List.foldl_cons, hstep, ih]

/-- Opens that go to other handles, or come after the next request. -/
theorem foldl_watch_opens (sm : Option Nif) (f : AgpsSubscriber → List AgpsOutput)
    (hf : ∀ sub, ∃ b apn bearer type,
      f sub = [.atlOpenStatusCb sub.mConnHandle b apn bearer type]) :
    ∀ l : List AgpsSubscriber, (r.beforeRequest = true → ∀ sub ∈ l, sub.mConnHandle ≠ h) →
      ((l.flatMap f).map (AgpsLogEntry.output sm)).foldl (watchEntry h) (some r) = some r := by
  intro l
  induction l with
  | nil => intro _; rfl
  | cons sub l ih =>
      intro hl
      obtain ⟨b, apn, bearer, type, heq⟩ := hf sub
      have hstep : watchEntry h (some r)
          (.output sm (.atlOpenStatusCb sub.mConnHandle b apn bearer type)) = some r := by
        show (if sub.mConnHandle = h then _ else some r) = some r
        by_cases hsub : sub.mConnHandle = h
        · have hafter : r.beforeRequest = false := by
            by_contra hbefore
            rw [Bool.not_eq_false] at hbefore
            exact hl hbefore sub List.mem_cons_self hsub
          simp [hsub, hafter]
        · exact if_neg hsub
      rw [List.flatMap_cons, heq, List.map_append, List.foldl_append, List.map_singleton,
        List.foldl_cons, List.foldl_nil, hstep]
      exact ih fun hbefore s hs => hl hbefore s (List.mem_cons_of_mem _ hs)

/-- Closes of the subscribers of a list with distinct handles: the released handle is told once,
by the machine that the release reached. -/
theorem foldl_watch_closes (nif : Nif) (f : AgpsSubscriber → List AgpsOutput)
    (hf : ∀ sub, f sub = [.atlCloseStatusCb sub.mConnHandle true]) :
    ∀ (l : List AgpsSubscriber) (r : ReleaseWatch),
      (l.map AgpsSubscriber.mConnHandle).Nodup →
      ((l.flatMap f).map (AgpsLogEntry.output (some nif))).foldl (watchEntry h) (some r)
        = some (r.told nif h l) := by
  intro l
  induction l with
  | nil => intro r _; simp [ReleaseWatch.told]
  | cons sub l ih =>
      intro r hnodup
      rw [List.map_cons, List.nodup_cons] at hnodup
      rw [List.flatMap_cons, hf sub, List.map_append, List.foldl_append]
      show List.foldl (watchEntry h) (watchEntry h (some r)
        (.output (some nif) (.atlCloseStatusCb sub.mConnHandle true))) _ = _
      by_cases hsub : sub.mConnHandle = h
      · -- the handle is not in the rest of the list
        have hrest : ¬ ∃ s ∈ l, s.mConnHandle = h := by
          rintro ⟨s, hs, hsh⟩
          exact hnodup.1 (List.mem_map.mpr ⟨s, hs, hsh.trans hsub.symm⟩)
        have hstep : watchEntry h (some r)
            (.output (some nif) (.atlCloseStatusCb sub.mConnHandle true))
              = some { r with closes := r.closes + if r.sm = nif then 1 else 0 } := by
          show (if sub.mConnHandle = h then _ else some r) = _
          rw [if_pos hsub]
          by_cases hsm : r.sm = nif
          · simp [hsm]
          · simp [hsm, Ne.symm hsm]
        rw [hstep, ih _ hnodup.2]
        simp [ReleaseWatch.told, hsub, hrest]
      · have hstep : watchEntry h (some r)
            (.output (some nif) (.atlCloseStatusCb sub.mConnHandle true)) = some r :=
          if_neg hsub
        rw [hstep, ih _ hnodup.2]
        simp [ReleaseWatch.told, hsub]

/-! ### One machine of the base class -/

namespace AgpsStateMachine

variable {m : AgpsStateMachine}

/-- What a watch says about the list of the machine at `nif`. -/
structure WatchedList (nif : Nif) (h : ConnHandle) (r : ReleaseWatch) (l : List AgpsSubscriber) :
    Prop where
  listed : r.sm = nif → ∀ sub ∈ l, sub.mConnHandle = h → sub.mIsInactive = true ∧ r.closes = 0
  gone : r.sm = nif → (∀ sub ∈ l, sub.mConnHandle ≠ h) → r.closes = 1
  other : r.sm ≠ nif → r.beforeRequest = true → ∀ sub ∈ l, sub.mConnHandle ≠ h

/-- Before the next request, no active subscriber has the handle. -/
theorem WatchedList.not_active {l : List AgpsSubscriber} (hw : WatchedList nif h r l)
    (hbefore : r.beforeRequest = true) :
    ∀ sub ∈ l, sub.mIsInactive = false → sub.mConnHandle ≠ h := by
  intro sub hsub hactive heq
  by_cases hsm : r.sm = nif
  · rw [(hw.listed hsm sub hsub heq).1] at hactive
    cases hactive
  · exact hw.other hsm hbefore sub hsub heq

/-- A list with the same subscribers of the handle. -/
theorem WatchedList.congr {l l' : List AgpsSubscriber} (hw : WatchedList nif h r l)
    (hl : ∀ sub, sub.mConnHandle = h → (sub ∈ l' ↔ sub ∈ l)) : WatchedList nif h r l' where
  listed := fun hsm sub hsub heq => hw.listed hsm sub ((hl sub heq).mp hsub) heq
  gone := fun hsm hnone => hw.gone hsm fun sub hsub heq => hnone sub ((hl sub heq).mpr hsub) heq
  other := fun hsm hbefore sub hsub heq => hw.other hsm hbefore sub ((hl sub heq).mp hsub) heq

/-- Closes for `l'` that delete `l'`, the inactive subscribers among them. -/
theorem WatchedList.close {l kept closed : List AgpsSubscriber} (hw : WatchedList nif h r l)
    (hkept : ∀ sub ∈ kept, sub ∈ l ∧ sub.mIsInactive = false)
    (hclosed : ∀ sub ∈ closed, sub ∈ l)
    (hall : ∀ sub ∈ l, sub.mIsInactive = true → sub ∈ closed) :
    WatchedList nif h (r.told nif h closed) kept where
  listed := fun hsm sub hsub heq => by
    obtain ⟨hl, hactive⟩ := hkept sub hsub
    rw [(hw.listed hsm sub hl heq).1] at hactive
    cases hactive
  gone := fun hsm _ => by
    have hsm' : r.sm = nif := hsm
    by_cases hex : ∃ sub ∈ closed, sub.mConnHandle = h
    · obtain ⟨sub, hsub, heq⟩ := hex
      have hzero := (hw.listed hsm' sub (hclosed sub hsub) heq).2
      show r.closes + _ = 1
      rw [if_pos ⟨hsm', sub, hsub, heq⟩, hzero]
    · show r.closes + _ = 1
      rw [if_neg fun hcase => hex hcase.2]
      refine hw.gone hsm' fun sub hsub heq => ?_
      exact hex ⟨sub, hall sub hsub (hw.listed hsm' sub hsub heq).1, heq⟩
  other := fun hsm hbefore sub hsub => hw.other hsm hbefore sub (hkept sub hsub).1

/-- The notifications of the base class. -/
theorem notifyOuts_open (hcls : m.cls = .agpsStateMachine) {event : AgpsEvent}
    (hevent : event = .granted ∨ event = .denied) (sub : AgpsSubscriber) :
    ∃ b apn bearer type,
      m.notifyOuts event sub = [.atlOpenStatusCb sub.mConnHandle b apn bearer type] := by
  unfold notifyOuts notifyEvent
  rw [hcls]
  rcases hevent with rfl | rfl
  · exact ⟨_, _, _, _, rfl⟩
  · exact ⟨_, _, _, _, rfl⟩

theorem notifyOuts_close (hcls : m.cls = .agpsStateMachine) (sub : AgpsSubscriber) :
    m.notifyOuts .released sub = [.atlCloseStatusCb sub.mConnHandle true] := by
  unfold notifyOuts notifyEvent
  rw [hcls]

/-- The effect of the outputs of the machine at `nif` on the watch of a handle. -/
def watchOuts (nif : Nif) (h : ConnHandle) (w : Option ReleaseWatch) (outs : List AgpsOutput) :
    Option ReleaseWatch :=
  (outs.map (AgpsLogEntry.output (some nif))).foldl (watchEntry h) w

theorem watchOuts_append (w : Option ReleaseWatch) (outs outs' : List AgpsOutput) :
    watchOuts nif h w (outs ++ outs') = watchOuts nif h (watchOuts nif h w outs) outs' := by
  unfold watchOuts
  rw [List.map_append, List.foldl_append]

/-- The watch `w'` and the list `l'` after an event of the machine at `nif`. Only the number of
closes can have changed, and only when the release reached this machine. -/
def WatchStep (nif : Nif) (h : ConnHandle) (r : ReleaseWatch) (w' : Option ReleaseWatch)
    (l' : List AgpsSubscriber) : Prop :=
  ∃ closed, w' = some (r.told nif h closed) ∧ WatchedList nif h (r.told nif h closed) l'

theorem told_nil (r : ReleaseWatch) (nif : Nif) (h : ConnHandle) : r.told nif h [] = r := by
  simp [ReleaseWatch.told]

/-- Another machine tells the watched subscriber nothing. -/
theorem told_of_ne (hsm : r.sm ≠ nif) (closed : List AgpsSubscriber) :
    r.told nif h closed = r := by
  simp [ReleaseWatch.told, hsm]

/-- The outputs do not change the watch. -/
theorem WatchStep.same {w' : Option ReleaseWatch} {l' : List AgpsSubscriber}
    (heq : w' = some r) (hw : WatchedList nif h r l') : WatchStep nif h r w' l' := by
  refine ⟨[], ?_⟩
  rw [told_nil]
  exact ⟨heq, hw⟩

/-- A report. The condition rules out a denial that an inactive subscriber is told of. -/
theorem watchStep_report (hcls : m.cls = .agpsStateMachine)
    (hnodup : (m.mSubscriberList.map AgpsSubscriber.mConnHandle).Nodup) (env : AgpsEnv)
    {event : AgpsEvent}
    (hok : event = .denied → m.mState = .pending →
      ∀ sub ∈ m.mSubscriberList, sub.mIsInactive = false)
    (hw : WatchedList nif h r m.mSubscriberList) :
    WatchStep nif h r (watchOuts nif h (some r) (m.processReport env event).2)
      (m.processReport env event).1.mSubscriberList := by
  rcases processReport_cases m env event with heq | ⟨hst, -, heq⟩ | ⟨notified, hcase, heq⟩ |
    ⟨-, -, heq⟩ <;> rw [heq]
  · -- nobody is told
    exact .same rfl hw
  · -- a grant is told to the active subscribers, none of which has the watched handle
    rw [processAgpsEventGranted_eq hst]
    refine .same ?_ hw
    refine foldl_watch_opens (some nif) _ (notifyOuts_open hcls (Or.inl rfl)) _ ?_
    intro hbefore sub hsub
    obtain ⟨hl, hactive⟩ := List.mem_filter.mp hsub
    exact hw.not_active hbefore sub hl (by simpa using hactive)
  · obtain ⟨r', hclear⟩ := notifyAndClear_eq m notified
    rw [hclear]
    rcases hcase with ⟨-, -, rfl⟩ | ⟨hst, rfl, hevent⟩
    · -- a forced close is told to every subscriber
      exact ⟨_, foldl_watch_closes nif _ (notifyOuts_close hcls) _ r hnodup,
        hw.close (by simp) (fun _ hsub => hsub) fun _ hsub _ => hsub⟩
    · -- a denial is told to active subscribers only, so the watched handle is not in the list
      have hdenied : event = .denied := by
        rcases hevent with hevent | ⟨-, hds⟩
        · exact hevent
        · rw [hcls] at hds; cases hds
      have hactive := hok hdenied hst
      refine .same ?_ ⟨by simp, fun hsm _ => hw.gone hsm fun sub hsub heq => ?_, by simp⟩
      · refine foldl_watch_opens (some nif) _ (notifyOuts_open hcls (Or.inr rfl)) _ ?_
        intro hbefore sub hsub
        exact hw.not_active hbefore sub hsub (hactive sub hsub)
      · have hinactive := (hw.listed hsm sub hsub heq).1
        rw [hactive sub hsub] at hinactive
        cases hinactive
  · -- the end of a release is told to the inactive ones, which leave the list
    have hcloses := foldl_watch_closes (h := h) nif _ (notifyOuts_close hcls)
      (m.mSubscriberList.filter fun s => s.mIsInactive) r
      (hnodup.sublist (List.filter_sublist.map _))
    have hinactive : ∀ sub ∈ m.mSubscriberList, sub.mIsInactive = true →
        sub ∈ m.mSubscriberList.filter fun s => s.mIsInactive := by
      intro sub hsub hin
      exact List.mem_filter.mpr ⟨hsub, hin⟩
    have hold : ∀ sub ∈ m.mSubscriberList.filter fun s => s.mIsInactive,
        sub ∈ m.mSubscriberList := fun sub hsub => (List.mem_filter.mp hsub).1
    rw [finishReleasing_eq m env]
    split
    · dsimp only
      rw [requestOrReleaseDataConn_base (by exact hcls)]
      refine ⟨_, ?_, hw.close (fun sub hsub => ?_) hold hinactive⟩
      · rw [watchOuts_append]
        show List.foldl _ (List.foldl _ _ _) _ = _
        rw [hcloses]
        rfl
      · obtain ⟨hl, hactive⟩ := List.mem_filter.mp hsub
        exact ⟨hl, by simpa using hactive⟩
    · exact ⟨_, hcloses, hw.close (by simp) hold hinactive⟩

/-- The outputs of a subscription are about its own handle. -/
theorem subscribeOuts_notAbout {sub : AgpsSubscriber} (hne : sub.mConnHandle ≠ h) :
    ∀ o ∈ m.subscribeOuts sub, o.NotAbout h := by
  intro o ho
  unfold subscribeOuts at ho
  split at ho
  · cases List.mem_singleton.mp ho
    exact trivial
  · cases List.mem_singleton.mp ho
    exact hne
  · cases ho

/-- A subscription of another handle. -/
theorem watchStep_subscribe_other (hcls : m.cls = .agpsStateMachine) (hvalid : m.mState ≠ .invalid)
    (env : AgpsEnv) {sub : AgpsSubscriber} (hne : sub.mConnHandle ≠ h)
    (hw : WatchedList nif h r m.mSubscriberList) :
    WatchStep nif h r (watchOuts nif h (some r) (m.processAgpsEventSubscribe env sub).2)
      (m.processAgpsEventSubscribe env sub).1.mSubscriberList := by
  rw [processAgpsEventSubscribe_base hcls env sub hvalid]
  refine .same (foldl_watch_notAbout _ _ (subscribeOuts_notAbout hne)) (hw.congr ?_)
  intro s hs
  rw [mem_addSubscriber]
  constructor
  · rintro (hold | ⟨rfl, -⟩)
    · exact hold
    · exact absurd hs hne
  · exact Or.inl

/-- A subscription of the handle itself, after the request has closed the watch for opens. When
the release reached this machine, the subscriber is still listed and the list stays. -/
theorem watchStep_subscribe_self (hcls : m.cls = .agpsStateMachine) (hvalid : m.mState ≠ .invalid)
    (env : AgpsEnv) {sub : AgpsSubscriber} (hafter : r.beforeRequest = false)
    (hlisted : r.sm = nif → (m.getSubscriber sub.mConnHandle).isSome = true)
    (hw : WatchedList nif h r m.mSubscriberList) :
    WatchStep nif h r (watchOuts nif h (some r) (m.processAgpsEventSubscribe env sub).2)
      (m.processAgpsEventSubscribe env sub).1.mSubscriberList := by
  rw [processAgpsEventSubscribe_base hcls env sub hvalid]
  refine .same ?_ ⟨fun hsm => ?_, fun hsm => ?_, fun _ hbefore => ?_⟩
  · show watchOuts nif h (some r) (m.subscribeOuts sub) = some r
    unfold subscribeOuts
    split
    · rfl
    · show (if sub.mConnHandle = h then _ else some r) = some r
      split
      · simp [hafter]
      · rfl
    · rfl
  · show ∀ s ∈ (m.addSubscriber sub).mSubscriberList, _
    rw [addSubscriber_of_listed (hlisted hsm)]
    exact hw.listed hsm
  · show (∀ s ∈ (m.addSubscriber sub).mSubscriberList, _) → _
    rw [addSubscriber_of_listed (hlisted hsm)]
    exact hw.gone hsm
  · rw [hafter] at hbefore
    cases hbefore

/-- The subscribers of the other handles stay as they are in an unsubscription. -/
theorem mem_unsubscribed_of_ne {sub s : AgpsSubscriber} {l : List AgpsSubscriber}
    (hne : s.mConnHandle ≠ sub.mConnHandle) : s ∈ unsubscribed sub l ↔ s ∈ l := by
  unfold unsubscribed
  split
  · constructor
    · intro hs
      rcases mem_of_mem_setInactive hs with hs | ⟨t, -, hth, rfl⟩
      · exact hs
      · exact absurd hth hne
    · intro hs
      exact mem_setInactive_of_ne hs hne
  · rw [List.mem_filter]
    simp [hne]

/-- The outputs of an unsubscription that come after the close. -/
theorem releaseOuts_notAbout (hcls : m.cls = .agpsStateMachine) (env : AgpsEnv) (h : ConnHandle) :
    ∀ o ∈ m.releaseOuts env, o.NotAbout h := by
  intro o ho
  rcases of_mem_releaseOuts ho with ⟨-, rfl⟩ | ⟨hds, -⟩
  · exact trivial
  · rw [hcls] at hds
    cases hds

/-- The watch after the outputs of an unsubscription: those of the close. -/
theorem watchOuts_unsubscribe (hcls : m.cls = .agpsStateMachine) (hvalid : m.mState ≠ .invalid)
    (hreleased : m.mState ≠ .released) (env : AgpsEnv) (sub : AgpsSubscriber) :
    watchOuts nif h w (m.processAgpsEventUnsubscribe env sub).2
      = watchOuts nif h w
        (if sub.mWaitForCloseComplete then [] else [.atlCloseStatusCb sub.mConnHandle true]) := by
  rw [processAgpsEventUnsubscribe_eq m env sub hvalid hreleased]
  show watchOuts nif h w (_ ++ _) = _
  rw [watchOuts_append]
  refine foldl_watch_notAbout _ _ fun o ho => ?_
  split at ho
  · cases ho
  · exact releaseOuts_notAbout hcls env h o ho

/-- An unsubscription of another handle. -/
theorem watchStep_unsubscribe_other (hcls : m.cls = .agpsStateMachine)
    (hvalid : m.mState ≠ .invalid) (hreleased : m.mState ≠ .released) (env : AgpsEnv)
    {sub : AgpsSubscriber} (hne : sub.mConnHandle ≠ h)
    (hw : WatchedList nif h r m.mSubscriberList) :
    WatchStep nif h r (watchOuts nif h (some r) (m.processAgpsEventUnsubscribe env sub).2)
      (m.processAgpsEventUnsubscribe env sub).1.mSubscriberList := by
  rw [watchOuts_unsubscribe hcls hvalid hreleased,
    processAgpsEventUnsubscribe_eq m env sub hvalid hreleased]
  refine .same ?_ (hw.congr fun s hs => ?_)
  · refine foldl_watch_notAbout _ _ fun o ho => ?_
    split at ho
    · cases ho
    · cases List.mem_singleton.mp ho
      exact fun _ => hne
  · exact mem_unsubscribed_of_ne fun heq => hne (heq.symm.trans hs)

/-- An unsubscription of the handle itself starts the watch: the subscriber is inactive, or it is
gone and has been told of its close. -/
theorem watchStep_unsubscribe_self (hcls : m.cls = .agpsStateMachine)
    (hvalid : m.mState ≠ .invalid) (hreleased : m.mState ≠ .released)
    (hnodup : (m.mSubscriberList.map AgpsSubscriber.mConnHandle).Nodup) (env : AgpsEnv)
    {sub : AgpsSubscriber} (hsub : sub ∈ m.mSubscriberList) :
    WatchStep nif sub.mConnHandle ⟨nif, true, 0, 0⟩
      (watchOuts nif sub.mConnHandle (some ⟨nif, true, 0, 0⟩)
        (m.processAgpsEventUnsubscribe env sub).2)
      (m.processAgpsEventUnsubscribe env sub).1.mSubscriberList := by
  rw [watchOuts_unsubscribe hcls hvalid hreleased,
    processAgpsEventUnsubscribe_eq m env sub hvalid hreleased]
  show WatchStep nif _ _ _ (unsubscribed sub m.mSubscriberList)
  unfold unsubscribed
  split
  · refine .same rfl ⟨fun _ s hs heq => ⟨inactive_of_mem_setInactive hnodup hs heq, rfl⟩,
      fun _ hnone => ?_, fun hsm => absurd rfl hsm⟩
    -- the marked subscriber is still in the list
    have hmem : sub.mConnHandle ∈ (setInactive sub.mConnHandle m.mSubscriberList).map
        AgpsSubscriber.mConnHandle := by
      rw [map_handle_setInactive]
      exact List.mem_map_of_mem hsub
    obtain ⟨t, ht, hth⟩ := List.mem_map.mp hmem
    exact absurd hth (hnone t ht)
  · refine ⟨[sub], by simp [watchOuts, watchEntry, ReleaseWatch.told], ?_⟩
    refine ⟨fun _ s hs heq => ?_, fun _ _ => by simp [ReleaseWatch.told], fun hsm => ?_⟩
    · have hne := (List.mem_filter.mp hs).2
      simp [heq] at hne
    · exact absurd rfl hsm

end AgpsStateMachine

/-! ### The system -/

namespace AgpsSystem

open AgpsStateMachine (Sane WatchedList WatchStep watchOuts)

/-- Every released handle has been told of no open, the machine that its release reached exists,
and every list agrees with the watch. -/
def Watched (s : AgpsSystem) : Prop :=
  ∀ h r, watch h s.log = some r → r.opens = 0 ∧ (∃ m, s.sm r.sm = some m) ∧
    ∀ nif m, s.sm nif = some m → WatchedList nif h r m.mSubscriberList

/-- What the steps that meet the condition keep, without a modem restart and with the emergency
flag off. -/
structure WatchInv (s : AgpsSystem) : Prop where
  sane : ∀ nif m, s.sm nif = some m → Sane nif m
  ds : s.sm .ds = none
  watched : s.Watched

theorem watchInv_init : WatchInv init where
  sane := sane_init
  ds := rfl
  watched := fun _ _ hr => by cases hr

/-- The watched handles of an answered system. -/
theorem WatchInv.releaseAnswered {s : AgpsSystem} (hs : WatchInv s) : ReleaseAnswered s := by
  intro h r hr
  obtain ⟨hopens, ⟨m, hm⟩, hlists⟩ := hs.watched h r hr
  refine ⟨hopens, fun hnot => ?_⟩
  exact (hlists r.sm m hm).gone rfl fun sub hsub heq => hnot ⟨m, hm, sub, hsub, heq⟩

/-- The history has changed by entries that close the watch for opens at most. -/
theorem Watched.congr {s t : AgpsSystem} (hs : s.Watched) (hsm : ∀ nif, t.sm nif = s.sm nif)
    (hlog : ∀ h r', watch h t.log = some r' → ∃ r, watch h s.log = some r ∧
      (r' = r ∨ r' = { r with beforeRequest := false })) : t.Watched := by
  intro h r' hr'
  obtain ⟨r, hr, hcase⟩ := hlog h r' hr'
  obtain ⟨hopens, hexists, hlists⟩ := hs h r hr
  rcases hcase with rfl | rfl
  · refine ⟨hopens, by rwa [hsm], fun nif m hm => hlists nif m ?_⟩
    rwa [hsm] at hm
  · refine ⟨hopens, by rwa [hsm], fun nif m hm => ?_⟩
    rw [hsm] at hm
    exact ⟨(hlists nif m hm).listed, (hlists nif m hm).gone, fun _ hbefore => by cases hbefore⟩

theorem Watched.created {env : AgpsEnv} {s s' : AgpsSystem} (hs : s.Watched)
    (hcreated : Created env s s') : s'.Watched := by
  obtain ⟨outs, hlog, houts⟩ := hcreated.log
  intro h r hr
  rw [hlog, watch_append, foldl_watch_notAbout _ _ fun o ho => by rw [houts o ho]; trivial] at hr
  obtain ⟨hopens, ⟨m, hm⟩, hlists⟩ := hs h r hr
  have hkept : s'.sm r.sm = some m := by
    rcases hcreated.sm r.sm with hsame | ⟨hnone, -⟩
    · exact hsame.trans hm
    · rw [hm] at hnone
      cases hnone
  refine ⟨hopens, ⟨m, hkept⟩, fun nif m' hm' => ?_⟩
  rcases hcreated.sm nif with hsame | ⟨hnone, hfresh⟩
  · exact hlists nif m' (hsame.symm.trans hm')
  · -- a new machine lists nobody, and the release reached another one
    have hne : r.sm ≠ nif := by
      rintro rfl
      rw [hm] at hnone
      cases hnone
    have hnil : m'.mSubscriberList = [] := by
      cases hfresh.symm.trans hm'
      cases nif <;> rfl
    rw [hnil]
    exact ⟨fun hsm => absurd hsm hne, fun hsm => absurd hsm hne, by simp⟩

/-- One machine ran. `hstep` is about every handle that is watched after the entry of the call. -/
theorem watched_runSm {s : AgpsSystem} {nif : Nif} {entry : AgpsLogEntry}
    {out : AgpsStateMachine × List AgpsOutput}
    (hstep : ∀ h r, watchEntry h (watch h s.log) entry = some r →
      r.opens = 0 ∧ (r.sm = nif ∨ ∃ m, s.sm r.sm = some m) ∧
      WatchStep nif h r (watchOuts nif h (some r) out.2) out.1.mSubscriberList ∧
      ∀ other m, other ≠ nif → s.sm other = some m → WatchedList other h r m.mSubscriberList) :
    Watched ((s.note entry).runSm nif out) := by
  intro h r' hr'
  rw [log_runSm, log_note, watch_append, watch_append, List.foldl_cons, List.foldl_nil] at hr'
  cases hw : watchEntry h (watch h s.log) entry with
  | none =>
      rw [hw, foldl_watch_none] at hr'
      cases hr'
  | some r =>
      rw [hw] at hr'
      obtain ⟨hopens, hexists, ⟨closed, heq, hlist⟩, hothers⟩ := hstep h r hw
      cases heq.symm.trans hr'
      refine ⟨hopens, ?_, fun other m hm => ?_⟩
      · show ∃ m, ((s.note entry).runSm nif out).sm r.sm = some m
        by_cases hsm : r.sm = nif
        · rw [hsm, sm_runSm_self]
          exact ⟨_, rfl⟩
        · rw [sm_runSm_of_ne _ hsm]
          exact hexists.resolve_left hsm
      · by_cases hother : other = nif
        · subst hother
          rw [sm_runSm_self] at hm
          cases hm
          exact hlist
        · rw [sm_runSm_of_ne _ hother] at hm
          have hw := hothers other m hother hm
          by_cases hsm : r.sm = nif
          · -- the release reached this machine, so it did not reach the other one
            exact ⟨fun heq => absurd (heq.symm.trans hsm) hother,
              fun heq => absurd (heq.symm.trans hsm) hother, hw.other⟩
          · rw [AgpsStateMachine.told_of_ne hsm]
            exact hw

/-- A request reaches a machine. -/
theorem Watched.request {s : AgpsSystem} (hs : s.Watched) {env : AgpsEnv} {nif : Nif}
    {m : AgpsStateMachine} (hm : s.sm nif = some m) (hcls : m.cls = .agpsStateMachine)
    (hvalid : m.mState ≠ .invalid) (connHandle : ConnHandle) (ty : AGpsExtType) (posted : Bool) :
    Watched ((s.note (.requestATL connHandle ty posted (some nif)
      (m.getSubscriber connHandle).isSome)).runSm nif
        (m.processAgpsEventSubscribe env (newSubscriber connHandle ty))) := by
  refine watched_runSm fun h r hr => ?_
  by_cases hself : connHandle = h
  · subst hself
    rw [watchEntry, if_pos rfl, Option.bind_eq_some_iff] at hr
    obtain ⟨r₀, hr₀, hcase⟩ := hr
    split at hcase
    · cases hcase
    · rename_i hnew
      cases hcase
      obtain ⟨hopens, hexists, hlists⟩ := hs connHandle r₀ hr₀
      have hafter : ∀ other m', s.sm other = some m' →
          WatchedList other connHandle { r₀ with beforeRequest := false } m'.mSubscriberList :=
        fun other m' hm' => ⟨(hlists other m' hm').listed, (hlists other m' hm').gone,
          fun _ hbefore => by cases hbefore⟩
      refine ⟨hopens, Or.inr hexists, ?_, fun other m' _ hm' => hafter other m' hm'⟩
      refine AgpsStateMachine.watchStep_subscribe_self hcls hvalid env rfl (fun hsm => ?_)
        (hafter nif m hm)
      -- the entry kept the watch, so the machine that the release reached lists the handle
      by_contra hnot
      rw [Bool.not_eq_true] at hnot
      exact hnew ⟨congrArg some (Eq.symm hsm), hnot⟩
  · rw [watchEntry, if_neg hself] at hr
    obtain ⟨hopens, hexists, hlists⟩ := hs h r hr
    exact ⟨hopens, Or.inr hexists,
      AgpsStateMachine.watchStep_subscribe_other hcls hvalid env hself (hlists nif m hm),
      fun other m' _ hm' => hlists other m' hm'⟩

/-- A release reaches the only machine that lists the handle. -/
theorem Watched.release {s : AgpsSystem} (hs : s.Watched) {env : AgpsEnv} {nif : Nif}
    {m : AgpsStateMachine} (hm : s.sm nif = some m) (hsane : Sane nif m)
    (hcls : m.cls = .agpsStateMachine) {connHandle : ConnHandle} {sub : AgpsSubscriber}
    (hsub : m.getSubscriber connHandle = some sub)
    (honly : ∀ other m', other ≠ nif → s.sm other = some m' →
      ∀ t ∈ m'.mSubscriberList, t.mConnHandle ≠ connHandle) :
    Watched ((s.note (.releaseATL connHandle [nif])).runSm nif
      (m.processAgpsEventUnsubscribe env sub)) := by
  obtain ⟨hmem, rfl⟩ := AgpsStateMachine.mem_of_getSubscriber hsub
  have hreleased : m.mState ≠ .released := by
    intro hst
    rw [hsane.list.releasedBase hst hcls] at hmem
    cases hmem
  refine watched_runSm fun h r hr => ?_
  by_cases hself : sub.mConnHandle = h
  · subst hself
    rw [watchEntry, if_pos rfl] at hr
    cases hr
    refine ⟨rfl, Or.inl rfl, AgpsStateMachine.watchStep_unsubscribe_self hcls hsane.list.valid
      hreleased hsane.list.nodup env hmem, fun other m' hother hm' => ?_⟩
    exact ⟨fun hsm => absurd hsm.symm hother, fun hsm => absurd hsm.symm hother,
      fun _ _ => honly other m' hother hm'⟩
  · rw [watchEntry, if_neg hself] at hr
    obtain ⟨hopens, hexists, hlists⟩ := hs h r hr
    exact ⟨hopens, Or.inr hexists, AgpsStateMachine.watchStep_unsubscribe_other hcls
      hsane.list.valid hreleased env hself (hlists nif m hm),
      fun other m' _ hm' => hlists other m' hm'⟩

/-- A handle that at most one machine lists. -/
theorem not_listed_of_holders {s : AgpsSystem} {connHandle : ConnHandle} {nif : Nif}
    {rest : List Nif} (hholders : s.mgr.holders connHandle = nif :: rest)
    (hlength : (s.mgr.holders connHandle).length ≤ 1) :
    rest = [] ∧ ∀ other m, other ≠ nif → s.sm other = some m →
      ∀ t ∈ m.mSubscriberList, t.mConnHandle ≠ connHandle := by
  rw [hholders, List.length_cons] at hlength
  have hrest : rest = [] := List.eq_nil_of_length_eq_zero (by omega)
  subst hrest
  refine ⟨rfl, fun other m hother hm t ht heq => ?_⟩
  have hlists : s.Lists other connHandle := ⟨m, hm, t, ht, heq⟩
  have hmem : other ∈ s.mgr.holders connHandle := hlists.mem_holders
  rw [hholders, List.mem_singleton] at hmem
  exact hother hmem

/-- Every step that meets the condition keeps the invariant. -/
theorem WatchInv.step {s t : AgpsSystem} {i : AgpsCall × AgpsEnv} (hs : WatchInv s)
    (hssr : i.1 ≠ .handleModemSSR) (hflag : i.2.useEmergencyPdnForEmergencySupl = false)
    (hok : s.ReleaseStepOk i) (ht : s.step i = some t) : WatchInv t := by
  obtain ⟨call, env⟩ := i
  obtain ⟨s', hcreated, hdispatch⟩ := step_cases ht
  have hds : s'.sm .ds = none := by
    rw [hcreated.ds hflag, sm_dequeue]
    exact hs.ds
  have hwatched : s'.Watched := by
    have hdequeue : (s.dequeue call).Watched := hs.watched.congr (by simp) fun h r hr => by
      rw [log_dequeue] at hr
      exact ⟨r, hr, Or.inl rfl⟩
    exact hdequeue.created hcreated
  have hsane : ∀ nif m, s'.sm nif = some m → Sane nif m :=
    hcreated.forall sane_newSm fun nif m hm => hs.sane nif m (by rwa [sm_dequeue] at hm)
  have hbase : ∀ nif m, s'.sm nif = some m → nif ≠ .ds ∧ m.cls = .agpsStateMachine := by
    intro nif m hm
    have hne : nif ≠ .ds := by
      rintro rfl
      rw [hds] at hm
      cases hm
    refine ⟨hne, ?_⟩
    rw [(hsane nif m hm).cls]
    cases nif <;> first | rfl | exact absurd rfl hne
  have hrunDs : ∀ (u : AgpsSystem) nif out, nif ≠ .ds → u.sm .ds = none →
      (u.runSm nif out).sm .ds = none := by
    intro u nif out hne hu
    exact (sm_runSm_of_ne u (Ne.symm hne) out).trans hu
  -- the machines stay sane in any case; what is left is about the handle
  suffices hrest : t.sm .ds = none ∧ t.Watched from ⟨sane_step hs.sane ht, hrest.1, hrest.2⟩
  cases hdispatch with
  | idle => exact ⟨hds, hwatched⟩
  | requestNull _ _ =>
      rename_i connHandle ty posted _ _
      refine ⟨hds, hwatched.congr (fun _ => rfl) fun h r hr => ?_⟩
      rw [log_emit, log_note, watch_append, watch_append] at hr
      cases hw : watch h s'.log with
      | none => simp [hw, watchEntry] at hr
      | some r₀ =>
          -- the failed open comes after the request, so it is not counted
          by_cases hself : connHandle = h
          · simp [hw, watchEntry, hself] at hr
            exact ⟨r₀, rfl, Or.inr hr.symm⟩
          · simp [hw, watchEntry, hself] at hr
            exact ⟨r₀, rfl, Or.inl hr.symm⟩
  | request _ hsm =>
      -- one machine takes the request
      obtain ⟨hne, hcls⟩ := hbase _ _ hsm
      exact ⟨hrunDs _ _ _ hne hds,
        hwatched.request hsm hcls (hsane _ _ hsm).list.valid _ _ _⟩
  | releaseNone _ _ =>
      -- no machine has the handle
      refine ⟨hds, hwatched.congr (fun _ => rfl) fun h r hr => ?_⟩
      rw [log_emit, log_note, watch_append, watch_append] at hr
      exact ⟨r, hr, Or.inl rfl⟩
  | release hsame hholders hsm hsub =>
      obtain ⟨hne, hcls⟩ := hbase _ _ hsm
      -- the handle is in the list of one machine, so it is in no list afterwards
      obtain ⟨hrest, honly⟩ := not_listed_of_holders hholders (hsame ▸ hok.1 _ rfl)
      subst hrest
      exact ⟨hrunDs _ _ _ hne hds, hwatched.release hsm (hsane _ _ hsm) hcls hsub honly⟩
  | report hcall hsm apn bearer =>
      rename_i nif event m
      obtain ⟨hne, hcls⟩ := hbase _ _ hsm
      refine ⟨hrunDs _ _ _ hne hds, watched_runSm fun h r hr => ?_⟩
      obtain ⟨hopens, hexists, hlists⟩ := hwatched h r hr
      refine ⟨hopens, Or.inr hexists, ?_, fun other m' _ hm' => hlists other m' hm'⟩
      refine AgpsStateMachine.watchStep_report
        (m := { m with mAPN := apn, mBearer := bearer }) hcls (hsane _ _ hsm).list.nodup env
        (fun hevent hpending => ?_) (hlists nif m hsm)
      subst hevent
      rcases hcreated.sm nif with hold | ⟨-, hfresh⟩
      · rw [sm_dequeue] at hold
        exact hok.2 _ hcall rfl m (hold.symm.trans hsm) hpending
      · -- a new machine is released
        cases hfresh.symm.trans hsm
        cases nif <;> cases hpending
  | modemSSR => exact absurd rfl hssr
  | retry _ hsm => rw [hds] at hsm; cases hsm

/-- Releases are answered as closes: in a run without a modem restart and with the emergency flag
off, whose steps all meet the condition, a released handle is told of no open before its next
request, and of exactly one close once its subscriber has left the list.

The condition excludes a denial of a PENDING machine with an inactive subscriber, which is told that
its open has failed, and a release of a handle that several machines list, since `releaseATL` goes
to the first of them only. -/
theorem release_answered (calls : List (AgpsCall × AgpsEnv)) (s : AgpsSystem)
    (hcalls : ∀ i ∈ calls, i.1 ≠ .handleModemSSR ∧ i.2.useEmergencyPdnForEmergencySupl = false)
    (hguard : Guarded step ReleaseStepOk init calls) (hrun : run step init calls = some s) :
    ReleaseAnswered s := by
  have hboth : Guarded step (fun s i => (i.1 ≠ .handleModemSSR ∧
      i.2.useEmergencyPdnForEmergencySupl = false) ∧ s.ReleaseStepOk i) init calls :=
    (guarded_of_forall init fun i hi _ => hcalls i hi).and hguard
  have hinv := Guarded.run_invariant (P := WatchInv)
    (fun _ _ _ hs hok ht => hs.step hok.1.1 hok.1.2 hok.2 ht) calls init s watchInv_init hboth hrun
  exact hinv.releaseAnswered

/-- Handle 1 is released while its connection and the one of handle 2 are pending, and the open
fails. -/
def deniedAfterRelease : List (AgpsCall × AgpsEnv) :=
  [(.createAgpsStateMachines, .supl), (.requestATL 1 locAgpsTypeSuplEs, .supl),
    (.requestATL 2 locAgpsTypeSupl, .supl), (.releaseATL 1, .supl),
    (.reportAtlOpenFailed locAgpsTypeSupl, .supl)]

/-- Handle 1 is told of a failed open after its release, and of no close. -/
theorem deniedAfterRelease_not_answered :
    ∃ s, run step init deniedAfterRelease = some s ∧ ¬ ReleaseAnswered s := by
  refine ⟨_, rfl, fun hanswered => ?_⟩
  exact absurd (hanswered 1 ⟨.agnss, true, 1, 0⟩ (by decide)).1 (by decide)

/-- Handle 1 is released while the connection is acquired, and the framework closes it. -/
def closedAfterRelease : List (AgpsCall × AgpsEnv) :=
  [(.createAgpsStateMachines, .supl), (.requestATL 1 locAgpsTypeSuplEs, .supl),
    (.reportAtlOpenSuccess locAgpsTypeSupl none 0 0, .supl), (.releaseATL 1, .supl),
    (.reportAtlClosed locAgpsTypeSupl, .supl)]

theorem release_answered_closedAfterRelease :
    ∃ s, run step init closedAfterRelease = some s ∧
      watch 1 s.log = some ⟨.agnss, true, 0, 1⟩ ∧ ReleaseAnswered s :=
  ⟨_, rfl, by decide, release_answered closedAfterRelease _ (by decide) (by decide) rfl⟩

end AgpsSystem

end LocHal.Gnss
