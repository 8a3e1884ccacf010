import LocHal.Gnss.AgpsDataCall

/-!
# `LocHal.Gnss.AgpsRetries`: the retry budget of a data call

The DS machine counts the busy results of the data service client in `mRetries`, and falls back to
SUPL when a start is busy and the counter is used up. The counter starts again with each denial that
is notified. `retryHistory` reads the same counter off the history (`retries`), and beside it the
busy results in a row (`busyRun`): another result, a granted data call or a fallback ends the row.

`FullBudget` is the property: a fallback for lack of retries comes after a full row. A success and a
grant end the row and leave the counter alone. So `along_fullBudget_iff` gives the exact condition:
when the last busy result comes, nothing has interrupted the row since the counter started.

`Coherent` connects the two counters of the history: without an interruption the row is as long as
the counter says, and with one it is shorter. So a full row is one that nothing has interrupted, and
the condition can be stated before the step by which the row ends.

`DataCallAttempt` lists what one call of the DS machine can do about data calls: nothing, a denial,
a start that is busy with or without retries left, and a start with another result. `Attempts` says
so of the whole call, after notifications that deny nothing. Each function of the machine has its
lemma (`attempts_subscribe`, `attempts_unsubscribe`, `attempts_report`), and from them come the two
facts that a step needs: the history counts what `mRetries` counts (`retries_attempts`), and the
property is kept exactly if the row was not interrupted (`fullBudget_attempts`). A step that does
not run the DS machine adds entries that are about no data call (`quiet_or_runsDs`).
-/

set_option autoImplicit false

namespace LocHal.Gnss

open LabelledRun
open AgpsStateMachine (maxStartDataCallRetries)

/-! ### The history -/

/-- What the history says about the busy results: `retries` is the counter of the machine, which
goes on through a success and a grant, and `busyRun` the length of the row, which these end.
`interrupted` says that the row has ended since the counter started. -/
structure RetryHistory where
  retries : Nat
  interrupted : Bool
  busyRun : Nat
  deriving DecidableEq, Repr

namespace RetryHistory

/-- Before the first result. -/
def new : RetryHistory := ⟨0, false, 0⟩

/-- A busy result. -/
def busy (h : RetryHistory) : RetryHistory :=
  { h with retries := h.retries + 1, busyRun := h.busyRun + 1 }

/-- Another result, or a granted data call. -/
def other (h : RetryHistory) : RetryHistory :=
  { h with interrupted := h.interrupted || decide (h.retries ≠ 0), busyRun := 0 }

/-- The effect of an output of the DS machine. -/
def output (h : RetryHistory) : AgpsOutput → RetryHistory
  | .dsClientOpenAndStartDataCall ret =>
      if ret = locApiAdapterErrEngineBusy then h.busy else h.other
  | .sendMsgToAdapterQueue _ agpsType => if agpsType = locAgpsTypeSupl then new else h
  | _ => h

/-- The effect of one entry of the history. -/
def entry (h : RetryHistory) : AgpsLogEntry → RetryHistory
  | .output (some .ds) out => h.output out
  | .report .ds .granted => h.other
  | _ => h

/-- The row is what the counter counts, until it is interrupted. -/
structure Coherent (h : RetryHistory) : Prop where
  row : h.interrupted = false → h.busyRun = h.retries
  short : h.interrupted = true → h.busyRun < h.retries

variable {h : RetryHistory}

theorem Coherent.busy (hc : h.Coherent) : h.busy.Coherent where
  row := fun hrow => congrArg (· + 1) (hc.row hrow)
  short := fun hshort => Nat.succ_lt_succ (hc.short hshort)

theorem Coherent.other (hc : h.Coherent) : h.other.Coherent where
  row := fun hrow => by
    simp only [RetryHistory.other, Bool.or_eq_false_iff, decide_eq_false_iff_not, not_not] at hrow
    exact hrow.2.symm
  short := fun hshort => by
    simp only [RetryHistory.other, Bool.or_eq_true, decide_eq_true_eq] at hshort
    rcases hshort with hshort | hne
    · exact Nat.lt_of_le_of_lt (Nat.zero_le _) (hc.short hshort)
    · exact Nat.pos_of_ne_zero hne

theorem Coherent.output (hc : h.Coherent) (out : AgpsOutput) : (h.output out).Coherent := by
  unfold RetryHistory.output
  split
  · split
    · exact hc.busy
    · exact hc.other
  · split
    · exact ⟨fun _ => rfl, nofun⟩
    · exact hc
  · exact hc

theorem Coherent.entry (hc : h.Coherent) (e : AgpsLogEntry) : (h.entry e).Coherent := by
  unfold RetryHistory.entry
  split
  · exact hc.output _
  · exact hc.other
  · exact hc

/-- A full row is one that nothing has interrupted. -/
theorem Coherent.busyRun_lt_iff (hc : h.Coherent) :
    h.busyRun < h.retries ↔ h.interrupted = true := by
  cases hinterrupted : h.interrupted with
  | true => exact iff_of_true (hc.short hinterrupted) rfl
  | false =>
      rw [hc.row hinterrupted]
      simp

end RetryHistory

/-- What the history says about the busy results. -/
def retryHistory (log : List AgpsLogEntry) : RetryHistory := log.foldl RetryHistory.entry .new

theorem retryHistory_append (log log' : List AgpsLogEntry) :
    retryHistory (log ++ log') = log'.foldl RetryHistory.entry (retryHistory log) :=
  List.foldl_append

theorem retryHistory_coherent (log : List AgpsLogEntry) : (retryHistory log).Coherent := by
  unfold retryHistory
  have hnew : RetryHistory.new.Coherent := ⟨fun _ => rfl, nofun⟩
  generalize RetryHistory.new = h at *
  induction log generalizing h with
  | nil => exact hnew
  | cons e log ih => exact ih _ (hnew.entry e)

/-- The effect of outputs of the DS machine. -/
theorem foldl_entry_output (outs : List AgpsOutput) (h : RetryHistory) :
    (outs.map (AgpsLogEntry.output (some .ds))).foldl RetryHistory.entry h
      = outs.foldl RetryHistory.output h :=
  List.foldl_map

/-- The start of a data call that is busy. -/
def busyStart : AgpsLogEntry :=
  .output (some .ds) (.dsClientOpenAndStartDataCall locApiAdapterErrEngineBusy)

/-- The fallback to SUPL. -/
def fallback (connHandle : ConnHandle) : AgpsLogEntry :=
  .output (some .ds) (.sendMsgToAdapterQueue connHandle locAgpsTypeSupl)

/-- A busy start with a fallback at once ends a row of as many busy results as there are retries,
and one more. A row is interrupted by any other result and by a granted call, and the retries of the
next row are counted from none. -/
def FullBudget (log : List AgpsLogEntry) : Prop :=
  ∀ before connHandle after, log = before ++ busyStart :: fallback connHandle :: after →
    maxStartDataCallRetries < (retryHistory (before ++ [busyStart])).busyRun

variable {log log' : List AgpsLogEntry} {e : AgpsLogEntry}

theorem fullBudget_nil : FullBudget [] := by
  intro before connHandle after heq
  simp at heq

/-- One more entry matters where it is a fallback right after a busy start. -/
theorem fullBudget_concat :
    FullBudget (log ++ [e]) ↔ FullBudget log ∧
      ∀ before connHandle, log = before ++ [busyStart] → e = fallback connHandle →
        maxStartDataCallRetries < (retryHistory log).busyRun := by
  constructor
  · intro h
    constructor
    · intro before connHandle after heq
      exact h before connHandle (after ++ [e]) (by rw [heq]; simp)
    · rintro before connHandle rfl rfl
      exact h before connHandle [] (by simp)
  · rintro ⟨hlog, hlast⟩ before connHandle after heq
    -- the fallback is the new entry, or it was there
    rcases List.eq_nil_or_concat after with rfl | ⟨after', e', rfl⟩
    · rw [show busyStart :: [fallback connHandle] = [busyStart] ++ [fallback connHandle] from rfl,
        ← List.append_assoc] at heq
      obtain ⟨rfl, he⟩ := List.append_inj' heq rfl
      exact hlast before connHandle rfl (List.singleton_inj.mp he)
    · refine hlog before connHandle after' ?_
      rw [List.concat_eq_append, ← List.cons_append, ← List.cons_append,
        ← List.append_assoc] at heq
      exact List.append_inj_left' heq rfl

/-- New entries that are no fallback. -/
theorem fullBudget_append_of_not_fallback (h : ∀ e ∈ log', ∀ connHandle, e ≠ fallback connHandle) :
    FullBudget (log ++ log') ↔ FullBudget log := by
  induction log' generalizing log with
  | nil => rw [List.append_nil]
  | cons e log' ih =>
      rw [show log ++ e :: log' = (log ++ [e]) ++ log' by simp,
        ih fun e he => h e (List.mem_cons_of_mem _ he), fullBudget_concat]
      refine and_iff_left fun before connHandle _ he => ?_
      exact absurd he (h e List.mem_cons_self connHandle)

/-- New entries that are no busy start, after an entry that is none. -/
theorem fullBudget_append_of_ne_busyStart (hlast : log.getLast? ≠ some busyStart)
    (h : ∀ e ∈ log', e ≠ busyStart) : FullBudget (log ++ log') ↔ FullBudget log := by
  induction log' generalizing log with
  | nil => rw [List.append_nil]
  | cons e log' ih =>
      have hne : (log ++ [e]).getLast? ≠ some busyStart := by
        rw [List.getLast?_concat]
        exact fun he => h e List.mem_cons_self (Option.some.inj he)
      rw [show log ++ e :: log' = (log ++ [e]) ++ log' by simp,
        ih hne fun e he => h e (List.mem_cons_of_mem _ he), fullBudget_concat]
      refine and_iff_left fun before connHandle heq _ => ?_
      exact absurd (by rw [heq, List.getLast?_concat]) hlast

/-- A busy start with a fallback at once. -/
theorem fullBudget_append_exhausted (connHandle : ConnHandle) :
    FullBudget (log ++ [busyStart, fallback connHandle]) ↔
      FullBudget log ∧ maxStartDataCallRetries < (retryHistory log).busyRun + 1 := by
  have hbusy : (retryHistory (log ++ [busyStart])).busyRun = (retryHistory log).busyRun + 1 := by
    rw [retryHistory_append]
    rfl
  rw [show log ++ [busyStart, fallback connHandle]
    = (log ++ [busyStart]) ++ [fallback connHandle] by simp, fullBudget_concat, hbusy,
    fullBudget_append_of_not_fallback (by simp [busyStart, fallback])]
  refine and_congr_right fun _ => ⟨fun h => h log connHandle rfl rfl, fun h _ _ _ _ => h⟩

/-! ### One call of the DS machine -/

/-- The output is about no data call and posts no request for SUPL. -/
def AgpsOutput.neutral : AgpsOutput → Bool
  | .dsClientOpenAndStartDataCall _ => false
  | .sendMsgToAdapterQueue _ agpsType => agpsType ≠ locAgpsTypeSupl
  | _ => true

theorem foldl_output_neutral {outs : List AgpsOutput} (h : ∀ o ∈ outs, o.neutral = true)
    (hist : RetryHistory) : outs.foldl RetryHistory.output hist = hist := by
  induction outs with
  | nil => rfl
  | cons o outs ih =>
      have hstep : hist.output o = hist := by
        have ho := h o List.mem_cons_self
        cases o with
        | dsClientOpenAndStartDataCall ret => cases ho
        | sendMsgToAdapterQueue connHandle agpsType => exact if_neg (of_decide_eq_true ho)
        | _ => rfl
      rw [List.foldl_cons, hstep]
      exact ih fun o ho => h o (List.mem_cons_of_mem _ ho)

/-- The fallbacks of several subscribers. -/
def fallbacks (handles : List ConnHandle) : List AgpsOutput :=
  handles.map fun connHandle => .sendMsgToAdapterQueue connHandle locAgpsTypeSupl

/-- What one call of the DS machine can do about data calls, from the counter before to the counter
after. The first argument says that a busy start finds the counter used up. -/
inductive DataCallAttempt : Bool → Nat → List AgpsOutput → Nat → Prop
  | idle (retries : Nat) : DataCallAttempt false retries [] retries
  /-- The subscribers are denied, and the counter starts again. -/
  | denied (retries : Nat) (connHandle : ConnHandle) (handles : List ConnHandle) :
      DataCallAttempt false retries (fallbacks (connHandle :: handles)) 0
  | exhausted {retries : Nat} (connHandle : ConnHandle)
      (hused : maxStartDataCallRetries ≤ retries) :
      DataCallAttempt true retries
        (.dsClientOpenAndStartDataCall locApiAdapterErrEngineBusy :: fallbacks [connHandle]) 0
  | busy {retries : Nat} {timers : List AgpsOutput} (hleft : retries < maxStartDataCallRetries)
      (htimers : ∀ o ∈ timers, o.neutral = true) :
      DataCallAttempt false retries
        (.dsClientOpenAndStartDataCall locApiAdapterErrEngineBusy :: timers) (retries + 1)
  | unsupported (retries : Nat) (connHandle : ConnHandle) :
      DataCallAttempt false retries
        (.dsClientOpenAndStartDataCall locApiAdapterErrUnsupported :: fallbacks [connHandle]) 0
  | other (retries : Nat) {ret : Int} (hbusy : ret ≠ locApiAdapterErrEngineBusy) :
      DataCallAttempt false retries [.dsClientOpenAndStartDataCall ret] retries

namespace DataCallAttempt

variable {exhausted : Bool} {retries retries' : Nat} {outs : List AgpsOutput}

/-- The history counts what the machine counts. -/
theorem retries_eq (h : DataCallAttempt exhausted retries outs retries') {hist : RetryHistory}
    (hretries : hist.retries = retries) :
    (outs.foldl RetryHistory.output hist).retries = retries' := by
  have hdenied : ∀ handles, ((fallbacks handles).foldl RetryHistory.output .new).retries = 0 := by
    intro handles
    induction handles with
    | nil => rfl
    | cons connHandle handles ih => exact ih
  cases h with
  | idle => exact hretries
  | denied _ connHandle handles => exact hdenied handles
  | exhausted => rfl
  | busy hleft htimers =>
      rw [List.foldl_cons, foldl_output_neutral htimers]
      exact congrArg (· + 1) hretries
  | unsupported => rfl
  | other _ hbusy =>
      show (if _ then _ else _ : RetryHistory).retries = _
      rw [if_neg hbusy]
      exact hretries

/-- The counter stays in its range. -/
theorem retries_le (h : DataCallAttempt exhausted retries outs retries')
    (hle : retries ≤ maxStartDataCallRetries) : retries' ≤ maxStartDataCallRetries := by
  cases h with
  | idle => exact hle
  | busy hleft => exact hleft
  | other => exact hle
  | _ => exact Nat.zero_le _

end DataCallAttempt

/-- One call of the DS machine: notifications that deny nothing, and then an attempt. -/
def AgpsStateMachine.Attempts (m : AgpsStateMachine) (exhausted : Bool)
    (r : AgpsStateMachine × List AgpsOutput) : Prop :=
  ∃ notified outs, r.2 = notified ++ outs ∧ (∀ o ∈ notified, o.neutral = true) ∧
    DataCallAttempt exhausted m.mRetries outs r.1.mRetries

namespace AgpsStateMachine

variable {m m' : AgpsStateMachine} {outs : List AgpsOutput}

/-- The next start of a data call is busy and finds the counter used up. -/
def exhausts (m : AgpsStateMachine) (env : AgpsEnv) : Bool :=
  m.anyActiveSubscribers &&
    env.mDSClientOpenAndStartDataCallFn == some locApiAdapterErrEngineBusy &&
    maxStartDataCallRetries ≤ m.mRetries

/-- A call that only notifies. -/
theorem attempts_of_neutral (hretries : m'.mRetries = m.mRetries)
    (houts : ∀ o ∈ outs, o.neutral = true) : m.Attempts false (m', outs) := by
  refine ⟨outs, [], (List.append_nil _).symm, houts, ?_⟩
  rw [show (m', outs).1.mRetries = m.mRetries from hretries]
  exact .idle _

/-- Every event but the denial is neutral for the DS class. -/
theorem neutral_notifyOuts (hcls : m.cls = .dsStateMachine) (event : AgpsEvent)
    (hevent : event ≠ .denied) (l : List AgpsSubscriber) :
    ∀ o ∈ l.flatMap (m.notifyOuts event), o.neutral = true := by
  intro o ho
  obtain ⟨sub, -, hsub⟩ := List.mem_flatMap.mp ho
  unfold notifyOuts notifyEvent at hsub
  rw [hcls] at hsub
  cases event <;> simp at hsub
  case released =>
    rcases hsub with rfl | rfl <;> rfl
  case denied => exact absurd rfl hevent
  all_goals
    subst hsub
    rfl

/-- The loop of `notifyAllSubscribers` for a denial: the counter starts again with the first
subscriber that is notified. -/
theorem mRetries_notifyAllLoop_denied (hcls : m.cls = .dsStateMachine) (delete : Bool)
    (l : List AgpsSubscriber) (hne : l ≠ []) :
    (notifyAllLoop .denied delete .forAllSubscribers m l).1.mRetries = 0 := by
  induction l generalizing m with
  | nil => exact absurd rfl hne
  | cons sub rest ih =>
      unfold notifyAllLoop
      rw [if_pos (show AgpsNotificationType.selects .forAllSubscribers sub = true from rfl)]
      have hnotify : m.notifyEventToSubscriber .denied sub false
          = ({ m with mRetries := 0 }, fallbacks [sub.mConnHandle]) := by
        unfold notifyEventToSubscriber notifyEvent
        rw [hcls]
        rfl
      rw [hnotify]
      dsimp only
      cases rest with
      | nil => rfl
      | cons sub' rest => exact ih (by exact hcls) (by simp)

/-- A request of the DS class. -/
theorem dataCallAttempt_request (hcls : m.cls = .dsStateMachine) (env : AgpsEnv) :
    DataCallAttempt (m.exhausts env) m.mRetries (m.requestOrReleaseDataConn env true).2.1
      (m.requestOrReleaseDataConn env true).1.mRetries := by
  have hcodes : locApiAdapterErrEngineBusy ≠ locApiAdapterErrUnsupported := by decide
  cases hfirst : m.getFirstSubscriber false with
  | none =>
      -- nobody is served, so there is no attempt
      have hnone := getFirstSubscriber_eq_none.mp hfirst
      rw [requestOrReleaseDataConn_inactive hcls env hnone,
        show m.exhausts env = false by simp [exhausts, hnone]]
      exact .idle _
  | some sub =>
      have hactive : m.anyActiveSubscribers = true := by
        rw [← Bool.not_eq_false, ← getFirstSubscriber_eq_none, hfirst]
        simp
      unfold requestOrReleaseDataConn exhausts
      rw [hcls, hfirst, hactive]
      cases env.mDSClientOpenAndStartDataCallFn with
      | none =>
          simp only [notifyEventToSubscriber, notifyEvent, hcls]
          exact .denied _ sub.mConnHandle []
      | some ret =>
          by_cases hbusy : ret = locApiAdapterErrEngineBusy
          · subst hbusy
            -- a busy modem costs one retry, and the last one denies the request
            by_cases hretries : maxStartDataCallRetries ≤ m.mRetries
            · have hlt : maxStartDataCallRetries < m.mRetries + 1 := Nat.lt_succ_of_le hretries
              simp only [notifyEventToSubscriber, notifyEvent, hretries, hlt]
              exact .exhausted sub.mConnHandle hretries
            · have hlt : ¬ maxStartDataCallRetries < m.mRetries + 1 := by omega
              have hleft : m.mRetries < maxStartDataCallRetries := Nat.lt_of_not_le hretries
              cases env.locTimerStart with
              | true =>
                  simp only [hretries, hlt, if_true, if_false, decide_false, Bool.and_false]
                  exact .busy hleft (by simp [AgpsOutput.neutral])
              | false =>
                  simp only [hretries, hlt, if_true, if_false, decide_false, Bool.and_false]
                  exact .busy hleft (by simp)
          · have hflag : (some ret == some locApiAdapterErrEngineBusy) = false := by simp [hbusy]
            by_cases hunsupported : ret = locApiAdapterErrUnsupported
            · subst hunsupported
              simp only [notifyEventToSubscriber, notifyEvent, hcls, hflag, if_neg hcodes.symm]
              exact .unsupported _ sub.mConnHandle
            · simp only [hflag, if_neg hbusy, if_neg hunsupported]
              exact .other _ hbusy

/-- A subscription of the DS class attempts a data call in the released state. -/
theorem attempts_subscribe (hcls : m.cls = .dsStateMachine) (env : AgpsEnv)
    (sub : AgpsSubscriber) :
    m.Attempts (decide (m.mState = .released) && (m.addSubscriber sub).exhausts env)
      (m.processAgpsEventSubscribe env sub) := by
  have hretries : (m.addSubscriber sub).mRetries = m.mRetries := by rw [addSubscriber_eq]
  have hcls' : (m.addSubscriber sub).cls = .dsStateMachine := by rw [addSubscriber_eq]; exact hcls
  unfold processAgpsEventSubscribe
  cases hst : m.mState with
  | invalid => exact attempts_of_neutral rfl (by simp)
  | released =>
      refine ⟨[], _, rfl, by simp, ?_⟩
      have hattempt := dataCallAttempt_request hcls' env
      rw [hretries] at hattempt
      dsimp only
      split <;> exact hattempt
  | pending => exact attempts_of_neutral hretries (by simp)
  | acquired =>
      obtain ⟨r, hnotify, hr⟩ := notifyEventToSubscriber_eq m .granted sub
      dsimp only
      rw [hnotify]
      refine attempts_of_neutral ?_ fun o ho => ?_
      · rw [addSubscriber_eq]
        exact hr (by simp)
      · exact neutral_notifyOuts hcls .granted (by simp) [sub] o (by simpa using ho)
  | releasing => exact attempts_of_neutral hretries (by simp)

/-- An unsubscription attempts no data call. -/
theorem attempts_unsubscribe (hcls : m.cls = .dsStateMachine) (env : AgpsEnv)
    (sub : AgpsSubscriber) (hvalid : m.mState ≠ .invalid) :
    m.Attempts false (m.processAgpsEventUnsubscribe env sub) := by
  have hretries : (m.processAgpsEventUnsubscribe env sub).1.mRetries = m.mRetries := by
    by_cases hreleased : m.mState = .released
    · rw [processAgpsEventUnsubscribe_released hreleased]
    · rw [processAgpsEventUnsubscribe_eq m env sub hvalid hreleased]
  have houts : ∀ o ∈ (m.processAgpsEventUnsubscribe env sub).2, o.neutral = true := by
    intro o ho
    rcases of_mem_unsubscribe hvalid ho with rfl | ho
    · rfl
    · rcases of_mem_releaseOuts ho with ⟨hbase, -⟩ | ⟨-, rfl⟩
      · rw [hcls] at hbase
        cases hbase
      · rfl
  exact attempts_of_neutral hretries houts

/-- The clearing of the list attempts no data call: a denial starts the counter again when there
is a subscriber to notify. -/
theorem attempts_clear (hcls : m.cls = .dsStateMachine) (event : AgpsEvent) :
    m.Attempts false
      ((m.transitionState .released).notifyAllSubscribers event true .forAllSubscribers) := by
  by_cases hdenied : event = .denied
  · subst hdenied
    obtain ⟨r, hclear⟩ := notifyAndClear_eq m .denied
    have houts : m.mSubscriberList.flatMap (m.notifyOuts .denied)
        = fallbacks (m.mSubscriberList.map AgpsSubscriber.mConnHandle) := by
      have hnotify : ∀ sub, m.notifyOuts .denied sub = fallbacks [sub.mConnHandle] := by
        intro sub
        unfold notifyOuts notifyEvent
        rw [hcls]
        rfl
      rw [funext hnotify, fallbacks, List.map_map, List.map_eq_flatMap]
      rfl
    have hr : r = if m.mSubscriberList = [] then m.mRetries else 0 := by
      have hfst := congrArg (fun p => p.1.mRetries) hclear
      change (notifyAllLoop .denied true .forAllSubscribers (m.transitionState .released)
        m.mSubscriberList).1.mRetries = r at hfst
      rw [← hfst]
      split
      · rename_i hnil
        rw [hnil]
        rfl
      · rename_i hne
        exact mRetries_notifyAllLoop_denied (by exact hcls) true _ hne
    rw [hclear, houts, hr]
    refine ⟨[], _, rfl, by simp, ?_⟩
    dsimp only
    cases m.mSubscriberList with
    | nil => exact .idle _
    | cons sub rest => exact .denied _ sub.mConnHandle (rest.map AgpsSubscriber.mConnHandle)
  · obtain ⟨r, hclear, hr⟩ := notifyAllSubscribers_eq (m.transitionState .released) event true
      .forAllSubscribers
    rw [hclear]
    exact attempts_of_neutral (hr hdenied) (neutral_notifyOuts (by exact hcls) _ hdenied _)

/-- A report to the DS class attempts a data call at the end of a release. -/
theorem attempts_report (hcls : m.cls = .dsStateMachine) (env : AgpsEnv) (event : AgpsEvent) :
    m.Attempts (decide (m.mState = .releasing ∧ (event = .released ∨ event = .denied)) &&
      m.exhausts env) (m.processReport env event) := by
  by_cases hend : m.mState = .releasing ∧ (event = .released ∨ event = .denied)
  · have hfinish : m.processReport env event = m.finishReleasing env := by
      unfold processReport translateEvent
      rcases hend.2 with rfl | rfl <;>
        simp [hend.1, processAgpsEventReleased, processAgpsEventDenied]
    have hnotified := neutral_notifyOuts hcls .released (by simp)
      (m.mSubscriberList.filter fun s => s.mIsInactive)
    rw [hfinish, finishReleasing_eq, decide_eq_true hend, Bool.true_and]
    split
    · rename_i hactive
      refine ⟨_, _, rfl, hnotified, ?_⟩
      have hexhausts : m.exhausts env = AgpsStateMachine.exhausts { m with
          mState := .pending
          mSubscriberList := m.mSubscriberList.filter fun s => !s.mIsInactive } env := by
        unfold exhausts anyActiveSubscribers
        rw [List.any_filter]
        simp
      rw [hexhausts]
      exact dataCallAttempt_request (by exact hcls) env
    · rename_i hactive
      rw [show m.exhausts env = false by simp [exhausts, hactive]]
      exact attempts_of_neutral rfl hnotified
  · rw [decide_eq_false hend, Bool.false_and]
    rcases processReport_cases m env event with heq | ⟨hst, -, heq⟩ | ⟨notified, hnotified, heq⟩ |
      ⟨hst, hclose, -⟩
    · rw [heq]
      exact attempts_of_neutral rfl (by simp)
    · rw [heq, processAgpsEventGranted_eq hst]
      exact attempts_of_neutral rfl (neutral_notifyOuts hcls _ (by simp) _)
    · rw [heq]
      exact attempts_clear hcls notified
    · exact absurd ⟨hst, hclose⟩ hend

end AgpsStateMachine

/-- The history after a call of the DS machine. The exhausted start has its full budget if and only
if nothing has interrupted the row. -/
theorem fullBudget_attempts {m : AgpsStateMachine} {exhausted : Bool}
    {r : AgpsStateMachine × List AgpsOutput} (h : m.Attempts exhausted r)
    (hlast : log.getLast? ≠ some busyStart) (hcount : (retryHistory log).retries = m.mRetries)
    (hrange : m.mRetries ≤ maxStartDataCallRetries) :
    FullBudget (log ++ r.2.map (.output (some .ds))) ↔
      FullBudget log ∧ (exhausted = true → (retryHistory log).interrupted = false) := by
  obtain ⟨notified, outs, hr, hneutral, hattempt⟩ := h
  have hnotFallback : ∀ o : AgpsOutput, o.neutral = true → ∀ connHandle,
      AgpsLogEntry.output (some .ds) o ≠ fallback connHandle := by
    rintro o ho connHandle heq
    cases heq
    cases ho
  have hnotBusy : ∀ o : AgpsOutput, o.neutral = true →
      AgpsLogEntry.output (some .ds) o ≠ busyStart := by
    rintro o ho heq
    cases heq
    cases ho
  -- the notifications change nothing
  have hhist : retryHistory (log ++ notified.map (.output (some .ds))) = retryHistory log := by
    rw [retryHistory_append, foldl_entry_output, foldl_output_neutral hneutral]
  have hbudget : FullBudget (log ++ notified.map (.output (some .ds))) ↔ FullBudget log := by
    refine fullBudget_append_of_not_fallback fun e he => ?_
    obtain ⟨o, ho, rfl⟩ := List.mem_map.mp he
    exact hnotFallback o (hneutral o ho)
  have hlast' : (log ++ notified.map (AgpsLogEntry.output (some .ds))).getLast?
      ≠ some busyStart := by
    rcases List.eq_nil_or_concat notified with rfl | ⟨notified', o, rfl⟩
    · rwa [List.map_nil, List.append_nil]
    · rw [List.concat_eq_append, List.map_append, ← List.append_assoc, List.map_singleton,
        List.getLast?_concat]
      exact fun heq => hnotBusy o (hneutral o (by simp)) (Option.some.inj heq)
  rw [hr, List.map_append, ← List.append_assoc, ← hbudget, ← hhist]
  rw [← hhist] at hcount
  generalize log ++ notified.map (AgpsLogEntry.output (some .ds)) = log' at hlast' hcount ⊢
  generalize m.mRetries = retries, r.1.mRetries = retries' at hattempt hcount hrange
  cases hattempt with
  | idle => simp
  | denied _ connHandle handles =>
      -- a fallback counts only right after a start that was busy
      rw [and_iff_left (by simp)]
      refine fullBudget_append_of_ne_busyStart hlast' fun e he => ?_
      simp only [fallbacks, List.map_map, List.mem_map, Function.comp_apply] at he
      obtain ⟨handle, -, rfl⟩ := he
      simp [busyStart]
  | exhausted connHandle hused =>
      -- all retries are used up, so the run of busy starts has its full length
      refine (fullBudget_append_exhausted connHandle).trans (and_congr_right fun _ => ?_)
      have hfull : (retryHistory log').retries = maxStartDataCallRetries := by omega
      have hiff := (retryHistory_coherent log').busyRun_lt_iff
      rw [hfull] at hiff
      rw [Nat.lt_succ_iff, ← Nat.not_lt, hiff]
      simp
  | busy hleft htimers =>
      rw [and_iff_left (by simp)]
      refine fullBudget_append_of_not_fallback fun e he => ?_
      rw [List.map_cons, List.mem_cons] at he
      rcases he with rfl | he
      · simp [fallback]
      · obtain ⟨o, ho, rfl⟩ := List.mem_map.mp he
        exact hnotFallback o (htimers o ho)
  | unsupported _ connHandle =>
      rw [and_iff_left (by simp)]
      refine fullBudget_append_of_ne_busyStart hlast' fun e he => ?_
      simp only [fallbacks, List.map_cons, List.map_nil, List.mem_cons, List.not_mem_nil,
        or_false] at he
      rcases he with rfl | rfl
      · simp [busyStart, locApiAdapterErrUnsupported, locApiAdapterErrEngineBusy]
      · simp [busyStart]
  | other _ hbusy =>
      rw [and_iff_left (by simp)]
      refine fullBudget_append_of_not_fallback fun e he => ?_
      rw [List.map_singleton, List.mem_singleton] at he
      rw [he]
      simp [fallback]

/-- The history counts what the machine counts. -/
theorem retries_attempts {m : AgpsStateMachine} {exhausted : Bool}
    {r : AgpsStateMachine × List AgpsOutput} (h : m.Attempts exhausted r)
    (hcount : (retryHistory log).retries = m.mRetries) :
    (retryHistory (log ++ r.2.map (.output (some .ds)))).retries = r.1.mRetries := by
  obtain ⟨notified, outs, hr, hneutral, hattempt⟩ := h
  rw [retryHistory_append, foldl_entry_output, hr, List.foldl_append,
    foldl_output_neutral hneutral]
  exact hattempt.retries_eq hcount

namespace AgpsLogEntry

/-- The entry is no data call and no fallback of the DS machine. -/
def quiet : AgpsLogEntry → Bool
  | .output (some .ds) out => out.neutral
  | _ => true

end AgpsLogEntry

/-- A quiet entry leaves the counter alone. -/
theorem retries_entry_quiet (he : e.quiet = true) (hist : RetryHistory) :
    (hist.entry e).retries = hist.retries := by
  unfold RetryHistory.entry
  split
  · rename_i out
    have hout : ∀ o ∈ [out], o.neutral = true := by simpa using (show out.neutral = true from he)
    exact congrArg RetryHistory.retries (foldl_output_neutral hout hist)
  · rfl
  · rfl

theorem retries_append_quiet (h : ∀ e ∈ log', e.quiet = true) :
    (retryHistory (log ++ log')).retries = (retryHistory log).retries := by
  rw [retryHistory_append]
  generalize retryHistory log = hist
  induction log' generalizing hist with
  | nil => rfl
  | cons e log' ih =>
      rw [List.foldl_cons, ih (fun e he => h e (List.mem_cons_of_mem _ he)),
        retries_entry_quiet (h e List.mem_cons_self)]

/-- Quiet entries contain no fallback. -/
theorem fullBudget_append_quiet (h : ∀ e ∈ log', e.quiet = true) :
    FullBudget (log ++ log') ↔ FullBudget log := by
  refine fullBudget_append_of_not_fallback fun e he connHandle heq => ?_
  have hquiet := h e he
  rw [heq] at hquiet
  cases hquiet

namespace AgpsSystem

open AgpsStateMachine (Sane)
open AgpsManager (newSm)

variable {s s' t : AgpsSystem} {nif : Nif} {r : AgpsStateMachine × List AgpsOutput}

/-- `mRetries` of the DS machine, if there is one. -/
def mRetries (s : AgpsSystem) : Nat := (s.sm .ds).elim 0 AgpsStateMachine.mRetries

/-- The step starts a data call that is busy and finds the counter used up. It is about the state
before the step and the answer that comes in it. A data call is started by a request that finds the
machine released, and by the end of a release with an active subscriber. -/
def Exhausts (s : AgpsSystem) (i : AgpsCall × AgpsEnv) : Prop :=
  ∃ m ∈ s.sm .ds,
    (∃ request ∈ s.requestOf i.1, route i.2 request.2.1 = .ds ∧ m.mState = .released ∧
      (m.addSubscriber (newSubscriber request.1 request.2.1)).exhausts i.2 = true) ∨
    ∃ report ∈ reportOf i.2 i.1, report.1 = .ds ∧
      (m.mState = .releasing ∧ (report.2 = .released ∨ report.2 = .denied)) ∧
      m.exhausts i.2 = true

/-- The condition on one step: when a busy result finds the counter used up, nothing has interrupted
the row since the counter started. The fallback then comes after as many busy results in a row as
there are retries. An interruption that a denial has made the counter forget does no harm. -/
def RowUninterrupted (s : AgpsSystem) (i : AgpsCall × AgpsEnv) : Prop :=
  s.Exhausts i → (retryHistory s.log).interrupted = false

/-- What every step keeps. -/
structure Counted (s : AgpsSystem) : Prop where
  count : (retryHistory s.log).retries = s.mRetries
  range : s.mRetries ≤ maxStartDataCallRetries
  sane : ∀ nif m, s.sm nif = some m → Sane nif m

theorem counted_init : Counted init where
  count := rfl
  range := Nat.zero_le _
  sane := sane_init

/-- The counter of a machine that is there. -/
theorem mRetries_of_sm {m : AgpsStateMachine} (hm : s.sm .ds = some m) :
    s.mRetries = m.mRetries := by
  unfold mRetries
  rw [hm]
  rfl

/-- A created DS machine has used up nothing. -/
theorem mRetries_of_created {env : AgpsEnv} (hcreated : Created env s s') :
    s'.mRetries = s.mRetries := by
  unfold mRetries
  rcases hcreated.sm .ds with hsame | ⟨hnone, hnew⟩
  · rw [hsame]
  · rw [hnone, hnew]
    rfl

/-- The history before the DS machine runs: the creation of machines adds nothing to it. -/
theorem log_created {call : AgpsCall} {env : AgpsEnv} (hcreated : Created env (s.dequeue call) s') :
    ∃ outs : List AgpsOutput, s'.log = s.log ++ outs.map (.output none) ∧
      retryHistory s'.log = retryHistory s.log := by
  obtain ⟨outs, hlog, -⟩ := hcreated.log
  rw [log_dequeue] at hlog
  refine ⟨outs, hlog, ?_⟩
  rw [hlog, retryHistory_append, List.foldl_map]
  exact List.foldl_fixed' (fun _ => rfl) outs

theorem fullBudget_created {call : AgpsCall} {env : AgpsEnv}
    (hcreated : Created env (s.dequeue call) s') : FullBudget s'.log ↔ FullBudget s.log := by
  obtain ⟨outs, hlog, -⟩ := log_created hcreated
  rw [hlog]
  refine fullBudget_append_quiet fun e he => ?_
  obtain ⟨o, -, rfl⟩ := List.mem_map.mp he
  rfl

/-- An entry that the DS machine runs on. -/
theorem quiet_of_ne {e : AgpsLogEntry} (he : ∀ out, e ≠ .output (some .ds) out) :
    e.quiet = true := by
  unfold AgpsLogEntry.quiet
  split
  · rename_i out
    exact absurd rfl (he out)
  · rfl

theorem retries_note (hs : s.Counted) {call : AgpsCall} {env : AgpsEnv}
    (hcreated : Created env (s.dequeue call) s') {e : AgpsLogEntry} (he : e.quiet = true) :
    retryHistory (s'.note e).log = (retryHistory s.log).entry e ∧
      (retryHistory (s'.note e).log).retries = s.mRetries := by
  have hentry : retryHistory (s'.note e).log = (retryHistory s.log).entry e := by
    rw [log_note, retryHistory_append, (log_created hcreated).choose_spec.2]
    rfl
  exact ⟨hentry, by rw [hentry, retries_entry_quiet he, hs.count]⟩

/-- The DS machine ran: the history has its full budget if and only if it had before, and nothing
has interrupted the row where the start is exhausted. -/
theorem fullBudget_runDs (hs : s.Counted) {call : AgpsCall} {env : AgpsEnv}
    (hcreated : Created env (s.dequeue call) s') {m : AgpsStateMachine}
    (hm : m.mRetries = s.mRetries) {e : AgpsLogEntry} (he : ∀ out, e ≠ .output (some .ds) out)
    {exhausted : Bool} (hattempt : m.Attempts exhausted r) :
    FullBudget ((s'.note e).runSm .ds r).log ↔ FullBudget s.log ∧
      (exhausted = true → ((retryHistory s.log).entry e).interrupted = false) := by
  obtain ⟨hentry, hcount⟩ := retries_note hs hcreated (quiet_of_ne he)
  have hlast : (s'.note e).log.getLast? ≠ some busyStart := by
    rw [log_note, List.getLast?_concat]
    exact fun heq => he _ (Option.some.inj heq)
  rw [log_runSm, fullBudget_attempts hattempt hlast (hcount.trans hm.symm) (hm ▸ hs.range),
    hentry, log_note, fullBudget_append_quiet (by simpa using quiet_of_ne he),
    fullBudget_created hcreated]

/-- The DS machine ran: it counts what the history counts. -/
theorem count_runDs (hs : s.Counted) {call : AgpsCall} {env : AgpsEnv}
    (hcreated : Created env (s.dequeue call) s') {m : AgpsStateMachine}
    (hm : m.mRetries = s.mRetries) {e : AgpsLogEntry} (he : ∀ out, e ≠ .output (some .ds) out)
    {exhausted : Bool} (hattempt : m.Attempts exhausted r) :
    (retryHistory ((s'.note e).runSm .ds r).log).retries = ((s'.note e).runSm .ds r).mRetries ∧
      ((s'.note e).runSm .ds r).mRetries ≤ maxStartDataCallRetries := by
  obtain ⟨-, hcount⟩ := retries_note hs hcreated (quiet_of_ne he)
  rw [mRetries_of_sm (sm_runSm_self _ _ _), log_runSm,
    retries_attempts hattempt (hcount.trans hm.symm)]
  obtain ⟨_, _, _, _, hcall⟩ := hattempt
  exact ⟨rfl, hcall.retries_le (hm ▸ hs.range)⟩

/-- A step on which the DS machine does not run, or only notifies. -/
def Quiet (s t : AgpsSystem) : Prop :=
  ∃ log', t.log = s.log ++ log' ∧ (∀ e ∈ log', e.quiet = true) ∧ t.mRetries = s.mRetries

/-- A step on which the DS machine runs. An exhausted start finds the history as it was. -/
def RunsDs (s : AgpsSystem) (i : AgpsCall × AgpsEnv) (t : AgpsSystem) : Prop :=
  ∃ s' e exhausted r, ∃ m : AgpsStateMachine,
    Created i.2 (s.dequeue i.1) s' ∧ m.mRetries = s.mRetries ∧
    (∀ out, e ≠ .output (some .ds) out) ∧ m.Attempts exhausted r ∧
    t = (s'.note e).runSm .ds r ∧
    (exhausted = true → s.Exhausts i ∧ (retryHistory s.log).entry e = retryHistory s.log)

/-- The creation of machines, and quiet entries. -/
theorem quiet_of_created {call : AgpsCall} {env : AgpsEnv}
    (hcreated : Created env (s.dequeue call) s') (log' : List AgpsLogEntry)
    (hlog : t.log = s'.log ++ log') (hquiet : ∀ e ∈ log', e.quiet = true)
    (hretries : t.mRetries = s'.mRetries) : s.Quiet t := by
  obtain ⟨outs, hcreatedLog, -⟩ := log_created hcreated
  refine ⟨outs.map (.output none) ++ log', by rw [hlog, hcreatedLog, List.append_assoc], ?_, ?_⟩
  · intro e he
    rcases List.mem_append.mp he with he | he
    · obtain ⟨o, -, rfl⟩ := List.mem_map.mp he
      rfl
    · exact hquiet e he
  · rw [hretries, mRetries_of_created hcreated]
    unfold mRetries
    rw [sm_dequeue]

/-- A base machine ran. -/
theorem quiet_runSm_of_ne {call : AgpsCall} {env : AgpsEnv}
    (hcreated : Created env (s.dequeue call) s') (hne : nif ≠ .ds) {e : AgpsLogEntry}
    (he : e.quiet = true) : s.Quiet ((s'.note e).runSm nif r) := by
  refine quiet_of_created hcreated (e :: r.2.map (.output (some nif))) (by simp) ?_ ?_
  · intro e' he'
    rcases List.mem_cons.mp he' with rfl | he'
    · exact he
    · obtain ⟨o, -, rfl⟩ := List.mem_map.mp he'
      cases nif with
      | ds => exact absurd rfl hne
      | _ => rfl
  · unfold mRetries
    rw [sm_runSm_of_ne _ hne.symm]
    rfl

/-- The two kinds of steps. -/
theorem quiet_or_runsDs (hs : s.Counted) {i : AgpsCall × AgpsEnv} (ht : s.step i = some t) :
    s.Quiet t ∨ s.RunsDs i t := by
  obtain ⟨call, env⟩ := i
  obtain ⟨s', hcreated, hdispatch⟩ := step_cases ht
  have hsane : ∀ nif m, s'.sm nif = some m → Sane nif m :=
    hcreated.forall sane_newSm fun nif m hm => hs.sane nif m (by rwa [sm_dequeue] at hm)
  have hretries : ∀ m, s'.sm .ds = some m → m.mRetries = s.mRetries := by
    intro m hm
    rw [← mRetries_of_sm hm, mRetries_of_created hcreated]
    unfold mRetries
    rw [sm_dequeue]
  -- an exhausted machine has counted something, so it was there
  have hold : ∀ m, s'.sm .ds = some m → m.mRetries ≠ 0 → s.sm .ds = some m := by
    intro m hm hne
    rcases hcreated.sm .ds with hsame | ⟨-, hnew⟩
    · rw [← hm, hsame, sm_dequeue]
    · cases hm.symm.trans hnew
      exact absurd rfl hne
  have hused : ∀ m : AgpsStateMachine, m.exhausts env = true → m.mRetries ≠ 0 := by
    intro m hm hzero
    simp [AgpsStateMachine.exhausts, hzero, maxStartDataCallRetries] at hm
  cases hdispatch with
  | idle => exact Or.inl (quiet_of_created hcreated [] (by simp) (by simp) rfl)
  | requestNull =>
      have hlog := List.append_assoc s'.log
      refine Or.inl (quiet_of_created hcreated _ (by rw [log_emit, log_note, hlog]) ?_ rfl)
      simp [AgpsLogEntry.quiet]
  | @request _ connHandle agpsType posted m hcall hsm =>
      by_cases hds : route env agpsType = .ds
      · rw [hds] at hsm ⊢
        refine Or.inr ⟨s', _, _, _, m, hcreated, hretries m hsm, by simp,
          AgpsStateMachine.attempts_subscribe (hsane .ds m hsm).cls env _, rfl, ?_⟩
        intro hexhausted
        rw [Bool.and_eq_true, decide_eq_true_eq] at hexhausted
        have hne : m.mRetries ≠ 0 := by
          have hne := hused _ hexhausted.2
          rwa [AgpsStateMachine.addSubscriber_eq] at hne
        exact ⟨⟨m, hold m hsm hne, Or.inl ⟨_, hcall, hds, hexhausted⟩⟩, rfl⟩
      · exact Or.inl (quiet_runSm_of_ne hcreated hds rfl)
  | releaseNone =>
      have hlog := List.append_assoc s'.log
      refine Or.inl (quiet_of_created hcreated _ (by rw [log_emit, log_note, hlog]) ?_ rfl)
      simp [AgpsLogEntry.quiet]
  | @release connHandle nif rest m subscriber _ hholders hsm hsub =>
      by_cases hds : nif = .ds
      · subst hds
        have hm := hsane .ds m hsm
        refine Or.inr ⟨s', _, _, _, m, hcreated, hretries m hsm, by simp,
          AgpsStateMachine.attempts_unsubscribe hm.cls env _ hm.list.valid, rfl, by simp⟩
      · exact Or.inl (quiet_runSm_of_ne hcreated hds rfl)
  | @report _ nif event m hcall hsm apn bearer =>
      by_cases hds : nif = .ds
      · subst hds
        refine Or.inr ⟨s', _, _, _, { m with mAPN := apn, mBearer := bearer }, hcreated,
          hretries m hsm, by simp,
          AgpsStateMachine.attempts_report (by exact (hsane .ds m hsm).cls) env event, rfl, ?_⟩
        intro hexhausted
        rw [Bool.and_eq_true, decide_eq_true_eq] at hexhausted
        have hne : m.mRetries ≠ 0 := hused _ hexhausted.2
        refine ⟨⟨m, hold m hsm hne, Or.inr ⟨_, hcall, rfl, hexhausted⟩⟩, ?_⟩
        rcases hexhausted.1.2 with rfl | rfl <;> rfl
      · exact Or.inl (quiet_runSm_of_ne hcreated hds rfl)
  | modemSSR =>
      obtain ⟨outs, hlog, -⟩ := log_handleModemSSR s' env
      refine Or.inl (quiet_of_created hcreated _ hlog ?_ ?_)
      · intro e he
        obtain ⟨o, -, rfl⟩ := List.mem_map.mp he
        rfl
      · unfold mRetries
        rw [sm_handleModemSSR]
        cases s'.sm .ds <;> rfl
  | @retry n m htimers hsm =>
      refine Or.inl (quiet_of_created hcreated
        (m.retryCallback.map (.output (some .ds))) (by simp) ?_ rfl)
      intro e he
      obtain ⟨o, ho, rfl⟩ := List.mem_map.mp he
      unfold AgpsStateMachine.retryCallback at ho
      split at ho
      · cases ho
      · rw [List.mem_singleton.mp ho]
        rfl

/-- Every step keeps the count. -/
theorem Counted.step {i : AgpsCall × AgpsEnv} (hs : s.Counted) (ht : s.step i = some t) :
    t.Counted := by
  rcases quiet_or_runsDs hs ht with ⟨log', hlog, hquiet, hretries⟩ |
    ⟨s', e, exhausted, r, m, hcreated, hm, he, hattempt, rfl, -⟩
  · refine ⟨?_, hretries ▸ hs.range, sane_step hs.sane ht⟩
    rw [hlog, retries_append_quiet hquiet, hretries, hs.count]
  · obtain ⟨hcount, hrange⟩ := count_runDs hs hcreated hm he hattempt
    exact ⟨hcount, hrange, sane_step hs.sane ht⟩

/-- A step that meets the condition keeps the budget. -/
theorem fullBudget_step {i : AgpsCall × AgpsEnv} (hs : s.Counted) (hbudget : FullBudget s.log)
    (hok : s.RowUninterrupted i) (ht : s.step i = some t) : FullBudget t.log := by
  rcases quiet_or_runsDs hs ht with ⟨log', hlog, hquiet, -⟩ |
    ⟨s', e, exhausted, r, m, hcreated, hm, he, hattempt, rfl, hexhausted⟩
  · rw [hlog, fullBudget_append_quiet hquiet]
    exact hbudget
  · refine (fullBudget_runDs hs hcreated hm he hattempt).mpr ⟨hbudget, fun hflag => ?_⟩
    obtain ⟨hexhausts, hentry⟩ := hexhausted hflag
    rw [hentry]
    exact hok hexhausts

/-- The condition is exact for one step: an exhausted start is a step, and it ends a full row if
nothing has interrupted the row only. -/
theorem exists_step_of_exhausts {i : AgpsCall × AgpsEnv} (hs : s.Counted) (h : s.Exhausts i) :
    ∃ t, s.step i = some t ∧
      (FullBudget t.log → (retryHistory s.log).interrupted = false) := by
  obtain ⟨call, env⟩ := i
  obtain ⟨m, hm, hcase⟩ := h
  have hcls := (hs.sane .ds m hm).cls
  have hretries : m.mRetries = s.mRetries := (mRetries_of_sm hm).symm
  rcases hcase with ⟨⟨connHandle, agpsType, posted⟩, hcall, hds, hexhausted⟩ |
    ⟨⟨nif, event⟩, hcall, hds, hclose, hexhausted⟩
  · dsimp only at hds hexhausted
    obtain ⟨s', hcreated, hstep⟩ := step_of_request (m := m) hcall (by rw [hds]; exact hm)
    rw [hds] at hstep
    refine ⟨_, hstep, fun hbudget => ?_⟩
    have hattempt := AgpsStateMachine.attempts_subscribe hcls env
      (newSubscriber connHandle agpsType)
    rw [decide_eq_true hexhausted.1, hexhausted.2] at hattempt
    exact ((fullBudget_runDs hs hcreated hretries (by simp) hattempt).mp hbudget).2 rfl
  · obtain rfl : nif = .ds := hds
    dsimp only at hclose
    obtain ⟨s', apn, bearer, hcreated, hstep⟩ := step_of_report hcall hm
    refine ⟨_, hstep, fun hbudget => ?_⟩
    have hattempt := AgpsStateMachine.attempts_report
      (m := { m with mAPN := apn, mBearer := bearer }) (by exact hcls) env event
    rw [decide_eq_true hclose, show AgpsStateMachine.exhausts { m with
      mAPN := apn, mBearer := bearer } env = true from hexhausted] at hattempt
    have hdequeue : s.dequeue call = s := by
      cases call <;> first | rfl | cases hcall
    rw [← hdequeue] at hcreated
    have hrow := ((fullBudget_runDs hs hcreated hretries (by simp) hattempt).mp hbudget).2 rfl
    rcases hclose.2 with rfl | rfl <;> exact hrow

/-- In every run each fallback for lack of retries comes after a full row of busy results if and
only if, whenever a busy result finds the counter used up, no other result and no granted data call
has interrupted the row since the counter started. -/
theorem along_fullBudget_iff (calls : List (AgpsCall × AgpsEnv)) :
    Along AgpsSystem.step (fun s => FullBudget s.log) init calls ↔
      Guarded AgpsSystem.step RowUninterrupted init calls := by
  refine along_iff_guarded (I := fun s => s.Counted ∧ FullBudget s.log) (fun s hs => hs.2) ?_ ?_ ?_
    calls init ⟨counted_init, fullBudget_nil⟩
  · intro s i t hs hok ht
    exact ⟨hs.1.step ht, fullBudget_step hs.1 hs.2 hok ht⟩
  · intro s i t hs ht hbudget hexhausts
    obtain ⟨t', ht', hrow⟩ := exists_step_of_exhausts hs.1 hexhausts
    cases ht'.symm.trans ht
    exact hrow hbudget
  · intro s i hs hnone hexhausts
    obtain ⟨t', ht', -⟩ := exists_step_of_exhausts hs.1 hexhausts
    cases ht'.symm.trans hnone

/-- A first emergency call is busy once, then it is granted and closed. The second one is busy four
times. -/
def budgetSpentByFirstCall : List (AgpsCall × AgpsEnv) :=
  [(.requestATL 1 locAgpsTypeSuplEs, .emergency locApiAdapterErrEngineBusy),
    (.requestATL 1 locAgpsTypeSuplEs, .emergency locApiAdapterErrSuccess),
    (.reportDataCallOpened, .emergency locApiAdapterErrSuccess),
    (.reportDataCallClosed, .emergency locApiAdapterErrSuccess)] ++
  List.replicate 4 (.requestATL 2 locAgpsTypeSuplEs, .emergency locApiAdapterErrEngineBusy)

/-- The second call falls back to SUPL after four busy results. -/
theorem not_along_budgetSpentByFirstCall :
    ¬ Along AgpsSystem.step (fun s => FullBudget s.log) init budgetSpentByFirstCall := by
  intro h
  have hlast := h.last (t := (run AgpsSystem.step init budgetSpentByFirstCall).get (by decide)) (by
    simp)
  exact absurd (hlast _ 2 [] rfl) (by decide)

end AgpsSystem

end LocHal.Gnss
