import LocHal.Gnss.Odcpi

/-!
# `LocHal.Gnss.OdcpiEmergency`: ODCPI emergency sessions

`reportOdcpiRequest` stores every START, an ordinary one in an emergency session too. The expiry of
the timer sends the stored request, and the next emergency START finds an ordinary request stored.
So the session is downgraded, and a modem that alternates the two modes makes a call each time
(`not_ok_alternating`).

The properties are about a list of processed messages. `emergency_iff` gives the exact condition for
each of them, in terms of the START requests.

`session_foldl` follows an emergency session: until a STOP or a restart the request stays active,
and the stored request is the latest START. So what the expiry sends depends on that START alone
(`sent_in_session`). `length_calls` counts the calls between two expiries: a START is sent when the
timer is off or when it changes an ordinary request into an emergency one, and both can be seen in
the list of the START requests.
-/

set_option autoImplicit false

namespace LocHal.Gnss

namespace OdcpiAdapter

/-! ### The calls of the framework -/

/-- The request of a call of `mOdcpiRequestCb`. -/
def callOf : OdcpiOp → Option OdcpiRequestInfo
  | .requestCb request => some request
  | _ => none

/-- The calls of `mOdcpiRequestCb` for one message. -/
def sent (s : OdcpiAdapter) (msg : OdcpiMsg) : List OdcpiRequestInfo :=
  (s.proc msg).filterMap callOf

/-- The calls for several messages. -/
def calls (s : OdcpiAdapter) : List OdcpiMsg → List OdcpiRequestInfo
  | [] => []
  | msg :: msgs => s.sent msg ++ (s.process msg).calls msgs

/-- The adapter after the messages. -/
def after (msgs : List OdcpiMsg) : OdcpiAdapter := msgs.foldl process (.new true)

/-- A STOP request or a restart of the engine. -/
def EndsSession : OdcpiMsg → Prop
  | .reportOdcpiRequest request => request.type ≠ .start
  | .restartSessions => True
  | .odcpiTimerExpire => False

/-- After an emergency START, until the session ends, an expiry sends emergency requests only. The
requests in between may be of any kind. The expiry sends the request that is stored, and a later
START that is not an emergency must not take the place of the emergency one. -/
def NotDowngraded (msgs : List OdcpiMsg) : Prop :=
  ∀ before request during rest,
    msgs = (before ++ .reportOdcpiRequest request :: during) ++ .odcpiTimerExpire :: rest →
    request.type = .start → request.isEmergencyMode = true → (∀ msg ∈ during, ¬ EndsSession msg) →
      ∀ r ∈ (after (before ++ .reportOdcpiRequest request :: during)).sent .odcpiTimerExpire,
        r.isEmergencyMode = true

/-- Between two expiries, the requests make two calls at most: the first one when no timer runs, and
one more for the change to an emergency. -/
def NotSpammed (msgs : List OdcpiMsg) : Prop :=
  ∀ before during rest,
    msgs = (before ++ [.odcpiTimerExpire]) ++ during ++ .odcpiTimerExpire :: rest →
    .odcpiTimerExpire ∉ during →
      ((after (before ++ [.odcpiTimerExpire])).calls during).length ≤ 2

/-! ### The conditions -/

/-- The request of a START. -/
def startOf : OdcpiMsg → Option OdcpiRequestInfo
  | .reportOdcpiRequest request => if request.type = .start then some request else none
  | _ => none

/-- The START requests among the messages. -/
def starts (msgs : List OdcpiMsg) : List OdcpiRequestInfo := msgs.filterMap startOf

/-- When an expiry is processed in an emergency session, the latest START was an emergency too. The
code stores every START, and the timer sends what was stored last. -/
def LatestEmergency (msgs : List OdcpiMsg) : Prop :=
  ∀ before request during rest,
    msgs = (before ++ .reportOdcpiRequest request :: during) ++ .odcpiTimerExpire :: rest →
    request.type = .start → request.isEmergencyMode = true → (∀ msg ∈ during, ¬ EndsSession msg) →
      ((starts during).getLast?.getD request).isEmergencyMode = true

/-- The first START when the timer is off, and every switch from an ordinary START to an emergency
one. -/
def switches (mActive isEmergencyMode : Bool) : List OdcpiRequestInfo → Nat
  | [] => 0
  | request :: requests =>
      (if !mActive || (!isEmergencyMode && request.isEmergencyMode) then 1 else 0) +
        switches true request.isEmergencyMode requests

/-- There are two of these at most between two expiries. The first request of a session is sent at
once, if the timer is off, and so is each emergency request after an ordinary one. A modem that goes
back and forth between the two kinds is therefore answered each time, since the stored kind follows
it. -/
def FewSwitches (msgs : List OdcpiMsg) : Prop :=
  ∀ before during rest,
    msgs = (before ++ [.odcpiTimerExpire]) ++ during ++ .odcpiTimerExpire :: rest →
    .odcpiTimerExpire ∉ during →
      let s := after (before ++ [.odcpiTimerExpire])
      switches s.mActive s.mOdcpiRequest.isEmergencyMode (starts during) ≤ 2

/-! ### One message -/

variable {s : OdcpiAdapter} {request : OdcpiRequestInfo} {msg : OdcpiMsg}

/-- What holds after any messages: the callback is set, and an active request has its timer. -/
structure Ready (s : OdcpiAdapter) : Prop where
  callback : s.mOdcpiRequestCb = true
  timed : s.Timed

theorem Ready.process (h : Ready s) (msg : OdcpiMsg) : Ready (s.process msg) := by
  refine ⟨?_, h.timed.process msg⟩
  cases msg with
  | reportOdcpiRequest request =>
      by_cases htype : request.type = .start
      · rw [process_start h.timed h.callback htype]
        exact h.callback
      · rw [process_stop h.callback htype]
        exact h.callback
  | restartSessions => exact h.callback
  | odcpiTimerExpire =>
      rw [process_odcpiTimerExpire]
      exact h.callback

theorem ready_foldl (h : Ready s) (msgs : List OdcpiMsg) : Ready (msgs.foldl .process s) := by
  induction msgs generalizing s with
  | nil => exact h
  | cons msg msgs ih => exact ih (h.process msg)

theorem ready_after (msgs : List OdcpiMsg) : Ready (after msgs) :=
  ready_foldl ⟨rfl, fun h => by cases h⟩ msgs

/-- A START makes a call when the timer is off, or when it is an upgrade. -/
theorem sent_start (h : Ready s) (htype : request.type = .start) :
    s.sent (.reportOdcpiRequest request) =
      if !s.mActive || (!s.mOdcpiRequest.isEmergencyMode && request.isEmergencyMode) then [request]
      else [] := by
  obtain ⟨cb, requestActive, active, stored⟩ := s
  cases h.callback
  have htimed := h.timed
  cases active with
  | true =>
      cases hup : !stored.isEmergencyMode && request.isEmergencyMode <;> cases requestActive <;>
        simp [sent, proc, reportOdcpiRequest, htype, hup, callOf, OdcpiTimer.restart,
          OdcpiTimer.stop, OdcpiTimer.start]
  | false =>
      cases requestActive with
      | true => cases htimed rfl
      | false => simp [sent, proc, reportOdcpiRequest, htype, callOf, OdcpiTimer.start]

theorem sent_stop (h : Ready s) (htype : request.type ≠ .start) :
    s.sent (.reportOdcpiRequest request) = [] := by
  simp [sent, proc, reportOdcpiRequest, h.callback, htype, callOf]

/-- An expiry sends the stored request, if it is still active. -/
theorem sent_odcpiTimerExpire (s : OdcpiAdapter) :
    s.sent .odcpiTimerExpire = if s.mOdcpiRequestActive then [s.mOdcpiRequest] else [] := by
  cases hactive : s.mOdcpiRequestActive <;>
    simp [sent, proc, odcpiTimerExpire, hactive, callOf, OdcpiTimer.restart, OdcpiTimer.stop,
      OdcpiTimer.start]

/-! ### Several messages -/

/-- Without an expiry, the calls are the switches among the START requests. -/
theorem length_calls (h : Ready s) {msgs : List OdcpiMsg} (hno : .odcpiTimerExpire ∉ msgs) :
    (s.calls msgs).length =
      switches s.mActive s.mOdcpiRequest.isEmergencyMode (starts msgs) := by
  induction msgs generalizing s with
  | nil => rfl
  | cons msg msgs ih =>
      have hrest := ih (h.process msg) fun hmem => hno (List.mem_cons_of_mem _ hmem)
      unfold calls
      rw [List.length_append, hrest]
      cases msg with
      | reportOdcpiRequest request =>
          by_cases htype : request.type = .start
          · rw [sent_start h htype, process_start h.timed h.callback htype]
            simp only [starts, List.filterMap_cons, startOf, htype, if_true, switches]
            congr 1
            split <;> rfl
          · rw [sent_stop h htype, process_stop h.callback htype]
            simp [starts, startOf, htype]
      | restartSessions => exact Nat.zero_add _
      | odcpiTimerExpire => exact absurd List.mem_cons_self hno

/-- As long as the session does not end, the request stays active, and the stored one is the latest
START. -/
theorem session_foldl (h : Ready s) (hactive : s.mOdcpiRequestActive = true) {msgs : List OdcpiMsg}
    (hsession : ∀ msg ∈ msgs, ¬ EndsSession msg) :
    (msgs.foldl process s).mOdcpiRequestActive = true ∧
      (msgs.foldl process s).mOdcpiRequest = (starts msgs).getLast?.getD s.mOdcpiRequest := by
  induction msgs generalizing s with
  | nil => exact ⟨hactive, rfl⟩
  | cons msg msgs ih =>
      have hrest : ∀ msg ∈ msgs, ¬ EndsSession msg :=
        fun msg hmem => hsession msg (List.mem_cons_of_mem _ hmem)
      have hmsg := hsession msg List.mem_cons_self
      rw [List.foldl_cons]
      cases msg with
      | reportOdcpiRequest request =>
          have htype : request.type = .start := not_not.mp hmsg
          have hnext := ih (h.process (.reportOdcpiRequest request))
          rw [process_start h.timed h.callback htype] at hnext ⊢
          obtain ⟨hkept, hstored⟩ := hnext rfl hrest
          refine ⟨hkept, hstored.trans ?_⟩
          simp only [starts, List.filterMap_cons, startOf, htype, if_true, List.getLast?_cons,
            Option.getD_some]
      | restartSessions => exact absurd trivial hmsg
      | odcpiTimerExpire =>
          have hnext := ih (h.process .odcpiTimerExpire)
          rw [process_odcpiTimerExpire] at hnext ⊢
          exact hnext hactive hrest

/-- The request that an expiry sends in an emergency session is the latest START. -/
theorem sent_in_session (before : List OdcpiMsg) {during : List OdcpiMsg}
    (htype : request.type = .start) (hsession : ∀ msg ∈ during, ¬ EndsSession msg) :
    (after (before ++ .reportOdcpiRequest request :: during)).sent .odcpiTimerExpire =
      [(starts during).getLast?.getD request] := by
  have hready := ready_after before
  have hsplit : after (before ++ .reportOdcpiRequest request :: during) =
      during.foldl process ((after before).process (.reportOdcpiRequest request)) := by
    unfold after
    rw [List.foldl_append, List.foldl_cons]
  have hstart := process_start hready.timed hready.callback htype
  obtain ⟨hactive, hstored⟩ :=
    session_foldl (hready.process (.reportOdcpiRequest request)) (by rw [hstart]) hsession
  rw [sent_odcpiTimerExpire, hsplit, if_pos hactive, hstored, hstart]

/-- The exact condition for each of the two properties.

Every START overwrites the request that is stored. So an ordinary one after an emergency one is what
the next expiry sends, and an emergency one after that is an upgrade once more. The conditions are
on the order of the STARTs between two expiries. -/
theorem emergency_iff (msgs : List OdcpiMsg) :
    (NotDowngraded msgs ↔ LatestEmergency msgs) ∧ (NotSpammed msgs ↔ FewSwitches msgs) := by
  constructor
  · unfold NotDowngraded LatestEmergency
    refine forall₄_congr fun before request during rest => imp_congr_right fun _ => ?_
    refine imp_congr_right fun htype => forall₂_congr fun _ hsession => ?_
    rw [sent_in_session before htype hsession]
    simp
  · unfold NotSpammed FewSwitches
    refine forall₃_congr fun before during rest => imp_congr_right fun _ => ?_
    refine imp_congr_right fun hno => ?_
    rw [length_calls (ready_after _) hno]

/-- A START request. -/
def startRequest (isEmergencyMode : Bool) : OdcpiMsg :=
  .reportOdcpiRequest ⟨.start, 1000, isEmergencyMode⟩

/-- The modem alternates emergency and ordinary requests. -/
def alternating : List OdcpiMsg :=
  [startRequest true, startRequest false, .odcpiTimerExpire,
    startRequest true, startRequest false, startRequest true, startRequest false,
    startRequest true, .odcpiTimerExpire]

/-- The first expiry sends an ordinary request, and before the second one there are three calls. -/
theorem not_ok_alternating : ¬ NotDowngraded alternating ∧ ¬ NotSpammed alternating := by
  constructor
  · intro h
    have hsent := h [] ⟨.start, 1000, true⟩ [startRequest false] _ rfl rfl rfl
      (fun msg hmsg hends => by
        rw [List.mem_singleton] at hmsg
        subst hmsg
        exact hends rfl)
      ⟨.start, 1000, false⟩ (by decide)
    cases hsent
  · intro h
    have hcalls := h [startRequest true, startRequest false]
      [startRequest true, startRequest false, startRequest true, startRequest false,
        startRequest true] [] rfl (by decide)
    revert hcalls
    decide

end OdcpiAdapter

end LocHal.Gnss
