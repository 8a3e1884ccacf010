import Mathlib.Algebra.Group.Nat.Defs
import Mathlib.Data.List.TakeWhile
import LocHal.Lib.LabelledRun

/-!
# `LocHal.Gnss.XtraSystemStatusObserver`: what the XTRA daemon knows

`XtraSystemStatusObserver` keeps the GPS lock, the connections, the TAC, the MCC/MNC and the XTRA
throttle. Until the daemon has sent its first `requestStatus`, an update is stored only. After that
each update is sent in a message of its own. A `requestStatus` with `xtraStatusUpdated` 0 is
answered by one `respondStatus` message with the fields.

The daemon is another program. So a message is modelled by the values that the observer writes into
it, and `infers` says whether the daemon takes a `connection` message as the news that the
connectivity is known.

`respondStatus` has no throttle. A throttle that was set before the first request is never sent
(`not_along_throttled`). `along_current_iff` is the exact condition over every run.

The condition (`Conveyed`) is about the calls: what an update has to meet once the daemon has asked,
and, for the first request with 0, which updates came before it. A request with another argument is
not answered, but the updates after it are sent. So the calls are cut at the first request
(`beforeRequest`, `sinceRequest`), and `FromHistory` is the invariant that says what the daemon has
of them.
-/

set_option autoImplicit false

namespace LocHal.Gnss

open LabelledRun

/-- A message to `LOC_IPC_XTRA`, with the values that are written into it. -/
inductive XtraMessage where
  | gpslock (lock : BitVec 32)
  | connection (connections : BitVec 64)
  | tac (tac : String)
  | mncmcc (mccmnc : String)
  | xtrathrottle (enabled : Bool)
  -- an empty line stands for the lock -1
  | respondStatus (gpsLock : Option Int) (connections : BitVec 64) (tac mccmnc : String)
      (isConnectivityStatusKnown : Bool)
  deriving DecidableEq, Repr

/-- `XtraSystemStatusObserver`. `mGpsLock` is an `int32_t`. `sent` are the messages of `send`. -/
structure XtraSystemStatusObserver where
  mGpsLock : Int
  mConnections : BitVec 64
  mTac : String
  mMccmnc : String
  mXtraThrottle : Bool
  mReqStatusReceived : Bool
  mIsConnectivityStatusKnown : Bool
  sent : List XtraMessage
  deriving DecidableEq, Repr

/-- The end of a C string. -/
def nul : Char := Char.ofNat 0

/-- The text that is written for `c_str()`. -/
def cStr (s : String) : String := String.ofList (s.toList.takeWhile (· ≠ nul))

namespace XtraSystemStatusObserver

/-- The constructor. -/
def new : XtraSystemStatusObserver where
  mGpsLock := -1
  mConnections := 0
  mTac := ""
  mMccmnc := ""
  mXtraThrottle := true
  mReqStatusReceived := false
  mIsConnectivityStatusKnown := false
  sent := []

/-- `send`, which every update skips before the first request. -/
def sendUpdate (s : XtraSystemStatusObserver) (message : XtraMessage) : XtraSystemStatusObserver :=
  if !s.mReqStatusReceived then s else { s with sent := s.sent ++ [message] }

/-- `updateLockStatus`. The field is signed, and the text is that of the parameter. -/
def updateLockStatus (s : XtraSystemStatusObserver) (lock : BitVec 32) :
    XtraSystemStatusObserver :=
  { s with mGpsLock := lock.toInt }.sendUpdate (.gpslock lock)

/-- `updateConnections`. -/
def updateConnections (s : XtraSystemStatusObserver) (allConnections : BitVec 64) :
    XtraSystemStatusObserver :=
  { s with
    mIsConnectivityStatusKnown := true
    mConnections := allConnections }.sendUpdate (.connection allConnections)

/-- `updateTac`. -/
def updateTac (s : XtraSystemStatusObserver) (tac : String) : XtraSystemStatusObserver :=
  { s with mTac := tac }.sendUpdate (.tac (cStr tac))

/-- `updateMccMnc`. -/
def updateMccMnc (s : XtraSystemStatusObserver) (mccmnc : String) : XtraSystemStatusObserver :=
  { s with mMccmnc := mccmnc }.sendUpdate (.mncmcc (cStr mccmnc))

/-- `updateXtraThrottle`. -/
def updateXtraThrottle (s : XtraSystemStatusObserver) (enabled : Bool) :
    XtraSystemStatusObserver :=
  { s with mXtraThrottle := enabled }.sendUpdate (.xtrathrottle enabled)

/-- `onStatusRequested`. -/
def onStatusRequested (s : XtraSystemStatusObserver) (xtraStatusUpdated : Int) :
    XtraSystemStatusObserver :=
  let s' := { s with mReqStatusReceived := true }
  if xtraStatusUpdated ≠ 0 then s'
  else
    let gpsLock := if s'.mGpsLock = -1 then none else some s'.mGpsLock
    { s' with
      sent := s'.sent ++
        [.respondStatus gpsLock s'.mConnections s'.mTac s'.mMccmnc s'.mIsConnectivityStatusKnown] }

end XtraSystemStatusObserver

/-! ### The daemon -/

/-- The latest values that the daemon has received. -/
structure XtraView where
  gpsLock : Int
  connections : BitVec 64
  tac : String
  mccmnc : String
  isConnectivityStatusKnown : Bool
  xtraThrottle : Bool
  deriving DecidableEq, Repr

/-- The current fields. -/
def XtraSystemStatusObserver.current (s : XtraSystemStatusObserver) : XtraView where
  gpsLock := s.mGpsLock
  connections := s.mConnections
  tac := s.mTac
  mccmnc := s.mMccmnc
  isConnectivityStatusKnown := s.mIsConnectivityStatusKnown
  xtraThrottle := s.mXtraThrottle

namespace XtraView

/-- One message. A value that is not in the message stays. -/
def receive (infers : Bool) (view : XtraView) : XtraMessage → XtraView
  | .gpslock lock => { view with gpsLock := lock.toNat }
  | .connection connections =>
      { view with
        connections := connections
        isConnectivityStatusKnown := infers || view.isConnectivityStatusKnown }
  | .tac tac => { view with tac := tac }
  | .mncmcc mccmnc => { view with mccmnc := mccmnc }
  | .xtrathrottle enabled => { view with xtraThrottle := enabled }
  | .respondStatus gpsLock connections tac mccmnc isConnectivityStatusKnown =>
      { view with
        gpsLock := gpsLock.getD view.gpsLock
        connections := connections
        tac := tac
        mccmnc := mccmnc
        isConnectivityStatusKnown := isConnectivityStatusKnown }

/-- The view after the messages, from the defaults of the constructor. -/
def after (infers : Bool) (sent : List XtraMessage) : XtraView :=
  sent.foldl (receive infers) XtraSystemStatusObserver.new.current

@[simp] theorem after_concat (infers : Bool) (sent : List XtraMessage) (message : XtraMessage) :
    after infers (sent ++ [message]) = (after infers sent).receive infers message := by
  simp [after]

end XtraView

/-! ### Runs -/

/-- A call of the observer, or the message of a `requestStatus`. -/
inductive XtraCall where
  | updateLockStatus (lock : BitVec 32)
  | updateConnections (allConnections : BitVec 64)
  | updateTac (tac : String)
  | updateMccMnc (mccmnc : String)
  | updateXtraThrottle (enabled : Bool)
  | onStatusRequested (xtraStatusUpdated : Int)
  deriving DecidableEq, Repr

namespace XtraCall

/-- A `requestStatus`, with any argument. -/
def isRequest : XtraCall → Bool
  | .onStatusRequested _ => true
  | _ => false

/-- A `requestStatus` that is answered. -/
def asksStatus : XtraCall → Bool
  | .onStatusRequested xtraStatusUpdated => xtraStatusUpdated == 0
  | _ => false

/-- An update of the lock. -/
def isLock : XtraCall → Bool
  | .updateLockStatus _ => true
  | _ => false

/-- The value of an update of the throttle. -/
def throttle : XtraCall → Option Bool
  | .updateXtraThrottle enabled => some enabled
  | _ => none

end XtraCall

/-- The calls before the first request. Their values are stored and not sent. -/
def beforeRequest (calls : List XtraCall) : List XtraCall :=
  calls.takeWhile fun call => !call.isRequest

/-- The calls from the first request on. The updates among them are sent. -/
def sinceRequest (calls : List XtraCall) : List XtraCall :=
  calls.dropWhile fun call => !call.isRequest

/-- The value of the last update of the throttle. -/
def lastThrottle (calls : List XtraCall) : Option Bool :=
  (calls.filterMap XtraCall.throttle).getLast?

/-- The call, by the function of the observer. -/
def XtraSystemStatusObserver.handle (s : XtraSystemStatusObserver) :
    XtraCall → XtraSystemStatusObserver
  | .updateLockStatus lock => s.updateLockStatus lock
  | .updateConnections allConnections => s.updateConnections allConnections
  | .updateTac tac => s.updateTac tac
  | .updateMccMnc mccmnc => s.updateMccMnc mccmnc
  | .updateXtraThrottle enabled => s.updateXtraThrottle enabled
  | .onStatusRequested xtraStatusUpdated => s.onStatusRequested xtraStatusUpdated

/-- The observer, whether a `requestStatus` with 0 has been handled, and the calls so far. -/
structure XtraStatus where
  observer : XtraSystemStatusObserver
  requested : Bool
  calls : List XtraCall
  deriving DecidableEq, Repr

namespace XtraStatus

variable {infers : Bool} {s t : XtraStatus} {call : XtraCall}

/-- The start. -/
def new : XtraStatus := ⟨.new, false, []⟩

/-- One call. -/
def step (s : XtraStatus) (call : XtraCall) : Option XtraStatus :=
  some
    { observer := s.observer.handle call
      requested := s.requested || call.asksStatus
      calls := s.calls ++ [call] }

/-- The latest values that the daemon has received. -/
def view (infers : Bool) (s : XtraStatus) : XtraView := .after infers s.observer.sent

/-- Once a request has been handled, the daemon has the current fields. What it has is worked out
from the messages that were sent. `infers` is whether it takes a connection message as the news that
the connectivity is known. -/
def Current (infers : Bool) (s : XtraStatus) : Prop :=
  s.requested = true → s.view infers = s.observer.current

/-- The condition on one call. Once the daemon has asked, a value that is sent has to be the one
that is stored: a lock from 2 ^ 31 on is stored as a negative number and sent as a positive one, and
a text is sent up to its first NUL. A `connection` message does not say that the connectivity is
known, so either that is known before, or the daemon has to infer it.

The first request with 0 is answered without the throttle, and without a lock of -1. So the last
`updateXtraThrottle` before the first request of any kind must not have turned the throttle off,
unless another one was sent since. And if there is no lock now, none must have been sent since. -/
def Conveyed (infers : Bool) (s : XtraStatus) : XtraCall → Prop
  | .updateLockStatus lock => s.requested = true → lock.toNat < 2 ^ 31
  | .updateConnections _ =>
      s.requested = true → infers = true ∨ s.observer.mIsConnectivityStatusKnown = true
  | .updateTac tac => s.requested = true → nul ∉ tac.toList
  | .updateMccMnc mccmnc => s.requested = true → nul ∉ mccmnc.toList
  | .updateXtraThrottle _ => True
  | .onStatusRequested xtraStatusUpdated => xtraStatusUpdated = 0 → s.requested = false →
      (lastThrottle (beforeRequest s.calls) = some false →
        (lastThrottle (sinceRequest s.calls)).isSome = true) ∧
      (s.observer.mGpsLock = -1 → (sinceRequest s.calls).any XtraCall.isLock = false)

/-- What holds in a run as long as every call is conveyed. -/
structure CaughtUp (infers : Bool) (s : XtraStatus) : Prop where
  received : s.requested = true → s.observer.mReqStatusReceived = true
  current : Current infers s

theorem caughtUp_new (infers : Bool) : CaughtUp infers new := by
  constructor <;> intro h <;> cases h

theorem cStr_eq_iff {s : String} : cStr s = s ↔ nul ∉ s.toList := by
  unfold cStr
  rw [← String.toList_inj, String.toList_ofList, List.takeWhile_eq_self_iff]
  simp only [ne_eq, decide_not, Bool.not_eq_true', decide_eq_false_iff_not]
  exact ⟨fun h hmem => h nul hmem rfl, fun h c hc heq => h (heq ▸ hc)⟩

/-- The field and the text of a lock agree below 2 ^ 31. -/
theorem toNat_eq_toInt_iff {lock : BitVec 32} :
    (lock.toNat : Int) = lock.toInt ↔ lock.toNat < 2 ^ 31 := by
  have hlock := lock.isLt
  rw [BitVec.toInt_eq_toNat_cond]
  split <;> omega

/-- An update that stores the fields of `o` and sends the message. The daemon had the old fields,
so the message has to bring it to the new ones. -/
theorem caughtUp_sendUpdate (h : CaughtUp infers s) {o : XtraSystemStatusObserver}
    (hsent : o.sent = s.observer.sent)
    (hreceived : o.mReqStatusReceived = s.observer.mReqStatusReceived) (message : XtraMessage)
    (calls : List XtraCall) :
    CaughtUp infers ⟨o.sendUpdate message, s.requested || false, calls⟩ ↔
      (s.requested = true → s.observer.current.receive infers message = o.current) := by
  rw [Bool.or_false]
  cases hreq : s.requested with
  | false =>
      refine iff_of_true ⟨fun h => ?_, fun h => ?_⟩ fun h => by cases h
      · exact absurd h (by simp)
      · exact absurd h (by simp)
  | true =>
      have hreq' : o.mReqStatusReceived = true := hreceived.trans (h.received hreq)
      have hsend : o.sendUpdate message = { o with sent := o.sent ++ [message] } := by
        unfold XtraSystemStatusObserver.sendUpdate
        simp [hreq']
      have hview : XtraView.after infers (o.sent ++ [message]) =
          s.observer.current.receive infers message := by
        rw [XtraView.after_concat, hsent]
        exact congrArg (·.receive infers message) (h.current hreq)
      rw [hsend]
      constructor
      · intro hcaught _
        exact hview.symm.trans (hcaught.current rfl)
      · intro hcurrent
        exact ⟨fun _ => hreq', fun _ => hview.trans (hcurrent rfl)⟩

/-- The request with 0. The answer has every field, without the throttle and a lock of -1. -/
theorem caughtUp_onStatusRequested (s : XtraStatus) (calls : List XtraCall) :
    CaughtUp infers ⟨s.observer.onStatusRequested 0, true, calls⟩ ↔
      (s.view infers).xtraThrottle = s.observer.mXtraThrottle ∧
        (s.observer.mGpsLock = -1 → (s.view infers).gpsLock = -1) := by
  have hview : (⟨s.observer.onStatusRequested 0, true, calls⟩ : XtraStatus).view infers =
      { s.observer.current with
        gpsLock := if s.observer.mGpsLock = -1 then (s.view infers).gpsLock else s.observer.mGpsLock
        xtraThrottle := (s.view infers).xtraThrottle } := by
    unfold view XtraSystemStatusObserver.onStatusRequested
    simp only [ne_eq, not_true_eq_false, if_false, XtraView.after_concat]
    by_cases hlock : s.observer.mGpsLock = -1
    · simp [hlock, XtraView.receive, XtraSystemStatusObserver.current]
    · simp [hlock, XtraView.receive, XtraSystemStatusObserver.current]
  have hcurrent : (s.observer.onStatusRequested 0).current = s.observer.current := rfl
  constructor
  · intro hcaught
    have heq := hview.symm.trans ((hcaught.current rfl).trans hcurrent)
    refine ⟨congrArg XtraView.xtraThrottle heq, fun hlock => ?_⟩
    have hgps := congrArg XtraView.gpsLock heq
    simpa [hlock, XtraSystemStatusObserver.current] using hgps
  · rintro ⟨hthrottle, hlock⟩
    refine ⟨fun _ => rfl, fun _ => hview.trans (Eq.trans ?_ hcurrent.symm)⟩
    rw [hthrottle]
    split
    · rename_i hnone
      rw [hlock hnone, ← hnone]
      rfl
    · rfl

/-! ### The calls before a request -/

theorem sinceRequest_concat (calls : List XtraCall) (call : XtraCall) :
    sinceRequest (calls ++ [call]) =
      if sinceRequest calls = [] then (if call.isRequest then [call] else [])
      else sinceRequest calls ++ [call] := by
  unfold sinceRequest
  rw [List.dropWhile_append]
  by_cases hnil : calls.dropWhile (fun call => !call.isRequest) = []
  · rw [hnil, if_pos rfl, if_pos List.isEmpty_nil]
    cases hcall : call.isRequest <;> simp [hcall]
  · rw [if_neg hnil, if_neg (by simpa using hnil)]

theorem lastThrottle_concat (calls : List XtraCall) (call : XtraCall) :
    lastThrottle (calls ++ [call]) = call.throttle.or (lastThrottle calls) := by
  unfold lastThrottle
  rw [List.filterMap_append, List.getLast?_append]
  cases hcall : call.throttle <;> simp [hcall]

theorem lastThrottle_eq (calls : List XtraCall) : lastThrottle calls =
    (lastThrottle (sinceRequest calls)).or (lastThrottle (beforeRequest calls)) := by
  unfold lastThrottle sinceRequest beforeRequest
  rw [← List.getLast?_append, ← List.filterMap_append, List.takeWhile_append_dropWhile]

/-- What the calls say of the observer and of the daemon. Until the first request with 0 the daemon
only has what was sent since the first request. -/
structure FromHistory (infers : Bool) (s : XtraStatus) : Prop where
  received : s.observer.mReqStatusReceived = true ↔ sinceRequest s.calls ≠ []
  field : s.observer.mXtraThrottle = (lastThrottle s.calls).getD true
  throttle : s.requested = false →
    (s.view infers).xtraThrottle = (lastThrottle (sinceRequest s.calls)).getD true
  lock : s.requested = false →
    ((s.view infers).gpsLock = -1 ↔ (sinceRequest s.calls).any XtraCall.isLock = false)

theorem fromHistory_new (infers : Bool) : FromHistory infers new where
  received := ⟨fun h => (Bool.false_ne_true h).elim, fun h => absurd rfl h⟩
  field := rfl
  throttle := fun _ => rfl
  lock := fun _ => iff_of_true rfl rfl

/-- So the answer to the first request with 0 brings the daemon up to date if and only if the calls
meet the condition. -/
theorem conveyed_onStatusRequested_iff (h : CaughtUp infers s) (hs : FromHistory infers s) :
    Conveyed infers s (.onStatusRequested 0) ↔
      (s.view infers).xtraThrottle = s.observer.mXtraThrottle ∧
        (s.observer.mGpsLock = -1 → (s.view infers).gpsLock = -1) := by
  cases hreq : s.requested with
  | true =>
      -- a request was handled before, and the daemon is up to date
      have hcurrent := h.current hreq
      refine iff_of_true (fun _ hnot => absurd (hreq.symm.trans hnot) (by decide)) ?_
      rw [hcurrent]
      exact ⟨rfl, fun hlock => hlock⟩
  | false =>
      have hthrottle : (s.view infers).xtraThrottle = s.observer.mXtraThrottle ↔
          (lastThrottle (beforeRequest s.calls) = some false →
            (lastThrottle (sinceRequest s.calls)).isSome = true) := by
        rw [hs.throttle hreq, hs.field, lastThrottle_eq s.calls]
        cases lastThrottle (sinceRequest s.calls) with
        | some enabled => simp
        | none => cases lastThrottle (beforeRequest s.calls) <;> simp
      rw [hthrottle, hs.lock hreq]
      exact ⟨fun h => h rfl hreq, fun h _ _ => h⟩

/-- A message does not change the flag of the first request. -/
@[simp] theorem mReqStatusReceived_sendUpdate (o : XtraSystemStatusObserver)
    (message : XtraMessage) :
    (o.sendUpdate message).mReqStatusReceived = o.mReqStatusReceived := by
  unfold XtraSystemStatusObserver.sendUpdate
  split <;> rfl

theorem mReqStatusReceived_onStatusRequested (o : XtraSystemStatusObserver)
    (xtraStatusUpdated : Int) :
    (o.onStatusRequested xtraStatusUpdated).mReqStatusReceived = true := by
  unfold XtraSystemStatusObserver.onStatusRequested
  dsimp only
  split <;> rfl

/-- A request with another argument than 0 is not answered. -/
theorem onStatusRequested_of_ne (o : XtraSystemStatusObserver) {xtraStatusUpdated : Int}
    (h : xtraStatusUpdated ≠ 0) :
    o.onStatusRequested xtraStatusUpdated = { o with mReqStatusReceived := true } :=
  if_pos h

/-- The flag of the first request is set by every request and stays. -/
theorem received_step (h : s.requested = true → s.observer.mReqStatusReceived = true)
    (ht : s.step call = some t) : t.requested = true → t.observer.mReqStatusReceived = true := by
  cases call with
  | onStatusRequested xtraStatusUpdated =>
      cases ht
      exact fun _ => mReqStatusReceived_onStatusRequested s.observer xtraStatusUpdated
  | _ =>
      cases ht
      intro hreq
      exact (mReqStatusReceived_sendUpdate _ _).trans (h ((Bool.or_false _).symm.trans hreq))

/-- A call keeps the daemon up to date if and only if it is conveyed. -/
theorem caughtUp_step_iff (h : CaughtUp infers s) (hs : FromHistory infers s)
    (ht : s.step call = some t) : CaughtUp infers t ↔ Conveyed infers s call := by
  cases ht
  cases call with
  | updateLockStatus lock =>
      refine (caughtUp_sendUpdate h (o := { s.observer with mGpsLock := lock.toInt }) rfl rfl
        (.gpslock lock) _).trans (imp_congr_right fun _ => ?_)
      -- the message has the unsigned value, the field the signed one
      rw [← toNat_eq_toInt_iff]
      simp [XtraView.receive, XtraSystemStatusObserver.current]
  | updateConnections connections =>
      refine (caughtUp_sendUpdate h (o := { s.observer with
        mIsConnectivityStatusKnown := true
        mConnections := connections }) rfl rfl (.connection connections) _).trans
        (imp_congr_right fun _ => ?_)
      simp [XtraView.receive, XtraSystemStatusObserver.current]
  | updateTac tac =>
      refine (caughtUp_sendUpdate h (o := { s.observer with mTac := tac }) rfl rfl
        (.tac (cStr tac)) _).trans (imp_congr_right fun _ => ?_)
      -- the message ends at the first NUL of the field
      rw [← cStr_eq_iff]
      simp [XtraView.receive, XtraSystemStatusObserver.current]
  | updateMccMnc mccmnc =>
      refine (caughtUp_sendUpdate h (o := { s.observer with mMccmnc := mccmnc }) rfl rfl
        (.mncmcc (cStr mccmnc)) _).trans (imp_congr_right fun _ => ?_)
      rw [← cStr_eq_iff]
      simp [XtraView.receive, XtraSystemStatusObserver.current]
  | updateXtraThrottle enabled =>
      refine (caughtUp_sendUpdate h (o := { s.observer with mXtraThrottle := enabled }) rfl rfl
        (.xtrathrottle enabled) _).trans ?_
      exact iff_of_true (fun _ => rfl) trivial
  | onStatusRequested xtraStatusUpdated =>
      by_cases hzero : xtraStatusUpdated = 0
      · subst hzero
        rw [conveyed_onStatusRequested_iff h hs,
          show (s.requested || XtraCall.asksStatus (.onStatusRequested 0)) = true from
            Bool.or_true _]
        exact caughtUp_onStatusRequested s _
      · -- nothing is sent
        have hasks : XtraCall.asksStatus (.onStatusRequested xtraStatusUpdated) = false :=
          beq_eq_false_iff_ne.mpr hzero
        rw [hasks, Bool.or_false]
        have hsame := onStatusRequested_of_ne s.observer hzero
        refine iff_of_true ⟨fun _ => ?_, fun hreq => ?_⟩ fun h => absurd h hzero
        · exact congrArg XtraSystemStatusObserver.mReqStatusReceived hsame
        · unfold view
          dsimp only [XtraSystemStatusObserver.handle]
          rw [hsame]
          exact h.current hreq

/-- An update. It is sent if and only if a request came before. -/
theorem FromHistory.update (h : FromHistory infers s) {o : XtraSystemStatusObserver}
    {message : XtraMessage} (hsent : o.sent = s.observer.sent)
    (hreceived : o.mReqStatusReceived = s.observer.mReqStatusReceived)
    (hcall : call.isRequest = false)
    (hfield : o.mXtraThrottle = call.throttle.getD s.observer.mXtraThrottle)
    (hthrottle : ∀ view : XtraView,
      (view.receive infers message).xtraThrottle = call.throttle.getD view.xtraThrottle)
    (hlock : ∀ view : XtraView, (view.receive infers message).gpsLock = -1 ↔
      view.gpsLock = -1 ∧ call.isLock = false) :
    FromHistory infers ⟨o.sendUpdate message, s.requested || false, s.calls ++ [call]⟩ := by
  rw [Bool.or_false]
  have hstored : (o.sendUpdate message).mXtraThrottle =
      (lastThrottle (s.calls ++ [call])).getD true := by
    have hkeep : (o.sendUpdate message).mXtraThrottle = o.mXtraThrottle := by
      unfold XtraSystemStatusObserver.sendUpdate
      split <;> rfl
    rw [hkeep, hfield, h.field, lastThrottle_concat]
    cases call.throttle <;> rfl
  cases hrec : s.observer.mReqStatusReceived with
  | false =>
      have hnil : sinceRequest s.calls = [] := by
        by_contra hne
        exact absurd (hrec.symm.trans (h.received.mpr hne)) (by decide)
      have hnil' : sinceRequest (s.calls ++ [call]) = [] := by
        rw [sinceRequest_concat, if_pos hnil, hcall, if_neg Bool.false_ne_true]
      have hsend : o.sendUpdate message = o := if_pos (by rw [hreceived, hrec]; rfl)
      refine ⟨?_, hstored, fun hreq => ?_, fun hreq => ?_⟩
      · rw [hsend, hreceived, hrec, hnil']
        simp
      · have hold := h.throttle hreq
        unfold view at hold ⊢
        rw [hsend, hsent, hnil', ← hnil]
        exact hold
      · have hold := h.lock hreq
        unfold view at hold ⊢
        rw [hsend, hsent, hnil', ← hnil]
        exact hold
  | true =>
      have hne : sinceRequest s.calls ≠ [] := h.received.mp hrec
      have hcons : sinceRequest (s.calls ++ [call]) = sinceRequest s.calls ++ [call] := by
        rw [sinceRequest_concat, if_neg hne]
      have hsend : (o.sendUpdate message).sent = s.observer.sent ++ [message] := by
        unfold XtraSystemStatusObserver.sendUpdate
        rw [if_neg (by rw [hreceived, hrec]; decide), hsent]
      refine ⟨?_, hstored, fun hreq => ?_, fun hreq => ?_⟩
      · rw [mReqStatusReceived_sendUpdate, hreceived, hrec, hcons]
        simp
      · have hold := h.throttle hreq
        unfold view at hold ⊢
        rw [hsend, XtraView.after_concat, hthrottle, hold, hcons, lastThrottle_concat]
        cases call.throttle <;> rfl
      · have hold := h.lock hreq
        unfold view at hold ⊢
        rw [hsend, XtraView.after_concat, hlock, hold, hcons, List.any_append]
        simp

/-- A request. Up to the first one with 0 nothing is sent for it. -/
theorem FromHistory.request (h : FromHistory infers s) (xtraStatusUpdated : Int) :
    FromHistory infers ⟨s.observer.onStatusRequested xtraStatusUpdated,
      s.requested || xtraStatusUpdated == 0,
      s.calls ++ [.onStatusRequested xtraStatusUpdated]⟩ := by
  have hsince := sinceRequest_concat s.calls (.onStatusRequested xtraStatusUpdated)
  have hfield : (s.observer.onStatusRequested xtraStatusUpdated).mXtraThrottle
      = s.observer.mXtraThrottle := by
    unfold XtraSystemStatusObserver.onStatusRequested
    dsimp only
    split <;> rfl
  -- the request is no update
  have hthrottle : lastThrottle (sinceRequest (s.calls ++ [.onStatusRequested xtraStatusUpdated]))
      = lastThrottle (sinceRequest s.calls) := by
    rw [hsince]
    split
    · rename_i hnil
      rw [hnil]
      rfl
    · exact lastThrottle_concat _ _
  have hlock : (sinceRequest (s.calls ++ [.onStatusRequested xtraStatusUpdated])).any
      XtraCall.isLock = (sinceRequest s.calls).any XtraCall.isLock := by
    rw [hsince]
    split
    · rename_i hnil
      rw [hnil]
      rfl
    · rw [List.any_append]
      exact Bool.or_false _
  have hsent : (s.requested || xtraStatusUpdated == 0) = false →
      s.requested = false ∧
        (s.observer.onStatusRequested xtraStatusUpdated).sent = s.observer.sent := by
    intro hreq
    obtain ⟨hreq, hne⟩ := Bool.or_eq_false_iff.mp hreq
    refine ⟨hreq, ?_⟩
    rw [onStatusRequested_of_ne s.observer (beq_eq_false_iff_ne.mp hne)]
  refine ⟨?_, ?_, fun hreq => ?_, fun hreq => ?_⟩
  · rw [mReqStatusReceived_onStatusRequested, hsince]
    split <;> simp [XtraCall.isRequest]
  · rw [hfield, h.field]
    exact congrArg (·.getD true)
      (lastThrottle_concat s.calls (.onStatusRequested xtraStatusUpdated)).symm
  · obtain ⟨hreq, hsent⟩ := hsent hreq
    unfold view
    dsimp only
    rw [hsent, hthrottle]
    exact h.throttle hreq
  · obtain ⟨hreq, hsent⟩ := hsent hreq
    unfold view
    dsimp only
    rw [hsent, hlock]
    exact h.lock hreq

theorem fromHistory_step (h : FromHistory infers s) (ht : s.step call = some t) :
    FromHistory infers t := by
  cases ht
  cases call with
  | updateLockStatus lock =>
      refine h.update (o := { s.observer with mGpsLock := lock.toInt }) rfl rfl rfl rfl
        (fun _ => rfl) fun view => ?_
      -- what is sent is not negative
      refine iff_of_false (fun heq => ?_) fun h => Bool.noConfusion h.2
      have hsent : (lock.toNat : Int) = -1 := heq
      omega
  | updateConnections connections =>
      exact h.update (o := { s.observer with
        mIsConnectivityStatusKnown := true
        mConnections := connections }) rfl rfl rfl rfl (fun _ => rfl)
        fun _ => (and_iff_left rfl).symm
  | updateTac tac =>
      exact h.update (o := { s.observer with mTac := tac }) rfl rfl rfl rfl (fun _ => rfl)
        fun _ => (and_iff_left rfl).symm
  | updateMccMnc mccmnc =>
      exact h.update (o := { s.observer with mMccmnc := mccmnc }) rfl rfl rfl rfl (fun _ => rfl)
        fun _ => (and_iff_left rfl).symm
  | updateXtraThrottle enabled =>
      exact h.update (o := { s.observer with mXtraThrottle := enabled }) rfl rfl rfl rfl
        (fun _ => rfl) fun _ => (and_iff_left rfl).symm
  | onStatusRequested xtraStatusUpdated => exact h.request xtraStatusUpdated

/-- The daemon is up to date in every state of a run, once a request has been handled, if and only
if every call is conveyed.

The answer to a request carries all the members but the throttle, so the daemon learns of that only
from a call of `updateXtraThrottle` after its first request. The other clauses are about values that
the text of a message does not give back, and about the flag that a connection message does not
carry. -/
theorem along_current_iff (infers : Bool) (calls : List XtraCall) :
    Along step (Current infers) new calls ↔ Guarded step (Conveyed infers) new calls := by
  refine along_iff_guarded (I := fun s => CaughtUp infers s ∧ FromHistory infers s)
    (fun _ h => h.1.current) (fun _ _ _ h hok ht => ?_) (fun s call t h ht hcurrent => ?_)
    (fun s call _ hnone => ?_) calls new ⟨caughtUp_new infers, fromHistory_new infers⟩
  · exact ⟨(caughtUp_step_iff h.1 h.2 ht).mpr hok, fromHistory_step h.2 ht⟩
  · exact (caughtUp_step_iff h.1 h.2 ht).mp ⟨received_step h.1.received ht, hcurrent⟩
  · cases hnone

/-- The throttle is set before the daemon asks for the status. -/
def throttled : List XtraCall := [.updateXtraThrottle false, .onStatusRequested 0]

/-- The daemon keeps the default, whatever it infers. -/
theorem not_along_throttled :
    ¬ Along step (Current true) new throttled ∧ ¬ Along step (Current false) new throttled := by
  have hno : ∀ infers : Bool, ¬ Along step (Current infers) new throttled := by
    intro infers h
    have hlast := h.last (t := (run step new throttled).get rfl) rfl
    have hthrottle := congrArg XtraView.xtraThrottle (hlast rfl)
    cases hthrottle
  exact ⟨hno true, hno false⟩

end XtraStatus

end LocHal.Gnss
