import LocHal.Lib.LabelledRun
import LocHal.Location.RequestQueues

/-!
# `LocHal.Location.TrackingRetry`: a failed start and the next one

`locAPIStartTracking` returns success without a call while `mTracking` is set. The flag is set by a
start and cleared by a stop. A response is dispatched to its request object and leaves the flag.

`LocationAPI` answers the calls in any order, or not at all. A session is live from the successful
response to its start until the successful response to a stop. When `startTracking` finds no
interface it returns the session 0, and no response comes.

`StartHonest` is the property: a start that reports success without a call has a session.
`along_startHonest_iff` gives the exact condition: the flag is not set when the last session fails
or ends, and a session is returned. `issues_of_idle` is the retry that follows from the property.

The calls that wait for their response are a list, and a response may be to any of them. `liveAfter`
says what a response means for the sessions, by the class of the request it belongs to. It is the
view of the service, not a field of the client: the client has the flag only.

`startHonest_iff` says what the property means for the flag: with an interface, a flag that is set
stands for a session. `busy_response_iff` says when a response leaves a session. The step lemma is a
case on the label, and the run theorem follows from it.
-/

set_option autoImplicit false

namespace LocHal.Location

open LabelledRun

/-- A client with the calls of `LocationAPI` that wait for their response, and the live sessions. -/
structure TrackingRetry where
  client : TrackingClient
  /-- The address of the next request object. -/
  nextAddress : Nat
  pending : List (ClientCall TrackingRequestClass)
  live : UInt32 → Bool

/-- What happens next. -/
inductive RetryLabel where
  /-- `LocationAPI::startTracking` returns `newSession`. -/
  | startTracking (newSession : UInt32)
  | stopTracking
  /-- The response to the pending call at `index`. -/
  | response (index : Nat) (err : LocationError)

namespace TrackingRetry

/-- A client that has set its callbacks, before its first call. -/
def new (mLocationAPI : Bool) : TrackingRetry where
  client := .new mLocationAPI
  nextAddress := 0
  pending := []
  live := fun _ => false

/-- The state after a method of the client that made the calls `call`. A call that has no session
gets no response. -/
def issue (s : TrackingRetry) (client : TrackingClient)
    (call : Option (ClientCall TrackingRequestClass)) : TrackingRetry :=
  { s with
    client := client
    nextAddress := s.nextAddress + call.toList.length
    pending := s.pending ++ call.toList.filter fun call => call.session ≠ 0 }

/-- The live sessions after the response to `call`. -/
def liveAfter (s : TrackingRetry) (call : ClientCall TrackingRequestClass) (err : LocationError) :
    UInt32 → Bool :=
  if err = .success then
    match call.request.cls with
    | .startTrackingRequest => Function.update s.live call.session true
    | .stopTrackingRequest => Function.update s.live call.session false
    | _ => s.live
  else s.live

/-- One step. -/
def step (s : TrackingRetry) : RetryLabel → Option TrackingRetry
  | .startTracking newSession =>
      let started := s.client.locAPIStartTracking s.nextAddress newSession
      some (s.issue started.1 started.2.2)
  | .stopTracking =>
      let stopped := s.client.locAPIStopTracking s.nextAddress
      some (s.issue stopped.1 stopped.2)
  | .response index err =>
      match s.pending[index]? with
      | none => none
      | some call =>
          some { s with
            client := (s.client.onResponseCb call.session).2
            pending := s.pending.eraseIdx index
            live := s.liveAfter call err }

/-- A session is live, or the response to its start is pending. While this is so, a start that
returns success without a call is right to do so. -/
def Busy (s : TrackingRetry) : Prop :=
  (∃ call ∈ s.pending, call.isStart = true) ∨ ∃ session, s.live session = true

/-- A start that reports success makes its call, or a session is there. It is asked of every address
of the new request and every session that `LocationAPI` may return. -/
def StartHonest (s : TrackingRetry) : Prop :=
  ∀ address newSession,
    (s.client.locAPIStartTracking address newSession).2.1 = .success →
      (s.client.locAPIStartTracking address newSession).2.2.isSome = true ∨ s.Busy

/-- The pending calls other than the one at `index` contain a start, or a session that the call does
not stop is live. -/
def OtherSession (s : TrackingRetry) (index : Nat) (call : ClientCall TrackingRequestClass) :
    Prop :=
  (∃ other ∈ s.pending.eraseIdx index, other.isStart = true) ∨
    ∃ session, s.live session = true ∧
      (call.request.cls = .stopTrackingRequest → session ≠ call.session)

/-- The response says that the session of its call is not there. -/
def Ends (call : ClientCall TrackingRequestClass) (err : LocationError) : Prop :=
  match call.request.cls with
  | .startTrackingRequest => err ≠ .success
  | .stopTrackingRequest => err = .success
  | _ => False

/-- The condition on one step. The flag stays set although there is no session in two cases. A start
that makes its call sets the flag, also when `startTracking` returns no session and no response will
come. And the response that a start has failed, or that a stop has succeeded, leaves the flag as it
is: set by the failed start, or by a start after the stop. Both are harmless while there is another
session. A stop clears the flag, so it needs no condition. -/
def KeepsSession (s : TrackingRetry) : RetryLabel → Prop
  | .startTracking newSession =>
      s.client.mLocationAPI = true → s.client.mTracking = false → newSession = 0 → s.Busy
  | .stopTracking => True
  | .response index err =>
      ∀ call, s.pending[index]? = some call → Ends call err →
        s.client.mLocationAPI = true → s.client.mTracking = true → s.OtherSession index call

/-! ### The flag -/

variable {s t : TrackingRetry}

/-- What the property says about the flag. -/
theorem startHonest_iff :
    s.StartHonest ↔ (s.client.mLocationAPI = true → s.client.mTracking = true → s.Busy) := by
  unfold StartHonest TrackingClient.locAPIStartTracking
  constructor
  · intro h hclient htracking
    have hcall := h 0 0
    simp only [hclient, htracking, Bool.not_true, Bool.false_eq_true, if_false, if_true] at hcall
    exact (hcall trivial).resolve_left (by decide)
  · intro h address newSession
    cases hclient : s.client.mLocationAPI with
    | false => simp
    | true =>
        cases htracking : s.client.mTracking with
        | false => simp
        | true => exact fun _ => Or.inr (h hclient htracking)

/-- With no session and no pending start, a start makes its call. -/
theorem issues_of_idle (h : s.StartHonest) (hclient : s.client.mLocationAPI = true)
    (hidle : ¬ s.Busy) (address : Nat) (newSession : UInt32) :
    (s.client.locAPIStartTracking address newSession).2 =
      (.success, some ⟨newSession, .startTrackingRequest, address⟩) := by
  have htracking : s.client.mTracking = false :=
    Bool.eq_false_iff.mpr fun htracking => hidle (startHonest_iff.mp h hclient htracking)
  unfold TrackingClient.locAPIStartTracking
  rw [hclient, htracking]
  rfl

/-! ### One step -/

/-- A method that returns without a call. -/
theorem issue_none (s : TrackingRetry) : s.issue s.client none = s := by simp [issue]

/-- What a start does: nothing, or its call. -/
theorem step_startTracking_cases {newSession : UInt32}
    (ht : s.step (.startTracking newSession) = some t) :
    ((s.client.mLocationAPI = true → s.client.mTracking = true) ∧ t = s) ∨
      (s.client.mLocationAPI = true ∧ s.client.mTracking = false ∧
        t.client.mLocationAPI = true ∧ t.client.mTracking = true ∧ t.live = s.live ∧
        t.pending = s.pending ++
          if newSession = 0 then [] else [⟨newSession, .startTrackingRequest, s.nextAddress⟩]) := by
  simp only [step, TrackingClient.locAPIStartTracking, Option.some.injEq] at ht
  cases hclient : s.client.mLocationAPI with
  | false =>
      refine Or.inl ⟨nofun, ?_⟩
      rw [hclient] at ht
      exact ht.symm.trans (issue_none s)
  | true =>
      cases htracking : s.client.mTracking with
      | true =>
          refine Or.inl ⟨fun _ => rfl, ?_⟩
          rw [hclient, htracking] at ht
          exact ht.symm.trans (issue_none s)
      | false =>
          rw [hclient, htracking] at ht
          subst ht
          refine Or.inr ⟨rfl, rfl, hclient, rfl, rfl, ?_⟩
          by_cases hzero : newSession = 0 <;> simp [issue, hzero]

/-- What a stop does: nothing, or it clears the flag. -/
theorem step_stopTracking_cases (ht : s.step .stopTracking = some t) :
    t = s ∨ t.client.mTracking = false := by
  simp only [step, TrackingClient.locAPIStopTracking, Option.some.injEq] at ht
  subst ht
  cases s.client.mLocationAPI with
  | false => exact Or.inl (issue_none s)
  | true =>
      by_cases hsession : 0 < (s.client.mRequestQueues .tracking).mSession
      · refine Or.inr ?_
        simp [hsession, issue]
      · refine Or.inl ?_
        simp [hsession, issue_none]

/-- What a response does. The flag stays. -/
theorem step_response_cases {index : Nat} {err : LocationError}
    (ht : s.step (.response index err) = some t) :
    ∃ call, s.pending[index]? = some call ∧ t.client.mLocationAPI = s.client.mLocationAPI ∧
      t.client.mTracking = s.client.mTracking ∧ t.pending = s.pending.eraseIdx index ∧
      t.live = s.liveAfter call err := by
  rw [step] at ht
  split at ht
  · cases ht
  · rename_i call hcall
    cases ht
    exact ⟨call, hcall, rfl, rfl, rfl, rfl⟩

/-- After a response that does not end its session, there is a session if there was one. -/
theorem busy_response {index : Nat} {err : LocationError}
    {call : ClientCall TrackingRequestClass} (hcall : s.pending[index]? = some call)
    (hpending : t.pending = s.pending.eraseIdx index) (hlive : t.live = s.liveAfter call err)
    (hends : ¬ Ends call err) (hs : s.Busy) : t.Busy := by
  unfold Ends at hends
  unfold liveAfter at hlive
  by_cases hstart : call.request.cls = .startTrackingRequest
  · -- the start has succeeded
    simp only [hstart, ne_eq, not_not] at hends hlive
    refine Or.inr ⟨call.session, ?_⟩
    rw [hlive, if_pos hends, Function.update_self]
  · have hsame : t.live = s.live := by
      rw [hlive]
      split
      · cases hcls : call.request.cls with
        | startTrackingRequest => exact absurd hcls hstart
        | stopTrackingRequest =>
            rw [hcls] at hends
            exact absurd ‹err = .success› hends
        | updateTrackingOptionsRequest => rfl
        | gnssNiResponseRequest => rfl
      · rfl
    rcases hs with ⟨other, hother, hisStart⟩ | ⟨session, hsession⟩
    · -- the response was for another call than this start
      refine Or.inl ⟨other, ?_, hisStart⟩
      obtain ⟨i, hi⟩ := List.mem_iff_getElem?.mp hother
      rw [hpending, List.mem_eraseIdx_iff_getElem?]
      refine ⟨i, ?_, hi⟩
      rintro rfl
      cases hcall.symm.trans hi
      exact hstart (of_decide_eq_true hisStart)
    · exact Or.inr ⟨session, hsame ▸ hsession⟩

/-- After a response that ends its session, there is a session exactly when there was another. -/
theorem busy_response_iff {index : Nat} {err : LocationError}
    {call : ClientCall TrackingRequestClass}
    (hpending : t.pending = s.pending.eraseIdx index) (hlive : t.live = s.liveAfter call err)
    (hends : Ends call err) : t.Busy ↔ s.OtherSession index call := by
  unfold Busy OtherSession
  rw [hpending, hlive]
  -- the starts that are left are the same, and the live sessions differ by the one of the call
  apply or_congr_right
  apply exists_congr
  intro session
  unfold Ends at hends
  unfold liveAfter
  cases hcls : call.request.cls with
  | startTrackingRequest =>
      rw [hcls] at hends
      rw [if_neg hends]
      simp
  | stopTrackingRequest =>
      rw [hcls] at hends
      rw [if_pos hends]
      by_cases hsession : session = call.session
      · simp [hsession]
      · simp [hsession]
  | updateTrackingOptionsRequest =>
      rw [hcls] at hends
      exact hends.elim
  | gnssNiResponseRequest =>
      rw [hcls] at hends
      exact hends.elim

/-- A step keeps the property exactly when it meets the condition. -/
theorem startHonest_step_iff {label : RetryLabel} (hs : s.StartHonest)
    (ht : s.step label = some t) : t.StartHonest ↔ s.KeepsSession label := by
  rw [startHonest_iff] at hs ⊢
  cases label with
  | startTracking newSession =>
      rcases step_startTracking_cases ht with
        ⟨hidle, rfl⟩ | ⟨hclient, htracking, hclient', htracking', hlive, hpending⟩
      · refine ⟨fun _ hclient htracking => ?_, fun _ => hs⟩
        exact absurd (hidle hclient) (by simp [htracking])
      · -- the flag is set now, so the new session has to be there
        rw [imp_iff_right hclient', imp_iff_right htracking']
        show _ ↔ (_ → _ → newSession = 0 → s.Busy)
        rw [imp_iff_right hclient, imp_iff_right htracking]
        unfold Busy
        rw [hlive, hpending]
        by_cases hzero : newSession = 0
        · rw [if_pos hzero, List.append_nil, imp_iff_right hzero]
        · refine ⟨fun _ h => absurd h hzero, fun _ =>
            Or.inl ⟨⟨newSession, .startTrackingRequest, s.nextAddress⟩, ?_, rfl⟩⟩
          rw [if_neg hzero]
          exact List.mem_append_right _ List.mem_cons_self
  | stopTracking =>
      -- a stop clears the flag, or does nothing
      refine ⟨fun _ => trivial, fun _ => ?_⟩
      rcases step_stopTracking_cases ht with rfl | hcleared
      · exact hs
      · intro _ htracking
        simp [hcleared] at htracking
  | response index err =>
      obtain ⟨call, hcall, hclient, htracking, hpending, hlive⟩ := step_response_cases ht
      rw [hclient, htracking]
      show _ ↔ ∀ c, s.pending[index]? = some c → Ends c err → _ → _ → s.OtherSession index c
      -- only a response that ends its call can leave the flag without a session
      by_cases hends : Ends call err
      · rw [busy_response_iff hpending hlive hends]
        constructor
        · intro h c hc _
          cases hcall.symm.trans hc
          exact h
        · intro h
          exact h call hcall hends
      · constructor
        · intro _ c hc hends'
          cases hcall.symm.trans hc
          exact absurd hends' hends
        · intro _ hclient htracking
          exact busy_response hcall hpending hlive hends (hs hclient htracking)

/-! ### Runs -/

/-- For every sequence of starts, stops and responses: a start that reports success has made its
call, or has a session, all along the run, if and only if every step meets the condition.

`mTracking` is to say whether there is a session. The responses end a session and leave the flag, so
a start after one of them finds it set and makes no call, unless another session is there or on its
way by then. -/
theorem along_startHonest_iff (mLocationAPI : Bool) (labels : List RetryLabel) :
    Along step StartHonest (new mLocationAPI) labels ↔
      Guarded step KeepsSession (new mLocationAPI) labels := by
  refine along_iff_guarded (I := StartHonest) (fun _ hs => hs) ?_ ?_ ?_ labels _ ?_
  · intro s label t hs hok ht
    exact (startHonest_step_iff hs ht).mpr hok
  · intro s label t hs ht hP
    exact (startHonest_step_iff hs ht).mp hP
  · intro s label _ hnone
    cases label with
    | startTracking newSession => cases hnone
    | stopTracking => exact trivial
    | response index err =>
        intro call hcall
        simp [step, hcall] at hnone
  · rw [startHonest_iff]
    exact nofun

/-- A start, and the response that it has failed. -/
def refusedStart : List RetryLabel := [.startTracking 1, .response 0 .generalFailure]

/-- The flag is still set, so the next start reports success and makes no call. -/
theorem not_along_refusedStart : ¬ Along step StartHonest (new true) refusedStart := by
  rw [along_startHonest_iff]
  intro h
  have hfailed : LocationError.generalFailure ≠ .success := by decide
  have hother := (h.2 _ rfl).1 _ rfl hfailed rfl rfl
  rcases hother with ⟨call, hcall, -⟩ | ⟨session, hlive, -⟩
  · cases hcall
  · cases hlive

end TrackingRetry

end LocHal.Location
