import LocHal.Location.TrackingResponses

/-!
# `LocHal.Android.GnssStatus`: what the framework sees of the sessions

`gnssStart` and `gnssStop` of `GnssAPIClient` return before anything has happened. When the
adapter has answered, `onStartTrackingCb` tells the framework that the engine is on and a session
has begun, and `onStopTrackingCb` that the session has ended and the engine is off. Neither of them
looks at what the framework was told before.

`Bracketed` says that the statuses make sense in their order. `along_bracketed_iff` is the exact
condition, among the runs in which every response reaches its request: no start succeeds while the
adapter still has a session of the client. A `gnssStop` that fails leaves one behind.

`EngineView` is a framework that believes what it is told: a session begins only when the engine is
on and no session has begun, and so on. `Told` relates it to the adapter: it knows of a session
exactly if the adapter has one of this client. A response changes both together, since the adapter
changes its sessions by the same message that it answers (`Told.step`).

The client is the one of `LocHal.Location.TrackingResponses`, and its condition is assumed here.
Otherwise a response would reach the request of another call, and the statuses would be those of
that call.
-/

set_option autoImplicit false

namespace LocHal.Android

open LabelledRun
open LocHal.Location

/-- `IGnssCallback::GnssStatusValue`. -/
inductive GnssStatusValue where
  | none
  | sessionBegin
  | sessionEnd
  | engineOn
  | engineOff
  deriving DecidableEq, Repr

/-- A `GnssAPIClient` with a callback. `gnssStart`, `gnssSetPositionMode` and `gnssStop` are the
calls of `tracking`, and `statuses` are the arguments of `gnssStatusCb`. -/
structure GnssAPIClient where
  tracking : TrackingResponses
  statuses : List GnssStatusValue

namespace GnssAPIClient

/-- `GnssAPIClient::onStartTrackingCb`. -/
def onStartTrackingCb (error : LocationError) : List GnssStatusValue :=
  if error = .success then [.engineOn, .sessionBegin] else []

/-- `GnssAPIClient::onStopTrackingCb`. -/
def onStopTrackingCb (error : LocationError) : List GnssStatusValue :=
  if error = .success then [.sessionEnd, .engineOff] else []

/-- `onResponse` of the request that a response has reached. -/
def onResponse (request : Option (ClientRequest TrackingRequestClass)) (error : LocationError) :
    List GnssStatusValue :=
  match request.map ClientRequest.cls with
  | some .startTrackingRequest => onStartTrackingCb error
  | some .stopTrackingRequest => onStopTrackingCb error
  | _ => []

/-- The error in the response of a step. -/
def errorOf : TrackingLabel → LocationError
  | .proc err => err
  | _ => .success

/-- A client that has set its callbacks. -/
def new (mLocationAPI : Bool) : GnssAPIClient := ⟨.new mLocationAPI, []⟩

/-- The statuses for the responses that are new. -/
def newStatuses (before after : TrackingResponses) (error : LocationError) :
    List GnssStatusValue :=
  (after.responses.drop before.responses.length).flatMap fun response =>
    onResponse response.2 error

/-- One step. -/
def step (s : GnssAPIClient) (label : TrackingLabel) : Option GnssAPIClient :=
  (s.tracking.step label).map fun tracking =>
    ⟨tracking, s.statuses ++ newStatuses s.tracking tracking (errorOf label)⟩

end GnssAPIClient

/-! ### The order of the statuses -/

/-- What a framework that believes the statuses knows. -/
inductive EngineView where
  | off
  | on
  | inSession
  deriving DecidableEq, Repr

/-- A status that fits: sessions begin and end while the engine is on. -/
def EngineView.after : EngineView → GnssStatusValue → Option EngineView
  | .off, .engineOn => some .on
  | .on, .sessionBegin => some .inSession
  | .inSession, .sessionEnd => some .on
  | .on, .engineOff => some .off
  | _, _ => none

/-- The view after some statuses that fit. -/
def EngineView.afterAll (view : EngineView) (statuses : List GnssStatusValue) : Option EngineView :=
  statuses.foldlM EngineView.after view

theorem EngineView.afterAll_append (view : EngineView) (a b : List GnssStatusValue) :
    view.afterAll (a ++ b) = (view.afterAll a).bind fun view' => view'.afterAll b :=
  List.foldlM_append

namespace GnssAPIClient

/-- All statuses so far fit: a session begins in an engine that is on, and ends before the next one.
`EngineView` is what somebody knows who sees the statuses only. -/
def Bracketed (s : GnssAPIClient) : Prop := (EngineView.off.afterAll s.statuses).isSome = true

/-- A start that succeeds finds no session of the client in the adapter. A second session would be a
second beginning, and the framework has been told of no end in between. -/
def StartsAlone (s : GnssAPIClient) : TrackingLabel → Prop
  | .proc .success =>
      ∀ call ∈ s.tracking.messages.head?, call.isStart = true →
        ∀ session, s.tracking.mTrackingSessions session = false
  | _ => True

/-- A call that is answered has no start behind it, so the response reaches its request. A start
makes a new queue of requests, and a response that comes afterwards finds no request to tell the
framework of. -/
def Undisturbed (s : GnssAPIClient) (label : TrackingLabel) : Prop := s.tracking.Undisturbed label

/-! ### One step -/

variable {s t : GnssAPIClient}

/-- The framework is told of the session that the adapter has. -/
structure Told (s : GnssAPIClient) : Prop where
  synced : s.tracking.Synced
  delivered : s.tracking.Delivered
  view : ∃ current : Option UInt32,
    (∀ session, s.tracking.mTrackingSessions session = true ↔ current = some session) ∧
      EngineView.off.afterAll s.statuses
        = some (if current.isSome then EngineView.inSession else EngineView.off)

theorem told_new (mLocationAPI : Bool) : (new mLocationAPI).Told where
  synced := (TrackingResponses.synced_new mLocationAPI).1
  delivered := (TrackingResponses.synced_new mLocationAPI).2
  view := ⟨none, fun _ => ⟨nofun, nofun⟩, rfl⟩

theorem Told.bracketed (h : s.Told) : s.Bracketed := by
  obtain ⟨current, -, hview⟩ := h.view
  unfold Bracketed
  rw [hview]
  rfl

/-- Without a new response there is no new status. -/
theorem append_newStatuses_of_eq {after : TrackingResponses} (error : LocationError)
    (h : after.responses = s.tracking.responses) :
    s.statuses ++ newStatuses s.tracking after error = s.statuses := by
  unfold newStatuses
  rw [h, List.drop_length]
  exact List.append_nil _

/-- One new response makes the statuses of its request. -/
theorem newStatuses_of_concat {before after : TrackingResponses} (error : LocationError)
    {call : ClientCall TrackingRequestClass} {found : Option (ClientRequest TrackingRequestClass)}
    (h : after.responses = before.responses ++ [(call, found)]) :
    newStatuses before after error = onResponse found error := by
  unfold newStatuses
  rw [h, List.drop_left]
  exact List.append_nil _

/-- What a step does: the adapter keeps the sessions and adds no status, or it answers the oldest
call, and the request of the call makes the statuses. -/
inductive StepEffect (s t : GnssAPIClient) (label : TrackingLabel) : Prop where
  | silent (hsessions : t.tracking.mTrackingSessions = s.tracking.mTrackingSessions)
      (hstatuses : t.statuses = s.statuses)
      (hcall : ∀ err, label = .proc err → ∀ call ∈ s.tracking.messages.head?,
        s.tracking.answers call = false)
  | answered (err : LocationError) (call : ClientCall TrackingRequestClass)
      (hlabel : label = .proc err) (hhead : s.tracking.messages.head? = some call)
      (hanswers : s.tracking.answers call = true)
      (hsessions : t.tracking.mTrackingSessions = s.tracking.sessionsAfter call err)
      (hstatuses : t.statuses = s.statuses ++ onResponse (some call.request) err)

theorem Told.step_effect (h : s.Told) {label : TrackingLabel} (hok : s.Undisturbed label)
    (ht : s.step label = some t) : StepEffect s t label := by
  obtain ⟨tracking, hstep, rfl⟩ := Option.map_eq_some_iff.mp ht
  cases label with
  | proc err =>
      obtain ⟨call, rest, hmessages, ⟨hanswers, rfl⟩ | ⟨hanswers, rfl⟩⟩ :=
        TrackingResponses.step_proc_cases hstep
      · refine .silent rfl ?_ ?_
        · exact append_newStatuses_of_eq err rfl
        · intro _ _ other hother
          rw [hmessages] at hother
          exact Option.some.inj hother ▸ hanswers
      · -- the response reaches the request of the call
        have hany : rest.any ClientCall.isStart = false := by
          unfold Undisturbed at hok
          simp only [TrackingResponses.Undisturbed, hmessages] at hok
          exact hok hanswers
        have hfound : (s.tracking.client.onResponseCb call.session).1 = some call.request :=
          congrArg Prod.fst (h.synced.onResponseCb_fst hmessages hanswers hany)
        refine .answered err call rfl (by rw [hmessages]; rfl) hanswers rfl ?_
        rw [← hfound]
        exact congrArg (s.statuses ++ ·) (newStatuses_of_concat err rfl)
  | _ =>
      obtain ⟨client, call, -, -, ⟨counter, rfl⟩, -⟩ | ⟨err, herr⟩ :=
        TrackingResponses.step_cases hstep
      · exact .silent rfl (append_newStatuses_of_eq _ rfl) fun _ hlabel => by cases hlabel
      · cases herr

/-- A step keeps the responses at their requests. -/
theorem Told.delivered_step (h : s.Told) {label : TrackingLabel} (hok : s.Undisturbed label)
    (ht : s.step label = some t) : t.tracking.Synced ∧ t.tracking.Delivered := by
  obtain ⟨tracking, hstep, rfl⟩ := Option.map_eq_some_iff.mp ht
  exact TrackingResponses.synced_step hstep ⟨h.synced, h.delivered⟩ hok

/-- A response with an error changes neither the sessions nor the view. -/
theorem onResponse_of_error {err : LocationError} (herr : err ≠ .success)
    (request : Option (ClientRequest TrackingRequestClass)) : onResponse request err = [] := by
  unfold onResponse onStartTrackingCb onStopTrackingCb
  rw [if_neg herr, if_neg herr]
  split <;> rfl

/-- One session is saved or cleared where no other one is saved. -/
theorem saved_update {saved : UInt32 → Bool} {session : UInt32} (value : Bool)
    (hnone : ∀ other ≠ session, saved other = false) (other : UInt32) :
    Function.update saved session value other = true ↔
      (if value then some session else none) = some other := by
  rw [Function.update_apply]
  by_cases hother : other = session
  · simp [hother]
  · rw [if_neg hother, hnone other hother]
    simp [Ne.symm hother]

/-- The sessions of the adapter and the view of the framework change together, when a start finds
no session. -/
theorem Told.step (h : s.Told) {label : TrackingLabel} (hbase : s.Undisturbed label)
    (hok : s.StartsAlone label) (ht : s.step label = some t) : t.Told := by
  obtain ⟨hsynced, hdelivered⟩ := h.delivered_step hbase ht
  obtain ⟨current, hcurrent, hview⟩ := h.view
  refine ⟨hsynced, hdelivered, ?_⟩
  cases h.step_effect hbase ht with
  | silent hsessions hstatuses =>
      rw [hsessions, hstatuses]
      exact ⟨current, hcurrent, hview⟩
  | answered err call hlabel hhead hanswers hsessions hstatuses =>
      subst hlabel
      rw [hsessions, hstatuses, EngineView.afterAll_append, hview, Option.bind_some]
      unfold TrackingResponses.sessionsAfter
      by_cases herr : err = .success
      · subst herr
        rw [if_pos rfl]
        unfold TrackingResponses.answers ClientCall.isStart at hanswers
        cases hcls : call.request.cls with
        | startTrackingRequest =>
            -- no session was saved, and the new one is the current one
            have hnone : current = none := by
              refine Option.eq_none_iff_forall_ne_some.mpr fun session hsession => ?_
              have hsaved := (hcurrent session).mpr hsession
              rw [hok call hhead (decide_eq_true hcls) session] at hsaved
              cases hsaved
            subst hnone
            refine ⟨some call.session, saved_update true fun session _ => ?_, ?_⟩
            · exact Bool.eq_false_iff.mpr fun hsaved => by cases (hcurrent session).mp hsaved
            · unfold onResponse
              rw [Option.map_some, hcls]
              rfl
        | stopTrackingRequest =>
            -- an answered stop is for the session that is saved
            rw [hcls, Bool.or_eq_true] at hanswers
            have hsaved := hanswers.resolve_left (by decide)
            obtain rfl := (hcurrent call.session).mp hsaved
            refine ⟨none, saved_update false fun session hne => ?_, ?_⟩
            · exact Bool.eq_false_iff.mpr fun hsaved =>
                hne (Option.some.inj ((hcurrent session).mp hsaved)).symm
            · unfold onResponse
              rw [Option.map_some, hcls]
              rfl
        | updateTrackingOptionsRequest =>
            refine ⟨current, hcurrent, ?_⟩
            unfold onResponse
            rw [Option.map_some, hcls]
            rfl
        | gnssNiResponseRequest =>
            refine ⟨current, hcurrent, ?_⟩
            unfold onResponse
            rw [Option.map_some, hcls]
            rfl
      · rw [if_neg herr, onResponse_of_error herr]
        exact ⟨current, hcurrent, rfl⟩

/-- After a start that succeeds while a session is saved, the statuses do not fit. -/
theorem Told.startsAlone_of_bracketed (h : s.Told) {label : TrackingLabel}
    (hbase : s.Undisturbed label) (ht : s.step label = some t) (hbracketed : t.Bracketed) :
    s.StartsAlone label := by
  obtain ⟨current, hcurrent, hview⟩ := h.view
  cases label with
  | proc err =>
      cases err with
      | success =>
          intro call hcall hstart session
          cases h.step_effect hbase ht with
          | silent hsessions hstatuses hnot =>
              -- a start is always answered
              have hanswers := hnot .success rfl call hcall
              unfold TrackingResponses.answers at hanswers
              rw [hstart] at hanswers
              cases hanswers
          | answered err call' hlabel hhead hanswers hsessions hstatuses =>
              cases hlabel
              obtain rfl : call = call' := Option.some.inj (hcall.symm.trans hhead)
              have hcls : call.request.cls = .startTrackingRequest := of_decide_eq_true hstart
              refine Bool.eq_false_iff.mpr fun hsaved => ?_
              obtain rfl := (hcurrent session).mp hsaved
              unfold Bracketed at hbracketed
              rw [hstatuses, EngineView.afterAll_append, hview, Option.bind_some] at hbracketed
              unfold onResponse at hbracketed
              rw [Option.map_some, hcls] at hbracketed
              cases hbracketed
      | _ => exact trivial
  | _ => exact trivial

/-- A message that cannot be processed meets the condition. -/
theorem startsAlone_of_none {label : TrackingLabel} (hnone : s.step label = none) :
    s.StartsAlone label := by
  cases label with
  | proc err =>
      cases err with
      | success =>
          intro call hcall
          have hstep := Option.map_eq_none_iff.mp hnone
          rw [TrackingResponses.step] at hstep
          cases hmessages : s.tracking.messages with
          | nil =>
              rw [hmessages] at hcall
              cases hcall
          | cons first rest =>
              rw [hmessages] at hstep
              dsimp only at hstep
              split at hstep <;> cases hstep
      | _ => exact trivial
  | _ => exact trivial

/-! ### Every run -/

/-- Among the runs in which no answered call has a start behind it: the statuses fit all along the
run if and only if no start succeeds while the adapter has a session of the client. -/
theorem along_bracketed_iff (mLocationAPI : Bool) (labels : List TrackingLabel)
    (hbase : Guarded GnssAPIClient.step Undisturbed (new mLocationAPI) labels) :
    Along GnssAPIClient.step Bracketed (new mLocationAPI) labels ↔
      Guarded GnssAPIClient.step StartsAlone (new mLocationAPI) labels :=
  Guarded.along_iff_guarded (I := Told) (fun _ h => h.bracketed)
    (fun _ _ _ h hbase hok ht => h.step hbase hok ht)
    (fun _ _ _ h hbase ht hbracketed => h.startsAlone_of_bracketed hbase ht hbracketed)
    (fun _ _ _ hnone => startsAlone_of_none hnone) labels _ (told_new mLocationAPI) hbase

/-- Two sessions, one after the other. -/
def twoSessions : List TrackingLabel :=
  [.startTracking, .proc .success, .stopTracking, .proc .success, .startTracking, .proc .success]

theorem along_bracketed_twoSessions :
    Along GnssAPIClient.step Bracketed (new true) twoSessions := by
  refine (along_bracketed_iff true twoSessions ?_).mpr ?_
  · refine ⟨trivial, fun s₁ h₁ => ⟨?_, fun s₂ h₂ => ⟨trivial, fun s₃ h₃ => ⟨?_, fun s₄ h₄ =>
      ⟨trivial, fun s₅ h₅ => ⟨?_, fun _ _ => trivial⟩⟩⟩⟩⟩⟩
    · cases h₁
      exact fun _ => rfl
    · cases h₁
      cases h₂
      cases h₃
      exact fun _ => rfl
    · cases h₁
      cases h₂
      cases h₃
      cases h₄
      cases h₅
      exact fun _ => rfl
  · refine ⟨trivial, fun s₁ h₁ => ⟨?_, fun s₂ h₂ => ⟨trivial, fun s₃ h₃ => ⟨?_, fun s₄ h₄ =>
      ⟨trivial, fun s₅ h₅ => ⟨?_, fun _ _ => trivial⟩⟩⟩⟩⟩⟩
    · cases h₁
      exact fun _ _ _ _ => rfl
    · cases h₁
      cases h₂
      cases h₃
      -- the oldest call is the stop
      intro call hcall hstart
      cases hcall
      cases hstart
    · cases h₁
      cases h₂
      cases h₃
      cases h₄
      cases h₅
      -- the session was erased by the stop
      intro call _ _ session
      show Function.update (Function.update (fun _ => false) 2 true) 2 false session = false
      rw [Function.update_idem, Function.update_apply, ite_self]

end GnssAPIClient

end LocHal.Android
