import LocHal.Gnss.LocationReport
import LocHal.Location.GeofenceBreach
import LocHal.Location.GeofenceRemoveAll

/-!
# `LocHal.Android.Geofencing`: the geofences of the framework

`GnssGeofencing` hands the calls of the framework to a `GeofenceAPIClient`, which turns the
transitions to monitor into a breach mask and keeps the geofence ids in the dictionary of
`LocationAPIClientBase`. A breach comes back with sessions. `beforeGeofenceBreachCb` makes ids of
them, and `onGeofenceBreachCb` calls the framework for each id.

`GeofenceWatch` is what the framework may expect: the geofence of each session with the transitions
that it asked for last. `Due` says which breach of a session the framework has to hear of: it is an
entry or an exit of a geofence that the framework has, and the transitions that were asked for have
the bit of that. The call then has the id of the geofence, the time of the breach, and a location
that says what the location of the breach says (`Reported`). `Expected` collects the calls over a
history, in order, and neither of them uses the functions of the source.

`transitions_run` says that the framework is called exactly so, as long as it adds no id that it
has. Without that condition the dictionary would give the id to two sessions and forget one of them.
`removeAllGeofences` is not written yet and removes nothing, so the geofences of a framework that
has died are still reported.
-/

set_option autoImplicit false

namespace LocHal.Android

open LabelledRun
open LocHal.Location
open LocHal.Gnss.LocationReport

variable {δ φ : Type}

/-! ### The client -/

/-- `IGnssGeofenceCallback::GeofenceTransition`. -/
inductive GeofenceTransition where
  | entered
  | exited
  | uncertain
  deriving DecidableEq, Repr

/-- The bit of a transition in `monitorTransitions`. -/
def GeofenceTransition.bit : GeofenceTransition → BitVec 32
  | .entered => 1
  | .exited => 2
  | .uncertain => 4

/-- A call of `gnssGeofenceTransitionCb`. -/
structure TransitionCb (δ φ : Type) where
  geofenceId : UInt32
  location : GnssLocation δ φ
  transition : GeofenceTransition
  timestamp : UInt64
  deriving DecidableEq

/-- A `GeofenceAPIClient` with a callback: the part of the base class, and what the framework was
called with. -/
structure GeofenceAPIClient (δ φ : Type) where
  base : GeofenceSystem
  transitions : List (TransitionCb δ φ)

/-- The calls of `IGnssGeofencing`, a response of the adapter, and a breach. `LocationAPI` answers
an addition with a session or a null pointer. -/
inductive GeofencingCall (δ φ : Type) where
  | addGeofence (geofenceId : UInt32) (monitorTransitions : BitVec 32)
      (notificationResponsivenessMs : UInt32) (session : Option UInt32)
  | pauseGeofence (geofenceId : UInt32)
  | resumeGeofence (geofenceId : UInt32) (monitorTransitions : BitVec 32)
  | removeGeofence (geofenceId : UInt32)
  | removeAllGeofences
  | collectiveResponse
  | geofenceBreach (notification : GeofenceBreachNotification (Location δ φ))

/-- The mask that `geofenceAdd` and `geofenceResume` make. -/
def breachTypeMask (monitor_transitions : BitVec 32) : UInt16 :=
  (if monitor_transitions &&& GeofenceTransition.entered.bit ≠ 0 then geofenceBreachEnterBit
    else 0) |||
  (if monitor_transitions &&& GeofenceTransition.exited.bit ≠ 0 then geofenceBreachExitBit else 0)

/-- The transition of a breach, if it has one. -/
def transitionOf : GeofenceBreachType → Option GeofenceTransition
  | .enter => some .entered
  | .exit => some .exited
  | _ => none

namespace GeofenceAPIClient

/-- A client for which `LocationAPI` was created. -/
def new : GeofenceAPIClient δ φ := ⟨.new true, []⟩

/-- `GeofenceAPIClient::onGeofenceBreachCb`. -/
def onGeofenceBreachCb (c : GeofenceAPIClient δ φ)
    (geofenceBreachNotification : GeofenceBreachNotification (Location δ φ)) :
    GeofenceAPIClient δ φ :=
  { c with
    transitions := c.transitions ++ geofenceBreachNotification.ids.filterMap fun id =>
      (transitionOf geofenceBreachNotification.type).map fun transition =>
        ⟨id, convertGnssLocation geofenceBreachNotification.location, transition,
          geofenceBreachNotification.timestamp⟩ }

/-- The call of the base class that a call of the framework becomes. -/
def baseCall : GeofencingCall δ φ → Option GeofenceLabel
  | .addGeofence geofence_id monitor_transitions notification_responsiveness_ms session =>
      some (.addGeofences
        [(geofence_id, ⟨breachTypeMask monitor_transitions, notification_responsiveness_ms, 0⟩)]
        (session.map fun session => [session]))
  | .pauseGeofence geofence_id => some (.pauseGeofences [geofence_id])
  | .resumeGeofence geofence_id monitor_transitions =>
      some (.resumeGeofences [(geofence_id, some (breachTypeMask monitor_transitions))])
  | .removeGeofence geofence_id => some (.removeGeofences [geofence_id])
  | .collectiveResponse => some .collectiveResponse
  | .removeAllGeofences => none
  | .geofenceBreach _ => none

/-- One step. -/
def step (c : GeofenceAPIClient δ φ) : GeofencingCall δ φ → Option (GeofenceAPIClient δ φ)
  | .geofenceBreach notification =>
      some (match c.base.client.beforeGeofenceBreachCb true notification with
        | some called => c.onGeofenceBreachCb called
        | none => c)
  | call =>
      match baseCall call with
      | some label => (c.base.step label).map fun base => { c with base := base }
      -- `geofenceRemoveAll` is empty
      | none => some c

/-- The framework adds no id that it has already. The dictionary would have two sessions for the id,
and what the framework asks for it would reach one of them only. -/
def AddsNewId (c : GeofenceAPIClient δ φ) : GeofencingCall δ φ → Prop
  | .addGeofence geofence_id _ _ _ => c.base.client.mGeofenceBiDict.hasId geofence_id = false
  | _ => True

end GeofenceAPIClient

/-! ### What the framework expects -/

/-- The geofence that has a session, and the transitions that were asked for last. -/
abbrev GeofenceWatch : Type := UInt32 → Option (UInt32 × BitVec 32)

namespace GeofenceWatch

/-- No geofence. -/
def empty : GeofenceWatch := fun _ => none

/-- The geofences after a call. -/
def after (w : GeofenceWatch) : GeofencingCall δ φ → GeofenceWatch
  | .addGeofence id monitorTransitions _ (some session) =>
      Function.update w session (some (id, monitorTransitions))
  | .resumeGeofence id monitorTransitions => fun session =>
      (w session).map fun fence => if fence.1 = id then (id, monitorTransitions) else fence
  | .removeGeofence id => fun session => (w session).filter fun fence => fence.1 ≠ id
  | _ => w

/-- A breach of this type crosses the border of a geofence, and `monitorTransitions` has this bit
for it. A dwell crosses no border. -/
inductive Crosses : GeofenceBreachType → GeofenceTransition → Nat → Prop
  | enter : Crosses .enter .entered 0
  | exit : Crosses .exit .exited 1

/-- The framework has to hear of a breach of this session: it has a geofence with this id there, and
it has asked for the transition. Entering is bit 0 of what it asks for and leaving is bit 1. There
is no transition for a dwell. -/
def Due (w : GeofenceWatch) (type : GeofenceBreachType) (session id : UInt32)
    (transition : GeofenceTransition) : Prop :=
  ∃ monitorTransitions b, w session = some (id, monitorTransitions) ∧ Crosses type transition b ∧
    monitorTransitions.getLsbD b = true

/-- The calls for the sessions of a breach, in order: one for each session that is due, and none
for the others. -/
inductive Reported (w : GeofenceWatch) (notification : GeofenceBreachNotification (Location δ φ)) :
    List UInt32 → List (TransitionCb δ φ) → Prop
  | nil : Reported w notification [] []
  | due {session : UInt32} {sessions : List UInt32} {call : TransitionCb δ φ}
      {calls : List (TransitionCb δ φ)}
      (hdue : w.Due notification.type session call.geofenceId call.transition)
      (hlocation : ShowsLocation notification.location call.location)
      (htimestamp : call.timestamp = notification.timestamp)
      (hrest : Reported w notification sessions calls) :
      Reported w notification (session :: sessions) (call :: calls)
  | silent {session : UInt32} {sessions : List UInt32} {calls : List (TransitionCb δ φ)}
      (hnotDue : ∀ id transition, ¬ w.Due notification.type session id transition)
      (hrest : Reported w notification sessions calls) :
      Reported w notification (session :: sessions) calls

/-- The calls that a call of the framework or a breach leads to. Only a breach leads to any. -/
def Reports (w : GeofenceWatch) : GeofencingCall δ φ → List (TransitionCb δ φ) → Prop
  | .geofenceBreach notification, calls => Reported w notification notification.ids calls
  | _, calls => calls = []

/-- The calls that a history leads to. The geofences that the framework has are followed along the
history, by its calls alone, and a breach is compared with them as they are at that time. -/
inductive Expected : GeofenceWatch → List (GeofencingCall δ φ) → List (TransitionCb δ φ) → Prop
  | nil {w : GeofenceWatch} : Expected w [] []
  | cons {w : GeofenceWatch} {call : GeofencingCall δ φ} {calls : List (GeofencingCall δ φ)}
      {now later : List (TransitionCb δ φ)} (hnow : w.Reports call now)
      (hlater : Expected (w.after call) calls later) : Expected w (call :: calls) (now ++ later)

theorem map_update {β : Type} (w : GeofenceWatch) (f : UInt32 × BitVec 32 → β) (session : UInt32)
    (fence : UInt32 × BitVec 32) (other : UInt32) :
    (Function.update w session (some fence) other).map f
      = Function.update (fun session => (w session).map f) session (some (f fence)) other :=
  Function.apply_update (fun _ => Option.map f) w session (some fence) other

end GeofenceWatch

/-! ### One geofence in the dictionary -/

section Dictionary

variable {s : GeofenceSystem} {id session : UInt32}

/-- What the methods for known ids leave of the dictionary. -/
theorem dict_onKnown (hs : s.Linked) (id : UInt32) (mask : Option UInt16)
    (request : GeofenceRequest) (call : List UInt32 → GeofenceCall) :
    (s.client.onKnown [(id, mask)] request call).1.mGeofenceBiDict =
      match s.client.mGeofenceBiDict.mForwardMap id, mask with
      | some session, some mask => s.client.mGeofenceBiDict.set id session mask
      | _, _ => s.client.mGeofenceBiDict := by
  unfold GeofenceClient.onKnown
  cases hid : s.client.mGeofenceBiDict.mForwardMap id with
  | none =>
      -- an unknown id is skipped
      have hunknown : ¬ 0 < s.client.mGeofenceBiDict.getSession id := fun hpos => by
        cases hid.symm.trans (BiDict.mForwardMap_of_getSession hpos)
      unfold GeofenceClient.knownLoop
      rw [if_neg hunknown]
      split
      · rfl
      · split <;> rfl
  | some session =>
      -- a known id has a session, so the client has a `LocationAPI` and the queue is set
      obtain ⟨hlocation, hqueue⟩ := hs.active session (hs.dict.hasSession_of_some hid)
      have hpos := hs.dict.getSession_pos hid
      rw [if_neg (by rw [hlocation]; exact Bool.false_ne_true), if_pos hqueue]
      unfold GeofenceClient.knownLoop
      rw [if_pos hpos, BiDict.getSession_of_some hid]
      cases mask <;> rfl

/-- A removal takes the session of the id out of the maps. -/
theorem dict_locAPIRemoveGeofences (hs : s.Linked) (hlocation : s.client.mLocationAPI = true)
    (id session : UInt32) :
    (s.client.locAPIRemoveGeofences [id]).1.mGeofenceBiDict.mBackwardMap session =
        (if s.client.mGeofenceBiDict.mForwardMap id = some session then none
          else s.client.mGeofenceBiDict.mBackwardMap session) ∧
      (s.client.locAPIRemoveGeofences [id]).1.mGeofenceBiDict.mExtMap session =
        if s.client.mGeofenceBiDict.mForwardMap id = some session then none
          else s.client.mGeofenceBiDict.mExtMap session := by
  by_cases hqueue : s.client.mGeofenceQueue.mSession = geofenceSessionId
  · obtain ⟨hremoved, -⟩ := GeofenceClient.locAPIRemoveGeofences_spec hs.dict hlocation hqueue
      (List.nodup_singleton id)
    -- of one id, the known sessions are its own
    have hsessions : session ∈ s.client.mGeofenceBiDict.knownSessions [id] ↔
        s.client.mGeofenceBiDict.mForwardMap id = some session := by
      rw [GeofenceClient.mem_knownSessions]
      constructor
      · rintro ⟨other, hother, rfl, hpos⟩
        rw [List.mem_singleton.mp hother] at hpos ⊢
        exact BiDict.mForwardMap_of_getSession hpos
      · intro hid
        have hpos := hs.dict.getSession_pos hid
        rw [BiDict.getSession_of_some hid] at hpos
        exact ⟨id, List.mem_singleton_self id, BiDict.getSession_of_some hid, hpos⟩
    rw [hremoved.backward, hremoved.ext]
    simp only [hsessions, and_self]
  · -- no geofence has been added yet
    have hnone : s.client.mGeofenceBiDict.mForwardMap id ≠ some session := fun hid =>
      hqueue (hs.active session (hs.dict.hasSession_of_some hid)).2
    unfold GeofenceClient.locAPIRemoveGeofences
    rw [if_neg (by rw [hlocation]; exact Bool.false_ne_true), if_neg hqueue, if_neg hnone,
      if_neg hnone]
    exact ⟨rfl, rfl⟩

end Dictionary

/-! ### One step -/

namespace GeofenceAPIClient

variable {c t : GeofenceAPIClient δ φ} {w : GeofenceWatch}

/-- The dictionary has the geofences of the watch, with the masks of their transitions. -/
structure Watches (c : GeofenceAPIClient δ φ) (w : GeofenceWatch) : Prop where
  linked : c.base.Linked
  consistent : c.base.Consistent
  mLocationAPI : c.base.client.mLocationAPI = true
  backward : ∀ session,
    c.base.client.mGeofenceBiDict.mBackwardMap session = (w session).map fun fence => fence.1
  ext : ∀ session, c.base.client.mGeofenceBiDict.mExtMap session
    = (w session).map fun fence => breachTypeMask fence.2

/-- The session of an id is the one whose geofence has the id. -/
theorem Watches.forward_iff (h : c.Watches w) {id session : UInt32} :
    c.base.client.mGeofenceBiDict.mForwardMap id = some session ↔
      ∃ monitorTransitions, w session = some (id, monitorTransitions) := by
  rw [h.consistent.inverse id session, h.backward, Option.map_eq_some_iff]
  constructor
  · rintro ⟨⟨id', monitorTransitions⟩, hw, rfl⟩
    exact ⟨monitorTransitions, hw⟩
  · rintro ⟨monitorTransitions, hw⟩
    exact ⟨_, hw, rfl⟩

/-- The two bits of a mask are independent. -/
theorem mask_bits (p q : Prop) [Decidable p] [Decidable q] :
    (((if p then geofenceBreachEnterBit else 0) ||| (if q then geofenceBreachExitBit else 0)) &&&
        geofenceBreachEnterBit ≠ 0 ↔ p) ∧
      (((if p then geofenceBreachEnterBit else 0) ||| (if q then geofenceBreachExitBit else 0)) &&&
        geofenceBreachExitBit ≠ 0 ↔ q) := by
  by_cases hp : p <;> by_cases hq : q <;> simp only [hp, hq, if_true, if_false] <;> decide

/-- A mask of one bit. -/
theorem and_bit_ne_zero_iff (x : BitVec 32) {b : Nat} (hb : b < 32) :
    x &&& BitVec.twoPow 32 b ≠ 0 ↔ x.getLsbD b = true := by
  rw [BitVec.and_twoPow]
  cases x.getLsbD b with
  | false => simp
  | true =>
      refine iff_of_true (fun h => ?_) rfl
      have hbit := congrArg (BitVec.getLsbD · b) h
      simp [hb] at hbit

/-- The mask has the bit of a breach when the transition is monitored. -/
theorem breachTypeMask_bit (monitorTransitions : BitVec 32) {type : GeofenceBreachType}
    {transition : GeofenceTransition} {b : Nat} (h : GeofenceWatch.Crosses type transition b) :
    breachTypeMask monitorTransitions &&& type.bit ≠ 0 ↔
      monitorTransitions.getLsbD b = true := by
  cases h with
  | enter =>
      exact (mask_bits _ _).1.trans (and_bit_ne_zero_iff monitorTransitions (b := 0) (by decide))
  | exit =>
      exact (mask_bits _ _).2.trans (and_bit_ne_zero_iff monitorTransitions (b := 1) (by decide))

/-- The id of a session that is registered for a breach is the one that is due. -/
theorem Watches.registeredId_iff (h : c.Watches w) {type : GeofenceBreachType}
    {transition : GeofenceTransition} {b : Nat} (hcrosses : GeofenceWatch.Crosses type transition b)
    (session id : UInt32) :
    GeofenceClient.registeredId c.base.client.mGeofenceBiDict type session = some id ↔
      w.Due type session id transition := by
  unfold GeofenceClient.registeredId GeofenceWatch.Due
  rw [h.backward, h.ext]
  -- the bit is that of the transition
  have hunique : ∀ {b'}, GeofenceWatch.Crosses type transition b' → b' = b := by
    intro b' h'
    cases hcrosses <;> cases h' <;> rfl
  cases w session with
  | none => simp
  | some fence =>
      obtain ⟨other, monitored⟩ := fence
      dsimp only [Option.map_some]
      rw [Option.ite_none_right_eq_some, breachTypeMask_bit monitored hcrosses]
      constructor
      · rintro ⟨hbit, heq⟩
        cases heq
        exact ⟨monitored, b, rfl, hcrosses, hbit⟩
      · rintro ⟨_, b', heq, hcrosses', hbit⟩
        cases heq
        exact ⟨hunique hcrosses' ▸ hbit, rfl⟩

/-- The calls for the sessions of an entry or an exit. The induction is on the sessions. -/
theorem Watches.reported (h : c.Watches w)
    (notification : GeofenceBreachNotification (Location δ φ)) {transition : GeofenceTransition}
    {b : Nat} (hcrosses : GeofenceWatch.Crosses notification.type transition b)
    (sessions : List UInt32) :
    w.Reported notification sessions
      ((sessions.filterMap
        (GeofenceClient.registeredId c.base.client.mGeofenceBiDict notification.type)).map
          fun id => ⟨id, convertGnssLocation notification.location, transition,
            notification.timestamp⟩) := by
  induction sessions with
  | nil => exact .nil
  | cons session sessions ih =>
      cases hid : GeofenceClient.registeredId c.base.client.mGeofenceBiDict notification.type
          session with
      | none =>
          rw [List.filterMap_cons_none hid]
          refine .silent (fun id transition' hdue => ?_) ih
          -- a session that is due has a registered id, whatever the transition is
          have hdue' := hdue
          obtain ⟨-, b', -, hcrosses', -⟩ := hdue'
          cases hid.symm.trans ((h.registeredId_iff hcrosses' session id).mpr hdue)
      | some id =>
          rw [List.filterMap_cons_some hid, List.map_cons]
          exact .due ((h.registeredId_iff hcrosses session id).mp hid)
            (showsLocation_convertGnssLocation _) rfl ih

/-- `onGeofenceBreachCb` knows the breaches that cross a border. -/
theorem transitionOf_iff {type : GeofenceBreachType} {transition : GeofenceTransition} :
    transitionOf type = some transition ↔ ∃ b, GeofenceWatch.Crosses type transition b := by
  constructor
  · intro h
    cases type with
    | enter =>
        cases h
        exact ⟨0, .enter⟩
    | exit =>
        cases h
        exact ⟨1, .exit⟩
    | _ => cases h
  · rintro ⟨b, h⟩
    cases h <;> rfl

/-- A breach that crosses no border leads to no call. -/
theorem reported_nil {notification : GeofenceBreachNotification (Location δ φ)}
    (hnone : ∀ transition b, ¬ GeofenceWatch.Crosses notification.type transition b)
    (sessions : List UInt32) : w.Reported notification sessions [] := by
  induction sessions with
  | nil => exact .nil
  | cons session sessions ih =>
      refine .silent (fun id transition hdue => ?_) ih
      obtain ⟨-, b, -, hcrosses, -⟩ := hdue
      exact hnone transition b hcrosses

/-- A breach leads to the calls that the watch promises. -/
theorem Watches.breach (h : c.Watches w)
    (notification : GeofenceBreachNotification (Location δ φ))
    (ht : c.step (.geofenceBreach notification) = some t) :
    t.Watches w ∧ ∃ calls, t.transitions = c.transitions ++ calls ∧
      w.Reports (.geofenceBreach notification) calls := by
  cases ht
  refine ⟨⟨h.linked, h.consistent, h.mLocationAPI, h.backward, h.ext⟩, _, rfl, ?_⟩
  show w.Reported notification notification.ids
    ((GeofenceClient.breachLoop c.base.client.mGeofenceBiDict notification.type
      [] notification.ids).filterMap fun id => (transitionOf notification.type).map
        fun transition => ⟨id, convertGnssLocation notification.location, transition,
          notification.timestamp⟩)
  cases htransition : transitionOf notification.type with
  | none =>
      dsimp only [Option.map_none]
      rw [List.filterMap_none]
      -- the source has no transition for a dwell, and no geofence is due for one
      refine reported_nil (fun transition b hcrosses => ?_) notification.ids
      cases htransition.symm.trans (transitionOf_iff.mpr ⟨b, hcrosses⟩)
  | some transition =>
      obtain ⟨b, hcrosses⟩ := transitionOf_iff.mp htransition
      -- the loop looks at the mask for these types
      have hloop : notification.type = .enter ∨ notification.type = .exit := by
        generalize notification.type = type at hcrosses
        cases hcrosses with
        | enter => exact Or.inl rfl
        | exit => exact Or.inr rfl
      rw [GeofenceClient.breachLoop_eq h.linked.dict hloop, List.nil_append]
      dsimp only [Option.map_some]
      rw [List.filterMap_eq_map']
      exact h.reported notification hcrosses notification.ids

/-- A call that goes to the base class. -/
theorem step_of_baseCall {call : GeofencingCall δ φ} {label : GeofenceLabel}
    (hcall : baseCall call = some label) (ht : c.step call = some t) :
    ∃ base, c.base.step label = some base ∧ t = { c with base := base } := by
  unfold step at ht
  cases call with
  | geofenceBreach notification => cases hcall
  | removeAllGeofences => cases hcall
  | _ =>
      dsimp only at ht
      rw [hcall] at ht
      obtain ⟨base, hbase, heq⟩ := Option.map_eq_some_iff.mp ht
      exact ⟨base, hbase, heq.symm⟩

/-- A call of the base class keeps what does not depend on the watch. -/
theorem Watches.of_step (h : c.Watches w) {label : GeofenceLabel} {base : GeofenceSystem}
    {w' : GeofenceWatch} (hok : c.base.AddsNewIds label) (hbase : c.base.step label = some base)
    (hlocation : base.client.mLocationAPI = true)
    (hbackward : ∀ session, base.client.mGeofenceBiDict.mBackwardMap session
      = (w' session).map fun fence => fence.1)
    (hext : ∀ session, base.client.mGeofenceBiDict.mExtMap session
      = (w' session).map fun fence => breachTypeMask fence.2) :
    ({ c with base := base } : GeofenceAPIClient δ φ).Watches w' where
  linked := h.linked.step hbase
  consistent := (GeofenceSystem.consistent_step_iff h.consistent h.linked.recorded hbase).mpr hok
  mLocationAPI := hlocation
  backward := hbackward
  ext := hext

/-- The dictionary and the watch after a call that changes neither. -/
theorem Watches.of_same (h : c.Watches w) {label : GeofenceLabel} {base : GeofenceSystem}
    (hok : c.base.AddsNewIds label) (hbase : c.base.step label = some base)
    (hlocation : base.client.mLocationAPI = c.base.client.mLocationAPI)
    (hdict : base.client.mGeofenceBiDict = c.base.client.mGeofenceBiDict) :
    ({ c with base := base } : GeofenceAPIClient δ φ).Watches w := by
  refine h.of_step hok hbase (hlocation.trans h.mLocationAPI) ?_ ?_
  · rw [hdict]
    exact h.backward
  · rw [hdict]
    exact h.ext

/-- A paused geofence stays as it is. -/
theorem Watches.pauseGeofence (h : c.Watches w) {id : UInt32}
    (ht : c.step (.pauseGeofence id) = some t) : t.Watches w ∧ t.transitions = c.transitions := by
  obtain ⟨base, hbase, rfl⟩ := step_of_baseCall rfl ht
  refine ⟨h.of_same ?_ hbase ?_ ?_, rfl⟩
  · exact trivial
  · cases hbase
    exact (GeofenceClient.keepsClient_onKnown h.linked.dict _ _ _).mLocationAPI
  · cases hbase
    have hdict := dict_onKnown h.linked id none .pauseGeofencesRequest .pauseGeofences
    cases hid : c.base.client.mGeofenceBiDict.mForwardMap id <;> rw [hid] at hdict <;> exact hdict

/-- A response reads the dictionary only. -/
theorem Watches.collectiveResponse (h : c.Watches w)
    (ht : c.step .collectiveResponse = some t) : t.Watches w ∧ t.transitions = c.transitions := by
  obtain ⟨base, hbase, rfl⟩ := step_of_baseCall rfl ht
  refine ⟨h.of_same ?_ hbase ?_ ?_, rfl⟩
  · exact trivial
  · cases hbase
    exact (GeofenceClient.keepsClient_onCollectiveResponseCb h.linked.dict).mLocationAPI
  · cases hbase
    show (GeofenceClient.onCollectiveResponseCb c.base.client).mGeofenceBiDict = _
    unfold GeofenceClient.onCollectiveResponseCb
    split <;> rfl

/-- A resumed geofence monitors other transitions. -/
theorem Watches.resumeGeofence (h : c.Watches w) {id : UInt32} {monitorTransitions : BitVec 32}
    (ht : c.step (.resumeGeofence id monitorTransitions) = some t) :
    t.Watches (w.after (.resumeGeofence id monitorTransitions : GeofencingCall δ φ)) ∧
      t.transitions = c.transitions := by
  obtain ⟨base, hbase, rfl⟩ := step_of_baseCall rfl ht
  have hdict := dict_onKnown h.linked id (some (breachTypeMask monitorTransitions))
    .resumeGeofencesRequest .resumeGeofences
  have hkeep := GeofenceClient.keepsClient_onKnown h.linked.dict
    [(id, some (breachTypeMask monitorTransitions))] .resumeGeofencesRequest .resumeGeofences
  -- the id keeps its session, and only the mask of that session is written
  have hmaps : ∀ session, base.client.mGeofenceBiDict.mBackwardMap session
        = c.base.client.mGeofenceBiDict.mBackwardMap session ∧
      base.client.mGeofenceBiDict.mExtMap session
        = if c.base.client.mGeofenceBiDict.mForwardMap id = some session then
            some (breachTypeMask monitorTransitions)
          else c.base.client.mGeofenceBiDict.mExtMap session := by
    cases hbase
    intro session
    show (GeofenceClient.onKnown _ _ _ _).1.mGeofenceBiDict.mBackwardMap session = _ ∧
      (GeofenceClient.onKnown _ _ _ _).1.mGeofenceBiDict.mExtMap session = _
    rw [hdict]
    cases hid : c.base.client.mGeofenceBiDict.mForwardMap id with
    | none => exact ⟨rfl, rfl⟩
    | some known =>
        refine ⟨congrFun (h.linked.dict.set_maps hid _).2 session, ?_⟩
        show Function.update _ known _ session = _
        rw [Function.update_apply]
        simp only [Option.some.injEq, eq_comm]
  refine ⟨h.of_step ?_ hbase ?_ (fun session => ?_) (fun session => ?_), rfl⟩
  · exact trivial
  · cases hbase
    exact hkeep.mLocationAPI.trans h.mLocationAPI
  · rw [(hmaps session).1, h.backward]
    show _ = ((w session).map _).map _
    cases w session with
    | none => rfl
    | some fence =>
        simp only [Option.map_some, Option.some.injEq]
        split
        · assumption
        · rfl
  · rw [(hmaps session).2, h.ext]
    show _ = ((w session).map _).map _
    simp only [h.forward_iff]
    cases hw : w session with
    | none => simp
    | some fence =>
        obtain ⟨other, monitored⟩ := fence
        by_cases hother : other = id <;> simp [hother]

theorem Watches.unless_forward (h : c.Watches w) {β : Type} (id session : UInt32)
    (f : UInt32 × BitVec 32 → β) :
    (if c.base.client.mGeofenceBiDict.mForwardMap id = some session then none
      else (w session).map f) = ((w session).filter fun fence => fence.1 ≠ id).map f := by
  -- the id of the geofence decides, since no two sessions have one id
  simp only [h.forward_iff]
  cases hw : w session with
  | none => simp
  | some fence =>
      obtain ⟨other, monitored⟩ := fence
      by_cases hother : other = id <;> simp [hother]

/-- A removed geofence is no longer watched. -/
theorem Watches.removeGeofence (h : c.Watches w) {id : UInt32}
    (ht : c.step (.removeGeofence id) = some t) :
    t.Watches (w.after (.removeGeofence id : GeofencingCall δ φ)) ∧
      t.transitions = c.transitions := by
  obtain ⟨base, hbase, rfl⟩ := step_of_baseCall rfl ht
  have hmaps := dict_locAPIRemoveGeofences h.linked h.mLocationAPI id
  have hkeep := GeofenceClient.keepsClient_locAPIRemoveGeofences h.linked.dict [id]
  have hclient : base.client = (c.base.client.locAPIRemoveGeofences [id]).1 := by
    cases hbase
    rfl
  refine ⟨h.of_step ?_ hbase ?_ (fun session => ?_) (fun session => ?_), rfl⟩
  · exact trivial
  · rw [hclient]
    exact hkeep.mLocationAPI.trans h.mLocationAPI
  · rw [hclient, (hmaps session).1, h.backward]
    exact h.unless_forward id session _
  · rw [hclient, (hmaps session).2, h.ext]
    exact h.unless_forward id session _

theorem client_addGeofences {s t : GeofenceSystem} {geofences : List (UInt32 × GeofenceOption)}
    {sessions : List UInt32} (ht : s.step (.addGeofences geofences (some sessions)) = some t) :
    t.client = (s.client.locAPIAddGeofences geofences (some sessions)).1 := by
  rw [GeofenceSystem.step] at ht
  split at ht
  · cases ht
    rfl
  · cases ht

/-- A geofence is added under a new session, or the engine refuses it. -/
theorem Watches.addGeofence (h : c.Watches w) {id notificationResponsivenessMs : UInt32}
    {monitorTransitions : BitVec 32} {session : Option UInt32}
    (hnew : c.base.client.mGeofenceBiDict.hasId id = false)
    (ht : c.step (.addGeofence id monitorTransitions notificationResponsivenessMs session)
      = some t) :
    t.Watches (w.after (.addGeofence id monitorTransitions notificationResponsivenessMs session :
        GeofencingCall δ φ)) ∧ t.transitions = c.transitions := by
  obtain ⟨base, hbase, rfl⟩ := step_of_baseCall rfl ht
  refine ⟨?_, rfl⟩
  cases session with
  | none =>
      have hqueue := (GeofenceSystem.locAPIAddGeofences_queue h.mLocationAPI
        [(id, ⟨breachTypeMask monitorTransitions, notificationResponsivenessMs, 0⟩)] none).1
      have hdict := GeofenceClient.locAPIAddGeofences_dict c.base.client
        [(id, ⟨breachTypeMask monitorTransitions, notificationResponsivenessMs, 0⟩)] none
      rw [h.mLocationAPI, if_pos rfl] at hdict
      refine h.of_same ?_ hbase ?_ ?_
      · exact trivial
      · cases hbase
        exact hqueue.trans h.mLocationAPI.symm
      · cases hbase
        exact hdict
  | some session =>
      have hqueue := (GeofenceSystem.locAPIAddGeofences_queue h.mLocationAPI
        [(id, ⟨breachTypeMask monitorTransitions, notificationResponsivenessMs, 0⟩)]
        (some [session])).1
      have hdict := GeofenceClient.locAPIAddGeofences_dict c.base.client
        [(id, ⟨breachTypeMask monitorTransitions, notificationResponsivenessMs, 0⟩)]
        (some [session])
      rw [h.mLocationAPI, if_pos rfl] at hdict
      have hclient : base.client = (c.base.client.locAPIAddGeofences
          [(id, ⟨breachTypeMask monitorTransitions, notificationResponsivenessMs, 0⟩)]
          (some [session])).1 := client_addGeofences hbase
      refine h.of_step ?_ hbase ?_ (fun other => ?_) (fun other => ?_)
      · intro _ _
        refine ⟨List.nodup_singleton id, fun other hother => ?_⟩
        rw [List.mem_singleton.mp hother]
        exact hnew
      · rw [hclient]
        exact hqueue
      · rw [hclient, hdict]
        show Function.update c.base.client.mGeofenceBiDict.mBackwardMap session (some id) other
          = (Function.update w session (some (id, monitorTransitions)) other).map _
        rw [GeofenceWatch.map_update, funext h.backward]
      · rw [hclient, hdict]
        show Function.update c.base.client.mGeofenceBiDict.mExtMap session
            (some (breachTypeMask monitorTransitions)) other
          = (Function.update w session (some (id, monitorTransitions)) other).map _
        rw [GeofenceWatch.map_update, funext h.ext]

/-- One step follows the watch. -/
theorem Watches.step (h : c.Watches w) {call : GeofencingCall δ φ} (hok : c.AddsNewId call)
    (ht : c.step call = some t) :
    t.Watches (w.after call) ∧
      ∃ now, t.transitions = c.transitions ++ now ∧ w.Reports call now := by
  cases call with
  | geofenceBreach notification => exact h.breach notification ht
  | removeAllGeofences =>
      cases ht
      exact ⟨h, [], (List.append_nil _).symm, rfl⟩
  | addGeofence id monitorTransitions notificationResponsivenessMs session =>
      obtain ⟨hwatches, heq⟩ := h.addGeofence hok ht
      exact ⟨hwatches, [], heq.trans (List.append_nil _).symm, rfl⟩
  | pauseGeofence id =>
      obtain ⟨hwatches, heq⟩ := h.pauseGeofence ht
      exact ⟨hwatches, [], heq.trans (List.append_nil _).symm, rfl⟩
  | resumeGeofence id monitorTransitions =>
      obtain ⟨hwatches, heq⟩ := h.resumeGeofence ht
      exact ⟨hwatches, [], heq.trans (List.append_nil _).symm, rfl⟩
  | removeGeofence id =>
      obtain ⟨hwatches, heq⟩ := h.removeGeofence ht
      exact ⟨hwatches, [], heq.trans (List.append_nil _).symm, rfl⟩
  | collectiveResponse =>
      obtain ⟨hwatches, heq⟩ := h.collectiveResponse ht
      exact ⟨hwatches, [], heq.trans (List.append_nil _).symm, rfl⟩

/-! ### Every run -/

/-- A run appends the calls that the watch promises. The induction is on the calls. -/
theorem Watches.run : ∀ (calls : List (GeofencingCall δ φ)) {c t : GeofenceAPIClient δ φ}
    {w : GeofenceWatch}, c.Watches w → Guarded GeofenceAPIClient.step AddsNewId c calls →
    run GeofenceAPIClient.step c calls = some t →
    ∃ made, t.transitions = c.transitions ++ made ∧ w.Expected calls made := by
  intro calls
  induction calls with
  | nil =>
      intro c t w _ _ hrun
      cases hrun
      exact ⟨[], (List.append_nil _).symm, .nil⟩
  | cons call calls ih =>
      intro c t w h hok hrun
      obtain ⟨u, hu, hrest⟩ := run_cons_eq_some.mp hrun
      obtain ⟨hwatches, now, hnow, hreports⟩ := h.step hok.1 hu
      obtain ⟨later, hlater, hexpected⟩ := ih hwatches (hok.2 u hu) hrest
      refine ⟨now ++ later, ?_, .cons hreports hexpected⟩
      rw [hlater, hnow, List.append_assoc]

end GeofenceAPIClient

end LocHal.Android
