import LocHal.Location.GeofenceLinked

/-!
# `LocHal.Location.GeofenceBreach`: the breaches that reach a client

`LocationAPI` reports a breach with sessions. `beforeGeofenceBreachCb` turns them into client ids
and drops those whose mask does not have the bit of the breach type. It tests the bits for an entry
and an exit only.

`breachReaches_iff` says when the callback gets the ids that it should: the breach is not a dwell,
or no listed geofence was registered for it. A session that is not in the dictionary has the id 0
and the mask 0, and is dropped by its mask.

`breachLoop_eq` is the loop for the two types that it tests: it gives the ids of the registered
sessions. For another type it gives none (`breachLoop_of_ne`), although a geofence can be registered
for a dwell: the mask has bits for that. `breachLoop_eq_filterMap_iff` puts the two together. That a
session has a mask exactly if it has an id is the part of the invariant `Linked` that this needs.
-/

set_option autoImplicit false

namespace LocHal.Location

open LabelledRun

/-- `GeofenceBreachType`. -/
inductive GeofenceBreachType where
  | enter
  | exit
  | dwellIn
  | dwellOut
  | unknown
  deriving DecidableEq, Repr

/-- `GEOFENCE_BREACH_ENTER_BIT`. -/
def geofenceBreachEnterBit : UInt16 := 1

/-- `GEOFENCE_BREACH_EXIT_BIT`. -/
def geofenceBreachExitBit : UInt16 := 2

/-- The bit of a type among the `GeofenceBreachTypeBits`. -/
def GeofenceBreachType.bit : GeofenceBreachType → UInt16
  | .enter => geofenceBreachEnterBit
  | .exit => geofenceBreachExitBit
  | .dwellIn => 4
  | .dwellOut => 8
  | .unknown => 0

/-- `GeofenceBreachNotification`, with its array of ids as a list. -/
structure GeofenceBreachNotification (Location : Type) where
  size : UInt64
  count : Nat
  ids : List UInt32
  location : Location
  type : GeofenceBreachType
  timestamp : UInt64
  /-- The array has the given length. -/
  count_eq : count = ids.length

/-- `BiDict::getId`. -/
def BiDict.getId {T : Type} (d : BiDict T) (session : UInt32) : UInt32 :=
  (d.mBackwardMap session).getD 0

namespace GeofenceClient

variable {Location : Type}

/-- The loop of `beforeGeofenceBreachCb`, with the ids so far. -/
def breachLoop (d : BiDict UInt16) (type : GeofenceBreachType) (ids : List UInt32) :
    List UInt32 → List UInt32
  | [] => ids
  | session :: sessions =>
      let id := d.getId session
      let mask := d.getExtBySession 0 session
      if (type = .enter ∧ mask &&& geofenceBreachEnterBit ≠ 0) ∨
          (type = .exit ∧ mask &&& geofenceBreachExitBit ≠ 0) then
        breachLoop d type (ids ++ [id]) sessions
      else breachLoop d type ids sessions

/-- `LocationAPIClientBase::beforeGeofenceBreachCb`: what `mGeofenceBreachCallback` is called with,
if there is one. -/
def beforeGeofenceBreachCb (c : GeofenceClient) (mGeofenceBreachCallback : Bool)
    (notification : GeofenceBreachNotification Location) :
    Option (GeofenceBreachNotification Location) :=
  if mGeofenceBreachCallback then
    let ids := breachLoop c.mGeofenceBiDict notification.type [] notification.ids
    some { notification with count := ids.length, ids := ids, count_eq := rfl }
  else none

/-- The client id of a session that is in the dictionary and registered for the type. This is what
the callback should be told, for all four types alike. -/
def registeredId (d : BiDict UInt16) (type : GeofenceBreachType) (session : UInt32) :
    Option UInt32 :=
  match d.mBackwardMap session, d.mExtMap session with
  | some id, some mask => if mask &&& type.bit ≠ 0 then some id else none
  | _, _ => none

/-- The callback is called with the ids of the sessions that are registered for the type, in order,
and with the other fields as they are. If there are none, it is called all the same, with no ids. -/
structure BreachReaches (c : GeofenceClient) (notification : GeofenceBreachNotification Location)
    (called : GeofenceBreachNotification Location) : Prop where
  call : c.beforeGeofenceBreachCb true notification = some called
  ids : called.ids = notification.ids.filterMap (registeredId c.mGeofenceBiDict notification.type)
  count : called.count = called.ids.length
  size : called.size = notification.size
  location : called.location = notification.location
  type : called.type = notification.type
  timestamp : called.timestamp = notification.timestamp

/-! ### The loop -/

variable {d : BiDict UInt16} {type : GeofenceBreachType} {ids sessions : List UInt32}

/-- For the two types that the loop tests, one session adds its id when it is registered. -/
theorem breachLoop_cons (hd : d.Linked) (htype : type = .enter ∨ type = .exit)
    (ids : List UInt32) (session : UInt32) (sessions : List UInt32) :
    breachLoop d type ids (session :: sessions)
      = breachLoop d type (ids ++ (registeredId d type session).toList) sessions := by
  have htest : ((type = .enter ∧ d.getExtBySession 0 session &&& geofenceBreachEnterBit ≠ 0) ∨
      (type = .exit ∧ d.getExtBySession 0 session &&& geofenceBreachExitBit ≠ 0)) ↔
        d.getExtBySession 0 session &&& type.bit ≠ 0 := by
    rcases htype with rfl | rfl <;> simp [GeofenceBreachType.bit]
  rw [breachLoop, if_congr htest rfl rfl]
  have hsync := hd.ext session
  unfold registeredId BiDict.getExtBySession BiDict.getId
  cases hext : d.mExtMap session with
  | none =>
      -- the mask of an unknown session is 0
      rw [hext] at hsync
      cases hback : d.mBackwardMap session with
      | none => simp
      | some id =>
          rw [hback] at hsync
          cases hsync
  | some mask =>
      rw [hext] at hsync
      cases hback : d.mBackwardMap session with
      | none =>
          rw [hback] at hsync
          cases hsync
      | some id =>
          simp only [Option.getD_some]
          by_cases hbit : mask &&& type.bit ≠ 0
          · rw [if_pos hbit, if_pos hbit]
            rfl
          · rw [if_neg hbit, if_neg hbit]
            simp

theorem breachLoop_eq (hd : d.Linked) (htype : type = .enter ∨ type = .exit) :
    breachLoop d type ids sessions = ids ++ sessions.filterMap (registeredId d type) := by
  induction sessions generalizing ids with
  | nil => exact (List.append_nil ids).symm
  | cons session sessions ih =>
      rw [breachLoop_cons hd htype, ih, List.append_assoc]
      cases hid : registeredId d type session with
      | none => rw [List.filterMap_cons_none hid]; rfl
      | some id => rw [List.filterMap_cons_some hid]; rfl

/-- For the other types nothing is added. -/
theorem breachLoop_of_ne (henter : type ≠ .enter) (hexit : type ≠ .exit) :
    breachLoop d type ids sessions = ids := by
  induction sessions with
  | nil => rfl
  | cons session sessions ih =>
      rw [breachLoop]
      rw [if_neg (by simp [henter, hexit])]
      exact ih

/-- The ids are right exactly when the type is tested or no session is registered for it. -/
theorem breachLoop_eq_filterMap_iff (hd : d.Linked) :
    breachLoop d type [] sessions = sessions.filterMap (registeredId d type) ↔
      type = .enter ∨ type = .exit ∨ ∀ session ∈ sessions, registeredId d type session = none := by
  by_cases htype : type = .enter ∨ type = .exit
  · rw [breachLoop_eq hd htype, List.nil_append, eq_self_iff_true, true_iff, ← or_assoc]
    exact Or.inl htype
  · rw [← or_assoc, or_iff_right htype]
    rw [not_or] at htype
    rw [breachLoop_of_ne htype.1 htype.2, eq_comm, List.filterMap_eq_nil_iff]

end GeofenceClient

namespace GeofenceSystem

open GeofenceClient

variable {Location : Type}

theorem Linked.reaches_iff {s : GeofenceSystem} (hs : s.Linked)
    (notification : GeofenceBreachNotification Location) :
    (∃ called, s.client.BreachReaches notification called) ↔
      notification.type = .enter ∨ notification.type = .exit ∨
        ∀ session ∈ notification.ids,
          registeredId s.client.mGeofenceBiDict notification.type session = none := by
  rw [← breachLoop_eq_filterMap_iff hs.dict]
  constructor
  · rintro ⟨called, hcalled⟩
    rw [← hcalled.ids, ← Option.some.inj hcalled.call]
  · intro hids
    exact ⟨_, ⟨rfl, hids, rfl, rfl, rfl, rfl, rfl⟩⟩

/-- Whatever was done before, a breach reaches exactly the geofences that are registered for it
unless it is a dwell for which a listed one is registered.

The filter has a branch for entering and one for leaving. A dwell is a breach type with bits of its
own, which are stored, and no branch passes it on; the callback is called with an empty list. -/
theorem breachReaches_iff (mLocationAPI : Bool) (labels : List GeofenceLabel) (s : GeofenceSystem)
    (hrun : run step (new mLocationAPI) labels = some s)
    (notification : GeofenceBreachNotification Location) :
    (∃ called, s.client.BreachReaches notification called) ↔
      notification.type = .enter ∨ notification.type = .exit ∨
        ∀ session ∈ notification.ids,
          registeredId s.client.mGeofenceBiDict notification.type session = none :=
  (linked_of_run hrun).reaches_iff notification

/-- A breach of the session 5 and of an unknown one. -/
def breachOf (type : GeofenceBreachType) : GeofenceBreachNotification Unit :=
  ⟨0, 2, [9, 5], (), type, 100, rfl⟩

/-- An exit reaches a geofence that is registered for exits. -/
theorem breachReaches_exit :
    ∃ called, (oneGeofence 7 5 2).client.BreachReaches (breachOf .exit) called :=
  (breachReaches_iff true _ _ (run_oneGeofence 7 2 (by decide)) _).mpr (Or.inr (Or.inl rfl))

/-- A dwell does not reach a geofence that is registered for it. -/
theorem not_breachReaches_dwellIn :
    ¬ ∀ (mLocationAPI : Bool) (labels : List GeofenceLabel) (s : GeofenceSystem),
      run step (new mLocationAPI) labels = some s →
        ∀ notification : GeofenceBreachNotification Unit,
          ∃ called, s.client.BreachReaches notification called := by
  intro h
  have hrun := @run_oneGeofence 7 5 4 (by decide)
  obtain ⟨called, hcalled⟩ := h true _ _ hrun (breachOf .dwellIn)
  -- the callback gets no id, and the id 7 is registered
  have hids := hcalled.ids
  rw [← Option.some.inj hcalled.call] at hids
  revert hids
  rw [oneGeofence_dict]
  decide

end GeofenceSystem

end LocHal.Location
