import LocHal.Lib.AlignedFilterMap
import LocHal.Location.GeofenceLinked

/-!
# `LocHal.Location.GeofenceOptions`: the options of modified geofences

`locAPIModifyGeofences` looks the client ids up and collects the sessions of those that it knows.
The sessions close up where an id is unknown. The array of options is handed on as it came, so the
options do not close up.

`givesOwnOptions_iff` says when each session still stands at the index of its option: no unknown id
stands before a known one. The masks that the client stores are right in any case, since the loop
reads them at the index of the id.

`sessionsOf` are the sessions of the known ids in their order, and `knownLoop_spec` says that the
loop collects them. The loop writes the masks as it goes, and an id that is listed twice has the
mask of the last option at the end (`knownLoop_ext`). What is left is a statement about two lists,
one of which has closed up: `aligned_iff` goes by the library lemmas on `filterMap` and alignment.
`Linked` is the invariant of the runs that the sessions of known ids need.
-/

set_option autoImplicit false

namespace LocHal.Location

open AlignedFilterMap LabelledRun

namespace GeofenceClient

variable {d : BiDict UInt16} {c : GeofenceClient} {id session : UInt32}

/-! ### The loop -/

/-- A step of the loop, by the forward map. -/
theorem knownLoop_cons (d : BiDict UInt16) (sessions : List UInt32) (id : UInt32) (mask : UInt16)
    (geofences : List (UInt32 × Option UInt16)) (hd : d.Linked) :
    knownLoop d sessions ((id, some mask) :: geofences) =
      match d.mForwardMap id with
      | some session => knownLoop (d.set id session mask) (sessions ++ [session]) geofences
      | none => knownLoop d sessions geofences := by
  rw [knownLoop]
  dsimp only
  cases hid : d.mForwardMap id with
  | none =>
      have hunknown : ¬ 0 < d.getSession id := fun hpos => by
        cases hid.symm.trans (BiDict.mForwardMap_of_getSession hpos)
      rw [if_neg hunknown]
  | some session =>
      rw [if_pos (hd.getSession_pos hid), BiDict.getSession_of_some hid]

/-- The ids and the masks of the geofences. -/
def masksOf (geofences : List (UInt32 × GeofenceOption)) : List (UInt32 × Option UInt16) :=
  geofences.map fun geofence => (geofence.1, some geofence.2.breachTypeMask)

/-- The sessions of the known ids, in order. -/
def sessionsOf (d : BiDict UInt16) (geofences : List (UInt32 × GeofenceOption)) : List UInt32 :=
  geofences.filterMap fun geofence => d.mForwardMap geofence.1

theorem sessionsOf_cons (d : BiDict UInt16) (id : UInt32) (option : GeofenceOption)
    (geofences : List (UInt32 × GeofenceOption)) :
    sessionsOf d ((id, option) :: geofences)
      = match d.mForwardMap id with
        | some session => session :: sessionsOf d geofences
        | none => sessionsOf d geofences := by
  unfold sessionsOf
  cases hid : d.mForwardMap id with
  | none => rw [List.filterMap_cons_none (by exact hid)]
  | some session => rw [List.filterMap_cons_some (by exact hid)]

theorem knownLoop_spec {geofences : List (UInt32 × GeofenceOption)} {sessions : List UInt32}
    (hd : d.Linked) :
    (knownLoop d sessions (masksOf geofences)).2 = sessions ++ sessionsOf d geofences := by
  induction geofences generalizing d sessions with
  | nil => exact (List.append_nil _).symm
  | cons geofence geofences ih =>
      obtain ⟨id, option⟩ := geofence
      show (knownLoop d sessions ((id, some option.breachTypeMask) :: masksOf geofences)).2 = _
      rw [knownLoop_cons _ _ _ _ _ hd, sessionsOf_cons]
      cases hid : d.mForwardMap id with
      | none => exact ih hd
      | some session =>
          -- the new mask changes no session
          have hset := @ih (d.set id session option.breachTypeMask) (sessions ++ [session])
            (hd.set_known hid _).linked
          have hsame : sessionsOf (d.set id session option.breachTypeMask) geofences
              = sessionsOf d geofences := by
            unfold sessionsOf
            rw [(hd.set_maps hid _).1]
          rw [hsame, List.append_assoc] at hset
          exact hset

/-- A session keeps its mask when its id does not occur. -/
theorem knownLoop_ext_of_not_mem {geofences : List (UInt32 × GeofenceOption)}
    {sessions : List UInt32} (hd : d.Linked) (hid : d.mForwardMap id = some session)
    (hnot : id ∉ geofences.map Prod.fst) :
    (knownLoop d sessions (masksOf geofences)).1.mExtMap session = d.mExtMap session := by
  induction geofences generalizing d sessions with
  | nil => rfl
  | cons geofence geofences ih =>
      obtain ⟨other, option⟩ := geofence
      rw [List.map_cons, List.mem_cons, not_or] at hnot
      show (knownLoop d sessions
        ((other, some option.breachTypeMask) :: masksOf geofences)).1.mExtMap session = _
      rw [knownLoop_cons _ _ _ _ _ hd]
      cases hother : d.mForwardMap other with
      | none => exact ih hd hid hnot.2
      | some session' =>
          -- another id has another session
          have hne : session ≠ session' := fun heq => hnot.1 (hd.injective hid (heq ▸ hother))
          have hset := @ih (d.set other session' option.breachTypeMask) (sessions ++ [session'])
            (hd.set_known hother _).linked
            (by rw [(hd.set_maps hother _).1]; exact hid) hnot.2
          refine hset.trans ?_
          show Function.update d.mExtMap session' _ session = _
          rw [Function.update_of_ne hne]

/-- The mask of the last option of an id is the one that is left. -/
theorem knownLoop_ext {before after : List (UInt32 × GeofenceOption)} {option : GeofenceOption}
    {sessions : List UInt32} (hd : d.Linked) (hid : d.mForwardMap id = some session)
    (hlast : id ∉ after.map Prod.fst) :
    (knownLoop d sessions (masksOf (before ++ (id, option) :: after))).1.mExtMap session
      = some option.breachTypeMask := by
  induction before generalizing d sessions with
  | nil =>
      show (knownLoop d sessions ((id, some option.breachTypeMask) :: masksOf after)).1.mExtMap
        session = _
      rw [knownLoop_cons _ _ _ _ _ hd, hid]
      dsimp only
      have hset := hd.set_maps hid option.breachTypeMask
      rw [knownLoop_ext_of_not_mem (hd.set_known hid _).linked (by rw [hset.1]; exact hid) hlast]
      exact Function.update_self ..
  | cons geofence before ih =>
      obtain ⟨other, option'⟩ := geofence
      show (knownLoop d sessions ((other, some option'.breachTypeMask)
        :: masksOf (before ++ (id, option) :: after))).1.mExtMap session = _
      rw [knownLoop_cons _ _ _ _ _ hd]
      cases hother : d.mForwardMap other with
      | none => exact ih hd hid
      | some session' =>
          exact ih (hd.set_known hother _).linked (by rw [(hd.set_maps hother _).1]; exact hid)

/-! ### The call -/

/-- Modified geofences get their own options. The session of each known id is passed once per
occurrence and in order, at the index that the option for it has in the array. Afterwards it has the
mask of the last option for the id. -/
structure GivesOwnOptions (c : GeofenceClient) (geofences : List (UInt32 × GeofenceOption)) :
    Prop where
  call : (c.locAPIModifyGeofences geofences).2 =
    if sessionsOf c.mGeofenceBiDict geofences = [] then none
    else some (.modifyGeofences (sessionsOf c.mGeofenceBiDict geofences) (geofences.map Prod.snd))
  aligned : ∀ (i : Nat) geofence session, geofences[i]? = some geofence →
    c.mGeofenceBiDict.mForwardMap geofence.1 = some session →
      (sessionsOf c.mGeofenceBiDict geofences)[i]? = some session
  mask : ∀ before id option after session, geofences = before ++ (id, option) :: after →
    id ∉ after.map Prod.fst → c.mGeofenceBiDict.mForwardMap id = some session →
      (c.locAPIModifyGeofences geofences).1.mGeofenceBiDict.mExtMap session
        = some option.breachTypeMask

/-- No unknown id stands before a known one. The session of a known id is then at the index of the
id, and so at the index of its option. -/
def UnknownLast (d : BiDict UInt16) (ids : List UInt32) : Prop :=
  ids.Pairwise fun id later => d.hasId later = true → d.hasId id = true

instance (d : BiDict UInt16) (ids : List UInt32) : Decidable (UnknownLast d ids) :=
  inferInstanceAs (Decidable (List.Pairwise _ _))

/-- What a modification calls and leaves. -/
theorem locAPIModifyGeofences_spec (hd : c.mGeofenceBiDict.Linked)
    (hlocation : c.mLocationAPI = true)
    (hqueue : c.mGeofenceQueue.mSession = geofenceSessionId)
    (geofences : List (UInt32 × GeofenceOption)) :
    (c.locAPIModifyGeofences geofences).1.mGeofenceBiDict
        = (knownLoop c.mGeofenceBiDict [] (masksOf geofences)).1 ∧
      (c.locAPIModifyGeofences geofences).2 =
        if sessionsOf c.mGeofenceBiDict geofences = [] then none
        else some (.modifyGeofences (sessionsOf c.mGeofenceBiDict geofences)
          (geofences.map Prod.snd)) := by
  have hsessions := @knownLoop_spec _ geofences [] hd
  rw [List.nil_append] at hsessions
  unfold locAPIModifyGeofences onKnown
  rw [if_neg (by rw [hlocation]; decide), if_pos hqueue]
  dsimp only
  rw [show (geofences.map fun geofence => (geofence.1, some geofence.2.breachTypeMask))
    = masksOf geofences from rfl, hsessions]
  by_cases hnil : sessionsOf c.mGeofenceBiDict geofences = []
  · rw [if_neg (by rw [hnil]; decide), if_pos hnil]
    exact ⟨rfl, rfl⟩
  · rw [if_pos (List.length_pos_iff.mpr hnil), if_neg hnil]
    exact ⟨rfl, rfl⟩

/-- The indices are right exactly when no unknown id stands before a known one. -/
theorem aligned_iff (d : BiDict UInt16) (geofences : List (UInt32 × GeofenceOption)) :
    (∀ (i : Nat) geofence session, geofences[i]? = some geofence →
        d.mForwardMap geofence.1 = some session → (sessionsOf d geofences)[i]? = some session)
      ↔ UnknownLast d (geofences.map Prod.fst) := by
  unfold UnknownLast sessionsOf
  rw [List.pairwise_map]
  exact filterMap_aligned_iff

end GeofenceClient

namespace GeofenceSystem

open GeofenceClient

/-- A client with a known id has a `LocationAPI`, and its queue has the geofence session. -/
theorem Linked.active_of_known {s : GeofenceSystem} (hs : s.Linked) {id session : UInt32}
    (hid : s.client.mGeofenceBiDict.mForwardMap id = some session) :
    s.client.mLocationAPI = true ∧ s.client.mGeofenceQueue.mSession = geofenceSessionId :=
  hs.active session (hs.dict.hasSession_of_some hid)

/-- What is called, with or without a `LocationAPI`. -/
theorem Linked.modify_call {s : GeofenceSystem} (hs : s.Linked)
    (geofences : List (UInt32 × GeofenceOption)) :
    (s.client.locAPIModifyGeofences geofences).2 =
      if sessionsOf s.client.mGeofenceBiDict geofences = [] then none
      else some (.modifyGeofences (sessionsOf s.client.mGeofenceBiDict geofences)
        (geofences.map Prod.snd)) := by
  by_cases hactive : s.client.mLocationAPI = true ∧
      s.client.mGeofenceQueue.mSession = geofenceSessionId
  · exact (locAPIModifyGeofences_spec hs.dict hactive.1 hactive.2 geofences).2
  · -- no id is known, and nothing is called
    have hnil : sessionsOf s.client.mGeofenceBiDict geofences = [] := by
      refine List.filterMap_eq_nil_iff.mpr fun geofence _ => ?_
      by_contra hne
      obtain ⟨session, hid⟩ := Option.ne_none_iff_exists'.mp hne
      exact hactive (hs.active_of_known hid)
    rw [if_pos hnil]
    unfold locAPIModifyGeofences onKnown
    cases hlocation : s.client.mLocationAPI with
    | false => rfl
    | true =>
        rw [if_neg (by decide), if_neg fun hqueue => hactive ⟨hlocation, hqueue⟩]

theorem Linked.own_iff {s : GeofenceSystem} (hs : s.Linked)
    (geofences : List (UInt32 × GeofenceOption)) :
    s.client.GivesOwnOptions geofences
      ↔ UnknownLast s.client.mGeofenceBiDict (geofences.map Prod.fst) := by
  rw [← aligned_iff]
  refine ⟨fun h => h.aligned, fun haligned => ⟨hs.modify_call geofences, haligned, ?_⟩⟩
  intro before id option after session hgeofences hlast hid
  obtain ⟨hlocation, hqueue⟩ := hs.active_of_known hid
  rw [(locAPIModifyGeofences_spec hs.dict hlocation hqueue geofences).1, hgeofences]
  exact knownLoop_ext hs.dict hid hlast

/-- Whatever was done before, the modified geofences get their own options exactly when no unknown
id stands before a known one.

Unknown ids are left out of the sessions that are passed on and not out of the options, so a session
behind an unknown id gets an option that stands before its own. If the unknown ids come last, no
option is used but those of the sessions. -/
theorem givesOwnOptions_iff (mLocationAPI : Bool) (labels : List GeofenceLabel)
    (s : GeofenceSystem) (hrun : run step (new mLocationAPI) labels = some s)
    (geofences : List (UInt32 × GeofenceOption)) :
    s.client.GivesOwnOptions geofences
      ↔ UnknownLast s.client.mGeofenceBiDict (geofences.map Prod.fst) :=
  (linked_of_run hrun).own_iff geofences

/-- A known id before an unknown one. -/
theorem givesOwnOptions_known_first :
    (oneGeofence 1 5 1).client.GivesOwnOptions [(1, ⟨1, 0, 0⟩), (9, ⟨2, 0, 0⟩)] :=
  (givesOwnOptions_iff true _ _ (run_oneGeofence 1 1 (by decide)) _).mpr
    (by unfold UnknownLast; simp [hasId_oneGeofence])

/-- An unknown id before a known one. -/
theorem not_givesOwnOptions_unknown_first :
    ¬ ∀ (mLocationAPI : Bool) (labels : List GeofenceLabel) (s : GeofenceSystem),
      run step (new mLocationAPI) labels = some s →
        ∀ geofences, s.client.GivesOwnOptions geofences := by
  intro h
  have hrun := @run_oneGeofence 1 5 1 (by decide)
  have hown := h true _ _ hrun [(9, ⟨2, 0, 0⟩), (1, ⟨1, 0, 0⟩)]
  -- the option for the id 1 is at index 1, and its session is at index 0
  have hsecond := hown.aligned 1 (1, ⟨1, 0, 0⟩) 5 rfl rfl
  revert hsecond
  decide

end GeofenceSystem

end LocHal.Location
