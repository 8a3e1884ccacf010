import LocHal.Location.GeofenceLinked
import Mathlib.Data.List.Perm.Subperm

/-!
# `LocHal.Location.GeofenceRemoveAll`: the removal of all geofences

`locAPIRemoveAllGeofences` takes the sessions of the geofence dictionary and hands them to
`locAPIRemoveGeofences`, which takes client ids. What is removed are the geofences whose id is a
session of the dictionary.

`removesAll_iff` says when these are all of them: every session is also an id. The ids have
different sessions, so a loop that finds a session for each of them finds as many as there are.

The dictionary is consistent enough for the removal if each id leads to its session and back
(`Linked`), which every run keeps. `knownSessions` are the sessions that the loop finds for a list
of ids, and `removeLoop_spec` says what it leaves: the dictionary without these ids.
`mem_knownSessions_getAllSessions_iff` is about the list of all sessions. The sessions that are
found for it are different, since no two ids have one session, so they are all of them if and only
if they are as many, that is, if no look-up fails.
-/

set_option autoImplicit false

namespace LocHal.Location

open LabelledRun

namespace BiDict

variable {T : Type} {d : BiDict T}

/-- `BiDict::getAllSessions`: the keys of `mBackwardMap`, in ascending order. -/
@[irreducible]
def getAllSessions (d : BiDict T) : List UInt32 :=
  ((List.range UInt32.size).map UInt32.ofNat).filter d.hasSession

theorem mem_getAllSessions {session : UInt32} :
    session ∈ d.getAllSessions ↔ d.hasSession session = true := by
  unfold getAllSessions
  rw [List.mem_filter, and_iff_right_iff_imp]
  intro _
  exact List.mem_map.mpr ⟨session.toNat, List.mem_range.mpr session.toNat_lt_size,
    UInt32.ofNat_toNat⟩

/-- The keys are in ascending order. -/
theorem pairwise_getAllSessions (d : BiDict T) : d.getAllSessions.Pairwise (· < ·) := by
  unfold getAllSessions
  refine List.Pairwise.filter _ (List.pairwise_map.mpr ?_)
  refine List.Pairwise.imp_of_mem (fun {a b} ha hb hab => ?_) List.pairwise_lt_range
  rw [UInt32.lt_iff_toNat_lt, UInt32.toNat_ofNat_of_lt' (List.mem_range.mp ha),
    UInt32.toNat_ofNat_of_lt' (List.mem_range.mp hb)]
  exact hab

theorem nodup_getAllSessions (d : BiDict T) : d.getAllSessions.Nodup :=
  (pairwise_getAllSessions d).imp fun h heq => absurd (heq ▸ h) (UInt32.lt_irrefl _)

/-- The sessions of the known ones of the ids. -/
def knownSessions (d : BiDict T) (ids : List UInt32) : List UInt32 :=
  (ids.map d.getSession).filter (0 < ·)

theorem knownSessions_cons (d : BiDict T) (id : UInt32) (ids : List UInt32) :
    d.knownSessions (id :: ids)
      = if 0 < d.getSession id then d.getSession id :: d.knownSessions ids
        else d.knownSessions ids := by
  unfold knownSessions
  rw [List.map_cons, List.filter_cons]
  by_cases h : 0 < d.getSession id
  · rw [if_pos h, if_pos (decide_eq_true h)]
  · rw [if_neg h, if_neg fun h' => h (of_decide_eq_true h')]

/-- The dictionary has no entry. -/
structure IsEmpty (d : BiDict T) : Prop where
  forward : ∀ id, d.mForwardMap id = none
  backward : ∀ session, d.mBackwardMap session = none
  ext : ∀ session, d.mExtMap session = none

end BiDict

namespace GeofenceClient

open BiDict

/-- `LocationAPIClientBase::locAPIRemoveAllGeofences`. -/
def locAPIRemoveAllGeofences (c : GeofenceClient) : GeofenceClient × Option GeofenceCall :=
  let sessionsVec := c.mGeofenceBiDict.getAllSessions
  c.locAPIRemoveGeofences sessionsVec

/-- All geofences are removed: the dictionary is empty, and `removeGeofences` is called with each
session of the dictionary once. The dictionary is the one before the call, whatever ids the sessions
have in it. -/
def RemovesAll (c : GeofenceClient) : Prop :=
  c.locAPIRemoveAllGeofences.1.mGeofenceBiDict.IsEmpty ∧
    ∃ sessions, c.locAPIRemoveAllGeofences.2 = some (.removeGeofences sessions) ∧
      sessions.Nodup ∧ ∀ session, session ∈ sessions ↔ c.mGeofenceBiDict.hasSession session = true

/-! ### The loop -/

variable {d : BiDict UInt16} {id session : UInt32} {ids : List UInt32}

/-- The sessions of the other ids after a removal. -/
theorem getSession_rmBySession (hd : d.Linked) (hid : d.mForwardMap id = some session)
    (other : UInt32) :
    (d.rmBySession session).getSession other = if other = id then 0 else d.getSession other := by
  unfold getSession
  rw [(hd.rmBySession_maps hid).1, Function.update_apply]
  split <;> rfl

/-- The known ids of a list without the removed one. -/
theorem knownSessions_rmBySession (hd : d.Linked) (hid : d.mForwardMap id = some session)
    (hids : id ∉ ids) : knownSessions (d.rmBySession session) ids = knownSessions d ids := by
  unfold knownSessions
  rw [List.map_congr_left fun other hother => by
    rw [getSession_rmBySession hd hid, if_neg (ne_of_mem_of_not_mem hother hids)]]

/-- What the loop leaves of the dictionary, and the sessions that it finds. -/
structure Removed (d d' : BiDict UInt16) (ids sessions : List UInt32) : Prop where
  forward : ∀ id, d'.mForwardMap id = if id ∈ ids then none else d.mForwardMap id
  backward : ∀ session,
    d'.mBackwardMap session = if session ∈ sessions then none else d.mBackwardMap session
  ext : ∀ session, d'.mExtMap session = if session ∈ sessions then none else d.mExtMap session

/-- One key is unbound, and then the keys of a list. -/
theorem ite_mem_cons {α : Type} (f : UInt32 → Option α) (key : UInt32) (keys : List UInt32)
    (other : UInt32) :
    (if other ∈ keys then none else Function.update f key none other)
      = if other ∈ key :: keys then none else f other := by
  rw [Function.update_apply]
  by_cases hother : other = key
  · rw [if_pos hother, ite_self, if_pos (hother ▸ List.mem_cons_self)]
  · rw [if_neg hother]
    simp [hother]

/-- A removed entry and then those of other ids. -/
theorem Removed.cons {d' : BiDict UInt16} {sessions : List UInt32} (hd : d.Linked)
    (hid : d.mForwardMap id = some session)
    (hrest : Removed (d.rmBySession session) d' ids sessions) :
    Removed d d' (id :: ids) (session :: sessions) := by
  obtain ⟨hforward, hbackward, hext⟩ := hd.rmBySession_maps hid
  refine ⟨fun other => ?_, fun other => ?_, fun other => ?_⟩
  · rw [hrest.forward, hforward, ite_mem_cons]
  · rw [hrest.backward, hbackward, ite_mem_cons]
  · rw [hrest.ext, hext, ite_mem_cons]

/-- An id without a session changes nothing. -/
theorem Removed.skip {d' : BiDict UInt16} {sessions : List UInt32}
    (hid : d.mForwardMap id = none) (hrest : Removed d d' ids sessions) :
    Removed d d' (id :: ids) sessions := by
  refine ⟨fun other => ?_, hrest.backward, hrest.ext⟩
  rw [hrest.forward]
  by_cases hother : other = id
  · rw [hother, hid, ite_self, ite_self]
  · simp [hother]

theorem removeLoop_spec {d removed : BiDict UInt16} {sessions : List UInt32} (hd : d.Linked)
    (hids : ids.Nodup) :
    (removeLoop d removed sessions ids).2.2 = sessions ++ knownSessions d ids ∧
      Removed d (removeLoop d removed sessions ids).1 ids (knownSessions d ids) := by
  induction ids generalizing d removed sessions with
  | nil => exact ⟨(List.append_nil _).symm, fun _ => rfl, fun _ => rfl, fun _ => rfl⟩
  | cons id ids ih =>
      obtain ⟨hnot, hids⟩ := List.nodup_cons.mp hids
      rw [removeLoop, knownSessions_cons]
      dsimp only
      by_cases hsession : 0 < d.getSession id
      · have hid := BiDict.mForwardMap_of_getSession hsession
        rw [if_pos hsession, if_pos hsession]
        have hrest := @ih (d.rmBySession (d.getSession id))
          (removed.set id (d.getSession id) (d.getExtBySession 0 (d.getSession id)))
          (sessions ++ [d.getSession id]) (hd.rmBySession hid).linked hids
        rw [knownSessions_rmBySession hd hid hnot] at hrest
        exact ⟨by rw [hrest.1, List.append_assoc]; rfl, hrest.2.cons hd hid⟩
      · rw [if_neg hsession, if_neg hsession]
        obtain ⟨hsessions, hrest⟩ := @ih d removed sessions hd hids
        exact ⟨hsessions, hrest.skip (hd.eq_none_of_not_pos hsession)⟩

/-! ### All sessions -/

theorem mem_knownSessions {ids : List UInt32} :
    session ∈ knownSessions d ids ↔ ∃ id ∈ ids, d.getSession id = session ∧ 0 < session := by
  unfold knownSessions
  rw [List.mem_filter, List.mem_map, decide_eq_true_eq]
  constructor
  · rintro ⟨⟨id, hid, hsession⟩, hpos⟩
    exact ⟨id, hid, hsession, hpos⟩
  · rintro ⟨id, hid, hsession, hpos⟩
    exact ⟨⟨id, hid, hsession⟩, hpos⟩

/-- The sessions that are found are sessions of the dictionary, and different ids have different
ones. -/
theorem hasSession_of_mem_knownSessions (hd : d.Linked) (h : session ∈ knownSessions d ids) :
    d.hasSession session = true := by
  obtain ⟨id, -, rfl, hpos⟩ := mem_knownSessions.mp h
  exact hd.hasSession_of_some (BiDict.mForwardMap_of_getSession hpos)

theorem nodup_knownSessions (hd : d.Linked) (hids : ids.Nodup) : (knownSessions d ids).Nodup := by
  induction ids with
  | nil => exact List.nodup_nil
  | cons id ids ih =>
      obtain ⟨hnot, hids⟩ := List.nodup_cons.mp hids
      rw [knownSessions_cons]
      split
      · rename_i hpos
        refine List.nodup_cons.mpr ⟨fun hmem => ?_, ih hids⟩
        -- another id with the session would be the same id
        obtain ⟨other, hother, heq, hpos'⟩ := mem_knownSessions.mp hmem
        have hforward := BiDict.mForwardMap_of_getSession (heq.symm ▸ hpos')
        rw [heq] at hforward
        exact hnot (hd.injective hforward (BiDict.mForwardMap_of_getSession hpos) ▸ hother)
      · exact ih hids

/-- Every session is found if and only if every session is also an id. -/
theorem mem_knownSessions_getAllSessions_iff (hd : d.Linked) :
    (∀ session, session ∈ knownSessions d d.getAllSessions ↔ d.hasSession session = true)
      ↔ ∀ session, d.hasSession session = true → d.hasId session = true := by
  have hnodup := nodup_knownSessions hd (nodup_getAllSessions d)
  constructor
  · intro h session hsession
    -- as many sessions are found as there are, so no id is left out
    have hperm : (knownSessions d d.getAllSessions).Perm d.getAllSessions :=
      (List.perm_ext_iff_of_nodup hnodup (nodup_getAllSessions d)).mpr fun other =>
        (h other).trans mem_getAllSessions.symm
    have hall : ((d.getAllSessions.map d.getSession).filter (0 < ·)).length
        = (d.getAllSessions.map d.getSession).length := by
      rw [List.length_map]
      exact hperm.length_eq
    have hpos := List.length_filter_eq_length_iff.mp hall (d.getSession session)
      (List.mem_map_of_mem (mem_getAllSessions.mpr hsession))
    unfold hasId
    rw [BiDict.mForwardMap_of_getSession (of_decide_eq_true hpos)]
    rfl
  · intro h session
    refine ⟨hasSession_of_mem_knownSessions hd, fun hsession => ?_⟩
    have hall : knownSessions d d.getAllSessions = d.getAllSessions.map d.getSession := by
      refine List.filter_eq_self.mpr fun other hother => ?_
      obtain ⟨id, hid, rfl⟩ := List.mem_map.mp hother
      obtain ⟨session', hforward⟩ :=
        Option.isSome_iff_exists.mp (h id (mem_getAllSessions.mp hid))
      exact decide_eq_true (hd.getSession_pos hforward)
    -- different sessions, as many as there are
    have hsub : knownSessions d d.getAllSessions ⊆ d.getAllSessions := fun other hother =>
      mem_getAllSessions.mpr (hasSession_of_mem_knownSessions hd hother)
    have hlength : d.getAllSessions.length ≤ (knownSessions d d.getAllSessions).length := by
      rw [hall]
      exact Nat.le_of_eq (List.length_map d.getSession).symm
    have hperm := (List.subperm_of_subset hnodup hsub).perm_of_length_le hlength
    exact hperm.mem_iff.mpr (mem_getAllSessions.mpr hsession)

/-- A loop that finds every session leaves nothing. -/
theorem isEmpty_of_removed {d' : BiDict UInt16} (hd : d.Linked)
    (h : Removed d d' d.getAllSessions (knownSessions d d.getAllSessions))
    (hall : ∀ session, session ∈ knownSessions d d.getAllSessions
      ↔ d.hasSession session = true) : d'.IsEmpty := by
  have hbackward : ∀ session, d'.mBackwardMap session = none := fun session => by
    rw [h.backward]
    split
    · rfl
    · rename_i hnot
      -- a session that is left would have been found
      exact hasSession_eq_false.mp (Bool.eq_false_iff.mpr fun hhas =>
        hnot ((hall session).mpr hhas))
  refine ⟨fun id => ?_, hbackward, fun session => ?_⟩
  · rw [h.forward]
    split
    · rfl
    · rename_i hnot
      by_contra hne
      obtain ⟨session, hforward⟩ := Option.ne_none_iff_exists'.mp hne
      -- the session of the id was found for a listed id, which is the id itself
      obtain ⟨other, hother, rfl, hpos⟩ :=
        mem_knownSessions.mp ((hall session).mpr (hd.hasSession_of_some hforward))
      exact hnot (hd.injective (BiDict.mForwardMap_of_getSession hpos) hforward ▸ hother)
  · rw [h.ext]
    split
    · rfl
    · rename_i hnot
      have hnone := hbackward session
      rw [h.backward, if_neg hnot] at hnone
      have hsync := hd.ext session
      rw [hnone] at hsync
      exact Option.isNone_iff_eq_none.mp (Option.isSome_eq_false_iff.mp hsync)

/-- Every session of the dictionary is the id of one. The sessions are looked up as ids, so one that
is no id is passed over. If all of them are, they are as many different ids as there are sessions,
so every geofence is found. -/
def SessionsAreIds (d : BiDict UInt16) : Prop :=
  ∀ session, d.hasSession session = true → d.hasId session = true

/-- What a removal leaves and calls. -/
theorem locAPIRemoveGeofences_spec {c : GeofenceClient} (hd : c.mGeofenceBiDict.Linked)
    (hlocation : c.mLocationAPI = true) (hqueue : c.mGeofenceQueue.mSession = geofenceSessionId)
    (hids : ids.Nodup) :
    Removed c.mGeofenceBiDict (c.locAPIRemoveGeofences ids).1.mGeofenceBiDict ids
        (knownSessions c.mGeofenceBiDict ids) ∧
      (c.locAPIRemoveGeofences ids).2 =
        if 0 < (knownSessions c.mGeofenceBiDict ids).length then
          some (.removeGeofences (knownSessions c.mGeofenceBiDict ids))
        else none := by
  obtain ⟨hsessions, hremoved⟩ :=
    @removeLoop_spec ids c.mGeofenceBiDict .empty [] hd hids
  rw [List.nil_append] at hsessions
  unfold locAPIRemoveGeofences
  rw [if_neg (by rw [hlocation]; decide), if_pos hqueue]
  dsimp only
  rw [hsessions]
  split <;> exact ⟨hremoved, rfl⟩

/-- All geofences are removed exactly when each session is also an id. -/
theorem removesAll_iff_of_linked {c : GeofenceClient} (hd : c.mGeofenceBiDict.Linked)
    (hlocation : c.mLocationAPI = true) (hqueue : c.mGeofenceQueue.mSession = geofenceSessionId)
    (hne : ∃ session, c.mGeofenceBiDict.hasSession session = true) :
    c.RemovesAll ↔ SessionsAreIds c.mGeofenceBiDict := by
  obtain ⟨hremoved, hcall⟩ :=
    locAPIRemoveGeofences_spec hd hlocation hqueue (nodup_getAllSessions c.mGeofenceBiDict)
  refine Iff.trans ?_ (mem_knownSessions_getAllSessions_iff hd)
  constructor
  · rintro ⟨-, sessions, hsome, -, hall⟩
    unfold locAPIRemoveAllGeofences at hsome
    dsimp only at hsome
    rw [hcall] at hsome
    split at hsome
    · -- the call has the sessions that were found
      have heq : knownSessions c.mGeofenceBiDict c.mGeofenceBiDict.getAllSessions = sessions :=
        GeofenceCall.removeGeofences.inj (Option.some.inj hsome)
      rw [heq]
      exact hall
    · cases hsome
  · intro hall
    obtain ⟨session, hsession⟩ := hne
    have hpos : 0 < (knownSessions c.mGeofenceBiDict c.mGeofenceBiDict.getAllSessions).length :=
      List.length_pos_of_mem ((hall session).mpr hsession)
    rw [if_pos hpos] at hcall
    exact ⟨isEmpty_of_removed hd hremoved hall, _, hcall,
      nodup_knownSessions hd (nodup_getAllSessions _), hall⟩

end GeofenceClient

namespace GeofenceSystem

open GeofenceClient

/-- Whatever was done before, all geofences are removed exactly when each session is also an id.

The sessions are passed on as ids. A session that is not an id is not found and its geofence stays.
If each of them is an id, then they are all the ids, in some order, and what is removed for one is
the geofence of another. -/
theorem removesAll_iff (mLocationAPI : Bool) (labels : List GeofenceLabel) (s : GeofenceSystem)
    (hrun : run step (new mLocationAPI) labels = some s)
    (hne : ∃ session, s.client.mGeofenceBiDict.hasSession session = true) :
    s.client.RemovesAll ↔ SessionsAreIds s.client.mGeofenceBiDict := by
  have hlinked := linked_of_run hrun
  obtain ⟨session, hsession⟩ := hne
  obtain ⟨hlocation, hqueue⟩ := hlinked.active session hsession
  exact removesAll_iff_of_linked hlinked.dict hlocation hqueue ⟨session, hsession⟩

/-- Three geofences in two calls. No id is its own session, but the sessions are the ids in another
order. -/
def crossedIds : List GeofenceLabel :=
  [.addGeofences [(2, ⟨1, 0, 0⟩), (3, ⟨2, 0, 0⟩)] (some [1, 2]),
    .addGeofences [(1, ⟨4, 0, 0⟩)] (some [3])]

/-- The dictionary of the three geofences. -/
def crossedDict : BiDict UInt16 := BiDict.set (.set (.set .empty 2 1 1) 3 2 2) 1 3 4

theorem sessionsAreIds_crossedDict : SessionsAreIds crossedDict := by
  intro session hsession
  unfold crossedDict at hsession ⊢
  rw [BiDict.hasSession_set, BiDict.hasSession_set, BiDict.hasSession_set] at hsession
  rw [BiDict.hasId_set, BiDict.hasId_set, BiDict.hasId_set]
  simp only [Bool.or_eq_true, decide_eq_true_eq] at hsession ⊢
  rcases hsession with ((hnone | rfl) | rfl) | rfl
  · cases hnone
  · exact .inr rfl
  · exact .inl (.inl (.inr rfl))
  · exact .inl (.inr rfl)

theorem removesAll_crossedIds :
    ∃ s, run step (new true) crossedIds = some s ∧ s.client.mGeofenceBiDict = crossedDict ∧
      s.client.RemovesAll := by
  obtain ⟨s, hrun, hdict⟩ : ∃ s, run step (new true) crossedIds = some s ∧
      s.client.mGeofenceBiDict = crossedDict := by
    have hfirst : Returned [] [(2, ⟨1, 0, 0⟩), (3, ⟨2, 0, 0⟩)] [1, 2] := ⟨rfl, by simp, by simp⟩
    have hsecond : Returned [1, 2] [(1, ⟨4, 0, 0⟩)] [3] := ⟨rfl, by simp, by simp⟩
    exact ⟨_, run_cons_eq_some.mpr ⟨_, step_addGeofences hfirst,
      run_cons_eq_some.mpr ⟨_, step_addGeofences hsecond, rfl⟩⟩, rfl⟩
  refine ⟨s, hrun, hdict, (removesAll_iff true crossedIds s hrun ⟨1, ?_⟩).mpr ?_⟩
  · rw [hdict]
    rfl
  · rw [hdict]
    exact sessionsAreIds_crossedDict

/-- A geofence with the id 7 and the session 1 is not. -/
theorem not_removesAll_oneGeofence :
    ¬ ∀ (mLocationAPI : Bool) (labels : List GeofenceLabel) (s : GeofenceSystem),
      run step (new mLocationAPI) labels = some s →
        (∃ session, s.client.mGeofenceBiDict.hasSession session = true) →
          s.client.RemovesAll := by
  intro h
  have hrun := @run_oneGeofence 7 1 1 (by decide)
  have hlinked := linked_of_run hrun
  have hhas : (oneGeofence 7 1 1).client.mGeofenceBiDict.hasSession 1 = true :=
    (hasSession_oneGeofence 7 1 1 1).trans (decide_eq_true rfl)
  have hall := h true _ _ hrun ⟨1, hhas⟩
  obtain ⟨hlocation, hqueue⟩ := hlinked.active 1 hhas
  rw [removesAll_iff_of_linked hlinked.dict hlocation hqueue ⟨1, hhas⟩] at hall
  have hid := hall 1 hhas
  rw [hasId_oneGeofence] at hid
  exact absurd hid (by decide)

end GeofenceSystem

end LocHal.Location
