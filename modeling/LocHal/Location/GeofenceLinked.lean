import LocHal.Location.GeofenceBiDict

/-!
# `LocHal.Location.GeofenceLinked`: what holds of every geofence dictionary

An id that is added again leaves a session behind, so a geofence dictionary is not a bijection in
general. What does hold after every run is weaker (`BiDict.Linked`): the session of an id names the
id, it is not 0, and there is a mask exactly for each session. `linked_of_run` states it with what
holds of the client: a dictionary with a session belongs to a client that has a `LocationAPI` and
whose queue has the geofence session.

The backward map and the table of the masks may keep a session whose id has a newer one. So nothing
is said about a session that no id has, but that it has a mask. `Linked.injective` and
`Linked.getSession_pos` are what the methods for known ids need: different ids have different
sessions, and an id is known exactly if its session is not 0.

Each method adds sessions or adds none. `KeepsLinked` and `KeepsClient` are for those that add none,
and `linked_setAll` and `Linked.addGeofences` for the addition, whose sessions are new.
-/

set_option autoImplicit false

namespace LocHal.Location

open LabelledRun

namespace BiDict

variable {T : Type} {d : BiDict T} {id session : UInt32} {ext : T}

/-- The session of an id is not 0 and names the id, and each session has a value. -/
structure Linked (d : BiDict T) : Prop where
  backward : ∀ id session, d.mForwardMap id = some session → d.mBackwardMap session = some id
  ne_zero : ∀ id session, d.mForwardMap id = some session → session ≠ 0
  ext : ∀ session, (d.mExtMap session).isSome = (d.mBackwardMap session).isSome

theorem linked_empty : Linked (empty : BiDict T) := ⟨nofun, nofun, fun _ => rfl⟩

/-- Two ids do not have one session. -/
theorem Linked.injective (hd : d.Linked) {id id' : UInt32} (h : d.mForwardMap id = some session)
    (h' : d.mForwardMap id' = some session) : id = id' :=
  Option.some.inj ((hd.backward id session h).symm.trans (hd.backward id' session h'))

theorem getSession_of_some (h : d.mForwardMap id = some session) : d.getSession id = session := by
  unfold getSession
  rw [h, Option.getD_some]

/-- The known ids are those of the dictionary. -/
theorem Linked.getSession_pos (hd : d.Linked) (h : d.mForwardMap id = some session) :
    0 < d.getSession id := by
  have hne := hd.ne_zero id session h
  rw [getSession_of_some h, UInt32.lt_iff_toNat_lt]
  exact Nat.pos_of_ne_zero fun hzero => hne (UInt32.toNat_inj.mp hzero)

theorem Linked.eq_none_of_not_pos (hd : d.Linked) (h : ¬ 0 < d.getSession id) :
    d.mForwardMap id = none := by
  cases hid : d.mForwardMap id with
  | none => rfl
  | some session => exact absurd (hd.getSession_pos hid) h

/-- The session of an id is a session of the dictionary. -/
theorem Linked.hasSession_of_some (hd : d.Linked) (h : d.mForwardMap id = some session) :
    d.hasSession session = true := by
  unfold hasSession
  rw [hd.backward id session h]
  rfl

/-- A session that is new. -/
theorem Linked.set_new (hd : d.Linked) (id : UInt32) (hzero : session ≠ 0)
    (hsession : d.hasSession session = false) (ext : T) : (d.set id session ext).Linked := by
  have hnone : d.mBackwardMap session = none := hasSession_eq_false.mp hsession
  refine ⟨fun id' session' h => ?_, fun id' session' h => ?_, ext_set hd.ext⟩
  · unfold set at h ⊢
    dsimp only at h ⊢
    by_cases hid : id' = id
    · rw [hid, Function.update_self] at h
      rw [← Option.some.inj h, Function.update_self, hid]
    · -- the session of another id is not the new one
      rw [Function.update_of_ne hid] at h
      have hback := hd.backward id' session' h
      have hne : session' ≠ session := fun heq => by
        rw [heq, hnone] at hback
        cases hback
      rw [Function.update_of_ne hne, hback]
  · unfold set at h
    dsimp only at h
    by_cases hid : id' = id
    · rw [hid, Function.update_self] at h
      exact Option.some.inj h ▸ hzero
    · rw [Function.update_of_ne hid] at h
      exact hd.ne_zero id' session' h

/-- A change that keeps the dictionary linked and adds no session. -/
structure KeepsLinked (d d' : BiDict T) : Prop where
  linked : d'.Linked
  hasSession : ∀ session, d'.hasSession session = true → d.hasSession session = true

theorem KeepsLinked.refl (hd : d.Linked) : KeepsLinked d d := ⟨hd, fun _ h => h⟩

theorem KeepsLinked.trans {d' d'' : BiDict T} (h : KeepsLinked d d') (h' : KeepsLinked d' d'') :
    KeepsLinked d d'' :=
  ⟨h'.linked, fun session hsession => h.hasSession session (h'.hasSession session hsession)⟩

/-- A new value for an id with its session changes neither map. -/
theorem Linked.set_maps (hd : d.Linked) (hid : d.mForwardMap id = some session) (ext : T) :
    (d.set id session ext).mForwardMap = d.mForwardMap ∧
      (d.set id session ext).mBackwardMap = d.mBackwardMap := by
  constructor
  · show Function.update d.mForwardMap id (some session) = d.mForwardMap
    rw [← hid, Function.update_eq_self]
  · show Function.update d.mBackwardMap session (some id) = d.mBackwardMap
    rw [← hd.backward id session hid, Function.update_eq_self]

theorem Linked.set_known (hd : d.Linked) (hid : d.mForwardMap id = some session) (ext : T) :
    KeepsLinked d (d.set id session ext) := by
  obtain ⟨hforward, hbackward⟩ := hd.set_maps hid ext
  refine ⟨⟨?_, ?_, ext_set hd.ext⟩, ?_⟩
  · rw [hforward, hbackward]
    exact hd.backward
  · rw [hforward]
    exact hd.ne_zero
  · intro other hother
    unfold hasSession at hother ⊢
    rwa [hbackward] at hother

/-- The maps after the entry of an id was removed. -/
theorem Linked.rmBySession_maps (hd : d.Linked) (hid : d.mForwardMap id = some session) :
    (d.rmBySession session).mForwardMap = Function.update d.mForwardMap id none ∧
      (d.rmBySession session).mBackwardMap = Function.update d.mBackwardMap session none ∧
      (d.rmBySession session).mExtMap = Function.update d.mExtMap session none := by
  unfold BiDict.rmBySession
  rw [hd.backward id session hid]
  exact ⟨rfl, rfl, rfl⟩

theorem Linked.rmBySession (hd : d.Linked) (hid : d.mForwardMap id = some session) :
    KeepsLinked d (d.rmBySession session) := by
  obtain ⟨hforward, hbackward, hext⟩ := hd.rmBySession_maps hid
  refine ⟨⟨fun id' session' h => ?_, fun id' session' h => ?_, fun other => ?_⟩, ?_⟩
  · rw [hforward] at h
    have hne : id' ≠ id := fun heq => by
      rw [heq, Function.update_self] at h
      cases h
    rw [Function.update_of_ne hne] at h
    -- another id has another session
    have hne' : session' ≠ session := fun heq => hne (hd.injective (heq ▸ h) hid)
    rw [hbackward, Function.update_of_ne hne']
    exact hd.backward id' session' h
  · rw [hforward, Function.update_apply] at h
    split at h
    · cases h
    · exact hd.ne_zero id' session' h
  · rw [hext, hbackward, Function.update_apply, Function.update_apply]
    split
    · rfl
    · exact hd.ext other
  · intro other hother
    unfold hasSession at hother ⊢
    rw [hbackward, Function.update_apply] at hother
    split at hother
    · cases hother
    · exact hother

end BiDict

/-! ### The methods -/

namespace GeofenceClient

open BiDict (KeepsLinked)

variable {d : BiDict UInt16} {c : GeofenceClient}

theorem keepsLinked_removeLoop {ids : List UInt32} {removed : BiDict UInt16}
    {sessions : List UInt32} (hd : d.Linked) :
    KeepsLinked d (removeLoop d removed sessions ids).1 := by
  refine removeLoop_rule (P := KeepsLinked d) ?_ (.refl hd)
  intro d' id session h hid
  exact h.trans (h.linked.rmBySession hid)

theorem keepsLinked_knownLoop {geofences : List (UInt32 × Option UInt16)}
    {sessions : List UInt32} (hd : d.Linked) :
    KeepsLinked d (knownLoop d sessions geofences).1 := by
  refine knownLoop_rule (P := KeepsLinked d) ?_ (.refl hd)
  intro d' id session mask h hid
  exact h.trans (h.linked.set_known hid mask)

/-- New sessions keep a dictionary linked. -/
theorem linked_setAll {geofences : List ((UInt32 × GeofenceOption) × UInt32)} {d : BiDict UInt16}
    (hd : d.Linked) (hnodup : (geofences.map Prod.snd).Nodup)
    (hnew : ∀ session ∈ geofences.map Prod.snd, session ≠ 0 ∧ d.hasSession session = false) :
    (setAll d geofences).Linked := by
  induction geofences generalizing d with
  | nil => exact hd
  | cons geofence geofences ih =>
      rw [List.map_cons, List.nodup_cons] at hnodup
      rw [List.map_cons, List.forall_mem_cons] at hnew
      refine ih (hd.set_new _ hnew.1.1 hnew.1.2 _) hnodup.2 fun session hsession => ?_
      refine ⟨(hnew.2 session hsession).1, ?_⟩
      rw [BiDict.hasSession_set, (hnew.2 session hsession).2, Bool.false_or]
      exact decide_eq_false (ne_of_mem_of_not_mem hsession hnodup.1)

/-- A method that adds no session. -/
structure KeepsClient (c c' : GeofenceClient) : Prop where
  mLocationAPI : c'.mLocationAPI = c.mLocationAPI
  session : c'.mGeofenceQueue.mSession = c.mGeofenceQueue.mSession
  dict : KeepsLinked c.mGeofenceBiDict c'.mGeofenceBiDict

theorem KeepsClient.refl (hc : c.mGeofenceBiDict.Linked) : KeepsClient c c := ⟨rfl, rfl, .refl hc⟩

theorem keepsClient_locAPIRemoveGeofences (hc : c.mGeofenceBiDict.Linked) (ids : List UInt32) :
    KeepsClient c (c.locAPIRemoveGeofences ids).1 := by
  unfold locAPIRemoveGeofences
  split
  · exact .refl hc
  · split
    · dsimp only
      split <;> exact ⟨rfl, rfl, keepsLinked_removeLoop hc⟩
    · exact .refl hc

theorem keepsClient_onKnown (hc : c.mGeofenceBiDict.Linked)
    (geofences : List (UInt32 × Option UInt16)) (request : GeofenceRequest)
    (call : List UInt32 → GeofenceCall) : KeepsClient c (c.onKnown geofences request call).1 := by
  unfold onKnown
  split
  · exact .refl hc
  · split
    · dsimp only
      split <;> exact ⟨rfl, rfl, keepsLinked_knownLoop hc⟩
    · exact .refl hc

theorem keepsClient_onCollectiveResponseCb (hc : c.mGeofenceBiDict.Linked) :
    KeepsClient c c.onCollectiveResponseCb := by
  unfold onCollectiveResponseCb
  split
  · exact ⟨rfl, rfl, .refl hc⟩
  · exact .refl hc

end GeofenceClient

/-! ### Runs -/

namespace GeofenceSystem

open GeofenceClient

variable {s t : GeofenceSystem} {labels : List GeofenceLabel} {mLocationAPI : Bool}

/-- The dictionary is linked and its sessions have been returned. A client with a session has a
`LocationAPI`, and its queue has the geofence session. -/
structure Linked (s : GeofenceSystem) : Prop where
  dict : s.client.mGeofenceBiDict.Linked
  recorded : s.Recorded
  active : ∀ session, s.client.mGeofenceBiDict.hasSession session = true →
    s.client.mLocationAPI = true ∧ s.client.mGeofenceQueue.mSession = geofenceSessionId

theorem linked_new (mLocationAPI : Bool) : Linked (new mLocationAPI) :=
  ⟨BiDict.linked_empty, fun _ h => absurd h Bool.false_ne_true,
    fun _ h => absurd h Bool.false_ne_true⟩

/-- A method that adds no session keeps the system linked. -/
theorem Linked.keep {c : GeofenceClient} (hs : s.Linked) (hc : KeepsClient s.client c) :
    Linked { s with client := c } where
  dict := hc.dict.linked
  recorded session hsession := hs.recorded session (hc.dict.hasSession session hsession)
  active session hsession := by
    rw [hc.mLocationAPI, hc.session]
    exact hs.active session (hc.dict.hasSession session hsession)

/-- The queue of a client with a `LocationAPI` after an addition. -/
theorem locAPIAddGeofences_queue {c : GeofenceClient} (hc : c.mLocationAPI = true)
    (geofences : List (UInt32 × GeofenceOption)) (sessions : Option (List UInt32)) :
    (c.locAPIAddGeofences geofences sessions).1.mLocationAPI = true ∧
      (c.locAPIAddGeofences geofences sessions).1.mGeofenceQueue.mSession
        = geofenceSessionId := by
  unfold locAPIAddGeofences
  rw [hc]
  by_cases hqueue : c.mGeofenceQueue.mSession = geofenceSessionId
  · cases sessions <;> exact ⟨rfl, by simp [hqueue, RequestQueueOf.push]⟩
  · cases sessions <;> exact ⟨rfl, by simp [hqueue, RequestQueueOf.reset, RequestQueueOf.push]⟩

theorem Linked.addGeofences (hs : s.Linked) {geofences : List (UInt32 × GeofenceOption)}
    {sessions : List UInt32} (h : Returned s.used geofences sessions) :
    Linked ⟨(s.client.locAPIAddGeofences geofences (some sessions)).1, sessions ++ s.used⟩ := by
  obtain ⟨hlength, hnodup, hnew⟩ := h
  have hdict := locAPIAddGeofences_dict s.client geofences (some sessions)
  rw [Option.getD_some] at hdict
  cases hlocation : s.client.mLocationAPI with
  | false =>
      -- nothing is added
      have hclient : (s.client.locAPIAddGeofences geofences (some sessions)).1 = s.client := by
        unfold locAPIAddGeofences
        rw [hlocation]
        rfl
      rw [hclient]
      exact ⟨hs.dict, fun session hsession =>
        List.mem_append_right _ (hs.recorded session hsession), hs.active⟩
  | true =>
      rw [hlocation, if_pos rfl] at hdict
      have hsnd : (geofences.zip sessions).map Prod.snd = sessions :=
        List.map_snd_zip (Nat.le_of_eq hlength)
      refine ⟨?_, fun session hsession => ?_, fun _ _ => locAPIAddGeofences_queue hlocation _ _⟩
      · rw [hdict]
        refine linked_setAll hs.dict (by rw [hsnd]; exact hnodup) fun session hsession => ?_
        rw [hsnd] at hsession
        -- a session of the dictionary was returned before
        exact ⟨(hnew session hsession).1, Bool.eq_false_iff.mpr fun hold =>
          (hnew session hsession).2 (hs.recorded session hold)⟩
      · dsimp only at hsession
        rw [hdict] at hsession
        obtain hold | hadded := hasSession_setAll hsession
        · exact List.mem_append_right _ (hs.recorded session hold)
        · exact List.mem_append_left _ (hsnd ▸ hadded)

theorem Linked.step {label : GeofenceLabel} (hs : s.Linked) (ht : s.step label = some t) :
    t.Linked := by
  cases label with
  | addGeofences geofences sessions =>
      cases sessions with
      | none =>
          cases ht
          have hdict := locAPIAddGeofences_dict s.client geofences none
          rw [Option.getD_none, List.zip_nil_right] at hdict
          have hsame : (s.client.locAPIAddGeofences geofences none).1.mGeofenceBiDict
              = s.client.mGeofenceBiDict := hdict.trans (ite_self _)
          refine ⟨by rw [hsame]; exact hs.dict, fun session hsession => ?_,
            fun session hsession => ?_⟩
          · exact hs.recorded session (by rwa [hsame] at hsession)
          · rw [hsame] at hsession
            exact locAPIAddGeofences_queue (hs.active session hsession).1 _ _
      | some sessions =>
          rw [GeofenceSystem.step] at ht
          split at ht
          · cases ht
            exact hs.addGeofences ‹_›
          · cases ht
  | removeGeofences ids =>
      cases ht
      exact hs.keep (keepsClient_locAPIRemoveGeofences hs.dict ids)
  | modifyGeofences geofences =>
      cases ht
      exact hs.keep (keepsClient_onKnown hs.dict _ _ _)
  | pauseGeofences ids =>
      cases ht
      exact hs.keep (keepsClient_onKnown hs.dict _ _ _)
  | resumeGeofences geofences =>
      cases ht
      exact hs.keep (keepsClient_onKnown hs.dict _ _ _)
  | collectiveResponse =>
      cases ht
      exact hs.keep (keepsClient_onCollectiveResponseCb hs.dict)

/-- Every state of a client is linked. -/
theorem linked_of_run (h : run step (new mLocationAPI) labels = some s) : s.Linked :=
  run_invariant (fun _ _ _ hs ht => Linked.step hs ht) labels _ s (linked_new mLocationAPI) h

/-- A client with one geofence. -/
def oneGeofence (id session : UInt32) (mask : UInt16) : GeofenceSystem :=
  ⟨((GeofenceClient.new true).locAPIAddGeofences [(id, ⟨mask, 0, 0⟩)] (some [session])).1,
    [session]⟩

theorem run_oneGeofence (id : UInt32) {session : UInt32} (mask : UInt16)
    (hsession : session ≠ 0) :
    run step (new true) [.addGeofences [(id, ⟨mask, 0, 0⟩)] (some [session])]
      = some (oneGeofence id session mask) := by
  have hreturned : Returned (new true).used [(id, ⟨mask, 0, 0⟩)] [session] :=
    ⟨rfl, List.pairwise_singleton _ _, fun other hother =>
      ⟨List.mem_singleton.mp hother ▸ hsession, List.not_mem_nil⟩⟩
  rw [run_cons, GeofenceSystem.step, if_pos hreturned, Option.bind_some]
  rfl

/-- Its dictionary. -/
theorem oneGeofence_dict (id session : UInt32) (mask : UInt16) :
    (oneGeofence id session mask).client.mGeofenceBiDict = BiDict.set .empty id session mask :=
  rfl

theorem hasSession_oneGeofence (id session : UInt32) (mask : UInt16) (other : UInt32) :
    (oneGeofence id session mask).client.mGeofenceBiDict.hasSession other
      = decide (other = session) := by
  rw [oneGeofence_dict, BiDict.hasSession_set]
  rfl

theorem hasId_oneGeofence (id session : UInt32) (mask : UInt16) (other : UInt32) :
    (oneGeofence id session mask).client.mGeofenceBiDict.hasId other = decide (other = id) := by
  rw [oneGeofence_dict, BiDict.hasId_set]
  rfl

end GeofenceSystem

end LocHal.Location
