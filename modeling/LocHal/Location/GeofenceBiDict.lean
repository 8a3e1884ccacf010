import LocHal.Lib.InversePair
import LocHal.Lib.LabelledRun
import LocHal.Location.RequestQueues

/-!
# `LocHal.Location.GeofenceBiDict`: the geofence dictionary of a client

`locAPIAddGeofences` binds each id of the call to the session that `LocationAPI` returns for it. The
other methods look the ids up. A removal takes the entries out, and a change of options writes a new
mask to the session of the id.

`BiDict.Consistent` is the property: the two maps of ids and sessions are inverse to each other, and
there is a mask exactly for each session. `along_consistent_iff` gives the exact condition: no
added id is in the dictionary, and none is there twice in one call. An id that is bound again leaves
its old session in the backward map (`not_consistent_setAll`).

The location of a geofence is left out, and so is a failed allocation, after which a method returns
at once.

`Shrinks` is the relation between the dictionary before and after a call that binds nothing new: it
is consistent and knows no more sessions. The loops over ids and over geofences share one rule each
(`removeLoop_rule`, `knownLoop_rule`), so that each of the other calls is an instance. `Recorded`
says that the sessions of the dictionary were returned by `LocationAPI` before, which makes the
sessions of the next addition new to it.

`consistent_setAll_iff` is the heart of the exact condition: a list of new sessions, bound to the
ids of one call, keeps a consistent dictionary consistent if and only if the ids are new and
distinct.
-/

set_option autoImplicit false

namespace LocHal.Location

open LabelledRun

/-! ### The dictionary -/

namespace BiDict

variable {T : Type} {d : BiDict T} {id session : UInt32} {ext : T}

/-- The maps of ids and sessions are inverse to each other, and there is a value exactly for each
session: the mask of a geofence is looked up by the session. -/
structure Consistent (d : BiDict T) : Prop where
  inverse : InversePair d.mForwardMap d.mBackwardMap
  ext : ∀ session, (d.mExtMap session).isSome = (d.mBackwardMap session).isSome

theorem consistent_empty : Consistent (empty : BiDict T) :=
  ⟨fun _ _ => ⟨nofun, nofun⟩, fun _ => rfl⟩

theorem hasId_eq_false : d.hasId id = false ↔ d.mForwardMap id = none := by
  unfold hasId
  rw [Option.isSome_eq_false_iff, Option.isNone_iff_eq_none]

theorem hasSession_eq_false : d.hasSession session = false ↔ d.mBackwardMap session = none := by
  unfold hasSession
  rw [Option.isSome_eq_false_iff, Option.isNone_iff_eq_none]

/-- A session that is not 0 is the one of the id. -/
theorem mForwardMap_of_getSession (h : 0 < d.getSession id) :
    d.mForwardMap id = some (d.getSession id) := by
  unfold getSession at h ⊢
  cases hid : d.mForwardMap id with
  | none =>
      rw [hid] at h
      exact absurd h (by decide)
  | some session => rfl

theorem hasSession_set (d : BiDict T) (id session : UInt32) (ext : T) (other : UInt32) :
    (d.set id session ext).hasSession other = (d.hasSession other || decide (other = session)) := by
  unfold hasSession set
  by_cases h : other = session
  · simp [h]
  · simp [h]

theorem hasId_set (d : BiDict T) (id session : UInt32) (ext : T) (other : UInt32) :
    (d.set id session ext).hasId other = (d.hasId other || decide (other = id)) := by
  unfold hasId set
  by_cases h : other = id
  · simp [h]
  · simp [h]

/-- A value is written for every session that is written. -/
theorem ext_set (hd : ∀ session, (d.mExtMap session).isSome = (d.mBackwardMap session).isSome) :
    ∀ other, ((d.set id session ext).mExtMap other).isSome =
      ((d.set id session ext).mBackwardMap other).isSome := by
  intro other
  unfold set
  by_cases h : other = session
  · simp [h]
  · simp [h, hd other]

/-- A new id and a new session. -/
theorem Consistent.set_new (hd : d.Consistent) (hid : d.hasId id = false)
    (hsession : d.hasSession session = false) (ext : T) : (d.set id session ext).Consistent :=
  ⟨hd.inverse.bind (hasId_eq_false.mp hid) (hasSession_eq_false.mp hsession), ext_set hd.ext⟩

/-- A change that keeps the dictionary a bijection and adds no session. -/
structure Shrinks (d d' : BiDict T) : Prop where
  consistent : d'.Consistent
  hasSession : ∀ session, d'.hasSession session = true → d.hasSession session = true

theorem Shrinks.refl (hd : d.Consistent) : Shrinks d d := ⟨hd, fun _ h => h⟩

theorem Shrinks.trans {d' d'' : BiDict T} (h : Shrinks d d') (h' : Shrinks d' d'') :
    Shrinks d d'' :=
  ⟨h'.consistent, fun session hsession => h.hasSession session (h'.hasSession session hsession)⟩

/-- A new value for an id with its session changes neither map. -/
theorem Consistent.set_known (hd : d.Consistent) (hid : d.mForwardMap id = some session) (ext : T) :
    Shrinks d (d.set id session ext) := by
  obtain ⟨hforward, hbackward⟩ := hd.inverse.rebind hid
  refine ⟨⟨?_, ext_set hd.ext⟩, ?_⟩
  · show InversePair (Function.update _ _ _) (Function.update _ _ _)
    rw [hforward, hbackward]
    exact hd.inverse
  · intro other hother
    unfold hasSession set at hother
    rw [hbackward] at hother
    exact hother

/-- The entry of an id is removed. -/
theorem Consistent.rmBySession (hd : d.Consistent) (hid : d.mForwardMap id = some session) :
    Shrinks d (d.rmBySession session) := by
  have hbackward : d.mBackwardMap session = some id := (hd.inverse id session).mp hid
  unfold BiDict.rmBySession
  rw [hbackward]
  refine ⟨⟨hd.inverse.unbind hid, ?_⟩, ?_⟩
  · intro other
    by_cases h : other = session
    · simp [h]
    · simp [h, hd.ext other]
  · intro other hother
    unfold hasSession at hother ⊢
    by_cases h : other = session
    · simp [h] at hother
    · simpa [h] using hother

end BiDict

/-! ### The client -/

/-- `GEOFENCE_SESSION_ID`. -/
def geofenceSessionId : UInt32 := 0xFFFFFFFF

/-- `GeofenceOption`. -/
structure GeofenceOption where
  breachTypeMask : UInt16
  responsiveness : UInt32
  dwellTime : UInt32
  deriving DecidableEq, Repr

/-- The request objects of the geofence methods. -/
inductive GeofenceRequest where
  | addGeofencesRequest
  | removeGeofencesRequest (mRemovedGeofenceBiDict : BiDict UInt16)
  | modifyGeofencesRequest
  | pauseGeofencesRequest
  | resumeGeofencesRequest

/-- The calls of `LocationAPI`. -/
inductive GeofenceCall where
  | addGeofences (options : List GeofenceOption)
  | removeGeofences (sessions : List UInt32)
  | modifyGeofences (sessions : List UInt32) (options : List GeofenceOption)
  | pauseGeofences (sessions : List UInt32)
  | resumeGeofences (sessions : List UInt32)
  deriving DecidableEq, Repr

/-- The part of `LocationAPIClientBase` that the geofence methods use. `mGeofenceQueue` is
`mRequestQueues[REQUEST_GEOFENCE]`. -/
structure GeofenceClient where
  mLocationAPI : Bool
  mGeofenceQueue : RequestQueueOf GeofenceRequest
  mGeofenceBiDict : BiDict UInt16

namespace GeofenceClient

/-- The constructor, and `locAPISetCallbacks`. -/
def new (mLocationAPI : Bool) : GeofenceClient := ⟨mLocationAPI, .new, .empty⟩

/-- The loop of `locAPIAddGeofences`, over the ids, options and sessions of the call. -/
def setAll (d : BiDict UInt16) (geofences : List ((UInt32 × GeofenceOption) × UInt32)) :
    BiDict UInt16 :=
  geofences.foldl (fun d geofence => d.set geofence.1.1 geofence.2 geofence.1.2.breachTypeMask) d

/-- `LocationAPIClientBase::locAPIAddGeofences`. `LocationAPI::addGeofences` returns `sessions`, or
a null pointer. -/
def locAPIAddGeofences (c : GeofenceClient) (geofences : List (UInt32 × GeofenceOption))
    (sessions : Option (List UInt32)) : GeofenceClient × LocationError × Option GeofenceCall :=
  if !c.mLocationAPI then (c, .generalFailure, none)
  else
    let queue :=
      if c.mGeofenceQueue.mSession ≠ geofenceSessionId then
        c.mGeofenceQueue.reset geofenceSessionId
      else c.mGeofenceQueue
    let call := some (.addGeofences (geofences.map Prod.snd))
    match sessions with
    | none => ({ c with mGeofenceQueue := queue }, .generalFailure, call)
    | some sessions =>
        ({ c with
          mGeofenceQueue := queue.push .addGeofencesRequest
          mGeofenceBiDict := setAll c.mGeofenceBiDict (geofences.zip sessions) }, .success, call)

/-- The loop of `locAPIRemoveGeofences`, with the removed entries and the sessions so far. -/
def removeLoop (d removed : BiDict UInt16) (sessions : List UInt32) :
    List UInt32 → BiDict UInt16 × BiDict UInt16 × List UInt32
  | [] => (d, removed, sessions)
  | id :: ids =>
      let session := d.getSession id
      if 0 < session then
        let type := d.getExtBySession 0 session
        removeLoop (d.rmBySession session) (removed.set id session type) (sessions ++ [session]) ids
      else removeLoop d removed sessions ids

/-- `LocationAPIClientBase::locAPIRemoveGeofences`. -/
def locAPIRemoveGeofences (c : GeofenceClient) (ids : List UInt32) :
    GeofenceClient × Option GeofenceCall :=
  if !c.mLocationAPI then (c, none)
  else if c.mGeofenceQueue.mSession = geofenceSessionId then
    let (d, removed, sessions) := removeLoop c.mGeofenceBiDict .empty [] ids
    if 0 < sessions.length then
      ({ c with
        mGeofenceQueue := c.mGeofenceQueue.push (.removeGeofencesRequest removed)
        mGeofenceBiDict := d }, some (.removeGeofences sessions))
    else ({ c with mGeofenceBiDict := d }, none)
  -- no geofence has been added yet
  else (c, none)

/-- The loop of the other methods, with the sessions so far. A mask is written when there is one. -/
def knownLoop (d : BiDict UInt16) (sessions : List UInt32) :
    List (UInt32 × Option UInt16) → BiDict UInt16 × List UInt32
  | [] => (d, sessions)
  | (id, mask) :: geofences =>
      let session := d.getSession id
      if 0 < session then
        let d :=
          match mask with
          | some mask => d.set id session mask
          | none => d
        knownLoop d (sessions ++ [session]) geofences
      else knownLoop d sessions geofences

/-- What the other methods do: `request` is the request object, and `call` makes the call from the
sessions. -/
def onKnown (c : GeofenceClient) (geofences : List (UInt32 × Option UInt16))
    (request : GeofenceRequest) (call : List UInt32 → GeofenceCall) :
    GeofenceClient × Option GeofenceCall :=
  if !c.mLocationAPI then (c, none)
  else if c.mGeofenceQueue.mSession = geofenceSessionId then
    let (d, sessions) := knownLoop c.mGeofenceBiDict [] geofences
    if 0 < sessions.length then
      ({ c with
        mGeofenceQueue := c.mGeofenceQueue.push request
        mGeofenceBiDict := d }, some (call sessions))
    else ({ c with mGeofenceBiDict := d }, none)
  else (c, none)

/-- `LocationAPIClientBase::locAPIModifyGeofences`. -/
def locAPIModifyGeofences (c : GeofenceClient) (geofences : List (UInt32 × GeofenceOption)) :
    GeofenceClient × Option GeofenceCall :=
  c.onKnown (geofences.map fun geofence => (geofence.1, some geofence.2.breachTypeMask))
    .modifyGeofencesRequest fun sessions => .modifyGeofences sessions (geofences.map Prod.snd)

/-- `LocationAPIClientBase::locAPIPauseGeofences`. -/
def locAPIPauseGeofences (c : GeofenceClient) (ids : List UInt32) :
    GeofenceClient × Option GeofenceCall :=
  c.onKnown (ids.map fun id => (id, none)) .pauseGeofencesRequest .pauseGeofences

/-- `LocationAPIClientBase::locAPIResumeGeofences`. The masks are not there when the array is
null. -/
def locAPIResumeGeofences (c : GeofenceClient) (geofences : List (UInt32 × Option UInt16)) :
    GeofenceClient × Option GeofenceCall :=
  c.onKnown geofences .resumeGeofencesRequest .resumeGeofences

/-- `LocationAPIClientBase::onCollectiveResponseCb`. The request reads the dictionary only. -/
def onCollectiveResponseCb (c : GeofenceClient) : GeofenceClient :=
  if c.mGeofenceQueue.mSession = geofenceSessionId then
    { c with mGeofenceQueue := c.mGeofenceQueue.pop.2 }
  else c

end GeofenceClient

/-- A client with the sessions that `LocationAPI` has returned. -/
structure GeofenceSystem where
  client : GeofenceClient
  used : List UInt32

/-- The calls and the responses. -/
inductive GeofenceLabel where
  | addGeofences (geofences : List (UInt32 × GeofenceOption)) (sessions : Option (List UInt32))
  | removeGeofences (ids : List UInt32)
  | modifyGeofences (geofences : List (UInt32 × GeofenceOption))
  | pauseGeofences (ids : List UInt32)
  | resumeGeofences (geofences : List (UInt32 × Option UInt16))
  | collectiveResponse

namespace GeofenceSystem

/-- `LocationAPI` returns one session for each geofence, not 0 and never returned before. -/
def Returned (used : List UInt32) (geofences : List (UInt32 × GeofenceOption))
    (sessions : List UInt32) : Prop :=
  sessions.length = geofences.length ∧ sessions.Nodup ∧ ∀ session ∈ sessions,
    session ≠ 0 ∧ session ∉ used

instance (used : List UInt32) (geofences : List (UInt32 × GeofenceOption))
    (sessions : List UInt32) : Decidable (Returned used geofences sessions) :=
  inferInstanceAs (Decidable (_ ∧ _ ∧ _))

/-- A client before its first call. -/
def new (mLocationAPI : Bool) : GeofenceSystem := ⟨.new mLocationAPI, []⟩

/-- One step. -/
def step (s : GeofenceSystem) : GeofenceLabel → Option GeofenceSystem
  | .addGeofences geofences none => some { s with
      client := (s.client.locAPIAddGeofences geofences none).1 }
  | .addGeofences geofences (some sessions) =>
      if Returned s.used geofences sessions then
        some ⟨(s.client.locAPIAddGeofences geofences (some sessions)).1, sessions ++ s.used⟩
      else none
  | .removeGeofences ids => some { s with client := (s.client.locAPIRemoveGeofences ids).1 }
  | .modifyGeofences geofences => some { s with
      client := (s.client.locAPIModifyGeofences geofences).1 }
  | .pauseGeofences ids => some { s with client := (s.client.locAPIPauseGeofences ids).1 }
  | .resumeGeofences geofences => some { s with
      client := (s.client.locAPIResumeGeofences geofences).1 }
  | .collectiveResponse => some { s with client := s.client.onCollectiveResponseCb }

/-- The geofence dictionary is a bijection. No id has two sessions, so that every geofence can be
named, and each session has the mask that its breaches are filtered with. -/
def Consistent (s : GeofenceSystem) : Prop := s.client.mGeofenceBiDict.Consistent

/-- The condition on one call: the geofences that are added have distinct ids, and none of them is
in the dictionary. `set` puts the new session into the forward map and does not remove the old one
from the backward map, so an id that is bound twice, within a call or across calls, leaves a session
that leads to an id that does not lead back. Only a call that gets its sessions binds anything. -/
def AddsNewIds (s : GeofenceSystem) : GeofenceLabel → Prop
  | .addGeofences geofences (some sessions) =>
      Returned s.used geofences sessions → s.client.mLocationAPI = true →
        (geofences.map Prod.fst).Nodup ∧
          ∀ id ∈ geofences.map Prod.fst, s.client.mGeofenceBiDict.hasId id = false
  | _ => True

end GeofenceSystem

/-! ### The loops -/

namespace GeofenceClient

open BiDict (Shrinks)

variable {d : BiDict UInt16}

/-- A stale binding is not repaired by sessions that are new. -/
theorem stale_setAll {session : UInt32} :
    ∀ {geofences : List ((UInt32 × GeofenceOption) × UInt32)} {d : BiDict UInt16},
      session ∉ geofences.map Prod.snd → StaleBinding d.mForwardMap d.mBackwardMap session →
        StaleBinding (setAll d geofences).mForwardMap (setAll d geofences).mBackwardMap
          session := by
  intro geofences
  induction geofences with
  | nil =>
      intro d _ hstale
      exact hstale
  | cons geofence geofences ih =>
      intro d hnew hstale
      rw [List.map_cons, List.mem_cons, not_or] at hnew
      exact ih hnew.2 (hstale.bind hnew.1)

/-- An id of the dictionary that is added again leaves its old session stale. -/
theorem not_consistent_setAll {id session : UInt32} {option : GeofenceOption}
    {geofences : List ((UInt32 × GeofenceOption) × UInt32)} (hd : d.Consistent)
    (hid : d.hasId id = true) (hnew : ∀ other ∈ session :: geofences.map Prod.snd,
      d.hasSession other = false) :
    ¬ (setAll d (((id, option), session) :: geofences)).Consistent := by
  obtain ⟨old, hold⟩ := Option.isSome_iff_exists.mp hid
  -- the old session is none of the new ones, so nothing writes over it
  have hold' : old ∉ session :: geofences.map Prod.snd := by
    intro hmem
    have hfree := BiDict.hasSession_eq_false.mp (hnew old hmem)
    cases hfree.symm.trans ((hd.inverse id old).mp hold)
  rw [List.mem_cons, not_or] at hold'
  have hstale := stale_setAll (d := d.set id session option.breachTypeMask) hold'.2
    (hd.inverse.stale_bind hold hold'.1)
  intro h
  exact hstale.not_inverse h.inverse

/-- New sessions keep the dictionary a bijection exactly when the ids are new too and distinct. -/
theorem consistent_setAll_iff :
    ∀ {geofences : List ((UInt32 × GeofenceOption) × UInt32)} {d : BiDict UInt16},
      d.Consistent → (geofences.map Prod.snd).Nodup →
        (∀ session ∈ geofences.map Prod.snd, d.hasSession session = false) →
          ((setAll d geofences).Consistent ↔ (geofences.map fun geofence => geofence.1.1).Nodup ∧
            ∀ id ∈ geofences.map fun geofence => geofence.1.1, d.hasId id = false) := by
  intro geofences
  induction geofences with
  | nil =>
      intro d hd _ _
      simpa [setAll] using hd
  | cons geofence geofences ih =>
      intro d hd hnodup hnew
      obtain ⟨⟨id, option⟩, session⟩ := geofence
      cases hid : d.hasId id with
      | true =>
          constructor
          · intro h
            exact absurd h (not_consistent_setAll hd hid hnew)
          · rintro ⟨-, hnone⟩
            cases (hnone id List.mem_cons_self).symm.trans hid
      | false =>
          rw [List.map_cons, List.nodup_cons] at hnodup
          rw [List.map_cons, List.forall_mem_cons] at hnew
          have hd' := hd.set_new hid hnew.1 option.breachTypeMask
          -- the rest of the loop starts from the dictionary with the new entry
          show (setAll (d.set id session option.breachTypeMask) geofences).Consistent ↔ _
          rw [List.map_cons, List.nodup_cons, ih hd' hnodup.2]
          · simp only [BiDict.hasId_set, Bool.or_eq_false_iff, decide_eq_false_iff_not,
              List.forall_mem_cons]
            constructor
            · rintro ⟨hids, hnone⟩
              refine ⟨⟨?_, hids⟩, hid, fun other hother => (hnone other hother).1⟩
              exact fun hmem => (hnone id hmem).2 rfl
            · rintro ⟨⟨hnotMem, hids⟩, -, hnone⟩
              refine ⟨hids, fun other hother => ⟨hnone other hother, ?_⟩⟩
              exact ne_of_mem_of_not_mem hother hnotMem
          · intro other hother
            rw [BiDict.hasSession_set, hnew.2 other hother, Bool.false_or]
            exact decide_eq_false (ne_of_mem_of_not_mem hother hnodup.1)

/-- The sessions that a loop of an addition writes. -/
theorem hasSession_setAll {session : UInt32} :
    ∀ {geofences : List ((UInt32 × GeofenceOption) × UInt32)} {d : BiDict UInt16},
      (setAll d geofences).hasSession session = true →
        d.hasSession session = true ∨ session ∈ geofences.map Prod.snd := by
  intro geofences
  induction geofences with
  | nil =>
      intro d h
      exact Or.inl h
  | cons geofence geofences ih =>
      intro d h
      rcases ih h with hset | hmem
      · rw [BiDict.hasSession_set, Bool.or_eq_true, decide_eq_true_eq] at hset
        rcases hset with hold | rfl
        · exact Or.inl hold
        · exact Or.inr List.mem_cons_self
      · exact Or.inr (List.mem_cons_of_mem _ hmem)

/-- The rule of the loop of a removal: what a removal of a known entry keeps, the loop keeps. -/
theorem removeLoop_rule {P : BiDict UInt16 → Prop}
    (hremove : ∀ {d : BiDict UInt16} {id session : UInt32}, P d →
      d.mForwardMap id = some session → P (d.rmBySession session)) :
    ∀ {ids : List UInt32} {d removed : BiDict UInt16} {sessions : List UInt32}, P d →
      P (removeLoop d removed sessions ids).1 := by
  intro ids
  induction ids with
  | nil =>
      intro d removed sessions hd
      exact hd
  | cons id ids ih =>
      intro d removed sessions hd
      rw [removeLoop]
      dsimp only
      by_cases hsession : 0 < d.getSession id
      · rw [if_pos hsession]
        exact ih (hremove hd (BiDict.mForwardMap_of_getSession hsession))
      · rw [if_neg hsession]
        exact ih hd

/-- The rule of the loop of the other methods: what a new mask of a known entry keeps, the loop
keeps. -/
theorem knownLoop_rule {P : BiDict UInt16 → Prop}
    (hset : ∀ {d : BiDict UInt16} {id session : UInt32} (mask : UInt16), P d →
      d.mForwardMap id = some session → P (d.set id session mask)) :
    ∀ {geofences : List (UInt32 × Option UInt16)} {d : BiDict UInt16} {sessions : List UInt32},
      P d → P (knownLoop d sessions geofences).1 := by
  intro geofences
  induction geofences with
  | nil =>
      intro d sessions hd
      exact hd
  | cons geofence geofences ih =>
      intro d sessions hd
      obtain ⟨id, mask⟩ := geofence
      unfold knownLoop
      dsimp only
      by_cases hsession : 0 < d.getSession id
      · rw [if_pos hsession]
        cases mask with
        | none => exact ih hd
        | some mask => exact ih (hset mask hd (BiDict.mForwardMap_of_getSession hsession))
      · rw [if_neg hsession]
        exact ih hd

theorem shrinks_removeLoop {ids : List UInt32} {removed : BiDict UInt16} {sessions : List UInt32}
    (hd : d.Consistent) : Shrinks d (removeLoop d removed sessions ids).1 := by
  refine removeLoop_rule (P := Shrinks d) ?_ (.refl hd)
  intro d' id session h hid
  exact h.trans (h.consistent.rmBySession hid)

theorem shrinks_knownLoop {geofences : List (UInt32 × Option UInt16)} {sessions : List UInt32}
    (hd : d.Consistent) : Shrinks d (knownLoop d sessions geofences).1 := by
  refine knownLoop_rule (P := Shrinks d) ?_ (.refl hd)
  intro d' id session mask h hid
  exact h.trans (h.consistent.set_known hid mask)

/-! ### The methods -/

variable {c : GeofenceClient}

/-- The dictionary after an addition. -/
theorem locAPIAddGeofences_dict (c : GeofenceClient) (geofences : List (UInt32 × GeofenceOption))
    (sessions : Option (List UInt32)) :
    (c.locAPIAddGeofences geofences sessions).1.mGeofenceBiDict =
      if c.mLocationAPI then setAll c.mGeofenceBiDict (geofences.zip (sessions.getD []))
      else c.mGeofenceBiDict := by
  unfold locAPIAddGeofences
  cases c.mLocationAPI with
  | false => rfl
  | true =>
      cases sessions with
      | none =>
          rw [Option.getD_none, List.zip_nil_right]
          rfl
      | some sessions => rfl

theorem shrinks_locAPIRemoveGeofences (hc : c.mGeofenceBiDict.Consistent) (ids : List UInt32) :
    Shrinks c.mGeofenceBiDict (c.locAPIRemoveGeofences ids).1.mGeofenceBiDict := by
  unfold locAPIRemoveGeofences
  split
  · exact Shrinks.refl hc
  · split
    · dsimp only
      split
      · exact shrinks_removeLoop hc
      · exact shrinks_removeLoop hc
    · exact Shrinks.refl hc

/-- The methods that look ids up. -/
theorem shrinks_onKnown (hc : c.mGeofenceBiDict.Consistent)
    (geofences : List (UInt32 × Option UInt16)) (request : GeofenceRequest)
    (call : List UInt32 → GeofenceCall) :
    Shrinks c.mGeofenceBiDict (c.onKnown geofences request call).1.mGeofenceBiDict := by
  unfold onKnown
  split
  · exact Shrinks.refl hc
  · split
    · dsimp only
      split
      · exact shrinks_knownLoop hc
      · exact shrinks_knownLoop hc
    · exact Shrinks.refl hc

theorem shrinks_onCollectiveResponseCb (hc : c.mGeofenceBiDict.Consistent) :
    Shrinks c.mGeofenceBiDict c.onCollectiveResponseCb.mGeofenceBiDict := by
  unfold onCollectiveResponseCb
  split <;> exact Shrinks.refl hc

end GeofenceClient

/-! ### Runs -/

namespace GeofenceSystem

open GeofenceClient
open BiDict (Shrinks)

variable {s t : GeofenceSystem}

/-- Every session of the dictionary has been returned. -/
def Recorded (s : GeofenceSystem) : Prop :=
  ∀ session, s.client.mGeofenceBiDict.hasSession session = true → session ∈ s.used

/-- An addition whose sessions are new. -/
theorem step_addGeofences {geofences : List (UInt32 × GeofenceOption)} {sessions : List UInt32}
    (h : Returned s.used geofences sessions) :
    s.step (.addGeofences geofences (some sessions)) =
      some ⟨(s.client.locAPIAddGeofences geofences (some sessions)).1, sessions ++ s.used⟩ :=
  if_pos h

/-- A step other than an addition takes nothing new into the dictionary. -/
theorem step_cases {label : GeofenceLabel} (hs : s.Consistent) (ht : s.step label = some t) :
    (AddsNewIds s label ∧ t.used = s.used ∧
        Shrinks s.client.mGeofenceBiDict t.client.mGeofenceBiDict) ∨
      ∃ geofences sessions, label = .addGeofences geofences (some sessions) ∧
        Returned s.used geofences sessions ∧ t.used = sessions ++ s.used ∧
        t.client = (s.client.locAPIAddGeofences geofences (some sessions)).1 := by
  cases label with
  | addGeofences geofences sessions =>
      cases sessions with
      | none =>
          cases ht
          refine Or.inl ⟨trivial, rfl, ?_⟩
          dsimp only
          rw [locAPIAddGeofences_dict s.client geofences none, Option.getD_none,
            List.zip_nil_right]
          show Shrinks _ (if _ then s.client.mGeofenceBiDict else s.client.mGeofenceBiDict)
          rw [ite_self]
          exact Shrinks.refl hs
      | some sessions =>
          rw [step] at ht
          split at ht
          · cases ht
            exact Or.inr ⟨geofences, sessions, rfl, ‹_›, rfl, rfl⟩
          · cases ht
  | removeGeofences ids =>
      cases ht
      exact Or.inl ⟨trivial, rfl, shrinks_locAPIRemoveGeofences hs ids⟩
  | modifyGeofences geofences =>
      cases ht
      exact Or.inl ⟨trivial, rfl, shrinks_onKnown hs _ _ _⟩
  | pauseGeofences ids =>
      cases ht
      exact Or.inl ⟨trivial, rfl, shrinks_onKnown hs _ _ _⟩
  | resumeGeofences geofences =>
      cases ht
      exact Or.inl ⟨trivial, rfl, shrinks_onKnown hs _ _ _⟩
  | collectiveResponse =>
      cases ht
      exact Or.inl ⟨trivial, rfl, shrinks_onCollectiveResponseCb hs⟩

/-- A step keeps the sessions recorded. -/
theorem recorded_step {label : GeofenceLabel} (hs : s.Consistent) (hrecorded : s.Recorded)
    (ht : s.step label = some t) : t.Recorded := by
  intro session hsession
  rcases step_cases hs ht with
    ⟨-, hused, hshrinks⟩ | ⟨geofences, sessions, -, ⟨hlength, -, -⟩, hused, hclient⟩
  · rw [hused]
    exact hrecorded session (hshrinks.hasSession session hsession)
  · rw [hused, List.mem_append]
    rw [hclient, locAPIAddGeofences_dict, Option.getD_some] at hsession
    split at hsession
    · rcases hasSession_setAll hsession with hold | hnew
      · exact Or.inr (hrecorded session hold)
      · rw [List.map_snd_zip (Nat.le_of_eq hlength)] at hnew
        exact Or.inl hnew
    · exact Or.inr (hrecorded session hsession)

/-- A step keeps the dictionary a bijection exactly when it meets the condition. -/
theorem consistent_step_iff {label : GeofenceLabel} (hs : s.Consistent) (hrecorded : s.Recorded)
    (ht : s.step label = some t) : t.Consistent ↔ AddsNewIds s label := by
  rcases step_cases hs ht with
    ⟨hok, -, hshrinks⟩ | ⟨geofences, sessions, rfl, hreturned, -, hclient⟩
  · exact ⟨fun _ => hok, fun _ => hshrinks.consistent⟩
  · have ⟨hlength, hnodup, hnew⟩ := hreturned
    show t.client.mGeofenceBiDict.Consistent ↔ (Returned s.used geofences sessions → _)
    rw [imp_iff_right hreturned, hclient, locAPIAddGeofences_dict, Option.getD_some]
    cases hlocation : s.client.mLocationAPI with
    | false => exact ⟨fun _ => nofun, fun _ => hs⟩
    | true =>
        -- a session of the dictionary has been returned, so it is not returned again
        have hfresh : ∀ session ∈ (geofences.zip sessions).map Prod.snd,
            s.client.mGeofenceBiDict.hasSession session = false := by
          intro session hsession
          rw [List.map_snd_zip (Nat.le_of_eq hlength)] at hsession
          exact Bool.eq_false_iff.mpr fun h => (hnew session hsession).2 (hrecorded session h)
        have hids : ((geofences.zip sessions).map fun geofence => geofence.1.1) =
            geofences.map Prod.fst := by
          show (geofences.zip sessions).map (Prod.fst ∘ Prod.fst) = _
          rw [← List.map_map, List.map_fst_zip (Nat.le_of_eq hlength.symm)]
        rw [if_pos rfl, imp_iff_right rfl, consistent_setAll_iff hs _ hfresh, hids]
        rw [List.map_snd_zip (Nat.le_of_eq hlength)]
        exact hnodup

/-- For every sequence of calls and responses, with sessions that are new each time: the geofence
dictionary is a bijection all along the run, if and only if every addition meets the condition.

An entry for an id that the dictionary has overwrites one of the two maps and leaves the old session
in the other. So the ids of an addition have to be new, and different from each other. -/
theorem along_consistent_iff (mLocationAPI : Bool) (labels : List GeofenceLabel) :
    Along step Consistent (new mLocationAPI) labels ↔
      Guarded step AddsNewIds (new mLocationAPI) labels := by
  refine along_iff_guarded (I := fun s : GeofenceSystem => s.Consistent ∧ s.Recorded) ?_ ?_ ?_ ?_
    labels _ ?_
  · rintro s ⟨hs, -⟩
    exact hs
  · rintro s label t ⟨hs, hrecorded⟩ hok ht
    exact ⟨(consistent_step_iff hs hrecorded ht).mpr hok, recorded_step hs hrecorded ht⟩
  · rintro s label t ⟨hs, hrecorded⟩ ht hP
    exact (consistent_step_iff hs hrecorded ht).mp hP
  · intro s label _ hnone
    cases label with
    | addGeofences geofences sessions =>
        cases sessions with
        | none => exact trivial
        | some sessions =>
            intro hreturned
            cases (step_addGeofences hreturned).symm.trans hnone
    | _ => exact trivial
  · refine ⟨BiDict.consistent_empty, ?_⟩
    intro session hsession
    cases hsession

/-- A geofence that is added twice. -/
def addedTwice : List GeofenceLabel :=
  [.addGeofences [(7, ⟨1, 0, 0⟩)] (some [1]), .addGeofences [(7, ⟨1, 0, 0⟩)] (some [2])]

/-- The first session still names the geofence, which has the second one. -/
theorem not_along_addedTwice : ¬ Along step Consistent (new true) addedTwice := by
  rw [along_consistent_iff]
  intro h
  have hfirst : Returned [] [(7, ⟨1, 0, 0⟩)] [1] := ⟨rfl, by simp, by simp⟩
  have hsecond : Returned [1] [(7, ⟨1, 0, 0⟩)] [2] := ⟨rfl, by simp, by simp⟩
  have hnew := ((h.2 _ (step_addGeofences hfirst)).1 hsecond rfl).2 7 List.mem_cons_self
  have hold : ((BiDict.empty : BiDict UInt16).set 7 1 1).hasId 7 = true := by
    rw [BiDict.hasId_set, decide_eq_true rfl, Bool.or_true]
  exact absurd (hold.symm.trans hnew) (by decide)

end GeofenceSystem

end LocHal.Location
