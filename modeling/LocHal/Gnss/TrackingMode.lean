import Mathlib.Data.Finset.Dedup
import Mathlib.Data.Finset.Max
import LocHal.Gnss.TrackingEngine

/-!
# `LocHal.Gnss.TrackingMode`: the mode that the engine runs in

When every call of the modem succeeds, the engine has the smallest interval of the sessions
(`TrackingEngine`). Its mode is another matter: the multiplexers call the engine on a smaller or a
larger interval only, so among sessions with equal intervals the mode of a session that is gone can
stay (`not_along_sameInterval`).

`Served` is the property. `along_served_iff` gives the exact condition on each message. For an
update and for a stop it is `HasMode`: a session with the mode of the engine is left. A client that
leaves is stopped session by session; its last session that is smaller than all sessions of the
others decides (`ToVisit.engine_foldl`).

`ModeInv` is the invariant of the runs that keep to the condition. It has the property, and the
invariant of `TrackingMultiplex`, since the condition of that module follows: a start that leaves a
session with the mode of the engine keeps the minimum (`keepsMinimum_of_hasMode`). `Decides` is what
is proved for each kind of message: its condition holds exactly if the property holds after it, and
then so does the invariant.

The removal of a client is the long case. Its rounds go through the sessions in the order of their
keys, and a round restarts the engine when the session that it stops is smaller than all that are
left. Only the last restart counts. `ToVisit` is the state in the middle of the loop, and
`exists_last_alone` picks the session of the last restart.
-/

set_option autoImplicit false

namespace LocHal.Gnss

open LabelledRun

namespace GnssAdapter

variable {κ : Type} [LinearOrder κ]

/-- The processing of a message, when the calls of the modem succeed. -/
def procStep (s : GnssAdapter κ) (msg : AdapterMsg κ) : Option (GnssAdapter κ) := some (s.proc msg)

/-- One of the sessions has the mode of the engine. The engine keeps its mode where the code sees no
reason to restart it, so what is left has to fit it. -/
def HasMode (engine : Option LocPosMode)
    (sessions : SortedMap (LocationSessionKey κ) LocationOptions) : Prop :=
  ∃ e ∈ sessions, engine = some (convertOptions e.2)

/-- The engine runs in the mode of a session with the smallest interval. Several sessions may have
that interval, with different modes, and any of them will do. -/
def Served (s : GnssAdapter κ) : Prop :=
  s.mTrackingSessions.isEmpty = false →
    ∃ e ∈ s.mTrackingSessions, s.mLocApi.engine = some (convertOptions e.2) ∧
      ∀ e' ∈ s.mTrackingSessions, e.2.minInterval ≤ e'.2.minInterval

/-! ### The condition -/

/-- The session of the client is smaller than every session of the other clients. The sessions of
the client are removed one after the other, and this is when the engine is restarted for one of
them. -/
def Alone (s : GnssAdapter κ) (client : κ) (e : LocationSessionKey κ × LocationOptions) : Prop :=
  e ∈ s.mTrackingSessions ∧ e.1.client = client ∧
    ∀ r ∈ s.mTrackingSessions, r.1.client ≠ client → e.2.minInterval < r.2.minInterval

/-- A session of another client has the mode. -/
def OtherHasMode (s : GnssAdapter κ) (client : κ) (engine : Option LocPosMode) : Prop :=
  ∃ r ∈ s.mTrackingSessions, r.1.client ≠ client ∧ engine = some (convertOptions r.2)

/-- The sessions that are left after the one with the key, when the client is removed. -/
def leftAfter (client : κ) (key : LocationSessionKey κ) (k : LocationSessionKey κ) : Bool :=
  k.client ≠ client || key < k

/-- The condition on one message. The code compares intervals only, so the mode goes wrong when the
session that the engine serves changes or goes, and another one with the same interval and another
mode is left.

An accepted start sets the mode of its own session if its interval is smaller than all others.
Otherwise the engine is left alone, and its mode must be that of one of the sessions, of which the
new one replaces another if the id is in use. An update and a stop restart the engine when the
session is the only one, or when its interval, old or new, is smaller than the smallest of the
others. Otherwise the sessions that are left must have the mode of the engine. The removal of a
client stops its sessions one after the other. If none of them is smaller than the sessions of the
other clients, the engine is never restarted, so another client must have its mode. If some are, the
last one of them restarts the engine with the first smallest session that it finds, which may be one
of the client that goes. A restart starts the engine with the first smallest session, which is
always right. -/
def KeepsMode (s : GnssAdapter κ) : AdapterMsg κ → Prop
  | .addClient _ _ => True
  | .startTracking client id options =>
      s.accepts client options = true →
        (∀ e ∈ s.mTrackingSessions, options.minInterval < e.2.minInterval) ∨
          HasMode s.mLocApi.engine (s.mTrackingSessions.insert ⟨client, id⟩ options)
  | .updateTracking client id options =>
      ∀ old ∈ s.mTrackingSessions.find ⟨client, id⟩, options.size ≠ 0 →
        s.mTrackingSessions.size = 1 ∨
          options.minInterval < (s.otherSmallest ⟨client, id⟩).minInterval ∨
          old.minInterval < (s.otherSmallest ⟨client, id⟩).minInterval ∨
          HasMode s.mLocApi.engine (s.mTrackingSessions.insert ⟨client, id⟩ options)
  | .stopTracking client id =>
      ∀ old ∈ s.mTrackingSessions.find ⟨client, id⟩,
        s.mTrackingSessions.size = 1 ∨
          old.minInterval < (s.otherSmallest ⟨client, id⟩).minInterval ∨
          HasMode s.mLocApi.engine (s.mTrackingSessions.erase ⟨client, id⟩)
  | .removeClient client =>
      (∃ r ∈ s.mTrackingSessions, r.1.client ≠ client) →
        ((∀ e, ¬ s.Alone client e) → s.OtherHasMode client s.mLocApi.engine) ∧
        -- the last session that is alone restarts the engine
        ∀ e, s.Alone client e → (∀ e', s.Alone client e' → e'.1 ≤ e.1) →
          s.OtherHasMode client (some (convertOptions
            (smallestIntervalOptions s.mTrackingSessions (leftAfter client e.1))))
  | .restartSessions => True

variable {sessions : SortedMap (LocationSessionKey κ) LocationOptions}
  {key : LocationSessionKey κ} {options old : LocationOptions} {s t : GnssAdapter κ} {client : κ}
  {id : Nat} {engine : Option LocPosMode}

/-! ### The property -/

/-- With the smallest interval in the engine, the property is about the mode. -/
theorem served_iff (hs : TrackingInv s) :
    Served s ↔ (s.mTrackingSessions.isEmpty = false →
      HasMode s.mLocApi.engine s.mTrackingSessions) := by
  refine imp_congr_right fun hne => ?_
  constructor
  · rintro ⟨e, he, hmode, -⟩
    exact ⟨e, he, hmode⟩
  · rintro ⟨e, he, hmode⟩
    have hleast := hs.follows.minimum _ hmode
    exact ⟨e, he, hmode, (isLeast_intervals.mp hleast).2⟩

/-- What holds as long as every message keeps the mode. -/
structure ModeInv (s : GnssAdapter κ) : Prop where
  tracking : TrackingInv s
  answers : s.mLocApi.answers = []
  served : Served s

theorem modeInv_new : ModeInv (new : GnssAdapter κ) where
  tracking := trackingInv_new
  answers := rfl
  served := fun h => by cases h

/-- A start that succeeds. -/
theorem startTracking_eq (ha : s.mLocApi.answers = []) (options : LocationOptions) :
    ∃ ulp, s.startTracking options = ({ s with
      mUlpProxy := ulp, mLocApi := ⟨some (convertOptions options), []⟩ }, .success) := by
  refine ⟨⟨some (convertOptions options), true⟩, ?_⟩
  unfold startTracking LocApiBase.startFix
  dsimp only [UlpProxyBase.sendFixMode, UlpProxyBase.sendStartFix]
  rw [ha]
  rfl

/-- A stop that succeeds. -/
theorem stopTracking_eq (ha : s.mLocApi.answers = []) :
    ∃ ulp, s.stopTracking = ({ s with mUlpProxy := ulp, mLocApi := ⟨none, []⟩ }, .success) := by
  refine ⟨{ s.mUlpProxy with mFixSet := false }, ?_⟩
  unfold stopTracking LocApiBase.stopFix
  dsimp only [UlpProxyBase.sendStopFix]
  rw [ha]
  rfl

/-! ### The messages -/

/-- The engine, the sessions and the answers after a message. -/
structure Outcome (t : GnssAdapter κ) (engine : Option LocPosMode)
    (sessions : SortedMap (LocationSessionKey κ) LocationOptions) : Prop where
  engine : t.mLocApi.engine = engine
  sessions : t.mTrackingSessions = sessions
  answers : t.mLocApi.answers = []

/-- A response does not matter. -/
theorem Outcome.reportResponse (h : Outcome t engine sessions) (client : κ) (err : LocationError)
    (id : Nat) : Outcome (t.reportResponse client err id) engine sessions := by
  obtain ⟨hengine, hsessions, hanswers⟩ := h
  constructor
  · rw [mLocApi_reportResponse]
    exact hengine
  · rw [mTrackingSessions_reportResponse]
    exact hsessions
  · rw [mLocApi_reportResponse]
    exact hanswers

theorem isTrackingSession_of_mem (hold : (⟨client, id⟩, old) ∈ s.mTrackingSessions) :
    s.isTrackingSession client id = true := by
  unfold isTrackingSession
  rw [SortedMap.find_eq_some.mpr hold]
  rfl

/-- Without the session there is nothing to update. -/
theorem procUpdateTracking_of_find (hfind : s.mTrackingSessions.find ⟨client, id⟩ = none)
    (options : LocationOptions) : s.procUpdateTracking client id options = s := by
  unfold procUpdateTracking isTrackingSession
  rw [hfind]
  rfl

/-- Without the session there is nothing to stop. -/
theorem procStopTracking_of_find (hfind : s.mTrackingSessions.find ⟨client, id⟩ = none) :
    s.procStopTracking client id = s := by
  unfold procStopTracking isTrackingSession
  rw [hfind]
  rfl

/-- A session is saved and the engine is left alone. -/
theorem outcome_saveTrackingSession (ha : s.mLocApi.answers = []) (client : κ) (id : Nat)
    (options : LocationOptions) :
    Outcome (s.saveTrackingSession client id options) s.mLocApi.engine
      (s.mTrackingSessions.insert ⟨client, id⟩ options) :=
  ⟨rfl, rfl, ha⟩

theorem outcome_procStartTracking (hs : TrackingInv s) (ha : s.mLocApi.answers = [])
    (id : Nat) (haccepts : s.accepts client options = true) :
    (∀ e ∈ s.mTrackingSessions, options.minInterval < e.2.minInterval) ∧
      Outcome (s.procStartTracking client id options) (some (convertOptions options))
        (s.mTrackingSessions.insert ⟨client, id⟩ options) ∨
    ¬ (∀ e ∈ s.mTrackingSessions, options.minInterval < e.2.minInterval) ∧
      Outcome (s.procStartTracking client id options) s.mLocApi.engine
        (s.mTrackingSessions.insert ⟨client, id⟩ options) := by
  rcases procStartTracking_cases s client id options with ⟨hrejects, -⟩ | ⟨-, heq⟩
  · exact absurd (hrejects.symm.trans haccepts) Bool.false_ne_true
  · rw [heq]
    rcases startTrackingMultiplex_eq hs options with ⟨hall, hmulti⟩ | ⟨⟨e, he, hle⟩, hmulti⟩
    · obtain ⟨ulp, hstart⟩ := startTracking_eq ha options
      rw [hmulti, hstart]
      exact Or.inl ⟨hall, Outcome.reportResponse ⟨rfl, rfl, rfl⟩ client _ id⟩
    · rw [hmulti]
      refine Or.inr ⟨fun hall => ?_,
        (outcome_saveTrackingSession ha client id options).reportResponse client _ id⟩
      exact absurd (hall e he) (not_lt.mpr hle)

theorem outcome_procUpdateTracking (ha : s.mLocApi.answers = [])
    (hold : (⟨client, id⟩, old) ∈ s.mTrackingSessions) (hsize : options.size ≠ 0) :
    Outcome (s.procUpdateTracking client id options)
      (if s.mTrackingSessions.size = 1 then some (convertOptions options)
        else if options.minInterval < (s.otherSmallest ⟨client, id⟩).minInterval then
          some (convertOptions options)
        else if old.minInterval < (s.otherSmallest ⟨client, id⟩).minInterval then
          some (convertOptions (s.otherSmallest ⟨client, id⟩))
        else s.mLocApi.engine)
      (s.mTrackingSessions.insert ⟨client, id⟩ options) := by
  have hstart := startTracking_eq ha
  unfold procUpdateTracking
  rw [if_pos (isTrackingSession_of_mem hold), if_neg hsize,
    updateTrackingMultiplex_of_mem options hold]
  dsimp only
  split
  · obtain ⟨ulp, heq⟩ := hstart options
    rw [heq]
    exact Outcome.reportResponse ⟨rfl, rfl, rfl⟩ client _ id
  · split
    · obtain ⟨ulp, heq⟩ := hstart options
      rw [heq]
      exact Outcome.reportResponse ⟨rfl, rfl, rfl⟩ client _ id
    · split
      · obtain ⟨ulp, heq⟩ := hstart (s.otherSmallest ⟨client, id⟩)
        rw [heq]
        exact Outcome.reportResponse ⟨rfl, rfl, rfl⟩ client _ id
      · exact (outcome_saveTrackingSession ha client id options).reportResponse client _ id

/-- The engine after the stop of a session. -/
def engineAfterStop (s : GnssAdapter κ) (key : LocationSessionKey κ) (old : LocationOptions) :
    Option LocPosMode :=
  if s.mTrackingSessions.size = 1 then none
  else if old.minInterval < (s.otherSmallest key).minInterval then
    some (convertOptions (s.otherSmallest key))
  else s.mLocApi.engine

/-- The multiplexer for a stop succeeds, so the session is erased. -/
theorem stopTrackingMultiplex_outcome (ha : s.mLocApi.answers = [])
    (hold : (⟨client, id⟩, old) ∈ s.mTrackingSessions) :
    (s.stopTrackingMultiplex client id).2 = .success ∧
      Outcome ((s.stopTrackingMultiplex client id).1.eraseTrackingSession client id)
        (s.engineAfterStop ⟨client, id⟩ old) (s.mTrackingSessions.erase ⟨client, id⟩) := by
  unfold engineAfterStop
  rw [stopTrackingMultiplex_of_mem hold]
  split
  · obtain ⟨ulp, heq⟩ := stopTracking_eq ha
    rw [heq]
    exact ⟨rfl, rfl, rfl, rfl⟩
  · split
    · obtain ⟨ulp, heq⟩ := startTracking_eq ha (s.otherSmallest ⟨client, id⟩)
      rw [heq]
      exact ⟨rfl, rfl, rfl, rfl⟩
    · exact ⟨rfl, rfl, rfl, ha⟩

theorem outcome_procStopTracking (ha : s.mLocApi.answers = [])
    (hold : (⟨client, id⟩, old) ∈ s.mTrackingSessions) :
    Outcome (s.procStopTracking client id) (s.engineAfterStop ⟨client, id⟩ old)
      (s.mTrackingSessions.erase ⟨client, id⟩) := by
  obtain ⟨hsuccess, houtcome⟩ := stopTrackingMultiplex_outcome ha hold
  unfold procStopTracking
  rw [if_pos (isTrackingSession_of_mem hold)]
  dsimp only
  rw [if_pos hsuccess]
  exact houtcome.reportResponse client _ id

/-! ### A client that leaves -/

/-- The loop looks at the selected sessions only. -/
theorem smallestIntervalOptions_congr {other other' : LocationSessionKey κ → Bool}
    (h : ∀ e ∈ sessions, other e.1 = other' e.1) :
    smallestIntervalOptions sessions other = smallestIntervalOptions sessions other' := by
  unfold smallestIntervalOptions
  refine List.foldl_ext _ _ _ fun smallest e he => ?_
  unfold smallestStep
  rw [h e he]

/-- A session that is not selected can be erased. -/
theorem smallestIntervalOptions_erase {other : LocationSessionKey κ → Bool}
    (h : other key = false) :
    smallestIntervalOptions (sessions.erase key) other =
      smallestIntervalOptions sessions other := by
  unfold smallestIntervalOptions SortedMap.erase
  rw [List.foldl_filter]
  refine List.foldl_ext _ _ _ fun smallest e _ => ?_
  split
  · rfl
  · rename_i hkey
    have heq : e.1 = key := by simpa using hkey
    unfold smallestStep
    rw [heq, h]
    rfl

/-- The round of the loop for a session of the client. -/
theorem outcome_stopClientSession (ha : s.mLocApi.answers = [])
    (hold : (key, old) ∈ s.mTrackingSessions) :
    Outcome (stopClientSession key.client s key) (s.engineAfterStop key old)
      (s.mTrackingSessions.erase key) := by
  obtain ⟨hsuccess, houtcome⟩ := stopTrackingMultiplex_outcome ha hold
  unfold stopClientSession
  rw [if_pos rfl]
  dsimp only
  rw [if_pos hsuccess]
  exact houtcome

/-- The session of another client is smaller than the one that is stopped or as small. So the
engine is left alone. -/
theorem engineAfterStop_of_le (hs : TrackingInv s) (hold : (key, old) ∈ s.mTrackingSessions)
    {r : LocationSessionKey κ × LocationOptions} (hr : r ∈ s.mTrackingSessions) (hne : r.1 ≠ key)
    (hle : r.2.minInterval ≤ old.minInterval) : s.engineAfterStop key old = s.mLocApi.engine := by
  have hsize : s.mTrackingSessions.size ≠ 1 := fun hone =>
    hne (congrArg Prod.fst (SortedMap.eq_of_size_one hone hr hold))
  obtain ⟨-, hsmallest⟩ := otherSmallest_spec hs.size hsize hold
  unfold engineAfterStop
  rw [if_neg hsize, if_neg (not_lt.mpr ((hsmallest r hr hne).trans hle))]

/-- The sessions that are alone after one session of the client has been erased. -/
theorem alone_erase (hsessions : t.mTrackingSessions = s.mTrackingSessions.erase key)
    (hkey : key.client = client) (e : LocationSessionKey κ × LocationOptions) :
    t.Alone client e ↔ e.1 ≠ key ∧ s.Alone client e := by
  obtain ⟨k, o⟩ := e
  unfold Alone
  rw [hsessions, SortedMap.mem_erase]
  constructor
  · rintro ⟨⟨hne, hmem⟩, hclient, hsmaller⟩
    refine ⟨hne, hmem, hclient, fun r hr hother => hsmaller r ?_ hother⟩
    exact SortedMap.mem_erase.mpr ⟨fun heq => hother (heq ▸ hkey), hr⟩
  · rintro ⟨hne, hmem, hclient, hsmaller⟩
    exact ⟨⟨hne, hmem⟩, hclient, fun r hr hother => hsmaller r (SortedMap.mem_erase.mp hr).2 hother⟩

/-- The last session that is alone restarts the engine, for the first one of the smallest that are
left then. -/
theorem engineAfterStop_of_alone (hs : TrackingInv s) (halone : s.Alone client (key, old))
    (hlast : ∀ e, s.Alone client e → e.1 ≤ key) (hother : ∃ r ∈ s.mTrackingSessions,
      r.1.client ≠ client)
    (hfirst : ∀ e ∈ s.mTrackingSessions, e.1.client = client → key ≤ e.1) :
    s.engineAfterStop key old = some (convertOptions
      (smallestIntervalOptions s.mTrackingSessions (leftAfter client key))) := by
  obtain ⟨hold, hkey, hsmaller⟩ := halone
  replace hkey : key.client = client := hkey
  obtain ⟨r, hr, hrclient⟩ := hother
  have hrne : r.1 ≠ key := fun heq => hrclient (heq ▸ hkey)
  have hsize : s.mTrackingSessions.size ≠ 1 := fun hone =>
    hrne (congrArg Prod.fst (SortedMap.eq_of_size_one hone hr hold))
  obtain ⟨⟨a, ha, hakey, haeq⟩, -⟩ := otherSmallest_spec hs.size hsize hold
  -- the smallest one of the others is larger
  have hlt : old.minInterval < (s.otherSmallest key).minInterval := by
    rw [← haeq]
    by_cases haclient : a.1.client = client
    · have hnot : ¬ s.Alone client a := fun h =>
        hakey (le_antisymm (hlast a h) (hfirst a ha haclient))
      unfold Alone at hnot
      push Not at hnot
      obtain ⟨r', hr', hr'client, hle⟩ := hnot ha haclient
      exact (hsmaller r' hr' hr'client).trans_le hle
    · exact hsmaller a ha haclient
  unfold engineAfterStop
  rw [if_neg hsize, if_pos hlt]
  refine congrArg (fun o => some (convertOptions o)) (smallestIntervalOptions_congr fun e he => ?_)
  unfold leftAfter
  by_cases hclient : e.1.client = client
  · have hle := hfirst e he hclient
    by_cases heq : e.1 = key
    · simp [heq, hkey]
    · simp [heq, hclient, lt_of_le_of_ne hle (Ne.symm heq)]
  · have hne : e.1 ≠ key := fun heq => hclient (heq ▸ hkey)
    simp [hclient, hne]

/-- Before the loop visits `keys`: they are the keys of sessions, in order, and those of the client
are among them. -/
structure ToVisit (client : κ) (keys : List (LocationSessionKey κ)) (s : GnssAdapter κ) :
    Prop where
  sorted : keys.Pairwise (· < ·)
  answers : s.mLocApi.answers = []
  listed : ∀ key ∈ keys, ∃ old, (key, old) ∈ s.mTrackingSessions
  all : ∀ e ∈ s.mTrackingSessions, e.1.client = client → e.1 ∈ keys

namespace ToVisit

variable {keys : List (LocationSessionKey κ)}

/-- The loop visits all sessions. -/
theorem init (ha : s.mLocApi.answers = []) (client : κ) :
    ToVisit client (s.mTrackingSessions.toList.map Prod.fst) s where
  sorted := List.pairwise_map.mpr s.mTrackingSessions.sorted
  answers := ha
  listed key hkey := by
    obtain ⟨⟨k, v⟩, hmem, rfl⟩ := List.mem_map.mp hkey
    exact ⟨v, hmem⟩
  all e he _ := List.mem_map.mpr ⟨e, he, rfl⟩

/-- The client has no session when the loop has ended. -/
theorem ne_client (h : ToVisit client [] s) {e : LocationSessionKey κ × LocationOptions}
    (he : e ∈ s.mTrackingSessions) : e.1.client ≠ client :=
  fun hclient => absurd (h.all e he hclient) List.not_mem_nil

/-- A round that stops a session of the client. -/
theorem stop (h : ToVisit key.client (key :: keys) s) :
    ToVisit key.client keys (stopClientSession key.client s key) := by
  obtain ⟨hfirst, hrest⟩ := List.pairwise_cons.mp h.sorted
  obtain ⟨old, hold⟩ := h.listed key List.mem_cons_self
  obtain ⟨-, hsessions, hanswers⟩ := outcome_stopClientSession h.answers hold
  refine ⟨hrest, hanswers, fun k hk => ?_, fun e he hsame => ?_⟩
  · obtain ⟨v, hv⟩ := h.listed k (List.mem_cons_of_mem _ hk)
    rw [hsessions]
    exact ⟨v, SortedMap.mem_erase.mpr ⟨(hfirst k hk).ne', hv⟩⟩
  · rw [hsessions] at he
    obtain ⟨hne, he⟩ := SortedMap.mem_erase.mp he
    exact (List.mem_cons.mp (h.all e he hsame)).resolve_left hne

/-- A round for a session of another client does nothing. -/
theorem skip (h : ToVisit client (key :: keys) s) (hkey : key.client ≠ client) :
    stopClientSession client s key = s ∧ ToVisit client keys s := by
  have hskip : stopClientSession client s key = s := by
    unfold stopClientSession
    rw [if_neg (Ne.symm hkey)]
  refine ⟨hskip, (List.pairwise_cons.mp h.sorted).2, h.answers,
    fun k hk => h.listed k (List.mem_cons_of_mem _ hk), fun e he hsame => ?_⟩
  exact (List.mem_cons.mp (h.all e he hsame)).resolve_left fun heq => hkey (heq ▸ hsame)

/-- The sessions of the other clients are left. -/
theorem sessions_foldl (h : ToVisit client keys s) :
    (keys.foldl (stopClientSession client) s).mLocApi.answers = [] ∧
      ∀ e, e ∈ (keys.foldl (stopClientSession client) s).mTrackingSessions ↔
        e ∈ s.mTrackingSessions ∧ e.1.client ≠ client := by
  induction keys generalizing s with
  | nil => exact ⟨h.answers, fun e => ⟨fun he => ⟨he, h.ne_client he⟩, And.left⟩⟩
  | cons key keys ih =>
      rw [List.foldl_cons]
      by_cases hkey : key.client = client
      · subst hkey
        obtain ⟨old, hold⟩ := h.listed key List.mem_cons_self
        have hsessions := (outcome_stopClientSession h.answers hold).sessions
        obtain ⟨hdone, hleft⟩ := ih h.stop
        refine ⟨hdone, fun e => (hleft e).trans ?_⟩
        obtain ⟨k, o⟩ := e
        rw [hsessions, SortedMap.mem_erase]
        constructor
        · rintro ⟨⟨-, he⟩, hother⟩
          exact ⟨he, hother⟩
        · rintro ⟨he, hother⟩
          exact ⟨⟨fun heq => hother (heq ▸ rfl), he⟩, hother⟩
      · obtain ⟨hskip, hrest⟩ := h.skip hkey
        rw [hskip]
        exact ih hrest

/-- The engine after the loop, when another client has a session. -/
theorem engine_foldl (h : ToVisit client keys s) (hs : TrackingInv s)
    (hother : ∃ r ∈ s.mTrackingSessions, r.1.client ≠ client) :
    ((∀ e, ¬ s.Alone client e) →
      (keys.foldl (stopClientSession client) s).mLocApi.engine = s.mLocApi.engine) ∧
    ∀ e, s.Alone client e → (∀ e', s.Alone client e' → e'.1 ≤ e.1) →
      (keys.foldl (stopClientSession client) s).mLocApi.engine = some (convertOptions
        (smallestIntervalOptions s.mTrackingSessions (leftAfter client e.1))) := by
  induction keys generalizing s with
  | nil => exact ⟨fun _ => rfl, fun e halone _ => absurd halone.2.1 (h.ne_client halone.1)⟩
  | cons key keys ih =>
      rw [List.foldl_cons]
      by_cases hkey : key.client = client
      · subst hkey
        have hfirst := (List.pairwise_cons.mp h.sorted).1
        obtain ⟨old, hold⟩ := h.listed key List.mem_cons_self
        obtain ⟨hengine, hsessions, -⟩ := outcome_stopClientSession h.answers hold
        obtain ⟨hinv, -⟩ := trackingInv_stopClientSession hs hold key.client
        -- the sessions of the client are stopped in order of their keys
        have halone := alone_erase hsessions rfl
        have hothers : ∃ r ∈ s.mTrackingSessions.erase key, r.1.client ≠ key.client := by
          obtain ⟨r, hr, hrclient⟩ := hother
          exact ⟨r, SortedMap.mem_erase.mpr ⟨fun heq => hrclient (heq ▸ rfl), hr⟩, hrclient⟩
        have hnext := ih h.stop hinv (hsessions ▸ hothers)
        rw [hsessions] at hnext
        obtain ⟨hkept, hrestart⟩ := hnext
        constructor
        · intro hnone
          rw [hkept fun e he => hnone e ((halone e).mp he).2, hengine]
          -- this session is not alone either
          have hnot := hnone (key, old)
          unfold Alone at hnot
          push Not at hnot
          obtain ⟨r, hr, hrclient, hle⟩ := hnot hold rfl
          exact engineAfterStop_of_le hs hold hr (fun heq => hrclient (heq ▸ rfl)) hle
        · intro e he hlast
          by_cases heq : e.1 = key
          · -- the session is the last one that is alone
            obtain ⟨k, o⟩ := e
            cases heq
            obtain rfl : o = old := SortedMap.mem_unique he.1 hold
            rw [hkept fun e' he' => ?_, hengine]
            · refine engineAfterStop_of_alone hs he hlast hother fun e' he' hsame => ?_
              rcases List.mem_cons.mp (h.all e' he' hsame) with h | h
              · exact h.ge
              · exact (hfirst _ h).le
            · obtain ⟨hne, he'⟩ := (halone e').mp he'
              have hle := hlast e' he'
              rcases List.mem_cons.mp (h.all e' he'.1 he'.2.1) with h | h
              · exact hne h
              · exact absurd (hfirst _ h) (not_lt.mpr hle)
          · -- a later session of the client is the last one
            rw [hrestart e ((halone e).mpr ⟨heq, he⟩) fun e' he' => hlast e' ((halone e').mp he').2]
            refine congrArg (fun o => some (convertOptions o)) (smallestIntervalOptions_erase ?_)
            have hmem := (List.mem_cons.mp (h.all e he.1 he.2.1)).resolve_left heq
            have hlt : key < e.1 := hfirst _ hmem
            simp [leftAfter, hlt.le]
      · -- a session of another client stays
        obtain ⟨hskip, hrest⟩ := h.skip hkey
        rw [hskip]
        exact ih hrest hs hother

end ToVisit

/-- Among the sessions that are alone there is a last one. -/
theorem exists_last_alone (h : ∃ e, s.Alone client e) :
    ∃ e, s.Alone client e ∧ ∀ e', s.Alone client e' → e'.1 ≤ e.1 := by
  classical
  obtain ⟨e, he⟩ := h
  have hne : ((s.mTrackingSessions.toList.filter (s.Alone client)).toFinset).Nonempty :=
    ⟨e, List.mem_toFinset.mpr (List.mem_filter.mpr ⟨he.1, decide_eq_true he⟩)⟩
  obtain ⟨a, ha, hmax⟩ := Finset.exists_max_image _ Prod.fst hne
  rw [List.mem_toFinset, List.mem_filter] at ha
  refine ⟨a, of_decide_eq_true ha.2, fun e' he' => hmax e' ?_⟩
  exact List.mem_toFinset.mpr (List.mem_filter.mpr ⟨he'.1, decide_eq_true he'⟩)

/-- Removing a client keeps the mode if and only if the condition holds. -/
theorem served_stopClientSessions_iff (hs : TrackingInv s) (ha : s.mLocApi.answers = [])
    (client : κ) :
    Served (s.stopClientSessions client) ↔ KeepsMode s (.removeClient client) := by
  have hvisit := ToVisit.init ha client
  obtain ⟨-, hleft⟩ := hvisit.sessions_foldl
  have hengine := hvisit.engine_foldl hs
  change (∀ e, e ∈ (s.stopClientSessions client).mTrackingSessions ↔ _) at hleft
  rw [served_iff (trackingInv_stopClientSessions hs client), SortedMap.isEmpty_eq_false_iff]
  simp only [HasMode, hleft]
  refine imp_congr_right fun hother => ?_
  replace hengine := hengine hother
  change ((_ → (s.stopClientSessions client).mLocApi.engine = _) ∧
    ∀ e, _ → _ → (s.stopClientSessions client).mLocApi.engine = _) at hengine
  obtain ⟨hkept, hrestart⟩ := hengine
  have hmode : (∃ e, (e ∈ s.mTrackingSessions ∧ e.1.client ≠ client) ∧
      (s.stopClientSessions client).mLocApi.engine = some (convertOptions e.2)) ↔
      s.OtherHasMode client (s.stopClientSessions client).mLocApi.engine :=
    exists_congr fun e => and_assoc
  rw [hmode]
  constructor
  · intro h
    refine ⟨fun hnone => ?_, fun e he hlast => ?_⟩
    · rw [← hkept hnone]
      exact h
    · rw [← hrestart e he hlast]
      exact h
  · rintro ⟨hsame, hlast⟩
    by_cases hnone : ∀ e, ¬ s.Alone client e
    · rw [hkept hnone]
      exact hsame hnone
    · push Not at hnone
      obtain ⟨e, he, hmax⟩ := exists_last_alone hnone
      rw [hrestart e he hmax]
      exact hlast e he hmax

/-! ### One message -/

/-- The property after a message, from what the message leaves. -/
theorem Outcome.served_iff (h : Outcome t engine sessions) (ht : TrackingInv t) :
    Served t ↔ (sessions.isEmpty = false → HasMode engine sessions) := by
  have hserved := GnssAdapter.served_iff ht
  rwa [h.engine, h.sessions] at hserved

/-- The condition is the exact one for the message, and the invariant goes with the property. -/
structure Decides (s : GnssAdapter κ) (msg : AdapterMsg κ) : Prop where
  iff : Served (s.proc msg) ↔ KeepsMode s msg
  inv : Served (s.proc msg) → ModeInv (s.proc msg)

/-- A message that only makes a response. -/
theorem Outcome.same (h : ModeInv s) (hout : Outcome t s.mLocApi.engine s.mTrackingSessions) :
    ModeInv t := by
  have htracking := h.tracking.congr hout.engine hout.sessions
  refine ⟨htracking, hout.answers, (hout.served_iff htracking).mpr ?_⟩
  exact (GnssAdapter.served_iff h.tracking).mp h.served

/-- The condition holds, and so does the property. -/
theorem decides_of_modeInv {msg : AdapterMsg κ} (hinv : ModeInv (s.proc msg))
    (hok : KeepsMode s msg) : Decides s msg :=
  ⟨iff_of_true hinv.served hok, fun _ => hinv⟩

/-- A start that leaves a session with the mode of the engine keeps the minimum. -/
theorem keepsMinimum_of_hasMode (hs : TrackingInv s)
    (hmode : HasMode s.mLocApi.engine (s.mTrackingSessions.insert key options)) :
    s.KeepsMinimum key options := by
  intro old hfind hgrow
  have hold := SortedMap.find_eq_some.mp hfind
  obtain ⟨⟨k, o⟩, he, hengine⟩ := hmode
  have hleast := isLeast_intervals.mp (hs.follows.minimum _ hengine)
  have hle : o.minInterval ≤ old.minInterval := hleast.2 _ hold
  rcases SortedMap.mem_insert.mp he with ⟨-, rfl⟩ | ⟨hne, he⟩
  · -- the new session is larger than the smallest one
    omega
  · exact ⟨(k, o), he, hne, hle⟩

theorem decides_startTracking (h : ModeInv s) (client : κ) (id : Nat) (options : LocationOptions) :
    Decides s (.startTracking client id options) := by
  have hs := h.tracking
  cases haccepts : s.accepts client options with
  | false =>
      rcases procStartTracking_cases s client id options with ⟨-, err, heq⟩ | ⟨hyes, -⟩
      · refine decides_of_modeInv ?_ fun hyes => absurd (hyes.symm.trans haccepts) (by simp)
        show ModeInv (s.procStartTracking client id options)
        rw [heq]
        exact Outcome.same h (Outcome.reportResponse ⟨rfl, rfl, h.answers⟩ client err id)
      · exact absurd (hyes.symm.trans haccepts) (by simp)
  | true =>
      rcases outcome_procStartTracking hs h.answers id haccepts with ⟨hall, hout⟩ | ⟨hnot, hout⟩
      · -- the engine is started with the new options
        have hkeep : s.KeepsMinimum ⟨client, id⟩ options := fun old hold hgrow =>
          absurd (hall _ (SortedMap.find_eq_some.mp hold)) (not_lt.mpr hgrow.le)
        have hinv : TrackingInv (s.procStartTracking client id options) :=
          trackingInv_procStartTracking hs fun _ => hkeep
        refine decides_of_modeInv ⟨hinv, hout.answers, ?_⟩ fun _ => Or.inl hall
        exact (hout.served_iff hinv).mpr fun _ => ⟨_, mem_insert_self, rfl⟩
      · -- the engine is left alone, so the mode of a session has to be the one it has
        have hinv : HasMode s.mLocApi.engine (s.mTrackingSessions.insert ⟨client, id⟩ options) →
            ModeInv (s.procStartTracking client id options) := by
          intro hmode
          have htracking : TrackingInv (s.procStartTracking client id options) :=
            trackingInv_procStartTracking hs fun _ => keepsMinimum_of_hasMode hs hmode
          exact ⟨htracking, hout.answers, (hout.served_iff htracking).mpr fun _ => hmode⟩
        have hmode : Served (s.procStartTracking client id options) →
            HasMode s.mLocApi.engine (s.mTrackingSessions.insert ⟨client, id⟩ options) := by
          intro hserved
          unfold Served at hserved
          rw [hout.engine, hout.sessions] at hserved
          obtain ⟨e, he, hmode, -⟩ := hserved
            (SortedMap.isEmpty_eq_false_iff.mpr ⟨_, mem_insert_self⟩)
          exact ⟨e, he, hmode⟩
        refine ⟨⟨fun hserved _ => Or.inr (hmode hserved), fun hok => ?_⟩,
          fun hserved => hinv (hmode hserved)⟩
        exact (hinv ((hok haccepts).resolve_left hnot)).served

/-- The options that the multiplexer starts the engine with are those of another session. -/
theorem exists_otherSmallest (hs : TrackingInv s) (hsize : s.mTrackingSessions.size ≠ 1)
    (hold : (key, old) ∈ s.mTrackingSessions) :
    ∃ k a, k ≠ key ∧ (k, a) ∈ s.mTrackingSessions ∧
      some (convertOptions (s.otherSmallest key)) = some (convertOptions a) := by
  obtain ⟨⟨⟨k, a⟩, ha, hne, heq⟩, -⟩ := otherSmallest_spec hs.size hsize hold
  exact ⟨k, a, hne, ha, congrArg (fun o => some (convertOptions o)) heq.symm⟩

theorem decides_updateTracking (h : ModeInv s) (client : κ) (id : Nat)
    (options : LocationOptions) : Decides s (.updateTracking client id options) := by
  have hs := h.tracking
  have hinv : TrackingInv (s.procUpdateTracking client id options) :=
    trackingInv_procUpdateTracking hs
  cases hfind : s.mTrackingSessions.find ⟨client, id⟩ with
  | none =>
      have hsame : s.proc (.updateTracking client id options) = s :=
        procUpdateTracking_of_find hfind options
      refine decides_of_modeInv (by rw [hsame]; exact h) fun old hold => ?_
      rw [hfind] at hold
      cases hold
  | some old =>
      have hold := SortedMap.find_eq_some.mp hfind
      -- options without a size are refused
      by_cases hsize : options.size = 0
      · refine decides_of_modeInv (Outcome.same h ?_) fun _ _ hne => absurd hsize hne
        unfold proc procUpdateTracking
        dsimp only
        rw [if_pos (isTrackingSession_of_mem hold), if_pos hsize]
        exact Outcome.reportResponse ⟨rfl, rfl, h.answers⟩ client _ id
      have hout := outcome_procUpdateTracking h.answers hold hsize
      refine ⟨?_, fun hserved => ⟨hinv, hout.answers, hserved⟩⟩
      have hcond : KeepsMode s (.updateTracking client id options) ↔
          s.mTrackingSessions.size = 1 ∨
          options.minInterval < (s.otherSmallest ⟨client, id⟩).minInterval ∨
          old.minInterval < (s.otherSmallest ⟨client, id⟩).minInterval ∨
          HasMode s.mLocApi.engine (s.mTrackingSessions.insert ⟨client, id⟩ options) := by
        unfold KeepsMode
        dsimp only
        rw [hfind]
        simp [hsize]
      refine (hout.served_iff hinv).trans (Iff.trans ?_ hcond.symm)
      rw [SortedMap.isEmpty_eq_false_iff.mpr ⟨_, mem_insert_self⟩, imp_iff_right rfl]
      -- the tests of the multiplexer, one after the other
      by_cases hone : s.mTrackingSessions.size = 1
      · rw [if_pos hone]
        exact iff_of_true ⟨_, mem_insert_self, rfl⟩ (Or.inl hone)
      rw [if_neg hone, or_iff_right hone]
      by_cases hlt : options.minInterval < (s.otherSmallest ⟨client, id⟩).minInterval
      · rw [if_pos hlt]
        exact iff_of_true ⟨_, mem_insert_self, rfl⟩ (Or.inl hlt)
      rw [if_neg hlt, or_iff_right hlt]
      by_cases hshrunk : old.minInterval < (s.otherSmallest ⟨client, id⟩).minInterval
      · rw [if_pos hshrunk]
        obtain ⟨k, a, hne, ha, hmode⟩ := exists_otherSmallest hs hone hold
        exact iff_of_true ⟨(k, a), SortedMap.mem_insert.mpr (Or.inr ⟨hne, ha⟩), hmode⟩
          (Or.inl hshrunk)
      · rw [if_neg hshrunk, or_iff_right hshrunk]

theorem decides_stopTracking (h : ModeInv s) (client : κ) (id : Nat) :
    Decides s (.stopTracking client id) := by
  have hs := h.tracking
  have hinv : TrackingInv (s.procStopTracking client id) := trackingInv_procStopTracking hs
  cases hfind : s.mTrackingSessions.find ⟨client, id⟩ with
  | none =>
      -- no such session: nothing changes
      have hsame : s.proc (.stopTracking client id) = s := procStopTracking_of_find hfind
      refine decides_of_modeInv (by rw [hsame]; exact h) fun old hold => ?_
      rw [hfind] at hold
      cases hold
  | some old =>
      have hold := SortedMap.find_eq_some.mp hfind
      have hout := outcome_procStopTracking h.answers hold
      refine ⟨?_, fun hserved => ⟨hinv, hout.answers, hserved⟩⟩
      -- what is left of the condition once the session is known
      have hcond : KeepsMode s (.stopTracking client id) ↔ s.mTrackingSessions.size = 1 ∨
          old.minInterval < (s.otherSmallest ⟨client, id⟩).minInterval ∨
          HasMode s.mLocApi.engine (s.mTrackingSessions.erase ⟨client, id⟩) := by
        unfold KeepsMode
        dsimp only
        rw [hfind]
        simp
      refine (hout.served_iff hinv).trans (Iff.trans ?_ hcond.symm)
      unfold engineAfterStop
      by_cases hone : s.mTrackingSessions.size = 1
      · -- no session is left
        refine iff_of_true (fun hne => ?_) (Or.inl hone)
        obtain ⟨⟨k, v⟩, he⟩ := SortedMap.isEmpty_eq_false_iff.mp hne
        obtain ⟨hkey, he⟩ := SortedMap.mem_erase.mp he
        exact absurd (congrArg Prod.fst (SortedMap.eq_of_size_one hone he hold)) hkey
      obtain ⟨k, a, hne, ha, hmode⟩ := exists_otherSmallest hs hone hold
      have hleft : (k, a) ∈ s.mTrackingSessions.erase ⟨client, id⟩ :=
        SortedMap.mem_erase.mpr ⟨hne, ha⟩
      rw [if_neg hone, or_iff_right hone, SortedMap.isEmpty_eq_false_iff.mpr ⟨_, hleft⟩,
        imp_iff_right rfl]
      by_cases hshrunk : old.minInterval < (s.otherSmallest ⟨client, id⟩).minInterval
      · -- the engine is restarted for a session that is left
        rw [if_pos hshrunk]
        exact iff_of_true ⟨(k, a), hleft, hmode⟩ (Or.inl hshrunk)
      · rw [if_neg hshrunk, or_iff_right hshrunk]

/-- The callbacks of a client do not matter to the property. -/
theorem decides_removeClient (h : ModeInv s) (client : κ) : Decides s (.removeClient client) := by
  obtain ⟨hanswers, -⟩ := (ToVisit.init h.answers client).sessions_foldl
  have htracking := trackingInv_stopClientSessions h.tracking client
  exact ⟨served_stopClientSessions_iff h.tracking h.answers client,
    fun hserved => ⟨htracking.congr rfl rfl, hanswers, hserved⟩⟩

/-- A restart of the engine starts it for a session with the smallest interval. -/
theorem modeInv_restartSessions (h : ModeInv s) : ModeInv (s.proc .restartSessions) := by
  have hinv := trackingInv_proc h.tracking .restartSessions fun _ _ _ heq => by cases heq
  cases hempty : s.mTrackingSessions.isEmpty with
  | true =>
      have hout : Outcome (s.proc .restartSessions) none s.mTrackingSessions := by
        unfold proc restartSessions
        dsimp only
        rw [if_pos hempty]
        exact ⟨rfl, rfl, rfl⟩
      exact ⟨hinv, hout.answers, (hout.served_iff hinv).mpr fun hne =>
        absurd (hempty.symm.trans hne) (by simp)⟩
  | false =>
      have hout : Outcome (s.proc .restartSessions)
          (some (convertOptions (smallestIntervalOptions s.mTrackingSessions fun _ => true)))
          s.mTrackingSessions := by
        unfold proc restartSessions
        dsimp only
        rw [hempty, if_neg Bool.false_ne_true]
        exact ⟨rfl, rfl, rfl⟩
      obtain ⟨e, he⟩ := SortedMap.isEmpty_eq_false_iff.mp hempty
      obtain ⟨⟨a, ha, -, heq⟩, -⟩ := smallestIntervalOptions_spec (fun _ => true)
        h.tracking.size ⟨e, he, rfl⟩
      exact ⟨hinv, hout.answers, (hout.served_iff hinv).mpr fun _ =>
        ⟨a, ha, congrArg (fun o => some (convertOptions o)) heq.symm⟩⟩

/-- The condition is exact for every message. -/
theorem decides_proc (h : ModeInv s) (msg : AdapterMsg κ) : Decides s msg := by
  cases msg with
  | addClient client callbacks =>
      exact decides_of_modeInv ⟨h.tracking.congr rfl rfl, h.answers, h.served⟩ trivial
  | removeClient client => exact decides_removeClient h client
  | startTracking client id options => exact decides_startTracking h client id options
  | updateTracking client id options => exact decides_updateTracking h client id options
  | stopTracking client id => exact decides_stopTracking h client id
  | restartSessions => exact decides_of_modeInv (modeInv_restartSessions h) trivial

/-- In every run of messages the engine runs in the mode of a smallest session in every state if and
only if every message keeps the mode.

Sessions with equal intervals can have different modes, and the engine is restarted only for an
interval that is strictly smaller or larger. So the session that the engine serves may leave or
change while another with the same interval stays, and nothing is called. -/
theorem along_served_iff (msgs : List (AdapterMsg κ)) :
    Along procStep Served new msgs ↔ Guarded procStep KeepsMode new msgs := by
  refine along_iff_guarded (I := ModeInv) (fun _ h => h.served) (fun s msg t h hok ht => ?_)
    (fun s msg t h ht hserved => ?_) (fun s msg _ hnone => by cases hnone) msgs new modeInv_new
  · cases ht
    have hdecides := decides_proc h msg
    exact hdecides.inv (hdecides.iff.mpr hok)
  · cases ht
    exact (decides_proc h msg).iff.mp hserved

/-- Two sessions every second in different modes, and the first one stops. -/
def sameInterval : List (AdapterMsg Nat) :=
  [.addClient 0 ⟨true, true, true⟩, .startTracking 0 2 ⟨1, 1000, .msb⟩,
    .startTracking 0 3 ⟨1, 1000, .standalone⟩, .stopTracking 0 2]

/-- The engine keeps the mode of the session that is gone. -/
theorem not_along_sameInterval : ¬ Along procStep Served (new : GnssAdapter Nat) sameInterval := by
  intro h
  have hlast := h.last (t := (run procStep new sameInterval).get rfl) rfl
  obtain ⟨⟨k, o⟩, he, hmode, -⟩ := hlast rfl
  have hmem : (k, o) ∈ [((⟨0, 3⟩ : LocationSessionKey Nat),
    (⟨1, 1000, .standalone⟩ : LocationOptions))] := he
  cases List.mem_singleton.mp hmem
  cases hmode

end GnssAdapter

end LocHal.Gnss
