import LocHal.Gnss.GnssAdapter
import Mathlib.Order.Bounds.Basic

/-!
# `LocHal.Gnss.TrackingMultiplex`: the multiplexers keep the engine at the smallest interval

`EngineFollows` is the property: the engine runs if and only if there is a session, and then with
the smallest interval of the sessions. The multiplexers call the engine first, and the map is
changed when the call succeeds, so the lemma about each of them (`Multiplexed`) is about the
sessions that will be saved: a successful result leaves the engine as they need it, and another
result leaves the engine alone.

* `smallestIntervalOptions_spec`: the loops find the smallest interval.
* `multiplexed_startTrackingMultiplex`, `multiplexed_updateTrackingMultiplex` and
  `multiplexed_stopTrackingMultiplex`: the three multiplexers.

A session is selected by a test on its key: all of them for a start and a restart, and all but one
for an update and a stop, which have to know what is left without it (`otherSmallest`). When the
session in question is not smaller than every other one, the engine runs with the smallest interval
of the others already, and nothing has to be called (`engine_eq_otherSmallest`).

`startTrackingMultiplex` looks at all sessions, also at the one with the key of the new session. So
a start that replaces a session is compared with it, and the engine may be left at the interval of a
session that is not there any more. `KeepsMinimum` excludes that, and `keepsMinimum_of_follows` says
that it excludes no more.
-/

set_option autoImplicit false

namespace LocHal.Gnss

namespace GnssAdapter

variable {κ : Type} [LinearOrder κ]

/-- The intervals of the sessions. -/
def intervals (sessions : SortedMap (LocationSessionKey κ) LocationOptions) : Set Nat :=
  {i | ∃ e ∈ sessions, e.2.minInterval = i}

/-- The engine runs if and only if there is a session, and then with the smallest interval of the
sessions. This says nothing about the mode of the positions, which may be that of a session with
another interval. -/
structure EngineFollows (engine : Option LocPosMode)
    (sessions : SortedMap (LocationSessionKey κ) LocationOptions) : Prop where
  running : engine.isSome = true ↔ sessions.isEmpty = false
  minimum : ∀ mode, engine = some mode → IsLeast (intervals sessions) mode.min_interval

/-- The engine of the adapter follows its sessions. -/
def Follows (s : GnssAdapter κ) : Prop := EngineFollows s.mLocApi.engine s.mTrackingSessions

/-! ### The smallest interval -/

variable {sessions sessions' : SortedMap (LocationSessionKey κ) LocationOptions}
  {key : LocationSessionKey κ} {options old : LocationOptions} {engine : Option LocPosMode}
  {mode : LocPosMode}

omit [LinearOrder κ] in
/-- The loop over a list, from `acc`. The result is `acc` or a selected element, and it is not
larger than any of them. -/
theorem foldl_smallestStep (other : LocationSessionKey κ → Bool) :
    ∀ (l : List (LocationSessionKey κ × LocationOptions)) (acc : LocationOptions),
      (∀ e ∈ l, e.2.size ≠ 0) →
      (acc.size ≠ 0 → (l.foldl (smallestStep other) acc).size ≠ 0 ∧
        (l.foldl (smallestStep other) acc).minInterval ≤ acc.minInterval) ∧
      (∀ e ∈ l, other e.1 = true → (l.foldl (smallestStep other) acc).size ≠ 0 ∧
        (l.foldl (smallestStep other) acc).minInterval ≤ e.2.minInterval) ∧
      (l.foldl (smallestStep other) acc = acc ∨
        ∃ e ∈ l, other e.1 = true ∧ e.2 = l.foldl (smallestStep other) acc) := by
  intro l
  -- on the sessions; the three parts go through together
  induction l with
  | nil =>
      intro acc _
      exact ⟨fun hacc => ⟨hacc, le_refl _⟩, by simp, Or.inl rfl⟩
  | cons a l ih =>
      intro acc hsize
      have ha : a.2.size ≠ 0 := hsize a List.mem_cons_self
      obtain ⟨hacc, hall, hmem⟩ := ih (smallestStep other acc a)
        fun e he => hsize e (List.mem_cons_of_mem _ he)
      rw [List.foldl_cons]
      by_cases htake : (other a.1 && (acc.size = 0 || a.2.minInterval < acc.minInterval)) = true
      · -- the element is taken
        have hstep : smallestStep other acc a = a.2 := if_pos htake
        rw [hstep] at hacc hall hmem ⊢
        simp only [Bool.and_eq_true, Bool.or_eq_true, decide_eq_true_eq] at htake
        refine ⟨fun hne => ?_, fun e he hother => ?_, Or.inr ?_⟩
        · obtain ⟨hr, hle⟩ := hacc ha
          have hlt : a.2.minInterval < acc.minInterval := htake.2.resolve_left hne
          exact ⟨hr, by omega⟩
        · rcases List.mem_cons.mp he with rfl | he
          · exact hacc ha
          · exact hall e he hother
        · rcases hmem with heq | ⟨e, he, hother, heq⟩
          · exact ⟨a, List.mem_cons_self, htake.1, heq.symm⟩
          · exact ⟨e, List.mem_cons_of_mem _ he, hother, heq⟩
      · -- the session is passed over: it is the one left out, or it is no faster
        have hstep : smallestStep other acc a = acc := if_neg htake
        rw [hstep] at hacc hall hmem ⊢
        simp only [Bool.and_eq_true, Bool.or_eq_true, decide_eq_true_eq, not_and, not_or,
          not_lt] at htake
        refine ⟨hacc, fun e he hother => ?_, ?_⟩
        · rcases List.mem_cons.mp he with rfl | he
          · obtain ⟨hne, hle⟩ := htake hother
            obtain ⟨hr, hle'⟩ := hacc hne
            exact ⟨hr, hle'.trans hle⟩
          · exact hall e he hother
        · rcases hmem with heq | ⟨e, he, hother, heq⟩
          · exact Or.inl heq
          · exact Or.inr ⟨e, List.mem_cons_of_mem _ he, hother, heq⟩

/-- The loops find a session with the smallest interval, when one is selected. -/
theorem smallestIntervalOptions_spec (other : LocationSessionKey κ → Bool)
    (hsize : ∀ e ∈ sessions, e.2.size ≠ 0) (hselected : ∃ e ∈ sessions, other e.1 = true) :
    (∃ e ∈ sessions, other e.1 = true ∧ e.2 = smallestIntervalOptions sessions other) ∧
    ∀ e ∈ sessions, other e.1 = true →
      (smallestIntervalOptions sessions other).minInterval ≤ e.2.minInterval := by
  obtain ⟨-, hall, hmem⟩ := foldl_smallestStep other sessions.toList .zero hsize
  refine ⟨?_, fun e he hother => (hall e he hother).2⟩
  rcases hmem with heq | hmem
  · -- the result has a size, and the initial options have none
    obtain ⟨e, he, hother⟩ := hselected
    exact absurd (congrArg LocationOptions.size heq) (hall e he hother).1
  · exact hmem

/-! ### The engine and the sessions -/

theorem isLeast_intervals {n : Nat} : IsLeast (intervals sessions) n ↔
    (∃ e ∈ sessions, e.2.minInterval = n) ∧ ∀ e ∈ sessions, n ≤ e.2.minInterval := by
  constructor
  · rintro ⟨hmem, hlower⟩
    exact ⟨hmem, fun e he => hlower ⟨e, he, rfl⟩⟩
  · rintro ⟨hmem, hle⟩
    refine ⟨hmem, ?_⟩
    rintro n ⟨e, he, rfl⟩
    exact hle e he

/-- A running engine. -/
theorem engineFollows_some : EngineFollows (some mode) sessions ↔
    IsLeast (intervals sessions) mode.min_interval := by
  constructor
  · intro h
    exact h.minimum mode rfl
  · intro hleast
    refine ⟨iff_of_true rfl ?_, ?_⟩
    · obtain ⟨⟨e, he, -⟩, -⟩ := hleast
      exact SortedMap.isEmpty_eq_false_iff.mpr ⟨e, he⟩
    · intro mode' heq
      cases heq
      exact hleast

/-- A stopped engine. -/
theorem engineFollows_none : EngineFollows none sessions ↔ sessions.isEmpty = true := by
  constructor
  · intro h
    rw [← Bool.not_eq_false]
    exact fun hne => Bool.false_ne_true (h.running.mpr hne)
  · intro hempty
    refine ⟨?_, fun mode heq => by cases heq⟩
    rw [hempty]
    simp

/-- With a session, the engine runs with the smallest interval. -/
theorem EngineFollows.exists_mode (h : EngineFollows engine sessions)
    (hne : sessions.isEmpty = false) :
    ∃ mode, engine = some mode ∧ IsLeast (intervals sessions) mode.min_interval := by
  obtain ⟨mode, hmode⟩ := Option.isSome_iff_exists.mp (h.running.mpr hne)
  exact ⟨mode, hmode, h.minimum mode hmode⟩

/-! ### The multiplexers -/

/-- What a multiplexer does for the sessions that are saved on success. -/
structure Multiplexed (s : GnssAdapter κ) (r : GnssAdapter κ × LocationError)
    (sessions : SortedMap (LocationSessionKey κ) LocationOptions) : Prop where
  same : r.1.mTrackingSessions = s.mTrackingSessions
  done : r.2 = .success → EngineFollows r.1.mLocApi.engine sessions
  failed : r.2 ≠ .success → r.1.mLocApi.engine = s.mLocApi.engine

variable {s t : GnssAdapter κ} {client : κ} {id : Nat}

/-- Nothing is called. -/
theorem multiplexed_keep (h : EngineFollows s.mLocApi.engine sessions) :
    Multiplexed s (s, .success) sessions where
  same := rfl
  done := fun _ => h
  failed := fun hne => absurd rfl hne

/-- A start either runs the engine with the options or fails and leaves it alone. -/
theorem startTracking_cases (s : GnssAdapter κ) (options : LocationOptions) : ∃ ulp answers,
    s.startTracking options = ({ s with
      mUlpProxy := ulp, mLocApi := ⟨some (convertOptions options), answers⟩ }, .success) ∨
    s.startTracking options = ({ s with
      mUlpProxy := ulp, mLocApi := ⟨s.mLocApi.engine, answers⟩ }, .generalFailure) := by
  by_cases hret : s.mLocApi.answers.headD locApiSuccess = locApiSuccess
  · refine ⟨⟨some (convertOptions options), true⟩, s.mLocApi.answers.tail, Or.inl ?_⟩
    unfold startTracking LocApiBase.startFix
    dsimp only [UlpProxyBase.sendFixMode, UlpProxyBase.sendStartFix]
    rw [if_neg Bool.false_ne_true, if_pos hret, if_pos hret]
  · refine ⟨⟨some (convertOptions options), true⟩, s.mLocApi.answers.tail, Or.inr ?_⟩
    unfold startTracking LocApiBase.startFix
    dsimp only [UlpProxyBase.sendFixMode, UlpProxyBase.sendStartFix]
    rw [if_neg Bool.false_ne_true, if_neg hret, if_neg hret]

/-- A stop either stops the engine or fails and leaves it alone. -/
theorem stopTracking_cases (s : GnssAdapter κ) : ∃ ulp answers,
    s.stopTracking = ({ s with mUlpProxy := ulp, mLocApi := ⟨none, answers⟩ }, .success) ∨
    s.stopTracking = ({ s with
      mUlpProxy := ulp, mLocApi := ⟨s.mLocApi.engine, answers⟩ }, .generalFailure) := by
  by_cases hret : s.mLocApi.answers.headD locApiSuccess = locApiSuccess
  · refine ⟨{ s.mUlpProxy with mFixSet := false }, s.mLocApi.answers.tail, Or.inl ?_⟩
    unfold stopTracking LocApiBase.stopFix
    dsimp only [UlpProxyBase.sendStopFix]
    rw [if_neg Bool.false_ne_true, if_pos hret, if_pos hret]
  · refine ⟨{ s.mUlpProxy with mFixSet := false }, s.mLocApi.answers.tail, Or.inr ?_⟩
    unfold stopTracking LocApiBase.stopFix
    dsimp only [UlpProxyBase.sendStopFix]
    rw [if_neg Bool.false_ne_true, if_neg hret, if_neg hret]

/-- The engine is started with options that are the smallest. -/
theorem multiplexed_startTracking
    (h : IsLeast (intervals sessions) options.minInterval) :
    Multiplexed s (s.startTracking options) sessions := by
  obtain ⟨ulp, answers, heq | heq⟩ := startTracking_cases s options
  · rw [heq]
    exact ⟨rfl, fun _ => engineFollows_some.mpr h, fun hne => absurd rfl hne⟩
  · rw [heq]
    exact ⟨rfl, fun hsuccess => absurd hsuccess (by simp), fun _ => rfl⟩

/-- The engine is stopped for the last session. -/
theorem multiplexed_stopTracking (h : sessions.isEmpty = true) :
    Multiplexed s s.stopTracking sessions := by
  obtain ⟨ulp, answers, heq | heq⟩ := stopTracking_cases s
  · rw [heq]
    exact ⟨rfl, fun _ => engineFollows_none.mpr h, fun hne => absurd rfl hne⟩
  · rw [heq]
    exact ⟨rfl, fun hsuccess => absurd hsuccess (by simp), fun _ => rfl⟩

/-- Every session has options with a size. -/
def Sized (s : GnssAdapter κ) : Prop := ∀ e ∈ s.mTrackingSessions, e.2.size ≠ 0

/-- The invariant: the engine follows the sessions, and every session has options with a size. -/
structure TrackingInv (s : GnssAdapter κ) : Prop where
  follows : s.Follows
  size : ∀ e ∈ s.mTrackingSessions, e.2.size ≠ 0

/-- The entries after a session is saved. -/
theorem forall_mem_insert {P : LocationSessionKey κ × LocationOptions → Prop}
    (hnew : P (key, options)) (hold : ∀ e ∈ sessions, e.1 ≠ key → P e) :
    ∀ e ∈ sessions.insert key options, P e := by
  rintro ⟨k, o⟩ he
  rcases SortedMap.mem_insert.mp he with ⟨rfl, rfl⟩ | ⟨hne, he⟩
  · exact hnew
  · exact hold (k, o) he hne

theorem mem_insert_self : (key, options) ∈ sessions.insert key options :=
  SortedMap.mem_insert.mpr (Or.inl ⟨rfl, rfl⟩)

/-- `startTrackingMultiplex` in full: the engine is started when the interval is smaller than the
interval of every session. -/
theorem startTrackingMultiplex_eq (hs : TrackingInv s) (options : LocationOptions) :
    (∀ e ∈ s.mTrackingSessions, options.minInterval < e.2.minInterval) ∧
      s.startTrackingMultiplex options = s.startTracking options ∨
    (∃ e ∈ s.mTrackingSessions, e.2.minInterval ≤ options.minInterval) ∧
      s.startTrackingMultiplex options = (s, .success) := by
  unfold startTrackingMultiplex
  split
  · rename_i hempty
    rw [SortedMap.isEmpty_iff] at hempty
    exact Or.inl ⟨fun e he => absurd he (hempty e), rfl⟩
  · rename_i hne
    obtain ⟨e, he⟩ := SortedMap.isEmpty_eq_false_iff.mp (Bool.eq_false_iff.mpr hne)
    obtain ⟨⟨a, ha, -, haeq⟩, hle⟩ := smallestIntervalOptions_spec (fun _ => true)
      hs.size ⟨e, he, rfl⟩
    dsimp only
    split
    · rename_i hlt
      refine Or.inl ⟨fun e he => ?_, rfl⟩
      exact lt_of_lt_of_le hlt (hle e he rfl)
    · rename_i hnlt
      refine Or.inr ⟨⟨a, ha, ?_⟩, rfl⟩
      rw [haeq]
      exact not_lt.mp hnlt

/-- A start whose session replaces none, or one that the smallest interval does not need. -/
theorem multiplexed_startTrackingMultiplex (hs : TrackingInv s)
    (hkeep : ∀ old, (key, old) ∈ s.mTrackingSessions → old.minInterval < options.minInterval →
      ∃ e ∈ s.mTrackingSessions, e.1 ≠ key ∧ e.2.minInterval ≤ old.minInterval) :
    Multiplexed s (s.startTrackingMultiplex options) (s.mTrackingSessions.insert key options) := by
  rcases startTrackingMultiplex_eq hs options with ⟨hall, heq⟩ | ⟨⟨e, he, hle⟩, heq⟩
  · rw [heq]
    refine multiplexed_startTracking (isLeast_intervals.mpr ⟨⟨_, mem_insert_self, rfl⟩, ?_⟩)
    exact forall_mem_insert (P := fun e => options.minInterval ≤ e.2.minInterval) (le_refl _)
      fun e he _ => (hall e he).le
  · rw [heq]
    refine multiplexed_keep ?_
    obtain ⟨mode, hmode, hleast⟩ := hs.follows.exists_mode
      (SortedMap.isEmpty_eq_false_iff.mpr ⟨_, he⟩)
    rw [hmode, engineFollows_some]
    rw [isLeast_intervals] at hleast ⊢
    obtain ⟨⟨a, ha, hamode⟩, hlower⟩ := hleast
    refine ⟨?_, forall_mem_insert (P := fun e => mode.min_interval ≤ e.2.minInterval)
      ((hlower e he).trans hle) fun e he _ => hlower e he⟩
    -- a session with the smallest interval is left
    by_cases hkey : a.1 = key
    · by_cases hgrow : a.2.minInterval < options.minInterval
      · obtain ⟨b, hb, hbkey, hba⟩ := hkeep a.2 (hkey ▸ ha) hgrow
        refine ⟨b, SortedMap.mem_insert.mpr (Or.inr ⟨hbkey, hb⟩), ?_⟩
        exact le_antisymm (hba.trans hamode.le) (hlower b hb)
      · refine ⟨_, mem_insert_self, ?_⟩
        exact le_antisymm ((not_lt.mp hgrow).trans hamode.le) ((hlower e he).trans hle)
    · exact ⟨a, SortedMap.mem_insert.mpr (Or.inr ⟨hkey, ha⟩), hamode⟩

/-- Conversely, when the engine follows the sessions after a start that calls nothing, the
condition was met. -/
theorem keepsMinimum_of_follows (hs : TrackingInv s)
    (hold : (key, old) ∈ s.mTrackingSessions) (hgrow : old.minInterval < options.minInterval)
    (hfollows : EngineFollows s.mLocApi.engine (s.mTrackingSessions.insert key options)) :
    ∃ e ∈ s.mTrackingSessions, e.1 ≠ key ∧ e.2.minInterval ≤ old.minInterval := by
  obtain ⟨mode, hmode, hleast⟩ := hs.follows.exists_mode
    (SortedMap.isEmpty_eq_false_iff.mpr ⟨_, hold⟩)
  rw [hmode, engineFollows_some] at hfollows
  rw [isLeast_intervals] at hleast hfollows
  obtain ⟨⟨⟨k, o⟩, he, hemode⟩, -⟩ := hfollows
  have hle : mode.min_interval ≤ old.minInterval := hleast.2 _ hold
  rcases SortedMap.mem_insert.mp he with ⟨rfl, rfl⟩ | ⟨hkey, he⟩
  · -- the new session would have the smallest interval
    have hnew : o.minInterval = mode.min_interval := hemode
    omega
  · exact ⟨(k, o), he, hkey, hemode.le.trans hle⟩

/-! ### The other sessions

`updateTrackingMultiplex` and `stopTrackingMultiplex` look for the smallest interval of the
sessions other than the one they are about. -/

/-- The options that the loop finds among the sessions other than `key`. -/
def otherSmallest (s : GnssAdapter κ) (key : LocationSessionKey κ) : LocationOptions :=
  smallestIntervalOptions s.mTrackingSessions fun k => k ≠ key

/-- A map of another size than 1 has another session, and the loop finds a smallest one. -/
theorem otherSmallest_spec (hs : Sized s) (hsize : s.mTrackingSessions.size ≠ 1)
    (hold : (key, old) ∈ s.mTrackingSessions) :
    (∃ e ∈ s.mTrackingSessions, e.1 ≠ key ∧ e.2 = s.otherSmallest key) ∧
    ∀ e ∈ s.mTrackingSessions, e.1 ≠ key →
      (s.otherSmallest key).minInterval ≤ e.2.minInterval := by
  obtain ⟨k, v, hother, hne⟩ := SortedMap.exists_other hsize hold
  have hselected : ∃ e ∈ s.mTrackingSessions, decide (e.1 ≠ key) = true :=
    ⟨(k, v), hother, decide_eq_true hne⟩
  obtain ⟨⟨a, ha, hakey, haeq⟩, hle⟩ := smallestIntervalOptions_spec (fun k => decide (k ≠ key))
    hs hselected
  constructor
  · exact ⟨a, ha, of_decide_eq_true hakey, haeq⟩
  · intro e he hkey
    exact hle e he (decide_eq_true hkey)

/-- When the session is not smaller than every other one, the engine runs with the smallest
interval of the others. -/
theorem engine_eq_otherSmallest (hs : TrackingInv s) (hsize : s.mTrackingSessions.size ≠ 1)
    (hold : (key, old) ∈ s.mTrackingSessions)
    (hnlt : ¬ old.minInterval < (s.otherSmallest key).minInterval) :
    ∃ mode, s.mLocApi.engine = some mode ∧
      mode.min_interval = (s.otherSmallest key).minInterval := by
  obtain ⟨⟨a, ha, -, haeq⟩, hle⟩ := otherSmallest_spec hs.size hsize hold
  obtain ⟨mode, hmode, hleast⟩ := hs.follows.exists_mode
    (SortedMap.isEmpty_eq_false_iff.mpr ⟨_, hold⟩)
  obtain ⟨⟨b, hb, hbmode⟩, hlower⟩ := isLeast_intervals.mp hleast
  refine ⟨mode, hmode, le_antisymm ?_ ?_⟩
  · rw [← haeq]
    exact hlower a ha
  · rw [← hbmode]
    by_cases hkey : b.1 = key
    · have hbold : b.2 = old := SortedMap.mem_unique (hkey ▸ hb) hold
      rw [hbold]
      exact not_lt.mp hnlt
    · exact hle b hb hkey

/-- The smallest interval of the other sessions is the one to follow: the engine gets it, unless it
has it already. -/
theorem multiplexed_otherSmallest (hs : TrackingInv s) (hsize : s.mTrackingSessions.size ≠ 1)
    (hold : (key, old) ∈ s.mTrackingSessions)
    (hleast : IsLeast (intervals sessions) (s.otherSmallest key).minInterval) :
    Multiplexed s
      (if old.minInterval < (s.otherSmallest key).minInterval then
        s.startTracking (s.otherSmallest key)
      else (s, .success)) sessions := by
  by_cases hshrunk : old.minInterval < (s.otherSmallest key).minInterval
  · rw [if_pos hshrunk]
    exact multiplexed_startTracking hleast
  · rw [if_neg hshrunk]
    refine multiplexed_keep ?_
    obtain ⟨mode, hmode, hsame⟩ := engine_eq_otherSmallest hs hsize hold hshrunk
    rw [hmode, engineFollows_some, hsame]
    exact hleast

/-- `updateTrackingMultiplex` for a session of the map. -/
theorem updateTrackingMultiplex_of_mem (options : LocationOptions)
    (hold : (⟨client, id⟩, old) ∈ s.mTrackingSessions) :
    s.updateTrackingMultiplex client id options =
      if s.mTrackingSessions.size = 1 then s.startTracking options
      else if options.minInterval < (s.otherSmallest ⟨client, id⟩).minInterval then
        s.startTracking options
      else if old.minInterval < (s.otherSmallest ⟨client, id⟩).minInterval then
        s.startTracking (s.otherSmallest ⟨client, id⟩)
      else (s, .success) := by
  unfold updateTrackingMultiplex
  dsimp only
  rw [SortedMap.find_eq_some.mpr hold]
  rfl

/-- `stopTrackingMultiplex` for a session of the map. -/
theorem stopTrackingMultiplex_of_mem (hold : (⟨client, id⟩, old) ∈ s.mTrackingSessions) :
    s.stopTrackingMultiplex client id =
      if s.mTrackingSessions.size = 1 then s.stopTracking
      else if old.minInterval < (s.otherSmallest ⟨client, id⟩).minInterval then
        s.startTracking (s.otherSmallest ⟨client, id⟩)
      else (s, .success) := by
  unfold stopTrackingMultiplex
  dsimp only
  rw [SortedMap.find_eq_some.mpr hold]
  rfl

/-- An update keeps the engine at the smallest interval. -/
theorem multiplexed_updateTrackingMultiplex (hs : TrackingInv s)
    (hold : (⟨client, id⟩, old) ∈ s.mTrackingSessions) :
    Multiplexed s (s.updateTrackingMultiplex client id options)
      (s.mTrackingSessions.insert ⟨client, id⟩ options) := by
  -- the entries of the new map that are not the updated session are old entries
  have hbound : ∀ n, n ≤ options.minInterval →
      (∀ e ∈ s.mTrackingSessions, e.1 ≠ ⟨client, id⟩ → n ≤ e.2.minInterval) →
      ∀ e ∈ s.mTrackingSessions.insert ⟨client, id⟩ options, n ≤ e.2.minInterval := by
    intro n hn hothers
    exact forall_mem_insert (P := fun e => n ≤ e.2.minInterval) hn hothers
  rw [updateTrackingMultiplex_of_mem options hold]
  by_cases hsize : s.mTrackingSessions.size = 1
  · -- the updated session is the only one
    rw [if_pos hsize]
    refine multiplexed_startTracking (isLeast_intervals.mpr ⟨⟨_, mem_insert_self, rfl⟩, ?_⟩)
    refine hbound _ (le_refl _) ?_
    intro e he hne
    exact absurd (congrArg Prod.fst (SortedMap.eq_of_size_one hsize he hold)) hne
  · rw [if_neg hsize]
    obtain ⟨⟨a, ha, hakey, haeq⟩, hle⟩ := otherSmallest_spec hs.size hsize hold
    by_cases hlt : options.minInterval < (s.otherSmallest ⟨client, id⟩).minInterval
    · -- the new interval is smaller than the intervals of the other sessions
      rw [if_pos hlt]
      refine multiplexed_startTracking (isLeast_intervals.mpr ⟨⟨_, mem_insert_self, rfl⟩, ?_⟩)
      refine hbound _ (le_refl _) ?_
      intro e he hkey
      exact hlt.le.trans (hle e he hkey)
    · rw [if_neg hlt]
      -- the smallest interval of the other sessions is the smallest one afterwards
      have hleast : IsLeast (intervals (s.mTrackingSessions.insert ⟨client, id⟩ options))
          (s.otherSmallest ⟨client, id⟩).minInterval := by
        refine isLeast_intervals.mpr ⟨⟨a, ?_, congrArg _ haeq⟩, hbound _ (not_lt.mp hlt) hle⟩
        exact SortedMap.mem_insert.mpr (Or.inr ⟨hakey, ha⟩)
      exact multiplexed_otherSmallest hs hsize hold hleast

/-- A stop keeps the engine at the smallest interval of the sessions that are left. -/
theorem multiplexed_stopTrackingMultiplex (hs : TrackingInv s)
    (hold : (⟨client, id⟩, old) ∈ s.mTrackingSessions) :
    Multiplexed s (s.stopTrackingMultiplex client id)
      (s.mTrackingSessions.erase ⟨client, id⟩) := by
  rw [stopTrackingMultiplex_of_mem hold]
  by_cases hsize : s.mTrackingSessions.size = 1
  · -- the stopped session is the only one
    rw [if_pos hsize]
    refine multiplexed_stopTracking (SortedMap.isEmpty_iff.mpr ?_)
    rintro ⟨k, v⟩ he
    obtain ⟨hne, he⟩ := SortedMap.mem_erase.mp he
    exact hne (congrArg Prod.fst (SortedMap.eq_of_size_one hsize he hold))
  · rw [if_neg hsize]
    obtain ⟨⟨a, ha, hakey, haeq⟩, hle⟩ := otherSmallest_spec hs.size hsize hold
    have hleast : IsLeast (intervals (s.mTrackingSessions.erase ⟨client, id⟩))
        (s.otherSmallest ⟨client, id⟩).minInterval := by
      refine isLeast_intervals.mpr ⟨⟨a, ?_, congrArg _ haeq⟩, ?_⟩
      · exact SortedMap.mem_erase.mpr ⟨hakey, ha⟩
      · rintro ⟨k, v⟩ he
        obtain ⟨hne, he⟩ := SortedMap.mem_erase.mp he
        exact hle (k, v) he hne
    exact multiplexed_otherSmallest hs hsize hold hleast

end GnssAdapter

end LocHal.Gnss
