import LocHal.Gnss.TrackingMultiplex

/-!
# `LocHal.Gnss.TrackingEngine`: when the engine follows the sessions

The run theorem is `engineFollows_iff_guarded`: the engine follows the sessions in every state of
a run if and only if every accepted start keeps the minimum. A start fails to do so when its id
belongs to the only session with the smallest interval, and its own interval is larger: the start
replaces the session without a call to the engine. Such an id comes back when the 32-bit counter
has come round: `reusedId_not_follows`.

The sessions of all clients are in one map, and the engine runs for one of them. `Follows` says that
the engine runs if and only if there are sessions, and with the smallest interval of them.
`TrackingInv` is the invariant. `Multiplexed` says what a multiplexer does for the sessions that are
about to be saved: after a success the engine follows these, and after a failure it is as it was.

Each function has its step lemma: `trackingInv_procStartTracking`, `trackingInv_procUpdateTracking`,
`trackingInv_procStopTracking`, and `trackingInv_stopClientSessions` for a client that leaves, which
stops its sessions one by one. The condition comes from the first one
(`keepsMinimum_procStartTracking`).

The counterexample needs an id that is given out twice. The counter goes through all values before
it comes back, so the run is as long as that: `iterate_nextCounter` computes where the counter is
after n refused starts.
-/

set_option autoImplicit false

namespace LocHal.Gnss

open LabelledRun

namespace GnssAdapter

variable {κ : Type} [LinearOrder κ]

/-- `MsgStartTracking` passes its tests. -/
def accepts (s : GnssAdapter κ) (client : κ) (options : LocationOptions) : Bool :=
  (s.hasTrackingCallback client || s.hasMeasurementsCallback client) && options.size ≠ 0

/-- When the key has a session, and the interval grows, another session has an interval that is not
larger than the one that goes. A start compares the new interval only with the smallest of the
others, and takes the entry of its own key for one of them. -/
def KeepsMinimum (s : GnssAdapter κ) (key : LocationSessionKey κ) (options : LocationOptions) :
    Prop :=
  ∀ old ∈ s.mTrackingSessions.find key, old.minInterval < options.minInterval →
    ∃ e ∈ s.mTrackingSessions, e.1 ≠ key ∧ e.2.minInterval ≤ old.minInterval

/-- The condition on one step: an accepted start keeps the minimum of the sessions. It is a
condition on starts alone, since an update and a stop leave out the session that they change when
they look for the smallest interval. A start only has to meet it if its id is in use already, which
happens when `mSessionIdCounter` has gone round. -/
def StartKeepsMinimum (s : GnssAdapter κ) : AdapterCall κ → Prop
  | .procMsg _ =>
      match s.msgQueue with
      | .startTracking client sessionId options :: _ =>
          s.accepts client options = true → s.KeepsMinimum ⟨client, sessionId⟩ options
      | _ => True
  | _ => True

variable {sessions : SortedMap (LocationSessionKey κ) LocationOptions}
  {key : LocationSessionKey κ} {options old : LocationOptions} {s t : GnssAdapter κ} {client : κ}
  {id : Nat}

/-! ### The messages -/

/-- The invariant is about the engine and the sessions. -/
theorem TrackingInv.congr (hs : TrackingInv s) (hengine : t.mLocApi.engine = s.mLocApi.engine)
    (hsessions : t.mTrackingSessions = s.mTrackingSessions) : TrackingInv t := by
  constructor
  · show EngineFollows t.mLocApi.engine t.mTrackingSessions
    rw [hengine, hsessions]
    exact hs.follows
  · rw [hsessions]
    exact hs.size

@[simp] theorem mLocApi_reportResponse (s : GnssAdapter κ) (client : κ) (err : LocationError)
    (id : Nat) : (s.reportResponse client err id).mLocApi = s.mLocApi := by
  unfold reportResponse
  split <;> rfl

@[simp] theorem mTrackingSessions_reportResponse (s : GnssAdapter κ) (client : κ)
    (err : LocationError) (id : Nat) :
    (s.reportResponse client err id).mTrackingSessions = s.mTrackingSessions := by
  unfold reportResponse
  split <;> rfl

theorem TrackingInv.reportResponse (hs : TrackingInv s) (client : κ) (err : LocationError)
    (id : Nat) : TrackingInv (s.reportResponse client err id) :=
  hs.congr (congrArg _ (mLocApi_reportResponse s client err id))
    (mTrackingSessions_reportResponse s client err id)

variable {r : GnssAdapter κ × LocationError}

/-- The map is changed when the multiplexer has succeeded. -/
theorem Multiplexed.trackingInv (h : Multiplexed s r sessions) (hs : TrackingInv s)
    (hsize : ∀ e ∈ sessions, e.2.size ≠ 0) :
    TrackingInv (if r.2 = .success then { r.1 with mTrackingSessions := sessions } else r.1) := by
  by_cases hr : r.2 = .success
  · rw [if_pos hr]
    exact ⟨h.done hr, hsize⟩
  · rw [if_neg hr]
    exact hs.congr (h.failed hr) h.same

/-- `saveTrackingSession` after a multiplexer. -/
theorem Multiplexed.save (h : Multiplexed s r (s.mTrackingSessions.insert ⟨client, id⟩ options))
    (hs : TrackingInv s) (hoptions : options.size ≠ 0) :
    TrackingInv (if r.2 = .success then r.1.saveTrackingSession client id options else r.1) := by
  unfold saveTrackingSession
  rw [h.same]
  refine h.trackingInv hs ?_
  exact forall_mem_insert (P := fun e => e.2.size ≠ 0) hoptions fun e he _ => hs.size e he

/-- `eraseTrackingSession` after a multiplexer. -/
theorem Multiplexed.erase (h : Multiplexed s r (s.mTrackingSessions.erase ⟨client, id⟩))
    (hs : TrackingInv s) :
    TrackingInv (if r.2 = .success then r.1.eraseTrackingSession client id else r.1) := by
  unfold eraseTrackingSession
  rw [h.same]
  refine h.trackingInv hs ?_
  rintro ⟨k, v⟩ he
  exact hs.size (k, v) (SortedMap.mem_erase.mp he).2

/-- A message that fails its tests reports, and an accepted one calls the multiplexer. -/
theorem procStartTracking_cases (s : GnssAdapter κ) (client : κ) (id : Nat)
    (options : LocationOptions) :
    (s.accepts client options = false ∧ ∃ err,
      s.procStartTracking client id options = s.reportResponse client err id) ∨
    (s.accepts client options = true ∧
      s.procStartTracking client id options =
        (if (s.startTrackingMultiplex options).2 = .success then
          (s.startTrackingMultiplex options).1.saveTrackingSession client id options
        else (s.startTrackingMultiplex options).1).reportResponse client
          (s.startTrackingMultiplex options).2 id) := by
  unfold procStartTracking accepts
  split
  · rename_i hmissing
    simp only [Bool.and_eq_true, Bool.not_eq_true'] at hmissing
    refine Or.inl ⟨?_, _, rfl⟩
    rw [hmissing.1, hmissing.2]
    rfl
  · rename_i hcallback
    split
    · rename_i hzero
      refine Or.inl ⟨?_, _, rfl⟩
      simp [hzero]
    · rename_i hsize
      refine Or.inr ⟨?_, rfl⟩
      simp only [Bool.and_eq_true, Bool.not_eq_true', not_and_or, Bool.not_eq_false] at hcallback
      simp [hcallback, hsize]

/-- A start keeps the invariant when it keeps the minimum. -/
theorem trackingInv_procStartTracking (hs : TrackingInv s)
    (hkeep : s.accepts client options = true → s.KeepsMinimum ⟨client, id⟩ options) :
    TrackingInv (s.procStartTracking client id options) := by
  rcases procStartTracking_cases s client id options with ⟨-, err, heq⟩ | ⟨haccepts, heq⟩
  · rw [heq]
    exact hs.reportResponse client err id
  · rw [heq]
    have hsize : options.size ≠ 0 := by
      unfold accepts at haccepts
      simp only [Bool.and_eq_true, decide_eq_true_eq] at haccepts
      exact haccepts.2
    have hmultiplexed : Multiplexed s (s.startTrackingMultiplex options)
        (s.mTrackingSessions.insert ⟨client, id⟩ options) :=
      multiplexed_startTrackingMultiplex hs fun old hold =>
        hkeep haccepts old (SortedMap.find_eq_some.mpr hold)
    exact (hmultiplexed.save hs hsize).reportResponse client _ id

/-- Only a start that keeps the minimum leaves the engine in step with the sessions. -/
theorem keepsMinimum_procStartTracking (hs : TrackingInv s)
    (hfollows : (s.procStartTracking client id options).Follows)
    (haccepts : s.accepts client options = true) : s.KeepsMinimum ⟨client, id⟩ options := by
  intro old hfind hgrow
  have hold := SortedMap.find_eq_some.mp hfind
  rcases procStartTracking_cases s client id options with ⟨hrejects, -⟩ | ⟨-, heq⟩
  · exact absurd (hrejects.symm.trans haccepts) Bool.false_ne_true
  · rcases startTrackingMultiplex_eq hs options with ⟨hall, -⟩ | ⟨-, hkept⟩
    · -- the start would have the smallest interval
      have hlt : options.minInterval < old.minInterval := hall _ hold
      omega
    · rw [heq, hkept, if_pos rfl] at hfollows
      unfold Follows at hfollows
      rw [mLocApi_reportResponse, mTrackingSessions_reportResponse] at hfollows
      exact keepsMinimum_of_follows hs hold hgrow hfollows

/-- `isTrackingSession` finds an entry. -/
theorem exists_of_isTrackingSession (h : s.isTrackingSession client id = true) :
    ∃ old, ((⟨client, id⟩ : LocationSessionKey κ), old) ∈ s.mTrackingSessions := by
  obtain ⟨old, hfind⟩ := Option.isSome_iff_exists.mp h
  exact ⟨old, SortedMap.find_eq_some.mp hfind⟩

theorem trackingInv_procUpdateTracking (hs : TrackingInv s) :
    TrackingInv (s.procUpdateTracking client id options) := by
  unfold procUpdateTracking
  split
  · rename_i hsession
    obtain ⟨old, hold⟩ := exists_of_isTrackingSession hsession
    split
    · exact hs.reportResponse client _ id
    · rename_i hsize
      have hmultiplexed : Multiplexed s (s.updateTrackingMultiplex client id options)
          (s.mTrackingSessions.insert ⟨client, id⟩ options) :=
        multiplexed_updateTrackingMultiplex hs hold
      exact (hmultiplexed.save hs hsize).reportResponse client _ id
  · exact hs

theorem trackingInv_procStopTracking (hs : TrackingInv s) :
    TrackingInv (s.procStopTracking client id) := by
  unfold procStopTracking
  split
  · rename_i hsession
    obtain ⟨old, hold⟩ := exists_of_isTrackingSession hsession
    have hmultiplexed : Multiplexed s (s.stopTrackingMultiplex client id)
        (s.mTrackingSessions.erase ⟨client, id⟩) := multiplexed_stopTrackingMultiplex hs hold
    exact (hmultiplexed.erase hs).reportResponse client _ id
  · exact hs

/-! ### A client that leaves -/

/-- A round of `stopClientSessions` keeps the invariant and the sessions with other keys. -/
theorem trackingInv_stopClientSession (hs : TrackingInv s) (hold : (key, old) ∈ s.mTrackingSessions)
    (client : κ) :
    TrackingInv (stopClientSession client s key) ∧
    ∀ k v, k ≠ key → (k, v) ∈ s.mTrackingSessions →
      (k, v) ∈ (stopClientSession client s key).mTrackingSessions := by
  unfold stopClientSession
  split
  · have hmultiplexed : Multiplexed s (s.stopTrackingMultiplex key.client key.id)
        (s.mTrackingSessions.erase ⟨key.client, key.id⟩) :=
      multiplexed_stopTrackingMultiplex hs hold
    refine ⟨hmultiplexed.erase hs, ?_⟩
    intro k v hk hmem
    dsimp only
    split
    · show (k, v) ∈ (s.stopTrackingMultiplex key.client key.id).1.mTrackingSessions.erase key
      rw [hmultiplexed.same]
      exact SortedMap.mem_erase.mpr ⟨hk, hmem⟩
    · rw [hmultiplexed.same]
      exact hmem
  · exact ⟨hs, fun k v _ hmem => hmem⟩

/-- The loop, over keys that are in the map. -/
theorem trackingInv_foldl_stopClientSession (client : κ) :
    ∀ (keys : List (LocationSessionKey κ)) (s : GnssAdapter κ), keys.Nodup → TrackingInv s →
      (∀ key ∈ keys, ∃ old, (key, old) ∈ s.mTrackingSessions) →
      TrackingInv (keys.foldl (stopClientSession client) s) := by
  intro keys
  induction keys with
  | nil =>
      intro s _ hs _
      exact hs
  | cons key keys ih =>
      intro s hnodup hs hkeys
      obtain ⟨hnew, hrest⟩ := List.nodup_cons.mp hnodup
      obtain ⟨old, hold⟩ := hkeys key List.mem_cons_self
      obtain ⟨hstep, hothers⟩ := trackingInv_stopClientSession hs hold client
      refine ih _ hrest hstep ?_
      intro k hk
      obtain ⟨v, hv⟩ := hkeys k (List.mem_cons_of_mem _ hk)
      have hne : k ≠ key := fun heq => hnew (heq ▸ hk)
      exact ⟨v, hothers k v hne hv⟩

theorem trackingInv_stopClientSessions (hs : TrackingInv s) (client : κ) :
    TrackingInv (s.stopClientSessions client) := by
  refine trackingInv_foldl_stopClientSession client _ s s.mTrackingSessions.nodup_keys hs ?_
  intro key hkey
  obtain ⟨⟨k, v⟩, hmem, rfl⟩ := List.mem_map.mp hkey
  exact ⟨v, hmem⟩

/-- A restart finds the engine stopped and starts it for the sessions. -/
theorem trackingInv_restartSessions (hsize : ∀ e ∈ s.mTrackingSessions, e.2.size ≠ 0)
    (hapi : s.mLocApi = ⟨none, []⟩) : TrackingInv s.restartSessions := by
  unfold restartSessions
  split
  · rename_i hempty
    refine ⟨?_, hsize⟩
    show EngineFollows s.mLocApi.engine s.mTrackingSessions
    rw [hapi]
    exact engineFollows_none.mpr hempty
  · rename_i hne
    obtain ⟨e, he⟩ := SortedMap.isEmpty_eq_false_iff.mp (Bool.eq_false_iff.mpr hne)
    obtain ⟨⟨a, ha, -, haeq⟩, hle⟩ := smallestIntervalOptions_spec (fun _ => true)
      hsize ⟨e, he, rfl⟩
    refine ⟨?_, hsize⟩
    show EngineFollows (s.mLocApi.startFix _).1.engine s.mTrackingSessions
    rw [hapi]
    refine engineFollows_some.mpr (isLeast_intervals.mpr ⟨⟨a, ha, congrArg _ haeq⟩, ?_⟩)
    intro b hb
    exact hle b hb rfl

/-! ### The steps -/

/-- The state in which `proc` finds the adapter. -/
def receive (s : GnssAdapter κ) (rest : List (AdapterMsg κ)) (answers : List Int) :
    GnssAdapter κ :=
  { s with msgQueue := rest, mLocApi := { s.mLocApi with answers := answers } }

theorem TrackingInv.receive (hs : TrackingInv s) (rest : List (AdapterMsg κ))
    (answers : List Int) : TrackingInv (s.receive rest answers) :=
  hs.congr rfl rfl

/-- A message other than a start keeps the invariant, and a start does when it keeps the
minimum. -/
theorem trackingInv_proc (hs : TrackingInv s) (msg : AdapterMsg κ)
    (hkeep : ∀ client id options, msg = .startTracking client id options →
      s.accepts client options = true → s.KeepsMinimum ⟨client, id⟩ options) :
    TrackingInv (s.proc msg) := by
  cases msg with
  | addClient mClient mCallbacks => exact hs.congr rfl rfl
  | removeClient mClient => exact (trackingInv_stopClientSessions hs mClient).congr rfl rfl
  | startTracking mClient mSessionId mOptions =>
      exact trackingInv_procStartTracking hs (hkeep mClient mSessionId mOptions rfl)
  | updateTracking mClient mSessionId mOptions => exact trackingInv_procUpdateTracking hs
  | stopTracking mClient mSessionId => exact trackingInv_procStopTracking hs
  | restartSessions =>
      refine trackingInv_restartSessions (s := { s with mLocApi := ⟨none, []⟩ }) ?_ rfl
      exact hs.size

/-- A command posts a message, and `procMsg` processes the first one. -/
theorem step_cases {call : AdapterCall κ} (h : s.step call = some t) :
    ((∀ answers, call ≠ .procMsg answers) ∧ t.mLocApi = s.mLocApi ∧
      t.mTrackingSessions = s.mTrackingSessions) ∨
    ∃ answers msg rest, call = .procMsg answers ∧ s.msgQueue = msg :: rest ∧
      t = (s.receive rest answers).proc msg := by
  cases call with
  | procMsg answers =>
      cases hqueue : s.msgQueue with
      | nil =>
          rw [step, hqueue] at h
          cases h
      | cons msg rest =>
          rw [step, hqueue] at h
          cases h
          exact Or.inr ⟨answers, msg, rest, rfl, rfl, rfl⟩
  | _ =>
      cases h
      exact Or.inl ⟨by simp, rfl, rfl⟩

/-- The step lemma: a step that meets the condition keeps the invariant. -/
theorem trackingInv_step (call : AdapterCall κ) (hs : TrackingInv s)
    (hcondition : s.StartKeepsMinimum call) (h : s.step call = some t) : TrackingInv t := by
  rcases step_cases h with ⟨-, hapi, hsessions⟩ | ⟨answers, msg, rest, rfl, hqueue, rfl⟩
  · exact hs.congr (congrArg _ hapi) hsessions
  · refine trackingInv_proc (hs.receive rest answers) msg ?_
    rintro client id options rfl
    unfold StartKeepsMinimum at hcondition
    rw [hqueue] at hcondition
    exact hcondition

/-- The condition is exact for one step. -/
theorem startKeepsMinimum_of_follows (call : AdapterCall κ) (hs : TrackingInv s)
    (h : s.step call = some t) (hfollows : t.Follows) : s.StartKeepsMinimum call := by
  rcases step_cases h with ⟨hcommand, -, -⟩ | ⟨answers, msg, rest, rfl, hqueue, rfl⟩
  · cases call with
    | procMsg answers => exact absurd rfl (hcommand answers)
    | _ => exact trivial
  · unfold StartKeepsMinimum
    rw [hqueue]
    cases msg with
    | startTracking client id options =>
        have hkeeps := keepsMinimum_procStartTracking (hs.receive rest answers) hfollows
        exact hkeeps
    | _ => exact trivial

theorem trackingInv_new : TrackingInv (new : GnssAdapter κ) := by
  constructor
  · exact engineFollows_none.mpr rfl
  · intro e he
    exact absurd he (SortedMap.not_mem_empty e)

/-- In every run the engine follows the sessions in every state if and only if every accepted start
keeps the minimum.

A start goes wrong only when it takes over the key of a running session, since ids are given out
again after the counter has wrapped. The comparison of the start counts that session among the
others, and the save overwrites it. -/
theorem engineFollows_iff_guarded (calls : List (AdapterCall κ)) :
    Along step Follows new calls ↔ Guarded step StartKeepsMinimum new calls := by
  refine along_iff_guarded (I := TrackingInv) (fun s hs => hs.follows) ?_ ?_ ?_ calls new
    trackingInv_new
  · intro s call t hs hcondition h
    exact trackingInv_step call hs hcondition h
  · intro s call t hs h hfollows
    exact startKeepsMinimum_of_follows call hs h hfollows
  · intro s call hs h
    cases call with
    | procMsg answers =>
        cases hqueue : s.msgQueue with
        | nil =>
            unfold StartKeepsMinimum
            rw [hqueue]
            exact trivial
        | cons msg rest =>
            rw [step, hqueue] at h
            cases h
    | _ => exact trivial

/-! ### An id that comes back -/

/-- The counter after `generateSessionId`. -/
def nextCounter (counter : Nat) : Nat :=
  if (counter + 1) % 2 ^ 32 = 0xFFFFFFFF then 1 else (counter + 1) % 2 ^ 32

/-- The counter counts up to `0xFFFFFFFE`. -/
theorem iterate_nextCounter : ∀ n, n ≤ 0xFFFFFFFC → nextCounter^[n] 2 = 2 + n := by
  intro n
  induction n with
  | zero =>
      intro _
      rfl
  | succ n ih =>
      intro hn
      have hmod : (2 + n + 1) % 2 ^ 32 = 2 + n + 1 := Nat.mod_eq_of_lt (by omega)
      rw [Function.iterate_succ_apply', ih (by omega)]
      unfold nextCounter
      rw [hmod, if_neg (by omega)]
      omega

/-- After `0xFFFFFFFD` more ids the counter is at 1 again. -/
theorem iterate_nextCounter_wrap : nextCounter^[0xFFFFFFFC + 1] 2 = 1 := by
  rw [Function.iterate_succ_apply', iterate_nextCounter _ (le_refl _)]
  decide

/-- A session every second, and one every two seconds. -/
def everySecond : LocationOptions := ⟨1, 1000, .standalone⟩

/-- A session every two seconds. -/
def everyTwoSeconds : LocationOptions := ⟨1, 2000, .standalone⟩

/-- The sessions while the first one runs, with the counter. -/
def oneSession (counter : Nat) : GnssAdapter Nat where
  mUlpProxy := ⟨some (convertOptions everySecond), true⟩
  mClientData := SortedMap.insert ∅ 0 ⟨true, true, true⟩
  mTrackingSessions := SortedMap.insert ∅ ⟨0, 2⟩ everySecond
  mLocApi := ⟨some (convertOptions everySecond), []⟩
  mSessionIdCounter := counter
  msgQueue := []
  responses := [(0, .success, 2)]

/-- A client starts a session. -/
def firstStart : List (AdapterCall Nat) :=
  [.addClientCommand 0 ⟨true, true, true⟩, .procMsg [],
    .startTrackingCommand 0 everySecond, .procMsg []]

/-- An unknown client asks for a session, which takes an id. -/
def refusedStart : List (AdapterCall Nat) := [.startTrackingCommand 1 everySecond, .procMsg []]

/-- The first client starts a second session. -/
def secondStart : List (AdapterCall Nat) := [.startTrackingCommand 0 everyTwoSeconds, .procMsg []]

theorem run_firstStart : run step (new : GnssAdapter Nat) firstStart = some (oneSession 2) := by
  rfl

theorem run_refusedStart (counter : Nat) :
    run step (oneSession counter) refusedStart = some (oneSession (nextCounter counter)) := by
  rfl

/-- The run in which the second session takes the id of the first one. -/
def reusedIdCalls : List (AdapterCall Nat) :=
  firstStart ++ ((List.replicate (0xFFFFFFFC + 1) refusedStart).flatten ++ secondStart)

/-- The state after the run. The engine has not been called. -/
def reusedId : GnssAdapter Nat :=
  { oneSession 2 with
    mTrackingSessions := (oneSession 2).mTrackingSessions.insert ⟨0, 2⟩ everyTwoSeconds
    responses := [(0, .success, 2), (0, .success, 2)] }

theorem run_secondStart : run step (oneSession 1) secondStart = some reusedId := by
  rfl

theorem run_reusedIdCalls : run step (new : GnssAdapter Nat) reusedIdCalls = some reusedId := by
  have hrefused : ∀ k, run step (oneSession (nextCounter^[k] 2)) refusedStart =
      some (oneSession (nextCounter^[k + 1] 2)) := by
    intro k
    rw [Function.iterate_succ_apply']
    exact run_refusedStart _
  have hwrap := run_flatten_replicate hrefused (0xFFFFFFFC + 1) 0
  rw [Nat.zero_add, iterate_nextCounter_wrap, Function.iterate_zero_apply] at hwrap
  unfold reusedIdCalls
  rw [run_append_of_run run_firstStart, run_append_of_run hwrap]
  exact run_secondStart

/-- The engine runs with the interval of the session that is gone. -/
theorem reusedId_not_follows : ¬ Along step Follows (new : GnssAdapter Nat) reusedIdCalls := by
  intro halong
  have hfollows : reusedId.Follows := halong.last run_reusedIdCalls
  have hleast := engineFollows_some.mp hfollows
  obtain ⟨⟨⟨k, v⟩, he, hinterval⟩, -⟩ := isLeast_intervals.mp hleast
  rcases SortedMap.mem_insert.mp he with ⟨-, rfl⟩ | ⟨hne, he⟩
  · -- the only session left wants 2000
    have hne : everyTwoSeconds.minInterval ≠ (convertOptions everySecond).min_interval := by
      decide
    exact hne hinterval
  · rcases SortedMap.mem_insert.mp he with ⟨rfl, -⟩ | ⟨-, he⟩
    · exact hne rfl
    · exact SortedMap.not_mem_empty _ he

end GnssAdapter

end LocHal.Gnss
