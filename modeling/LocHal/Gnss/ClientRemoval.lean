import LocHal.Gnss.TrackingMode

/-!
# `LocHal.Gnss.ClientRemoval`: what a removed client leaves behind

`MsgRemoveClient` stops the sessions of the client one after the other and then erases the client.
A session whose stop fails stays in the map, and the client that could stop it is gone.

The calls of the engine depend on the sessions that are left: `removalCalls` lists them, for a
loop in which they succeed. `nothingLeft_iff` is the exact condition: the answers to the calls of
this list are successes. `sized_run` is the invariant of all runs that the proof needs.

`callEngine` is the one form of the calls: a mode starts the engine, and no mode stops it.

`Removing` is the state in the middle of the loop: the sessions of the client before the ones that
are still to be visited have been stopped. Then the multiplexer sees the sessions that are left for
the list, and makes the call of the list or none (`Removing.multiplex`). With a success the session
is erased, and with a failure it stays and is never visited again, so the loop cannot make up for it
(`Removing.foldl_iff`).

The list is computed for a loop whose calls succeed, which is enough: up to the first failure the
loop is that loop, and after it the property is lost.
-/

set_option autoImplicit false

namespace LocHal.Gnss

open LabelledRun

namespace GnssAdapter

variable {κ : Type} [LinearOrder κ]

/-! ### The calls of a removal -/

/-- The sessions that are left after the session of the client has been stopped. -/
def leftSessions (s : GnssAdapter κ) (client : κ) (key : LocationSessionKey κ) :
    List (LocationSessionKey κ × LocationOptions) :=
  s.mTrackingSessions.toList.filter fun r => leftAfter client key r.1

/-- The stop of the session calls the engine: it is smaller than the sessions that are left. -/
def stopCalls (s : GnssAdapter κ) (client : κ)
    (e : LocationSessionKey κ × LocationOptions) : Bool :=
  e.1.client = client &&
    (s.leftSessions client e.1).all fun r => e.2.minInterval < r.2.minInterval

/-- The call: the engine is started for the sessions that are left, or stopped. -/
def stopCall (s : GnssAdapter κ) (client : κ) (e : LocationSessionKey κ × LocationOptions) :
    Option LocPosMode :=
  if (s.leftSessions client e.1).isEmpty then none
  else some (convertOptions
    (smallestIntervalOptions s.mTrackingSessions (leftAfter client e.1)))

/-- The calls of `stopClientSessions`, as long as they succeed. -/
def removalCalls (s : GnssAdapter κ) (client : κ) : List (Option LocPosMode) :=
  (s.mTrackingSessions.toList.filter (s.stopCalls client)).map (s.stopCall client)

/-- The calls have been answered with successes. A call without an answer succeeds. Only the answers
to the calls that the message makes are looked at, as many as there are. -/
def Succeed (calls : List (Option LocPosMode)) (answers : List Int) : Prop :=
  ∀ ret ∈ answers.take calls.length, ret = locApiSuccess

instance (calls : List (Option LocPosMode)) (answers : List Int) :
    Decidable (Succeed calls answers) :=
  inferInstanceAs (Decidable (∀ ret ∈ answers.take calls.length, ret = locApiSuccess))

/-- No session of the client is left, and the client is unknown. A session that is left would be
reported to a client that is gone, and nobody could stop it any more. -/
structure NothingLeft (t : GnssAdapter κ) (client : κ) : Prop where
  sessions : ∀ e ∈ t.mTrackingSessions, e.1.client ≠ client
  client : t.mClientData.find client = none

variable {s t : GnssAdapter κ} {client : κ} {id : Nat} {key : LocationSessionKey κ}
  {options : LocationOptions} {e : LocationSessionKey κ × LocationOptions}

@[simp] theorem succeed_nil (answers : List Int) : Succeed [] answers := by
  simp [Succeed]

/-- The first call, and the others with the other answers. -/
theorem succeed_cons {call : Option LocPosMode} {calls : List (Option LocPosMode)}
    {answers : List Int} : Succeed (call :: calls) answers ↔
      answers.headD locApiSuccess = locApiSuccess ∧ Succeed calls answers.tail := by
  unfold Succeed
  cases answers with
  | nil => simp
  | cons ret answers => simp

/-! ### One call of the engine -/

/-- `startTracking` with a mode, and `stopTracking` without. -/
def callEngine (s : GnssAdapter κ) (call : Option LocPosMode) : GnssAdapter κ × LocationError :=
  let ret := s.mLocApi.answers.headD locApiSuccess
  ({ s with
      mUlpProxy := { mPosMode := call <|> s.mUlpProxy.mPosMode, mFixSet := call.isSome }
      mLocApi := ⟨if ret = locApiSuccess then call else s.mLocApi.engine, s.mLocApi.answers.tail⟩ },
    if ret = locApiSuccess then .success else .generalFailure)

theorem startTracking_eq_callEngine (s : GnssAdapter κ) (options : LocationOptions) :
    s.startTracking options = s.callEngine (some (convertOptions options)) := rfl

theorem stopTracking_eq_callEngine (s : GnssAdapter κ) :
    s.stopTracking = s.callEngine none := rfl

theorem callEngine_success (s : GnssAdapter κ) (call : Option LocPosMode) :
    (s.callEngine call).2 = .success ↔ s.mLocApi.answers.headD locApiSuccess = locApiSuccess := by
  unfold callEngine
  dsimp only
  split <;> simp_all

/-- A multiplexer makes one call or none. -/
def CallsOnce (s : GnssAdapter κ) (r : GnssAdapter κ × LocationError) : Prop :=
  r = (s, .success) ∨ ∃ call, r = s.callEngine call

theorem callsOnce_startTracking (s : GnssAdapter κ) (options : LocationOptions) :
    CallsOnce s (s.startTracking options) :=
  Or.inr ⟨some (convertOptions options), startTracking_eq_callEngine s options⟩

theorem callsOnce_stopTracking (s : GnssAdapter κ) : CallsOnce s s.stopTracking :=
  Or.inr ⟨none, stopTracking_eq_callEngine s⟩

theorem callsOnce_startTrackingMultiplex (s : GnssAdapter κ) (options : LocationOptions) :
    CallsOnce s (s.startTrackingMultiplex options) := by
  unfold startTrackingMultiplex
  dsimp only
  split
  · exact callsOnce_startTracking s options
  · split
    · exact callsOnce_startTracking s options
    · exact Or.inl rfl

theorem callsOnce_updateTrackingMultiplex (s : GnssAdapter κ) (client : κ) (id : Nat)
    (options : LocationOptions) : CallsOnce s (s.updateTrackingMultiplex client id options) := by
  unfold updateTrackingMultiplex
  dsimp only
  split
  · exact callsOnce_startTracking s options
  · split
    · exact Or.inl rfl
    · split
      · exact callsOnce_startTracking s options
      · split
        · exact callsOnce_startTracking s _
        · exact Or.inl rfl

theorem callsOnce_stopTrackingMultiplex (s : GnssAdapter κ) (client : κ) (id : Nat) :
    CallsOnce s (s.stopTrackingMultiplex client id) := by
  unfold stopTrackingMultiplex
  dsimp only
  split
  · exact callsOnce_stopTracking s
  · split
    · exact Or.inl rfl
    · split
      · exact callsOnce_startTracking s _
      · exact Or.inl rfl

/-- A call leaves the sessions alone. -/
theorem CallsOnce.sessions {r : GnssAdapter κ × LocationError} (h : CallsOnce s r) :
    r.1.mTrackingSessions = s.mTrackingSessions := by
  rcases h with rfl | ⟨call, rfl⟩
  · rfl
  · rfl

/-! ### The sizes of the options -/

theorem Sized.congr (hs : Sized s) (h : t.mTrackingSessions = s.mTrackingSessions) : Sized t := by
  unfold Sized
  rw [h]
  exact hs

/-- A session with a size is saved, after a multiplexer has succeeded. -/
theorem Sized.save {r : GnssAdapter κ × LocationError} (hs : Sized s) (h : CallsOnce s r)
    (hsize : options.size ≠ 0) :
    Sized (if r.2 = .success then r.1.saveTrackingSession client id options else r.1) := by
  split
  · unfold Sized saveTrackingSession
    rw [h.sessions]
    exact forall_mem_insert (P := fun e => e.2.size ≠ 0) hsize fun e he _ => hs e he
  · exact hs.congr h.sessions

/-- A session is erased, after a multiplexer has succeeded. -/
theorem Sized.erase {r : GnssAdapter κ × LocationError} (hs : Sized s) (h : CallsOnce s r) :
    Sized (if r.2 = .success then r.1.eraseTrackingSession client id else r.1) := by
  split
  · unfold Sized eraseTrackingSession
    rw [h.sessions]
    rintro ⟨k, v⟩ he
    exact hs (k, v) (SortedMap.mem_erase.mp he).2
  · exact hs.congr h.sessions

theorem Sized.reportResponse (hs : Sized s) (client : κ) (err : LocationError) (id : Nat) :
    Sized (s.reportResponse client err id) :=
  hs.congr (mTrackingSessions_reportResponse s client err id)

theorem sized_stopClientSession (hs : Sized s) (client : κ) (key : LocationSessionKey κ) :
    Sized (stopClientSession client s key) := by
  unfold stopClientSession
  split
  · exact hs.erase (callsOnce_stopTrackingMultiplex s key.client key.id)
  · exact hs

theorem sized_foldl_stopClientSession (client : κ) (keys : List (LocationSessionKey κ)) :
    Sized s → Sized (keys.foldl (stopClientSession client) s) := by
  induction keys generalizing s with
  | nil => exact id
  | cons key keys ih =>
      intro hs
      exact ih (sized_stopClientSession hs client key)

/-- No message saves options without a size. -/
theorem sized_proc (hs : Sized s) (msg : AdapterMsg κ) : Sized (s.proc msg) := by
  cases msg with
  | addClient mClient mCallbacks => exact hs
  | removeClient mClient => exact sized_foldl_stopClientSession mClient _ hs
  | startTracking mClient mSessionId mOptions =>
      show Sized (s.procStartTracking mClient mSessionId mOptions)
      unfold procStartTracking
      split
      · exact hs.reportResponse _ _ _
      · split
        · exact hs.reportResponse _ _ _
        · rename_i hsize
          have hcalls := callsOnce_startTrackingMultiplex s mOptions
          exact (hs.save hcalls hsize).reportResponse _ _ _
  | updateTracking mClient mSessionId mOptions =>
      show Sized (s.procUpdateTracking mClient mSessionId mOptions)
      unfold procUpdateTracking
      split
      · split
        · exact hs.reportResponse _ _ _
        · rename_i hsize
          have hcalls := callsOnce_updateTrackingMultiplex s mClient mSessionId mOptions
          exact (hs.save hcalls hsize).reportResponse _ _ _
      · exact hs
  | stopTracking mClient mSessionId =>
      show Sized (s.procStopTracking mClient mSessionId)
      unfold procStopTracking
      split
      · have hcalls := callsOnce_stopTrackingMultiplex s mClient mSessionId
        exact (hs.erase hcalls).reportResponse _ _ _
      · exact hs
  | restartSessions =>
      show Sized (restartSessions _)
      unfold restartSessions
      split
      · exact hs
      · exact hs

theorem sized_new : Sized (new : GnssAdapter κ) :=
  fun e he => absurd he (SortedMap.not_mem_empty e)

/-- In every reachable state the options of the sessions have sizes. -/
theorem sized_run {calls : List (AdapterCall κ)} (h : run step new calls = some s) : Sized s := by
  refine run_invariant (P := Sized) ?_ calls new s sized_new h
  intro s call t hs hstep
  rcases step_cases hstep with ⟨-, -, hsessions⟩ | ⟨answers, msg, rest, -, -, rfl⟩
  · exact hs.congr hsessions
  · exact sized_proc (s := s.receive rest answers) hs msg

/-! ### The loop -/

omit [LinearOrder κ] in
/-- The loop is about the selected sessions. -/
theorem foldl_smallestStep_filter (other : LocationSessionKey κ → Bool)
    (l : List (LocationSessionKey κ × LocationOptions)) (acc : LocationOptions) :
    l.foldl (smallestStep other) acc =
      (l.filter fun r => other r.1).foldl (smallestStep fun _ => true) acc := by
  rw [List.foldl_filter]
  refine List.foldl_ext _ _ _ fun smallest r _ => ?_
  unfold smallestStep
  cases other r.1 <;> simp

/-- A round is about one session. -/
theorem mem_foldl_stopClientSession {keys : List (LocationSessionKey κ)} (hkey : e.1 ∉ keys) :
    e ∈ t.mTrackingSessions →
      e ∈ (keys.foldl (stopClientSession client) t).mTrackingSessions := by
  induction keys generalizing t with
  | nil => exact id
  | cons key keys ih =>
      intro he
      rw [List.mem_cons, not_or] at hkey
      obtain ⟨hne, hrest⟩ := hkey
      refine ih hrest ?_
      unfold stopClientSession
      split
      · have hsessions := (callsOnce_stopTrackingMultiplex t key.client key.id).sessions
        dsimp only
        split
        · show e ∈ (t.stopTrackingMultiplex key.client key.id).1.mTrackingSessions.erase key
          rw [hsessions]
          exact SortedMap.mem_erase.mpr ⟨hne, he⟩
        · rw [hsessions]
          exact he
      · exact he

/-- Before the loop visits `rest`, when it has stopped the sessions of the client before that. -/
structure Removing (s : GnssAdapter κ) (client : κ)
    (rest : List (LocationSessionKey κ × LocationOptions)) (t : GnssAdapter κ) : Prop where
  suffix : ∃ visited, s.mTrackingSessions.toList = visited ++ rest
  left : t.mTrackingSessions.toList =
    s.mTrackingSessions.toList.filter fun r => r.1.client ≠ client || r ∈ rest

namespace Removing

variable {rest : List (LocationSessionKey κ × LocationOptions)}

theorem init (s : GnssAdapter κ) (client : κ) :
    Removing s client s.mTrackingSessions.toList s where
  suffix := ⟨[], rfl⟩
  left := by
    symm
    rw [List.filter_eq_self]
    intro r hr
    simp [hr]

theorem mem_of_mem (h : Removing s client rest t) (he : e ∈ t.mTrackingSessions) :
    e ∈ s.mTrackingSessions := by
  have hmem : e ∈ t.mTrackingSessions.toList := he
  rw [h.left] at hmem
  exact List.mem_of_mem_filter hmem

theorem sized (h : Removing s client rest t) (hs : Sized s) : Sized t :=
  fun e he => hs e (h.mem_of_mem he)

/-- The next session is in the map. -/
theorem mem (h : Removing s client (e :: rest) t) : e ∈ t.mTrackingSessions := by
  obtain ⟨visited, hlist⟩ := h.suffix
  show e ∈ t.mTrackingSessions.toList
  rw [h.left, List.mem_filter, hlist]
  simp

/-- A session of the client is left when its key comes later. -/
theorem mem_rest_iff (h : Removing s client (e :: rest) t)
    {r : LocationSessionKey κ × LocationOptions} (hr : r ∈ s.mTrackingSessions) :
    r ∈ rest ↔ e.1 < r.1 := by
  obtain ⟨visited, hlist⟩ := h.suffix
  have hsorted := s.mTrackingSessions.sorted
  have hmem : r ∈ s.mTrackingSessions.toList := hr
  rw [hlist] at hsorted hmem
  obtain ⟨-, hrest, hbefore⟩ := List.pairwise_append.mp hsorted
  have hafter := (List.pairwise_cons.mp hrest).1
  constructor
  · exact fun hr => hafter r hr
  · intro hlt
    rcases List.mem_append.mp hmem with hr | hr
    · exact absurd hlt (hbefore r hr e List.mem_cons_self).asymm
    · rcases List.mem_cons.mp hr with rfl | hr
      · exact absurd hlt (lt_irrefl _)
      · exact hr

theorem mem_of_mem_rest (h : Removing s client (e :: rest) t)
    {r : LocationSessionKey κ × LocationOptions} (hr : r ∈ rest) : r ∈ s.mTrackingSessions := by
  obtain ⟨visited, hlist⟩ := h.suffix
  show r ∈ s.mTrackingSessions.toList
  rw [hlist]
  exact List.mem_append_right _ (List.mem_cons_of_mem e hr)

/-- The other sessions of the map are the ones that are left. -/
theorem filter_ne (h : Removing s client (e :: rest) t) (hclient : e.1.client = client) :
    t.mTrackingSessions.toList.filter (fun r => r.1 ≠ e.1) = s.leftSessions client e.1 := by
  unfold leftSessions
  rw [h.left, List.filter_filter]
  refine List.filter_congr fun r hr => ?_
  have hrest := h.mem_rest_iff hr
  unfold leftAfter
  -- a session of the client has been erased, is this one, or comes later
  by_cases hsame : r.1.client = client
  · simp only [← hrest]
    by_cases heq : r = e
    · subst heq
      have hnot : r ∉ rest := fun hmem => lt_irrefl _ (hrest.mp hmem)
      simp [hsame, hnot]
    · have hne : r ∈ rest → r.1 ≠ e.1 := fun hmem => (hrest.mp hmem).ne'
      simp [hsame, heq]
      exact hne
  · have hne : r.1 ≠ e.1 := fun heq => hsame (heq ▸ hclient)
    simp [hsame, hne]

theorem toList_erase (h : Removing s client (e :: rest) t) (hclient : e.1.client = client) :
    (t.mTrackingSessions.erase e.1).toList = s.leftSessions client e.1 := by
  rw [← h.filter_ne hclient]
  exact List.filter_congr fun r _ => decide_eq_decide.mpr Iff.rfl

/-- The multiplexer finds the smallest one of them. -/
theorem otherSmallest_eq (h : Removing s client (e :: rest) t) (hclient : e.1.client = client) :
    t.otherSmallest e.1 =
      smallestIntervalOptions s.mTrackingSessions (leftAfter client e.1) := by
  unfold otherSmallest smallestIntervalOptions
  rw [foldl_smallestStep_filter, foldl_smallestStep_filter (leftAfter client e.1)]
  exact congrArg (fun l => List.foldl _ _ l) (h.filter_ne hclient)

/-- The multiplexer makes the call of the list, or none. -/
theorem multiplex (h : Removing s client (e :: rest) t) (hs : Sized s)
    (hclient : e.1.client = client) :
    t.stopTrackingMultiplex e.1.client e.1.id =
      if s.stopCalls client e then t.callEngine (s.stopCall client e) else (t, .success) := by
  have hleft := h.filter_ne hclient
  have hmem : ∀ r, r ∈ s.leftSessions client e.1 ↔ r ∈ t.mTrackingSessions ∧ r.1 ≠ e.1 := by
    intro r
    rw [← hleft, List.mem_filter, decide_eq_true_iff]
    rfl
  rw [stopTrackingMultiplex_of_mem h.mem]
  by_cases hsize : t.mTrackingSessions.size = 1
  · -- no session is left
    have hnil : s.leftSessions client e.1 = [] := by
      rw [List.eq_nil_iff_forall_not_mem]
      intro r hr
      obtain ⟨hr, hne⟩ := (hmem r).mp hr
      exact hne (congrArg Prod.fst (SortedMap.eq_of_size_one hsize hr h.mem))
    have hcalls : s.stopCalls client e = true := by
      simp [stopCalls, hclient, hnil]
    rw [if_pos hsize, if_pos hcalls, stopTracking_eq_callEngine]
    simp [stopCall, hnil]
  · obtain ⟨⟨a, ha, hne, haeq⟩, hle⟩ := otherSmallest_spec (h.sized hs) hsize h.mem
    have haleft := (hmem a).mpr ⟨ha, hne⟩
    -- the smallest one decides the comparison with all of them
    have hcalls : s.stopCalls client e = true ↔
        e.2.minInterval < (t.otherSmallest e.1).minInterval := by
      simp only [stopCalls, hclient, decide_true, Bool.true_and, List.all_eq_true,
        decide_eq_true_eq]
      constructor
      · intro hall
        rw [← haeq]
        exact hall a haleft
      · intro hlt r hr
        obtain ⟨hr, hne⟩ := (hmem r).mp hr
        exact hlt.trans_le (hle r hr hne)
    have hcall : s.stopCall client e = some (convertOptions (t.otherSmallest e.1)) := by
      unfold stopCall
      rw [h.otherSmallest_eq hclient, if_neg]
      rw [List.isEmpty_iff]
      exact List.ne_nil_of_mem haleft
    rw [if_neg hsize, hcall]
    by_cases hlt : e.2.minInterval < (t.otherSmallest e.1).minInterval
    · rw [if_pos hlt, if_pos (hcalls.mpr hlt)]
      rfl
    · rw [if_neg hlt, if_neg fun h => hlt (hcalls.mp h)]

/-- The session has been erased. -/
theorem next (h : Removing s client (e :: rest) t) (hclient : e.1.client = client)
    {u : GnssAdapter κ} (hu : u.mTrackingSessions = t.mTrackingSessions.erase e.1) :
    Removing s client rest u := by
  obtain ⟨visited, hlist⟩ := h.suffix
  refine ⟨⟨visited ++ [e], by simp [hlist]⟩, ?_⟩
  rw [hu, h.toList_erase hclient]
  unfold leftSessions
  refine List.filter_congr fun r hr => ?_
  unfold leftAfter
  simp [h.mem_rest_iff hr]

/-- A session of another client is passed over. -/
theorem skip (h : Removing s client (e :: rest) t) (hclient : e.1.client ≠ client) :
    stopClientSession client t e.1 = t ∧ Removing s client rest t := by
  have hskip : stopClientSession client t e.1 = t := by
    unfold stopClientSession
    rw [if_neg (Ne.symm hclient)]
  obtain ⟨visited, hlist⟩ := h.suffix
  refine ⟨hskip, ⟨visited ++ [e], by simp [hlist]⟩, ?_⟩
  rw [h.left]
  refine List.filter_congr fun r hr => ?_
  by_cases hsame : r.1.client = client
  · have hne : r ≠ e := fun heq => hclient (heq ▸ hsame)
    simp [hsame, hne]
  · simp [hsame]

/-- The round for a session of the client: its call succeeds and the session is erased, the call
fails and the session stays, or there is no call and the session is erased. -/
theorem round (h : Removing s client (e :: rest) t) (hs : Sized s) (hclient : e.1.client = client) :
    (s.stopCalls client e = true ∧ t.mLocApi.answers.headD locApiSuccess = locApiSuccess ∧
      stopClientSession client t e.1 = (t.callEngine (s.stopCall client e)).1.eraseTrackingSession
        e.1.client e.1.id) ∨
    (s.stopCalls client e = true ∧ t.mLocApi.answers.headD locApiSuccess ≠ locApiSuccess ∧
      stopClientSession client t e.1 = (t.callEngine (s.stopCall client e)).1) ∨
    (s.stopCalls client e = false ∧
      stopClientSession client t e.1 = t.eraseTrackingSession e.1.client e.1.id) := by
  have hround : stopClientSession client t e.1 =
      if (t.stopTrackingMultiplex e.1.client e.1.id).2 = .success then
        (t.stopTrackingMultiplex e.1.client e.1.id).1.eraseTrackingSession e.1.client e.1.id
      else (t.stopTrackingMultiplex e.1.client e.1.id).1 := by
    unfold stopClientSession
    rw [if_pos hclient.symm]
  rw [hround, h.multiplex hs hclient]
  cases hcalls : s.stopCalls client e with
  | true =>
      rw [if_pos rfl]
      by_cases hret : t.mLocApi.answers.headD locApiSuccess = locApiSuccess
      · rw [if_pos ((callEngine_success t _).mpr hret)]
        exact Or.inl ⟨rfl, hret, rfl⟩
      · rw [if_neg fun hsuccess => hret ((callEngine_success t _).mp hsuccess)]
        exact Or.inr (Or.inl ⟨rfl, hret, rfl⟩)
  | false =>
      rw [if_neg Bool.false_ne_true, if_pos rfl]
      exact Or.inr (Or.inr ⟨rfl, rfl⟩)

/-- The rounds that follow are about other keys. -/
theorem notMem_keys (h : Removing s client (e :: rest) t) : e.1 ∉ rest.map Prod.fst := by
  intro hkey
  obtain ⟨r, hr, heq⟩ := List.mem_map.mp hkey
  have hlt := (h.mem_rest_iff (h.mem_of_mem_rest hr)).mp hr
  exact hlt.ne heq.symm

/-- The loop leaves no session of the client if and only if its calls succeed. -/
theorem foldl_iff (hs : Sized s) (h : Removing s client rest t) :
    (∀ e ∈ ((rest.map Prod.fst).foldl (stopClientSession client) t).mTrackingSessions,
      e.1.client ≠ client) ↔
    Succeed ((rest.filter (s.stopCalls client)).map (s.stopCall client))
      t.mLocApi.answers := by
  induction rest generalizing t with
  | nil =>
      refine iff_of_true (fun e he => ?_) (succeed_nil _)
      have hmem : e ∈ t.mTrackingSessions.toList := he
      rw [h.left, List.mem_filter] at hmem
      simpa using hmem.2
  | cons e rest ih =>
      rw [List.map_cons, List.foldl_cons]
      by_cases hclient : e.1.client = client
      · rcases h.round hs hclient with ⟨hcalls, hret, heq⟩ | ⟨hcalls, hret, heq⟩ | ⟨hcalls, heq⟩
        · rw [heq, List.filter_cons_of_pos hcalls, List.map_cons, succeed_cons,
            and_iff_right hret]
          exact ih (h.next hclient rfl)
        · -- the session stays, and no later round is about it
          rw [heq, List.filter_cons_of_pos hcalls, List.map_cons, succeed_cons]
          refine iff_of_false (fun hnone => ?_) fun hboth => hret hboth.1
          exact hnone e (mem_foldl_stopClientSession h.notMem_keys h.mem) hclient
        · rw [heq, List.filter_cons_of_neg (by simp [hcalls])]
          exact ih (h.next hclient rfl)
      · obtain ⟨hskip, hnext⟩ := h.skip hclient
        have hcalls : ¬ s.stopCalls client e = true := by
          simp [stopCalls, hclient]
        rw [hskip, List.filter_cons_of_neg hcalls]
        exact ih hnext

end Removing

theorem mClientData_find_eraseClient (s : GnssAdapter κ) (client : κ) :
    (s.eraseClient client).mClientData.find client = none := by
  rw [Option.eq_none_iff_forall_ne_some]
  intro callbacks hfind
  exact (SortedMap.mem_erase.mp (SortedMap.find_eq_some.mp hfind)).1 rfl

/-- A removal leaves nothing of the client if and only if the calls that it makes succeed.

The removal stops the sessions one after the other, in the order of their keys. A session calls the
engine if its interval is smaller than those of the sessions that are left. If that call fails the
session stays, and its client is erased all the same. -/
theorem nothingLeft_iff {calls : List (AdapterCall κ)} {answers : List Int}
    {rest : List (AdapterMsg κ)} (hrun : run step new calls = some s)
    (hqueue : s.msgQueue = .removeClient client :: rest)
    (hstep : s.step (.procMsg answers) = some t) :
    NothingLeft t client ↔ Succeed (s.removalCalls client) answers := by
  rw [step, hqueue] at hstep
  cases hstep
  have hsized : Sized (s.receive rest answers) := (sized_run hrun).congr rfl
  have hloop := (Removing.init (s.receive rest answers) client).foldl_iff hsized
  constructor
  · intro h
    exact hloop.mp h.sessions
  · intro h
    exact ⟨hloop.mpr h, mClientData_find_eraseClient _ client⟩

/-- A client with one session is removed. -/
def removedClient : List (AdapterCall Nat) := firstStart ++ [.removeClientCommand 0]

/-- The engine is stopped, and nothing is left. -/
theorem nothingLeft_removedClient :
    ∃ s t, run step (new : GnssAdapter Nat) removedClient = some s ∧
      s.msgQueue = [.removeClient 0] ∧ s.step (.procMsg [0]) = some t ∧ NothingLeft t 0 := by
  have hrun : run step new removedClient = some ((run step new removedClient).get rfl) := rfl
  refine ⟨(run step new removedClient).get rfl, _, rfl, rfl, rfl, ?_⟩
  exact (nothingLeft_iff hrun rfl rfl).mpr (by decide)

/-- The stop of the engine fails. The client is erased, and its session runs on. -/
theorem not_nothingLeft_failedStop :
    ∃ s t, run step (new : GnssAdapter Nat) removedClient = some s ∧
      s.msgQueue = [.removeClient 0] ∧ s.step (.procMsg [1]) = some t ∧ ¬ NothingLeft t 0 := by
  refine ⟨(run step new removedClient).get rfl, _, rfl, rfl, rfl, ?_⟩
  intro h
  exact h.sessions (⟨0, 2⟩, everySecond) List.mem_cons_self rfl

end GnssAdapter

end LocHal.Gnss
