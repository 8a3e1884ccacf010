import LocHal.Gnss.ClientRemoval

/-!
# `LocHal.Gnss.UlpHandover`: what a new ULP proxy is told

`setUlpProxy` tells the new proxy what the old one has recorded: the last mode, and whether a fix
is set. The old one records both before the call of the engine, and a call that fails changes no
session.

`HandsOver` is the property, and `ProxyFollows` says the same of the record
(`handsOver_iff_proxyFollows`). `along_handsOver_iff` is the exact condition on each message: the
calls of the engine succeed, or the first one fails and was a start in the mode that the engine
runs in. The messages that make one call at most share one lemma, `Leaves.keeps`; a client that
leaves is `Removing.keeps_foldl`, by induction on its sessions.

Two cases need a closer look. A start that the engine refuses has already told the proxy its mode,
and the record keeps it, so it is harmless only in the mode in which the engine runs. A client that
leaves makes several calls. When the first one succeeds, the record is right again, and a later one
that fails is no start in the mode of the engine: it is for a larger interval (`head_ne`), and so it
spoils the record (`keeps_success`). When the first one fails, there is no other, because its
session stays in the map and is smaller than the rest (`keeps_failure`).
-/

set_option autoImplicit false

namespace LocHal.Gnss

open LabelledRun

/-- A call on a proxy. -/
inductive UlpCall where
  | sendFixMode (params : LocPosMode)
  | sendStartFix
  | setCapabilities (capabilities : Nat)
  deriving DecidableEq, Repr

/-- The pointer of `MsgSetUlpProxy`: `NULL`, the proxy of the adapter, or another object. -/
inductive UlpPointer where
  | null
  | current
  | other
  deriving DecidableEq, Repr

/-- `GnssAdapter::setUlpProxy`: the calls on the object that becomes the proxy. -/
def setUlpProxy (mUlpProxy : UlpProxyBase) (ulp : UlpPointer) : List UlpCall :=
  if ulp = .current then []
  else
    (match mUlpProxy.mPosMode with
      | some mPosMode => [.sendFixMode mPosMode]
      | none => []) ++ if mUlpProxy.mFixSet then [.sendStartFix] else []

/-- `MsgSetUlpProxy::proc`, with the carrier capabilities. -/
def procSetUlpProxy (mUlpProxy : UlpProxyBase) (ulp : UlpPointer) (capabilities : Nat) :
    List UlpCall :=
  setUlpProxy mUlpProxy ulp ++ if ulp = .null then [] else [.setCapabilities capabilities]

namespace GnssAdapter

variable {κ : Type} [LinearOrder κ]

/-- A message, processed with the answers of the modem. -/
def answeredStep (s : GnssAdapter κ) (m : AdapterMsg κ × List Int) : Option (GnssAdapter κ) :=
  some ((s.receive s.msgQueue m.2).proc m.1)

/-- Another object is started if and only if there is a session, and then it has got the mode
before: the one of the engine, which is the mode of the last start that succeeded. It is asked for
any capabilities, which the object is told of in any case. -/
structure HandsOver (s : GnssAdapter κ) : Prop where
  started : ∀ capabilities,
    .sendStartFix ∈ procSetUlpProxy s.mUlpProxy .other capabilities ↔
      s.mTrackingSessions.isEmpty = false
  mode : ∀ capabilities, s.mTrackingSessions.isEmpty = false →
    ∃ mode before after, s.mLocApi.engine = some mode ∧
      procSetUlpProxy s.mUlpProxy .other capabilities = before ++ .sendStartFix :: after ∧
      .sendFixMode mode ∈ before

/-! ### The calls of a message -/

/-- The call of `startTrackingMultiplex`. -/
def startCalls (s : GnssAdapter κ) (options : LocationOptions) : List (Option LocPosMode) :=
  if s.mTrackingSessions.isEmpty || options.minInterval <
      (smallestIntervalOptions s.mTrackingSessions fun _ => true).minInterval then
    [some (convertOptions options)]
  else []

/-- The call of `updateTrackingMultiplex`. -/
def updateCalls (s : GnssAdapter κ) (key : LocationSessionKey κ)
    (session options : LocationOptions) : List (Option LocPosMode) :=
  if s.mTrackingSessions.size = 1 then [some (convertOptions options)]
  else if options.minInterval < (s.otherSmallest key).minInterval then
    [some (convertOptions options)]
  else if session.minInterval < (s.otherSmallest key).minInterval then
    [some (convertOptions (s.otherSmallest key))]
  else []

/-- The call of `stopTrackingMultiplex`. -/
def endCalls (s : GnssAdapter κ) (key : LocationSessionKey κ) (session : LocationOptions) :
    List (Option LocPosMode) :=
  if s.mTrackingSessions.size = 1 then [none]
  else if session.minInterval < (s.otherSmallest key).minInterval then
    [some (convertOptions (s.otherSmallest key))]
  else []

/-- The calls of a message, as long as they succeed. -/
def engineCalls (s : GnssAdapter κ) : AdapterMsg κ → List (Option LocPosMode)
  | .addClient _ _ => []
  | .removeClient client => s.removalCalls client
  | .startTracking client _ options => if s.accepts client options then s.startCalls options else []
  | .updateTracking client id options =>
      match s.mTrackingSessions.find ⟨client, id⟩ with
      | none => []
      | some session =>
          if options.size = 0 then [] else s.updateCalls ⟨client, id⟩ session options
  | .stopTracking client id =>
      match s.mTrackingSessions.find ⟨client, id⟩ with
      | none => []
      | some session => s.endCalls ⟨client, id⟩ session
  | .restartSessions => []

/-- The first call fails, and it was a start in the mode of the engine. Then the proxy has the mode
of a start that failed, but the engine still runs in the same one. -/
def Harmless (calls : List (Option LocPosMode)) (answers : List Int)
    (engine : Option LocPosMode) : Prop :=
  answers.headD locApiSuccess ≠ locApiSuccess ∧ engine.isSome = true ∧ calls.head? = some engine

/-- The condition on one message. The proxy is told the mode of a start before the engine is called,
and `mPosMode` keeps it if the engine refuses. So all calls of the message succeed, or a refused one
makes no difference. A restart calls the engine with the smallest session, but not the proxy, so the
proxy must have that mode already. -/
def KeepsProxy (s : GnssAdapter κ) : AdapterMsg κ × List Int → Prop
  | (.restartSessions, _) =>
      s.mTrackingSessions.isEmpty = false → s.mUlpProxy.mPosMode =
        some (convertOptions (smallestIntervalOptions s.mTrackingSessions fun _ => true))
  | (msg, answers) =>
      Succeed (s.engineCalls msg) answers ∨
        Harmless (s.engineCalls msg) answers s.mLocApi.engine

variable {s t : GnssAdapter κ} {client : κ} {id : Nat} {key : LocationSessionKey κ}
  {options old : LocationOptions} {calls : List (Option LocPosMode)} {answers : List Int}
  {saved : SortedMap (LocationSessionKey κ) LocationOptions} {mode : LocPosMode}

/-! ### The record of the proxy -/

/-- The engine runs if and only if there is a session. -/
def EngineRuns (s : GnssAdapter κ) : Prop :=
  s.mLocApi.engine.isSome = true ↔ s.mTrackingSessions.isEmpty = false

/-- The proxy has recorded a fix if and only if there is a session, and then the mode of the
engine. -/
structure ProxyFollows (s : GnssAdapter κ) : Prop where
  fixSet : s.mUlpProxy.mFixSet = true ↔ s.mTrackingSessions.isEmpty = false
  posMode : s.mTrackingSessions.isEmpty = false → s.mUlpProxy.mPosMode = s.mLocApi.engine

/-- What a hand-over needs is the record. -/
theorem handsOver_iff_proxyFollows (hruns : EngineRuns s) : HandsOver s ↔ ProxyFollows s := by
  have hcalls : ∀ capabilities, procSetUlpProxy s.mUlpProxy .other capabilities =
      ((match s.mUlpProxy.mPosMode with
        | some mPosMode => [.sendFixMode mPosMode]
        | none => []) ++ if s.mUlpProxy.mFixSet then [.sendStartFix] else []) ++
        [.setCapabilities capabilities] := fun _ => rfl
  have hstart : ∀ capabilities,
      UlpCall.sendStartFix ∈ procSetUlpProxy s.mUlpProxy .other capabilities ↔
        s.mUlpProxy.mFixSet = true := by
    intro capabilities
    rw [hcalls]
    cases s.mUlpProxy.mPosMode <;> cases s.mUlpProxy.mFixSet <;> simp
  have hmode : ∀ capabilities mode,
      UlpCall.sendFixMode mode ∈ procSetUlpProxy s.mUlpProxy .other capabilities ↔
        s.mUlpProxy.mPosMode = some mode := by
    intro capabilities mode
    rw [hcalls]
    cases s.mUlpProxy.mPosMode <;> cases s.mUlpProxy.mFixSet <;> simp [eq_comm]
  constructor
  · intro h
    refine ⟨(hstart 0).symm.trans (h.started 0), fun hne => ?_⟩
    obtain ⟨mode, before, after, hengine, heq, hmem⟩ := h.mode 0 hne
    rw [hengine]
    refine (hmode 0 mode).mp ?_
    rw [heq]
    exact List.mem_append_left _ hmem
  · intro h
    refine ⟨fun capabilities => (hstart capabilities).trans h.fixSet, fun capabilities hne => ?_⟩
    obtain ⟨mode, hengine⟩ := Option.isSome_iff_exists.mp (hruns.mpr hne)
    refine ⟨mode, [.sendFixMode mode], [.setCapabilities capabilities], hengine, ?_, by simp⟩
    rw [hcalls, h.posMode hne, hengine, h.fixSet.mpr hne]
    rfl

/-! ### A message with one call at most -/

/-- The first call of the list, when there is one. -/
def callFirst (s : GnssAdapter κ) : List (Option LocPosMode) → GnssAdapter κ × LocationError
  | [] => (s, .success)
  | call :: _ => s.callEngine call

/-- What a message leaves after a multiplexer with the result `r`. -/
structure Leaves (t : GnssAdapter κ) (r : GnssAdapter κ × LocationError)
    (saved : SortedMap (LocationSessionKey κ) LocationOptions) : Prop where
  proxy : t.mUlpProxy = r.1.mUlpProxy
  engine : t.mLocApi.engine = r.1.mLocApi.engine
  sessions : t.mTrackingSessions = if r.2 = .success then saved else r.1.mTrackingSessions

/-- The sessions that a success leaves fit the call: a start leaves one, a stop was for the last
one, and without a call it makes no difference. -/
structure Fits (s : GnssAdapter κ) (calls : List (Option LocPosMode))
    (saved : SortedMap (LocationSessionKey κ) LocationOptions) : Prop where
  one : calls.length ≤ 1
  start : ∀ mode, calls = [some mode] → saved.isEmpty = false
  stop : calls = [none] → s.mTrackingSessions.isEmpty = false ∧ saved.isEmpty = true
  keep : calls = [] → saved.isEmpty = s.mTrackingSessions.isEmpty

theorem EngineRuns.congr (hs : EngineRuns s) (hengine : t.mLocApi.engine = s.mLocApi.engine)
    (hempty : t.mTrackingSessions.isEmpty = s.mTrackingSessions.isEmpty) : EngineRuns t := by
  unfold EngineRuns
  rw [hengine, hempty]
  exact hs

theorem ProxyFollows.congr (hs : ProxyFollows s) (hproxy : t.mUlpProxy = s.mUlpProxy)
    (hengine : t.mLocApi.engine = s.mLocApi.engine)
    (hempty : t.mTrackingSessions.isEmpty = s.mTrackingSessions.isEmpty) : ProxyFollows t := by
  constructor
  · rw [hproxy, hempty]
    exact hs.fixSet
  · rw [hproxy, hengine, hempty]
    exact hs.posMode

/-- What is left after the calls: the record is right if and only if they succeeded, or the first
one failed without harm. -/
def Keeps (s t : GnssAdapter κ) (calls : List (Option LocPosMode)) : Prop :=
  EngineRuns t ∧ (ProxyFollows t ↔ Succeed calls s.mLocApi.answers ∨
    Harmless calls s.mLocApi.answers s.mLocApi.engine)

/-- Without a call it is enough that nothing has changed. -/
theorem keeps_nil (hruns : EngineRuns s) (hs : ProxyFollows s)
    (hproxy : t.mUlpProxy = s.mUlpProxy) (hengine : t.mLocApi.engine = s.mLocApi.engine)
    (hempty : t.mTrackingSessions.isEmpty = s.mTrackingSessions.isEmpty) : Keeps s t [] :=
  ⟨hruns.congr hengine hempty,
    iff_of_true (hs.congr hproxy hengine hempty) (Or.inl (succeed_nil _))⟩

/-- After a call that succeeded, the engine and the record are what the call says. -/
theorem keeps_of_success {call : Option LocPosMode} (hengine : t.mLocApi.engine = call)
    (hproxy : t.mUlpProxy = ⟨call <|> s.mUlpProxy.mPosMode, call.isSome⟩)
    (hsessions : call.isSome = true ↔ t.mTrackingSessions.isEmpty = false) :
    EngineRuns t ∧ ProxyFollows t := by
  refine ⟨?_, ?_, fun hne => ?_⟩
  · unfold EngineRuns
    rw [hengine]
    exact hsessions
  · rw [hproxy]
    exact hsessions
  · obtain ⟨mode, rfl⟩ := Option.isSome_iff_exists.mp (hsessions.mpr hne)
    rw [hproxy, hengine]
    rfl

/-- After a call that failed, the record is right when the call was a start in the mode of the
engine. -/
theorem keeps_of_failure {call : Option LocPosMode} (hruns : EngineRuns s)
    (hengine : t.mLocApi.engine = s.mLocApi.engine)
    (hproxy : t.mUlpProxy = ⟨call <|> s.mUlpProxy.mPosMode, call.isSome⟩)
    (hempty : t.mTrackingSessions.isEmpty = s.mTrackingSessions.isEmpty)
    (hstop : call = none → s.mTrackingSessions.isEmpty = false) :
    EngineRuns t ∧
      (ProxyFollows t ↔ s.mLocApi.engine.isSome = true ∧ call = s.mLocApi.engine) := by
  refine ⟨hruns.congr hengine hempty, ?_⟩
  cases call with
  | none =>
      -- the record says that no fix is set
      refine iff_of_false (fun h => ?_) fun h => ?_
      · have hset := h.fixSet.mpr (hempty.trans (hstop rfl))
        rw [hproxy] at hset
        exact Bool.false_ne_true hset
      · rw [← h.2] at h
        exact Bool.false_ne_true h.1
  | some mode =>
      constructor
      · intro h
        have hne : t.mTrackingSessions.isEmpty = false := by
          rw [← h.fixSet, hproxy]
          rfl
        have hmode := h.posMode hne
        rw [hproxy, hengine] at hmode
        exact ⟨hruns.mpr (hempty.symm.trans hne), hmode⟩
      · rintro ⟨hsome, hmode⟩
        have hne := hruns.mp hsome
        refine ⟨?_, fun _ => ?_⟩
        · rw [hproxy, hempty]
          exact iff_of_true rfl hne
        · rw [hproxy, hengine]
          exact hmode

/-- A message with one call at most. -/
theorem Leaves.keeps (hruns : EngineRuns s) (hs : ProxyFollows s)
    (h : Leaves t (s.callFirst calls) saved) (hfits : Fits s calls saved) : Keeps s t calls := by
  match calls with
  | [] =>
      refine keeps_nil hruns hs h.proxy h.engine ?_
      rw [h.sessions]
      exact hfits.keep rfl
  | [call] =>
      unfold Keeps Harmless
      rw [succeed_cons, and_iff_left (succeed_nil _)]
      obtain ⟨hproxy, hengine, hsessions⟩ := h
      by_cases hret : s.mLocApi.answers.headD locApiSuccess = locApiSuccess
      · have hsuccess : (s.callFirst [call]).2 = .success := (callEngine_success s call).mpr hret
        rw [if_pos hsuccess] at hsessions
        have hcall : (s.callFirst [call]).1.mLocApi.engine = call := if_pos hret
        obtain ⟨hruns', hfollows⟩ := keeps_of_success (hengine.trans hcall) hproxy (by
          rw [hsessions]
          cases call with
          | none => simp [(hfits.stop rfl).2]
          | some mode => simp [hfits.start mode rfl])
        exact ⟨hruns', iff_of_true hfollows (Or.inl hret)⟩
      · have hfailure : ¬ (s.callFirst [call]).2 = .success := fun hsuccess =>
          hret ((callEngine_success s call).mp hsuccess)
        rw [if_neg hfailure] at hsessions
        have hcall : (s.callFirst [call]).1.mLocApi.engine = s.mLocApi.engine := if_neg hret
        obtain ⟨hruns', hfollows⟩ := keeps_of_failure hruns (hengine.trans hcall) hproxy
          (congrArg _ hsessions) (fun hnone => (hfits.stop (congrArg (fun c => [c]) hnone)).1)
        refine ⟨hruns', hfollows.trans ?_⟩
        rw [or_iff_right hret, and_iff_right hret, List.head?_cons, Option.some.injEq]
  | _ :: _ :: _ =>
      have hone := hfits.one
      simp at hone

@[simp] theorem mUlpProxy_reportResponse (s : GnssAdapter κ) (client : κ) (err : LocationError)
    (id : Nat) : (s.reportResponse client err id).mUlpProxy = s.mUlpProxy := by
  unfold reportResponse
  split <;> rfl

theorem Leaves.reportResponse {r : GnssAdapter κ × LocationError} (h : Leaves t r saved)
    (client : κ) (err : LocationError) (id : Nat) :
    Leaves (t.reportResponse client err id) r saved := by
  obtain ⟨hproxy, hengine, hsessions⟩ := h
  constructor
  · rw [mUlpProxy_reportResponse]
    exact hproxy
  · rw [mLocApi_reportResponse]
    exact hengine
  · rw [mTrackingSessions_reportResponse]
    exact hsessions

/-- A success leaves `u`, and a failure leaves what the multiplexer has left. -/
theorem leaves_ite {r : GnssAdapter κ × LocationError} {u : GnssAdapter κ}
    (hproxy : u.mUlpProxy = r.1.mUlpProxy) (hengine : u.mLocApi.engine = r.1.mLocApi.engine)
    (hsessions : u.mTrackingSessions = saved) :
    Leaves (if r.2 = .success then u else r.1) r saved := by
  split
  · rename_i hsuccess
    exact ⟨hproxy, hengine, hsessions.trans (if_pos hsuccess).symm⟩
  · rename_i hfailure
    exact ⟨rfl, rfl, (if_neg hfailure).symm⟩

/-- `saveTrackingSession` after a multiplexer. -/
theorem leaves_save {r : GnssAdapter κ × LocationError} (hr : CallsOnce s r) (client : κ)
    (id : Nat) (options : LocationOptions) :
    Leaves (if r.2 = .success then r.1.saveTrackingSession client id options else r.1) r
      (s.mTrackingSessions.insert ⟨client, id⟩ options) := by
  rw [← hr.sessions]
  exact leaves_ite rfl rfl rfl

/-- `eraseTrackingSession` after a multiplexer. -/
theorem leaves_erase {r : GnssAdapter κ × LocationError} (hr : CallsOnce s r) (client : κ)
    (id : Nat) :
    Leaves (if r.2 = .success then r.1.eraseTrackingSession client id else r.1) r
      (s.mTrackingSessions.erase ⟨client, id⟩) := by
  rw [← hr.sessions]
  exact leaves_ite rfl rfl rfl

/-! ### The multiplexers -/

theorem startTrackingMultiplex_eq_callFirst (s : GnssAdapter κ) (options : LocationOptions) :
    s.startTrackingMultiplex options = s.callFirst (s.startCalls options) := by
  unfold startTrackingMultiplex startCalls
  dsimp only
  by_cases hempty : s.mTrackingSessions.isEmpty = true
  · rw [if_pos hempty, if_pos (by simp [hempty])]
    rfl
  · rw [if_neg hempty]
    split
    · rename_i hlt
      rw [if_pos (by simp [hlt])]
      rfl
    · rename_i hnlt
      rw [if_neg (by simp [hempty, hnlt])]
      rfl

theorem updateTrackingMultiplex_eq_callFirst
    (hold : (⟨client, id⟩, old) ∈ s.mTrackingSessions) (options : LocationOptions) :
    s.updateTrackingMultiplex client id options =
      s.callFirst (s.updateCalls ⟨client, id⟩ old options) := by
  rw [updateTrackingMultiplex_of_mem options hold]
  unfold updateCalls
  split
  · rfl
  · split
    · rfl
    · split
      · rfl
      · rfl

theorem stopTrackingMultiplex_eq_callFirst
    (hold : (⟨client, id⟩, old) ∈ s.mTrackingSessions) :
    s.stopTrackingMultiplex client id = s.callFirst (s.endCalls ⟨client, id⟩ old) := by
  rw [stopTrackingMultiplex_of_mem hold]
  unfold endCalls
  split
  · rfl
  · split
    · rfl
    · rfl

/-- A session that is saved is left. -/
theorem isEmpty_insert : (s.mTrackingSessions.insert key options).isEmpty = false :=
  SortedMap.isEmpty_eq_false_iff.mpr ⟨_, mem_insert_self⟩

theorem fits_startCalls : Fits s (s.startCalls options)
    (s.mTrackingSessions.insert key options) := by
  unfold startCalls
  split
  · exact ⟨le_refl 1, fun _ _ => isEmpty_insert, fun h => by simp at h, fun h => by simp at h⟩
  · rename_i hcall
    refine ⟨Nat.zero_le 1, fun _ h => by simp at h, fun h => by simp at h, fun _ => ?_⟩
    simp only [Bool.or_eq_true, not_or, Bool.not_eq_true] at hcall
    exact isEmpty_insert.trans hcall.1.symm

theorem fits_updateCalls (hold : (key, old) ∈ s.mTrackingSessions) :
    Fits s (s.updateCalls key old options) (s.mTrackingSessions.insert key options) := by
  have hstart : ∀ mode : LocPosMode,
      Fits s [some mode] (s.mTrackingSessions.insert key options) := fun mode =>
    ⟨le_refl 1, fun _ _ => isEmpty_insert, fun h => by simp at h, fun h => by simp at h⟩
  unfold updateCalls
  split
  · exact hstart _
  · split
    · exact hstart _
    · split
      · exact hstart _
      · refine ⟨Nat.zero_le 1, fun _ h => by simp at h, fun h => by simp at h, fun _ => ?_⟩
        exact isEmpty_insert.trans (SortedMap.isEmpty_eq_false_iff.mpr ⟨_, hold⟩).symm

theorem fits_endCalls (hold : (key, old) ∈ s.mTrackingSessions) :
    Fits s (s.endCalls key old) (s.mTrackingSessions.erase key) := by
  have hne : s.mTrackingSessions.isEmpty = false := SortedMap.isEmpty_eq_false_iff.mpr ⟨_, hold⟩
  unfold endCalls
  split
  · rename_i hsize
    refine ⟨le_refl 1, fun _ h => by simp at h, fun _ => ⟨hne, ?_⟩, fun h => by simp at h⟩
    rw [SortedMap.isEmpty_iff]
    rintro ⟨k, v⟩ he
    obtain ⟨hkey, he⟩ := SortedMap.mem_erase.mp he
    exact hkey (congrArg Prod.fst (SortedMap.eq_of_size_one hsize he hold))
  · rename_i hsize
    -- another session is left
    obtain ⟨k, v, hother, hkey⟩ := SortedMap.exists_other hsize hold
    have hleft : (s.mTrackingSessions.erase key).isEmpty = false :=
      SortedMap.isEmpty_eq_false_iff.mpr ⟨(k, v), SortedMap.mem_erase.mpr ⟨hkey, hother⟩⟩
    split
    · exact ⟨le_refl 1, fun _ _ => hleft, fun h => by simp at h, fun h => by simp at h⟩
    · exact ⟨Nat.zero_le 1, fun _ h => by simp at h, fun h => by simp at h,
        fun _ => hleft.trans hne.symm⟩

/-! ### A client that leaves -/

/-- As long as a session is smaller than all others, the rounds for the others call nothing. -/
theorem foldl_stopClientSession_quiet {e : LocationSessionKey κ × LocationOptions}
    {keys : List (LocationSessionKey κ)} (hs : Sized t) (hnodup : keys.Nodup)
    (he : e ∈ t.mTrackingSessions) (hkey : e.1 ∉ keys)
    (hsmallest : ∀ r ∈ t.mTrackingSessions, r.1 ≠ e.1 → e.2.minInterval < r.2.minInterval)
    (hkeys : ∀ k ∈ keys, k.client = client → ∃ v, (k, v) ∈ t.mTrackingSessions) :
    (keys.foldl (stopClientSession client) t).mUlpProxy = t.mUlpProxy ∧
      (keys.foldl (stopClientSession client) t).mLocApi.engine = t.mLocApi.engine := by
  -- on the keys; the smallest session `e` is none of them
  induction keys generalizing t with
  | nil => exact ⟨rfl, rfl⟩
  | cons key keys ih =>
      obtain ⟨hnew, hnodup⟩ := List.nodup_cons.mp hnodup
      rw [List.mem_cons, not_or] at hkey
      obtain ⟨hne, hkey⟩ := hkey
      rw [List.foldl_cons]
      by_cases hclient : key.client = client
      · obtain ⟨v, hv⟩ := hkeys key List.mem_cons_self hclient
        have hsize : t.mTrackingSessions.size ≠ 1 := fun hone =>
          hne (congrArg Prod.fst (SortedMap.eq_of_size_one hone he hv))
        have hle := (otherSmallest_spec hs hsize hv).2 e he hne
        have hlt : e.2.minInterval < v.minInterval := hsmallest _ hv (Ne.symm hne)
        -- the session is not the smallest, so the engine runs on as it is
        have hmultiplex : t.stopTrackingMultiplex key.client key.id = (t, .success) := by
          rw [stopTrackingMultiplex_of_mem hv, if_neg hsize, if_neg]
          exact not_lt.mpr (hle.trans hlt.le)
        have hround : stopClientSession client t key =
            t.eraseTrackingSession key.client key.id := by
          unfold stopClientSession
          rw [if_pos hclient.symm, hmultiplex]
          rfl
        have herase : ∀ r, r ∈ (t.eraseTrackingSession key.client key.id).mTrackingSessions ↔
            r.1 ≠ key ∧ r ∈ t.mTrackingSessions := fun r => SortedMap.mem_erase
        rw [hround]
        refine ih (t := t.eraseTrackingSession key.client key.id) (fun r hr => hs r ?_) hnodup
          ((herase e).mpr ⟨hne, he⟩) hkey (fun r hr => hsmallest r ?_) fun k hk hsame => ?_
        · exact ((herase r).mp hr).2
        · exact ((herase r).mp hr).2
        · obtain ⟨o, ho⟩ := hkeys k (List.mem_cons_of_mem _ hk) hsame
          exact ⟨o, (herase (k, o)).mpr ⟨fun heq => hnew (heq ▸ hk), ho⟩⟩
      · have hskip : stopClientSession client t key = t := by
          unfold stopClientSession
          rw [if_neg (Ne.symm hclient)]
        rw [hskip]
        exact ih hs hnodup he hkey hsmallest fun k hk => hkeys k (List.mem_cons_of_mem _ hk)

namespace Removing

variable {e : LocationSessionKey κ × LocationOptions}
  {rest : List (LocationSessionKey κ × LocationOptions)}

/-- A later call is a start with a larger interval than the engine has after a call. -/
theorem head_ne (hs : Sized s) (h : Removing s client (e :: rest) t)
    (hcall : s.stopCall client e = some mode) :
    ((rest.filter (s.stopCalls client)).map (s.stopCall client)).head? ≠ some (some mode) := by
  intro hhead
  rw [List.head?_map, Option.map_eq_some_iff] at hhead
  obtain ⟨r, hr, hrcall⟩ := hhead
  have hmem := List.mem_of_mem_head? hr
  obtain ⟨hrest, hcalls⟩ := List.mem_filter.mp hmem
  obtain ⟨hrclient, hall⟩ := Bool.and_eq_true_iff.mp hcalls
  have hrs := h.mem_of_mem_rest hrest
  -- the mode has an interval that is at most the one of `r`
  have hle : mode.min_interval ≤ r.2.minInterval := by
    unfold stopCall at hcall
    split at hcall
    · cases hcall
    · cases hcall
      have hafter : leftAfter client e.1 r.1 = true := by
        simp [leftAfter, (h.mem_rest_iff hrs).mp hrest]
      exact (smallestIntervalOptions_spec _ hs ⟨r, hrs, hafter⟩).2 r hrs hafter
  -- and the interval of the later start is larger
  unfold stopCall at hrcall
  split at hrcall
  · cases hrcall
  · rename_i hne
    cases hrcall
    obtain ⟨a, ha⟩ := List.exists_mem_of_ne_nil (s.leftSessions client r.1) fun hnil =>
      hne (List.isEmpty_iff.mpr hnil)
    obtain ⟨ha, hafter⟩ := List.mem_filter.mp ha
    obtain ⟨⟨b, hb, hbafter, hbeq⟩, -⟩ := smallestIntervalOptions_spec (leftAfter client r.1) hs
      ⟨a, ha, hafter⟩
    have hlt := of_decide_eq_true (List.all_eq_true.mp hall b (List.mem_filter.mpr ⟨hb, hbafter⟩))
    rw [hbeq] at hlt
    exact absurd hle (not_le.mpr hlt)

/-- The engine is stopped when no session is left. -/
theorem isSome_stopCall (h : Removing s client (e :: rest) t) (hclient : e.1.client = client) :
    (s.stopCall client e).isSome = true ↔
      (t.mTrackingSessions.erase e.1).isEmpty = false := by
  show _ ↔ (t.mTrackingSessions.erase e.1).toList.isEmpty = false
  rw [h.toList_erase hclient]
  unfold stopCall
  cases (s.leftSessions client e.1).isEmpty <;> simp

/-- Without a call another session is left. -/
theorem isEmpty_erase_of_not_stopCalls (h : Removing s client (e :: rest) t)
    (hclient : e.1.client = client) (hcalls : s.stopCalls client e = false) :
    (t.mTrackingSessions.erase e.1).isEmpty = false := by
  show (t.mTrackingSessions.erase e.1).toList.isEmpty = false
  rw [h.toList_erase hclient, Bool.eq_false_iff]
  intro hnil
  rw [List.isEmpty_iff] at hnil
  simp [stopCalls, hclient, hnil] at hcalls

/-- After a call that succeeds the record is right, and no later failure is harmless. -/
theorem keeps_success {u : GnssAdapter κ} (h : Removing s client (e :: rest) t) (hs : Sized s)
    (hclient : e.1.client = client)
    (hret : t.mLocApi.answers.headD locApiSuccess = locApiSuccess)
    (hrest : EngineRuns ((t.callEngine (s.stopCall client e)).1.eraseTrackingSession
        e.1.client e.1.id) →
      ProxyFollows ((t.callEngine (s.stopCall client e)).1.eraseTrackingSession
        e.1.client e.1.id) →
      Keeps ((t.callEngine (s.stopCall client e)).1.eraseTrackingSession e.1.client e.1.id) u
        ((rest.filter (s.stopCalls client)).map (s.stopCall client))) :
    Keeps t u (s.stopCall client e ::
      (rest.filter (s.stopCalls client)).map (s.stopCall client)) := by
  have hengine : ((t.callEngine (s.stopCall client e)).1.eraseTrackingSession
      e.1.client e.1.id).mLocApi.engine = s.stopCall client e := if_pos hret
  obtain ⟨hruns, hfollows⟩ := keeps_of_success (s := t) hengine rfl (h.isSome_stopCall hclient)
  obtain ⟨hruns', hiff⟩ := hrest hruns hfollows
  refine ⟨hruns', hiff.trans ?_⟩
  have hlater : ¬ Harmless ((rest.filter (s.stopCalls client)).map (s.stopCall client))
      t.mLocApi.answers.tail (s.stopCall client e) := by
    rintro ⟨-, hsome, hhead⟩
    obtain ⟨mode, hmode⟩ := Option.isSome_iff_exists.mp hsome
    rw [hmode] at hhead
    exact h.head_ne hs hmode hhead
  have hfirst : ¬ Harmless (s.stopCall client e ::
      (rest.filter (s.stopCalls client)).map (s.stopCall client)) t.mLocApi.answers
      t.mLocApi.engine := fun hharmless => hharmless.1 hret
  rw [hengine, or_iff_left hfirst, succeed_cons, and_iff_right hret]
  exact or_iff_left hlater

/-- After a call that fails there is no other one. -/
theorem keeps_failure (h : Removing s client (e :: rest) t) (hs : Sized s)
    (hclient : e.1.client = client) (hruns : EngineRuns t) (hcalls : s.stopCalls client e = true)
    (hret : t.mLocApi.answers.headD locApiSuccess ≠ locApiSuccess) :
    Keeps t ((rest.map Prod.fst).foldl (stopClientSession client)
        (t.callEngine (s.stopCall client e)).1)
      (s.stopCall client e :: (rest.filter (s.stopCalls client)).map (s.stopCall client)) := by
  obtain ⟨visited, hlist⟩ := h.suffix
  have hsorted := s.mTrackingSessions.nodup_keys
  rw [hlist, List.map_append, List.map_cons] at hsorted
  have hnodup := (List.nodup_cons.mp (List.nodup_append.mp hsorted).2.1).2
  have hsmallest : ∀ r ∈ t.mTrackingSessions, r.1 ≠ e.1 →
      e.2.minInterval < r.2.minInterval := by
    intro r hr hne
    have hall := (Bool.and_eq_true_iff.mp hcalls).2
    refine of_decide_eq_true (List.all_eq_true.mp hall r ?_)
    rw [← h.filter_ne hclient]
    exact List.mem_filter.mpr ⟨hr, decide_eq_true hne⟩
  have hkeys : ∀ k ∈ rest.map Prod.fst, k.client = client →
      ∃ v, (k, v) ∈ t.mTrackingSessions := by
    intro k hk _
    obtain ⟨⟨k, v⟩, hr, rfl⟩ := List.mem_map.mp hk
    refine ⟨v, ?_⟩
    show (k, v) ∈ t.mTrackingSessions.toList
    rw [h.left, List.mem_filter]
    exact ⟨h.mem_of_mem_rest hr, by simp [hr]⟩
  have hsized : Sized (t.callEngine (s.stopCall client e)).1 := h.sized hs
  obtain ⟨hproxy, hengine⟩ := foldl_stopClientSession_quiet hsized hnodup h.mem h.notMem_keys
    hsmallest hkeys
  have hne : t.mTrackingSessions.isEmpty = false := SortedMap.isEmpty_eq_false_iff.mpr ⟨e, h.mem⟩
  have hstays : e ∈ ((rest.map Prod.fst).foldl (stopClientSession client)
      (t.callEngine (s.stopCall client e)).1).mTrackingSessions :=
    mem_foldl_stopClientSession h.notMem_keys h.mem
  have hleft := SortedMap.isEmpty_eq_false_iff.mpr ⟨e, hstays⟩
  have hsame : (t.callEngine (s.stopCall client e)).1.mLocApi.engine = t.mLocApi.engine :=
    if_neg hret
  obtain ⟨hruns', hiff⟩ := keeps_of_failure hruns (hengine.trans hsame) hproxy
    (hleft.trans hne.symm) fun _ => hne
  refine ⟨hruns', hiff.trans ?_⟩
  unfold Harmless
  rw [succeed_cons, List.head?_cons, Option.some.injEq, and_iff_right hret,
    or_iff_right fun hboth => hret hboth.1]

/-- The loop, by induction on the sessions that it visits. -/
theorem keeps_foldl (hs : Sized s) (h : Removing s client rest t) (hruns : EngineRuns t)
    (hfollows : ProxyFollows t) :
    Keeps t ((rest.map Prod.fst).foldl (stopClientSession client) t)
      ((rest.filter (s.stopCalls client)).map (s.stopCall client)) := by
  induction rest generalizing t with
  | nil => exact keeps_nil hruns hfollows rfl rfl rfl
  | cons e rest ih =>
      rw [List.map_cons, List.foldl_cons]
      by_cases hclient : e.1.client = client
      · have hne : t.mTrackingSessions.isEmpty = false :=
          SortedMap.isEmpty_eq_false_iff.mpr ⟨e, h.mem⟩
        rcases h.round hs hclient with ⟨hcalls, hret, heq⟩ | ⟨hcalls, hret, heq⟩ | ⟨hcalls, heq⟩
        · rw [heq, List.filter_cons_of_pos hcalls, List.map_cons]
          exact h.keeps_success hs hclient hret (ih (h.next hclient rfl))
        · rw [heq, List.filter_cons_of_pos hcalls, List.map_cons]
          exact h.keeps_failure hs hclient hruns hcalls hret
        · -- another session is left, so nothing changes
          rw [heq, List.filter_cons_of_neg (by simp [hcalls])]
          have hleft := h.isEmpty_erase_of_not_stopCalls hclient hcalls
          have hempty := hleft.trans hne.symm
          exact ih (h.next hclient rfl) (hruns.congr rfl hempty) (hfollows.congr rfl rfl hempty)
      · obtain ⟨hskip, hnext⟩ := h.skip hclient
        have hcalls : ¬ s.stopCalls client e = true := by
          simp [stopCalls, hclient]
        rw [hskip, List.filter_cons_of_neg hcalls]
        exact ih hnext hruns hfollows

end Removing

/-! ### One message -/

/-- A message that only makes a response. -/
theorem keeps_reportResponse (hruns : EngineRuns s) (hs : ProxyFollows s) (client : κ)
    (err : LocationError) (id : Nat) : Keeps s (s.reportResponse client err id) [] :=
  keeps_nil hruns hs (mUlpProxy_reportResponse s client err id)
    (congrArg _ (mLocApi_reportResponse s client err id))
    (congrArg _ (mTrackingSessions_reportResponse s client err id))

theorem keeps_startTracking (hruns : EngineRuns s) (hs : ProxyFollows s) (client : κ) (id : Nat)
    (options : LocationOptions) :
    Keeps s (s.procStartTracking client id options)
      (s.engineCalls (.startTracking client id options)) := by
  unfold engineCalls
  dsimp only
  rcases procStartTracking_cases s client id options with ⟨hrejects, err, heq⟩ | ⟨haccepts, heq⟩
  · rw [heq, hrejects, if_neg Bool.false_ne_true]
    exact keeps_reportResponse hruns hs client err id
  · rw [heq, haccepts, if_pos rfl]
    have hleaves := leaves_save (callsOnce_startTrackingMultiplex s options) client id options
    rw [startTrackingMultiplex_eq_callFirst] at hleaves ⊢
    exact (hleaves.reportResponse client _ id).keeps hruns hs fits_startCalls

theorem keeps_updateTracking (hruns : EngineRuns s) (hs : ProxyFollows s) (client : κ) (id : Nat)
    (options : LocationOptions) :
    Keeps s (s.procUpdateTracking client id options)
      (s.engineCalls (.updateTracking client id options)) := by
  unfold engineCalls
  dsimp only
  cases hfind : s.mTrackingSessions.find ⟨client, id⟩ with
  | none =>
      rw [procUpdateTracking_of_find hfind]
      exact keeps_nil hruns hs rfl rfl rfl
  | some old =>
      have hold := SortedMap.find_eq_some.mp hfind
      unfold procUpdateTracking
      rw [if_pos (isTrackingSession_of_mem hold)]
      dsimp only
      split
      · exact keeps_reportResponse hruns hs client _ id
      · have hcalls := callsOnce_updateTrackingMultiplex s client id options
        have hleaves := leaves_save hcalls client id options
        rw [updateTrackingMultiplex_eq_callFirst hold] at hleaves ⊢
        exact (hleaves.reportResponse client _ id).keeps hruns hs (fits_updateCalls hold)

theorem keeps_stopTracking (hruns : EngineRuns s) (hs : ProxyFollows s) (client : κ) (id : Nat) :
    Keeps s (s.procStopTracking client id) (s.engineCalls (.stopTracking client id)) := by
  unfold engineCalls
  dsimp only
  cases hfind : s.mTrackingSessions.find ⟨client, id⟩ with
  | none =>
      rw [procStopTracking_of_find hfind]
      exact keeps_nil hruns hs rfl rfl rfl
  | some old =>
      have hold := SortedMap.find_eq_some.mp hfind
      unfold procStopTracking
      rw [if_pos (isTrackingSession_of_mem hold)]
      have hleaves := leaves_erase (callsOnce_stopTrackingMultiplex s client id) client id
      rw [stopTrackingMultiplex_eq_callFirst hold] at hleaves ⊢
      exact (hleaves.reportResponse client _ id).keeps hruns hs (fits_endCalls hold)

/-- What holds as long as every message keeps the record. -/
structure HandoverInv (s : GnssAdapter κ) : Prop where
  sized : Sized s
  runs : EngineRuns s
  follows : ProxyFollows s

theorem handoverInv_new : HandoverInv (new : GnssAdapter κ) where
  sized := sized_new
  runs := by simp [EngineRuns, new, SortedMap.isEmpty, EmptyCollection.emptyCollection]
  follows := by
    constructor
    · simp [new, UlpProxyBase.new, SortedMap.isEmpty, EmptyCollection.emptyCollection]
    · intro h
      cases h

/-- A restart starts the engine for the sessions, and the record stays. -/
theorem restart_keeps (hs : HandoverInv s) (answers : List Int) :
    EngineRuns (s.proc .restartSessions) ∧
    (ProxyFollows (s.proc .restartSessions) ↔ s.KeepsProxy (.restartSessions, answers)) := by
  obtain ⟨-, hruns, hfollows⟩ := hs
  cases hempty : s.mTrackingSessions.isEmpty with
  | true =>
      have hnone : s.proc .restartSessions = { s with mLocApi := ⟨none, []⟩ } := by
        unfold proc restartSessions
        exact if_pos hempty
      rw [hnone]
      refine ⟨?_, iff_of_true ⟨hfollows.fixSet, fun hne => ?_⟩ fun hne => ?_⟩
      · simp [EngineRuns, hempty]
      · exact absurd (hempty.symm.trans hne) (by simp)
      · exact absurd (hempty.symm.trans hne) (by simp)
  | false =>
      have hsome : s.proc .restartSessions = { s with
          mLocApi := ⟨some (convertOptions
            (smallestIntervalOptions s.mTrackingSessions fun _ => true)), []⟩ } := by
        unfold proc restartSessions
        exact if_neg (by simp [hempty])
      rw [hsome]
      refine ⟨?_, fun h hne => h.posMode hne, fun h => ⟨hfollows.fixSet, fun hne => h hne⟩⟩
      simp [EngineRuns, hempty]

/-- The condition is exact for one message. -/
theorem answeredStep_keeps {m : AdapterMsg κ × List Int} (hs : HandoverInv s)
    (h : s.answeredStep m = some t) :
    Sized t ∧ EngineRuns t ∧ (ProxyFollows t ↔ s.KeepsProxy m) := by
  cases h
  obtain ⟨msg, answers⟩ := m
  have hreceive : HandoverInv (s.receive s.msgQueue answers) :=
    ⟨hs.sized, hs.runs, hs.follows.congr rfl rfl rfl⟩
  refine ⟨sized_proc hreceive.sized msg, ?_⟩
  obtain ⟨hsized, hruns, hfollows⟩ := hreceive
  cases msg with
  | addClient client callbacks => exact keeps_nil hruns hfollows rfl rfl rfl
  | removeClient client =>
      have hloop := (Removing.init (s.receive s.msgQueue answers) client).keeps_foldl hsized hruns
        hfollows
      refine ⟨hloop.1, Iff.trans ?_ hloop.2⟩
      exact ⟨fun h => h.congr rfl rfl rfl, fun h => h.congr rfl rfl rfl⟩
  | startTracking client id options => exact keeps_startTracking hruns hfollows client id options
  | updateTracking client id options => exact keeps_updateTracking hruns hfollows client id options
  | stopTracking client id => exact keeps_stopTracking hruns hfollows client id
  | restartSessions =>
      have hrestart := restart_keeps (s := s.receive s.msgQueue answers) ⟨hsized, hruns, hfollows⟩
        answers
      exact hrestart

/-- In every run a hand-over tells the new proxy the truth in every state if and only if every
message keeps the record of the old one.

The old proxy is told of a start or a stop before the modem is, and nobody tells it of a failure.
The new one takes over its record. A failed start does no harm if it asks for the mode in which the
engine runs. -/
theorem along_handsOver_iff (msgs : List (AdapterMsg κ × List Int)) :
    Along answeredStep HandsOver new msgs ↔ Guarded answeredStep KeepsProxy new msgs := by
  refine along_iff_guarded (I := HandoverInv) (fun s hs => ?_) (fun s m t hs hok h => ?_)
    (fun s m t hs h hhands => ?_) (fun s m _ hnone => by cases hnone) msgs new handoverInv_new
  · exact (handsOver_iff_proxyFollows hs.runs).mpr hs.follows
  · obtain ⟨hsized, hruns, hiff⟩ := answeredStep_keeps hs h
    exact ⟨hsized, hruns, hiff.mpr hok⟩
  · obtain ⟨-, hruns, hiff⟩ := answeredStep_keeps hs h
    exact hiff.mp ((handsOver_iff_proxyFollows hruns).mp hhands)

/-- The only client asks for a session, and the start of the engine fails. -/
def failedStart : List (AdapterMsg Nat × List Int) :=
  [(.addClient 0 ⟨true, true, true⟩, []), (.startTracking 0 2 ⟨1, 1000, .standalone⟩, [1])]

/-- Without a session, the new proxy is started. -/
theorem not_along_failedStart :
    ¬ Along answeredStep HandsOver (new : GnssAdapter Nat) failedStart := by
  intro h
  have hlast := h.last (t := (run answeredStep new failedStart).get rfl) rfl
  have hstarted := (hlast.started 0).mp (by decide)
  cases hstarted

end GnssAdapter

end LocHal.Gnss
