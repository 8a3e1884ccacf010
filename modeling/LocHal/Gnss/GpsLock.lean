import LocHal.Gnss.PowerVote

/-!
# `LocHal.Gnss.GpsLock`: the GPS lock of the modem, the configuration and the XTRA observer

While a session is enabled, the modem has no lock; otherwise it has the lock of `mGps_conf`. The
messages that change the session tell the XTRA observer too. A configuration request that changes
the lock without a session sends it to the modem, and does not tell the observer.

`HoldersAgree` is the property, from the first lock that is sent to the modem on, and
`along_holdersAgree_iff` the exact condition: such a request is for the lock that the observer has
been told. The other updates of a request leave the lock alone (`LockKept`).

The session, the queue and the calls are those of `LocHal.Gnss.PowerVote`. Three messages send a
lock. `procEnableGnss` sends the lock that locks nothing and `procDisableGnss` the one of the
configuration, and both tell the observer the same one (`procEnableGnss_cases`,
`procDisableGnss_cases`). `updateGpsLock` sends the lock of the request if there is no session, and
stores it in the configuration in any case (`updateGpsLock_cases`).

`LockInv` is the invariant of the runs: the agreement, and ids other than 0 in the queued enables,
since a session with the id 0 would look like none.
-/

set_option autoImplicit false

namespace LocHal.Gnss.Config

open LabelledRun

namespace PowerAdapter

/-- The lock that the state calls for. -/
def expectedLock (c : ConfigAdapter) : GnssConfigGpsLock :=
  if c.mPowerVoteId ≠ 0 then .none else toGpsLock c.mGps_conf.GPS_LOCK

/-- Once a lock has been sent, the modem and the observer have the one that the state calls for:
none while a session is enabled, and the one of the configuration otherwise. Before that nobody has
been told anything. -/
def HoldersAgree (s : PowerAdapter) : Prop :=
  s.config.mLocApi.gpsLock.isSome = true →
    s.config.mLocApi.gpsLock = some (expectedLock s.config) ∧
      s.config.mXtraObserver = some (expectedLock s.config).toNumber

/-- The condition on one step. A configuration request with the flag of the lock, processed without
a session, sends its lock to the modem and tells nobody else. So it must be for the lock that the
observer was told last. With a session the lock is only stored, and the end of the session tells
both. -/
def TellsLock (s : PowerAdapter) : PowerCall → Prop
  | .procMsg _ _ =>
      match s.msgQueue with
      | .gnssUpdateConfig mConfig :: _ =>
          mConfig.has .gpsLock = true → s.config.mPowerVoteId = 0 →
            s.config.mXtraObserver = some mConfig.gpsLock.toNumber
      | _ => True
  | _ => True

variable {s t : PowerAdapter} {answers : List LocationError}
  {resolveInAddress : CString → Option (BitVec 32)} {mConfig : GnssConfig}

/-! ### The lock as a number -/

theorem toGpsLock_convertGpsLock (lock : GnssConfigGpsLock) :
    toGpsLock (convertGpsLock lock) = lock := by
  cases lock <;> decide

/-! ### The messages -/

/-- The property is about the lock and its holders. -/
theorem HoldersAgree.congr (hs : s.HoldersAgree) (h : LockKept s.config t.config) :
    t.HoldersAgree := by
  unfold HoldersAgree expectedLock
  rw [h.sent, h.told, h.session, h.lock]
  exact hs

/-- An enable is refused or sets the session. -/
theorem procEnableGnss_cases (c : ConfigAdapter) (mSessionId : Nat)
    (mTechType : ConfigAdapter.LocationTechnologyType) :
    (c.procEnableGnss mSessionId mTechType).1 = c ∨
    (c.procEnableGnss mSessionId mTechType).1 = { c with
      mPowerVoteId := mSessionId
      mLocApi := (c.mLocApi.setGpsLock .none).1
      mXtraObserver := some (convertGpsLock .none) } := by
  unfold ConfigAdapter.procEnableGnss
  split
  · exact Or.inl rfl
  · split
    · exact Or.inl rfl
    · exact Or.inr rfl

/-- A disable is refused or clears the session. -/
theorem procDisableGnss_cases (c : ConfigAdapter) (mSessionId : Nat) :
    (c.procDisableGnss mSessionId).1 = c ∨
    (c.procDisableGnss mSessionId).1 = { c with
      mPowerVoteId := 0
      mLocApi := (c.mLocApi.setGpsLock (toGpsLock c.mGps_conf.GPS_LOCK)).1
      mXtraObserver := some (toGpsLock c.mGps_conf.GPS_LOCK).toNumber } := by
  unfold ConfigAdapter.procDisableGnss
  split
  · exact Or.inl rfl
  · exact Or.inr rfl

theorem lockKept_withAnswers (c : ConfigAdapter) (answers : List LocationError) :
    LockKept c (c.withAnswers answers) := ⟨rfl, rfl, rfl, rfl⟩

theorem holdersAgree_enableGnss (hs : s.HoldersAgree) {mSessionId : Nat} (hid : mSessionId ≠ 0)
    (mTechType : ConfigAdapter.LocationTechnologyType) :
    (s.proc answers resolveInAddress (.enableGnss mSessionId mTechType)).HoldersAgree := by
  have hconfig : (s.proc answers resolveInAddress (.enableGnss mSessionId mTechType)).config =
      ((s.config.withAnswers answers).procEnableGnss mSessionId mTechType).1 := rfl
  rcases procEnableGnss_cases (s.config.withAnswers answers) mSessionId mTechType with heq | heq
  · refine hs.congr ?_
    rw [hconfig, heq]
    exact lockKept_withAnswers s.config answers
  · -- the modem and the observer get no lock
    unfold HoldersAgree expectedLock
    rw [hconfig, heq, if_pos hid]
    exact fun _ => ⟨rfl, rfl⟩

theorem holdersAgree_disableGnss (hs : s.HoldersAgree) (mSessionId : Nat) :
    (s.proc answers resolveInAddress (.disableGnss mSessionId)).HoldersAgree := by
  have hconfig : (s.proc answers resolveInAddress (.disableGnss mSessionId)).config =
      ((s.config.withAnswers answers).procDisableGnss mSessionId).1 := rfl
  rcases procDisableGnss_cases (s.config.withAnswers answers) mSessionId with heq | heq
  · refine hs.congr ?_
    rw [hconfig, heq]
    exact lockKept_withAnswers s.config answers
  · unfold HoldersAgree expectedLock
    rw [hconfig, heq, if_neg (not_not.mpr rfl)]
    exact fun _ => ⟨rfl, rfl⟩

/-- The first update of a request: it has no lock, it writes the lock while a session is enabled,
or it writes the lock and sends it. -/
theorem updateGpsLock_cases (c : ConfigAdapter) (mConfig : GnssConfig) :
    (mConfig.has .gpsLock = false ∧ (ConfigAdapter.updateGpsLock mConfig (c, [])).1 = c) ∨
    (c.mPowerVoteId ≠ 0 ∧ (ConfigAdapter.updateGpsLock mConfig (c, [])).1 = { c with
      mGps_conf := { c.mGps_conf with GPS_LOCK := convertGpsLock mConfig.gpsLock } }) ∨
    (mConfig.has .gpsLock = true ∧ c.mPowerVoteId = 0 ∧
      (ConfigAdapter.updateGpsLock mConfig (c, [])).1 = { c with
        mGps_conf := { c.mGps_conf with GPS_LOCK := convertGpsLock mConfig.gpsLock }
        mLocApi := (c.mLocApi.setGpsLock mConfig.gpsLock).1 }) := by
  unfold ConfigAdapter.updateGpsLock
  dsimp only
  cases hflag : mConfig.has .gpsLock with
  | false => exact Or.inl ⟨rfl, rfl⟩
  | true =>
      rw [if_pos rfl]
      split
      · rename_i hid
        exact Or.inr (Or.inr ⟨rfl, hid, rfl⟩)
      · rename_i hid
        exact Or.inr (Or.inl ⟨hid, rfl⟩)

/-- A request keeps the agreement if and only if the observer has been told the lock. -/
theorem holdersAgree_gnssUpdateConfig (hs : s.HoldersAgree) (mConfig : GnssConfig) :
    (s.proc answers resolveInAddress (.gnssUpdateConfig mConfig)).HoldersAgree ↔
      (mConfig.has .gpsLock = true → s.config.mPowerVoteId = 0 →
        s.config.mXtraObserver = some mConfig.gpsLock.toNumber) := by
  -- only the first update of the request is about the lock
  have hkept := lockKept_procGnssUpdateConfig (s.config.withAnswers answers) resolveInAddress
    mConfig
  have hagree : (s.proc answers resolveInAddress (.gnssUpdateConfig mConfig)).HoldersAgree ↔
      HoldersAgree { s with
        config := (ConfigAdapter.updateGpsLock mConfig (s.config.withAnswers answers, [])).1 } := by
    unfold HoldersAgree expectedLock
    rw [← hkept.sent, ← hkept.told, ← hkept.session, ← hkept.lock]
    rfl
  rw [hagree]
  rcases updateGpsLock_cases (s.config.withAnswers answers) mConfig with
    ⟨hflag, heq⟩ | ⟨hid, heq⟩ | ⟨hflag, hid, heq⟩
  · rw [heq]
    refine iff_of_true (hs.congr (lockKept_withAnswers s.config answers)) fun h => ?_
    exact absurd (hflag.symm.trans h) Bool.false_ne_true
  · -- a session is enabled, and the modem has no lock
    refine iff_of_true ?_ fun _ h => absurd h hid
    have hexpected : expectedLock s.config = .none := if_pos hid
    unfold HoldersAgree at hs ⊢
    rw [hexpected] at hs
    rw [heq]
    have hnone : expectedLock { s.config.withAnswers answers with
        mGps_conf := { (s.config.withAnswers answers).mGps_conf with
          GPS_LOCK := convertGpsLock mConfig.gpsLock } } = .none := if_pos hid
    rw [hnone]
    exact hs
  · -- the lock is sent, and the observer is not told
    have hzero : s.config.mPowerVoteId = 0 := hid
    rw [heq, imp_iff_right hflag, imp_iff_right hzero]
    have hexpected : expectedLock { s.config.withAnswers answers with
        mGps_conf := { (s.config.withAnswers answers).mGps_conf with
          GPS_LOCK := convertGpsLock mConfig.gpsLock }
        mLocApi := ((s.config.withAnswers answers).mLocApi.setGpsLock mConfig.gpsLock).1 } =
        mConfig.gpsLock :=
      (if_neg (not_not.mpr hid)).trans (toGpsLock_convertGpsLock mConfig.gpsLock)
    unfold HoldersAgree
    rw [hexpected]
    constructor
    · intro h
      exact (h rfl).2
    · intro h _
      exact ⟨rfl, h⟩

/-! ### The runs -/

/-- The agreement, and ids other than 0 in the queue. -/
structure LockInv (s : PowerAdapter) : Prop where
  agree : s.HoldersAgree
  ids : ∀ mSessionId mTechType, PowerMsg.enableGnss mSessionId mTechType ∈ s.msgQueue →
    mSessionId ≠ 0
  counter : s.mSessionIdCounter < 0xFFFFFFFF

theorem LockInv.generateSessionId (hs : LockInv s) : LockInv s.generateSessionId.1 where
  agree := hs.agree
  ids := hs.ids
  counter := (generateSessionId_spec hs.counter).2

/-- A message is posted. -/
theorem LockInv.sendMsg (hs : LockInv s) {msg : PowerMsg}
    (hmsg : ∀ mSessionId mTechType, msg = .enableGnss mSessionId mTechType → mSessionId ≠ 0) :
    LockInv (s.sendMsg msg) := by
  refine ⟨hs.agree, fun mSessionId mTechType hmem => ?_, hs.counter⟩
  rcases List.mem_append.mp hmem with hmem | hmem
  · exact hs.ids mSessionId mTechType hmem
  · exact hmsg mSessionId mTechType (List.mem_singleton.mp hmem).symm

/-- A command keeps the invariant. -/
theorem lockInv_command {call : PowerCall} (hs : LockInv s) (h : s.step call = some t)
    (hcommand : ∀ answers resolveInAddress, call ≠ .procMsg answers resolveInAddress) :
    LockInv t := by
  cases call with
  | enableCommand techType =>
      cases h
      have hnew : s.generateSessionId.2 ≠ 0 := (generateSessionId_spec hs.counter).1
      have hsent : LockInv (s.generateSessionId.1.sendMsg
          (.enableGnss s.generateSessionId.2 techType)) := by
        refine hs.generateSessionId.sendMsg fun mSessionId mTechType heq => ?_
        cases heq
        exact hnew
      unfold enableCommand
      dsimp only
      split
      · exact ⟨hsent.agree, hsent.ids, hsent.counter⟩
      · exact hs.generateSessionId
  | disableCommand id =>
      cases h
      have hsent : LockInv (s.sendMsg (.disableGnss id)) := hs.sendMsg fun _ _ heq => by cases heq
      unfold disableCommand
      split
      · exact ⟨hsent.agree, hsent.ids, hsent.counter⟩
      · exact hs
  | gnssUpdateConfigCommand config =>
      cases h
      refine gnssUpdateConfigCommand_rule (fun _ hs => hs.generateSessionId) ?_ hs config
      intro s config hs
      exact hs.sendMsg fun _ _ heq => by cases heq
  | procMsg answers resolveInAddress => exact absurd rfl (hcommand answers resolveInAddress)

/-- The condition is exact for the processing of a message. -/
theorem holdersAgree_procMsg {msg : PowerMsg} {rest : List PowerMsg} (hs : LockInv s)
    (hqueue : s.msgQueue = msg :: rest) :
    ({ s with msgQueue := rest }.proc answers resolveInAddress msg).HoldersAgree ↔
      s.TellsLock (.procMsg answers resolveInAddress) := by
  unfold TellsLock
  rw [hqueue]
  have hagree : HoldersAgree { s with msgQueue := rest } := hs.agree
  cases msg with
  | enableGnss mSessionId mTechType =>
      have hid := hs.ids mSessionId mTechType (hqueue ▸ List.mem_cons_self)
      exact iff_of_true (holdersAgree_enableGnss hagree hid mTechType) trivial
  | disableGnss mSessionId => exact iff_of_true (holdersAgree_disableGnss hagree mSessionId) trivial
  | gnssUpdateConfig mConfig => exact holdersAgree_gnssUpdateConfig hagree mConfig

/-- The condition is exact for one step. -/
theorem holdersAgree_step {call : PowerCall} (hs : LockInv s) (h : s.step call = some t) :
    (t.HoldersAgree ↔ s.TellsLock call) ∧ (t.HoldersAgree → LockInv t) := by
  by_cases hcommand : ∀ answers resolveInAddress, call ≠ .procMsg answers resolveInAddress
  · -- a command writes neither the lock nor its holders
    have hinv := lockInv_command hs h hcommand
    refine ⟨iff_of_true hinv.agree ?_, fun _ => hinv⟩
    cases call with
    | procMsg answers resolveInAddress => exact absurd rfl (hcommand answers resolveInAddress)
    | _ => exact trivial
  · push Not at hcommand
    obtain ⟨answers, resolveInAddress, rfl⟩ := hcommand
    cases hqueue : s.msgQueue with
    | nil =>
        rw [step, hqueue] at h
        cases h
    | cons msg rest =>
        rw [step, hqueue] at h
        cases h
        refine ⟨holdersAgree_procMsg hs hqueue, fun hagree => ⟨hagree, ?_, ?_⟩⟩
        · intro mSessionId mTechType hmem
          rw [msgQueue_proc] at hmem
          exact hs.ids mSessionId mTechType (hqueue ▸ List.mem_cons_of_mem msg hmem)
        · rw [mSessionIdCounter_proc]
          exact hs.counter

/-- In every run the holders of the lock agree in every state if and only if every request that
sends a lock sends the one that the observer knows.

The requests that enable and disable GNSS tell the observer, and the one that updates the
configuration does not. It sends the lock to the modem only while no session is enabled, so with one
it does no harm. -/
theorem along_holdersAgree_iff (mGps_conf : GpsConf) (hasContext : Bool)
    (calls : List PowerCall) :
    Along step HoldersAgree (new mGps_conf hasContext) calls ↔
      Guarded step TellsLock (new mGps_conf hasContext) calls := by
  refine along_iff_guarded (I := LockInv) (fun s hs => hs.agree) (fun s call t hs hok h => ?_)
    (fun s call t hs h hagree => ?_) (fun s call hs h => ?_) calls _ ?_
  · obtain ⟨hiff, hinv⟩ := holdersAgree_step hs h
    exact hinv (hiff.mpr hok)
  · exact (holdersAgree_step hs h).1.mp hagree
  · cases call with
    | procMsg answers resolveInAddress =>
        cases hqueue : s.msgQueue with
        | nil =>
            unfold TellsLock
            rw [hqueue]
            exact trivial
        | cons msg rest =>
            rw [step, hqueue] at h
            cases h
    | _ => exact trivial
  · refine ⟨fun hsent => ?_, fun _ _ hmem => absurd hmem List.not_mem_nil, ?_⟩
    · cases hsent
    · exact Nat.lt_of_sub_pos (by decide : 0 < 0xFFFFFFFF - 1)

/-- A request for the lock of both kinds. -/
def requestLock : GnssConfig where
  flags := GnssConfigFlag.gpsLock.bit
  gpsLock := .moAndNi
  suplVersion := .v1_0_0
  assistanceServer := ⟨.supl, none, 0⟩
  lppProfile := .rrlpOnLte
  lppeControlPlaneMask := 0
  lppeUserPlaneMask := 0
  aGlonassPositionProtocolMask := 0
  emergencyPdnForEmergencySupl := false
  suplEmergencyServices := false
  suplModeMask := 0

/-- A session is enabled and disabled, and then the lock is changed. -/
def lockAfterSession : List PowerCall :=
  [.enableCommand .gnss, .procMsg [] fun _ => none, .disableCommand 2, .procMsg [] fun _ => none,
    .gnssUpdateConfigCommand requestLock, .procMsg [] fun _ => none]

/-- The observer has not been told the new lock. -/
theorem not_along_lockAfterSession :
    ¬ Along step HoldersAgree (new noLock true) lockAfterSession := by
  intro h
  have hlast := h.last (t := (run step (new noLock true) lockAfterSession).get rfl) rfl
  exact absurd (hlast rfl).2 (by decide)

end PowerAdapter

end LocHal.Gnss.Config
