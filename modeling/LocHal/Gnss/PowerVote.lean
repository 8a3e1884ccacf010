import LocHal.Gnss.GnssConfig
import LocHal.Lib.LabelledRun
import Mathlib.Algebra.Group.Nat.Defs
import Mathlib.Logic.Function.Iterate

/-!
# `LocHal.Gnss.PowerVote`: the modem power vote and the enabled session

`enableCommand` and `disableCommand` post a message and cast a power vote at once, on the thread of
the caller. Whether the call is valid is found out by the message, later: an enable for another
technology is refused, and so is a disable with another id than `mPowerVoteId`.

`VoteFollows` compares the vote with the id that is left when the pending messages have been
processed (`drain`). `along_voteFollows_iff` gives the exact condition on each call: it changes the
id, or the vote was already the one it casts.

A command without a context does nothing. `responses` are the answers to the calls, in order.

The model has the id, the counter of `generateSessionId`, the queue and the vote. A label is a call
or the processing of the oldest message, so the calls and the messages interleave in any order. A
message that changes the configuration is there too, as it comes through the same queue: the lemmas
on `LockKept` say that it leaves the session and the lock of the configuration alone.

`voteFollows_iff` computes the id that is left after the pending messages without running them
(`pendingId`), which turns each call into a case on that id. `VoteInv` adds that the counter is
below its end, so that the id of a new session is never 0, which would look like no session. The
processing of a message then keeps the property for nothing: what is left after it is what was left
before.
-/

set_option autoImplicit false

namespace LocHal.Gnss.Config

open LabelledRun

/-- The messages of the commands. -/
inductive PowerMsg where
  | enableGnss (mSessionId : Nat) (mTechType : ConfigAdapter.LocationTechnologyType)
  | disableGnss (mSessionId : Nat)
  | gnssUpdateConfig (mConfig : GnssConfig)

/-- The adapter with its counter, its message queue and the last argument of
`ContextBase::modemPowerVote`. -/
structure PowerAdapter where
  config : ConfigAdapter
  hasContext : Bool
  mSessionIdCounter : Nat
  msgQueue : List PowerMsg
  modemPowerVote : Option Bool
  responses : List (LocationError × Nat)

/-- What can happen next: a command, or the processing of the first message with the answers of the
modem and the name service. -/
inductive PowerCall where
  | enableCommand (techType : ConfigAdapter.LocationTechnologyType)
  | disableCommand (id : Nat)
  | gnssUpdateConfigCommand (config : GnssConfig)
  | procMsg (answers : List LocationError) (resolveInAddress : CString → Option (BitVec 32))

namespace PowerAdapter

/-- The constructor. -/
def new (mGps_conf : GpsConf) (hasContext : Bool) : PowerAdapter where
  config := .new mGps_conf
  hasContext := hasContext
  mSessionIdCounter := 1
  msgQueue := []
  modemPowerVote := none
  responses := []

/-- `LocAdapterBase::generateSessionId`. -/
def generateSessionId (s : PowerAdapter) : PowerAdapter × Nat :=
  let incremented := (s.mSessionIdCounter + 1) % 2 ^ 32
  let counter := if incremented = 0xFFFFFFFF then 1 else incremented
  ({ s with mSessionIdCounter := counter }, counter)

/-- `sendMsg`. -/
def sendMsg (s : PowerAdapter) (msg : PowerMsg) : PowerAdapter :=
  { s with msgQueue := s.msgQueue ++ [msg] }

/-- `GnssAdapter::enableCommand`. -/
def enableCommand (s : PowerAdapter) (techType : ConfigAdapter.LocationTechnologyType) :
    PowerAdapter :=
  let (s', sessionId) := s.generateSessionId
  if s.hasContext then
    { s'.sendMsg (.enableGnss sessionId techType) with modemPowerVote := some true }
  else s'

/-- `GnssAdapter::disableCommand`. -/
def disableCommand (s : PowerAdapter) (id : Nat) : PowerAdapter :=
  if s.hasContext then { s.sendMsg (.disableGnss id) with modemPowerVote := some false } else s

/-- The number of flags of a request. -/
def flagCount (config : GnssConfig) : Nat := (List.range 32).countP config.flags.getLsbD

/-- `GnssAdapter::gnssUpdateConfigCommand`. It takes an id for every flag. -/
def gnssUpdateConfigCommand (s : PowerAdapter) (config : GnssConfig) : PowerAdapter :=
  let s' := (fun t : PowerAdapter => t.generateSessionId.1)^[flagCount config] s
  if flagCount config = 0 then s' else s'.sendMsg (.gnssUpdateConfig config)

/-- The processing of a message. The answers to a configuration request are left out here. -/
def proc (s : PowerAdapter) (answers : List LocationError)
    (resolveInAddress : CString → Option (BitVec 32)) : PowerMsg → PowerAdapter
  | .enableGnss mSessionId mTechType =>
      let (config, err) := (s.config.withAnswers answers).procEnableGnss mSessionId mTechType
      { s with config := config, responses := s.responses ++ [(err, mSessionId)] }
  | .disableGnss mSessionId =>
      let (config, err) := (s.config.withAnswers answers).procDisableGnss mSessionId
      { s with config := config, responses := s.responses ++ [(err, mSessionId)] }
  | .gnssUpdateConfig mConfig =>
      let (config, _) :=
        (s.config.withAnswers answers).procGnssUpdateConfig resolveInAddress mConfig
      { s with config := config }

/-- One step. -/
def step (s : PowerAdapter) : PowerCall → Option PowerAdapter
  | .enableCommand techType => some (s.enableCommand techType)
  | .disableCommand id => some (s.disableCommand id)
  | .gnssUpdateConfigCommand config => some (s.gnssUpdateConfigCommand config)
  | .procMsg answers resolveInAddress =>
      match s.msgQueue with
      | [] => none
      | msg :: rest => some ({ s with msgQueue := rest }.proc answers resolveInAddress msg)

/-- The adapter after the pending messages. -/
def drain (s : PowerAdapter) : PowerAdapter :=
  s.msgQueue.foldl (fun t msg => t.proc [] (fun _ => none) msg) { s with msgQueue := [] }

/-- The vote is on if and only if a session is enabled when the messages have been processed. The
vote is cast on the thread of the caller and the id is set by a message, so the two can only be
compared after the pending messages. -/
def VoteFollows (s : PowerAdapter) : Prop :=
  s.modemPowerVote = some true ↔ s.drain.config.mPowerVoteId ≠ 0

/-- The condition on one call. An enable casts the vote for a session, so its message must enable
one, which it refuses for another technology than GNSS, or a session is enabled already. A disable
casts the vote against it, so its message must end the session, which it refuses for another id, or
none is enabled. The session is the one that is left after the pending messages, not the one at the
time of the call. -/
def VotesTruly (s : PowerAdapter) : PowerCall → Prop
  | .enableCommand techType =>
      s.hasContext = true → techType = .gnss ∨ s.drain.config.mPowerVoteId ≠ 0
  | .disableCommand id =>
      s.hasContext = true → s.drain.config.mPowerVoteId = id ∨ s.drain.config.mPowerVoteId = 0
  | _ => True

variable {s t : PowerAdapter} {answers : List LocationError}
  {resolveInAddress : CString → Option (BitVec 32)}

/-! ### The id of the session -/

/-- The id after a message. -/
def idAfter (powerVoteId : Nat) : PowerMsg → Nat
  | .enableGnss mSessionId mTechType =>
      if mTechType = .gnss ∧ powerVoteId = 0 then mSessionId else powerVoteId
  | .disableGnss mSessionId => if powerVoteId = mSessionId then 0 else powerVoteId
  | .gnssUpdateConfig _ => powerVoteId

/-! ### The lock in a configuration request -/

/-- The session and the lock with its holders are the same. -/
structure LockKept (s t : ConfigAdapter) : Prop where
  lock : t.mGps_conf.GPS_LOCK = s.mGps_conf.GPS_LOCK
  session : t.mPowerVoteId = s.mPowerVoteId
  sent : t.mLocApi.gpsLock = s.mLocApi.gpsLock
  told : t.mXtraObserver = s.mXtraObserver

theorem LockKept.refl (s : ConfigAdapter) : LockKept s s := ⟨rfl, rfl, rfl, rfl⟩

theorem LockKept.trans {s t r : ConfigAdapter} (h : LockKept s t) (h' : LockKept t r) :
    LockKept s r where
  lock := h'.lock.trans h.lock
  session := h'.session.trans h.session
  sent := h'.sent.trans h.sent
  told := h'.told.trans h.told

theorem lockKept_updateCached (item : CachedItem) (mConfig : GnssConfig)
    (u : ConfigAdapter.Update) : LockKept u.1 (ConfigAdapter.updateCached item mConfig u).1 := by
  unfold ConfigAdapter.updateCached
  dsimp only
  split
  · split
    · exact ⟨by cases item <;> rfl, rfl, rfl, rfl⟩
    · exact LockKept.refl _
  · exact LockKept.refl _

theorem lockKept_updateAssistanceServer (resolveInAddress : CString → Option (BitVec 32))
    (mConfig : GnssConfig) (u : ConfigAdapter.Update) :
    LockKept u.1 (ConfigAdapter.updateAssistanceServer resolveInAddress mConfig u).1 := by
  have hserver : ∀ server port, LockKept u.1 (u.1.setSuplHostServer server port).1 := by
    intro server port
    unfold ConfigAdapter.setSuplHostServer
    dsimp only
    split
    · split
      · exact ⟨rfl, rfl, rfl, rfl⟩
      · exact LockKept.refl _
    · exact LockKept.refl _
  unfold ConfigAdapter.updateAssistanceServer
  dsimp only
  split
  · split
    · exact hserver _ _
    · split
      · split
        · exact LockKept.refl _
        · exact ⟨rfl, rfl, rfl, rfl⟩
      · exact LockKept.refl _
    · exact LockKept.refl _
  · exact LockKept.refl _

theorem lockKept_updateWritten {flag : GnssConfigFlag} {write : GpsConf → GpsConf}
    (hwrite : ∀ conf, (write conf).GPS_LOCK = conf.GPS_LOCK) (mConfig : GnssConfig)
    (u : ConfigAdapter.Update) :
    LockKept u.1 (ConfigAdapter.updateWritten flag write mConfig u).1 := by
  unfold ConfigAdapter.updateWritten
  split
  · exact ⟨hwrite _, rfl, rfl, rfl⟩
  · exact LockKept.refl _

/-- Only the first update of a request is about the lock. -/
theorem lockKept_procGnssUpdateConfig (c : ConfigAdapter)
    (resolveInAddress : CString → Option (BitVec 32)) (mConfig : GnssConfig) :
    LockKept (ConfigAdapter.updateGpsLock mConfig (c, [])).1
      (c.procGnssUpdateConfig resolveInAddress mConfig).1 := by
  show LockKept _ (ConfigAdapter.updateSuplMode mConfig (ConfigAdapter.updateSuplEs mConfig
    (ConfigAdapter.updateEP4ES mConfig _))).1
  -- from the last update back to the second one
  refine LockKept.trans ?_ (lockKept_updateWritten ?_ mConfig _)
  · refine LockKept.trans ?_ (lockKept_updateWritten ?_ mConfig _)
    · refine LockKept.trans ?_ (lockKept_updateWritten ?_ mConfig _)
      · refine LockKept.trans ?_ (lockKept_updateCached .aGlonassPositionProtocol mConfig _)
        refine LockKept.trans ?_ (lockKept_updateCached .lppeUserPlane mConfig _)
        refine LockKept.trans ?_ (lockKept_updateCached .lppeControlPlane mConfig _)
        refine LockKept.trans ?_ (lockKept_updateCached .lppProfile mConfig _)
        refine LockKept.trans ?_ (lockKept_updateAssistanceServer resolveInAddress mConfig _)
        exact lockKept_updateCached .suplVersion mConfig _
      · intro conf
        rfl
    · intro conf
      rfl
  · intro conf
    rfl

/-- A request leaves the session alone. -/
theorem mPowerVoteId_procGnssUpdateConfig (c : ConfigAdapter)
    (resolveInAddress : CString → Option (BitVec 32)) (mConfig : GnssConfig) :
    (c.procGnssUpdateConfig resolveInAddress mConfig).1.mPowerVoteId = c.mPowerVoteId := by
  rw [(lockKept_procGnssUpdateConfig c resolveInAddress mConfig).session]
  unfold ConfigAdapter.updateGpsLock
  dsimp only
  split
  · split
    · rfl
    · rfl
  · rfl

/-! ### The pending messages -/

theorem mPowerVoteId_proc (s : PowerAdapter) (answers : List LocationError)
    (resolveInAddress : CString → Option (BitVec 32)) (msg : PowerMsg) :
    (s.proc answers resolveInAddress msg).config.mPowerVoteId =
      idAfter s.config.mPowerVoteId msg := by
  cases msg with
  | enableGnss mSessionId mTechType =>
      show ((s.config.withAnswers answers).procEnableGnss mSessionId mTechType).1.mPowerVoteId = _
      unfold ConfigAdapter.procEnableGnss idAfter
      by_cases htech : mTechType = .gnss
      · by_cases hid : s.config.mPowerVoteId = 0
        · simp [htech, hid, ConfigAdapter.withAnswers]
        · have hpos : 0 < s.config.mPowerVoteId := Nat.pos_of_ne_zero hid
          simp [htech, hid, hpos, ConfigAdapter.withAnswers]
      · simp [htech, ConfigAdapter.withAnswers]
  | disableGnss mSessionId =>
      show ((s.config.withAnswers answers).procDisableGnss mSessionId).1.mPowerVoteId = _
      unfold ConfigAdapter.procDisableGnss idAfter
      by_cases hid : s.config.mPowerVoteId = mSessionId
      · simp [hid, ConfigAdapter.withAnswers]
      · simp [hid, ConfigAdapter.withAnswers]
  | gnssUpdateConfig mConfig =>
      exact mPowerVoteId_procGnssUpdateConfig _ resolveInAddress mConfig

theorem mPowerVoteId_foldl (msgs : List PowerMsg) :
    ∀ s : PowerAdapter,
      (msgs.foldl (fun t msg => t.proc [] (fun _ => none) msg) s).config.mPowerVoteId =
        msgs.foldl idAfter s.config.mPowerVoteId := by
  induction msgs with
  | nil =>
      intro s
      rfl
  | cons msg msgs ih =>
      intro s
      rw [List.foldl_cons, List.foldl_cons, ih, mPowerVoteId_proc]

/-- The id after the pending messages. -/
theorem mPowerVoteId_drain (s : PowerAdapter) :
    s.drain.config.mPowerVoteId = s.msgQueue.foldl idAfter s.config.mPowerVoteId :=
  mPowerVoteId_foldl s.msgQueue { s with msgQueue := [] }

/-! ### One step -/

/-- The id that the pending messages leave. -/
def pendingId (s : PowerAdapter) : Nat := s.msgQueue.foldl idAfter s.config.mPowerVoteId

theorem voteFollows_iff (s : PowerAdapter) :
    s.VoteFollows ↔ (s.modemPowerVote = some true ↔ s.pendingId ≠ 0) := by
  unfold VoteFollows pendingId
  rw [mPowerVoteId_drain]

/-- The vote follows, and the counter has not come to its end. -/
structure VoteInv (s : PowerAdapter) : Prop where
  follows : s.VoteFollows
  counter : s.mSessionIdCounter < 0xFFFFFFFF

/-- An id is never 0. -/
theorem generateSessionId_spec (h : s.mSessionIdCounter < 0xFFFFFFFF) :
    s.generateSessionId.2 ≠ 0 ∧ s.generateSessionId.1.mSessionIdCounter < 0xFFFFFFFF := by
  have hmod : (s.mSessionIdCounter + 1) % 2 ^ 32 = s.mSessionIdCounter + 1 :=
    Nat.mod_eq_of_lt (by omega)
  unfold generateSessionId
  dsimp only
  rw [hmod]
  split <;> omega

theorem voteFollows_generateSessionId : s.generateSessionId.1.VoteFollows ↔ s.VoteFollows :=
  (voteFollows_iff _).trans (voteFollows_iff s).symm

/-- A call that posts a message with a vote. -/
theorem pendingId_sendMsg (s : PowerAdapter) (msg : PowerMsg) :
    (s.sendMsg msg).pendingId = idAfter s.pendingId msg := by
  unfold pendingId sendMsg
  rw [List.foldl_append]
  rfl

theorem voteFollows_enableCommand (hs : VoteInv s)
    (techType : ConfigAdapter.LocationTechnologyType) :
    (s.enableCommand techType).VoteFollows ↔ s.VotesTruly (.enableCommand techType) := by
  have hid := (generateSessionId_spec hs.counter).1
  unfold VotesTruly
  dsimp only
  rw [mPowerVoteId_drain]
  cases hcontext : s.hasContext with
  | false =>
      -- without the context there is neither a vote nor a message
      have hsame : s.enableCommand techType = s.generateSessionId.1 := by
        unfold enableCommand
        rw [hcontext]
        rfl
      rw [hsame]
      exact iff_of_true (voteFollows_generateSessionId.mpr hs.follows) fun h =>
        absurd h Bool.false_ne_true
  | true =>
      have hsends : s.enableCommand techType =
          { s.generateSessionId.1.sendMsg (.enableGnss s.generateSessionId.2 techType) with
            modemPowerVote := some true } := by
        unfold enableCommand
        rw [hcontext]
        rfl
      have hpending := pendingId_sendMsg s.generateSessionId.1
        (.enableGnss s.generateSessionId.2 techType)
      rw [hsends, voteFollows_iff, imp_iff_right rfl, iff_true_left rfl]
      refine (not_congr (Eq.congr_left hpending)).trans ?_
      -- the vote is on, so an id has to be there in the end
      show idAfter s.pendingId _ ≠ 0 ↔ techType = .gnss ∨ s.pendingId ≠ 0
      unfold idAfter
      dsimp only
      split
      · rename_i hboth
        exact iff_of_true hid (Or.inl hboth.1)
      · rename_i hnot
        constructor
        · exact Or.inr
        · rintro (htech | hne)
          · exact fun hzero => hnot ⟨htech, hzero⟩
          · exact hne

theorem voteFollows_disableCommand (hs : VoteInv s) (id : Nat) :
    (s.disableCommand id).VoteFollows ↔ s.VotesTruly (.disableCommand id) := by
  unfold VotesTruly
  dsimp only
  rw [mPowerVoteId_drain]
  cases hcontext : s.hasContext with
  | false =>
      have hsame : s.disableCommand id = s := by
        unfold disableCommand
        rw [hcontext]
        rfl
      rw [hsame]
      exact iff_of_true hs.follows fun h => absurd h Bool.false_ne_true
  | true =>
      have hsends : s.disableCommand id =
          { s.sendMsg (.disableGnss id) with modemPowerVote := some false } := by
        unfold disableCommand
        rw [hcontext]
        rfl
      have hpending := pendingId_sendMsg s (.disableGnss id)
      rw [hsends, voteFollows_iff, imp_iff_right rfl]
      have hoff : ¬ (some false = some true) := by decide
      rw [iff_false_left hoff, not_not]
      refine (Eq.congr_left hpending).trans ?_
      -- the vote is off, so no id may be there in the end
      show idAfter s.pendingId _ = 0 ↔ s.pendingId = id ∨ s.pendingId = 0
      unfold idAfter
      dsimp only
      split
      · rename_i hid
        exact iff_of_true rfl (Or.inl hid)
      · rename_i hid
        rw [or_iff_right hid]

/-- A request takes ids, and then it posts its message. -/
theorem gnssUpdateConfigCommand_rule {P : PowerAdapter → Prop}
    (hid : ∀ s, P s → P s.generateSessionId.1)
    (hsend : ∀ s config, P s → P (s.sendMsg (.gnssUpdateConfig config))) (hs : P s)
    (config : GnssConfig) : P (s.gnssUpdateConfigCommand config) := by
  have hids : ∀ n, P ((fun t : PowerAdapter => t.generateSessionId.1)^[n] s) := by
    intro n
    induction n with
    | zero => exact hs
    | succ n ih =>
        rw [Function.iterate_succ_apply']
        exact hid _ ih
  unfold gnssUpdateConfigCommand
  dsimp only
  split
  · exact hids _
  · exact hsend _ config (hids _)

/-- The ids and the message of a request do not matter to the vote. -/
theorem voteInv_gnssUpdateConfigCommand (hs : VoteInv s) (config : GnssConfig) :
    VoteInv (s.gnssUpdateConfigCommand config) := by
  refine gnssUpdateConfigCommand_rule ?_ ?_ hs config
  · intro s hs
    exact ⟨voteFollows_generateSessionId.mpr hs.follows, (generateSessionId_spec hs.counter).2⟩
  · intro s config hs
    refine ⟨?_, hs.counter⟩
    rw [voteFollows_iff, pendingId_sendMsg]
    exact (voteFollows_iff s).mp hs.follows

/-- The processing of a message posts none. -/
theorem msgQueue_proc (s : PowerAdapter) (msg : PowerMsg) :
    (s.proc answers resolveInAddress msg).msgQueue = s.msgQueue := by
  cases msg <;> rfl

/-- The processing of a message does what was pending. -/
theorem voteFollows_procMsg {msg : PowerMsg} {rest : List PowerMsg} (hs : s.VoteFollows)
    (hqueue : s.msgQueue = msg :: rest) :
    ({ s with msgQueue := rest }.proc answers resolveInAddress msg).VoteFollows := by
  rw [voteFollows_iff] at hs ⊢
  have hvote : ({ s with msgQueue := rest }.proc answers resolveInAddress msg).modemPowerVote =
      s.modemPowerVote := by
    cases msg <;> rfl
  -- the message at the head of the queue is the first one of the fold
  unfold pendingId at hs ⊢
  rw [hvote, msgQueue_proc, mPowerVoteId_proc]
  rw [hqueue] at hs
  exact hs

theorem mSessionIdCounter_proc (s : PowerAdapter) (msg : PowerMsg) :
    (s.proc answers resolveInAddress msg).mSessionIdCounter = s.mSessionIdCounter := by
  cases msg <;> rfl

/-- The condition is exact for one step. -/
theorem voteFollows_step {call : PowerCall} (hs : VoteInv s) (h : s.step call = some t) :
    (t.VoteFollows ↔ s.VotesTruly call) ∧ t.mSessionIdCounter < 0xFFFFFFFF := by
  cases call with
  | enableCommand techType =>
      cases h
      refine ⟨voteFollows_enableCommand hs techType, ?_⟩
      have hcounter := (generateSessionId_spec hs.counter).2
      unfold enableCommand
      dsimp only
      split
      · exact hcounter
      · exact hcounter
  | disableCommand id =>
      cases h
      refine ⟨voteFollows_disableCommand hs id, ?_⟩
      unfold disableCommand
      split
      · exact hs.counter
      · exact hs.counter
  | gnssUpdateConfigCommand config =>
      cases h
      obtain ⟨hfollows, hcounter⟩ := voteInv_gnssUpdateConfigCommand hs config
      exact ⟨iff_of_true hfollows trivial, hcounter⟩
  | procMsg answers resolveInAddress =>
      cases hqueue : s.msgQueue with
      | nil =>
          rw [step, hqueue] at h
          cases h
      | cons msg rest =>
          rw [step, hqueue] at h
          cases h
          refine ⟨iff_of_true (voteFollows_procMsg hs.follows hqueue) trivial, ?_⟩
          rw [mSessionIdCounter_proc]
          exact hs.counter

theorem voteInv_new (mGps_conf : GpsConf) (hasContext : Bool) :
    VoteInv (new mGps_conf hasContext) := by
  refine ⟨?_, Nat.lt_of_sub_pos (by decide : 0 < 0xFFFFFFFF - 1)⟩
  rw [voteFollows_iff]
  exact iff_of_false (by simp [new]) (by simp [pendingId, new, ConfigAdapter.new])

/-- In every run the vote follows the session if and only if every call meets the condition.

Both commands vote when they are called, and their messages are processed later and may refuse. The
condition says that the message will not refuse, or that the vote is the one that is in force. -/
theorem along_voteFollows_iff (mGps_conf : GpsConf) (hasContext : Bool) (calls : List PowerCall) :
    Along step VoteFollows (new mGps_conf hasContext) calls ↔
      Guarded step VotesTruly (new mGps_conf hasContext) calls := by
  refine along_iff_guarded (I := VoteInv) (fun s hs => hs.follows) (fun s call t hs hok h => ?_)
    (fun s call t hs h hfollows => ?_) (fun s call hs h => ?_) calls _
    (voteInv_new mGps_conf hasContext)
  · obtain ⟨hiff, hcounter⟩ := voteFollows_step hs h
    exact ⟨hiff.mpr hok, hcounter⟩
  · exact (voteFollows_step hs h).1.mp hfollows
  · -- only `procMsg` can be disabled
    cases call with
    | procMsg answers resolveInAddress => exact trivial
    | _ => cases h

/-- A configuration without a lock. -/
def noLock : GpsConf := ⟨0, 0, 0, 0, 0, 0, 0, 0, 0, 0, [], 0⟩

/-- An enable for another technology is refused. -/
def otherTechnology : List PowerCall := [.enableCommand .other, .procMsg [] fun _ => none]

/-- The vote is on, and no session is enabled. -/
theorem not_along_otherTechnology : ¬ Along step VoteFollows (new noLock true) otherTechnology := by
  intro h
  have hlast := h.last (t := (run step (new noLock true) otherTechnology).get rfl) rfl
  exact absurd (hlast.mp rfl) (by decide)

end PowerAdapter

end LocHal.Gnss.Config
