import LocHal.Gnss.PowerVote
import Mathlib.Data.List.Forall2
import Mathlib.Data.List.Nodup

/-!
# `LocHal.Gnss.ConfigResponse`: the response to a configuration request

`gnssUpdateConfigCommand` returns an id for every bit of the flags, low bits first. The message runs
through ten blocks that share the variables `err` and `index` and an array `errs`, and it reports
the first `index` elements of the array with the ids. `proc_eq` shows that the array holds the
answers of `procGnssUpdateConfig` in their order.

There are 32 bits and ten blocks. `pairsIds_iff` says when the response is for the ids that were
returned.

The blocks are written with one function: a block whose flag is not set does nothing, and another
one runs its body, stores `err` at `index` and goes on by one. `Follows` relates the variables of
the blocks to the updates of `procGnssUpdateConfig`, and `isBlock_updates` says that each block does
what its update does. So the array holds the answers of the updates, in their order
(`follows_blocks`).

The ids come from the other end. `countLoop_eq` is the number of bits that are set,
`generateIds_spec` the ids for them, and `setBits` the bits in their order. The first ten bits are
the flags of the ten blocks in the same order (`filter_flagOrder`). A bit from the eleventh on gets
an id and no block, so the response says nothing about that id, and there is nothing else that can
go wrong.
-/

set_option autoImplicit false

namespace LocHal.Gnss.Config

/-! ### The ids -/

/-- `while (flagsCopy > 0)`: the loop that counts the bits. -/
def countLoop : Nat → BitVec 32 → Nat → Option Nat
  | 0, _, _ => none
  | fuel + 1, flagsCopy, count =>
      if 0 < flagsCopy then
        countLoop fuel (flagsCopy >>> 1) (if flagsCopy &&& 1 ≠ 0 then count + 1 else count)
      else some count

namespace PowerAdapter

/-- The loop that generates the ids. -/
def generateIds : Nat → PowerAdapter → PowerAdapter × List Nat
  | 0, s => (s, [])
  | n + 1, s =>
      let (s', id) := s.generateSessionId
      let (s'', ids) := generateIds n s'
      (s'', id :: ids)

end PowerAdapter

/-- `MsgGnssUpdateConfig`. -/
structure MsgGnssUpdateConfig where
  mConfig : GnssConfig
  mIds : List Nat
  mCount : Nat
  deriving DecidableEq, Repr

/-- `GnssAdapter::gnssUpdateConfigCommand` with the ids: the adapter, and the message that is sent.
The ids of the message are returned. -/
def gnssUpdateConfigIds (s : PowerAdapter) (config : GnssConfig) :
    Option (PowerAdapter × Option MsgGnssUpdateConfig) :=
  (countLoop 33 config.flags 0).map fun count =>
    let (s', ids) := PowerAdapter.generateIds count s
    if 0 < count then (s'.sendMsg (.gnssUpdateConfig config), some ⟨config, ids, count⟩)
    else (s', none)

/-! ### The blocks -/

/-- The variables of `MsgGnssUpdateConfig::proc`. An element of `errs` is not initialised before it
is written. -/
structure ProcVars where
  adapter : ConfigAdapter
  err : LocationError
  errs : List (Option LocationError)
  index : Nat

/-- What a block computes: from the adapter and `err`, both again. -/
abbrev Body := ConfigAdapter → LocationError → ConfigAdapter × LocationError

/-- A block. -/
def ProcVars.block (mConfig : GnssConfig) (flag : GnssConfigFlag) (body : Body) (v : ProcVars) :
    ProcVars :=
  if mConfig.has flag then
    let (adapter, err) := body v.adapter v.err
    { adapter := adapter
      err := err
      errs := if v.index < v.errs.length then v.errs.set v.index (some err) else v.errs
      index := v.index + 1 }
  else v

/-- The GPS lock. With a session `err` stays what it was. -/
def bodyGpsLock (mConfig : GnssConfig) : Body := fun s err =>
  let s' := { s with
    mGps_conf := { s.mGps_conf with GPS_LOCK := convertGpsLock mConfig.gpsLock } }
  if s.mPowerVoteId = 0 then
    let (api, err) := s.mLocApi.setGpsLock mConfig.gpsLock
    ({ s' with mLocApi := api }, err)
  else (s', err)

/-- An item with a cache. -/
def bodyCached (item : CachedItem) (mConfig : GnssConfig) : Body := fun s _ =>
  if item.converted mConfig ≠ item.get s.mGps_conf && (!item.injected || s.injects) then
    let (api, err) := s.mLocApi.set item (item.requested mConfig)
    ({ s with
        mGps_conf := item.put (item.converted mConfig) s.mGps_conf
        mLocApi := api }, err)
  else (s, .success)

/-- The assistance server. -/
def bodyAssistanceServer (resolveInAddress : CString → Option (BitVec 32)) (mConfig : GnssConfig) :
    Body := fun s _ =>
  let server := mConfig.assistanceServer
  match server.type with
  | .supl => s.setSuplHostServer server.hostName server.port.toInt
  | .c2k =>
      if s.injects then
        match resolveInAddress (server.hostName.getD []) with
        | none => (s, .invalidParameter)
        | some ip =>
            let (api, err) := s.mLocApi.setPdeServer ip server.port.toInt
            ({ s with mLocApi := api }, err)
      else (s, .success)
  | .other => (s, .invalidParameter)

/-- An item that is written to `mGps_conf` only. -/
def bodyWritten (write : GpsConf → GpsConf) : Body := fun s _ =>
  ({ s with mGps_conf := write s.mGps_conf }, .success)

/-- The ten blocks with their flags, in their order. -/
def blocks (resolveInAddress : CString → Option (BitVec 32)) (mConfig : GnssConfig) :
    List (GnssConfigFlag × Body) :=
  [(.gpsLock, bodyGpsLock mConfig),
    (.suplVersion, bodyCached .suplVersion mConfig),
    (.setAssistanceData, bodyAssistanceServer resolveInAddress mConfig),
    (.lppProfile, bodyCached .lppProfile mConfig),
    (.lppeControlPlane, bodyCached .lppeControlPlane mConfig),
    (.lppeUserPlane, bodyCached .lppeUserPlane mConfig),
    (.aGlonassPositionProtocol, bodyCached .aGlonassPositionProtocol mConfig),
    (.emPdnForEmSupl, bodyWritten fun conf => { conf with
      USE_EMERGENCY_PDN_FOR_EMERGENCY_SUPL := convertEP4ES mConfig.emergencyPdnForEmergencySupl }),
    (.suplEmServices, bodyWritten fun conf => { conf with
      SUPL_ES := convertSuplEs mConfig.suplEmergencyServices }),
    (.suplMode, bodyWritten fun conf => { conf with
      SUPL_MODE := convertSuplMode mConfig.suplModeMask })]

/-- What `collectiveResponseCb` gets: a number, the errors and the ids. -/
structure CollectiveResponse where
  count : Nat
  errs : List (Option LocationError)
  ids : List Nat
  deriving DecidableEq, Repr

/-- `GnssAdapter::reportResponse` of an array. The control client may have no callback. -/
def reportResponse (collectiveResponseCb : Bool) (count : Nat) (errs : List (Option LocationError))
    (ids : List Nat) : Option CollectiveResponse :=
  if collectiveResponseCb then some ⟨count, errs, ids⟩ else none

/-- `MsgGnssUpdateConfig::proc`. -/
def MsgGnssUpdateConfig.proc (msg : MsgGnssUpdateConfig) (s : ConfigAdapter)
    (resolveInAddress : CString → Option (BitVec 32)) (collectiveResponseCb : Bool) :
    ConfigAdapter × Option CollectiveResponse :=
  let v : ProcVars := (blocks resolveInAddress msg.mConfig).foldl
    (fun v b => v.block msg.mConfig b.1 b.2)
    ⟨s, .success, List.replicate msg.mCount none, 0⟩
  (v.adapter, reportResponse collectiveResponseCb v.index v.errs msg.mIds)

/-! ### The blocks and the updates -/

/-- The array when these errors were written, as far as they fit. -/
def filled (mCount : Nat) (errs : List LocationError) : List (Option LocationError) :=
  (errs.take mCount).map some ++ List.replicate (mCount - errs.length) none

theorem length_filled (mCount : Nat) (errs : List LocationError) :
    (filled mCount errs).length = mCount := by
  rw [filled, List.length_append, List.length_map, List.length_take, List.length_replicate]
  omega

/-- An error more. -/
theorem filled_concat (mCount : Nat) (errs : List LocationError) (err : LocationError) :
    (if errs.length < mCount then (filled mCount errs).set errs.length (some err)
      else filled mCount errs) = filled mCount (errs ++ [err]) := by
  by_cases hlt : errs.length < mCount
  · have hlen : ((errs.take mCount).map some).length = errs.length := by
      rw [List.length_map, List.length_take]
      omega
    have htake : errs.take mCount = errs := List.take_of_length_le (Nat.le_of_lt hlt)
    have htake' : (errs ++ [err]).take mCount = errs ++ [err] := List.take_of_length_le (by simpa)
    obtain ⟨k, hk⟩ : ∃ k, mCount - errs.length = k + 1 := ⟨mCount - errs.length - 1, by omega⟩
    have hk' : mCount - (errs ++ [err]).length = k := by
      rw [List.length_append, List.length_singleton]
      omega
    rw [if_pos hlt, filled, filled, htake', hk', hk, List.replicate_succ,
      List.set_append_right _ _ (Nat.le_of_eq hlen), hlen, Nat.sub_self, List.set_cons_zero, htake,
      List.map_append, List.append_assoc]
    rfl
  · -- the array is full
    have htake : (errs ++ [err]).take mCount = errs.take mCount := by
      rw [List.take_append_of_le_length (Nat.le_of_not_lt hlt)]
    have hzero : mCount - (errs ++ [err]).length = mCount - errs.length := by
      rw [List.length_append, List.length_singleton]
      omega
    rw [if_neg hlt, filled, filled, htake, hzero]

/-- The variables of `proc` follow the answers of `procGnssUpdateConfig`. -/
structure Follows (mCount : Nat) (v : ProcVars) (u : ConfigAdapter.Update) : Prop where
  adapter : v.adapter = u.1
  index : v.index = u.2.length
  errs : v.errs = filled mCount (u.2.map Prod.snd)

/-- An update is a block whose answer does not depend on `err`. -/
def IsBlock (flag : GnssConfigFlag) (body : Body) (mConfig : GnssConfig)
    (update : GnssConfig → ConfigAdapter.Update → ConfigAdapter.Update) : Prop :=
  ∀ s err outcomes, update mConfig (s, outcomes)
    = if mConfig.has flag then ((body s err).1, outcomes ++ [(flag, (body s err).2)])
      else (s, outcomes)

variable {mCount : Nat} {v : ProcVars} {u : ConfigAdapter.Update} {mConfig : GnssConfig}
  {resolveInAddress : CString → Option (BitVec 32)}

/-- What a block does, compared with what it answers. -/
theorem Follows.block {flag : GnssConfigFlag} {body : Body} {u' : ConfigAdapter.Update}
    (hv : Follows mCount v u)
    (hupdate : u' = if mConfig.has flag
      then ((body v.adapter v.err).1, u.2 ++ [(flag, (body v.adapter v.err).2)]) else u) :
    Follows mCount (v.block mConfig flag body) u' := by
  unfold ProcVars.block
  by_cases hflag : mConfig.has flag = true
  · rw [if_pos hflag] at hupdate ⊢
    subst hupdate
    refine ⟨rfl, ?_, ?_⟩
    · rw [hv.index, List.length_append]
      rfl
    · show (if v.index < v.errs.length then v.errs.set v.index _ else v.errs) = _
      have hlength : u.2.length = (u.2.map Prod.snd).length := (List.length_map _).symm
      rw [hv.errs, length_filled, hv.index, List.map_append, hlength]
      exact filled_concat mCount (u.2.map Prod.snd) _
  · rw [if_neg hflag] at hupdate ⊢
    exact hupdate ▸ hv

theorem isBlock_updateCached (item : CachedItem) (mConfig : GnssConfig) :
    IsBlock item.flag (bodyCached item mConfig) mConfig (ConfigAdapter.updateCached item) := by
  intro s err outcomes
  unfold ConfigAdapter.updateCached bodyCached
  dsimp only
  split
  · split <;> rfl
  · rfl

theorem isBlock_updateAssistanceServer (resolveInAddress : CString → Option (BitVec 32))
    (mConfig : GnssConfig) :
    IsBlock .setAssistanceData (bodyAssistanceServer resolveInAddress mConfig) mConfig
      (ConfigAdapter.updateAssistanceServer resolveInAddress) := by
  intro s err outcomes
  unfold ConfigAdapter.updateAssistanceServer bodyAssistanceServer
  dsimp only
  split
  · cases mConfig.assistanceServer.type with
    | supl => rfl
    | other => rfl
    | c2k =>
        cases s.injects with
        | false => rfl
        | true => cases resolveInAddress (mConfig.assistanceServer.hostName.getD []) <;> rfl
  · rfl

theorem isBlock_updateWritten (flag : GnssConfigFlag) (write : GpsConf → GpsConf)
    (mConfig : GnssConfig) :
    IsBlock flag (bodyWritten write) mConfig (ConfigAdapter.updateWritten flag write) := by
  intro s err outcomes
  unfold ConfigAdapter.updateWritten bodyWritten
  split <;> rfl

/-- The first block finds `err` as it is at the start. -/
theorem updateGpsLock_eq (mConfig : GnssConfig) (s : ConfigAdapter)
    (outcomes : List (GnssConfigFlag × LocationError)) :
    ConfigAdapter.updateGpsLock mConfig (s, outcomes)
      = if mConfig.has .gpsLock
        then ((bodyGpsLock mConfig s .success).1,
          outcomes ++ [(.gpsLock, (bodyGpsLock mConfig s .success).2)])
        else (s, outcomes) := by
  unfold ConfigAdapter.updateGpsLock bodyGpsLock
  dsimp only
  split
  · split <;> rfl
  · rfl

/-- The blocks after the first one, with their updates. -/
theorem isBlock_updates (resolveInAddress : CString → Option (BitVec 32)) (mConfig : GnssConfig) :
    List.Forall₂ (fun b update => IsBlock b.1 b.2 mConfig update)
      (blocks resolveInAddress mConfig).tail (ConfigAdapter.updates resolveInAddress).tail := by
  refine .cons (isBlock_updateCached .suplVersion mConfig) (.cons ?_ (.cons ?_ (.cons ?_
    (.cons ?_ (.cons ?_ (.cons ?_ (.cons ?_ (.cons ?_ .nil))))))))
  · exact isBlock_updateAssistanceServer resolveInAddress mConfig
  · exact isBlock_updateCached .lppProfile mConfig
  · exact isBlock_updateCached .lppeControlPlane mConfig
  · exact isBlock_updateCached .lppeUserPlane mConfig
  · exact isBlock_updateCached .aGlonassPositionProtocol mConfig
  · exact isBlock_updateWritten _ _ mConfig
  · exact isBlock_updateWritten _ _ mConfig
  · exact isBlock_updateWritten _ _ mConfig

/-- Blocks one after the other. -/
theorem Follows.foldl {bs : List (GnssConfigFlag × Body)}
    {updates : List (GnssConfig → ConfigAdapter.Update → ConfigAdapter.Update)}
    (h : List.Forall₂ (fun b update => IsBlock b.1 b.2 mConfig update) bs updates)
    (hv : Follows mCount v u) :
    Follows mCount (bs.foldl (fun v b => v.block mConfig b.1 b.2) v)
      (updates.foldl (fun u update => update mConfig u) u) := by
  induction h generalizing v u with
  | nil => exact hv
  | cons hblock _ ih =>
      refine ih (hv.block ?_)
      rw [hv.adapter]
      exact hblock u.1 v.err u.2

/-- The variables at the end. -/
theorem follows_blocks (mCount : Nat) (mConfig : GnssConfig) (s : ConfigAdapter)
    (resolveInAddress : CString → Option (BitVec 32)) :
    Follows mCount
      ((blocks resolveInAddress mConfig).foldl (fun v b => v.block mConfig b.1 b.2)
        ⟨s, .success, List.replicate mCount none, 0⟩)
      (s.procGnssUpdateConfig resolveInAddress mConfig) := by
  have hstart : Follows mCount ⟨s, .success, List.replicate mCount none, 0⟩ (s, []) :=
    ⟨rfl, rfl, by simp [filled]⟩
  have hrest := Follows.foldl (isBlock_updates resolveInAddress mConfig)
    (hstart.block (updateGpsLock_eq mConfig s []))
  exact hrest

/-- The message reports the answers of `procGnssUpdateConfig` in their order. -/
theorem proc_eq (msg : MsgGnssUpdateConfig) (s : ConfigAdapter)
    (resolveInAddress : CString → Option (BitVec 32)) (collectiveResponseCb : Bool) :
    msg.proc s resolveInAddress collectiveResponseCb
      = ((s.procGnssUpdateConfig resolveInAddress msg.mConfig).1,
        reportResponse collectiveResponseCb
          (s.procGnssUpdateConfig resolveInAddress msg.mConfig).2.length
          (filled msg.mCount
            ((s.procGnssUpdateConfig resolveInAddress msg.mConfig).2.map Prod.snd)) msg.mIds) := by
  have h := follows_blocks msg.mCount msg.mConfig s resolveInAddress
  unfold MsgGnssUpdateConfig.proc
  dsimp only
  rw [h.adapter, h.index, h.errs]

/-! ### The flags -/

/-- The flags from the lowest bit on. -/
def flagOrder : List GnssConfigFlag :=
  [.gpsLock, .suplVersion, .setAssistanceData, .lppProfile, .lppeControlPlane, .lppeUserPlane,
    .aGlonassPositionProtocol, .emPdnForEmSupl, .suplEmServices, .suplMode]

/-- The bits that are set, low bits first. -/
def setBits (flags : BitVec 32) : List Nat := (List.range 32).filter (flags.getLsbD ·)

theorem bit_flagOrder : ∀ b < 10, (flagOrder[b]?).map GnssConfigFlag.bit = some (.twoPow 32 b) := by
  decide

theorem has_eq_getLsbD (config : GnssConfig) {b : Nat} {flag : GnssConfigFlag}
    (h : flagOrder[b]? = some flag) : config.has flag = config.flags.getLsbD b := by
  have hb : b < 10 := (List.getElem?_eq_some_iff.mp h).1
  have hbit := bit_flagOrder b hb
  rw [h, Option.map_some, Option.some.injEq] at hbit
  unfold GnssConfig.has
  rw [hbit, BitVec.and_twoPow]
  cases config.flags.getLsbD b with
  | false => simp
  | true =>
      have hne : ∀ b < 10, BitVec.twoPow 32 b ≠ 0 := by decide
      rw [if_pos rfl]
      exact decide_eq_true (hne b hb)

/-- The set flags are those of the set bits below 10. -/
theorem filter_flagOrder (config : GnssConfig) :
    (flagOrder.filter config.has).map some
      = ((List.range 10).filter (config.flags.getLsbD ·)).map (flagOrder[·]?) := by
  have horder : flagOrder.map some = (List.range 10).map (flagOrder[·]?) := by decide
  have hleft : (flagOrder.filter config.has).map some
      = (flagOrder.map some).filter fun flag => flag.elim false config.has := by
    rw [List.filter_map]
    rfl
  rw [hleft, horder, List.filter_map]
  refine congrArg _ (List.filter_congr fun b hb => ?_)
  obtain ⟨flag, hflag⟩ : ∃ flag, flagOrder[b]? = some flag :=
    ⟨_, List.getElem?_eq_getElem (List.mem_range.mp hb)⟩
  show (flagOrder[b]?).elim false config.has = _
  rw [hflag, ← has_eq_getLsbD config hflag]
  rfl

/-- Blocks answer the set ones of their flags. -/
theorem map_fst_foldl {config : GnssConfig} {bs : List (GnssConfigFlag × Body)}
    {updates : List (GnssConfig → ConfigAdapter.Update → ConfigAdapter.Update)}
    (h : List.Forall₂ (fun b update => IsBlock b.1 b.2 config update) bs updates)
    (u : ConfigAdapter.Update) :
    (updates.foldl (fun u update => update config u) u).2.map Prod.fst
      = u.2.map Prod.fst ++ (bs.map Prod.fst).filter config.has := by
  induction h generalizing u with
  | nil => exact (List.append_nil _).symm
  | @cons b update bs updates hblock _ ih =>
      rw [List.foldl_cons, ih, hblock u.1 .success u.2, List.map_cons, List.filter_cons]
      by_cases hflag : config.has b.1 = true
      · rw [if_pos hflag, if_pos hflag, List.map_append, List.append_assoc]
        rfl
      · rw [if_neg hflag, if_neg hflag]

/-- Every set flag is answered, once and in order. -/
theorem fst_procGnssUpdateConfig (s : ConfigAdapter)
    (resolveInAddress : CString → Option (BitVec 32)) (config : GnssConfig) :
    (s.procGnssUpdateConfig resolveInAddress config).2.map Prod.fst
      = flagOrder.filter config.has := by
  have hrest := map_fst_foldl (isBlock_updates resolveInAddress config)
    (ConfigAdapter.updateGpsLock config (s, []))
  have hfirst : (ConfigAdapter.updateGpsLock config (s, [])).2.map Prod.fst
      = [GnssConfigFlag.gpsLock].filter config.has := by
    rw [updateGpsLock_eq, List.filter_singleton]
    cases config.has .gpsLock <;> rfl
  rw [hfirst, ← List.filter_append] at hrest
  exact hrest

/-! ### The ids -/

theorem shiftRight_getLsbD (flags : BitVec 32) :
    (flags >>> 1).getLsbD = fun b => flags.getLsbD (b + 1) := by
  funext b
  rw [BitVec.getLsbD_ushiftRight, Nat.add_comm]

/-- The lowest bit, and the bits after a shift. -/
theorem length_setBits_shift (flags : BitVec 32) :
    (setBits flags).length
      = (if flags &&& 1 ≠ 0 then 1 else 0) + (setBits (flags >>> 1)).length := by
  have hlow : flags &&& 1 ≠ 0 ↔ flags.getLsbD 0 = true := by
    have hone : (1 : BitVec 32) = BitVec.twoPow 32 0 := by decide
    rw [hone, BitVec.and_twoPow]
    cases flags.getLsbD 0 <;> decide
  have hshift : (setBits (flags >>> 1)).length
      = ((List.range 31).filter fun b => flags.getLsbD (b + 1)).length := by
    show ((List.range (31 + 1)).filter _).length = _
    rw [shiftRight_getLsbD, List.range_succ, List.filter_append, List.length_append]
    simp
  rw [hshift]
  show ((List.range (31 + 1)).filter _).length = _
  rw [List.range_succ_eq_map, List.filter_cons, List.filter_map]
  by_cases hbit : flags.getLsbD 0 = true
  · rw [if_pos hbit, if_pos (hlow.mpr hbit), List.length_cons, List.length_map, Nat.add_comm]
    rfl
  · rw [if_neg hbit, if_neg fun h => hbit (hlow.mp h), List.length_map, Nat.zero_add]
    rfl

/-- The loop counts the set bits. -/
theorem countLoop_eq {fuel n : Nat} {flagsCopy : BitVec 32} (hflags : flagsCopy.toNat < 2 ^ n)
    (hfuel : n < fuel) (count : Nat) :
    countLoop fuel flagsCopy count = some (count + (setBits flagsCopy).length) := by
  induction fuel generalizing n flagsCopy count with
  | zero => omega
  | succ fuel ih =>
      unfold countLoop
      by_cases hpos : 0 < flagsCopy
      · have hne : 0 < flagsCopy.toNat := BitVec.lt_def.mp hpos
        obtain ⟨k, rfl⟩ : ∃ k, n = k + 1 := by
          cases n with
          | zero => omega
          | succ k => exact ⟨k, rfl⟩
        have hhalf : (flagsCopy >>> 1).toNat < 2 ^ k := by
          rw [BitVec.toNat_ushiftRight, Nat.shiftRight_one]
          rw [Nat.pow_succ] at hflags
          omega
        rw [if_pos hpos, ih hhalf (by omega), length_setBits_shift flagsCopy]
        -- the lowest bit is counted first
        split <;> congr 1 <;> omega
      · have hzero : flagsCopy = 0 := by
          have hnot : ¬0 < flagsCopy.toNat := fun h => hpos (BitVec.lt_def.mpr h)
          refine BitVec.eq_of_toNat_eq ?_
          show flagsCopy.toNat = 0
          omega
        rw [if_neg hpos, hzero]
        rfl

theorem length_setBits (config : GnssConfig) :
    (setBits config.flags).length = PowerAdapter.flagCount config :=
  List.countP_eq_length_filter.symm

theorem generateIds_spec (n : Nat) (s : PowerAdapter) :
    (PowerAdapter.generateIds n s).1 = (fun t : PowerAdapter => t.generateSessionId.1)^[n] s ∧
      (PowerAdapter.generateIds n s).2.length = n := by
  induction n generalizing s with
  | zero => exact ⟨rfl, rfl⟩
  | succ n ih =>
      obtain ⟨hfst, hlength⟩ := ih s.generateSessionId.1
      exact ⟨hfst, congrArg (· + 1) hlength⟩

/-- With a flag the command returns an id for every bit, and sends the message with the ids. -/
theorem gnssUpdateConfigIds_eq (s : PowerAdapter) {config : GnssConfig}
    (hflags : config.flags ≠ 0) :
    ∃ ids, gnssUpdateConfigIds s config
        = some (s.gnssUpdateConfigCommand config, some ⟨config, ids, ids.length⟩) ∧
      ids.length = (setBits config.flags).length := by
  obtain ⟨hfst, hlength⟩ := generateIds_spec (PowerAdapter.flagCount config) s
  have hcount : countLoop 33 config.flags 0 = some (PowerAdapter.flagCount config) := by
    rw [countLoop_eq config.flags.isLt (by decide), Nat.zero_add, length_setBits]
  have hpos : 0 < PowerAdapter.flagCount config := by
    rw [← length_setBits]
    refine List.length_pos_iff.mpr fun hnil => hflags (BitVec.eq_of_getLsbD_eq fun b hb => ?_)
    have hbit := List.filter_eq_nil_iff.mp hnil b (List.mem_range.mpr hb)
    exact (Bool.eq_false_iff.mpr hbit).trans BitVec.getLsbD_zero.symm
  refine ⟨(PowerAdapter.generateIds (PowerAdapter.flagCount config) s).2, ?_, by
    rw [hlength, length_setBits]⟩
  unfold gnssUpdateConfigIds PowerAdapter.gnssUpdateConfigCommand
  rw [hcount, Option.map_some]
  dsimp only
  rw [if_pos hpos, if_neg (Nat.ne_of_gt hpos), hfst, hlength]

/-! ### The response -/

/-- The response is for these ids, each once and in order, and the error of the i-th one is the
outcome of the item whose flag is the i-th lowest set bit. The outcomes are those of
`procGnssUpdateConfig`, looked up by their flag and not by their place. -/
structure PairsIds (ids : List Nat) (flags : BitVec 32)
    (outcomes : List (GnssConfigFlag × LocationError)) (response : CollectiveResponse) : Prop where
  count : response.count = ids.length
  ids : response.ids = ids
  errs : ∀ i b : Nat, (setBits flags)[i]? = some b → ∃ flag err, flagOrder[b]? = some flag ∧
    outcomes.lookup flag = some err ∧ response.errs[i]? = some (some err)

theorem setBits_eq_append (flags : BitVec 32) :
    setBits flags = (List.range 10).filter (flags.getLsbD ·)
      ++ ((List.range 22).map (10 + ·)).filter (flags.getLsbD ·) := by
  show (List.range (10 + 22)).filter _ = _
  rw [List.range_add, List.filter_append]

/-- The bits from 10 on are not set if and only if no bits are left out below. -/
theorem length_filter_range_iff (flags : BitVec 32) :
    ((List.range 10).filter (flags.getLsbD ·)).length = (setBits flags).length
      ↔ flags.toNat < 2 ^ 10 := by
  rw [setBits_eq_append, List.length_append]
  constructor
  · intro h
    have hnil : ((List.range 22).map (10 + ·)).filter (flags.getLsbD ·) = [] :=
      List.length_eq_zero_iff.mp (by omega)
    refine Nat.lt_pow_two_of_testBit _ fun i hi => ?_
    by_cases hlt : i < 32
    · have hmem : i ∈ (List.range 22).map (10 + ·) :=
        List.mem_map.mpr ⟨i - 10, List.mem_range.mpr (by omega), by omega⟩
      exact Bool.eq_false_iff.mpr (List.filter_eq_nil_iff.mp hnil i hmem)
    · exact BitVec.getLsbD_of_ge flags i (by omega)
  · intro h
    have hnil : ((List.range 22).map (10 + ·)).filter (flags.getLsbD ·) = [] := by
      refine List.filter_eq_nil_iff.mpr fun i hi => ?_
      obtain ⟨j, -, rfl⟩ := List.mem_map.mp hi
      refine Bool.eq_false_iff.mp (Nat.testBit_lt_two_pow (Nat.lt_of_lt_of_le h ?_))
      exact Nat.pow_le_pow_right (by decide) (Nat.le_add_right 10 j)
    rw [hnil]
    rfl

theorem setBits_eq_of_lt {flags : BitVec 32} (h : flags.toNat < 2 ^ 10) :
    setBits flags = (List.range 10).filter (flags.getLsbD ·) := by
  have hpre : (List.range 10).filter (flags.getLsbD ·) <+: setBits flags :=
    ⟨_, (setBits_eq_append flags).symm⟩
  exact (hpre.eq_of_length ((length_filter_range_iff flags).mpr h)).symm

variable (s : ConfigAdapter) (config : GnssConfig)

/-- The answers, with the bits of their flags. -/
theorem getElem?_outcomes (resolveInAddress : CString → Option (BitVec 32)) (i : Nat) :
    (s.procGnssUpdateConfig resolveInAddress config).2[i]?.map (fun outcome => some outcome.1)
      = ((List.range 10).filter (config.flags.getLsbD ·))[i]?.map (flagOrder[·]?) := by
  rw [← List.getElem?_map, ← List.getElem?_map, ← filter_flagOrder, ← fst_procGnssUpdateConfig s
    resolveInAddress config, List.map_map]
  rfl

theorem length_outcomes (resolveInAddress : CString → Option (BitVec 32)) :
    (s.procGnssUpdateConfig resolveInAddress config).2.length
      = ((List.range 10).filter (config.flags.getLsbD ·)).length := by
  have h := congrArg List.length (filter_flagOrder config)
  rw [List.length_map, List.length_map, ← fst_procGnssUpdateConfig s resolveInAddress config,
    List.length_map] at h
  exact h

/-- The outcome of an item is the answer with its flag. -/
theorem lookup_outcomes {resolveInAddress : CString → Option (BitVec 32)} {i : Nat}
    {outcome : GnssConfigFlag × LocationError}
    (h : (s.procGnssUpdateConfig resolveInAddress config).2[i]? = some outcome) :
    (s.procGnssUpdateConfig resolveInAddress config).2.lookup outcome.1 = some outcome.2 := by
  have hnodup : ((s.procGnssUpdateConfig resolveInAddress config).2.map Prod.fst).Nodup := by
    rw [fst_procGnssUpdateConfig]
    exact List.Nodup.filter _ (by decide)
  generalize (s.procGnssUpdateConfig resolveInAddress config).2 = outcomes at h hnodup ⊢
  induction outcomes generalizing i with
  | nil => exact absurd h nofun
  | cons first outcomes ih =>
      obtain ⟨hnot, hrest⟩ := List.nodup_cons.mp hnodup
      cases i with
      | zero =>
          obtain rfl : first = outcome := Option.some.inj h
          exact List.lookup_cons_self
      | succ i =>
          -- the first answer has another flag
          have hmem : outcome.1 ∈ outcomes.map Prod.fst :=
            List.mem_map_of_mem (List.mem_of_getElem? h)
          have hne : (outcome.1 == first.1) = false :=
            beq_eq_false_iff_ne.mpr fun heq => hnot (heq ▸ hmem)
          show (match outcome.1 == first.1 with | true => _ | false => _) = _
          rw [hne]
          exact ih h hrest

/-- For every request with a flag, the response of the message, for any state and any answers of the
modem, pairs the returned ids with the outcomes if and only if the flags are those of the ten
items. -/
theorem pairsIds_iff (t : PowerAdapter) (hflags : config.flags ≠ 0) :
    ∃ ids, gnssUpdateConfigIds t config
        = some (t.gnssUpdateConfigCommand config, some ⟨config, ids, ids.length⟩) ∧
      ids.length = (setBits config.flags).length ∧
      ∀ (s : ConfigAdapter) (resolveInAddress : CString → Option (BitVec 32)),
        ∃ response, (MsgGnssUpdateConfig.mk config ids ids.length).proc s resolveInAddress true
            = ((s.procGnssUpdateConfig resolveInAddress config).1, some response) ∧
          (PairsIds ids config.flags (s.procGnssUpdateConfig resolveInAddress config).2 response
            ↔ config.flags.toNat < 2 ^ 10) := by
  obtain ⟨ids, hcommand, hlength⟩ := gnssUpdateConfigIds_eq t hflags
  refine ⟨ids, hcommand, hlength, fun s resolveInAddress => ⟨_, proc_eq .., ?_⟩⟩
  rw [← length_filter_range_iff, ← length_outcomes s config resolveInAddress, ← hlength]
  constructor
  · exact fun h => h.count
  · intro hcount
    refine ⟨hcount, rfl, fun i b hbit => ?_⟩
    have hlow : config.flags.toNat < 2 ^ 10 :=
      (length_filter_range_iff config.flags).mp (by rw [← length_outcomes s config
        resolveInAddress, hcount, hlength])
    rw [setBits_eq_of_lt hlow] at hbit
    have hget := getElem?_outcomes s config resolveInAddress i
    rw [hbit, Option.map_some] at hget
    obtain ⟨outcome, houtcome, hflag⟩ := Option.map_eq_some_iff.mp hget
    refine ⟨outcome.1, outcome.2, hflag.symm, lookup_outcomes s config houtcome, ?_⟩
    show (filled ids.length _)[i]? = _
    rw [filled, List.length_map, hcount, Nat.sub_self, ← hcount, List.take_of_length_le (by simp)]
    simp [houtcome]

/-! ### Examples -/

/-- A request with these flags. -/
def requestOf (flags : BitVec 32) : GnssConfig where
  flags := flags
  gpsLock := .mo
  suplVersion := .v2_0_0
  assistanceServer := ⟨.supl, none, 0⟩
  lppProfile := .rrlpOnLte
  lppeControlPlaneMask := 0
  lppeUserPlaneMask := 0
  aGlonassPositionProtocolMask := 0
  emergencyPdnForEmergencySupl := false
  suplEmergencyServices := false
  suplModeMask := 0

/-- An adapter that has not configured anything. -/
def freshAdapter : PowerAdapter := .new ⟨1, 0, 0x00010000, 0, 0, 0, 0, 0, 0, 0, [], 0⟩ true

/-- The GPS lock and the SUPL version. -/
theorem pairsIds_lock_and_version :
    ∃ ids, gnssUpdateConfigIds freshAdapter (requestOf 3)
        = some (freshAdapter.gnssUpdateConfigCommand (requestOf 3),
          some ⟨requestOf 3, ids, ids.length⟩) ∧
      ∃ response, (MsgGnssUpdateConfig.mk (requestOf 3) ids ids.length).proc freshAdapter.config
          (fun _ => none) true
          = ((freshAdapter.config.procGnssUpdateConfig (fun _ => none) (requestOf 3)).1,
            some response) ∧
        PairsIds ids 3
          (freshAdapter.config.procGnssUpdateConfig (fun _ => none) (requestOf 3)).2 response := by
  obtain ⟨ids, hcommand, -, hproc⟩ := pairsIds_iff (requestOf 3) freshAdapter (by decide)
  obtain ⟨response, hresponse, hiff⟩ := hproc freshAdapter.config fun _ => none
  exact ⟨ids, hcommand, response, hresponse, hiff.mpr (by decide)⟩

/-- A bit that is no item gets an id, and the response is for no id. -/
theorem not_pairsIds_unknown_bit :
    (gnssUpdateConfigIds freshAdapter (requestOf 0x400)).map Prod.snd
        = some (some ⟨requestOf 0x400, [2], 1⟩) ∧
      ((MsgGnssUpdateConfig.mk (requestOf 0x400) [2] 1).proc freshAdapter.config (fun _ => none)
        true).2 = some ⟨0, [none], [2]⟩ ∧
      ¬PairsIds [2] 0x400
        (freshAdapter.config.procGnssUpdateConfig (fun _ => none) (requestOf 0x400)).2
        ⟨0, [none], [2]⟩ :=
  ⟨by decide, by decide, fun h => absurd h.count (by decide)⟩

end LocHal.Gnss.Config
