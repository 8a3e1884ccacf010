import LocHal.Gnss.GnssConfig
import LocHal.Lib.LabelledRun

/-!
# `LocHal.Gnss.ConfigInForce`: a success answer and the value in the modem

`mGps_conf` is the cache: a request with the value that is there is answered with a success, and
nothing is sent. The cache is written before the setter has answered, and `MsgSetConfig` sends it
again after a restart and ignores the answers. So it can hold a value that the modem has refused.
A request with another value is sent, and then the answer is that of the modem.

`Truthful` is the property of one message: what is answered with a success is the value that the
modem accepted last. `Settled` is the condition, on the calls of the setters before the message. For
a request with the value of the cache, the setter of the item has been called since the restart, its
last call did not fail, and the mask of that call has the same bits as the request among those that
the conversion to `mGps_conf` drops. The first part can fail before the first `MsgSetConfig`, the
second one after any refused value, and the third one for masks with bits beyond the known four:
such a mask looks like another one in the cache.

`Linked` is the invariant behind it. The cache and the last call of a setter belong together: the
cache is the conversion of the value that was sent (an update), or the value was computed from the
cache (`MsgSetConfig`), and in either case a request that meets the cache has the known bits of the
value that was sent (`eq_of_converted`). A last call that succeeded is what the modem has accepted.
Every item has its own place in the message, and the other updates leave it alone (`Untouched`).

`guarded_truthful` says that every run whose requests are settled answers truthfully. The other
direction cannot hold: after a refused value the modem may still have the value of an earlier call,
and a second refused call for just that value puts it into the cache. What a truthful run does need
is `Called`, the condition without its second part.
-/

set_option autoImplicit false

namespace LocHal.Gnss.Config

open LabelledRun

/-- What can happen next: an update of the configuration, with the answers of the modem and the
name service, or a restart of the engine, which forgets everything before `MsgSetConfig`. -/
inductive ConfigCall where
  | update (mConfig : GnssConfig) (answers : List LocationError)
      (resolveInAddress : CString → Option (BitVec 32))
  | restart (answers : List LocationError)

/-! ### The values of an item -/

/-- The item whose setter takes the value. -/
def ConfigValue.item : ConfigValue → CachedItem
  | .suplVersion _ => .suplVersion
  | .lppProfile _ => .lppProfile
  | .lppeControlPlane _ => .lppeControlPlane
  | .lppeUserPlane _ => .lppeUserPlane
  | .aGlonassPositionProtocol _ => .aGlonassPositionProtocol

/-- The value, converted as for `mGps_conf`. -/
def ConfigValue.converted : ConfigValue → BitVec 32
  | .suplVersion version => convertSuplVersion version
  | .lppProfile profile => convertLppProfile profile
  | .lppeControlPlane lppeCP => convertLppeCp lppeCP
  | .lppeUserPlane lppeUP => convertLppeUp lppeUP
  | .aGlonassPositionProtocol aGlonassProtocol => convertAGloProt aGlonassProtocol

/-- The bits of the value that the conversion drops: those of a mask beyond the four that have a
name. Versions and profiles have none. -/
def ConfigValue.dropped : ConfigValue → BitVec 16
  | .suplVersion _ => 0
  | .lppProfile _ => 0
  | .lppeControlPlane lppeCP => lppeCP &&& ~~~0xF
  | .lppeUserPlane lppeUP => lppeUP &&& ~~~0xF
  | .aGlonassPositionProtocol aGlonassProtocol => aGlonassProtocol &&& ~~~0xF

/-- A bit of a converted mask. The conversion keeps the bits that it looks at. -/
theorem getLsbD_convertMask {v w : Nat} (bits : List Nat) (mask : BitVec v) (i : Nat) :
    (convertMask bits mask : BitVec w).getLsbD i =
      (decide (i < w) && decide (i ∈ bits) && mask.getLsbD i) := by
  have hloop : ∀ acc : BitVec w,
      (bits.foldl (fun acc bit => if 1#v <<< bit &&& mask ≠ 0 then acc ||| 1#w <<< bit else acc)
        acc).getLsbD i = (acc.getLsbD i || (decide (i < w) && decide (i ∈ bits) &&
          mask.getLsbD i)) := by
    induction bits with
    | nil => simp
    | cons bit bits ih =>
        intro acc
        rw [List.foldl_cons, ih]
        simp only [← BitVec.twoPow_eq, BitVec.twoPow_and]
        by_cases hbit : mask.getLsbD bit = true
        · have hlt : bit < v := BitVec.lt_of_getLsbD hbit
          have hne : BitVec.twoPow v bit ≠ 0 := fun hzero => by
            have hget := congrArg (fun x => x.getLsbD bit) hzero
            simp [hlt] at hget
          rw [if_pos hbit, if_pos hne, BitVec.getLsbD_or, BitVec.getLsbD_twoPow]
          by_cases hi : i = bit
          · subst hi
            by_cases hw : i < w <;> simp [hbit, hw]
          · simp [hi, Ne.symm hi]
        · rw [if_neg hbit, if_neg (by simp)]
          by_cases hi : i = bit
          · subst hi
            simp [hbit]
          · simp [hi]
  rw [convertMask, hloop]
  simp

/-- A mask has its known bits in the converted one and the others among the dropped ones. -/
theorem eq_of_convertMask {a b : BitVec 16}
    (hconverted : (convertMask [0, 1, 2, 3] a : BitVec 32) = convertMask [0, 1, 2, 3] b)
    (hdropped : a &&& ~~~0xF = b &&& ~~~0xF) : a = b := by
  refine BitVec.eq_of_getLsbD_eq fun i hi => ?_
  by_cases hknown : i < 4
  · -- a known bit survives the conversion
    have hbit := congrArg (fun x => x.getLsbD i) hconverted
    have hmem : i ∈ [0, 1, 2, 3] := by simp; omega
    simpa only [getLsbD_convertMask, hmem, show i < 32 by omega, decide_true, Bool.true_and]
      using hbit
  · -- any other bit is among the dropped ones
    have hbit := congrArg (fun x => x.getLsbD i) hdropped
    have hmask : (~~~0xF : BitVec 16).getLsbD i = true := by
      have hall : ∀ i < 16, ¬ i < 4 → (~~~0xF : BitVec 16).getLsbD i = true := by decide
      exact hall i hi hknown
    rwa [BitVec.getLsbD_and, BitVec.getLsbD_and, hmask, Bool.and_true, Bool.and_true] at hbit

/-- A conversion to the other width and back keeps the converted mask. -/
theorem convertMask_convertMask (mask : BitVec 16) :
    (convertMask [0, 1, 2, 3] (convertMask [0, 1, 2, 3] (convertMask [0, 1, 2, 3] mask :
      BitVec 32) : BitVec 16) : BitVec 32) = convertMask [0, 1, 2, 3] mask := by
  refine BitVec.eq_of_getLsbD_eq fun i hi => ?_
  simp only [getLsbD_convertMask]
  by_cases hmem : i ∈ [0, 1, 2, 3]
  · have hi16 : i < 16 := by simp at hmem; omega
    simp [hi, hi16, hmem]
  · simp [hmem]

/-- So does the cut to the width of the setter. -/
theorem convertMask_setWidth (mask : BitVec 16) :
    (convertMask [0, 1, 2, 3] ((convertMask [0, 1, 2, 3] mask : BitVec 32).setWidth 16) :
      BitVec 32) = convertMask [0, 1, 2, 3] mask := by
  refine BitVec.eq_of_getLsbD_eq fun i hi => ?_
  simp only [getLsbD_convertMask, BitVec.getLsbD_setWidth]
  by_cases hmem : i ∈ [0, 1, 2, 3]
  · have hi16 : i < 16 := by simp at hmem; omega
    simp [hi, hi16, hmem]
  · simp [hmem]

namespace CachedItem

@[simp] theorem item_requested (item : CachedItem) (mConfig : GnssConfig) :
    (item.requested mConfig).item = item := by
  cases item <;> rfl

@[simp] theorem item_configured (item : CachedItem) (conf : GpsConf) :
    (item.configured conf).item = item := by
  cases item <;> rfl

theorem converted_requested (item : CachedItem) (mConfig : GnssConfig) :
    (item.requested mConfig).converted = item.converted mConfig := by
  cases item <;> rfl

@[simp] theorem get_put (item : CachedItem) (value : BitVec 32) (conf : GpsConf) :
    item.get (item.put value conf) = value := by
  cases item <;> rfl

/-- What `MsgSetConfig` sends depends on the field of the item. -/
theorem configured_congr {item : CachedItem} {conf conf' : GpsConf}
    (hget : item.get conf' = item.get conf) : item.configured conf' = item.configured conf := by
  cases item <;> simp only [get] at hget <;> simp only [configured, hget]

end CachedItem

namespace ConfigValue

/-- A value is its conversion and its dropped bits. -/
theorem eq_of_converted {a b : ConfigValue} (hitem : a.item = b.item)
    (hconverted : a.converted = b.converted) (hdropped : a.dropped = b.dropped) : a = b := by
  cases a with
  | suplVersion version =>
      cases b <;> simp only [item, reduceCtorEq] at hitem
      -- different versions have different numbers in `mGps_conf`
      rename_i version'
      cases version <;> cases version' <;> first | rfl | exact absurd hconverted (by decide)
  | lppProfile profile =>
      cases b <;> simp only [item, reduceCtorEq] at hitem
      rename_i profile'
      cases profile <;> cases profile' <;> first | rfl | exact absurd hconverted (by decide)
  | lppeControlPlane lppeCP =>
      cases b <;> simp only [item, reduceCtorEq] at hitem
      exact congrArg _ (eq_of_convertMask hconverted hdropped)
  | lppeUserPlane lppeUP =>
      cases b <;> simp only [item, reduceCtorEq] at hitem
      exact congrArg _ (eq_of_convertMask hconverted hdropped)
  | aGlonassPositionProtocol aGlonassProtocol =>
      cases b <;> simp only [item, reduceCtorEq] at hitem
      exact congrArg _ (eq_of_convertMask hconverted hdropped)

/-- When the field of `mGps_conf` is the conversion of a value, `MsgSetConfig` sends a value with
this conversion. -/
theorem converted_configured {value : ConfigValue} {conf : GpsConf}
    (hget : value.converted = value.item.get conf) :
    (value.item.configured conf).converted = value.converted := by
  cases value with
  | suplVersion version =>
      show convertSuplVersion (toSuplVersion conf.SUPL_VER) = _
      rw [show conf.SUPL_VER = convertSuplVersion version from hget.symm]
      cases version <;> rfl
  | lppProfile profile =>
      show convertLppProfile (toLppProfile conf.LPP_PROFILE) = _
      rw [show conf.LPP_PROFILE = convertLppProfile profile from hget.symm]
      cases profile <;> rfl
  | lppeControlPlane lppeCP =>
      show convertLppeCp (convertLppeCp conf.LPPE_CP_TECHNOLOGY : BitVec 16) = _
      rw [show conf.LPPE_CP_TECHNOLOGY = convertLppeCp lppeCP from hget.symm]
      exact convertMask_convertMask lppeCP
  | lppeUserPlane lppeUP =>
      show convertLppeUp (convertLppeUp conf.LPPE_UP_TECHNOLOGY : BitVec 16) = _
      rw [show conf.LPPE_UP_TECHNOLOGY = convertLppeUp lppeUP from hget.symm]
      exact convertMask_convertMask lppeUP
  | aGlonassPositionProtocol aGlonassProtocol =>
      show convertAGloProt (conf.A_GLONASS_POS_PROTOCOL_SELECT.setWidth 16) = _
      rw [show conf.A_GLONASS_POS_PROTOCOL_SELECT = convertAGloProt aGlonassProtocol from
        hget.symm]
      exact convertMask_setWidth aGlonassProtocol

end ConfigValue

namespace ConfigAdapter

/-- The adapter and the answers after an update. -/
def updated (s : ConfigAdapter) (mConfig : GnssConfig) (answers : List LocationError)
    (resolveInAddress : CString → Option (BitVec 32)) : Update :=
  (s.withAnswers answers).procGnssUpdateConfig resolveInAddress mConfig

/-- One step. -/
def step (s : ConfigAdapter) : ConfigCall → Option ConfigAdapter
  | .update mConfig answers resolveInAddress => some (s.updated mConfig answers resolveInAddress).1
  | .restart answers => some ({ s with mLocApi := .new }.withAnswers answers).procSetConfig

/-- An item that is answered with a success is in force: the modem accepted the requested value
last. Nothing is asked of an item that is answered with an error, or not asked for. -/
def Truthful (s : ConfigAdapter) : ConfigCall → Prop
  | .update mConfig answers resolveInAddress =>
      ∀ item : CachedItem,
        (item.flag, .success) ∈ (s.updated mConfig answers resolveInAddress).2 →
        (s.updated mConfig answers resolveInAddress).1.mLocApi.accepted item =
          some (item.requested mConfig)
  | .restart _ => True

/-- The condition, on the calls before the message. When the request is for the value of
`mGps_conf`, so that nothing is sent, then the last call of the setter since the restart did not
fail, and it was made with the same dropped bits. The value in `mGps_conf` may be that of a refused
call otherwise, or of the configuration file. -/
def Settled (s : ConfigAdapter) : ConfigCall → Prop
  | .update mConfig _ _ =>
      ∀ item : CachedItem, mConfig.has item.flag = true →
        item.converted mConfig = item.get s.mGps_conf →
        ∃ call ∈ s.mLocApi.lastCall item, call.2 = .success ∧
          (item.requested mConfig).dropped = call.1.dropped
  | .restart _ => True

/-- What a truthful answer needs of the calls before. The setter has been called since the restart,
and if its last call did not fail, the dropped bits are the same. If it did fail, the modem may have
the value from an earlier call. -/
def Called (s : ConfigAdapter) : ConfigCall → Prop
  | .update mConfig _ _ =>
      ∀ item : CachedItem, mConfig.has item.flag = true →
        item.converted mConfig = item.get s.mGps_conf →
        ∃ call ∈ s.mLocApi.lastCall item, call.2 = .success →
          (item.requested mConfig).dropped = call.1.dropped
  | .restart _ => True

/-! ### The updates leave the other items alone -/

/-- An update is about another item. -/
structure Untouched (item : CachedItem) (u v : Update) : Prop where
  conf : item.get v.1.mGps_conf = item.get u.1.mGps_conf
  accepted : v.1.mLocApi.accepted item = u.1.mLocApi.accepted item
  lastCall : v.1.mLocApi.lastCall item = u.1.mLocApi.lastCall item
  answers : ∀ err, (item.flag, err) ∈ v.2 ↔ (item.flag, err) ∈ u.2
  injects : v.1.injects = u.1.injects

variable {item other : CachedItem} {u v w : Update} {s t : ConfigAdapter} {mConfig : GnssConfig}
  {resolveInAddress : CString → Option (BitVec 32)}

theorem Untouched.refl (item : CachedItem) (u : Update) : Untouched item u u :=
  ⟨rfl, rfl, rfl, fun _ => Iff.rfl, rfl⟩

theorem Untouched.trans (h : Untouched item u v) (h' : Untouched item v w) :
    Untouched item u w where
  conf := h'.conf.trans h.conf
  accepted := h'.accepted.trans h.accepted
  lastCall := h'.lastCall.trans h.lastCall
  answers err := (h'.answers err).trans (h.answers err)
  injects := h'.injects.trans h.injects

/-- An answer to another flag. -/
theorem untouched_of_answer {flag : GnssConfigFlag} {err : LocationError} (hflag : flag ≠ item.flag)
    (hconf : item.get t.mGps_conf = item.get u.1.mGps_conf)
    (haccepted : t.mLocApi.accepted item = u.1.mLocApi.accepted item)
    (hlastCall : t.mLocApi.lastCall item = u.1.mLocApi.lastCall item)
    (hinjects : t.injects = u.1.injects) : Untouched item u (t, u.2 ++ [(flag, err)]) := by
  refine ⟨hconf, haccepted, hlastCall, fun err' => ?_, hinjects⟩
  rw [List.mem_append, List.mem_singleton, Prod.mk.injEq]
  exact or_iff_left fun h => hflag h.1.symm

theorem untouched_updateGpsLock (item : CachedItem) (mConfig : GnssConfig) (u : Update) :
    Untouched item u (updateGpsLock mConfig u) := by
  have hflag : GnssConfigFlag.gpsLock ≠ item.flag := by cases item <;> decide
  unfold updateGpsLock
  dsimp only
  split
  · split
    · exact untouched_of_answer hflag (by cases item <;> rfl) rfl rfl rfl
    · exact untouched_of_answer hflag (by cases item <;> rfl) rfl rfl rfl
  · exact Untouched.refl item u

theorem untouched_updateAssistanceServer (item : CachedItem)
    (resolveInAddress : CString → Option (BitVec 32)) (mConfig : GnssConfig) (u : Update) :
    Untouched item u (updateAssistanceServer resolveInAddress mConfig u) := by
  have hflag : GnssConfigFlag.setAssistanceData ≠ item.flag := by cases item <;> decide
  unfold updateAssistanceServer
  dsimp only
  split
  · split
    · -- the SUPL server
      refine untouched_of_answer hflag ?_ ?_ ?_ ?_ <;>
        · unfold setSuplHostServer
          dsimp only
          split
          · split
            · rfl
            · rfl
          · rfl
    · split
      · split
        · exact untouched_of_answer hflag rfl rfl rfl rfl
        · exact untouched_of_answer hflag rfl rfl rfl rfl
      · exact untouched_of_answer hflag rfl rfl rfl rfl
    · exact untouched_of_answer hflag rfl rfl rfl rfl
  · exact Untouched.refl item u

/-- An item that is written only. -/
theorem untouched_updateWritten {flag : GnssConfigFlag} {write : GpsConf → GpsConf}
    (hflag : flag ≠ item.flag) (hconf : ∀ conf, item.get (write conf) = item.get conf)
    (hinject : ∀ conf, (write conf).AGPS_CONFIG_INJECT = conf.AGPS_CONFIG_INJECT)
    (mConfig : GnssConfig) (u : Update) :
    Untouched item u (updateWritten flag write mConfig u) := by
  unfold updateWritten
  split
  · refine untouched_of_answer hflag (hconf _) rfl rfl ?_
    unfold injects
    rw [hinject]
  · exact Untouched.refl item u

theorem untouched_updateEP4ES (item : CachedItem) (mConfig : GnssConfig) (u : Update) :
    Untouched item u (updateEP4ES mConfig u) := by
  unfold updateEP4ES
  refine untouched_updateWritten ?_ ?_ ?_ mConfig u
  · cases item <;> decide
  · intro conf
    cases item <;> rfl
  · intro conf
    rfl

theorem untouched_updateSuplEs (item : CachedItem) (mConfig : GnssConfig) (u : Update) :
    Untouched item u (updateSuplEs mConfig u) := by
  unfold updateSuplEs
  refine untouched_updateWritten ?_ ?_ ?_ mConfig u
  · cases item <;> decide
  · intro conf
    cases item <;> rfl
  · intro conf
    rfl

theorem untouched_updateSuplMode (item : CachedItem) (mConfig : GnssConfig) (u : Update) :
    Untouched item u (updateSuplMode mConfig u) := by
  unfold updateSuplMode
  refine untouched_updateWritten ?_ ?_ ?_ mConfig u
  · cases item <;> decide
  · intro conf
    cases item <;> rfl
  · intro conf
    rfl

/-- Another item with a cache. -/
theorem untouched_updateCached (hne : other ≠ item) (mConfig : GnssConfig) (u : Update) :
    Untouched item u (updateCached other mConfig u) := by
  have hflag : other.flag ≠ item.flag := by
    cases other <;> cases item <;> first | decide | exact absurd rfl hne
  unfold updateCached
  dsimp only
  split
  · split
    · refine untouched_of_answer hflag ?_ ?_ ?_ ?_
      · cases other <;> cases item <;> first | rfl | exact absurd rfl hne
      · unfold LocApiBase.set
        dsimp only
        split
        · exact Function.update_of_ne (Ne.symm hne) _ _
        · rfl
      · exact Function.update_of_ne (Ne.symm hne) _ _
      · cases other <;> rfl
    · exact untouched_of_answer hflag rfl rfl rfl rfl
  · exact Untouched.refl item u

/-- The update of an item stands between updates of others. -/
theorem updates_split (resolveInAddress : CString → Option (BitVec 32)) (item : CachedItem) :
    ∃ before after, updates resolveInAddress = before ++ updateCached item :: after ∧
      ∀ update ∈ before ++ after, ∀ mConfig u, Untouched item u (update mConfig u) := by
  have hep4es := untouched_updateEP4ES item
  have hsuplEs := untouched_updateSuplEs item
  have hsuplMode := untouched_updateSuplMode item
  have hgpsLock := untouched_updateGpsLock item
  have hserver := untouched_updateAssistanceServer item resolveInAddress
  have hcached := fun (other : CachedItem) (hne : other ≠ item) => untouched_updateCached hne
  -- each item stands at its own place in the list of the updates
  cases item with
  | suplVersion =>
      -- the other updates are on either side of it, and none touches the item
      refine ⟨[updateGpsLock], _, rfl, ?_⟩
      simp only [List.cons_append, List.nil_append, List.forall_mem_cons]
      exact ⟨hgpsLock, hserver, hcached .lppProfile (by decide),
        hcached .lppeControlPlane (by decide), hcached .lppeUserPlane (by decide),
        hcached .aGlonassPositionProtocol (by decide), hep4es, hsuplEs, hsuplMode,
        List.forall_mem_nil _⟩
  | lppProfile =>
      refine ⟨[updateGpsLock, updateSuplVersion,
        updateAssistanceServer resolveInAddress], _, rfl, ?_⟩
      simp only [List.cons_append, List.nil_append, List.forall_mem_cons]
      exact ⟨hgpsLock, hcached .suplVersion (by decide), hserver,
        hcached .lppeControlPlane (by decide), hcached .lppeUserPlane (by decide),
        hcached .aGlonassPositionProtocol (by decide), hep4es, hsuplEs, hsuplMode,
        List.forall_mem_nil _⟩
  | lppeControlPlane =>
      refine ⟨[updateGpsLock, updateSuplVersion, updateAssistanceServer resolveInAddress,
        updateLppProfile], _, rfl, ?_⟩
      simp only [List.cons_append, List.nil_append, List.forall_mem_cons]
      exact ⟨hgpsLock, hcached .suplVersion (by decide), hserver, hcached .lppProfile (by decide),
        hcached .lppeUserPlane (by decide), hcached .aGlonassPositionProtocol (by decide), hep4es,
        hsuplEs, hsuplMode, List.forall_mem_nil _⟩
  | lppeUserPlane =>
      refine ⟨[updateGpsLock, updateSuplVersion, updateAssistanceServer resolveInAddress,
        updateLppProfile, updateLppeControlPlane], _, rfl, ?_⟩
      simp only [List.cons_append, List.nil_append, List.forall_mem_cons]
      exact ⟨hgpsLock, hcached .suplVersion (by decide), hserver, hcached .lppProfile (by decide),
        hcached .lppeControlPlane (by decide), hcached .aGlonassPositionProtocol (by decide),
        hep4es, hsuplEs, hsuplMode, List.forall_mem_nil _⟩
  | aGlonassPositionProtocol =>
      refine ⟨[updateGpsLock, updateSuplVersion, updateAssistanceServer resolveInAddress,
        updateLppProfile, updateLppeControlPlane, updateLppeUserPlane], _, rfl, ?_⟩
      simp only [List.cons_append, List.nil_append, List.forall_mem_cons]
      exact ⟨hgpsLock, hcached .suplVersion (by decide), hserver, hcached .lppProfile (by decide),
        hcached .lppeControlPlane (by decide), hcached .lppeUserPlane (by decide), hep4es,
        hsuplEs, hsuplMode, List.forall_mem_nil _⟩

/-- Updates of other items, one after the other. -/
theorem untouched_foldl (mConfig : GnssConfig) :
    ∀ (l : List (GnssConfig → Update → Update)) (u : Update),
      (∀ update ∈ l, ∀ mConfig u, Untouched item u (update mConfig u)) →
        Untouched item u (l.foldl (fun u update => update mConfig u) u) := by
  intro l
  induction l with
  | nil =>
      intro u _
      exact Untouched.refl item u
  | cons update l ih =>
      intro u hl
      have hfirst := hl update List.mem_cons_self mConfig u
      exact hfirst.trans (ih _ fun f hf => hl f (List.mem_cons_of_mem _ hf))

/-- What an update does about an item is its own update, with updates of others around it. -/
theorem exists_updateCached (item : CachedItem) (s : ConfigAdapter) (mConfig : GnssConfig)
    (answers : List LocationError) (resolveInAddress : CString → Option (BitVec 32)) :
    ∃ u, Untouched item (s.withAnswers answers, []) u ∧
      Untouched item (updateCached item mConfig u)
        (s.updated mConfig answers resolveInAddress) := by
  obtain ⟨before, after, hlist, hothers⟩ := updates_split resolveInAddress item
  refine ⟨before.foldl (fun u update => update mConfig u) (s.withAnswers answers, []),
    untouched_foldl mConfig before _ fun f hf => hothers f (List.mem_append_left _ hf), ?_⟩
  unfold updated procGnssUpdateConfig
  rw [hlist, List.foldl_append, List.foldl_cons]
  exact untouched_foldl mConfig after _ fun f hf => hothers f (List.mem_append_right _ hf)

/-! ### The own update of an item -/

/-- A value that is sent is answered truthfully. Otherwise the answer is a success, and it tells the
truth if and only if the modem has the value already. -/
theorem updateCached_truthful_iff (hinjects : u.1.injects = true)
    (hfirst : ∀ err, (item.flag, err) ∉ u.2) :
    ((item.flag, .success) ∈ (updateCached item mConfig u).2 →
      (updateCached item mConfig u).1.mLocApi.accepted item = some (item.requested mConfig)) ↔
    (mConfig.has item.flag = true → item.converted mConfig = item.get u.1.mGps_conf →
      u.1.mLocApi.accepted item = some (item.requested mConfig)) := by
  obtain ⟨s, errs⟩ := u
  replace hinjects : s.injects = true := hinjects
  unfold updateCached
  dsimp only
  by_cases hflag : mConfig.has item.flag = true
  · rw [if_pos hflag, imp_iff_right hflag]
    by_cases hsame : item.converted mConfig = item.get s.mGps_conf
    · -- nothing is sent, and the answer is a success
      rw [if_neg (by simp [hsame]), imp_iff_right hsame]
      exact imp_iff_right (List.mem_append_right _ List.mem_cons_self)
    · -- a success comes from the modem
      rw [if_pos (by simp [hsame, hinjects])]
      refine iff_of_true (fun hanswer => ?_) fun h => absurd h hsame
      -- the answer to the item is the one of the setter, as there was none before
      have hsuccess : s.mLocApi.answer = .success := by
        rcases List.mem_append.mp hanswer with hold | hnew
        · exact absurd hold (hfirst _)
        · exact (Prod.mk.inj (List.mem_singleton.mp hnew)).2.symm
      unfold LocApiBase.set
      dsimp only
      rw [if_pos hsuccess, Function.update_self]
  · rw [if_neg hflag]
    exact iff_of_true (fun hanswer => absurd hanswer (hfirst _)) fun h => absurd h hflag

/-- The other updates neither answer for an item nor send it. -/
theorem truthful_update_iff (hinjects : s.injects = true) {answers : List LocationError} :
    s.Truthful (.update mConfig answers resolveInAddress) ↔
      ∀ item : CachedItem, mConfig.has item.flag = true →
        item.converted mConfig = item.get s.mGps_conf →
        s.mLocApi.accepted item = some (item.requested mConfig) := by
  refine forall_congr' fun item => ?_
  obtain ⟨u, hbefore, hafter⟩ := exists_updateCached item s mConfig answers resolveInAddress
  rw [hafter.answers, hafter.accepted, updateCached_truthful_iff]
  · rw [hbefore.conf, hbefore.accepted]
    rfl
  · exact hbefore.injects.trans hinjects
  · intro err hmem
    exact List.not_mem_nil ((hbefore.answers err).mp hmem)

/-! ### The cache and the last call of a setter -/

/-- What the cache and the modem have to do with the last call of the setter of an item. -/
structure Linked (item : CachedItem) (s : ConfigAdapter) : Prop where
  item_eq : ∀ call ∈ s.mLocApi.lastCall item, call.1.item = item
  /-- The value was written to the cache when it was sent, or it was computed from the cache. -/
  cached : ∀ call ∈ s.mLocApi.lastCall item,
    call.1.converted = item.get s.mGps_conf ∨ call.1 = item.configured s.mGps_conf
  /-- A call that succeeds leaves its value in force until the next call. -/
  accepted : ∀ call ∈ s.mLocApi.lastCall item, call.2 = .success →
    s.mLocApi.accepted item = some call.1
  uncalled : s.mLocApi.lastCall item = none → s.mLocApi.accepted item = none

theorem linked_of_uncalled (hcall : s.mLocApi.lastCall item = none)
    (haccepted : s.mLocApi.accepted item = none) : Linked item s where
  item_eq call hmem := by rw [hcall] at hmem; cases hmem
  cached call hmem := by rw [hcall] at hmem; cases hmem
  accepted call hmem := by rw [hcall] at hmem; cases hmem
  uncalled _ := haccepted

/-- `Linked` is about the field of the item, its last call and its value in the modem. -/
theorem Linked.congr (h : Linked item s) (hconf : item.get t.mGps_conf = item.get s.mGps_conf)
    (haccepted : t.mLocApi.accepted item = s.mLocApi.accepted item)
    (hcall : t.mLocApi.lastCall item = s.mLocApi.lastCall item) : Linked item t := by
  constructor
  · rw [hcall]
    exact h.item_eq
  · rw [hcall, hconf, CachedItem.configured_congr hconf]
    exact h.cached
  · rw [hcall, haccepted]
    exact h.accepted
  · rw [hcall, haccepted]
    exact h.uncalled

/-- A call of the setter. -/
theorem linked_set {value : ConfigValue} (hitem : value.item = item)
    (hcached : value.converted = item.get t.mGps_conf ∨ value = item.configured t.mGps_conf)
    (hapi : t.mLocApi = (s.mLocApi.set item value).1) : Linked item t := by
  have hcall : t.mLocApi.lastCall item = some (value, s.mLocApi.answer) := by
    rw [hapi]
    exact Function.update_self item _ _
  constructor
  · intro call hmem
    cases hcall.symm.trans hmem
    exact hitem
  · intro call hmem
    cases hcall.symm.trans hmem
    exact hcached
  · intro call hmem hsuccess
    cases hcall.symm.trans hmem
    rw [hapi]
    unfold LocApiBase.set
    dsimp only
    rw [if_pos hsuccess, Function.update_self]
  · intro hnone
    rw [hcall] at hnone
    cases hnone

theorem Linked.updateCached (h : Linked item u.1) (mConfig : GnssConfig) :
    Linked item (updateCached item mConfig u).1 := by
  unfold ConfigAdapter.updateCached
  dsimp only
  split
  · split
    · refine linked_set (s := u.1) (item.item_requested mConfig) (Or.inl ?_) rfl
      rw [CachedItem.converted_requested, CachedItem.get_put]
    · exact h
  · exact h

/-- An update of the configuration. -/
theorem Linked.updated (h : Linked item s) (mConfig : GnssConfig) (answers : List LocationError)
    (resolveInAddress : CString → Option (BitVec 32)) :
    Linked item (s.updated mConfig answers resolveInAddress).1 := by
  obtain ⟨u, hbefore, hafter⟩ := exists_updateCached item s mConfig answers resolveInAddress
  have hown := (h.congr hbefore.conf hbefore.accepted hbefore.lastCall).updateCached mConfig
  exact hown.congr hafter.conf hafter.accepted hafter.lastCall

/-- A setter of `MsgSetConfig`. -/
theorem Linked.send (h : Linked item s) (other : CachedItem) : Linked item (send other s) := by
  -- the setter of the item itself sends what the field says, any other one leaves it alone
  by_cases hne : item = other
  · subst hne
    exact linked_set (s := s) (item.item_configured _) (Or.inr rfl) rfl
  · refine h.congr rfl ?_ (Function.update_of_ne hne _ _)
    unfold ConfigAdapter.send LocApiBase.set
    dsimp only
    split
    · exact Function.update_of_ne hne _ _
    · rfl

theorem Linked.setSuplHostServer (h : Linked item s) (server : Option CString) (port : Int) :
    Linked item (s.setSuplHostServer server port).1 := by
  unfold ConfigAdapter.setSuplHostServer
  dsimp only
  split
  · split
    · exact h.congr rfl rfl rfl
    · exact h
  · exact h

theorem Linked.procSetConfig (h : Linked item s) : Linked item s.procSetConfig := by
  unfold ConfigAdapter.procSetConfig
  dsimp only
  split
  · -- five setters and the server between them
    exact (((((h.send _).send _).send _).setSuplHostServer _ _).send _).send _
  · exact ((h.setSuplHostServer _ _).send _).send _

theorem Linked.step {call : ConfigCall} (h : Linked item s) (ht : s.step call = some t) :
    Linked item t := by
  cases call with
  | update mConfig answers resolveInAddress =>
      cases ht
      exact h.updated mConfig answers resolveInAddress
  | restart answers =>
      cases ht
      exact (linked_of_uncalled rfl rfl).procSetConfig

/-- A request that meets the cache has the conversion of the last call. -/
theorem Linked.converted_eq (h : Linked item s) {call : ConfigValue × LocationError}
    (hcall : call ∈ s.mLocApi.lastCall item)
    (hsame : item.converted mConfig = item.get s.mGps_conf) :
    (item.requested mConfig).converted = call.1.converted := by
  rw [CachedItem.converted_requested]
  -- the field is the conversion of the last value, or the value was computed from the field
  rcases h.cached call hcall with hconverted | hconfigured
  · rw [hconverted, hsame]
  · have hget : (item.requested mConfig).converted =
        (item.requested mConfig).item.get s.mGps_conf := by
      rw [CachedItem.converted_requested, CachedItem.item_requested, hsame]
    have hback := ConfigValue.converted_configured hget
    rw [CachedItem.item_requested, ← hconfigured, CachedItem.converted_requested] at hback
    exact hback.symm

/-- A settled request meets a value that is in force. -/
theorem Linked.accepted_of_settled (h : Linked item s)
    (hsame : item.converted mConfig = item.get s.mGps_conf)
    (hsettled : ∃ call ∈ s.mLocApi.lastCall item, call.2 = .success ∧
      (item.requested mConfig).dropped = call.1.dropped) :
    s.mLocApi.accepted item = some (item.requested mConfig) := by
  obtain ⟨call, hcall, hsuccess, hdropped⟩ := hsettled
  -- a value is determined by its conversion and its dropped bits
  have hvalue : item.requested mConfig = call.1 := by
    refine ConfigValue.eq_of_converted ?_ (h.converted_eq hcall hsame) hdropped
    rw [CachedItem.item_requested, h.item_eq call hcall]
  rw [hvalue]
  exact h.accepted call hcall hsuccess

/-- A value that is in force has been sent since the restart. -/
theorem Linked.called_of_accepted (h : Linked item s)
    (haccepted : s.mLocApi.accepted item = some (item.requested mConfig)) :
    ∃ call ∈ s.mLocApi.lastCall item, call.2 = .success →
      (item.requested mConfig).dropped = call.1.dropped := by
  cases hcall : s.mLocApi.lastCall item with
  | none =>
      rw [h.uncalled hcall] at haccepted
      cases haccepted
  | some call =>
      refine ⟨call, rfl, fun hsuccess => ?_⟩
      rw [h.accepted call hcall hsuccess] at haccepted
      rw [Option.some.inj haccepted]

/-! ### The runs -/

@[simp] theorem injects_setSuplHostServer (s : ConfigAdapter) (server : Option CString)
    (port : Int) : (s.setSuplHostServer server port).1.injects = s.injects := by
  unfold setSuplHostServer
  dsimp only
  split
  · split
    · rfl
    · rfl
  · rfl

@[simp] theorem injects_send (item : CachedItem) (s : ConfigAdapter) :
    (send item s).injects = s.injects := rfl

theorem injects_procSetConfig (s : ConfigAdapter) : s.procSetConfig.injects = s.injects := by
  unfold procSetConfig
  dsimp only
  split <;> simp

theorem injects_updated (s : ConfigAdapter) (mConfig : GnssConfig) (answers : List LocationError)
    (resolveInAddress : CString → Option (BitVec 32)) :
    (s.updated mConfig answers resolveInAddress).1.injects = s.injects := by
  -- seen from the item that is updated second, the updates before and after it leave it alone
  obtain ⟨u, hbefore, hafter⟩ :=
    exists_updateCached .suplVersion s mConfig answers resolveInAddress
  have hown := untouched_updateCached (by decide : CachedItem.suplVersion ≠ .lppProfile) mConfig u
  rw [hafter.injects, hown.injects, hbefore.injects]
  rfl

/-- No message writes `AGPS_CONFIG_INJECT`. -/
theorem injects_step {call : ConfigCall} (h : s.step call = some t) : t.injects = s.injects := by
  cases call with
  | update mConfig answers resolveInAddress =>
      cases h
      exact injects_updated s mConfig answers resolveInAddress
  | restart answers =>
      cases h
      exact injects_procSetConfig _

/-- What the answers rest on: the cache and the calls of the setters belong together. -/
structure Consistent (s : ConfigAdapter) : Prop where
  injects : s.injects = true
  linked : ∀ item, Linked item s

theorem Consistent.step {call : ConfigCall} (h : s.Consistent) (ht : s.step call = some t) :
    t.Consistent where
  injects := (injects_step ht).trans h.injects
  linked item := (h.linked item).step ht

theorem consistent_new {mGps_conf : GpsConf} (hinject : mGps_conf.AGPS_CONFIG_INJECT ≠ 0) :
    (new mGps_conf).Consistent where
  injects := decide_eq_true hinject
  linked _ := linked_of_uncalled rfl rfl

/-- A settled message is answered truthfully. -/
theorem Consistent.truthful {call : ConfigCall} (h : s.Consistent) (hok : s.Settled call) :
    s.Truthful call := by
  cases call with
  | restart answers => trivial
  | update mConfig answers resolveInAddress =>
      refine (truthful_update_iff h.injects).mpr fun item hflag hsame => ?_
      exact (h.linked item).accepted_of_settled hsame (hok item hflag hsame)

/-- A truthful answer without a call of the setter needs an earlier call. -/
theorem Consistent.called {call : ConfigCall} (h : s.Consistent) (htruthful : s.Truthful call) :
    s.Called call := by
  cases call with
  | restart answers => trivial
  | update mConfig answers resolveInAddress =>
      intro item hflag hsame
      exact (h.linked item).called_of_accepted
        ((truthful_update_iff h.injects).mp htruthful item hflag hsame)

/-- In every run whose requests for a value of `mGps_conf` are all settled, the answers of all
updates are truthful. Conversely, in a run of truthful answers every such request finds a call of
the setter since the restart, and one with the same dropped bits unless the last call failed. -/
theorem guarded_truthful (mGps_conf : GpsConf) (hinject : mGps_conf.AGPS_CONFIG_INJECT ≠ 0)
    (calls : List ConfigCall) :
    (Guarded step Settled (new mGps_conf) calls → Guarded step Truthful (new mGps_conf) calls) ∧
      (Guarded step Truthful (new mGps_conf) calls → Guarded step Called (new mGps_conf) calls) :=
  have hstep : ∀ s call t, Consistent s → s.step call = some t → Consistent t :=
    fun _ _ _ h ht => h.step ht
  ⟨Guarded.imp (fun _ _ h hok => h.truthful hok) hstep calls _ (consistent_new hinject),
    Guarded.imp (fun _ _ h hok => h.called hok) hstep calls _ (consistent_new hinject)⟩

/-- A configuration with the SUPL version 1.0.0. -/
def supl1 : GpsConf := ⟨1, 0, 0x00010000, 0, 0, 0, 0, 0, 0, 0, [], 0⟩

/-- A request for the SUPL version 2.0.0. -/
def requestSupl2 : GnssConfig where
  flags := GnssConfigFlag.suplVersion.bit
  gpsLock := .none
  suplVersion := .v2_0_0
  assistanceServer := ⟨.supl, none, 0⟩
  lppProfile := .rrlpOnLte
  lppeControlPlaneMask := 0
  lppeUserPlaneMask := 0
  aGlonassPositionProtocolMask := 0
  emergencyPdnForEmergencySupl := false
  suplEmergencyServices := false
  suplModeMask := 0

/-- After the first configuration, the request is made twice. The modem refuses the version, and
is not asked again. -/
def refusedTwice (answer : LocationError) : List ConfigCall :=
  [.restart [], .update requestSupl2 [answer] fun _ => none,
    .update requestSupl2 [] fun _ => none]

/-- The modem accepts the version, restarts and gets it from `MsgSetConfig`, and then the request is
made again. -/
def acceptedAgain : List ConfigCall :=
  [.restart [.generalFailure], .update requestSupl2 [.success] fun _ => none, .restart [],
    .update requestSupl2 [] fun _ => none]

/-- The last answer is truthful, although nothing is sent for it. -/
theorem guarded_truthful_acceptedAgain :
    Guarded step Truthful (new supl1) acceptedAgain := by
  refine (guarded_truthful supl1 (by decide) acceptedAgain).1 ⟨trivial, fun s hs => ?_⟩
  cases hs
  refine ⟨fun item => ?_, fun t ht => ?_⟩
  · cases item <;> decide
  · cases ht
    refine ⟨trivial, fun u hu => ?_⟩
    cases hu
    refine ⟨fun item => ?_, fun _ _ => trivial⟩
    cases item <;> decide

/-- The second answer says that version 2.0.0 is in force, and the modem has version 1.0.0. -/
theorem not_guarded_refusedTwice :
    ¬ Guarded step Truthful (new supl1) (refusedTwice .generalFailure) := by
  rintro ⟨-, h⟩
  have hlast := ((h _ rfl).2 _ rfl).1 .suplVersion (by decide)
  exact absurd hlast (by decide)

end ConfigAdapter

end LocHal.Gnss.Config
