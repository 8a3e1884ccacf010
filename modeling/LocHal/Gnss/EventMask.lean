import LocHal.Core.LocApiBase
import LocHal.Lib.SortedMap

/-!
# `LocHal.Gnss.EventMask`: the event mask of `GnssAdapter.cpp`

`updateClientsEventMask` computes the events that the adapter needs, from the callbacks of the
clients and four more inputs. It runs when a client comes or goes. `initAgps` and `initOdcpi` set
an input and one bit of the mask, and `MsgSetConfig` sets an input only.

`MaskFollows` is the property, from the first client on. `along_maskFollows_iff` gives the exact
condition: an initialisation comes with a callback, and a new NMEA mask does not matter to a
client. The proofs look at one bit at a time (`getLsbD_clientsEventMask`).

The sessions of a removed client and the other settings of `MsgSetConfig` are left out, and so is
what `initAgps` does for the AGPS manager. A callback is `true` when it is not null.

`getLsbD_clientsEventMask` says which bit of the computed mask is set and why: by a client with the
right callback, or by one of the four inputs. A message that changes one input then changes one bit
at most. `clientsEventMask_nmea_iff`, `clientsEventMask_agps_iff` and `clientsEventMask_odcpi_iff`
say for each of the three inputs when the computed mask stays what the message makes of the stored
one. `maskFollows_step_iff` puts them together: one step keeps the property exactly under the
condition.
-/

set_option autoImplicit false

namespace LocHal.Gnss.EventMask

open LabelledRun
open LocHal.Core (LocAdapterBase.updateEvtMask)

/-! ### The events -/

/-- The bit of an event index. -/
def eventBit (index : Nat) : BitVec 64 := BitVec.twoPow 64 index

/-- `LOC_API_ADAPTER_BIT_PARSED_POSITION_REPORT`. -/
def bitParsedPositionReport : BitVec 64 := eventBit 0

/-- `LOC_API_ADAPTER_BIT_SATELLITE_REPORT`. -/
def bitSatelliteReport : BitVec 64 := eventBit 1

/-- `LOC_API_ADAPTER_BIT_NMEA_1HZ_REPORT`. -/
def bitNmea1hzReport : BitVec 64 := eventBit 2

/-- `LOC_API_ADAPTER_BIT_NI_NOTIFY_VERIFY_REQUEST`. -/
def bitNiNotifyVerifyRequest : BitVec 64 := eventBit 4

/-- `LOC_API_ADAPTER_BIT_LOCATION_SERVER_REQUEST`. -/
def bitLocationServerRequest : BitVec 64 := eventBit 6

/-- `LOC_API_ADAPTER_BIT_REQUEST_WIFI`. -/
def bitRequestWifi : BitVec 64 := eventBit 9

/-- `LOC_API_ADAPTER_BIT_GNSS_SV_POLYNOMIAL_REPORT`. -/
def bitGnssSvPolynomialReport : BitVec 64 := eventBit 23

/-- `LOC_API_ADAPTER_BIT_GNSS_MEASUREMENT`. -/
def bitGnssMeasurement : BitVec 64 := eventBit 26

/-! ### The adapter -/

/-- The callbacks of a client that the mask depends on. -/
structure LocationCallbacks where
  trackingCb : Bool
  gnssNiCb : Bool
  gnssSvCb : Bool
  gnssNmeaCb : Bool
  gnssMeasurementsCb : Bool
  deriving DecidableEq, Repr

/-- `AgpsCbInfo`. The priorities of the enumeration start with 1. -/
structure AgpsCbInfo where
  statusV4Cb : Bool
  cbPriority : Nat
  deriving DecidableEq, Repr

/-- The fields of `ContextBase::mGps_conf` that the messages use. -/
structure GpsConf where
  NMEA_PROVIDER : BitVec 32
  EXTERNAL_DR_ENABLED : BitVec 32
  CAPABILITIES : BitVec 32
  deriving DecidableEq, Repr

/-- The part of `GnssAdapter` that the mask depends on. `started` says that a client has been
added. -/
structure EventAdapter (κ : Type) [LinearOrder κ] where
  mGps_conf : GpsConf
  mClientData : SortedMap κ LocationCallbacks
  mNmeaMask : BitVec 32
  mAgpsCbInfo : AgpsCbInfo
  mOdcpiRequestCb : Bool
  mEvtMask : BitVec 64
  started : Bool

/-- The messages. `MsgSetConfig` finds the features that the modem supports then. -/
inductive EventMsg (κ : Type) where
  | addClient (mClient : κ) (mCallbacks : LocationCallbacks)
  | removeClient (mClient : κ)
  | setConfig (mFeaturesSupported : List (BitVec 8))
  | agpsInit (mCbInfo : AgpsCbInfo)
  | initOdcpi (mOdcpiCb : Bool)

/-- `NMEA_PROVIDER_MP`. -/
def nmeaProviderMp : BitVec 32 := 1

/-- `LOC_NMEA_ALL_GENERAL_SUPPORTED_MASK`, the types up to `LOC_NMEA_MASK_PQGSV_V02`. -/
def nmeaAllGeneralSupportedMask : BitVec 32 := 0x0001FFFF

/-- `LOC_NMEA_MASK_DEBUG_V02`. -/
def nmeaMaskDebug : BitVec 32 := 0x00020000

/-- `LOC_SUPPORTED_FEATURE_DEBUG_NMEA_V02`. -/
def featureDebugNmea : Nat := 2

/-- `MAX_FEATURE_LENGTH`. -/
def maxFeatureLength : Nat := 100

/-- `LocApiBase::isFeatureSupported`. -/
def isFeatureSupported (mFeaturesSupported : List (BitVec 8)) (featureVal : Nat) : Bool :=
  if maxFeatureLength ≤ featureVal / 8 then false
  else (mFeaturesSupported.getD (featureVal / 8) 0).getLsbD (featureVal % 8)

namespace EventAdapter

variable {κ : Type} [LinearOrder κ]

/-- The constructor. -/
def new (mGps_conf : GpsConf) : EventAdapter κ where
  mGps_conf := mGps_conf
  mClientData := ∅
  mNmeaMask := 0
  mAgpsCbInfo := ⟨false, 0⟩
  mOdcpiRequestCb := false
  mEvtMask := 0
  started := false

/-- The statement `if (condition) { mask |= bit; }`. -/
def orIf (condition : Bool) (bit mask : BitVec 64) : BitVec 64 :=
  if condition then mask ||| bit else mask

/-- The body of the loop of `updateClientsEventMask`. -/
def clientMask (mNmeaMask : BitVec 32) (mask : BitVec 64) (callbacks : LocationCallbacks) :
    BitVec 64 :=
  let mask := orIf callbacks.trackingCb bitParsedPositionReport mask
  let mask := orIf callbacks.gnssNiCb bitNiNotifyVerifyRequest mask
  let mask := orIf callbacks.gnssSvCb bitSatelliteReport mask
  let mask := orIf (callbacks.gnssNmeaCb && mNmeaMask ≠ 0) bitNmea1hzReport mask
  orIf callbacks.gnssMeasurementsCb bitGnssMeasurement mask

/-- The mask that `GnssAdapter::updateClientsEventMask` computes. -/
def clientsEventMask (s : EventAdapter κ) : BitVec 64 :=
  let mask := (s.mClientData.toList.map Prod.snd).foldl (clientMask s.mNmeaMask) 0
  let externalDr := s.mGps_conf.EXTERNAL_DR_ENABLED = 1
  let mask := orIf externalDr bitGnssMeasurement mask
  let mask := orIf externalDr bitGnssSvPolynomialReport mask
  let mask := orIf s.mAgpsCbInfo.statusV4Cb bitLocationServerRequest mask
  orIf s.mOdcpiRequestCb bitRequestWifi mask

/-- `GnssAdapter::updateClientsEventMask`. -/
def updateClientsEventMask (s : EventAdapter κ) : EventAdapter κ :=
  { s with mEvtMask := LocAdapterBase.updateEvtMask s.mEvtMask s.clientsEventMask .set }

/-- `GnssAdapter::saveClient`. -/
def saveClient (s : EventAdapter κ) (client : κ) (callbacks : LocationCallbacks) :
    EventAdapter κ :=
  { s with mClientData := s.mClientData.insert client callbacks }.updateClientsEventMask

/-- `GnssAdapter::eraseClient`. -/
def eraseClient (s : EventAdapter κ) (client : κ) : EventAdapter κ :=
  { s with mClientData := s.mClientData.erase client }.updateClientsEventMask

/-- The NMEA mask of `MsgSetConfig`. -/
def nmeaMask (s : EventAdapter κ) (mFeaturesSupported : List (BitVec 8)) : BitVec 32 :=
  let mask :=
    if s.mGps_conf.NMEA_PROVIDER = nmeaProviderMp then 0 ||| nmeaAllGeneralSupportedMask else 0
  if isFeatureSupported mFeaturesSupported featureDebugNmea then mask ||| nmeaMaskDebug else mask

/-- `LOC_GPS_CAPABILITY_MSB` or `LOC_GPS_CAPABILITY_MSA` is there. -/
def agpsCapable (s : EventAdapter κ) : Bool :=
  s.mGps_conf.CAPABILITIES.getLsbD 1 || s.mGps_conf.CAPABILITIES.getLsbD 2

/-- `GnssAdapter::initAgps`. -/
def initAgps (s : EventAdapter κ) (cbInfo : AgpsCbInfo) : EventAdapter κ :=
  if !s.agpsCapable then s
  else if cbInfo.cbPriority < s.mAgpsCbInfo.cbPriority then s
  else
    { s with
      mAgpsCbInfo := cbInfo
      mEvtMask := LocAdapterBase.updateEvtMask s.mEvtMask bitLocationServerRequest .enabled }

/-- `GnssAdapter::initOdcpi`. -/
def initOdcpi (s : EventAdapter κ) (callback : Bool) : EventAdapter κ :=
  { s with
    mOdcpiRequestCb := callback
    mEvtMask := LocAdapterBase.updateEvtMask s.mEvtMask bitRequestWifi .enabled }

/-- The processing of a message. -/
def proc (s : EventAdapter κ) : EventMsg κ → EventAdapter κ
  | .addClient mClient mCallbacks => { s.saveClient mClient mCallbacks with started := true }
  | .removeClient mClient => s.eraseClient mClient
  | .setConfig mFeaturesSupported => { s with mNmeaMask := s.nmeaMask mFeaturesSupported }
  | .agpsInit mCbInfo => s.initAgps mCbInfo
  | .initOdcpi mOdcpiCb => s.initOdcpi mOdcpiCb

/-- One step. -/
def step (s : EventAdapter κ) (msg : EventMsg κ) : Option (EventAdapter κ) := some (s.proc msg)

/-- From the first client on, the mask is the computed one. Before that no message computes it: the
bits that an initialisation sets are all there is. -/
def MaskFollows (s : EventAdapter κ) : Prop := s.started = true → s.mEvtMask = s.clientsEventMask

/-- The condition on one message, for the three messages that do not compute the mask.
`MsgSetConfig` stores a new NMEA mask and leaves the event mask alone. A client with an NMEA
callback wants the event if the NMEA mask is not zero, so that must not change while there is such a
client. The two initialisations set the bit of their event even if the callback is null, while the
computation asks for the callback. An initialisation of the AGPS part that is ignored, for want of
the capability or of the priority, may have any callback. -/
def KeepsMask (s : EventAdapter κ) : EventMsg κ → Prop
  | .setConfig mFeaturesSupported =>
      s.started = true → (∃ e ∈ s.mClientData, e.2.gnssNmeaCb = true) →
        (s.nmeaMask mFeaturesSupported = 0 ↔ s.mNmeaMask = 0)
  | .agpsInit mCbInfo =>
      s.started = true → s.agpsCapable = true →
        s.mAgpsCbInfo.cbPriority ≤ mCbInfo.cbPriority → mCbInfo.statusV4Cb = true
  | .initOdcpi mOdcpiCb => s.started = true → mOdcpiCb = true
  | _ => True

/-! ### One bit of the mask -/

variable {s t : EventAdapter κ} {i : Nat}

theorem getLsbD_or_eventBit {index : Nat} (hindex : index < 64) (mask : BitVec 64) :
    (mask ||| eventBit index).getLsbD i = (mask.getLsbD i || decide (i = index)) := by
  simp [eventBit, hindex, eq_comm]

theorem getLsbD_orIf (condition : Bool) {index : Nat} (hindex : index < 64) (mask : BitVec 64) :
    (orIf condition (eventBit index) mask).getLsbD i =
      (mask.getLsbD i || (condition && decide (i = index))) := by
  unfold orIf
  cases condition with
  | true => exact getLsbD_or_eventBit hindex mask
  | false => simp

/-- The bits that a client asks for. -/
def clientWants (mNmeaMask : BitVec 32) (callbacks : LocationCallbacks) (i : Nat) : Bool :=
  callbacks.trackingCb && i = 0 || callbacks.gnssNiCb && i = 4 || callbacks.gnssSvCb && i = 1 ||
    callbacks.gnssNmeaCb && mNmeaMask ≠ 0 && i = 2 || callbacks.gnssMeasurementsCb && i = 26

theorem getLsbD_foldl_clientMask (mNmeaMask : BitVec 32) (l : List LocationCallbacks) :
    ∀ mask : BitVec 64, (l.foldl (clientMask mNmeaMask) mask).getLsbD i =
      (mask.getLsbD i || l.any fun callbacks => clientWants mNmeaMask callbacks i) := by
  induction l with
  | nil =>
      intro mask
      simp
  | cons callbacks l ih =>
      intro mask
      rw [List.foldl_cons, ih, List.any_cons, ← Bool.or_assoc]
      congr 1
      -- the five statements of the body, one bit each
      unfold clientMask clientWants
      dsimp only
      unfold bitParsedPositionReport bitNiNotifyVerifyRequest bitSatelliteReport bitNmea1hzReport
        bitGnssMeasurement
      rw [getLsbD_orIf _ (by decide), getLsbD_orIf _ (by decide), getLsbD_orIf _ (by decide),
        getLsbD_orIf _ (by decide), getLsbD_orIf _ (by decide)]
      simp only [Bool.or_assoc]

/-- One bit of the computed mask. -/
theorem getLsbD_clientsEventMask (s : EventAdapter κ) (i : Nat) :
    s.clientsEventMask.getLsbD i =
      ((s.mClientData.toList.map Prod.snd).any (fun c => clientWants s.mNmeaMask c i) ||
        (decide (s.mGps_conf.EXTERNAL_DR_ENABLED = 1) && (i = 26 || i = 23)) ||
        (s.mAgpsCbInfo.statusV4Cb && i = 6) || (s.mOdcpiRequestCb && i = 9)) := by
  unfold clientsEventMask
  dsimp only
  unfold bitGnssMeasurement bitGnssSvPolynomialReport bitLocationServerRequest bitRequestWifi
  rw [getLsbD_orIf _ (by decide), getLsbD_orIf _ (by decide), getLsbD_orIf _ (by decide),
    getLsbD_orIf _ (by decide), getLsbD_foldl_clientMask]
  have hzero : (0 : BitVec 64).getLsbD i = false := BitVec.getLsbD_zero
  rw [hzero]
  simp only [Bool.false_or, Bool.and_or_distrib_left, Bool.or_assoc]

/-! ### The inputs of the mask -/

/-- The only bit that depends on the NMEA mask. -/
theorem clientWants_nmea (mNmeaMask : BitVec 32) (callbacks : LocationCallbacks) :
    clientWants mNmeaMask callbacks 2 = (callbacks.gnssNmeaCb && mNmeaMask ≠ 0) := by
  simp [clientWants]

/-- No client asks for the bits of the two initialisations. -/
theorem clientWants_init (mNmeaMask : BitVec 32) (callbacks : LocationCallbacks)
    (hi : i = 6 ∨ i = 9) : clientWants mNmeaMask callbacks i = false := by
  rcases hi with rfl | rfl <;> simp [clientWants]

theorem clientWants_congr {m n : BitVec 32} {callbacks : LocationCallbacks}
    (h : callbacks.gnssNmeaCb = true → (n = 0 ↔ m = 0)) :
    clientWants n callbacks i = clientWants m callbacks i := by
  unfold clientWants
  cases hnmea : callbacks.gnssNmeaCb with
  | false => rfl
  | true =>
      have hzero : (n = 0) = (m = 0) := propext (h hnmea)
      simp only [ne_eq, hzero]

/-- What the clients ask for at an initialisation's bit: nothing. -/
theorem any_clientWants_init (s : EventAdapter κ) (hi : i = 6 ∨ i = 9) :
    ((s.mClientData.toList.map Prod.snd).any fun c => clientWants s.mNmeaMask c i) = false := by
  rw [List.any_eq_false]
  intro c _
  simp [clientWants_init s.mNmeaMask c hi]

/-- A new NMEA mask does not change the computed mask exactly when no client sees the difference.
-/
theorem clientsEventMask_nmea_iff (s : EventAdapter κ) (n : BitVec 32) :
    s.clientsEventMask = { s with mNmeaMask := n }.clientsEventMask ↔
      ((∃ e ∈ s.mClientData, e.2.gnssNmeaCb = true) → (n = 0 ↔ s.mNmeaMask = 0)) := by
  constructor
  · -- the bit of the NMEA reports tells the two masks apart
    rintro h ⟨e, he, hnmea⟩
    have hbit := congrArg (BitVec.getLsbD · 2) h
    have hany : ∀ m : BitVec 32,
        ((s.mClientData.toList.map Prod.snd).any fun c => clientWants m c 2) = decide (m ≠ 0) := by
      intro m
      rw [Bool.eq_iff_iff, List.any_eq_true]
      constructor
      · rintro ⟨c, -, hc⟩
        rw [clientWants_nmea, Bool.and_eq_true] at hc
        exact hc.2
      · intro hm
        refine ⟨e.2, List.mem_map_of_mem he, ?_⟩
        rw [clientWants_nmea, hnmea, Bool.true_and]
        exact hm
    simp only [getLsbD_clientsEventMask, hany] at hbit
    by_cases hn : n = 0 <;> by_cases hs : s.mNmeaMask = 0 <;> simp_all
  · intro h
    apply BitVec.eq_of_getLsbD_eq
    intro i _
    rw [getLsbD_clientsEventMask, getLsbD_clientsEventMask]
    -- only the part of the clients depends on the NMEA mask
    have hany : ((s.mClientData.toList.map Prod.snd).any fun c => clientWants n c i) =
        (s.mClientData.toList.map Prod.snd).any fun c => clientWants s.mNmeaMask c i := by
      rw [Bool.eq_iff_iff, List.any_eq_true, List.any_eq_true]
      apply exists_congr
      intro c
      apply and_congr_right
      intro hc
      obtain ⟨e, he, rfl⟩ := List.mem_map.mp hc
      rw [clientWants_congr fun hnmea => h ⟨e, he, hnmea⟩]
    simp only [hany]

/-- A bit is set in a mask that differs from another one in this bit at most, where the other one
has `callback` there. -/
theorem or_eventBit_eq_iff {index : Nat} (hindex : index < 64) {mask mask' : BitVec 64}
    {callback : Bool} (others : Nat → Bool) (old : Bool) (hothers : others index = false)
    (hmask : ∀ i, mask.getLsbD i = (others i || (old && decide (i = index))))
    (hmask' : ∀ i, mask'.getLsbD i = (others i || (callback && decide (i = index)))) :
    mask ||| eventBit index = mask' ↔ callback = true := by
  constructor
  · intro h
    have hbit := congrArg (BitVec.getLsbD · index) h
    rw [getLsbD_or_eventBit hindex, hmask, hmask', hothers, decide_eq_true rfl] at hbit
    simpa using hbit.symm
  · rintro rfl
    apply BitVec.eq_of_getLsbD_eq
    intro i _
    rw [getLsbD_or_eventBit hindex, hmask, hmask', Bool.or_assoc]
    -- the bit itself, and the other bits
    cases decide (i = index) <;> simp

/-- With the bit of `initAgps` the mask is the computed one exactly when there is a callback. -/
theorem clientsEventMask_agps_iff (s : EventAdapter κ) (cbInfo : AgpsCbInfo) :
    s.clientsEventMask ||| bitLocationServerRequest =
        { s with mAgpsCbInfo := cbInfo }.clientsEventMask ↔ cbInfo.statusV4Cb = true := by
  refine or_eventBit_eq_iff (by decide) (fun i =>
    (s.mClientData.toList.map Prod.snd).any (fun c => clientWants s.mNmeaMask c i) ||
      (decide (s.mGps_conf.EXTERNAL_DR_ENABLED = 1) && (i = 26 || i = 23)) ||
      (s.mOdcpiRequestCb && i = 9)) s.mAgpsCbInfo.statusV4Cb ?_ ?_ ?_
  · simp [any_clientWants_init s (Or.inl rfl)]
  · intro i
    rw [getLsbD_clientsEventMask, Bool.or_right_comm]
  · intro i
    rw [getLsbD_clientsEventMask, Bool.or_right_comm]

/-- The same for the bit of `initOdcpi`. -/
theorem clientsEventMask_odcpi_iff (s : EventAdapter κ) (callback : Bool) :
    s.clientsEventMask ||| bitRequestWifi =
        { s with mOdcpiRequestCb := callback }.clientsEventMask ↔ callback = true := by
  refine or_eventBit_eq_iff (by decide) (fun i =>
    (s.mClientData.toList.map Prod.snd).any (fun c => clientWants s.mNmeaMask c i) ||
      (decide (s.mGps_conf.EXTERNAL_DR_ENABLED = 1) && (i = 26 || i = 23)) ||
      (s.mAgpsCbInfo.statusV4Cb && i = 6)) s.mOdcpiRequestCb ?_ ?_ ?_
  · simp [any_clientWants_init s (Or.inr rfl)]
  · exact getLsbD_clientsEventMask s
  · exact getLsbD_clientsEventMask _

/-! ### One message -/

/-- A message leaves the computed mask exactly when it meets the condition. -/
theorem maskFollows_step_iff {msg : EventMsg κ} (hs : MaskFollows s) (ht : s.step msg = some t) :
    MaskFollows t ↔ KeepsMask s msg := by
  cases ht
  cases msg with
  | addClient client callbacks => exact ⟨fun _ => trivial, fun _ _ => rfl⟩
  | removeClient client => exact ⟨fun _ => trivial, fun _ _ => rfl⟩
  | setConfig features =>
      -- the mask stays, an input of the computation changes
      show (s.started = true → s.mEvtMask = _) ↔ (s.started = true → _)
      apply imp_congr_right
      intro hstarted
      rw [hs hstarted]
      exact clientsEventMask_nmea_iff s (s.nmeaMask features)
  | agpsInit cbInfo =>
      show MaskFollows (s.initAgps cbInfo) ↔ _
      unfold initAgps
      by_cases hcapable : s.agpsCapable = true
      case neg =>
        rw [Bool.not_eq_true] at hcapable
        simp [KeepsMask, hcapable, hs]
      -- a lower priority than the one that is there is ignored
      by_cases hpriority : cbInfo.cbPriority < s.mAgpsCbInfo.cbPriority
      · simp [KeepsMask, hcapable, hpriority, hs, Nat.not_le.mpr hpriority]
      · rw [hcapable, if_neg (by decide), if_neg hpriority]
        show (s.started = true → s.mEvtMask ||| bitLocationServerRequest = _) ↔
          (s.started = true → _)
        apply imp_congr_right
        intro hstarted
        rw [hs hstarted, imp_iff_right hcapable, imp_iff_right (Nat.le_of_not_lt hpriority)]
        exact clientsEventMask_agps_iff s cbInfo
  | initOdcpi callback =>
      -- the bit is set, whatever the callback is
      show (s.started = true → s.mEvtMask ||| bitRequestWifi = _) ↔ (s.started = true → _)
      apply imp_congr_right
      intro hstarted
      rw [hs hstarted]
      exact clientsEventMask_odcpi_iff s callback

/-! ### Runs -/

/-- From any configuration and for every sequence of messages: the event mask is the one that the
state calls for after every message from the first client on, if and only if every message meets the
condition.

Adding and removing a client compute the mask anew. The configuration changes an input of it without
that, which matters if a client has an NMEA callback and the mask of the sentences becomes zero or
not zero. AGPS and ODCPI add their bit, for a null callback too. -/
theorem along_maskFollows_iff (mGps_conf : GpsConf) (msgs : List (EventMsg κ)) :
    Along step MaskFollows (new mGps_conf) msgs ↔ Guarded step KeepsMask (new mGps_conf) msgs := by
  refine along_iff_guarded (I := MaskFollows) (fun _ hs => hs) ?_ ?_ ?_ msgs (new mGps_conf) ?_
  · intro s msg t hs hok ht
    exact (maskFollows_step_iff hs ht).mpr hok
  · intro s msg t hs ht hP
    exact (maskFollows_step_iff hs ht).mp hP
  · intro s msg _ hnone
    cases hnone
  · intro hstarted
    cases hstarted

/-- A client for NMEA comes, and the restarted engine supports the debug sentences. -/
def debugNmeaLater : List (EventMsg Nat) :=
  [.addClient 0 ⟨true, false, false, true, false⟩, .setConfig [4]]

/-- The NMEA mask is not zero any more, but nobody registers for the NMEA reports. -/
theorem not_along_debugNmeaLater :
    ¬ Along step MaskFollows (new ⟨0, 0, 0⟩) debugNmeaLater := by
  rw [along_maskFollows_iff]
  intro h
  have hcond := (h.2 _ rfl).1
  have hiff := hcond rfl ⟨_, List.mem_singleton_self _, rfl⟩
  exact absurd hiff (by decide)

end EventAdapter

end LocHal.Gnss.EventMask
