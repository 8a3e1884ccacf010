import LocHal.Location.LocationAPIClientBase
import Mathlib.Logic.Function.Basic

/-!
# `LocHal.Gnss.GnssConfig`: the configuration messages of `GnssAdapter.cpp`

`MsgGnssUpdateConfig` looks at the flags of a request one after the other, and answers each one.
`MsgSetConfig` sends the configuration of `ContextBase::mGps_conf` to the modem, at the start and
after an engine restart. `MsgEnableGnss` and `MsgDisableGnss` set the GPS lock, which an update
sets too.

Five items of a request are handled alike: when the value differs from the one of `mGps_conf`, it
is written there and sent to the modem. They are the `CachedItem`s, with the one definition
`updateCached`.

`LocApiBase` is the modem interface: what the modem has accepted, and its answers to come. An
answer to a request stands with its flag, in place of the id. Of `MsgSetConfig` the sensor,
XTRA and NMEA settings are left out, and so are the capabilities that follow a change of
`SUPL_MODE`.
-/

set_option autoImplicit false

namespace LocHal.Gnss.Config

/-- `LocationError`. -/
abbrev LocationError := LocHal.Location.LocationError

/-- The characters of a C string, without the final zero. -/
abbrev CString := List Char

/-! ### The types of a request -/

/-- `GnssConfigGpsLock`. -/
inductive GnssConfigGpsLock where
  | none
  | mo
  | ni
  | moAndNi
  deriving DecidableEq, Repr

/-- `GnssConfigSuplVersion`. -/
inductive GnssConfigSuplVersion where
  | v1_0_0
  | v2_0_0
  | v2_0_2
  deriving DecidableEq, Repr

/-- `GnssConfigLppProfile`. -/
inductive GnssConfigLppProfile where
  | rrlpOnLte
  | userPlane
  | controlPlane
  | userPlaneAndControlPlane
  deriving DecidableEq, Repr

/-- `GnssAssistanceType`. -/
inductive GnssAssistanceType where
  | supl
  | c2k
  | other
  deriving DecidableEq, Repr

/-- `GnssConfigSetAssistanceServer`. -/
structure GnssConfigSetAssistanceServer where
  type : GnssAssistanceType
  hostName : Option CString
  port : BitVec 32
  deriving DecidableEq, Repr

/-- `GnssConfigFlagsBits`. -/
inductive GnssConfigFlag where
  | gpsLock
  | suplVersion
  | setAssistanceData
  | lppProfile
  | lppeControlPlane
  | lppeUserPlane
  | aGlonassPositionProtocol
  | emPdnForEmSupl
  | suplEmServices
  | suplMode
  deriving DecidableEq, Repr

/-- The bit of a flag. -/
def GnssConfigFlag.bit : GnssConfigFlag → BitVec 32
  | .gpsLock => 1 <<< 0
  | .suplVersion => 1 <<< 1
  | .setAssistanceData => 1 <<< 2
  | .lppProfile => 1 <<< 3
  | .lppeControlPlane => 1 <<< 4
  | .lppeUserPlane => 1 <<< 5
  | .aGlonassPositionProtocol => 1 <<< 6
  | .emPdnForEmSupl => 1 <<< 7
  | .suplEmServices => 1 <<< 8
  | .suplMode => 1 <<< 9

/-- `GnssConfig`. The emergency values are `YES` or `NO`. -/
structure GnssConfig where
  flags : BitVec 32
  gpsLock : GnssConfigGpsLock
  suplVersion : GnssConfigSuplVersion
  assistanceServer : GnssConfigSetAssistanceServer
  lppProfile : GnssConfigLppProfile
  lppeControlPlaneMask : BitVec 16
  lppeUserPlaneMask : BitVec 16
  aGlonassPositionProtocolMask : BitVec 16
  emergencyPdnForEmergencySupl : Bool
  suplEmergencyServices : Bool
  suplModeMask : BitVec 16
  deriving DecidableEq, Repr

/-- The request has the flag. -/
def GnssConfig.has (config : GnssConfig) (flag : GnssConfigFlag) : Bool :=
  config.flags &&& flag.bit ≠ 0

/-- The fields of `ContextBase::mGps_conf` that the messages use. -/
structure GpsConf where
  AGPS_CONFIG_INJECT : BitVec 32
  GPS_LOCK : BitVec 32
  SUPL_VER : BitVec 32
  LPP_PROFILE : BitVec 32
  LPPE_CP_TECHNOLOGY : BitVec 32
  LPPE_UP_TECHNOLOGY : BitVec 32
  A_GLONASS_POS_PROTOCOL_SELECT : BitVec 32
  USE_EMERGENCY_PDN_FOR_EMERGENCY_SUPL : BitVec 32
  SUPL_ES : BitVec 32
  SUPL_MODE : BitVec 32
  SUPL_HOST : CString
  SUPL_PORT : BitVec 32
  deriving DecidableEq, Repr

/-! ### The conversions -/

/-- `GnssAdapter::convertGpsLock` of a lock. -/
def convertGpsLock : GnssConfigGpsLock → BitVec 32
  | .mo => 1
  | .ni => 2
  | .moAndNi => 3
  | .none => 0

/-- `GnssAdapter::convertGpsLock` of a number. -/
def toGpsLock (gpsLock : BitVec 32) : GnssConfigGpsLock :=
  if gpsLock = 1 then .mo
  else if gpsLock = 2 then .ni
  else if gpsLock = 3 then .moAndNi
  else .none

/-- The enumerator of a lock as a number. -/
def GnssConfigGpsLock.toNumber : GnssConfigGpsLock → BitVec 32
  | .none => 0
  | .mo => 1
  | .ni => 2
  | .moAndNi => 3

/-- `GnssAdapter::convertSuplVersion` of a version. -/
def convertSuplVersion : GnssConfigSuplVersion → BitVec 32
  | .v2_0_0 => 0x00020000
  | .v2_0_2 => 0x00020002
  | .v1_0_0 => 0x00010000

/-- `GnssAdapter::convertSuplVersion` of a number. -/
def toSuplVersion (suplVersion : BitVec 32) : GnssConfigSuplVersion :=
  if suplVersion = 0x00020000 then .v2_0_0
  else if suplVersion = 0x00020002 then .v2_0_2
  else .v1_0_0

/-- `GnssAdapter::convertLppProfile` of a profile. -/
def convertLppProfile : GnssConfigLppProfile → BitVec 32
  | .userPlane => 1
  | .controlPlane => 2
  | .userPlaneAndControlPlane => 3
  | .rrlpOnLte => 0

/-- `GnssAdapter::convertLppProfile` of a number. -/
def toLppProfile (lppProfile : BitVec 32) : GnssConfigLppProfile :=
  if lppProfile = 1 then .userPlane
  else if lppProfile = 2 then .controlPlane
  else if lppProfile = 3 then .userPlaneAndControlPlane
  else .rrlpOnLte

/-- The conversion of a mask bit by bit. Both sides of a conversion number the bits alike. -/
def convertMask {v w : Nat} (bits : List Nat) (mask : BitVec v) : BitVec w :=
  bits.foldl (fun acc bit => if 1#v <<< bit &&& mask ≠ 0 then acc ||| 1#w <<< bit else acc) 0

/-- `GnssAdapter::convertLppeCp`, of a request or of a number. -/
def convertLppeCp {v w : Nat} (lppeControlPlaneMask : BitVec v) : BitVec w :=
  convertMask [0, 1, 2, 3] lppeControlPlaneMask

/-- `GnssAdapter::convertLppeUp`, of a request or of a number. -/
def convertLppeUp {v w : Nat} (lppeUserPlaneMask : BitVec v) : BitVec w :=
  convertMask [0, 1, 2, 3] lppeUserPlaneMask

/-- `GnssAdapter::convertAGloProt`. -/
def convertAGloProt (aGloPositionProtocolMask : BitVec 16) : BitVec 32 :=
  convertMask [0, 1, 2, 3] aGloPositionProtocolMask

/-- `GnssAdapter::convertEP4ES`. -/
def convertEP4ES (emergencyPdnForEmergencySupl : Bool) : BitVec 32 :=
  if emergencyPdnForEmergencySupl then 1 else 0

/-- `GnssAdapter::convertSuplEs`. -/
def convertSuplEs (suplEmergencyServices : Bool) : BitVec 32 :=
  if suplEmergencyServices then 1 else 0

/-- `GnssAdapter::convertSuplMode`. -/
def convertSuplMode (suplModeMask : BitVec 16) : BitVec 32 := convertMask [0, 1] suplModeMask

/-! ### The items with a cache -/

/-- The items of a request that are sent to the modem when they differ from `mGps_conf`. -/
inductive CachedItem where
  | suplVersion
  | lppProfile
  | lppeControlPlane
  | lppeUserPlane
  | aGlonassPositionProtocol
  deriving DecidableEq, Repr

/-- A value that a setter of `LocApiBase` takes for such an item. -/
inductive ConfigValue where
  | suplVersion (version : GnssConfigSuplVersion)
  | lppProfile (profile : GnssConfigLppProfile)
  | lppeControlPlane (lppeCP : BitVec 16)
  | lppeUserPlane (lppeUP : BitVec 16)
  | aGlonassPositionProtocol (aGlonassProtocol : BitVec 16)
  deriving DecidableEq, Repr

namespace CachedItem

/-- The flag of the item. -/
def flag : CachedItem → GnssConfigFlag
  | .suplVersion => .suplVersion
  | .lppProfile => .lppProfile
  | .lppeControlPlane => .lppeControlPlane
  | .lppeUserPlane => .lppeUserPlane
  | .aGlonassPositionProtocol => .aGlonassPositionProtocol

/-- The item is sent with `AGPS_CONFIG_INJECT` only. -/
def injected : CachedItem → Bool
  | .suplVersion | .lppProfile | .aGlonassPositionProtocol => true
  | .lppeControlPlane | .lppeUserPlane => false

/-- The field of `mGps_conf`. -/
def get (item : CachedItem) (conf : GpsConf) : BitVec 32 :=
  match item with
  | .suplVersion => conf.SUPL_VER
  | .lppProfile => conf.LPP_PROFILE
  | .lppeControlPlane => conf.LPPE_CP_TECHNOLOGY
  | .lppeUserPlane => conf.LPPE_UP_TECHNOLOGY
  | .aGlonassPositionProtocol => conf.A_GLONASS_POS_PROTOCOL_SELECT

/-- The write of the field. -/
def put (item : CachedItem) (value : BitVec 32) (conf : GpsConf) : GpsConf :=
  match item with
  | .suplVersion => { conf with SUPL_VER := value }
  | .lppProfile => { conf with LPP_PROFILE := value }
  | .lppeControlPlane => { conf with LPPE_CP_TECHNOLOGY := value }
  | .lppeUserPlane => { conf with LPPE_UP_TECHNOLOGY := value }
  | .aGlonassPositionProtocol => { conf with A_GLONASS_POS_PROTOCOL_SELECT := value }

/-- The value of the request, as the setter takes it. -/
def requested (item : CachedItem) (config : GnssConfig) : ConfigValue :=
  match item with
  | .suplVersion => .suplVersion config.suplVersion
  | .lppProfile => .lppProfile config.lppProfile
  | .lppeControlPlane => .lppeControlPlane config.lppeControlPlaneMask
  | .lppeUserPlane => .lppeUserPlane config.lppeUserPlaneMask
  | .aGlonassPositionProtocol => .aGlonassPositionProtocol config.aGlonassPositionProtocolMask

/-- The value of the request, converted for `mGps_conf`. -/
def converted (item : CachedItem) (config : GnssConfig) : BitVec 32 :=
  match item with
  | .suplVersion => convertSuplVersion config.suplVersion
  | .lppProfile => convertLppProfile config.lppProfile
  | .lppeControlPlane => convertLppeCp config.lppeControlPlaneMask
  | .lppeUserPlane => convertLppeUp config.lppeUserPlaneMask
  | .aGlonassPositionProtocol => convertAGloProt config.aGlonassPositionProtocolMask

/-- The value that `MsgSetConfig` sends. The protocol mask is not converted: the parameter of the
setter has 16 bits. -/
def configured (item : CachedItem) (conf : GpsConf) : ConfigValue :=
  match item with
  | .suplVersion => .suplVersion (toSuplVersion conf.SUPL_VER)
  | .lppProfile => .lppProfile (toLppProfile conf.LPP_PROFILE)
  | .lppeControlPlane => .lppeControlPlane (convertLppeCp conf.LPPE_CP_TECHNOLOGY)
  | .lppeUserPlane => .lppeUserPlane (convertLppeUp conf.LPPE_UP_TECHNOLOGY)
  | .aGlonassPositionProtocol =>
      .aGlonassPositionProtocol (conf.A_GLONASS_POS_PROTOCOL_SELECT.setWidth 16)

end CachedItem

/-! ### The modem -/

/-- What the modem has accepted since its last restart, the lock that was sent last, and the
answers to the next calls. A call without an answer succeeds. `lastCall` is history: the last call
of the setter of each item since the restart, with its answer. -/
structure LocApiBase where
  accepted : CachedItem → Option ConfigValue
  lastCall : CachedItem → Option (ConfigValue × LocationError)
  server : Option (CString × Int)
  pdeServer : Option (BitVec 32 × Int)
  gpsLock : Option GnssConfigGpsLock
  answers : List LocationError

namespace LocApiBase

/-- A modem that has accepted nothing. -/
def new : LocApiBase := ⟨fun _ => none, fun _ => none, none, none, none, []⟩

/-- The next answer. -/
def answer (api : LocApiBase) : LocationError := api.answers.headD .success

/-- `setSUPLVersion`, `setLPPConfig`, `setLPPeProtocolCp`, `setLPPeProtocolUp` and
`setAGLONASSProtocol`. -/
def set (api : LocApiBase) (item : CachedItem) (value : ConfigValue) :
    LocApiBase × LocationError :=
  ({ api with
      accepted :=
        if api.answer = .success then Function.update api.accepted item (some value)
        else api.accepted
      lastCall := Function.update api.lastCall item (some (value, api.answer))
      answers := api.answers.tail }, api.answer)

/-- `setServer` of a URL. -/
def setServer (api : LocApiBase) (url : CString) (len : Int) : LocApiBase × LocationError :=
  ({ api with
      server := if api.answer = .success then some (url, len) else api.server
      answers := api.answers.tail }, api.answer)

/-- `setServer` of an address, for `LOC_AGPS_CDMA_PDE_SERVER`. -/
def setPdeServer (api : LocApiBase) (ip : BitVec 32) (port : Int) : LocApiBase × LocationError :=
  ({ api with
      pdeServer := if api.answer = .success then some (ip, port) else api.pdeServer
      answers := api.answers.tail }, api.answer)

/-- `setGpsLock`. -/
def setGpsLock (api : LocApiBase) (lock : GnssConfigGpsLock) : LocApiBase × LocationError :=
  ({ api with gpsLock := some lock, answers := api.answers.tail }, api.answer)

end LocApiBase

/-! ### The adapter -/

/-- The part of `GnssAdapter` that the messages use, with the context. `mXtraObserver` is the lock
that the observer was told last. -/
structure ConfigAdapter where
  mGps_conf : GpsConf
  mServerUrl : CString
  mPowerVoteId : Nat
  mLocApi : LocApiBase
  mXtraObserver : Option (BitVec 32)

namespace ConfigAdapter

/-- The constructor. The modem has no configuration yet. -/
def new (mGps_conf : GpsConf) : ConfigAdapter where
  mGps_conf := mGps_conf
  mServerUrl := [':']
  mPowerVoteId := 0
  mLocApi := .new
  mXtraObserver := none

/-- The answers to the calls of a message. -/
def withAnswers (s : ConfigAdapter) (answers : List LocationError) : ConfigAdapter :=
  { s with mLocApi := { s.mLocApi with answers := answers } }

/-- `AGPS_CONFIG_INJECT` is set. -/
def injects (s : ConfigAdapter) : Bool := s.mGps_conf.AGPS_CONFIG_INJECT ≠ 0

/-! ### The SUPL server -/

/-- `MAX_URL_LEN`. -/
def maxUrlLen : Nat := 256

/-- `strncasecmp` of strings that are shorter than the limit says that they are equal. -/
def sameIgnoringCase (a b : CString) : Bool := a.map Char.toLower = b.map Char.toLower

/-- There is no host: `NULL`, the empty string or `NONE`. -/
def noHost (server : Option CString) : Bool :=
  match server with
  | none => true
  | some server => server.isEmpty || sameIgnoringCase ['N', 'O', 'N', 'E'] server

/-- The text of `"%s:%u"`. -/
def hostPort (server : CString) (port : Int) : CString :=
  server ++ ':' :: Nat.toDigits 10 port.toNat

/-- The `serverUrl` and the `length` of `setSuplHostServer`. `snprintf` cuts the text, and returns
the length that it would have, when an `int` can hold it. -/
def suplUrl (server : Option CString) (port : Int) : CString × Int :=
  if noHost server then ([], 0)
  else if 0 < port then
    let text := hostPort (server.getD []) port
    (text.take (maxUrlLen - 1), if text.length < 0x80000000 then text.length else -1)
  else ([], -1)

/-- `GnssAdapter::setSuplHostServer`. -/
def setSuplHostServer (s : ConfigAdapter) (server : Option CString) (port : Int) :
    ConfigAdapter × LocationError :=
  if s.injects then
    let (serverUrl, length) := suplUrl server port
    if 0 ≤ length && !sameIgnoringCase s.mServerUrl serverUrl then
      let (api, locErr) := s.mLocApi.setServer serverUrl length
      -- `mServerUrl` is written before the answer is known
      ({ s with mServerUrl := serverUrl, mLocApi := api }, locErr)
    else (s, .invalidParameter)
  else (s, .success)

/-! ### `MsgGnssUpdateConfig` -/

/-- The local variables of `MsgGnssUpdateConfig::proc`: the adapter and the answers so far. -/
abbrev Update := ConfigAdapter × List (GnssConfigFlag × LocationError)

/-- The GPS lock. -/
def updateGpsLock (mConfig : GnssConfig) (u : Update) : Update :=
  let (s, errs) := u
  if mConfig.has .gpsLock then
    let s' := { s with
      mGps_conf := { s.mGps_conf with GPS_LOCK := convertGpsLock mConfig.gpsLock } }
    -- with a session the lock is off, and `MsgDisableGnss` sets the new one
    if s.mPowerVoteId = 0 then
      let (api, err) := s.mLocApi.setGpsLock mConfig.gpsLock
      ({ s' with mLocApi := api }, errs ++ [(.gpsLock, err)])
    else (s', errs ++ [(.gpsLock, .success)])
  else u

/-- An item with a cache. -/
def updateCached (item : CachedItem) (mConfig : GnssConfig) (u : Update) : Update :=
  let (s, errs) := u
  if mConfig.has item.flag then
    if item.converted mConfig ≠ item.get s.mGps_conf && (!item.injected || s.injects) then
      let (api, err) := s.mLocApi.set item (item.requested mConfig)
      -- the value is written for a failed call too
      ({ s with
          mGps_conf := item.put (item.converted mConfig) s.mGps_conf
          mLocApi := api }, errs ++ [(item.flag, err)])
    else (s, errs ++ [(item.flag, .success)])
  else u

/-- The SUPL version. -/
def updateSuplVersion : GnssConfig → Update → Update := updateCached .suplVersion

/-- The assistance server. `resolveInAddress` is the name service. -/
def updateAssistanceServer (resolveInAddress : CString → Option (BitVec 32)) (mConfig : GnssConfig)
    (u : Update) : Update :=
  let (s, errs) := u
  if mConfig.has .setAssistanceData then
    let server := mConfig.assistanceServer
    -- the other types have no server
    match server.type with
    | .supl =>
        let (s', err) := s.setSuplHostServer server.hostName server.port.toInt
        (s', errs ++ [(.setAssistanceData, err)])
    | .c2k =>
        if s.injects then
          match resolveInAddress (server.hostName.getD []) with
          | none => (s, errs ++ [(.setAssistanceData, .invalidParameter)])
          | some ip =>
              let (api, err) := s.mLocApi.setPdeServer ip server.port.toInt
              ({ s with mLocApi := api }, errs ++ [(.setAssistanceData, err)])
        else (s, errs ++ [(.setAssistanceData, .success)])
    | .other => (s, errs ++ [(.setAssistanceData, .invalidParameter)])
  else u

/-- The LPP profile. -/
def updateLppProfile : GnssConfig → Update → Update := updateCached .lppProfile

/-- The LPPe control plane. -/
def updateLppeControlPlane : GnssConfig → Update → Update := updateCached .lppeControlPlane

/-- The LPPe user plane. -/
def updateLppeUserPlane : GnssConfig → Update → Update := updateCached .lppeUserPlane

/-- The A-GLONASS position protocol. -/
def updateAGlonass : GnssConfig → Update → Update := updateCached .aGlonassPositionProtocol

/-- An item that is written to `mGps_conf` only. -/
def updateWritten (flag : GnssConfigFlag) (write : GpsConf → GpsConf) (mConfig : GnssConfig)
    (u : Update) : Update :=
  if mConfig.has flag then
    ({ u.1 with mGps_conf := write u.1.mGps_conf }, u.2 ++ [(flag, .success)])
  else u

/-- The emergency PDN for emergency SUPL. -/
def updateEP4ES (mConfig : GnssConfig) : Update → Update :=
  updateWritten .emPdnForEmSupl (fun conf => { conf with
    USE_EMERGENCY_PDN_FOR_EMERGENCY_SUPL := convertEP4ES mConfig.emergencyPdnForEmergencySupl })
    mConfig

/-- The SUPL emergency services. -/
def updateSuplEs (mConfig : GnssConfig) : Update → Update :=
  updateWritten .suplEmServices (fun conf => { conf with
    SUPL_ES := convertSuplEs mConfig.suplEmergencyServices }) mConfig

/-- The SUPL mode. -/
def updateSuplMode (mConfig : GnssConfig) : Update → Update :=
  updateWritten .suplMode (fun conf => { conf with
    SUPL_MODE := convertSuplMode mConfig.suplModeMask }) mConfig

/-- The items of a request in their order. -/
def updates (resolveInAddress : CString → Option (BitVec 32)) :
    List (GnssConfig → Update → Update) :=
  [updateGpsLock, updateSuplVersion, updateAssistanceServer resolveInAddress, updateLppProfile,
    updateLppeControlPlane, updateLppeUserPlane, updateAGlonass, updateEP4ES, updateSuplEs,
    updateSuplMode]

/-- `MsgGnssUpdateConfig::proc`. -/
def procGnssUpdateConfig (s : ConfigAdapter) (resolveInAddress : CString → Option (BitVec 32))
    (mConfig : GnssConfig) : Update :=
  (updates resolveInAddress).foldl (fun u update => update mConfig u) (s, [])

/-! ### The other messages -/

/-- A setter of `MsgSetConfig`. The result is ignored. -/
def send (item : CachedItem) (s : ConfigAdapter) : ConfigAdapter :=
  { s with mLocApi := (s.mLocApi.set item (item.configured s.mGps_conf)).1 }

/-- `MsgSetConfig::proc`. -/
def procSetConfig (s : ConfigAdapter) : ConfigAdapter :=
  let injected :=
    if s.injects then
      send .aGlonassPositionProtocol (send .lppProfile (send .suplVersion s))
    else s
  let (served, _) :=
    injected.setSuplHostServer (some s.mGps_conf.SUPL_HOST) s.mGps_conf.SUPL_PORT.toInt
  send .lppeUserPlane (send .lppeControlPlane served)

/-- `LocationTechnologyType`, as far as `MsgEnableGnss` looks at it. -/
inductive LocationTechnologyType where
  | gnss
  | other
  deriving DecidableEq, Repr

/-- `MsgEnableGnss::proc`. -/
def procEnableGnss (s : ConfigAdapter) (mSessionId : Nat) (mTechType : LocationTechnologyType) :
    ConfigAdapter × LocationError :=
  if mTechType ≠ .gnss then (s, .invalidParameter)
  else if 0 < s.mPowerVoteId then (s, .alreadyStarted)
  else
    ({ s with
        mPowerVoteId := mSessionId
        mLocApi := (s.mLocApi.setGpsLock .none).1
        mXtraObserver := some (convertGpsLock .none) }, .success)

/-- `MsgDisableGnss::proc`. -/
def procDisableGnss (s : ConfigAdapter) (mSessionId : Nat) : ConfigAdapter × LocationError :=
  if s.mPowerVoteId ≠ mSessionId then (s, .idUnknown)
  else
    ({ s with
        mPowerVoteId := 0
        mLocApi := (s.mLocApi.setGpsLock (toGpsLock s.mGps_conf.GPS_LOCK)).1
        mXtraObserver := some (toGpsLock s.mGps_conf.GPS_LOCK).toNumber }, .success)

end ConfigAdapter

end LocHal.Gnss.Config
