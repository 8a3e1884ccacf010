import LocHal.Lib.LabelledRun
import LocHal.Lib.SortedMap
import Mathlib.Algebra.Group.Nat.Defs
import Mathlib.Data.Prod.Lex

/-!
# `LocHal.Gnss.GnssAdapter`: the tracking sessions of `GnssAdapter.cpp`

`GnssAdapter` multiplexes the tracking sessions of its clients on one engine. A command takes a
session id, if it needs one, and posts a message; the messages are processed one after the other.
A label of `step` is a command, or the processing of the first message of the queue with the
answers of the modem to the calls that it makes.

`LocApiBase` is the modem interface: what the engine runs, and the answers to come. The proxy is
an object of the base class `UlpProxyBase`, whose send methods return false. An engine restart is
one message: it finds the engine stopped, and its start succeeds.

The type of the client pointers is a parameter. The session options and the position mode have
the fields that the tracking functions use. The event mask and the emergency call-back session,
which `saveClient`, `eraseClient` and `restartSessions` also touch, are left out.
-/

set_option autoImplicit false

namespace LocHal.Gnss

/-- `LocationError`. -/
inductive LocationError where
  | success
  | generalFailure
  | callbackMissing
  | invalidParameter
  deriving DecidableEq, Repr

/-- `LOC_API_ADAPTER_ERR_SUCCESS` of the results of `LocApiBase`. -/
def locApiSuccess : Int := 0

/-- `GnssSuplMode`. -/
inductive GnssSuplMode where
  | standalone
  | msb
  | msa
  deriving DecidableEq, Repr

/-- `LocationOptions`. -/
structure LocationOptions where
  size : Nat
  minInterval : Nat
  mode : GnssSuplMode
  deriving DecidableEq, Repr

/-- The options of `LocationOptions smallestIntervalOptions = {}`. -/
def LocationOptions.zero : LocationOptions := ⟨0, 0, .standalone⟩

/-- `LocPositionMode`. -/
inductive LocPositionMode where
  | standalone
  | msBased
  | msAssisted
  deriving DecidableEq, Repr

/-- `LocPosMode`. -/
structure LocPosMode where
  mode : LocPositionMode
  min_interval : Nat
  share_position : Bool
  deriving DecidableEq, Repr

/-- `GnssAdapter::convertOptions`. -/
def convertOptions (options : LocationOptions) : LocPosMode where
  mode :=
    match options.mode with
    | .msb => .msBased
    | .msa => .msAssisted
    | .standalone => .standalone
  min_interval := options.minInterval
  share_position := true

/-- `LocationSessionKey`. -/
structure LocationSessionKey (κ : Type) where
  client : κ
  id : Nat
  deriving DecidableEq, Repr

namespace LocationSessionKey

/-- The pair that `operator <` compares. -/
def pair {κ : Type} (key : LocationSessionKey κ) : Nat ×ₗ κ := toLex (key.id, key.client)

theorem pair_injective {κ : Type} :
    Function.Injective (pair : LocationSessionKey κ → Nat ×ₗ κ) := by
  intro a b hab
  cases a
  cases b
  have hpair := toLex.injective hab
  cases hpair
  rfl

/-- `operator <` compares the ids first. -/
instance {κ : Type} [LinearOrder κ] : LinearOrder (LocationSessionKey κ) :=
  LinearOrder.lift' pair pair_injective

end LocationSessionKey

/-- The callbacks of a client that the tracking commands ask for. -/
structure LocationCallbacks where
  trackingCb : Bool
  gnssMeasurementsCb : Bool
  responseCb : Bool
  deriving DecidableEq, Repr

/-- `UlpProxyBase`. -/
structure UlpProxyBase where
  mPosMode : Option LocPosMode
  mFixSet : Bool
  deriving DecidableEq, Repr

namespace UlpProxyBase

/-- The constructor. The mode is invalid. -/
def new : UlpProxyBase := ⟨none, false⟩

/-- `UlpProxyBase::sendStartFix`. -/
def sendStartFix (ulp : UlpProxyBase) : UlpProxyBase × Bool := ({ ulp with mFixSet := true }, false)

/-- `UlpProxyBase::sendStopFix`. -/
def sendStopFix (ulp : UlpProxyBase) : UlpProxyBase × Bool := ({ ulp with mFixSet := false }, false)

/-- `UlpProxyBase::sendFixMode`. -/
def sendFixMode (ulp : UlpProxyBase) (params : LocPosMode) : UlpProxyBase × Bool :=
  ({ ulp with mPosMode := some params }, false)

end UlpProxyBase

/-- The modem: what the engine runs, and its answers to the next calls. A call without an answer
succeeds. -/
structure LocApiBase where
  engine : Option LocPosMode
  answers : List Int
  deriving DecidableEq, Repr

namespace LocApiBase

/-- `LocApiBase::startFix`. A failed call leaves the engine as it was. -/
def startFix (api : LocApiBase) (fixCriteria : LocPosMode) : LocApiBase × Int :=
  let ret := api.answers.headD locApiSuccess
  ({ engine := if ret = locApiSuccess then some fixCriteria else api.engine
     answers := api.answers.tail }, ret)

/-- `LocApiBase::stopFix`. -/
def stopFix (api : LocApiBase) : LocApiBase × Int :=
  let ret := api.answers.headD locApiSuccess
  ({ engine := if ret = locApiSuccess then none else api.engine
     answers := api.answers.tail }, ret)

end LocApiBase

/-- The messages of the tracking commands. -/
inductive AdapterMsg (κ : Type) where
  | addClient (mClient : κ) (mCallbacks : LocationCallbacks)
  | removeClient (mClient : κ)
  | startTracking (mClient : κ) (mSessionId : Nat) (mOptions : LocationOptions)
  | updateTracking (mClient : κ) (mSessionId : Nat) (mOptions : LocationOptions)
  | stopTracking (mClient : κ) (mSessionId : Nat)
  | restartSessions
  deriving DecidableEq, Repr

/-- `GnssAdapter`, with the counter of `LocAdapterBase`, the message queue and the responses to
the clients. -/
structure GnssAdapter (κ : Type) [LinearOrder κ] where
  mUlpProxy : UlpProxyBase
  mClientData : SortedMap κ LocationCallbacks
  mTrackingSessions : SortedMap (LocationSessionKey κ) LocationOptions
  mLocApi : LocApiBase
  mSessionIdCounter : Nat
  msgQueue : List (AdapterMsg κ)
  responses : List (κ × LocationError × Nat)

namespace GnssAdapter

variable {κ : Type} [LinearOrder κ]

/-- The constructor. -/
def new : GnssAdapter κ where
  mUlpProxy := .new
  mClientData := ∅
  mTrackingSessions := ∅
  mLocApi := ⟨none, []⟩
  mSessionIdCounter := 1
  msgQueue := []
  responses := []

/-! ### The clients and the sessions -/

/-- `LocAdapterBase::generateSessionId`. -/
def generateSessionId (s : GnssAdapter κ) : GnssAdapter κ × Nat :=
  let incremented := (s.mSessionIdCounter + 1) % 2 ^ 32
  let counter := if incremented = 0xFFFFFFFF then 1 else incremented
  ({ s with mSessionIdCounter := counter }, counter)

/-- `GnssAdapter::hasTrackingCallback`. -/
def hasTrackingCallback (s : GnssAdapter κ) (client : κ) : Bool :=
  (s.mClientData.find client).any LocationCallbacks.trackingCb

/-- `GnssAdapter::hasMeasurementsCallback`. -/
def hasMeasurementsCallback (s : GnssAdapter κ) (client : κ) : Bool :=
  (s.mClientData.find client).any LocationCallbacks.gnssMeasurementsCb

/-- `GnssAdapter::saveClient`. -/
def saveClient (s : GnssAdapter κ) (client : κ) (callbacks : LocationCallbacks) : GnssAdapter κ :=
  { s with mClientData := s.mClientData.insert client callbacks }

/-- `GnssAdapter::eraseClient`. -/
def eraseClient (s : GnssAdapter κ) (client : κ) : GnssAdapter κ :=
  { s with mClientData := s.mClientData.erase client }

/-- `GnssAdapter::isTrackingSession`. -/
def isTrackingSession (s : GnssAdapter κ) (client : κ) (sessionId : Nat) : Bool :=
  (s.mTrackingSessions.find ⟨client, sessionId⟩).isSome

/-- `GnssAdapter::saveTrackingSession`. -/
def saveTrackingSession (s : GnssAdapter κ) (client : κ) (sessionId : Nat)
    (options : LocationOptions) : GnssAdapter κ :=
  { s with mTrackingSessions := s.mTrackingSessions.insert ⟨client, sessionId⟩ options }

/-- `GnssAdapter::eraseTrackingSession`. -/
def eraseTrackingSession (s : GnssAdapter κ) (client : κ) (sessionId : Nat) : GnssAdapter κ :=
  { s with mTrackingSessions := s.mTrackingSessions.erase ⟨client, sessionId⟩ }

/-- `GnssAdapter::reportResponse`. -/
def reportResponse (s : GnssAdapter κ) (client : κ) (err : LocationError) (sessionId : Nat) :
    GnssAdapter κ :=
  if (s.mClientData.find client).any LocationCallbacks.responseCb then
    { s with responses := s.responses ++ [(client, err, sessionId)] }
  else s

/-! ### The engine -/

/-- `GnssAdapter::startTracking`. -/
def startTracking (s : GnssAdapter κ) (options : LocationOptions) : GnssAdapter κ × LocationError :=
  let locPosMode := convertOptions options
  let (ulp, _) := s.mUlpProxy.sendFixMode locPosMode
  let (ulp', sent) := ulp.sendStartFix
  if sent then ({ s with mUlpProxy := ulp' }, .success)
  else
    let (api, apiErr) := s.mLocApi.startFix locPosMode
    ({ s with mUlpProxy := ulp', mLocApi := api },
      if apiErr = locApiSuccess then .success else .generalFailure)

/-- `GnssAdapter::stopTracking`. -/
def stopTracking (s : GnssAdapter κ) : GnssAdapter κ × LocationError :=
  let (ulp, sent) := s.mUlpProxy.sendStopFix
  if sent then ({ s with mUlpProxy := ulp }, .success)
  else
    let (api, apiErr) := s.mLocApi.stopFix
    ({ s with mUlpProxy := ulp, mLocApi := api },
      if apiErr = locApiSuccess then .success else .generalFailure)

/-! ### The multiplexer -/

/-- The body of the loops that look for the smallest interval. A size of zero says that no
options have been found yet. -/
def smallestStep (other : LocationSessionKey κ → Bool) (smallest : LocationOptions)
    (session : LocationSessionKey κ × LocationOptions) : LocationOptions :=
  if other session.1 && (smallest.size = 0 || session.2.minInterval < smallest.minInterval) then
    session.2
  else smallest

/-- The loops of `startTrackingMultiplex`, `updateTrackingMultiplex`, `stopTrackingMultiplex` and
`restartSessions`, over the sessions that `other` selects. -/
def smallestIntervalOptions (sessions : SortedMap (LocationSessionKey κ) LocationOptions)
    (other : LocationSessionKey κ → Bool) : LocationOptions :=
  sessions.toList.foldl (smallestStep other) .zero

/-- `GnssAdapter::startTrackingMultiplex`. -/
def startTrackingMultiplex (s : GnssAdapter κ) (options : LocationOptions) :
    GnssAdapter κ × LocationError :=
  if s.mTrackingSessions.isEmpty then s.startTracking options
  else
    let smallest := smallestIntervalOptions s.mTrackingSessions fun _ => true
    if options.minInterval < smallest.minInterval then s.startTracking options
    else (s, .success)

/-- `GnssAdapter::updateTrackingMultiplex`. -/
def updateTrackingMultiplex (s : GnssAdapter κ) (client : κ) (id : Nat)
    (options : LocationOptions) : GnssAdapter κ × LocationError :=
  if s.mTrackingSessions.size = 1 then s.startTracking options
  else
    let key : LocationSessionKey κ := ⟨client, id⟩
    match s.mTrackingSessions.find key with
    | none => (s, .success)
    | some session =>
        let smallest := smallestIntervalOptions s.mTrackingSessions fun k => k ≠ key
        if options.minInterval < smallest.minInterval then s.startTracking options
        else if session.minInterval < smallest.minInterval then s.startTracking smallest
        else (s, .success)

/-- `GnssAdapter::stopTrackingMultiplex`. -/
def stopTrackingMultiplex (s : GnssAdapter κ) (client : κ) (id : Nat) :
    GnssAdapter κ × LocationError :=
  if s.mTrackingSessions.size = 1 then s.stopTracking
  else
    let key : LocationSessionKey κ := ⟨client, id⟩
    match s.mTrackingSessions.find key with
    | none => (s, .success)
    | some session =>
        let smallest := smallestIntervalOptions s.mTrackingSessions fun k => k ≠ key
        if session.minInterval < smallest.minInterval then s.startTracking smallest
        else (s, .success)

/-- The body of the loop of `stopClientSessions`. -/
def stopClientSession (client : κ) (s : GnssAdapter κ) (key : LocationSessionKey κ) :
    GnssAdapter κ :=
  if client = key.client then
    let (s', err) := s.stopTrackingMultiplex key.client key.id
    if err = .success then s'.eraseTrackingSession key.client key.id else s'
  else s

/-- `GnssAdapter::stopClientSessions`. A round erases at most the session that it visits, so the
loop visits the keys of the map at the start. -/
def stopClientSessions (s : GnssAdapter κ) (client : κ) : GnssAdapter κ :=
  (s.mTrackingSessions.toList.map Prod.fst).foldl (stopClientSession client) s

/-- `GnssAdapter::restartSessions`. -/
def restartSessions (s : GnssAdapter κ) : GnssAdapter κ :=
  if s.mTrackingSessions.isEmpty then s
  else
    let smallest := smallestIntervalOptions s.mTrackingSessions fun _ => true
    { s with mLocApi := (s.mLocApi.startFix (convertOptions smallest)).1 }

/-! ### The messages -/

/-- `MsgStartTracking::proc`. -/
def procStartTracking (s : GnssAdapter κ) (mClient : κ) (mSessionId : Nat)
    (mOptions : LocationOptions) : GnssAdapter κ :=
  if !s.hasTrackingCallback mClient && !s.hasMeasurementsCallback mClient then
    s.reportResponse mClient .callbackMissing mSessionId
  else if mOptions.size = 0 then s.reportResponse mClient .invalidParameter mSessionId
  else
    let (s', err) := s.startTrackingMultiplex mOptions
    (if err = .success then s'.saveTrackingSession mClient mSessionId mOptions
      else s').reportResponse mClient err mSessionId

/-- `MsgUpdateTracking::proc`. -/
def procUpdateTracking (s : GnssAdapter κ) (mClient : κ) (mSessionId : Nat)
    (mOptions : LocationOptions) : GnssAdapter κ :=
  if s.isTrackingSession mClient mSessionId then
    if mOptions.size = 0 then s.reportResponse mClient .invalidParameter mSessionId
    else
      let (s', err) := s.updateTrackingMultiplex mClient mSessionId mOptions
      (if err = .success then s'.saveTrackingSession mClient mSessionId mOptions
        else s').reportResponse mClient err mSessionId
  else s

/-- `MsgStopTracking::proc`. -/
def procStopTracking (s : GnssAdapter κ) (mClient : κ) (mSessionId : Nat) : GnssAdapter κ :=
  if s.isTrackingSession mClient mSessionId then
    let (s', err) := s.stopTrackingMultiplex mClient mSessionId
    (if err = .success then s'.eraseTrackingSession mClient mSessionId
      else s').reportResponse mClient err mSessionId
  else s

/-- The processing of a message. -/
def proc (s : GnssAdapter κ) : AdapterMsg κ → GnssAdapter κ
  | .addClient mClient mCallbacks => s.saveClient mClient mCallbacks
  | .removeClient mClient => (s.stopClientSessions mClient).eraseClient mClient
  | .startTracking mClient mSessionId mOptions => s.procStartTracking mClient mSessionId mOptions
  | .updateTracking mClient mSessionId mOptions => s.procUpdateTracking mClient mSessionId mOptions
  | .stopTracking mClient mSessionId => s.procStopTracking mClient mSessionId
  | .restartSessions => { s with mLocApi := ⟨none, []⟩ }.restartSessions

/-- `sendMsg`. -/
def sendMsg (s : GnssAdapter κ) (msg : AdapterMsg κ) : GnssAdapter κ :=
  { s with msgQueue := s.msgQueue ++ [msg] }

end GnssAdapter

/-- What can happen next: a command, or the processing of the first message with the answers of
the modem. -/
inductive AdapterCall (κ : Type) where
  | addClientCommand (client : κ) (callbacks : LocationCallbacks)
  | removeClientCommand (client : κ)
  | startTrackingCommand (client : κ) (options : LocationOptions)
  | updateTrackingOptionsCommand (client : κ) (id : Nat) (options : LocationOptions)
  | stopTrackingCommand (client : κ) (id : Nat)
  | handleEngineUpEvent
  | procMsg (answers : List Int)
  deriving DecidableEq, Repr

namespace GnssAdapter

variable {κ : Type} [LinearOrder κ]

/-- One step. -/
def step (s : GnssAdapter κ) : AdapterCall κ → Option (GnssAdapter κ)
  | .addClientCommand client callbacks => some (s.sendMsg (.addClient client callbacks))
  | .removeClientCommand client => some (s.sendMsg (.removeClient client))
  | .startTrackingCommand client options =>
      let (s', sessionId) := s.generateSessionId
      some (s'.sendMsg (.startTracking client sessionId options))
  | .updateTrackingOptionsCommand client id options =>
      some (s.sendMsg (.updateTracking client id options))
  | .stopTrackingCommand client id => some (s.sendMsg (.stopTracking client id))
  | .handleEngineUpEvent => some (s.sendMsg .restartSessions)
  | .procMsg answers =>
      match s.msgQueue with
      | [] => none
      | msg :: rest =>
          some ({ s with
            msgQueue := rest
            mLocApi := { s.mLocApi with answers := answers } }.proc msg)

end GnssAdapter

end LocHal.Gnss
