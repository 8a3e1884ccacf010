import Mathlib.Logic.Function.Basic
import LocHal.Lib.LabelledRun

/-!
# `LocHal.Location.LocationAPI`: the clients of `LocationAPI.cpp`

`LocationAPIData` is the global `gData` with the three load flags. A client is the address of a
`LocationAPI` object, and an address can be used again after its object is destroyed. Each of the
three interfaces comes from a library that is loaded when a client needs it for the first time, and
a load that failed is not tried again. The label of a call says which loads would succeed.

Two fields are history for the theorems. `calls` records the calls of the interfaces, in order, and
`asked` whether the client has had a callback set that calls for the interface, since the last
destruction of a client at this address whose latest set did.

The calls that neither add nor remove a client and start no tracking are left out. A callback is
`true` when it is not null.
-/

set_option autoImplicit false

namespace LocHal.Location

open LabelledRun

/-- The callbacks of a client. -/
structure LocationCallbacks where
  capabilitiesCb : Bool
  responseCb : Bool
  collectiveResponseCb : Bool
  trackingCb : Bool
  batchingCb : Bool
  geofenceBreachCb : Bool
  geofenceStatusCb : Bool
  gnssLocationInfoCb : Bool
  gnssNiCb : Bool
  gnssSvCb : Bool
  gnssNmeaCb : Bool
  gnssMeasurementsCb : Bool
  deriving DecidableEq, Repr

/-- `LocationOptions`. -/
structure LocationOptions where
  minInterval : UInt32
  minDistance : UInt32
  deriving DecidableEq, Repr

/-- The interfaces of the three libraries. -/
inductive LocationInterface where
  | gnss
  | flp
  | geofence
  deriving DecidableEq, Repr

/-- `needsGnssTrackingInfo`. -/
def needsGnssTrackingInfo (c : LocationCallbacks) : Bool :=
  c.gnssLocationInfoCb || c.gnssSvCb || c.gnssNmeaCb || c.gnssMeasurementsCb

/-- `isGnssClient`. -/
def isGnssClient (c : LocationCallbacks) : Bool :=
  c.gnssNiCb || c.trackingCb || c.gnssMeasurementsCb

/-- `isFlpClient`. -/
def isFlpClient (c : LocationCallbacks) : Bool := c.trackingCb || c.batchingCb

/-- `isGeofenceClient`. -/
def isGeofenceClient (c : LocationCallbacks) : Bool := c.geofenceBreachCb || c.geofenceStatusCb

/-- The callback set calls for the interface. -/
def isClient : LocationInterface → LocationCallbacks → Bool
  | .gnss => isGnssClient
  | .flp => isFlpClient
  | .geofence => isGeofenceClient

/-- The test at the start of `createInstance` and `updateCallbacks`. -/
def hasMandatory (c : LocationCallbacks) : Bool :=
  c.capabilitiesCb && c.responseCb && c.collectiveResponseCb

/-- A call of an interface. -/
inductive InterfaceCall (κ : Type) where
  | initializeInterface (target : LocationInterface)
  | addClient (target : LocationInterface) (client : κ) (callbacks : LocationCallbacks)
  | removeClient (target : LocationInterface) (client : κ)
  | requestCapabilities (target : LocationInterface) (client : κ)
  | startTracking (target : LocationInterface) (client : κ) (options : LocationOptions)
  | setControlCallbacks
  deriving DecidableEq, Repr

/-- `gData`. An interface is `true` when its pointer is not null. -/
structure LocationAPIData (κ : Type) where
  clientData : κ → Option LocationCallbacks
  controlAPI : Bool
  interface : LocationInterface → Bool
  loadFailed : LocationInterface → Bool
  calls : List (InterfaceCall κ)
  asked : LocationInterface → κ → Bool

/-- A call of the API. `newLocationAPI` is the address that `new` returns, and `loads` says of which
libraries a load would succeed. -/
inductive ApiCall (κ : Type) where
  | createInstance (newLocationAPI : κ) (callbacks : LocationCallbacks)
      (loads : LocationInterface → Bool)
  | updateCallbacks (this : κ) (callbacks : LocationCallbacks) (loads : LocationInterface → Bool)
  | destroy (this : κ)
  | startTracking (this : κ) (options : LocationOptions)
  | controlCreateInstance (responseCb : Bool) (loads : LocationInterface → Bool)
  | controlDestroy

namespace LocationAPIData

variable {κ : Type}

/-- No client, and nothing loaded. -/
def init : LocationAPIData κ where
  clientData := fun _ => none
  controlAPI := false
  interface := fun _ => false
  loadFailed := fun _ => false
  calls := []
  asked := fun _ _ => false

/-- A call of an interface is recorded. -/
def call (s : LocationAPIData κ) (c : InterfaceCall κ) : LocationAPIData κ :=
  { s with calls := s.calls ++ [c] }

/-- `loadLocationInterface`, and `initialize` when it succeeds. -/
def load (s : LocationAPIData κ) (loads : LocationInterface → Bool) (i : LocationInterface) :
    LocationAPIData κ :=
  if !s.interface i && !s.loadFailed i then
    if loads i then
      call { s with interface := Function.update s.interface i true } (.initializeInterface i)
    else { s with loadFailed := Function.update s.loadFailed i true }
  else s

/-- The block of `createInstance` and `updateCallbacks` for one interface. -/
def addClient (s : LocationAPIData κ) (client : κ) (callbacks : LocationCallbacks)
    (loads : LocationInterface → Bool) (i : LocationInterface) : LocationAPIData κ :=
  if isClient i callbacks then
    let s' := s.load loads i
    if s'.interface i then s'.call (.addClient i client callbacks) else s'
  else s

/-- The block of `createInstance`, with `requestedCapabilities`. -/
def addClientFirst (s : LocationAPIData κ × Bool) (client : κ) (callbacks : LocationCallbacks)
    (loads : LocationInterface → Bool) (i : LocationInterface) : LocationAPIData κ × Bool :=
  let s' := s.1.addClient client callbacks loads i
  if isClient i callbacks && s'.interface i && !s.2 then
    (s'.call (.requestCapabilities i client), true)
  else (s', s.2)

variable [DecidableEq κ]

/-- `gData.clientData[client] = callbacks`. -/
def setClientData (s : LocationAPIData κ) (client : κ) (callbacks : LocationCallbacks) :
    LocationAPIData κ :=
  { s with
    clientData := Function.update s.clientData client (some callbacks)
    asked := fun i =>
      Function.update (s.asked i) client (s.asked i client || isClient i callbacks) }

/-- `LocationAPI::createInstance`. -/
def createInstance (s : LocationAPIData κ) (newLocationAPI : κ) (callbacks : LocationCallbacks)
    (loads : LocationInterface → Bool) : LocationAPIData κ × Option κ :=
  if hasMandatory callbacks then
    let gnss := addClientFirst (s, false) newLocationAPI callbacks loads .gnss
    let flp := addClientFirst gnss newLocationAPI callbacks loads .flp
    let geofence := addClientFirst flp newLocationAPI callbacks loads .geofence
    (geofence.1.setClientData newLocationAPI callbacks, some newLocationAPI)
  else (s, none)

/-- `LocationAPI::updateCallbacks`. -/
def updateCallbacks (s : LocationAPIData κ) (this : κ) (callbacks : LocationCallbacks)
    (loads : LocationInterface → Bool) : LocationAPIData κ :=
  if hasMandatory callbacks then
    let gnss := s.addClient this callbacks loads .gnss
    let flp := gnss.addClient this callbacks loads .flp
    let geofence := flp.addClient this callbacks loads .geofence
    geofence.setClientData this callbacks
  else s

/-- The block of the destructor for one interface. -/
def removeClient (s : LocationAPIData κ) (client : κ) (callbacks : LocationCallbacks)
    (i : LocationInterface) : LocationAPIData κ :=
  if isClient i callbacks && s.interface i then s.call (.removeClient i client) else s

/-- `gData.clientData.erase`. The client has to ask anew where its last callback set called for the
interface. -/
def eraseClientData (s : LocationAPIData κ) (client : κ) (callbacks : LocationCallbacks) :
    LocationAPIData κ :=
  { s with
    clientData := Function.update s.clientData client none
    asked := fun i =>
      Function.update (s.asked i) client (s.asked i client && !isClient i callbacks) }

/-- `LocationAPI::~LocationAPI`. -/
def destroy (s : LocationAPIData κ) (this : κ) : LocationAPIData κ :=
  match s.clientData this with
  | some callbacks =>
      let gnss := s.removeClient this callbacks .gnss
      let flp := gnss.removeClient this callbacks .flp
      let geofence := flp.removeClient this callbacks .geofence
      geofence.eraseClientData this callbacks
  | none => s

/-- The interface that `startTracking` passes the call to. -/
def trackingInterface (s : LocationAPIData κ) (callbacks : LocationCallbacks)
    (options : LocationOptions) : Option LocationInterface :=
  if s.interface .flp && decide (0 < options.minDistance) then some .flp
  else if s.interface .gnss && needsGnssTrackingInfo callbacks then some .gnss
  else if s.interface .flp then some .flp
  else if s.interface .gnss then some .gnss
  else none

/-- `LocationAPI::startTracking`. The session id comes from the interface. -/
def startTracking (s : LocationAPIData κ) (this : κ) (options : LocationOptions) :
    LocationAPIData κ :=
  match s.clientData this with
  | some callbacks =>
      match s.trackingInterface callbacks options with
      | some i => s.call (.startTracking i this options)
      | none => s
  | none => s

/-- `LocationControlAPI::createInstance`. -/
def controlCreateInstance (s : LocationAPIData κ) (responseCb : Bool)
    (loads : LocationInterface → Bool) : LocationAPIData κ :=
  if responseCb && !s.controlAPI then
    let s' := s.load loads .gnss
    if s'.interface .gnss then call { s' with controlAPI := true } .setControlCallbacks else s'
  else s

/-- One call. `new` returns an address that no live object has, and the methods are called on live
objects: those are the ones in `clientData`. -/
def step (s : LocationAPIData κ) : ApiCall κ → Option (LocationAPIData κ)
  | .createInstance newLocationAPI callbacks loads =>
      if (s.clientData newLocationAPI).isNone then
        some (s.createInstance newLocationAPI callbacks loads).1
      else none
  | .updateCallbacks this callbacks loads =>
      if (s.clientData this).isSome then some (s.updateCallbacks this callbacks loads) else none
  | .destroy this => if (s.clientData this).isSome then some (s.destroy this) else none
  | .startTracking this options =>
      if (s.clientData this).isSome then some (s.startTracking this options) else none
  | .controlCreateInstance responseCb loads => some (s.controlCreateInstance responseCb loads)
  | .controlDestroy => some { s with controlAPI := false }

end LocationAPIData

end LocHal.Location
