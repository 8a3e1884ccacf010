import LocHal.Gnss.LocationReport
import LocHal.Lib.SortedMap

/-!
# `LocHal.Gnss.ReportPipeline`: from the events of the modem to the callbacks of the clients

The modem interface calls `GnssAdapter::reportPositionEvent` and its siblings on a thread of its
own. Each of them offers the event to the ULP proxy first, unless the event comes from there, and
posts a message when the proxy does not take it. The thread of the messages passes an event to the
callbacks of the clients, generates NMEA sentences from it, and keeps the satellites of the last
fix and the debug sentences.

This module is the model: the adapter with its clients and its masks (`ReportAdapter`), the
messages with what each of them does (`proc`), and the system of the adapter and its queue, where
an event may come in at any time between two messages (`ReportSystem.step`). What is proved of it
is in two other modules. `LocHal.Gnss.ReportDelivered` has what a client receives in any
interleaving, and what the measurements of an event carry of the gains that the receiver has
reported. `LocHal.Gnss.ReportNmea` is about the debug sentences, which are not for the clients.

The proxy is a parameter: an event of the modem carries the answer of the proxy. `sessions` stands
for the messages that start and stop tracking. The clock readings and the memory that nothing
initialises belong to the messages. The timestamp of an NMEA notification is left out.

A measurement event is the only one that reads the state of the adapter on the thread of the modem:
the constructor of its message asks `SystemStatus` for the gains. All other events only post what
they were given, so that their messages see the state that the messages before them leave.
-/

set_option autoImplicit false

namespace LocHal.Gnss.ReportPipeline

open LocHal.Core hiding setIteminReport
open LocHal.Gnss.DebugReport
open LocHal.Gnss.LocationReport
open LocHal.Gnss.ReportSv
open LocHal.Util (CString)
open LocHal.Util.LocNmea (GnssSvNotification GnssSvType GnssSvUsedInPosition Reals Tm
  locNmeaGeneratePos)

variable {κ δ φ τ μ : Type}

/-! ### The adapter -/

/-- The callbacks of a client that reports go to. A callback is `true` when it is not null. -/
structure LocationCallbacks where
  trackingCb : Bool
  gnssLocationInfoCb : Bool
  gnssSvCb : Bool
  gnssNmeaCb : Bool
  gnssMeasurementsCb : Bool
  deriving DecidableEq, Repr

/-- The members of `ContextBase::mGps_conf` that reports depend on. -/
structure GpsConf where
  INTERMEDIATE_POS : BitVec 32
  ACCURACY_THRES : BitVec 32
  NMEA_PROVIDER : BitVec 32

/-- The floating-point numbers, and what depends on the machine. -/
structure ReportArith (δ φ : Type) where
  reals : Reals φ δ
  floats : NmeaFloats δ φ
  gmtime : Int → Option Tm
  wideShift : Int → BitVec 32
  /-- `0 == x` -/
  isZero : δ → Bool
  /-- the accuracy is larger than the threshold -/
  exceeds : φ → BitVec 32 → Bool

/-- `GnssMeasurementsData`. The members that only pass through are `rest`. -/
structure GnssMeasurement (δ μ : Type) where
  flags : BitVec 32
  svType : GnssSvType
  agcLevelDb : δ
  rest : μ
  deriving DecidableEq

/-- What a callback is called with. -/
inductive Notification (δ φ μ : Type) where
  | location (location : Location δ φ)
  | locationInfo (info : GnssLocationInfo φ)
  | sv (svNotify : GnssSvNotification φ)
  | nmea (nmea : CString) (length : Nat)
  | measurements (measurements : List (GnssMeasurement δ μ))

/-- The messages. -/
inductive ReportMsg (κ δ φ τ μ : Type) where
  | addClient (mClient : κ) (mCallbacks : LocationCallbacks)
  | removeClient (mClient : κ)
  /-- A session is left after a tracking message, or none is. -/
  | sessions (left : Bool)
  | deleteAidingData (deleteAll : Bool) (clock : Nat → τ) (stale : DebugPosition δ φ)
  | reportPosition (time : τ) (mUlpLocation : UlpLocation δ φ)
      (mLocationExtended : GpsLocationExtended φ) (mStatus : LocSessStatus)
      (mTechMask : BitVec 32)
  | reportSv (mSvNotify : GnssSvNotification φ)
  | reportNmea (uninit : Uninit φ) (clock : Nat → τ) (mNmea : CString) (mLength : Nat)
  | reportGnssMeasurementData (mMeasurementsNotify : List (GnssMeasurement δ μ))

/-- The part of `GnssAdapter` that the reports use. `mTrackingSessions` says that the map is not
empty. -/
structure ReportAdapter (κ δ φ τ : Type) [LinearOrder κ] where
  mClientData : SortedMap κ LocationCallbacks
  mTrackingSessions : Bool
  used : UsedInPosition
  mSystemStatus : StatusCache δ φ τ

/-- `GnssAdapter::needReport`. -/
def needReport (a : ReportArith δ φ) (conf : GpsConf) (ulpLocation : UlpLocation δ φ)
    (status : LocSessStatus) (techMask : BitVec 32) : Bool :=
  match status with
  -- a final fix of the satellites, the sensors or both
  | .success => techMask &&& 0x89 != 0
  | .intermediate =>
      -- `LOC_SESS_INTERMEDIATE`
      conf.INTERMEDIATE_POS == 1 &&
        !(ulpLocation.flags.getLsbD 4 && conf.ACCURACY_THRES != 0 &&
          a.exceeds ulpLocation.accuracy conf.ACCURACY_THRES)
  | .failure => false

/-- The NMEA sentences of a position. -/
def positionSentences (a : ReportArith δ φ) (conf : GpsConf) (ulpLocation : UlpLocation δ φ)
    (locationExtended : GpsLocationExtended φ) (status : LocSessStatus) (techMask : BitVec 32) :
    List CString :=
  let blank_fix := a.isZero ulpLocation.latitude && a.isZero ulpLocation.longitude &&
    locationExtended.horizontal_reliability == .notSet
  let generate_nmea := needReport a conf ulpLocation status techMask && status != .failure &&
    !blank_fix
  locNmeaGeneratePos a.reals (nmeaLocation ulpLocation) (nmeaExtended locationExtended) a.gmtime
    generate_nmea

/-- The sentences are generated here: `NMEA_PROVIDER_AP` is 0. -/
def generatesNmea (conf : GpsConf) (mTrackingSessions : Bool) : Bool :=
  conf.NMEA_PROVIDER == 0 && mTrackingSessions

/-- The message has an effect on `SystemStatus`. -/
def statusEvent : ReportMsg κ δ φ τ μ → Option (StatusEvent δ φ τ)
  | .deleteAidingData deleteAll clock stale => some (.deleteAidingData deleteAll clock stale)
  | .reportPosition time mUlpLocation mLocationExtended mStatus _ =>
      some (.position mStatus time (debugPosition mUlpLocation mLocationExtended))
  | .reportNmea uninit clock mNmea mLength => some (.nmea uninit clock mNmea mLength)
  | _ => none

section
variable [LinearOrder κ] [BEq δ] [BEq φ]

/-- The constructor. -/
def ReportAdapter.new : ReportAdapter κ δ φ τ where
  mClientData := ∅
  mTrackingSessions := false
  used := ⟨false, ⟨0, 0, 0, 0, 0⟩⟩
  mSystemStatus := ⟨[], .clear⟩

namespace ReportAdapter

/-- The loop over the clients: the notifications of each, as its callbacks ask for them. -/
def forClients (s : ReportAdapter κ δ φ τ)
    (notify : LocationCallbacks → List (Notification δ φ μ)) : List (κ × Notification δ φ μ) :=
  s.mClientData.toList.flatMap fun e => (notify e.2).map fun n => (e.1, n)

/-- `GnssAdapter::reportNmea`. -/
def reportNmea (s : ReportAdapter κ δ φ τ) (nmea : CString) (length : Nat) :
    List (κ × Notification δ φ μ) :=
  s.forClients fun callbacks => if callbacks.gnssNmeaCb then [.nmea nmea length] else []

/-- The loop over the sentences that are generated here. -/
def reportSentences (s : ReportAdapter κ δ φ τ) (nmeaArraystr : List CString) :
    List (κ × Notification δ φ μ) :=
  nmeaArraystr.flatMap fun sentence => s.reportNmea sentence sentence.length

/-- The callbacks of a client for a position that is reported. -/
def locationNotify (a : ReportArith δ φ) (ulpLocation : UlpLocation δ φ)
    (locationExtended : GpsLocationExtended φ) (techMask : BitVec 32)
    (callbacks : LocationCallbacks) : List (Notification δ φ μ) :=
  (if callbacks.trackingCb then
    [.location (convertLocation a.floats.zero (a.floats.ofInt 0) ulpLocation locationExtended
      techMask)]
  else []) ++
  if callbacks.gnssLocationInfoCb then
    [.locationInfo (convertLocationInfo (a.floats.ofInt 0) locationExtended)]
  else []

/-- `GnssAdapter::reportPosition`. -/
def reportPosition (a : ReportArith δ φ) (conf : GpsConf) (s : ReportAdapter κ δ φ τ)
    (ulpLocation : UlpLocation δ φ) (locationExtended : GpsLocationExtended φ)
    (status : LocSessStatus) (techMask : BitVec 32) :
    ReportAdapter κ δ φ τ × List (κ × Notification δ φ μ) :=
  let reported := needReport a conf ulpLocation status techMask
  -- `GPS_LOCATION_EXTENDED_HAS_GNSS_SV_USED_DATA`
  let used := usedAfterPosition reported (locationExtended.flags.getLsbD 12)
    locationExtended.gnss_sv_used_ids s.used
  let locations :=
    if reported then s.forClients (locationNotify a ulpLocation locationExtended techMask) else []
  let sentences :=
    if generatesNmea conf s.mTrackingSessions then
      positionSentences a conf ulpLocation locationExtended status techMask
    else []
  ({ s with used := used }, locations ++ s.reportSentences sentences)

/-- `GnssAdapter::reportSv`. -/
def reportSv (a : ReportArith δ φ) (conf : GpsConf) (s : ReportAdapter κ δ φ τ)
    (svNotify : GnssSvNotification φ) :
    ReportAdapter κ δ φ τ × List (κ × Notification δ φ μ) :=
  let reported := ReportSv.reportSv a.reals a.wideShift (generatesNmea conf s.mTrackingSessions)
    s.used svNotify
  ({ s with used := reported.state },
    (s.forClients fun callbacks =>
      if callbacks.gnssSvCb then [.sv reported.svNotify] else []) ++
      s.reportSentences reported.nmeaArraystr)

/-- The message is processed: `proc` of each. -/
def proc (a : ReportArith δ φ) (conf : GpsConf) (s : ReportAdapter κ δ φ τ) :
    ReportMsg κ δ φ τ μ → ReportAdapter κ δ φ τ × List (κ × Notification δ φ μ)
  | .addClient mClient mCallbacks =>
      ({ s with mClientData := s.mClientData.insert mClient mCallbacks }, [])
  | .removeClient mClient => ({ s with mClientData := s.mClientData.erase mClient }, [])
  | .sessions left => ({ s with mTrackingSessions := left }, [])
  | .deleteAidingData deleteAll clock stale =>
      ({ s with mSystemStatus :=
          procEvent a.floats s.mSystemStatus (.deleteAidingData deleteAll clock stale) }, [])
  | .reportPosition time mUlpLocation mLocationExtended mStatus mTechMask =>
      let mSystemStatus := procEvent a.floats s.mSystemStatus
        (.position mStatus time (debugPosition mUlpLocation mLocationExtended))
      reportPosition a conf { s with mSystemStatus := mSystemStatus } mUlpLocation
        mLocationExtended mStatus mTechMask
  | .reportSv mSvNotify => reportSv a conf s mSvNotify
  | .reportNmea uninit clock mNmea mLength =>
      let set := setNmeaString a.floats uninit clock mNmea mLength s.mSystemStatus.debug
      let s' := { s with mSystemStatus := { s.mSystemStatus with debug := set.2 } }
      -- a sentence that `SystemStatus` takes goes no further
      (s', if set.1 then [] else s'.reportNmea mNmea mLength)
  | .reportGnssMeasurementData mMeasurementsNotify =>
      (s, s.forClients fun callbacks =>
        if callbacks.gnssMeasurementsCb then [.measurements mMeasurementsNotify] else [])

end ReportAdapter

end

/-! ### The gain of the receiver -/

/-- The level of a constellation. -/
def agcOf (rf : SystemStatusRfAndParams δ) : GnssSvType → Option δ
  | .gps => some rf.mAgcGps
  | .qzss => some rf.mAgcGps
  | .galileo => some rf.mAgcGal
  | .glonass => some rf.mAgcGlo
  | .beidou => some rf.mAgcBds
  | _ => none

/-- A measurement with the level of its constellation. -/
def withAgc (rf : SystemStatusRfAndParams δ) (m : GnssMeasurement δ μ) : GnssMeasurement δ μ :=
  match agcOf rf m.svType with
  -- `GNSS_MEASUREMENTS_DATA_AUTOMATIC_GAIN_CONTROL_BIT`
  | some level => { m with agcLevelDb := level, flags := m.flags ||| BitVec.twoPow 32 17 }
  | none => m

/-- The body of `GnssAdapter::getAgcInformation`, from the newest items. The difference of the times
is an `int` in the source, and the model leaves out that it may overflow. -/
def fillAgc (rf : Option (SystemStatusRfAndParams δ)) (time : Option SystemStatusTimeAndClock)
    (measurements : List (GnssMeasurement δ μ)) (msInWeek : Int) : List (GnssMeasurement δ μ) :=
  match rf, time with
  | some rf, some time =>
      if (msInWeek - time.mGpsTowMs.toInt).natAbs < 2000 then measurements.map (withAgc rf)
      else measurements
  | _, _ => measurements

/-- `GnssAdapter::getAgcInformation`. -/
def getAgcInformation (mSystemStatus : StatusCache δ φ τ)
    (measurements : List (GnssMeasurement δ μ)) (msInWeek : Int) : List (GnssMeasurement δ μ) :=
  fillAgc (mSystemStatus.debug.mRfAndParams.getLast?.map Entry.item)
    (mSystemStatus.debug.mTimeAndClock.getLast?.map Entry.item) measurements msInWeek

/-! ### The events -/

/-- The adapter with its messages. `accepted`, `processed`, `offered` and `delivered` are the
history: the messages that were posted and those that were processed, the sentences that the proxy
was offered, and the calls of the callbacks. -/
structure ReportSystem (κ δ φ τ μ : Type) [LinearOrder κ] where
  adapter : ReportAdapter κ δ φ τ
  msgs : List (ReportMsg κ δ φ τ μ)
  accepted : List (ReportMsg κ δ φ τ μ)
  processed : List (ReportMsg κ δ φ τ μ)
  offered : List (CString × Nat)
  delivered : List (κ × Notification δ φ μ)

/-- What happens next. `taken` is the answer of the proxy. -/
inductive ReportLabel (κ δ φ τ μ : Type) where
  | addClientCommand (client : κ) (callbacks : LocationCallbacks)
  | removeClientCommand (client : κ)
  | trackingCommand (left : Bool)
  | gnssDeleteAidingDataCommand (deleteAll : Bool) (clock : Nat → τ) (stale : DebugPosition δ φ)
  | reportPositionEvent (fromUlp taken : Bool) (time : τ) (ulpLocation : UlpLocation δ φ)
      (locationExtended : GpsLocationExtended φ) (status : LocSessStatus) (techMask : BitVec 32)
  | reportSvEvent (fromUlp taken : Bool) (svNotify : GnssSvNotification φ)
  | reportNmeaEvent (fromUlp taken : Bool) (uninit : Uninit φ) (clock : Nat → τ) (nmea : CString)
      (length : Nat)
  | reportGnssMeasurementDataEvent (measurements : List (GnssMeasurement δ μ)) (msInWeek : Int)
  /-- The thread of the messages processes the oldest one. -/
  | proc

namespace ReportSystem

variable [LinearOrder κ]

/-- The system after the constructor. -/
def new : ReportSystem κ δ φ τ μ := ⟨.new, [], [], [], [], []⟩

/-- `LocAdapterBase::sendMsg`. -/
def sendMsg (s : ReportSystem κ δ φ τ μ) (msg : ReportMsg κ δ φ τ μ) : ReportSystem κ δ φ τ μ :=
  { s with msgs := s.msgs ++ [msg], accepted := s.accepted ++ [msg] }

/-- `GnssAdapter::reportNmeaEvent`. The message has a copy of `length` characters. -/
def reportNmeaEvent (s : ReportSystem κ δ φ τ μ) (fromUlp taken : Bool) (uninit : Uninit φ)
    (clock : Nat → τ) (nmea : CString) (length : Nat) : ReportSystem κ δ φ τ μ :=
  let msg := .reportNmea uninit clock (nmea.take length) length
  if !fromUlp && !locNmeaIsDebug nmea length then
    let s := { s with offered := s.offered ++ [(nmea, length)] }
    if taken then s else s.sendMsg msg
  else s.sendMsg msg

/-- `GnssAdapter::reportGnssMeasurementDataEvent`. The constructor of the message looks at
`SystemStatus`. -/
def reportGnssMeasurementDataEvent (s : ReportSystem κ δ φ τ μ)
    (measurements : List (GnssMeasurement δ μ)) (msInWeek : Int) : ReportSystem κ δ φ τ μ :=
  s.sendMsg (.reportGnssMeasurementData
    (if msInWeek ≠ -1 then getAgcInformation s.adapter.mSystemStatus measurements msInWeek
    else measurements))

variable [BEq δ] [BEq φ]

/-- One step. -/
def step (a : ReportArith δ φ) (conf : GpsConf) (s : ReportSystem κ δ φ τ μ) :
    ReportLabel κ δ φ τ μ → Option (ReportSystem κ δ φ τ μ)
  | .addClientCommand client callbacks => some (s.sendMsg (.addClient client callbacks))
  | .removeClientCommand client => some (s.sendMsg (.removeClient client))
  | .trackingCommand left => some (s.sendMsg (.sessions left))
  | .gnssDeleteAidingDataCommand deleteAll clock stale =>
      some (s.sendMsg (.deleteAidingData deleteAll clock stale))
  | .reportPositionEvent fromUlp taken time ulpLocation locationExtended status techMask =>
      if !fromUlp && taken then some s
      else some (s.sendMsg (.reportPosition time ulpLocation locationExtended status techMask))
  | .reportSvEvent fromUlp taken svNotify =>
      if !fromUlp && taken then some s else some (s.sendMsg (.reportSv svNotify))
  | .reportNmeaEvent fromUlp taken uninit clock nmea length =>
      some (s.reportNmeaEvent fromUlp taken uninit clock nmea length)
  | .reportGnssMeasurementDataEvent measurements msInWeek =>
      some (s.reportGnssMeasurementDataEvent measurements msInWeek)
  | .proc =>
      match s.msgs with
      | [] => none
      | msg :: msgs =>
          let next := s.adapter.proc a conf msg
          some { s with
            adapter := next.1
            msgs := msgs
            processed := s.processed ++ [msg]
            delivered := s.delivered ++ next.2 }

end ReportSystem

end LocHal.Gnss.ReportPipeline
