import LocHal.Core.ReportHistory
import LocHal.Core.DebugTruncated
import LocHal.Gnss.ReportSv

/-!
# `LocHal.Gnss.DebugReport`: what a bug report shows

`SystemStatus` keeps reports of the positions and of the debug sentences, and
`GnssAdapter::getDebugReport` makes a `GnssDebugReport` of the newest element of some of them. A
request to delete all aiding data puts a default into each report.

`getReport_run` says what the newest elements are after any events, without the reports of
`SystemStatus`: `history` has the last sentence of each kind since the last deletion. The position
is another matter: `SystemStatusLocation::equals` compares latitude, longitude and altitude only, so
the newest element is the first of the positions at one place, with the reported time of the last
one. What the report then shows of them is in `LocHal.Gnss.DebugReportShown`.

`getDebugReport_satellites` says that the report has each satellite once, with what the last
sentences say of it.
-/

set_option autoImplicit false

namespace LocHal.Gnss.DebugReport

open LocHal.Core hiding setIteminReport
open LocHal.Core.ReportHistory
open LocHal.Util (CString)
open LocHal.Util.LocNmea (GnssSvType)

variable {δ φ τ β : Type}

/-! ### The reports of `SystemStatus` -/

/-- The members of `UlpLocation` and `GpsLocationExtended` that a debug report shows. -/
structure DebugPosition (δ φ : Type) where
  latitude : δ
  longitude : δ
  altitude : δ
  speed : φ
  bearing : φ
  accuracy : φ
  vert_unc : φ
  speed_unc : φ
  bearing_unc : φ
  deriving DecidableEq

/-- `SystemStatusLocation`. -/
structure SystemStatusLocation (δ φ : Type) where
  mValid : Bool
  mLocation : DebugPosition δ φ
  deriving DecidableEq

/-- `SystemStatusLocation::equals`. -/
def locationEquals [BEq δ] (a peer : SystemStatusLocation δ φ) : Bool :=
  a.mLocation.latitude == peer.mLocation.latitude &&
    a.mLocation.longitude == peer.mLocation.longitude &&
    a.mLocation.altitude == peer.mLocation.altitude

/-- The reports of `mCache` for the positions and the debug sentences. -/
structure StatusCache (δ φ τ : Type) where
  mLocation : List (Entry τ (SystemStatusLocation δ φ))
  debug : DebugReports δ φ τ

/-- `loc_sess_status`. -/
inductive LocSessStatus where
  | success
  | intermediate
  | failure
  deriving DecidableEq, Repr

/-- An event of the adapter that `SystemStatus` gets to know. `uninit` and `stale` are what the
memory held that nothing initialises. -/
inductive StatusEvent (δ φ τ : Type) where
  | nmea (uninit : Uninit φ) (clock : Nat → τ) (data : CString) (len : Nat)
  | position (status : LocSessStatus) (time : τ) (location : DebugPosition δ φ)
  | deleteAidingData (deleteAll : Bool) (clock : Nat → τ) (stale : DebugPosition δ φ)

/-! The default items. -/

/-- `SystemStatusTimeAndClock()`. -/
def defaultTimeAndClock : SystemStatusTimeAndClock := ⟨0, 0, 0, 0, 0, 0, 0, 0, 0⟩

/-- `SystemStatusRfAndParams()`. -/
def defaultRfAndParams (zero : δ) : SystemStatusRfAndParams δ :=
  ⟨0, 0, 0, 0, 0, 0, 0, 0, 0, zero, zero, zero, zero, 0, 0, 0, 0, 0, 0⟩

/-- `SystemStatusInjectedPosition()`. -/
def defaultInjectedPosition (zero : φ) : SystemStatusInjectedPosition φ :=
  ⟨0, zero, zero, zero, zero, zero, 0⟩

/-- `SystemStatusBestPosition()`. -/
def defaultBestPosition (zero : φ) : SystemStatusBestPosition φ :=
  ⟨false, zero, zero, zero, zero, zero⟩

/-- `SystemStatusXtra()`. -/
def defaultXtra : SystemStatusXtra := ⟨0, 0, 0, 0, 0, 0, 0, 0, 0, 0, 0⟩

/-- `SystemStatusEphemeris()`. -/
def defaultEphemeris : SystemStatusEphemeris := ⟨0, 0, 0, 0, 0⟩

/-- `SystemStatusSvHealth()`. -/
def defaultSvHealth : SystemStatusSvHealth := ⟨0, 0, 0, 0, 0, 0, 0, 0, 0, 0, 0, 0, 0, 0, 0⟩

/-- `SystemStatusNavData()`. `GNSS_EPH_TYPE_UNKNOWN` and `GNSS_EPH_SOURCE_UNKNOWN` are zero. -/
def defaultNavData : SystemStatusNavData := ⟨Vector.replicate svAllNum ⟨0, 0, 0⟩⟩

section
variable [BEq δ] [BEq φ]

/-- `SystemStatus::eventPosition`. -/
def eventPosition (time : τ) (location : DebugPosition δ φ) (mCache : StatusCache δ φ τ) :
    StatusCache δ φ τ :=
  { mCache with
    mLocation := (setIteminReport locationEquals mCache.mLocation (.new time ⟨true, location⟩)).1 }

/-- `SystemStatus::setDefaultGnssEngineStates`. -/
def setDefaultGnssEngineStates (fl : NmeaFloats δ φ) (clock : Nat → τ) (stale : DebugPosition δ φ)
    (mCache : StatusCache δ φ τ) : StatusCache δ φ τ :=
  let zero := fl.ofInt 0
  let d := mCache.debug
  { mLocation := setDefaultIteminReport mCache.mLocation (.new (clock 0) ⟨false, stale⟩)
    debug :=
      { mTimeAndClock :=
          setDefaultIteminReport d.mTimeAndClock (.new (clock 1) defaultTimeAndClock)
        mXoState := setDefaultIteminReport d.mXoState (.new (clock 2) ⟨0⟩)
        mRfAndParams :=
          setDefaultIteminReport d.mRfAndParams (.new (clock 3) (defaultRfAndParams fl.zero))
        mErrRecovery := setDefaultIteminReport d.mErrRecovery (.new (clock 4) ⟨0⟩)
        mInjectedPosition :=
          setDefaultIteminReport d.mInjectedPosition (.new (clock 5) (defaultInjectedPosition zero))
        mBestPosition :=
          setDefaultIteminReport d.mBestPosition (.new (clock 6) (defaultBestPosition zero))
        mXtra := setDefaultIteminReport d.mXtra (.new (clock 7) defaultXtra)
        mEphemeris := setDefaultIteminReport d.mEphemeris (.new (clock 8) defaultEphemeris)
        mSvHealth := setDefaultIteminReport d.mSvHealth (.new (clock 9) defaultSvHealth)
        mPdr := setDefaultIteminReport d.mPdr (.new (clock 10) ⟨0⟩)
        mNavData := setDefaultIteminReport d.mNavData (.new (clock 11) defaultNavData)
        mPositionFailure := setDefaultIteminReport d.mPositionFailure (.new (clock 12) ⟨0, 0⟩) } }

/-- What the messages `MsgReportNmea`, `MsgReportPosition` and `MsgDeleteAidingData` do to
`SystemStatus`. -/
def procEvent (fl : NmeaFloats δ φ) (mCache : StatusCache δ φ τ) :
    StatusEvent δ φ τ → StatusCache δ φ τ
  | .nmea uninit clock data len =>
      { mCache with debug := (setNmeaString fl uninit clock data len mCache.debug).2 }
  | .position status time location =>
      if status = .success ∨ status = .intermediate then eventPosition time location mCache
      else mCache
  | .deleteAidingData deleteAll clock stale =>
      if deleteAll then setDefaultGnssEngineStates fl clock stale mCache else mCache

/-- The cache after the events. The constructor of `SystemStatus` clears the reports. -/
def runEvents (fl : NmeaFloats δ φ) (events : List (StatusEvent δ φ τ)) : StatusCache δ φ τ :=
  events.foldl (procEvent fl) ⟨[], .clear⟩

end

/-! ### The debug report -/

/-- The arithmetic of `getDebugReport`: the conversion from `float` to `double`, the product with
`RAD2DEG`, and the time uncertainty `((float)a + (float)b) * 1000.0f`. -/
structure ReportFloats (δ φ : Type) extends NmeaFloats δ φ where
  toDouble : φ → δ
  toDegrees : δ → δ
  timeUnc : Int → Int → φ

/-- `GnssDebugLocation`. `mUtcReported` is none when nothing has been written there. -/
structure GnssDebugLocation (δ φ τ : Type) where
  mValid : Bool
  latitude : δ
  longitude : δ
  altitude : δ
  speed : φ
  bearing : φ
  accuracy : φ
  verticalAccuracyMeters : δ
  speedAccuracyMetersPerSecond : δ
  bearingAccuracyDegrees : δ
  mUtcReported : Option τ
  deriving DecidableEq

/-- `GnssDebugTime`. -/
structure GnssDebugTime (φ : Type) where
  mValid : Bool
  timeEstimate : BitVec 64
  timeUncertaintyNs : φ
  frequencyUncertaintyNsPerSec : φ
  deriving DecidableEq

/-- `GnssEphemerisHealth`. -/
inductive GnssEphemerisHealth where
  | unknown
  | good
  | bad
  deriving DecidableEq, Repr

/-- `GnssDebugSatelliteInfo`. The type and the source are the numbers of their enumerations. -/
structure GnssDebugSatelliteInfo (φ : Type) where
  svid : Nat
  constellation : GnssSvType
  mEphemerisType : Int
  mEphemerisSource : Int
  mEphemerisHealth : GnssEphemerisHealth
  ephemerisAgeSeconds : φ
  serverPredictionIsAvailable : Bool
  serverPredictionAgeSeconds : φ
  deriving DecidableEq

/-- `GnssDebugReport`. -/
structure GnssDebugReport (δ φ τ : Type) where
  mLocation : GnssDebugLocation δ φ τ
  mTime : GnssDebugTime φ
  mSatelliteInfo : List (GnssDebugSatelliteInfo φ)

/-- The newest elements that the report is made of, as `SystemStatus::getReport` returns them when
it is asked for the latest only. -/
structure LatestReports (δ φ τ : Type) where
  mLocation : Option (Entry τ (SystemStatusLocation δ φ))
  mBestPosition : Option (Entry τ (SystemStatusBestPosition φ))
  mTimeAndClock : Option SystemStatusTimeAndClock
  mXtra : Option SystemStatusXtra
  mSvHealth : Option SystemStatusSvHealth
  mNavData : Option SystemStatusNavData

/-- `SystemStatus::getReport`, for the reports above. -/
def getReport (mCache : StatusCache δ φ τ) : LatestReports δ φ τ where
  mLocation := mCache.mLocation.getLast?
  mBestPosition := mCache.debug.mBestPosition.getLast?
  mTimeAndClock := mCache.debug.mTimeAndClock.getLast?.map Entry.item
  mXtra := mCache.debug.mXtra.getLast?.map Entry.item
  mSvHealth := mCache.debug.mSvHealth.getLast?.map Entry.item
  mNavData := mCache.debug.mNavData.getLast?.map Entry.item

/-- What `convertSatelliteInfo` reads for a constellation: the first id, how many there are, where
they start in `mNav`, the masks, and the age of the predictions. -/
structure SatelliteBlock where
  svid_min : Nat
  svid_num : Nat
  svid_idx : Nat
  eph_health_good_mask : BitVec 64
  eph_health_bad_mask : BitVec 64
  server_prediction_available_mask : BitVec 64
  server_prediction_age : BitVec 32

/-- The `switch` of `convertSatelliteInfo`. -/
def satelliteBlock (mSvHealth : Option SystemStatusSvHealth) (mXtra : Option SystemStatusXtra) :
    GnssSvType → Option SatelliteBlock
  | .gps => some
      { svid_min := 1, svid_num := 32, svid_idx := 0
        eph_health_good_mask := mSvHealth.elim 0 fun h => h.mGpsGoodMask.setWidth 64
        eph_health_bad_mask := mSvHealth.elim 0 fun h => h.mGpsBadMask.setWidth 64
        server_prediction_available_mask := mXtra.elim 0 fun x => x.mGpsXtraValid.setWidth 64
        server_prediction_age := mXtra.elim 0 fun x => x.mGpsXtraAge }
  | .glonass => some
      { svid_min := 1, svid_num := 24, svid_idx := 32
        eph_health_good_mask := mSvHealth.elim 0 fun h => h.mGloGoodMask.setWidth 64
        eph_health_bad_mask := mSvHealth.elim 0 fun h => h.mGloBadMask.setWidth 64
        server_prediction_available_mask := mXtra.elim 0 fun x => x.mGloXtraValid.setWidth 64
        server_prediction_age := mXtra.elim 0 fun x => x.mGloXtraAge }
  | .qzss => some
      { svid_min := 193, svid_num := 5, svid_idx := 32 + 24 + 37 + 36
        eph_health_good_mask := mSvHealth.elim 0 fun h => h.mQzssGoodMask.setWidth 64
        eph_health_bad_mask := mSvHealth.elim 0 fun h => h.mQzssBadMask.setWidth 64
        server_prediction_available_mask := mXtra.elim 0 fun x => x.mQzssXtraValid.setWidth 64
        server_prediction_age := mXtra.elim 0 fun x => x.mQzssXtraAge }
  | .beidou => some
      { svid_min := 1, svid_num := 37, svid_idx := 32 + 24
        eph_health_good_mask := mSvHealth.elim 0 fun h => h.mBdsGoodMask
        eph_health_bad_mask := mSvHealth.elim 0 fun h => h.mBdsBadMask
        server_prediction_available_mask := mXtra.elim 0 fun x => x.mBdsXtraValid
        server_prediction_age := mXtra.elim 0 fun x => x.mBdsXtraAge }
  | .galileo => some
      { svid_min := 1, svid_num := 36, svid_idx := 32 + 24 + 37
        eph_health_good_mask := mSvHealth.elim 0 fun h => h.mGalGoodMask
        eph_health_bad_mask := mSvHealth.elim 0 fun h => h.mGalBadMask
        server_prediction_available_mask := mXtra.elim 0 fun x => x.mGalXtraValid
        server_prediction_age := mXtra.elim 0 fun x => x.mGalXtraAge }
  | _ => none

/-- The body of the loop of `convertSatelliteInfo`. -/
def satelliteInfo (fl : NmeaFloats δ φ) (mNavData : Option SystemStatusNavData)
    (in_constellation : GnssSvType) (b : SatelliteBlock) (i : Nat) : GnssDebugSatelliteInfo φ :=
  let nav : Option SystemStatusNav := mNavData.bind fun n => n.mNav[b.svid_idx + i]?
  { svid := i + b.svid_min
    constellation := in_constellation
    mEphemerisType := nav.elim 0 SystemStatusNav.mType
    mEphemerisSource := nav.elim 0 SystemStatusNav.mSource
    mEphemerisHealth :=
      if b.eph_health_good_mask &&& 1#64 <<< i ≠ 0 then .good
      else if b.eph_health_bad_mask &&& 1#64 <<< i ≠ 0 then .bad
      else .unknown
    ephemerisAgeSeconds := nav.elim (fl.ofInt 0) fun n => fl.ofInt n.mAgeSec
    serverPredictionIsAvailable :=
      if b.server_prediction_available_mask &&& 1#64 <<< i ≠ 0 then true else false
    serverPredictionAgeSeconds := fl.ofInt b.server_prediction_age.toNat }

/-- The loop of `convertSatelliteInfo` from `i` on. -/
def satelliteLoop (fl : NmeaFloats δ φ) (mNavData : Option SystemStatusNavData)
    (in_constellation : GnssSvType) (b : SatelliteBlock) :
    Nat → Nat → List (GnssDebugSatelliteInfo φ)
  | 0, _ => []
  | fuel + 1, i =>
      if i < b.svid_num ∧ b.svid_idx + i < svAllNum then
        satelliteInfo fl mNavData in_constellation b i ::
          satelliteLoop fl mNavData in_constellation b fuel (i + 1)
      else []

/-- `GnssAdapter::convertSatelliteInfo`: what it adds to `out`. -/
def convertSatelliteInfo (fl : NmeaFloats δ φ) (in_constellation : GnssSvType)
    (reports : LatestReports δ φ τ) : List (GnssDebugSatelliteInfo φ) :=
  match satelliteBlock reports.mSvHealth reports.mXtra in_constellation with
  | some b => satelliteLoop fl reports.mNavData in_constellation b (b.svid_num + 1) 0
  | none => []

/-- The location block of a report that is cleared. -/
def noLocation (fl : ReportFloats δ φ) : GnssDebugLocation δ φ τ :=
  let zero := fl.ofInt 0
  ⟨false, fl.zero, fl.zero, fl.zero, zero, zero, zero, fl.zero, fl.zero, fl.zero, none⟩

/-- The location block of `getDebugReport`. -/
def debugLocation (fl : ReportFloats δ φ) (reports : LatestReports δ φ τ) :
    GnssDebugLocation δ φ τ :=
  match reports.mLocation.filter fun e => e.item.mValid with
  | some e =>
      let l := e.item.mLocation
      { mValid := true
        latitude := l.latitude
        longitude := l.longitude
        altitude := l.altitude
        speed := l.speed
        bearing := l.bearing
        accuracy := l.accuracy
        verticalAccuracyMeters := fl.toDouble l.vert_unc
        speedAccuracyMetersPerSecond := fl.toDouble l.speed_unc
        bearingAccuracyDegrees := fl.toDouble l.bearing_unc
        mUtcReported := some e.mUtcReported }
  | none =>
      match reports.mBestPosition.filter fun e => e.item.mValid with
      | some e =>
          { (noLocation fl : GnssDebugLocation δ φ τ) with
            mValid := true
            latitude := fl.toDegrees (fl.toDouble e.item.mBestLat)
            longitude := fl.toDegrees (fl.toDouble e.item.mBestLon)
            altitude := fl.toDouble e.item.mBestAlt
            accuracy := e.item.mBestHepe
            mUtcReported := some e.mUtcReported }
      | none => noLocation fl

/-- The time estimate, in milliseconds since 1970, in the 64 bits of its type. -/
def timeEstimate (t : SystemStatusTimeAndClock) : BitVec 64 :=
  BitVec.ofInt 64 (((t.mGpsWeek.toNat * 7 + 3657) * 24 * 60 * 60 - t.mLeapSeconds) * 1000
    + t.mGpsTowMs.toNat)

/-- The time block of `getDebugReport`. -/
def debugTime (fl : ReportFloats δ φ) (reports : LatestReports δ φ τ) : GnssDebugTime φ :=
  match reports.mTimeAndClock.filter fun t => t.mTimeValid != 0 with
  | some t =>
      { mValid := true
        timeEstimate := timeEstimate t
        timeUncertaintyNs := fl.timeUnc t.mTimeUnc t.mLeapSecUnc
        frequencyUncertaintyNsPerSec := fl.ofInt t.mClockFreqBiasUnc }
  | none => ⟨false, 0, fl.ofInt 0, fl.ofInt 0⟩

/-- The constellations in the order of the calls of `convertSatelliteInfo`. -/
def debugConstellations : List GnssSvType := [.gps, .glonass, .qzss, .beidou, .galileo]

/-- The blocks of `getDebugReport`. -/
def debugReport (fl : ReportFloats δ φ) (reports : LatestReports δ φ τ) :
    GnssDebugReport δ φ τ where
  mLocation := debugLocation fl reports
  mTime := debugTime fl reports
  mSatelliteInfo := debugConstellations.flatMap fun c =>
    convertSatelliteInfo fl.toNmeaFloats c reports

/-- `GnssAdapter::getDebugReport`, for a report that is cleared. -/
def getDebugReport (fl : ReportFloats δ φ) (mCache : StatusCache δ φ τ) :
    GnssDebugReport δ φ τ :=
  debugReport fl (getReport mCache)

/-! ### The history -/

/-- The kind and the fields of a debug sentence that has a parser. -/
def sentence (data : CString) (len : Nat) : Option (DebugKind × List CString) :=
  if locNmeaIsDebug data len then
    (debugKind data).map fun kind => (kind, mField (data.take 4096) len)
  else none

/-- The positions that are not failures, and the deletions. -/
def locationCall : StatusEvent δ φ τ → Option (ReportCall τ (SystemStatusLocation δ φ))
  | .nmea _ _ _ _ => none
  | .position status time location =>
      if status = .failure then none else some (.setItem (.new time ⟨true, location⟩))
  | .deleteAidingData deleteAll clock stale =>
      if deleteAll then some (.setDefault (.new (clock 0) ⟨false, stale⟩)) else none

/-- The sentences of a kind, as `parse` reads them, and the deletions. The numbers say which
reading of the clock the item gets. -/
def sentenceCall (kind : DebugKind) (parse : Nat × (Uninit φ → List CString → β))
    (default : Nat × β) : StatusEvent δ φ τ → Option (ReportCall τ β)
  | .nmea uninit clock data len =>
      (sentence data len).bind fun (k, fields) =>
        if k = kind then some (.setItem (.new (clock parse.1) (parse.2 uninit fields))) else none
  | .position _ _ _ => none
  | .deleteAidingData deleteAll clock _ =>
      if deleteAll then some (.setDefault (.new (clock default.1) default.2)) else none

/-- The item of the last call. -/
def lastItem (calls : List (ReportCall τ β)) : Option β :=
  calls.getLast?.map fun call => call.entry.item

/-- The last item that differs from the one before it, with the time of the last call. -/
def lastKept (equals : β → β → Bool) (calls : List (ReportCall τ β)) : Option (Entry τ β) :=
  (heldFrom equals none calls).getLast?

/-- The newest elements, from the events alone. -/
def history [BEq δ] [BEq φ] (fl : NmeaFloats δ φ) (events : List (StatusEvent δ φ τ)) :
    LatestReports δ φ τ where
  mLocation := lastKept locationEquals (events.filterMap locationCall)
  mBestPosition := lastKept bestPositionEquals (events.filterMap
    (sentenceCall .pqwp2 (0, fun u fields => bestPosition (pqwp2Parser fl u.mP2 fields))
      (6, defaultBestPosition (fl.ofInt 0))))
  mTimeAndClock := lastItem (events.filterMap
    (sentenceCall .pqwm1 (0, fun _ fields => timeAndClock (pqwm1Parser fl fields))
      (1, defaultTimeAndClock)))
  mXtra := lastItem (events.filterMap
    (sentenceCall .pqwp3 (0, fun u fields => pqwp3Parser u.mP3 fields) (7, defaultXtra)))
  mSvHealth := lastItem (events.filterMap
    (sentenceCall .pqwp5 (0, fun u fields => pqwp5Parser u.mP5 fields) (9, defaultSvHealth)))
  mNavData := lastItem (events.filterMap
    (sentenceCall .pqwp7 (0, fun u fields => pqwp7Parser u.mP7 fields) (11, defaultNavData)))

/-! ### The reports against the history -/

/-- One call, and the calls after it. -/
theorem runCalls_cons_fst (equals : β → β → Bool) (report : List (Entry τ β))
    (call : ReportCall τ β) (calls : List (ReportCall τ β)) :
    (runCalls equals report (call :: calls)).1
      = (runCalls equals (runCalls equals report [call]).1 calls).1 := by
  cases call <;> rfl

/-- The calls that the events make on one report. -/
theorem runEvents_report [BEq δ] [BEq φ] {fl : NmeaFloats δ φ} {equals : β → β → Bool}
    (get : StatusCache δ φ τ → List (Entry τ β))
    (call : StatusEvent δ φ τ → Option (ReportCall τ β))
    (hstep : ∀ mCache event, get (procEvent fl mCache event)
      = (runCalls equals (get mCache) (call event).toList).1)
    (events : List (StatusEvent δ φ τ)) (mCache : StatusCache δ φ τ) :
    get (events.foldl (procEvent fl) mCache)
      = (runCalls equals (get mCache) (events.filterMap call)).1 := by
  induction events generalizing mCache with
  | nil => rfl
  | cons event events ih =>
      rw [List.foldl_cons, ih, hstep, List.filterMap_cons]
      cases call event with
      | none => rfl
      | some c => exact (runCalls_cons_fst equals _ c _).symm

theorem getLast?_pushEntry (report : List (Entry τ β)) (s : Entry τ β) :
    (pushEntry report s).getLast? = some s := by
  unfold pushEntry
  dsimp only
  split
  · rename_i hfull
    have hne : report ≠ [] := by
      rintro rfl
      simp [maxItem] at hfull
    rw [List.tail_append_of_ne_nil hne, List.getLast?_concat]
  · rw [List.getLast?_concat]

/-- The newest element holds the item of the last call, when items are compared by all their
members. -/
theorem getLast?_runCalls [BEq β] [LawfulBEq β] (calls : List (ReportCall τ β))
    (report : List (Entry τ β)) :
    (runCalls (· == ·) report calls).1.getLast?.map Entry.item
      = (lastItem calls).or (report.getLast?.map Entry.item) := by
  -- one call leaves its item as the newest one
  have hone : ∀ (call : ReportCall τ β) (report : List (Entry τ β)),
      (runCalls (· == ·) report [call]).1.getLast?.map Entry.item = some call.entry.item := by
    intro call report
    have hpush : ∀ s : Entry τ β, (pushEntry report s).getLast?.map Entry.item = some s.item :=
      fun s => by rw [getLast?_pushEntry, Option.map_some]
    cases call with
    | setDefault s => exact hpush s
    | setItem s =>
        show (setIteminReport (· == ·) report s).1.getLast?.map Entry.item = some s.item
        unfold setIteminReport
        cases report.getLast? with
        | none => exact hpush s
        | some last =>
            dsimp only
            split
            · rename_i heq
              rw [List.getLast?_concat]
              exact congrArg some (beq_iff_eq.mp heq)
            · exact hpush s
  induction calls generalizing report with
  | nil => rfl
  | cons call calls ih =>
      rw [runCalls_cons_fst, ih, hone]
      unfold lastItem
      rw [List.getLast?_cons]
      cases calls.getLast? <;> rfl

/-- The newest element is compared as the item `e` of the last call would be. -/
theorem getLast?_runCalls_from {equals : β → β → Bool}
    (hequals : ∀ a b, equals a b = true → equals a = equals b) (calls : List (ReportCall τ β))
    {report : List (Entry τ β)} {last e : Entry τ β} (hreport : report.getLast? = some last)
    (hitem : equals last.item = equals e.item) (htime : last.mUtcReported = e.mUtcReported) :
    (runCalls equals report calls).1.getLast?
      = ((heldFrom equals (some e) calls).getLast?).or
          (some { last with mUtcReported := reportedFrom equals e calls }) := by
  induction calls generalizing report last e with
  | nil => exact hreport.trans (congrArg some (reported_self htime).symm)
  | cons call calls ih =>
      have hpush : ∀ (s : Entry τ β) (o : Option (Entry τ β)),
          (runCalls equals (pushEntry report s) calls).1.getLast?
            = (({ s with mUtcReported := reportedFrom equals s calls }
              :: heldFrom equals (some s) calls).getLast?).or o := by
        intro s o
        rw [ih (getLast?_pushEntry report s) rfl rfl, List.getLast?_cons]
        cases (heldFrom equals (some s) calls).getLast? <;> rfl
      cases call with
      | setDefault s =>
          refine (hpush s _).trans (congrArg₂ Option.or ?_ rfl)
          rw [heldFrom]
          rfl
      | setItem s =>
          rw [runCalls]
          unfold setIteminReport
          rw [hreport]
          dsimp only
          cases hdropped : equals e.item s.item with
          | true =>
              -- the newest element equals the item too
              have hlast : equals last.item s.item = true := by rw [hitem, hdropped]
              rw [if_pos hlast]
              have hrest := @ih (report.dropLast ++ [{ last with mUtcReported := s.mUtcReported }])
                { last with mUtcReported := s.mUtcReported } s List.getLast?_concat
                (hequals _ _ hlast) rfl
              refine hrest.trans ?_
              rw [heldFrom, reportedFrom]
              simp [ReportCall.dropped, ReportCall.entry, hdropped]
          | false =>
              rw [hitem, hdropped, if_neg Bool.false_ne_true]
              refine (hpush s _).trans (congrArg₂ Option.or ?_ rfl)
              rw [heldFrom]
              simp [ReportCall.dropped, ReportCall.entry, hdropped]

/-- The newest element of a report is the last item that was not dropped. -/
theorem getLast?_runCalls_kept {equals : β → β → Bool}
    (hequals : ∀ a b, equals a b = true → equals a = equals b) (calls : List (ReportCall τ β)) :
    (runCalls equals [] calls).1.getLast? = lastKept equals calls := by
  unfold lastKept
  cases calls with
  | nil => rfl
  | cons call calls =>
      -- the first item is stored in any case
      have hfirst := getLast?_runCalls_from hequals calls
        (show [call.entry].getLast? = some call.entry from rfl) rfl rfl
      have hheld : (heldFrom equals none (call :: calls)).getLast?
          = ({ call.entry with mUtcReported := reportedFrom equals call.entry calls }
            :: heldFrom equals (some call.entry) calls).getLast? := by
        rw [heldFrom]
        cases call <;> rfl
      rw [hheld, List.getLast?_cons]
      cases call with
      | setItem s =>
          refine hfirst.trans ?_
          cases (heldFrom equals (some (ReportCall.setItem s).entry) calls).getLast? <;> rfl
      | setDefault s =>
          refine hfirst.trans ?_
          cases (heldFrom equals (some (ReportCall.setDefault s).entry) calls).getLast? <;> rfl

/-- Equal values are compared alike, although a value need not equal itself. -/
theorem beq_left_congr [BEq δ] [PartialEquivBEq δ] {a b : δ} (h : (a == b) = true) (x : δ) :
    (a == x) = (b == x) :=
  Bool.eq_iff_iff.mpr ⟨fun hx => PartialEquivBEq.trans (PartialEquivBEq.symm h) hx,
    fun hx => PartialEquivBEq.trans h hx⟩

theorem locationEquals_congr [BEq δ] [PartialEquivBEq δ] (a b : SystemStatusLocation δ φ)
    (h : locationEquals a b = true) : locationEquals a = locationEquals b := by
  simp only [locationEquals, Bool.and_eq_true] at h
  obtain ⟨⟨hlat, hlon⟩, halt⟩ := h
  funext x
  unfold locationEquals
  rw [beq_left_congr hlat, beq_left_congr hlon, beq_left_congr halt]

theorem bestPositionEquals_congr [BEq φ] [PartialEquivBEq φ] (a b : SystemStatusBestPosition φ)
    (h : bestPositionEquals a b = true) : bestPositionEquals a = bestPositionEquals b := by
  simp only [bestPositionEquals, Bool.and_eq_true] at h
  obtain ⟨⟨⟨⟨h₁, h₂⟩, h₃⟩, h₄⟩, h₅⟩ := h
  funext x
  unfold bestPositionEquals
  rw [beq_left_congr h₁, beq_left_congr h₂, beq_left_congr h₃, beq_left_congr h₄,
    beq_left_congr h₅]

/-- The report of the sentences of a kind: they set one item each, and a deletion sets the
default. -/
theorem runEvents_sentences [BEq δ] [BEq φ] {fl : NmeaFloats δ φ} (equals : β → β → Bool)
    (get : DebugReports δ φ τ → List (Entry τ β)) (kind : DebugKind)
    (parse : Nat × (Uninit φ → List CString → β)) (default : Nat × β) (hclear : get .clear = [])
    (hset : ∀ uninit clock fields mCache, get (storeNmea fl uninit clock kind fields mCache)
      = setDebugItem equals (get mCache) (.new (clock parse.1) (parse.2 uninit fields)))
    (hother : ∀ uninit clock kind' fields mCache, kind' ≠ kind →
      get (storeNmea fl uninit clock kind' fields mCache) = get mCache)
    (hdefault : ∀ clock stale mCache,
      get (setDefaultGnssEngineStates fl clock stale mCache).debug
        = setDefaultIteminReport (get mCache.debug) (.new (clock default.1) default.2))
    (events : List (StatusEvent δ φ τ)) :
    get (runEvents fl events).debug
      = (runCalls equals [] (events.filterMap (sentenceCall kind parse default))).1 := by
  rw [← hclear]
  refine runEvents_report (fun mCache => get mCache.debug) _ (fun mCache event => ?_) events
    ⟨[], .clear⟩
  cases event with
  | nmea uninit clock data len =>
      unfold procEvent sentenceCall sentence setNmeaString
      dsimp only
      cases locNmeaIsDebug data len with
      | false => rfl
      | true =>
          simp only [if_true]
          cases debugKind data with
          | none => rfl
          | some kind' =>
              dsimp only [Option.map_some, Option.bind_some]
              by_cases hkind : kind' = kind
              · rw [if_pos hkind, hkind, hset, ← setIteminReport_fst]
                rfl
              · rw [if_neg hkind, hother _ _ _ _ _ hkind]
                rfl
  | position status time location =>
      unfold procEvent sentenceCall
      dsimp only
      split <;> rfl
  | deleteAidingData deleteAll clock stale =>
      unfold procEvent sentenceCall
      dsimp only
      cases deleteAll with
      | false => rfl
      | true =>
          simp only [if_true]
          rw [hdefault]
          rfl

/-- The calls of the positions. -/
theorem procEvent_location [BEq δ] [BEq φ] (fl : NmeaFloats δ φ) (mCache : StatusCache δ φ τ)
    (event : StatusEvent δ φ τ) :
    (procEvent fl mCache event).mLocation
      = (runCalls locationEquals mCache.mLocation (locationCall event).toList).1 := by
  cases event with
  | nmea uninit clock data len => rfl
  | position status time location =>
      unfold procEvent locationCall
      cases status <;> rfl
  | deleteAidingData deleteAll clock stale => cases deleteAll <;> rfl

/-- The newest elements of the reports whose items are compared by all their members. -/
theorem getReport_items [BEq δ] [BEq φ] (fl : NmeaFloats δ φ) (events : List (StatusEvent δ φ τ)) :
    (getReport (runEvents fl events)).mTimeAndClock = (history fl events).mTimeAndClock ∧
      (getReport (runEvents fl events)).mXtra = (history fl events).mXtra ∧
      (getReport (runEvents fl events)).mSvHealth = (history fl events).mSvHealth ∧
      (getReport (runEvents fl events)).mNavData = (history fl events).mNavData := by
  have htime : (runEvents fl events).debug.mTimeAndClock = _ :=
    runEvents_sentences (· == ·) DebugReports.mTimeAndClock .pqwm1
      (0, fun _ fields => timeAndClock (pqwm1Parser fl fields)) (1, defaultTimeAndClock) rfl
      (fun _ _ _ _ => rfl)
      (fun _ _ kind' _ _ hne => by cases kind' <;> first | rfl | exact absurd rfl hne)
      (fun _ _ _ => rfl) events
  have hxtra : (runEvents fl events).debug.mXtra = _ :=
    runEvents_sentences (· == ·) DebugReports.mXtra .pqwp3
      (0, fun u fields => pqwp3Parser u.mP3 fields) (7, defaultXtra) rfl (fun _ _ _ _ => rfl)
      (fun _ _ kind' _ _ hne => by cases kind' <;> first | rfl | exact absurd rfl hne)
      (fun _ _ _ => rfl) events
  have hhealth : (runEvents fl events).debug.mSvHealth = _ :=
    runEvents_sentences (· == ·) DebugReports.mSvHealth .pqwp5
      (0, fun u fields => pqwp5Parser u.mP5 fields) (9, defaultSvHealth) rfl (fun _ _ _ _ => rfl)
      (fun _ _ kind' _ _ hne => by cases kind' <;> first | rfl | exact absurd rfl hne)
      (fun _ _ _ => rfl) events
  have hnav : (runEvents fl events).debug.mNavData = _ :=
    runEvents_sentences (· == ·) DebugReports.mNavData .pqwp7
      (0, fun u fields => pqwp7Parser u.mP7 fields) (11, defaultNavData) rfl (fun _ _ _ _ => rfl)
      (fun _ _ kind' _ _ hne => by cases kind' <;> first | rfl | exact absurd rfl hne)
      (fun _ _ _ => rfl) events
  have hnewest : ∀ {γ : Type} [BEq γ] [LawfulBEq γ] (calls : List (ReportCall τ γ)),
      (runCalls (· == ·) [] calls).1.getLast?.map Entry.item = lastItem calls := by
    intro γ _ _ calls
    rw [getLast?_runCalls]
    exact Option.or_none
  unfold getReport history
  dsimp only
  rw [htime, hxtra, hhealth, hnav, hnewest, hnewest, hnewest, hnewest]
  exact ⟨rfl, rfl, rfl, rfl⟩

/-- After any events, the newest elements of the reports are those of the history. -/
theorem getReport_run [BEq δ] [BEq φ] [PartialEquivBEq δ] [PartialEquivBEq φ]
    (fl : NmeaFloats δ φ) (events : List (StatusEvent δ φ τ)) :
    getReport (runEvents fl events) = history fl events := by
  have hlocation : (runEvents fl events).mLocation.getLast?
      = lastKept locationEquals (events.filterMap locationCall) := by
    rw [← getLast?_runCalls_kept locationEquals_congr]
    exact congrArg _ (runEvents_report StatusCache.mLocation locationCall
      (procEvent_location fl) events _)
  have hbest : (runEvents fl events).debug.mBestPosition = _ :=
    runEvents_sentences bestPositionEquals DebugReports.mBestPosition .pqwp2
      (0, fun u fields => bestPosition (pqwp2Parser fl u.mP2 fields))
      (6, defaultBestPosition (fl.ofInt 0)) rfl (fun _ _ _ _ => rfl)
      (fun _ _ kind' _ _ hne => by cases kind' <;> first | rfl | exact absurd rfl hne)
      (fun _ _ _ => rfl) events
  have hkept : (getReport (runEvents fl events)).mBestPosition
      = (history fl events).mBestPosition := by
    unfold getReport history
    dsimp only
    rw [hbest, getLast?_runCalls_kept bestPositionEquals_congr]
  obtain ⟨htime, hxtra, hhealth, hnav⟩ := getReport_items fl events
  calc getReport (runEvents fl events)
      = ⟨(history fl events).mLocation, (history fl events).mBestPosition,
          (history fl events).mTimeAndClock, (history fl events).mXtra,
          (history fl events).mSvHealth, (history fl events).mNavData⟩ := by
        rw [← hkept, ← htime, ← hxtra, ← hhealth, ← hnav]
        exact congrArg (LatestReports.mk · _ _ _ _ _) hlocation
    _ = history fl events := rfl

/-! ### The satellites -/

/-- The first id of a constellation and the number of its satellites, and where they start in
`mNav`. -/
def svRange : GnssSvType → Nat × Nat × Nat
  | .gps => (1, 32, 0)
  | .glonass => (1, 24, 32)
  | .beidou => (1, 37, 56)
  | .galileo => (1, 36, 93)
  | .qzss => (193, 5, 129)
  | _ => (0, 0, 0)

/-- The bit of satellite `i` in the masks of the good and of the bad ones. -/
def healthBits (h : SystemStatusSvHealth) (i : Nat) : GnssSvType → Bool × Bool
  | .gps => (h.mGpsGoodMask.getLsbD i, h.mGpsBadMask.getLsbD i)
  | .glonass => (h.mGloGoodMask.getLsbD i, h.mGloBadMask.getLsbD i)
  | .beidou => (h.mBdsGoodMask.getLsbD i, h.mBdsBadMask.getLsbD i)
  | .galileo => (h.mGalGoodMask.getLsbD i, h.mGalBadMask.getLsbD i)
  | .qzss => (h.mQzssGoodMask.getLsbD i, h.mQzssBadMask.getLsbD i)
  | _ => (false, false)

/-- The bit of satellite `i` in the mask of the predictions, and their age. -/
def xtraBits (x : SystemStatusXtra) (i : Nat) : GnssSvType → Bool × BitVec 32
  | .gps => (x.mGpsXtraValid.getLsbD i, x.mGpsXtraAge)
  | .glonass => (x.mGloXtraValid.getLsbD i, x.mGloXtraAge)
  | .beidou => (x.mBdsXtraValid.getLsbD i, x.mBdsXtraAge)
  | .galileo => (x.mGalXtraValid.getLsbD i, x.mGalXtraAge)
  | .qzss => (x.mQzssXtraValid.getLsbD i, x.mQzssXtraAge)
  | _ => (false, 0)

/-- What is known of satellite `i` of a constellation. A satellite with both health bits is good. -/
def satellite (fl : NmeaFloats δ φ) (reports : LatestReports δ φ τ) (c : GnssSvType) (i : Nat) :
    GnssDebugSatelliteInfo φ :=
  let health := reports.mSvHealth.elim (false, false) fun h => healthBits h i c
  let xtra := reports.mXtra.elim (false, 0) fun x => xtraBits x i c
  let nav := reports.mNavData.bind fun n => n.mNav[(svRange c).2.2 + i]?
  { svid := (svRange c).1 + i
    constellation := c
    mEphemerisType := nav.elim 0 SystemStatusNav.mType
    mEphemerisSource := nav.elim 0 SystemStatusNav.mSource
    mEphemerisHealth := if health.1 then .good else if health.2 then .bad else .unknown
    ephemerisAgeSeconds := fl.ofInt (nav.elim 0 SystemStatusNav.mAgeSec)
    serverPredictionIsAvailable := xtra.1
    serverPredictionAgeSeconds := fl.ofInt xtra.2.toNat }

/-- A mask is tested with one bit. -/
theorem and_shiftLeft_one_ne_zero_iff (x : BitVec 64) {i : Nat} (hi : i < 64) :
    x &&& 1#64 <<< i ≠ 0 ↔ x.getLsbD i = true := by
  have hone : ∀ j, (1#64 <<< i).getLsbD j = decide (i = j) := by
    intro j
    rw [← BitVec.twoPow_eq, BitVec.getLsbD_twoPow]
    rw [decide_eq_true hi, Bool.true_and]
  rw [ReportSv.and_ne_zero_iff]
  constructor
  · rintro ⟨j, hx, hj⟩
    rw [hone, decide_eq_true_iff] at hj
    rwa [hj]
  · exact fun hx => ⟨i, hx, by rw [hone]; simp⟩

/-- The loop goes through the satellites of the block. -/
theorem satelliteLoop_eq (fl : NmeaFloats δ φ) (mNavData : Option SystemStatusNavData)
    (c : GnssSvType) {b : SatelliteBlock} (hb : b.svid_idx + b.svid_num ≤ svAllNum) (n i : Nat)
    (hn : b.svid_num = i + n) :
    satelliteLoop fl mNavData c b (n + 1) i
      = (List.range' i n).map (satelliteInfo fl mNavData c b) := by
  induction n generalizing i with
  | zero =>
      rw [satelliteLoop, if_neg (by omega)]
      rfl
  | succ n ih =>
      rw [satelliteLoop, if_pos (by omega), ih (i + 1) (by omega), List.range'_succ, List.map_cons]

/-- Where the satellites of a block are. -/
theorem satelliteBlock_range {h : Option SystemStatusSvHealth} {x : Option SystemStatusXtra}
    {c : GnssSvType} {b : SatelliteBlock} (hb : satelliteBlock h x c = some b) :
    svRange c = (b.svid_min, b.svid_num, b.svid_idx) ∧ b.svid_num ≤ 64 ∧
      b.svid_idx + b.svid_num ≤ svAllNum := by
  cases c <;> cases hb <;> exact ⟨rfl, by simp, by simp⟩

/-- The masks of a block. -/
theorem satelliteBlock_bits {h : Option SystemStatusSvHealth} {x : Option SystemStatusXtra}
    {c : GnssSvType} {b : SatelliteBlock} (hb : satelliteBlock h x c = some b) {i : Nat}
    (hi : i < 64) :
    (h.elim (false, false) fun h => healthBits h i c)
        = (b.eph_health_good_mask.getLsbD i, b.eph_health_bad_mask.getLsbD i) ∧
      (x.elim (false, 0) fun x => xtraBits x i c)
        = (b.server_prediction_available_mask.getLsbD i, b.server_prediction_age) := by
  cases c <;> cases hb <;> cases h <;> cases x <;> simp [healthBits, xtraBits, hi]

/-- What the loop adds for a satellite is what is known of it. -/
theorem satelliteInfo_eq (fl : NmeaFloats δ φ) (reports : LatestReports δ φ τ) {c : GnssSvType}
    {b : SatelliteBlock} (hb : satelliteBlock reports.mSvHealth reports.mXtra c = some b) {i : Nat}
    (hi : i < b.svid_num) :
    satelliteInfo fl reports.mNavData c b i = satellite fl reports c i := by
  obtain ⟨hrange, hnum, -⟩ := satelliteBlock_range hb
  have hlt : i < 64 := Nat.lt_of_lt_of_le hi hnum
  obtain ⟨hhealth, hxtra⟩ := satelliteBlock_bits hb hlt
  unfold satelliteInfo satellite
  simp only [and_shiftLeft_one_ne_zero_iff _ hlt, hhealth, hxtra, hrange]
  congr 1
  · exact Nat.add_comm _ _
  · cases reports.mNavData.bind fun n => n.mNav[b.svid_idx + i]? <;> rfl
  · cases b.server_prediction_available_mask.getLsbD i <;> rfl

/-- A constellation adds its satellites in order. -/
theorem convertSatelliteInfo_eq (fl : NmeaFloats δ φ) (reports : LatestReports δ φ τ)
    (c : GnssSvType) :
    convertSatelliteInfo fl c reports
      = (List.range (svRange c).2.1).map (satellite fl reports c) := by
  unfold convertSatelliteInfo
  cases hb : satelliteBlock reports.mSvHealth reports.mXtra c with
  | none => cases c <;> first | rfl | cases hb
  | some b =>
      obtain ⟨hrange, -, hall⟩ := satelliteBlock_range hb
      dsimp only
      rw [satelliteLoop_eq fl _ c hall _ 0 (Nat.zero_add _).symm, hrange, ← List.range_eq_range']
      refine List.map_congr_left fun i hi => satelliteInfo_eq fl reports hb ?_
      exact List.mem_range.mp hi

/-- One number of a range. -/
theorem filter_range_add (first n svid : Nat) :
    (List.range n).filter (fun i => first + i == svid)
      = if first ≤ svid ∧ svid < first + n then [svid - first] else [] := by
  by_cases hfirst : first ≤ svid
  · have hsame : (List.range n).filter (fun i => first + i == svid)
        = (List.range n).filter (fun i => i == svid - first) := by
      refine List.filter_congr fun i _ => Bool.eq_iff_iff.mpr ?_
      rw [beq_iff_eq, beq_iff_eq]
      omega
    rw [hsame, List.filter_beq]
    by_cases hlast : svid < first + n
    · have hmem : svid - first ∈ List.range n := List.mem_range.mpr (by omega)
      rw [if_pos ⟨hfirst, hlast⟩, List.count_eq_one_of_mem List.nodup_range hmem]
      rfl
    · have hnot : svid - first ∉ List.range n := fun hmem => by
        have hlt := List.mem_range.mp hmem
        omega
      rw [if_neg fun h => hlast h.2, List.count_eq_zero.mpr hnot]
      rfl
  · rw [if_neg fun h => hfirst h.1, List.filter_eq_nil_iff]
    intro i _
    rw [beq_iff_eq]
    omega

/-- Of each constellation and id the report has one satellite, or none when the id is out of its
range, with what the last masks say of it. -/
theorem satelliteInfo_filter (fl : ReportFloats δ φ) (reports : LatestReports δ φ τ)
    (c : GnssSvType) (svid : Nat) :
    (debugReport fl reports).mSatelliteInfo.filter
        (fun s => s.constellation == c && s.svid == svid)
      = if (svRange c).1 ≤ svid ∧ svid < (svRange c).1 + (svRange c).2.1 then
          [satellite fl.toNmeaFloats reports c (svid - (svRange c).1)]
        else [] := by
  have hone : ∀ d : GnssSvType,
      (convertSatelliteInfo fl.toNmeaFloats d reports).filter
          (fun s => s.constellation == c && s.svid == svid)
        = if d = c then
            if (svRange c).1 ≤ svid ∧ svid < (svRange c).1 + (svRange c).2.1 then
              [satellite fl.toNmeaFloats reports c (svid - (svRange c).1)]
            else []
          else [] := by
    intro d
    rw [convertSatelliteInfo_eq, List.filter_map]
    by_cases hd : d = c
    · subst hd
      have hpred : (fun s : GnssDebugSatelliteInfo φ => s.constellation == d && s.svid == svid)
          ∘ satellite fl.toNmeaFloats reports d = fun i => (svRange d).1 + i == svid := by
        funext i
        simp [satellite]
      rw [hpred, filter_range_add, if_pos rfl]
      split <;> rfl
    · have hpred : (fun s : GnssDebugSatelliteInfo φ => s.constellation == c && s.svid == svid)
          ∘ satellite fl.toNmeaFloats reports d = fun _ => false := by
        funext i
        simp [satellite, hd]
      rw [hpred, if_neg hd, List.filter_false]
      rfl
  unfold debugReport
  dsimp only
  rw [List.filter_flatMap]
  simp only [hone]
  cases c with
  | unknown => simp [debugConstellations, svRange]
  | sbas => simp [debugConstellations, svRange]
  | _ => simp [debugConstellations]

/-- After any events, the debug report has each satellite of the five constellations once and no
other, with what the last sentences about health, predictions and ephemeris say of it. -/
theorem getDebugReport_satellites [BEq δ] [BEq φ] (fl : ReportFloats δ φ)
    (events : List (StatusEvent δ φ τ)) (c : GnssSvType) (svid : Nat) :
    (getDebugReport fl (runEvents fl.toNmeaFloats events)).mSatelliteInfo.filter
        (fun s => s.constellation == c && s.svid == svid)
      = if (svRange c).1 ≤ svid ∧ svid < (svRange c).1 + (svRange c).2.1 then
          [satellite fl.toNmeaFloats (history fl.toNmeaFloats events) c (svid - (svRange c).1)]
        else [] := by
  obtain ⟨-, hxtra, hhealth, hnav⟩ := getReport_items fl.toNmeaFloats events
  have hsame : ∀ i, satellite fl.toNmeaFloats (getReport (runEvents fl.toNmeaFloats events)) c i
      = satellite fl.toNmeaFloats (history fl.toNmeaFloats events) c i := by
    intro i
    unfold satellite
    rw [hxtra, hhealth, hnav]
  unfold getDebugReport
  rw [satelliteInfo_filter, hsame]

end LocHal.Gnss.DebugReport
