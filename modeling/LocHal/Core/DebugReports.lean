import LocHal.Core.DebugParsers
import LocHal.Core.SystemStatus

/-!
# `LocHal.Core.DebugReports`: what a debug sentence stores

`SystemStatus::setNmeaString` hands a debug sentence to the parser of its kind and puts the record
into a report, or into four reports for `$PQWM1`. A parser cannot say that the sentence was too
short: the record is stored anyway. It is a cleared one for `$PQWM1`, and for the other kinds it is
what the memory of the parser held. So a truncated sentence leaves the reports alone only when they
hold that record already (`setNmeaString_truncated_iff`).

An entry of a report has the time at which it was made and the time at which it was last reported.
`setIteminReport` does not take a new reported time for a change; `Entry.unreported` leaves that
time out. `clock` gives the readings of the clock, and `==` on floating-point numbers need not be
reflexive. The reports of `mCache` that other events fill are left out.
-/

set_option autoImplicit false

namespace LocHal.Core

open LocHal.Util (CString)

variable {δ φ τ β γ : Type}

/-! ### The items -/

/-- `SystemStatusTimeAndClock`. -/
structure SystemStatusTimeAndClock where
  mGpsWeek : BitVec 16
  mGpsTowMs : BitVec 32
  mTimeValid : BitVec 8
  mTimeSource : BitVec 8
  mTimeUnc : Int
  mClockFreqBias : Int
  mClockFreqBiasUnc : Int
  mLeapSeconds : Int
  mLeapSecUnc : Int
  deriving DecidableEq

/-- `SystemStatusXoState`. -/
structure SystemStatusXoState where
  mXoState : BitVec 8
  deriving DecidableEq

/-- `SystemStatusRfAndParams`. -/
structure SystemStatusRfAndParams (δ : Type) where
  mPgaGain : Int
  mGpsBpAmpI : BitVec 32
  mGpsBpAmpQ : BitVec 32
  mAdcI : BitVec 32
  mAdcQ : BitVec 32
  mJammerGps : BitVec 32
  mJammerGlo : BitVec 32
  mJammerBds : BitVec 32
  mJammerGal : BitVec 32
  mAgcGps : δ
  mAgcGlo : δ
  mAgcBds : δ
  mAgcGal : δ
  mGloBpAmpI : BitVec 32
  mGloBpAmpQ : BitVec 32
  mBdsBpAmpI : BitVec 32
  mBdsBpAmpQ : BitVec 32
  mGalBpAmpI : BitVec 32
  mGalBpAmpQ : BitVec 32
  deriving DecidableEq

/-- `SystemStatusErrRecovery`. -/
structure SystemStatusErrRecovery where
  mRecErrorRecovery : BitVec 32
  deriving DecidableEq

/-- `SystemStatusBestPosition`. -/
structure SystemStatusBestPosition (φ : Type) where
  mValid : Bool
  mBestLat : φ
  mBestLon : φ
  mBestAlt : φ
  mBestHepe : φ
  mBestAltUnc : φ
  deriving DecidableEq

/-! The other items have the members of the record. -/

/-- `SystemStatusInjectedPosition`. -/
abbrev SystemStatusInjectedPosition (φ : Type) : Type := SystemStatusPQWP1 φ

/-- `SystemStatusXtra`. -/
abbrev SystemStatusXtra : Type := SystemStatusPQWP3

/-- `SystemStatusEphemeris`. -/
abbrev SystemStatusEphemeris : Type := SystemStatusPQWP4

/-- `SystemStatusSvHealth`. -/
abbrev SystemStatusSvHealth : Type := SystemStatusPQWP5

/-- `SystemStatusPdr`. -/
abbrev SystemStatusPdr : Type := SystemStatusPQWP6

/-- `SystemStatusNavData`. -/
abbrev SystemStatusNavData : Type := SystemStatusPQWP7

/-- `SystemStatusPositionFailure`. -/
abbrev SystemStatusPositionFailure : Type := SystemStatusPQWS1

/-! The constructors from a record. -/

/-- The `SystemStatusTimeAndClock` of a record. -/
def timeAndClock (nmea : SystemStatusPQWM1 δ) : SystemStatusTimeAndClock where
  mGpsWeek := nmea.mGpsWeek
  mGpsTowMs := nmea.mGpsTowMs
  mTimeValid := nmea.mTimeValid
  mTimeSource := nmea.mTimeSource
  mTimeUnc := nmea.mTimeUnc
  mClockFreqBias := nmea.mClockFreqBias
  mClockFreqBiasUnc := nmea.mClockFreqBiasUnc
  mLeapSeconds := nmea.mLeapSeconds
  mLeapSecUnc := nmea.mLeapSecUnc

/-- The `SystemStatusXoState` of a record. -/
def xoState (nmea : SystemStatusPQWM1 δ) : SystemStatusXoState where
  mXoState := nmea.mXoState

/-- The `SystemStatusRfAndParams` of a record. -/
def rfAndParams (nmea : SystemStatusPQWM1 δ) : SystemStatusRfAndParams δ where
  mPgaGain := nmea.mPgaGain
  mGpsBpAmpI := nmea.mGpsBpAmpI
  mGpsBpAmpQ := nmea.mGpsBpAmpQ
  mAdcI := nmea.mAdcI
  mAdcQ := nmea.mAdcQ
  mJammerGps := nmea.mJammerGps
  mJammerGlo := nmea.mJammerGlo
  mJammerBds := nmea.mJammerBds
  mJammerGal := nmea.mJammerGal
  mAgcGps := nmea.mAgcGps
  mAgcGlo := nmea.mAgcGlo
  mAgcBds := nmea.mAgcBds
  mAgcGal := nmea.mAgcGal
  mGloBpAmpI := nmea.mGloBpAmpI
  mGloBpAmpQ := nmea.mGloBpAmpQ
  mBdsBpAmpI := nmea.mBdsBpAmpI
  mBdsBpAmpQ := nmea.mBdsBpAmpQ
  mGalBpAmpI := nmea.mGalBpAmpI
  mGalBpAmpQ := nmea.mGalBpAmpQ

/-- The `SystemStatusErrRecovery` of a record. -/
def errRecovery (nmea : SystemStatusPQWM1 δ) : SystemStatusErrRecovery where
  mRecErrorRecovery := nmea.mRecErrorRecovery

/-- The `SystemStatusBestPosition` of a record. -/
def bestPosition (nmea : SystemStatusPQWP2 φ) : SystemStatusBestPosition φ where
  mValid := true
  mBestLat := nmea.mBestLat
  mBestLon := nmea.mBestLon
  mBestAlt := nmea.mBestAlt
  mBestHepe := nmea.mBestHepe
  mBestAltUnc := nmea.mBestAltUnc

/-! `equals` compares every member, but for `mValid` of a best position. -/

/-- `SystemStatusRfAndParams::equals`. -/
def rfAndParamsEquals [BEq δ] (a peer : SystemStatusRfAndParams δ) : Bool :=
  a.mPgaGain == peer.mPgaGain &&
    a.mGpsBpAmpI == peer.mGpsBpAmpI &&
    a.mGpsBpAmpQ == peer.mGpsBpAmpQ &&
    a.mAdcI == peer.mAdcI &&
    a.mAdcQ == peer.mAdcQ &&
    a.mJammerGps == peer.mJammerGps &&
    a.mJammerGlo == peer.mJammerGlo &&
    a.mJammerBds == peer.mJammerBds &&
    a.mJammerGal == peer.mJammerGal &&
    a.mAgcGps == peer.mAgcGps &&
    a.mAgcGlo == peer.mAgcGlo &&
    a.mAgcBds == peer.mAgcBds &&
    a.mAgcGal == peer.mAgcGal &&
    a.mGloBpAmpI == peer.mGloBpAmpI &&
    a.mGloBpAmpQ == peer.mGloBpAmpQ &&
    a.mBdsBpAmpI == peer.mBdsBpAmpI &&
    a.mBdsBpAmpQ == peer.mBdsBpAmpQ &&
    a.mGalBpAmpI == peer.mGalBpAmpI &&
    a.mGalBpAmpQ == peer.mGalBpAmpQ

/-- `SystemStatusInjectedPosition::equals`. -/
def injectedPositionEquals [BEq φ] (a peer : SystemStatusInjectedPosition φ) : Bool :=
  a.mEpiValidity == peer.mEpiValidity &&
    a.mEpiLat == peer.mEpiLat &&
    a.mEpiLon == peer.mEpiLon &&
    a.mEpiAlt == peer.mEpiAlt &&
    a.mEpiHepe == peer.mEpiHepe &&
    a.mEpiAltUnc == peer.mEpiAltUnc &&
    a.mEpiSrc == peer.mEpiSrc

/-- `SystemStatusBestPosition::equals`. -/
def bestPositionEquals [BEq φ] (a peer : SystemStatusBestPosition φ) : Bool :=
  a.mBestLat == peer.mBestLat &&
    a.mBestLon == peer.mBestLon &&
    a.mBestAlt == peer.mBestAlt &&
    a.mBestHepe == peer.mBestHepe &&
    a.mBestAltUnc == peer.mBestAltUnc

/-! ### The reports -/

/-- An item of a report, with the times of `SystemStatusItemBase`. -/
@[ext]
structure Entry (τ β : Type) where
  mUtcTime : τ
  mUtcReported : τ
  item : β
  deriving DecidableEq

/-- A new item, made at the time. -/
def Entry.new (time : τ) (item : β) : Entry τ β := ⟨time, time, item⟩

/-- The entry without the time at which it was last reported. -/
def Entry.unreported (e : Entry τ β) : Entry τ β := { e with mUtcReported := e.mUtcTime }

/-- `SystemStatus::setIteminReport`, for an item that does not override `collate`. -/
def setDebugItem (equals : β → β → Bool) (report : List (Entry τ β)) (s : Entry τ β) :
    List (Entry τ β) :=
  let pushed :=
    let report' := report ++ [s]
    if maxItem < report'.length then report'.tail else report'
  match report.getLast? with
  | none => pushed
  | some last =>
      if equals last.item s.item then
        report.dropLast ++ [{ last with mUtcReported := s.mUtcReported }]
      else pushed

/-- The reports of `mCache` for the debug sentences. -/
@[ext]
structure DebugReports (δ φ τ : Type) where
  mTimeAndClock : List (Entry τ SystemStatusTimeAndClock)
  mXoState : List (Entry τ SystemStatusXoState)
  mRfAndParams : List (Entry τ (SystemStatusRfAndParams δ))
  mErrRecovery : List (Entry τ SystemStatusErrRecovery)
  mInjectedPosition : List (Entry τ (SystemStatusInjectedPosition φ))
  mBestPosition : List (Entry τ (SystemStatusBestPosition φ))
  mXtra : List (Entry τ SystemStatusXtra)
  mEphemeris : List (Entry τ SystemStatusEphemeris)
  mSvHealth : List (Entry τ SystemStatusSvHealth)
  mPdr : List (Entry τ SystemStatusPdr)
  mNavData : List (Entry τ SystemStatusNavData)
  mPositionFailure : List (Entry τ SystemStatusPositionFailure)

/-- `mCache` after the constructor of `SystemStatus`. -/
def DebugReports.clear : DebugReports δ φ τ := ⟨[], [], [], [], [], [], [], [], [], [], [], []⟩

/-- The reports, as `view` shows the entries. -/
def DebugReports.map (view : {β : Type} → Entry τ β → Entry τ β) (mCache : DebugReports δ φ τ) :
    DebugReports δ φ τ where
  mTimeAndClock := mCache.mTimeAndClock.map view
  mXoState := mCache.mXoState.map view
  mRfAndParams := mCache.mRfAndParams.map view
  mErrRecovery := mCache.mErrRecovery.map view
  mInjectedPosition := mCache.mInjectedPosition.map view
  mBestPosition := mCache.mBestPosition.map view
  mXtra := mCache.mXtra.map view
  mEphemeris := mCache.mEphemeris.map view
  mSvHealth := mCache.mSvHealth.map view
  mPdr := mCache.mPdr.map view
  mNavData := mCache.mNavData.map view
  mPositionFailure := mCache.mPositionFailure.map view

/-! ### The sentences -/

/-- The kinds of debug sentences that have a parser. -/
inductive DebugKind where
  | pqwm1
  | pqwp1
  | pqwp2
  | pqwp3
  | pqwp4
  | pqwp5
  | pqwp6
  | pqwp7
  | pqws1
  deriving DecidableEq, Repr

/-- The comparisons of `setNmeaString` with `strncmp`. -/
def debugKind (data : CString) : Option DebugKind :=
  if data.take 6 = "$PQWM1".toList then some .pqwm1
  else if data.take 6 = "$PQWP1".toList then some .pqwp1
  else if data.take 6 = "$PQWP2".toList then some .pqwp2
  else if data.take 6 = "$PQWP3".toList then some .pqwp3
  else if data.take 6 = "$PQWP4".toList then some .pqwp4
  else if data.take 6 = "$PQWP5".toList then some .pqwp5
  else if data.take 6 = "$PQWP6".toList then some .pqwp6
  else if data.take 6 = "$PQWP7".toList then some .pqwp7
  else if data.take 6 = "$PQWS1".toList then some .pqws1
  else none

/-- The number of fields that the parser requires. -/
def DebugKind.requiredFields : DebugKind → Nat
  | .pqwm1 => 23
  | .pqwp1 => 9
  | .pqwp2 => 7
  | .pqwp3 => 13
  | .pqwp4 => 7
  | .pqwp5 => 17
  | .pqwp6 => 3
  | .pqwp7 => 2 + svAllNum * 3
  | .pqws1 => 4

/-- What the memory of the parsers holds before they clear it. -/
structure Uninit (φ : Type) where
  mP1 : SystemStatusPQWP1 φ
  mP2 : SystemStatusPQWP2 φ
  mP3 : SystemStatusPQWP3
  mP4 : SystemStatusPQWP4
  mP5 : SystemStatusPQWP5
  mP6 : SystemStatusPQWP6
  mP7 : SystemStatusPQWP7
  mS1 : SystemStatusPQWS1

section
variable [BEq δ] [BEq φ]

/-- The part of `setNmeaString` under the lock. -/
def storeNmea (fl : NmeaFloats δ φ) (uninit : Uninit φ) (clock : Nat → τ) (kind : DebugKind)
    (fields : List CString) (mCache : DebugReports δ φ τ) : DebugReports δ φ τ :=
  match kind with
  | .pqwm1 =>
      let s := pqwm1Parser fl fields
      { mCache with
        mTimeAndClock :=
          setDebugItem (· == ·) mCache.mTimeAndClock (.new (clock 0) (timeAndClock s))
        mXoState := setDebugItem (· == ·) mCache.mXoState (.new (clock 1) (xoState s))
        mRfAndParams :=
          setDebugItem rfAndParamsEquals mCache.mRfAndParams (.new (clock 2) (rfAndParams s))
        mErrRecovery := setDebugItem (· == ·) mCache.mErrRecovery (.new (clock 3) (errRecovery s)) }
  | .pqwp1 =>
      let s := pqwp1Parser fl uninit.mP1 fields
      { mCache with
        mInjectedPosition :=
          setDebugItem injectedPositionEquals mCache.mInjectedPosition (.new (clock 0) s) }
  | .pqwp2 =>
      let s := bestPosition (pqwp2Parser fl uninit.mP2 fields)
      { mCache with
        mBestPosition := setDebugItem bestPositionEquals mCache.mBestPosition (.new (clock 0) s) }
  | .pqwp3 =>
      let s := pqwp3Parser uninit.mP3 fields
      { mCache with
        mXtra := setDebugItem (· == ·) mCache.mXtra (.new (clock 0) s) }
  | .pqwp4 =>
      let s := pqwp4Parser uninit.mP4 fields
      { mCache with
        mEphemeris := setDebugItem (· == ·) mCache.mEphemeris (.new (clock 0) s) }
  | .pqwp5 =>
      let s := pqwp5Parser uninit.mP5 fields
      { mCache with
        mSvHealth := setDebugItem (· == ·) mCache.mSvHealth (.new (clock 0) s) }
  | .pqwp6 =>
      let s := pqwp6Parser uninit.mP6 fields
      { mCache with
        mPdr := setDebugItem (· == ·) mCache.mPdr (.new (clock 0) s) }
  | .pqwp7 =>
      let s := pqwp7Parser uninit.mP7 fields
      { mCache with
        mNavData := setDebugItem (· == ·) mCache.mNavData (.new (clock 0) s) }
  | .pqws1 =>
      let s := pqws1Parser uninit.mS1 fields
      { mCache with
        mPositionFailure := setDebugItem (· == ·) mCache.mPositionFailure (.new (clock 0) s) }

/-- `SystemStatus::setNmeaString`. -/
def setNmeaString (fl : NmeaFloats δ φ) (uninit : Uninit φ) (clock : Nat → τ) (data : CString)
    (len : Nat) (mCache : DebugReports δ φ τ) : Bool × DebugReports δ φ τ :=
  if locNmeaIsDebug data len then
    -- `strlcpy` leaves `NMEA_MAXSIZE` characters at most
    let buf := data.take 4096
    match debugKind data with
    | some kind => (true, storeNmea fl uninit clock kind (mField buf len) mCache)
    -- the other kinds have no parser
    | none => (true, mCache)
  else (false, mCache)

end

end LocHal.Core
