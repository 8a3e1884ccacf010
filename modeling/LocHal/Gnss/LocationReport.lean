import LocHal.Gnss.DebugReport
import LocHal.Util.LocNmeaPos
import Mathlib.Tactic.IntervalCases

/-!
# `LocHal.Gnss.LocationReport`: a position on its way to the framework

A position of the modem is a `UlpLocation` and a `GpsLocationExtended`, with a mask that says which
members are valid. `GnssAdapter::convertLocation` makes a `Location` of it, and
`convertGnssLocation` makes a `GnssLocation` of that for the HIDL interface.

`convertGnssLocation_flags` says what the two conversions do to the masks together: a member is
valid for the framework when the modem says so.

`ShowsPosition`, `ShowsExtension` and `ShowsLocation` say what each conversion is for, member by
member and without the conversion. A member comes with the bit that says that it is valid, and the
two have to stay together (`Conveys`): a valid member arrives as it was, and one that is not valid
arrives as zero and marked so. The bits have different numbers in the masks, and these are the
numbers of the interface. The three theorems `showsPosition_convertLocation`,
`showsExtension_convertLocationInfo` and `showsLocation_convertGnssLocation` say that the
conversions meet this.
-/

set_option autoImplicit false

namespace LocHal.Gnss.LocationReport

open LocHal.Gnss.DebugReport (DebugPosition LocSessStatus)
open LocHal.Util.LocNmea (GnssSvUsedInPosition)

variable {δ φ : Type}

/-! ### The position of the modem -/

/-- `LocGpsLocation`, in a `UlpLocation`. -/
structure UlpLocation (δ φ : Type) where
  flags : BitVec 16
  latitude : δ
  longitude : δ
  altitude : δ
  speed : φ
  bearing : φ
  accuracy : φ
  timestamp : BitVec 64

/-- `LocReliability`. -/
inductive LocReliability where
  | notSet
  | veryLow
  | low
  | medium
  | high
  deriving DecidableEq, Repr

/-- `GpsLocationExtended`. -/
structure GpsLocationExtended (φ : Type) where
  flags : BitVec 32
  altitudeMeanSeaLevel : φ
  pdop : φ
  hdop : φ
  vdop : φ
  magneticDeviation : φ
  vert_unc : φ
  speed_unc : φ
  bearing_unc : φ
  horizontal_reliability : LocReliability
  vertical_reliability : LocReliability
  horUncEllipseSemiMajor : φ
  horUncEllipseSemiMinor : φ
  horUncEllipseOrientAzimuth : φ
  gnss_sv_used_ids : GnssSvUsedInPosition
  navSolutionMask : BitVec 32
  tech_mask : BitVec 32

/-- The members that a debug report shows. -/
def debugPosition (ulpLocation : UlpLocation δ φ) (locationExtended : GpsLocationExtended φ) :
    DebugPosition δ φ where
  latitude := ulpLocation.latitude
  longitude := ulpLocation.longitude
  altitude := ulpLocation.altitude
  speed := ulpLocation.speed
  bearing := ulpLocation.bearing
  accuracy := ulpLocation.accuracy
  vert_unc := locationExtended.vert_unc
  speed_unc := locationExtended.speed_unc
  bearing_unc := locationExtended.bearing_unc

/-- What the NMEA sentences show of the location. -/
def nmeaLocation (ulpLocation : UlpLocation δ φ) : Util.LocNmea.GpsLocation φ δ where
  hasLatLong := ulpLocation.flags.getLsbD 0
  hasAltitude := ulpLocation.flags.getLsbD 1
  hasSpeed := ulpLocation.flags.getLsbD 2
  hasBearing := ulpLocation.flags.getLsbD 3
  latitude := ulpLocation.latitude
  longitude := ulpLocation.longitude
  altitude := ulpLocation.altitude
  speed := ulpLocation.speed
  bearing := ulpLocation.bearing
  timestamp := ulpLocation.timestamp.toInt

/-- What the NMEA sentences show of the extension. -/
def nmeaExtended (locationExtended : GpsLocationExtended φ) :
    Util.LocNmea.GpsLocationExtended φ where
  hasGnssSvUsedData := locationExtended.flags.getLsbD 12
  hasDop := locationExtended.flags.getLsbD 0
  hasMagDev := locationExtended.flags.getLsbD 2
  hasAltitudeMeanSeaLevel := locationExtended.flags.getLsbD 1
  gnssSvUsedIds := locationExtended.gnss_sv_used_ids
  pdop := locationExtended.pdop
  hdop := locationExtended.hdop
  vdop := locationExtended.vdop
  magneticDeviation := locationExtended.magneticDeviation
  altitudeMeanSeaLevel := locationExtended.altitudeMeanSeaLevel
  sbasCorrectionIono := locationExtended.navSolutionMask.getLsbD 0
  sensorsOnly := locationExtended.tech_mask == 8

/-! ### The location of the clients -/

/-- `Location`. -/
structure Location (δ φ : Type) where
  flags : BitVec 16
  timestamp : BitVec 64
  latitude : δ
  longitude : δ
  altitude : δ
  speed : φ
  bearing : φ
  accuracy : φ
  verticalAccuracy : φ
  speedAccuracy : φ
  bearingAccuracy : φ
  techMask : BitVec 16
  deriving DecidableEq

/-- A bit of an output mask, when a bit of an input mask is set. -/
def copyBit {v : Nat} (w : Nat) (mask : BitVec v) (i j : Nat) : BitVec w :=
  if mask.getLsbD i then BitVec.twoPow w j else 0

/-- A member that is written when a bit is set, on memory that is zero. -/
def orZero {v : Nat} {α : Type} (zero : α) (mask : BitVec v) (i : Nat) (value : α) : α :=
  if mask.getLsbD i then value else zero

/-- `GnssAdapter::convertLocation`. -/
def convertLocation (zero : δ) (zerof : φ) (locGpsLocation : UlpLocation δ φ)
    (locationExtended : GpsLocationExtended φ) (techMask : BitVec 32) : Location δ φ :=
  let flags := locGpsLocation.flags
  let extended := locationExtended.flags
  { flags := copyBit 16 flags 0 0 ||| copyBit 16 flags 1 1 ||| copyBit 16 flags 2 2
      ||| copyBit 16 flags 3 3 ||| copyBit 16 flags 4 4 ||| copyBit 16 extended 4 5
      ||| copyBit 16 extended 5 6 ||| copyBit 16 extended 6 7
    timestamp := locGpsLocation.timestamp
    latitude := orZero zero flags 0 locGpsLocation.latitude
    longitude := orZero zero flags 0 locGpsLocation.longitude
    altitude := orZero zero flags 1 locGpsLocation.altitude
    speed := orZero zerof flags 2 locGpsLocation.speed
    bearing := orZero zerof flags 3 locGpsLocation.bearing
    accuracy := orZero zerof flags 4 locGpsLocation.accuracy
    verticalAccuracy := orZero zerof extended 4 locationExtended.vert_unc
    speedAccuracy := orZero zerof extended 5 locationExtended.speed_unc
    bearingAccuracy := orZero zerof extended 6 locationExtended.bearing_unc
    -- satellite, cell, wifi and sensors
    techMask := copyBit 16 techMask 0 0 ||| copyBit 16 techMask 1 1 ||| copyBit 16 techMask 2 2
      ||| copyBit 16 techMask 3 3 }

/-- `GnssLocationInfoNotification`. The reliabilities have the same names as in the extension. -/
structure GnssLocationInfo (φ : Type) where
  flags : BitVec 32
  altitudeMeanSeaLevel : φ
  pdop : φ
  hdop : φ
  vdop : φ
  magneticDeviation : φ
  horReliability : LocReliability
  verReliability : LocReliability
  horUncEllipseSemiMajor : φ
  horUncEllipseSemiMinor : φ
  horUncEllipseOrientAzimuth : φ
  deriving DecidableEq

/-- `GnssAdapter::convertLocationInfo`, on a notification that is zero. -/
def convertLocationInfo (zerof : φ) (locationExtended : GpsLocationExtended φ) :
    GnssLocationInfo φ :=
  let flags := locationExtended.flags
  { flags := copyBit 32 flags 1 0 ||| copyBit 32 flags 0 1 ||| copyBit 32 flags 2 2
      ||| copyBit 32 flags 7 3 ||| copyBit 32 flags 8 4 ||| copyBit 32 flags 9 5
      ||| copyBit 32 flags 10 6 ||| copyBit 32 flags 11 7
    altitudeMeanSeaLevel := orZero zerof flags 1 locationExtended.altitudeMeanSeaLevel
    pdop := orZero zerof flags 0 locationExtended.pdop
    hdop := orZero zerof flags 0 locationExtended.hdop
    vdop := orZero zerof flags 0 locationExtended.vdop
    magneticDeviation := orZero zerof flags 2 locationExtended.magneticDeviation
    horReliability := orZero .notSet flags 7 locationExtended.horizontal_reliability
    verReliability := orZero .notSet flags 8 locationExtended.vertical_reliability
    horUncEllipseSemiMajor := orZero zerof flags 9 locationExtended.horUncEllipseSemiMajor
    horUncEllipseSemiMinor := orZero zerof flags 10 locationExtended.horUncEllipseSemiMinor
    horUncEllipseOrientAzimuth :=
      orZero zerof flags 11 locationExtended.horUncEllipseOrientAzimuth }

/-! ### The location of the framework -/

/-- `GnssLocation`. The accuracies are `float`. -/
structure GnssLocation (δ φ : Type) where
  gnssLocationFlags : BitVec 16
  latitudeDegrees : δ
  longitudeDegrees : δ
  altitudeMeters : δ
  speedMetersPerSec : φ
  bearingDegrees : φ
  horizontalAccuracyMeters : φ
  verticalAccuracyMeters : φ
  speedAccuracyMetersPerSecond : φ
  bearingAccuracyDegrees : φ
  timestamp : BitVec 64
  deriving DecidableEq

/-- `convertGnssLocation`, to the framework. The bits of both masks have the same numbers. -/
def convertGnssLocation («in» : Location δ φ) : GnssLocation δ φ where
  gnssLocationFlags := (List.range 8).foldl
    (fun flags i => flags ||| copyBit 16 «in».flags i i) 0
  latitudeDegrees := «in».latitude
  longitudeDegrees := «in».longitude
  altitudeMeters := «in».altitude
  speedMetersPerSec := «in».speed
  bearingDegrees := «in».bearing
  horizontalAccuracyMeters := «in».accuracy
  verticalAccuracyMeters := «in».verticalAccuracy
  speedAccuracyMetersPerSecond := «in».speedAccuracy
  bearingAccuracyDegrees := «in».bearingAccuracy
  timestamp := «in».timestamp

/-! ### The masks -/

theorem getLsbD_copyBit {v w : Nat} (mask : BitVec v) {i j : Nat} (hj : j < w) (b : Nat) :
    (copyBit w mask i j).getLsbD b = (mask.getLsbD i && decide (b = j)) := by
  unfold copyBit
  cases mask.getLsbD i with
  | false => simp
  | true => simp [BitVec.getLsbD_twoPow, hj, eq_comm]

/-- Bit `b` of the mask of a location. -/
def validBit (ulp : BitVec 16) (extended : BitVec 32) (b : Nat) : Bool :=
  if b < 5 then ulp.getLsbD b else if b < 8 then extended.getLsbD (b - 1) else false

theorem getLsbD_convertLocation (zero : δ) (zerof : φ) (locGpsLocation : UlpLocation δ φ)
    (locationExtended : GpsLocationExtended φ) (techMask : BitVec 32) (b : Nat) :
    (convertLocation zero zerof locGpsLocation locationExtended techMask).flags.getLsbD b
      = validBit locGpsLocation.flags locationExtended.flags b := by
  unfold convertLocation validBit
  simp only [BitVec.getLsbD_or]
  simp (disch := decide) only [getLsbD_copyBit]
  by_cases hb : b < 8
  · interval_cases b <;> simp
  · rw [if_neg (by omega), if_neg hb]
    simp only [Bool.or_eq_false_iff, Bool.and_eq_false_iff, decide_eq_false_iff_not]
    refine ⟨⟨⟨⟨⟨⟨⟨?_, ?_⟩, ?_⟩, ?_⟩, ?_⟩, ?_⟩, ?_⟩, ?_⟩ <;> exact Or.inr (by omega)

/-- The mask of the framework has the eight bits that it knows. -/
theorem getLsbD_convertGnssLocation (l : Location δ φ) (b : Nat) :
    (convertGnssLocation l).gnssLocationFlags.getLsbD b
      = (decide (b < 8) && l.flags.getLsbD b) := by
  unfold convertGnssLocation
  simp only [List.range, List.range.loop, List.foldl_cons, List.foldl_nil, BitVec.getLsbD_or]
  simp (disch := decide) only [getLsbD_copyBit]
  by_cases hb : b < 8
  · interval_cases b <;> simp
  · rw [decide_eq_false hb, Bool.false_and]
    simp only [Bool.or_eq_false_iff, Bool.and_eq_false_iff, decide_eq_false_iff_not]
    refine ⟨⟨⟨⟨⟨⟨⟨⟨BitVec.getLsbD_zero, ?_⟩, ?_⟩, ?_⟩, ?_⟩, ?_⟩, ?_⟩, ?_⟩, ?_⟩ <;>
      exact Or.inr (by omega)

/-- The mask of the framework is the mask of the location. -/
theorem convertGnssLocation_flags (zero : δ) (zerof : φ) (locGpsLocation : UlpLocation δ φ)
    (locationExtended : GpsLocationExtended φ) (techMask : BitVec 32) (b : Nat) :
    (convertGnssLocation (convertLocation zero zerof locGpsLocation locationExtended
        techMask)).gnssLocationFlags.getLsbD b
      = validBit locGpsLocation.flags locationExtended.flags b := by
  rw [getLsbD_convertGnssLocation, getLsbD_convertLocation]
  by_cases hb : b < 8
  · rw [decide_eq_true hb, Bool.true_and]
  · rw [decide_eq_false hb, Bool.false_and, validBit, if_neg (by omega), if_neg hb]


theorem getLsbD_convertLocation_techMask (zero : δ) (zerof : φ)
    (locGpsLocation : UlpLocation δ φ) (locationExtended : GpsLocationExtended φ)
    (techMask : BitVec 32) (b : Nat) :
    (convertLocation zero zerof locGpsLocation locationExtended techMask).techMask.getLsbD b
      = (decide (b < 4) && techMask.getLsbD b) := by
  unfold convertLocation
  simp only [BitVec.getLsbD_or]
  simp (disch := decide) only [getLsbD_copyBit]
  by_cases hb : b < 4
  · interval_cases b <;> simp
  · rw [decide_eq_false hb, Bool.false_and]
    simp only [Bool.or_eq_false_iff, Bool.and_eq_false_iff, decide_eq_false_iff_not]
    refine ⟨⟨⟨?_, ?_⟩, ?_⟩, ?_⟩ <;> exact Or.inr (by omega)

/-- The bit of the extension that bit `b` of an information copies. The first two are in the other
order, and between the third and the fourth there are four bits of the uncertainties. -/
def infoSource (b : Nat) : Nat :=
  if b = 0 then 1 else if b = 1 then 0 else if b = 2 then 2 else b + 4

theorem getLsbD_convertLocationInfo (zerof : φ) (locationExtended : GpsLocationExtended φ)
    (b : Nat) :
    (convertLocationInfo zerof locationExtended).flags.getLsbD b
      = (decide (b < 8) && locationExtended.flags.getLsbD (infoSource b)) := by
  unfold convertLocationInfo infoSource
  simp only [BitVec.getLsbD_or]
  simp (disch := decide) only [getLsbD_copyBit]
  by_cases hb : b < 8
  · interval_cases b <;> simp
  · rw [decide_eq_false hb, Bool.false_and]
    simp only [Bool.or_eq_false_iff, Bool.and_eq_false_iff, decide_eq_false_iff_not]
    refine ⟨⟨⟨⟨⟨⟨⟨?_, ?_⟩, ?_⟩, ?_⟩, ?_⟩, ?_⟩, ?_⟩, ?_⟩ <;> exact Or.inr (by omega)

/-! ### What a location says -/

/-- A member with its bit. It arrives valid exactly when it was valid, and then with its value;
otherwise it is zero. -/
structure Conveys {α : Type} (zero : α) (valid : Bool) (given : α) (valid' : Bool) (shown : α) :
    Prop where
  bit : valid' = valid
  value : valid = true → shown = given
  absent : valid = false → shown = zero

theorem conveys_orZero {v : Nat} {α : Type} {zero : α} {mask : BitVec v} {i : Nat} {given : α}
    {valid' : Bool} (hbit : valid' = mask.getLsbD i) :
    Conveys zero (mask.getLsbD i) given valid' (orZero zero mask i given) where
  bit := hbit
  value := fun h => if_pos h
  absent := fun h => if_neg (by rw [h]; exact Bool.false_ne_true)

/-- A location says what the modem says of a position. The technologies are those of the first four
bits, which have the same numbers. -/
structure ShowsPosition (zero : δ) (zerof : φ) (p : UlpLocation δ φ) (e : GpsLocationExtended φ)
    (techMask : BitVec 32) (l : Location δ φ) : Prop where
  latitude : Conveys zero (p.flags.getLsbD 0) p.latitude (l.flags.getLsbD 0) l.latitude
  longitude : Conveys zero (p.flags.getLsbD 0) p.longitude (l.flags.getLsbD 0) l.longitude
  altitude : Conveys zero (p.flags.getLsbD 1) p.altitude (l.flags.getLsbD 1) l.altitude
  speed : Conveys zerof (p.flags.getLsbD 2) p.speed (l.flags.getLsbD 2) l.speed
  bearing : Conveys zerof (p.flags.getLsbD 3) p.bearing (l.flags.getLsbD 3) l.bearing
  accuracy : Conveys zerof (p.flags.getLsbD 4) p.accuracy (l.flags.getLsbD 4) l.accuracy
  verticalAccuracy :
    Conveys zerof (e.flags.getLsbD 4) e.vert_unc (l.flags.getLsbD 5) l.verticalAccuracy
  speedAccuracy :
    Conveys zerof (e.flags.getLsbD 5) e.speed_unc (l.flags.getLsbD 6) l.speedAccuracy
  bearingAccuracy :
    Conveys zerof (e.flags.getLsbD 6) e.bearing_unc (l.flags.getLsbD 7) l.bearingAccuracy
  noOther : ∀ b, 8 ≤ b → l.flags.getLsbD b = false
  timestamp : l.timestamp = p.timestamp
  technologies : ∀ b, l.techMask.getLsbD b = true ↔ b < 4 ∧ techMask.getLsbD b = true

/-- `convertLocation` shows the position. -/
theorem showsPosition_convertLocation (zero : δ) (zerof : φ) (p : UlpLocation δ φ)
    (e : GpsLocationExtended φ) (techMask : BitVec 32) :
    ShowsPosition zero zerof p e techMask (convertLocation zero zerof p e techMask) where
  latitude := conveys_orZero (getLsbD_convertLocation _ _ _ _ _ 0)
  longitude := conveys_orZero (getLsbD_convertLocation _ _ _ _ _ 0)
  altitude := conveys_orZero (getLsbD_convertLocation _ _ _ _ _ 1)
  speed := conveys_orZero (getLsbD_convertLocation _ _ _ _ _ 2)
  bearing := conveys_orZero (getLsbD_convertLocation _ _ _ _ _ 3)
  accuracy := conveys_orZero (getLsbD_convertLocation _ _ _ _ _ 4)
  verticalAccuracy := conveys_orZero (getLsbD_convertLocation _ _ _ _ _ 5)
  speedAccuracy := conveys_orZero (getLsbD_convertLocation _ _ _ _ _ 6)
  bearingAccuracy := conveys_orZero (getLsbD_convertLocation _ _ _ _ _ 7)
  noOther := fun b hb => by
    rw [getLsbD_convertLocation, validBit, if_neg (by omega), if_neg (by omega)]
  timestamp := rfl
  technologies := fun b => by
    rw [getLsbD_convertLocation_techMask, Bool.and_eq_true, decide_eq_true_eq]

/-- An information says what the modem says in the extension of a position. -/
structure ShowsExtension (zerof : φ) (e : GpsLocationExtended φ) (i : GnssLocationInfo φ) :
    Prop where
  altitudeMeanSeaLevel : Conveys zerof (e.flags.getLsbD 1) e.altitudeMeanSeaLevel
    (i.flags.getLsbD 0) i.altitudeMeanSeaLevel
  pdop : Conveys zerof (e.flags.getLsbD 0) e.pdop (i.flags.getLsbD 1) i.pdop
  hdop : Conveys zerof (e.flags.getLsbD 0) e.hdop (i.flags.getLsbD 1) i.hdop
  vdop : Conveys zerof (e.flags.getLsbD 0) e.vdop (i.flags.getLsbD 1) i.vdop
  magneticDeviation :
    Conveys zerof (e.flags.getLsbD 2) e.magneticDeviation (i.flags.getLsbD 2) i.magneticDeviation
  horReliability : Conveys .notSet (e.flags.getLsbD 7) e.horizontal_reliability
    (i.flags.getLsbD 3) i.horReliability
  verReliability : Conveys .notSet (e.flags.getLsbD 8) e.vertical_reliability
    (i.flags.getLsbD 4) i.verReliability
  horUncEllipseSemiMajor : Conveys zerof (e.flags.getLsbD 9) e.horUncEllipseSemiMajor
    (i.flags.getLsbD 5) i.horUncEllipseSemiMajor
  horUncEllipseSemiMinor : Conveys zerof (e.flags.getLsbD 10) e.horUncEllipseSemiMinor
    (i.flags.getLsbD 6) i.horUncEllipseSemiMinor
  horUncEllipseOrientAzimuth : Conveys zerof (e.flags.getLsbD 11) e.horUncEllipseOrientAzimuth
    (i.flags.getLsbD 7) i.horUncEllipseOrientAzimuth
  noOther : ∀ b, 8 ≤ b → i.flags.getLsbD b = false

/-- `convertLocationInfo` shows the extension. -/
theorem showsExtension_convertLocationInfo (zerof : φ) (e : GpsLocationExtended φ) :
    ShowsExtension zerof e (convertLocationInfo zerof e) where
  altitudeMeanSeaLevel := conveys_orZero (getLsbD_convertLocationInfo _ _ 0)
  pdop := conveys_orZero (getLsbD_convertLocationInfo _ _ 1)
  hdop := conveys_orZero (getLsbD_convertLocationInfo _ _ 1)
  vdop := conveys_orZero (getLsbD_convertLocationInfo _ _ 1)
  magneticDeviation := conveys_orZero (getLsbD_convertLocationInfo _ _ 2)
  horReliability := conveys_orZero (getLsbD_convertLocationInfo _ _ 3)
  verReliability := conveys_orZero (getLsbD_convertLocationInfo _ _ 4)
  horUncEllipseSemiMajor := conveys_orZero (getLsbD_convertLocationInfo _ _ 5)
  horUncEllipseSemiMinor := conveys_orZero (getLsbD_convertLocationInfo _ _ 6)
  horUncEllipseOrientAzimuth := conveys_orZero (getLsbD_convertLocationInfo _ _ 7)
  noOther := fun b hb => by
    rw [getLsbD_convertLocationInfo, decide_eq_false (by omega), Bool.false_and]

/-- A location of the framework says what a location of the clients says. The members have no
zeroes here, so that a member that is not valid is passed on as well. The framework knows eight
bits, and they have the same numbers. -/
structure ShowsLocation (l : Location δ φ) (g : GnssLocation δ φ) : Prop where
  flags : ∀ b, g.gnssLocationFlags.getLsbD b = true ↔ b < 8 ∧ l.flags.getLsbD b = true
  place : (g.latitudeDegrees, g.longitudeDegrees, g.altitudeMeters) =
    (l.latitude, l.longitude, l.altitude)
  motion : (g.speedMetersPerSec, g.bearingDegrees) = (l.speed, l.bearing)
  accuracy : (g.horizontalAccuracyMeters, g.verticalAccuracyMeters) =
    (l.accuracy, l.verticalAccuracy)
  motionAccuracy : (g.speedAccuracyMetersPerSecond, g.bearingAccuracyDegrees) =
    (l.speedAccuracy, l.bearingAccuracy)
  timestamp : g.timestamp = l.timestamp

/-- `convertGnssLocation` shows the location. -/
theorem showsLocation_convertGnssLocation (l : Location δ φ) :
    ShowsLocation l (convertGnssLocation l) where
  flags := fun b => by rw [getLsbD_convertGnssLocation, Bool.and_eq_true, decide_eq_true_eq]
  place := rfl
  motion := rfl
  accuracy := rfl
  motionAccuracy := rfl
  timestamp := rfl

end LocHal.Gnss.LocationReport
