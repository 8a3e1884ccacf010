import LocHal.Util.LocNmea

/-!
# `LocHal.Util.LocNmeaPos`: the NMEA sentences of a position

`loc_nmea_generate_pos` builds a GSA sentence for each constellation, and then VTG, RMC and GGA. For
a fix that is not final it pushes six fixed sentences.

Each of the three sentences is built by one function here; `none` is a piece that does not fit, and
then `loc_nmea_generate_pos` returns.
-/

set_option autoImplicit false

namespace LocHal.Util.LocNmea

variable {φ δ : Type}

/-- `tm`, with the ranges of its members. -/
structure Tm where
  tmSec : Fin 61
  tmMin : Fin 60
  tmHour : Fin 24
  tmMday : Fin 32
  tmMon : Fin 12
  tmYear : Int

/-- `LocGpsLocation`. -/
structure GpsLocation (φ δ : Type) where
  hasLatLong : Bool
  hasAltitude : Bool
  hasSpeed : Bool
  hasBearing : Bool
  latitude : δ
  longitude : δ
  altitude : δ
  speed : φ
  bearing : φ
  timestamp : Int

section
variable (r : Reals φ δ) (location : GpsLocation φ δ) (extended : GpsLocationExtended φ)

/-- `sv_cache_info` of `loc_nmea_generate_pos`. -/
def usedCache : LocSvCacheInfo :=
  if extended.hasGnssSvUsedData then
    { gpsUsedMask := extended.gnssSvUsedIds.gpsSvUsedIdsMask.setWidth 32
      gloUsedMask := extended.gnssSvUsedIds.gloSvUsedIdsMask.setWidth 32
      galUsedMask := extended.gnssSvUsedIds.galSvUsedIdsMask.setWidth 32
      qzssUsedMask := extended.gnssSvUsedIds.bdsSvUsedIdsMask.setWidth 32
      bdsUsedMask := extended.gnssSvUsedIds.qzssSvUsedIdsMask.setWidth 32 }
  else {}

/-- The GSA sentence of a constellation. -/
def gsaOf (svType : GnssSvType) (needCombine : Bool) : Nat × List CString :=
  locNmeaGenerateGSA r extended (locNmeaSvMetaInit (usedCache extended) svType needCombine)

/-- The talker of the sentences after GSA: that of the last constellation with a used satellite, of
the first three. -/
def posTalker : CString :=
  [GnssSvType.gps, .glonass, .galileo].foldl (fun talker svType =>
    if 0 < (gsaOf r extended svType true).1 then
      ((locNmeaSvMetaInit (usedCache extended) svType true).elim talker LocNmeaSvMeta.talker)
    else talker) ['G', 'P']

/-- `svUsedCount`. -/
def posUsedCount : Nat :=
  (gsaOf r extended .gps true).1 + (gsaOf r extended .glonass true).1
    + (gsaOf r extended .galileo true).1
    + (gsaOf r extended .qzss false).1 + (gsaOf r extended .beidou false).1

/-- The GSA sentences. -/
def gsaSentences : List CString :=
  (gsaOf r extended .gps true).2 ++ (gsaOf r extended .glonass true).2
    ++ (gsaOf r extended .galileo true).2
    ++ (gsaOf r extended .qzss false).2 ++ (gsaOf r extended .beidou false).2

/-- The mode indicator of VTG and RMC. -/
def modeIndicator : Char :=
  if !location.hasLatLong then 'N'
  else if extended.sbasCorrectionIono then 'D'
  else if extended.sensorsOnly then 'E'
  else 'A'

/-! ### VTG -/

/-- The course, true and magnetic. -/
def vtgTrack (talker : CString) : CString :=
  if location.hasBearing then
    -- the `magTrack` of the inner block, with the deviation, is another variable
    let magTrack := location.bearing
    '$' :: talker ++ "VTG,".toList ++ r.format1 (r.ofFloat location.bearing) ++ ",T,".toList
      ++ r.format1 (r.ofFloat magTrack) ++ ",M,".toList
  else '$' :: talker ++ "VTG,,T,,M,".toList

/-- `speed * (3600.0/1852.0)`, as a `float`. -/
def speedKnots : φ :=
  r.toFloat (r.mul (r.ofFloat location.speed) (r.ofRat (3600 / 1852)))

/-- `speed * 3.6`, as a `float`. -/
def speedKmPerHour : φ := r.toFloat (r.mul (r.ofFloat location.speed) (r.ofRat (36 / 10)))

/-- The text of the VTG sentence without its checksum. -/
def vtgText (talker : CString) : Option CString := do
  let text ← tryPrint [] (vtgTrack r location talker)
  let text ← tryPrint text
    (if location.hasSpeed then
      r.format1 (r.ofFloat (speedKnots r location)) ++ ",N,".toList
        ++ r.format1 (r.ofFloat (speedKmPerHour r location)) ++ ",K,".toList
    else ",N,,K,".toList)
  some (snprintf text [modeIndicator location extended])

/-! ### RMC and GGA -/

/-- `%02d%02d%02d.%02d` of the time of day. -/
def timeOfDay (tm : Tm) : CString :=
  formatD 2 tm.tmHour.val ++ formatD 2 tm.tmMin.val ++ formatD 2 tm.tmSec.val
    ++ '.' :: formatD 2 ((location.timestamp.tmod 1000).tdiv 10)

/-- The latitude without its sign, and its hemisphere. -/
def latitudeOf : δ × Char :=
  if r.lt (r.ofRat 0) location.latitude then (location.latitude, 'N')
  else (r.mul location.latitude (r.ofRat (-1)), 'S')

/-- The longitude without its sign, and its hemisphere. -/
def longitudeOf : δ × Char :=
  if r.lt location.longitude (r.ofRat 0) then (r.mul location.longitude (r.ofRat (-1)), 'W')
  else (location.longitude, 'E')

/-- The degrees with the width, and the minutes. -/
def degreesMinutes (width : Nat) (x : δ) : CString :=
  formatD width (r.toUint8 (r.floor x)).toNat
    ++ r.format6 (r.fmod (r.mul x (r.ofRat 60)) (r.ofRat 60))

/-- `%02d%09.6lf,%c,%03d%09.6lf,%c,` of the coordinates. -/
def latLong : CString :=
  if location.hasLatLong then
    let (latitude, latHemisphere) := latitudeOf r location
    let (longitude, lonHemisphere) := longitudeOf r location
    degreesMinutes r 2 latitude ++ [',', latHemisphere, ',']
      ++ degreesMinutes r 3 longitude ++ [',', lonHemisphere, ',']
  else [',', ',', ',', ',']

/-- The magnetic variation and its direction. -/
def magneticVariation : CString :=
  if extended.hasMagDev then
    let x := extended.magneticDeviation
    let (x, direction) :=
      if r.lt (r.ofFloat x) (r.ofRat 0) then
        (r.toFloat (r.mul (r.ofFloat x) (r.ofRat (-1))), 'W')
      else (x, 'E')
    r.format1 (r.ofFloat x) ++ [',', direction, ',']
  else [',', ',']

/-- The text of the RMC sentence without its checksum. -/
def rmcText (tm : Tm) (talker : CString) : Option CString := do
  let text ← tryPrint []
    ('$' :: talker ++ "RMC,".toList ++ timeOfDay location tm ++ ",A,".toList)
  let text ← tryPrint text (latLong r location)
  let text ← tryPrint text
    (if location.hasSpeed then r.format1 (r.ofFloat (speedKnots r location)) ++ [','] else [','])
  let text ← tryPrint text
    (if location.hasBearing then r.format1 (r.ofFloat location.bearing) ++ [','] else [','])
  let text ← tryPrint text
    (formatPrecision tm.tmMday.val ++ formatPrecision (tm.tmMon.val + 1)
      ++ formatPrecision (tm.tmYear.tmod 100) ++ [','])
  let text ← tryPrint text (magneticVariation r extended)
  let text := snprintf text [modeIndicator location extended]
  -- the navigation status
  some (snprintf text [',', 'V'])

/-- The quality indicator of GGA. -/
def gpsQuality : Char :=
  if !location.hasLatLong then '0'
  else if extended.sbasCorrectionIono then '2'
  else if extended.sensorsOnly then '6'
  else '1'

/-- The last piece of GGA: the height of the geoid. -/
def ggaSeparation : CString :=
  if location.hasAltitude && extended.hasAltitudeMeanSeaLevel then
    r.format1 (r.sub location.altitude (r.ofFloat extended.altitudeMeanSeaLevel)) ++ ",M,,".toList
  else [',', ',', ',']

/-- The text of the GGA sentence before its last piece. -/
def ggaHead (tm : Tm) (talker : CString) (svUsedCount : Nat) : Option CString := do
  let text ← tryPrint [] ('$' :: talker ++ "GGA,".toList ++ timeOfDay location tm ++ [','])
  let text ← tryPrint text (latLong r location)
  let text ← tryPrint text
    (gpsQuality location extended :: ',' :: formatD 2 (min svUsedCount 12)
      ++ ',' :: (if extended.hasDop then r.format1 (r.ofFloat extended.hdop) ++ [','] else [',']))
  tryPrint text
    (if extended.hasAltitudeMeanSeaLevel then
      r.format1 (r.ofFloat extended.altitudeMeanSeaLevel) ++ ",M,".toList
    else [',', ','])

/-! ### All sentences -/

/-- The sentences for a fix that is not final. -/
def blankSentences : List CString :=
  ["$GPGSA,A,1,,,,,,,,,,,,,,,", "$GNGSA,A,1,,,,,,,,,,,,,,,", "$PQGSA,A,1,,,,,,,,,,,,,,,",
    "$GPVTG,,T,,M,,N,,K,N", "$GPRMC,,V,,,,,,,,,,N,V", "$GPGGA,,,,,,0,,,,,,,,"].map
      fun text => locNmeaPutChecksum text.toList

/-- The sentences from VTG on. -/
def trackSentences (tm : Tm) : List CString :=
  let talker := posTalker r extended
  match vtgText r location extended talker with
  | none => []
  | some vtg =>
      locNmeaPutChecksum vtg ::
        match rmcText r location extended tm talker with
        | none => []
        | some rmc =>
            locNmeaPutChecksum rmc ::
              match ggaHead r location extended tm talker (posUsedCount r extended) with
              | none => []
              | some gga => [locNmeaPutChecksum (snprintf gga (ggaSeparation r location extended))]

/-- `loc_nmea_generate_pos`. -/
def locNmeaGeneratePos (gmtime : Int → Option Tm) (generateNmea : Bool) : List CString :=
  match gmtime (location.timestamp.tdiv 1000) with
  | none => []
  | some tm =>
      if generateNmea then gsaSentences r extended ++ trackSentences r location extended tm
      else blankSentences

end

end LocHal.Util.LocNmea
