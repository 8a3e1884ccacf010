import Mathlib.Data.Rat.Defs
import LocHal.Util.LocCfg

/-!
# `LocHal.Util.LocNmea`: the NMEA sentences

`loc_nmea_generate_pos` and `loc_nmea_generate_sv` build sentences in a buffer of
`NMEA_SENTENCE_MAX_LENGTH` characters, piece by piece. `snprintf` cuts a piece that does not fit.
Most pieces are checked (`tryPrint`): when one does not fit, the function returns, with the
sentences that it has pushed so far. `nmeaArraystr` is the list of the sentences in order.

`Reals` is the floating-point arithmetic: `φ` is `float` and `δ` is `double`. The conversions to
integers belong to it, since they are undefined outside of the range of the integer. A flag or a
mask that is only tested is a `Bool`. `gmtime` is a parameter.

The loop of `loc_nmea_generate_sv` also collects the used satellites, which no GSV sentence shows:
that part is left out.
-/

set_option autoImplicit false

namespace LocHal.Util.LocNmea

variable {φ δ : Type}

/-! ### Printing -/

/-- The digits with zeros in front. -/
def zeroPad (width : Nat) (ds : CString) : CString := List.replicate (width - ds.length) '0' ++ ds

/-- `%0wd` for the width `w`. The sign counts. -/
def formatD (width : Nat) (n : Int) : CString :=
  if n < 0 then '-' :: zeroPad (width - 1) (Nat.toDigits 10 n.natAbs)
  else zeroPad width (Nat.toDigits 10 n.natAbs)

/-- `%2.2d`: the sign does not count. -/
def formatPrecision (n : Int) : CString :=
  if n < 0 then '-' :: zeroPad 2 (Nat.toDigits 10 n.natAbs)
  else zeroPad 2 (Nat.toDigits 10 n.natAbs)

/-- `%02X` for a byte. -/
def formatX (x : BitVec 8) : CString :=
  [(Nat.digitChar (x.toNat / 16)).toUpper, (Nat.digitChar (x.toNat % 16)).toUpper]

/-- `float`, `double`, and what the functions do with them. -/
structure Reals (φ δ : Type) where
  ofFloat : φ → δ
  toFloat : δ → φ
  ofRat : Rat → δ
  add : δ → δ → δ
  sub : δ → δ → δ
  mul : δ → δ → δ
  fmod : δ → δ → δ
  floor : δ → δ
  lt : δ → δ → Bool
  /-- `(int)` -/
  toInt : δ → BitVec 32
  /-- `(uint8_t)` -/
  toUint8 : δ → BitVec 8
  /-- `%.1lf` -/
  format1 : δ → CString
  /-- `%09.6lf` -/
  format6 : δ → CString

/-! ### The buffer -/

/-- `snprintf` behind the text. `NMEA_SENTENCE_MAX_LENGTH` is 200, with the terminator. -/
def snprintf (text piece : CString) : CString := text ++ piece.take (200 - 1 - text.length)

/-- `snprintf`, and the check of the length that it returns. -/
def tryPrint (text piece : CString) : Option CString :=
  if 200 - text.length ≤ piece.length then none else some (text ++ piece)

/-- The exclusive or of the bytes. -/
def checksum (text : CString) : BitVec 8 :=
  text.foldl (fun sum c => sum ^^^ BitVec.ofNat 8 c.toNat) 0

/-- `loc_nmea_put_checksum`. The first character is the `$`. -/
def locNmeaPutChecksum (sentence : CString) : CString :=
  snprintf sentence ('*' :: formatX (checksum sentence.tail) ++ ['\r', '\n'])

/-! ### Satellites -/

/-- `GnssSvType`. -/
inductive GnssSvType where
  | unknown
  | gps
  | sbas
  | glonass
  | qzss
  | beidou
  | galileo
  deriving DecidableEq, Repr

/-- `GnssSv`. -/
structure GnssSv (φ : Type) where
  svId : BitVec 16
  type : GnssSvType
  cN0Dbhz : φ
  elevation : φ
  azimuth : φ
  gnssSvOptionsMask : BitVec 16

/-- `GnssSvNotification`, with room for `GNSS_SV_MAX` satellites. -/
structure GnssSvNotification (φ : Type) where
  gnssSvs : List (GnssSv φ)
  count_le : gnssSvs.length ≤ 64

/-- `GnssSvUsedInPosition`. -/
structure GnssSvUsedInPosition where
  gpsSvUsedIdsMask : BitVec 64
  gloSvUsedIdsMask : BitVec 64
  galSvUsedIdsMask : BitVec 64
  bdsSvUsedIdsMask : BitVec 64
  qzssSvUsedIdsMask : BitVec 64
  deriving DecidableEq, Repr

/-- `loc_sv_cache_info`. -/
structure LocSvCacheInfo where
  gpsUsedMask : BitVec 32 := 0
  gloUsedMask : BitVec 32 := 0
  galUsedMask : BitVec 32 := 0
  qzssUsedMask : BitVec 32 := 0
  bdsUsedMask : BitVec 32 := 0
  gpsCount : Nat := 0
  gloCount : Nat := 0
  galCount : Nat := 0
  qzssCount : Nat := 0
  bdsCount : Nat := 0
  deriving DecidableEq, Repr

/-- `loc_nmea_sv_meta`. -/
structure LocNmeaSvMeta where
  talker : CString
  svType : GnssSvType
  mask : BitVec 32
  svCount : Nat
  svIdOffset : Nat
  signalId : Nat
  systemId : Nat
  deriving DecidableEq, Repr

/-- More than one constellation is used. -/
def isCombined (cache : LocSvCacheInfo) : Bool :=
  1 < ([cache.gpsUsedMask, cache.gloUsedMask, cache.galUsedMask, cache.qzssUsedMask,
    cache.bdsUsedMask].filter (· ≠ 0)).length

/-- `loc_nmea_sv_meta_init`. -/
def locNmeaSvMetaInit (cache : LocSvCacheInfo) (svType : GnssSvType) (needCombine : Bool) :
    Option LocNmeaSvMeta :=
  let svMeta : Option LocNmeaSvMeta :=
    match svType with
    | .gps => some ⟨['G', 'P'], svType, cache.gpsUsedMask, cache.gpsCount, 0, 1, 1⟩
    -- the ids of GLONASS are 65 to 96
    | .glonass => some ⟨['G', 'L'], svType, cache.gloUsedMask, cache.gloCount, 64, 1, 2⟩
    | .galileo => some ⟨['G', 'A'], svType, cache.galUsedMask, cache.galCount, 0, 7, 3⟩
    | .qzss => some ⟨['P', 'Q'], svType, cache.qzssUsedMask, cache.qzssCount, 0, 0, 5⟩
    | .beidou => some ⟨['P', 'Q'], svType, cache.bdsUsedMask, cache.bdsCount, 0, 0, 4⟩
    | _ => none
  if needCombine && isCombined cache then
    svMeta.map fun svMeta => { svMeta with talker := ['G', 'N'] }
  else svMeta

/-! ### GSA -/

/-- The first loop of `loc_nmea_generate_GSA`. A mask of 32 bits is empty after 32 passes. -/
def svUsedLoop (svIdOffset : Nat) : Nat → Nat → BitVec 32 → List Nat → List Nat
  | 0, _, _, svUsedList => svUsedList
  | fuel + 1, i, mask, svUsedList =>
      if mask = 0 ∨ 32 ≤ svUsedList.length then svUsedList
      else
        svUsedLoop svIdOffset fuel (i + 1) (mask >>> 1)
          (if mask.getLsbD 0 then svUsedList ++ [i + svIdOffset] else svUsedList)

/-- The field of an id, with its comma. -/
def idField (svUsedList : List Nat) (i : Nat) : CString :=
  if h : i < svUsedList.length then formatD 2 svUsedList[i] ++ [','] else [',']

/-- The fields of a location extension that the sentences show. -/
structure GpsLocationExtended (φ : Type) where
  hasGnssSvUsedData : Bool
  hasDop : Bool
  hasMagDev : Bool
  hasAltitudeMeanSeaLevel : Bool
  gnssSvUsedIds : GnssSvUsedInPosition
  pdop : φ
  hdop : φ
  vdop : φ
  magneticDeviation : φ
  altitudeMeanSeaLevel : φ
  /-- `LOC_NAV_MASK_SBAS_CORRECTION_IONO & navSolutionMask` -/
  sbasCorrectionIono : Bool
  /-- `LOC_POS_TECH_MASK_SENSORS == tech_mask` -/
  sensorsOnly : Bool

section
variable (r : Reals φ δ)

/-- The text of a GSA sentence without its checksum. -/
def gsaText (extended : GpsLocationExtended φ) (svMeta : LocNmeaSvMeta) (svUsedList : List Nat) :
    Option CString := do
  let fixType :=
    if svUsedList.length = 0 then '1' else if svUsedList.length ≤ 3 then '2' else '3'
  let text ← tryPrint [] ('$' :: svMeta.talker ++ "GSA,A,".toList ++ [fixType, ','])
  -- the first 12 ids
  let text ← (List.range 12).foldlM (fun text i =>
    tryPrint text (idField svUsedList i)) text
  let text := snprintf text
    (if extended.hasDop then
      r.format1 (r.ofFloat extended.pdop) ++ ',' :: r.format1 (r.ofFloat extended.hdop)
        ++ ',' :: r.format1 (r.ofFloat extended.vdop) ++ [',']
    else [',', ',', ','])
  some (snprintf text (formatD 1 svMeta.systemId))

/-- `loc_nmea_generate_GSA`: the number of used satellites, and the sentence. -/
def locNmeaGenerateGSA (extended : GpsLocationExtended φ) (svMeta : Option LocNmeaSvMeta) :
    Nat × List CString :=
  match svMeta with
  | none => (0, [])
  | some svMeta =>
      let svUsedList := svUsedLoop svMeta.svIdOffset 32 1 svMeta.mask []
      if svUsedList = [] ∧ svMeta.svType ≠ .gps then (0, [])
      else
        match gsaText r extended svMeta svUsedList with
        | none => (0, [])
        | some text => (svUsedList.length, [locNmeaPutChecksum text])

/-! ### GSV -/

/-- The inner loop of `loc_nmea_generate_GSV`: the text, and the satellites from `svNumber` on. -/
def gsvSvLoop (svType : GnssSvType) (svIdOffset : Nat) :
    List (GnssSv φ) → Nat → CString → Option (CString × List (GnssSv φ))
  | [], _, text => some (text, [])
  | sv :: svs, i, text =>
      if 4 ≤ i then some (text, sv :: svs)
      else if svType = sv.type then do
        let half := r.ofRat (1 / 2)
        let rounded := fun x => (r.toInt (r.add half (r.ofFloat x))).toInt
        let text ← tryPrint text (',' :: formatD 2 (sv.svId.toNat + svIdOffset)
          ++ ',' :: formatD 2 (rounded sv.elevation) ++ ',' :: formatD 3 (rounded sv.azimuth)
          ++ [','])
        let text ←
          if r.lt (r.ofRat 0) (r.ofFloat sv.cN0Dbhz) then
            tryPrint text (formatD 2 (rounded sv.cN0Dbhz))
          else some text
        gsvSvLoop svType svIdOffset svs (i + 1) text
      else gsvSvLoop svType svIdOffset svs i text

/-- The sentences from `sentenceNumber` on, `n` of them. -/
def gsvLoop (svMeta : LocNmeaSvMeta) (sentenceCount : Nat) :
    Nat → Nat → List (GnssSv φ) → List CString
  | 0, _, _ => []
  | n + 1, sentenceNumber, svs =>
      let sentence := do
        let text ← tryPrint [] ('$' :: svMeta.talker ++ "GSV,".toList ++ formatD 1 sentenceCount
          ++ ',' :: formatD 1 sentenceNumber ++ ',' :: formatD 2 svMeta.svCount)
        gsvSvLoop r svMeta.svType svMeta.svIdOffset svs 0 text
      match sentence with
      | none => []
      | some (text, svs) =>
          locNmeaPutChecksum (snprintf text (',' :: formatD 1 svMeta.signalId))
            :: gsvLoop svMeta sentenceCount n (sentenceNumber + 1) svs

/-- `loc_nmea_generate_GSV`. -/
def locNmeaGenerateGSV (svNotify : GnssSvNotification φ) (svMeta : Option LocNmeaSvMeta) :
    List CString :=
  match svMeta with
  | none => []
  | some svMeta =>
      if svMeta.svCount = 0 then
        [locNmeaPutChecksum (snprintf []
          ('$' :: svMeta.talker ++ "GSV,1,1,0,".toList ++ formatD 1 svMeta.signalId))]
      else
        let sentenceCount := svMeta.svCount / 4 + (if svMeta.svCount % 4 ≠ 0 then 1 else 0)
        gsvLoop r svMeta sentenceCount sentenceCount 1 svNotify.gnssSvs

/-- The number of satellites of a constellation. -/
def countOf (svNotify : GnssSvNotification φ) (svType : GnssSvType) : Nat :=
  svNotify.gnssSvs.countP (·.type = svType)

/-- `loc_nmea_generate_sv`. -/
def locNmeaGenerateSv (svNotify : GnssSvNotification φ) : List CString :=
  let cache : LocSvCacheInfo :=
    { gpsCount := countOf svNotify .gps
      gloCount := countOf svNotify .glonass
      galCount := countOf svNotify .galileo
      qzssCount := countOf svNotify .qzss
      bdsCount := countOf svNotify .beidou }
  let gsv := fun svType => locNmeaGenerateGSV r svNotify (locNmeaSvMetaInit cache svType false)
  gsv .gps ++ gsv .glonass ++ gsv .galileo ++ gsv .qzss ++ gsv .beidou

end

end LocHal.Util.LocNmea
