import LocHal.Core.SystemStatusNmea

/-!
# `LocHal.Core.DebugParsers`: the parsers of the debug sentences

Each kind of debug sentence has a parser of its own, which reads the fields into a record. A parser
that returns before it clears its record leaves there what the memory held: that is the argument
`uninit`. Only the parser of `PQWM1` clears its record first.

`NmeaFloats` is the floating-point arithmetic of the parsers: `δ` is `double` and `φ` is `float`.
An `int32_t` is an integer, since `atoi` does not leave its range.

The parsers do not check what they read. A field that is not a number gives 0, and one that is too
large is cut to the width of its member (`mask`, `uint`). The number of fields is checked first, so
that every field that is read is there.
-/

set_option autoImplicit false

namespace LocHal.Core

open LocHal.Util (CString)
open LocHal.Util.LocCfg (Doubles atoi strtol)

variable {δ φ : Type}

/-- `atof`, and the conversions to `float` from `double` and `int`. -/
structure NmeaFloats (δ φ : Type) extends Doubles δ where
  toFloat : δ → φ
  ofInt : Int → φ

/-- `mField[i]`. The parsers check the number of fields first. -/
def field (fields : List CString) (i : Nat) : CString := fields.getD i []

/-- `strtol(mField[i].c_str(), NULL, 16)`, stored in an unsigned member. -/
def mask (w : Nat) (fields : List CString) (i : Nat) : BitVec w :=
  BitVec.ofInt w (strtol 16 (field fields i))

/-- `atoi(mField[i].c_str())`, stored in an unsigned member. -/
def uint (w : Nat) (fields : List CString) (i : Nat) : BitVec w :=
  BitVec.ofInt w (atoi (field fields i))

/-! ### The records -/

/-- `SystemStatusPQWM1`. -/
structure SystemStatusPQWM1 (δ : Type) where
  mGpsWeek : BitVec 16
  mGpsTowMs : BitVec 32
  mTimeValid : BitVec 8
  mTimeSource : BitVec 8
  mTimeUnc : Int
  mClockFreqBias : Int
  mClockFreqBiasUnc : Int
  mXoState : BitVec 8
  mPgaGain : Int
  mGpsBpAmpI : BitVec 32
  mGpsBpAmpQ : BitVec 32
  mAdcI : BitVec 32
  mAdcQ : BitVec 32
  mJammerGps : BitVec 32
  mJammerGlo : BitVec 32
  mJammerBds : BitVec 32
  mJammerGal : BitVec 32
  mRecErrorRecovery : BitVec 32
  mAgcGps : δ
  mAgcGlo : δ
  mAgcBds : δ
  mAgcGal : δ
  mLeapSeconds : Int
  mLeapSecUnc : Int
  mGloBpAmpI : BitVec 32
  mGloBpAmpQ : BitVec 32
  mBdsBpAmpI : BitVec 32
  mBdsBpAmpQ : BitVec 32
  mGalBpAmpI : BitVec 32
  mGalBpAmpQ : BitVec 32
  deriving DecidableEq

/-- `SystemStatusPQWP1`. -/
structure SystemStatusPQWP1 (φ : Type) where
  mEpiValidity : BitVec 8
  mEpiLat : φ
  mEpiLon : φ
  mEpiAlt : φ
  mEpiHepe : φ
  mEpiAltUnc : φ
  mEpiSrc : BitVec 8
  deriving DecidableEq

/-- `SystemStatusPQWP2`. -/
structure SystemStatusPQWP2 (φ : Type) where
  mBestLat : φ
  mBestLon : φ
  mBestAlt : φ
  mBestHepe : φ
  mBestAltUnc : φ
  deriving DecidableEq

/-- `SystemStatusPQWP3`. -/
structure SystemStatusPQWP3 where
  mXtraValidMask : BitVec 8
  mGpsXtraAge : BitVec 32
  mGloXtraAge : BitVec 32
  mBdsXtraAge : BitVec 32
  mGalXtraAge : BitVec 32
  mQzssXtraAge : BitVec 32
  mGpsXtraValid : BitVec 32
  mGloXtraValid : BitVec 32
  mBdsXtraValid : BitVec 64
  mGalXtraValid : BitVec 64
  mQzssXtraValid : BitVec 8
  deriving DecidableEq

/-- `SystemStatusPQWP4`. -/
@[ext]
structure SystemStatusPQWP4 where
  mGpsEpheValid : BitVec 32
  mGloEpheValid : BitVec 32
  mBdsEpheValid : BitVec 64
  mGalEpheValid : BitVec 64
  mQzssEpheValid : BitVec 8
  deriving DecidableEq

/-- `SystemStatusPQWP5`. -/
@[ext]
structure SystemStatusPQWP5 where
  mGpsUnknownMask : BitVec 32
  mGloUnknownMask : BitVec 32
  mBdsUnknownMask : BitVec 64
  mGalUnknownMask : BitVec 64
  mQzssUnknownMask : BitVec 8
  mGpsGoodMask : BitVec 32
  mGloGoodMask : BitVec 32
  mBdsGoodMask : BitVec 64
  mGalGoodMask : BitVec 64
  mQzssGoodMask : BitVec 8
  mGpsBadMask : BitVec 32
  mGloBadMask : BitVec 32
  mBdsBadMask : BitVec 64
  mGalBadMask : BitVec 64
  mQzssBadMask : BitVec 8
  deriving DecidableEq

/-- `SystemStatusPQWP6`. -/
structure SystemStatusPQWP6 where
  mFixInfoMask : BitVec 32
  deriving DecidableEq

/-- `SystemStatusNav`. -/
structure SystemStatusNav where
  mType : Int
  mSource : Int
  mAgeSec : Int
  deriving DecidableEq

/-- `SV_ALL_NUM`. -/
abbrev svAllNum : Nat := 32 + 24 + 5 + 37 + 36

/-- `SystemStatusPQWP7`. -/
structure SystemStatusPQWP7 where
  mNav : Vector SystemStatusNav svAllNum
  deriving DecidableEq

/-- `SystemStatusPQWS1`. -/
structure SystemStatusPQWS1 where
  mFixInfoMask : BitVec 32
  mHepeLimit : BitVec 32
  deriving DecidableEq

/-! ### The parsers -/

/-- `memset(&mM1, 0, sizeof(mM1))`. -/
def SystemStatusPQWM1.cleared (fl : NmeaFloats δ φ) : SystemStatusPQWM1 δ where
  mGpsWeek := 0
  mGpsTowMs := 0
  mTimeValid := 0
  mTimeSource := 0
  mTimeUnc := 0
  mClockFreqBias := 0
  mClockFreqBiasUnc := 0
  mXoState := 0
  mPgaGain := 0
  mGpsBpAmpI := 0
  mGpsBpAmpQ := 0
  mAdcI := 0
  mAdcQ := 0
  mJammerGps := 0
  mJammerGlo := 0
  mJammerBds := 0
  mJammerGal := 0
  mRecErrorRecovery := 0
  mAgcGps := fl.zero
  mAgcGlo := fl.zero
  mAgcBds := fl.zero
  mAgcGal := fl.zero
  mLeapSeconds := 0
  mLeapSecUnc := 0
  mGloBpAmpI := 0
  mGloBpAmpQ := 0
  mBdsBpAmpI := 0
  mBdsBpAmpQ := 0
  mGalBpAmpI := 0
  mGalBpAmpQ := 0

/-- The parser of `$PQWM1`. -/
def pqwm1Parser (fl : NmeaFloats δ φ) (fields : List CString) : SystemStatusPQWM1 δ :=
  if fields.length ≤ 22 then .cleared fl
  else
    let m1 : SystemStatusPQWM1 δ :=
      { SystemStatusPQWM1.cleared fl with
        mGpsWeek := uint 16 fields 1
        mGpsTowMs := uint 32 fields 2
        mTimeValid := uint 8 fields 3
        mTimeSource := uint 8 fields 4
        mTimeUnc := atoi (field fields 5)
        mClockFreqBias := atoi (field fields 6)
        mClockFreqBiasUnc := atoi (field fields 7)
        mXoState := uint 8 fields 8
        mPgaGain := atoi (field fields 9)
        mGpsBpAmpI := uint 32 fields 10
        mGpsBpAmpQ := uint 32 fields 11
        mAdcI := uint 32 fields 12
        mAdcQ := uint 32 fields 13
        mJammerGps := uint 32 fields 14
        mJammerGlo := uint 32 fields 15
        mJammerBds := uint 32 fields 16
        mJammerGal := uint 32 fields 17
        mRecErrorRecovery := uint 32 fields 18
        mAgcGps := fl.atof (field fields 19)
        mAgcGlo := fl.atof (field fields 20)
        mAgcBds := fl.atof (field fields 21)
        mAgcGal := fl.atof (field fields 22) }
    let m1 :=
      -- the leap seconds came with a later modem
      if fields.length > 24 then
        { m1 with
          mLeapSeconds := atoi (field fields 23)
          mLeapSecUnc := atoi (field fields 24) }
      else m1
    if fields.length > 30 then
      { m1 with
        mGloBpAmpI := uint 32 fields 25
        mGloBpAmpQ := uint 32 fields 26
        mBdsBpAmpI := uint 32 fields 27
        mBdsBpAmpQ := uint 32 fields 28
        mGalBpAmpI := uint 32 fields 29
        mGalBpAmpQ := uint 32 fields 30 }
    else m1

/-- The parser of `$PQWP1`. -/
def pqwp1Parser (fl : NmeaFloats δ φ) (uninit : SystemStatusPQWP1 φ) (fields : List CString) :
    SystemStatusPQWP1 φ :=
  if fields.length < 9 then uninit
  else
    { mEpiValidity := mask 8 fields 2
      mEpiLat := fl.toFloat (fl.atof (field fields 3))
      mEpiLon := fl.toFloat (fl.atof (field fields 4))
      mEpiAlt := fl.toFloat (fl.atof (field fields 5))
      mEpiHepe := fl.ofInt (atoi (field fields 6))
      mEpiAltUnc := fl.toFloat (fl.atof (field fields 7))
      mEpiSrc := uint 8 fields 8 }

/-- The parser of `$PQWP2`. -/
def pqwp2Parser (fl : NmeaFloats δ φ) (uninit : SystemStatusPQWP2 φ) (fields : List CString) :
    SystemStatusPQWP2 φ :=
  if fields.length < 7 then uninit
  else
    { mBestLat := fl.toFloat (fl.atof (field fields 2))
      mBestLon := fl.toFloat (fl.atof (field fields 3))
      mBestAlt := fl.toFloat (fl.atof (field fields 4))
      mBestHepe := fl.toFloat (fl.atof (field fields 5))
      mBestAltUnc := fl.toFloat (fl.atof (field fields 6)) }

/-- The parser of `$PQWP3`. -/
def pqwp3Parser (uninit : SystemStatusPQWP3) (fields : List CString) :
    SystemStatusPQWP3 :=
  if fields.length < 13 then uninit
  else
    { mXtraValidMask := mask 8 fields 2
      mGpsXtraAge := uint 32 fields 3
      mGloXtraAge := uint 32 fields 4
      mBdsXtraAge := uint 32 fields 5
      mGalXtraAge := uint 32 fields 6
      mQzssXtraAge := uint 32 fields 7
      mGpsXtraValid := mask 32 fields 8
      mGloXtraValid := mask 32 fields 9
      mBdsXtraValid := mask 64 fields 10
      mGalXtraValid := mask 64 fields 11
      mQzssXtraValid := mask 8 fields 12 }

/-- The parser of `$PQWP4`. -/
def pqwp4Parser (uninit : SystemStatusPQWP4) (fields : List CString) :
    SystemStatusPQWP4 :=
  if fields.length < 7 then uninit
  else
    { mGpsEpheValid := mask 32 fields 2
      mGloEpheValid := mask 32 fields 3
      mBdsEpheValid := mask 64 fields 4
      mGalEpheValid := mask 64 fields 5
      mQzssEpheValid := mask 8 fields 6 }

/-- The parser of `$PQWP5`. -/
def pqwp5Parser (uninit : SystemStatusPQWP5) (fields : List CString) :
    SystemStatusPQWP5 :=
  if fields.length < 17 then uninit
  else
    { mGpsUnknownMask := mask 32 fields 2
      mGloUnknownMask := mask 32 fields 3
      mBdsUnknownMask := mask 64 fields 4
      mGalUnknownMask := mask 64 fields 5
      mQzssUnknownMask := mask 8 fields 6
      mGpsGoodMask := mask 32 fields 7
      mGloGoodMask := mask 32 fields 8
      mBdsGoodMask := mask 64 fields 9
      mGalGoodMask := mask 64 fields 10
      mQzssGoodMask := mask 8 fields 11
      mGpsBadMask := mask 32 fields 12
      mGloBadMask := mask 32 fields 13
      mBdsBadMask := mask 64 fields 14
      mGalBadMask := mask 64 fields 15
      mQzssBadMask := mask 8 fields 16 }

/-- The parser of `$PQWP6`. -/
def pqwp6Parser (uninit : SystemStatusPQWP6) (fields : List CString) :
    SystemStatusPQWP6 :=
  if fields.length < 3 then uninit
  else
    { mFixInfoMask := mask 32 fields 2 }

/-- The parser of `$PQWP7`. -/
def pqwp7Parser (uninit : SystemStatusPQWP7) (fields : List CString) : SystemStatusPQWP7 :=
  if fields.length < 2 + svAllNum * 3 then uninit
  else
    -- three fields for each satellite
    { mNav := Vector.ofFn fun i =>
        { mType := atoi (field fields (i * 3 + 2))
          mSource := atoi (field fields (i * 3 + 3))
          mAgeSec := atoi (field fields (i * 3 + 4)) } }

/-- The parser of `$PQWS1`. -/
def pqws1Parser (uninit : SystemStatusPQWS1) (fields : List CString) :
    SystemStatusPQWS1 :=
  if fields.length < 4 then uninit
  else
    { mFixInfoMask := uint 32 fields 2
      mHepeLimit := uint 32 fields 3 }

end LocHal.Core
