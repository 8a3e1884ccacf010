import Mathlib.Algebra.Order.Floor.Ring
import Mathlib.Tactic.LinearCombination
import LocHal.Util.NmeaExact
import LocHal.Util.NmeaTrack

/-!
# `LocHal.Util.NmeaCoordinates`: the coordinates of RMC and GGA

The degrees are the floor of the coordinate, and the minutes are rounded when they are printed.
Minutes that are rounded up to 60 are printed as `60.000000`, with the degrees of the floor.
`printsCoordinates_iff` says that nothing else is wrong.

Here the numbers are exact: `Reals` is instantiated with rationals (`exact`), where `fmod` and the
conversions have no error of their own, and the printing rounds to the nearest number with ties to
even. So what goes wrong is the design of the two functions and not the arithmetic of the machine.

`Accurate` is the property of one coordinate, read back from its field and its hemisphere.
`accurate_iff` says when a coordinate is accurate, and `minutes_lt_iff` when the printed minutes are
below 60. The sentences are read back field by field: RMC has the coordinates from its fourth field
on and GGA from its third.
-/

set_option autoImplicit false

namespace LocHal.Util.LocNmea

/-! ### Reading -/

/-- The degrees of a coordinate, in the first digits. -/
def degreesOf (width : Nat) (coordinate : CString) : ℚ :=
  Nat.ofDigitChars 10 (coordinate.take width) 0

/-- The minutes of a coordinate. -/
def minutesOf (width : Nat) (coordinate : CString) : ℚ := decimalValue (coordinate.drop width)

/-- The two fields of a coordinate spell it, up to half a unit of the last digit. -/
structure Accurate (width : Nat) (positive negative : Char) (x : ℚ)
    (coordinate hemisphere : CString) : Prop where
  minutes_nonneg : 0 ≤ minutesOf width coordinate
  minutes_lt : minutesOf width coordinate < 60
  error : |signOf positive negative hemisphere
    * (degreesOf width coordinate + minutesOf width coordinate / 60) - x| ≤ 1 / 2 / 10 ^ 6 / 60

/-- The four fields of the coordinates. -/
def AccurateFields (location : GpsLocation Single ℚ) (fields : List CString) : Prop :=
  Accurate 2 'N' 'S' location.latitude (fields.getD 0 []) (fields.getD 1 []) ∧
    Accurate 3 'E' 'W' location.longitude (fields.getD 2 []) (fields.getD 3 [])

/-- RMC and GGA print the coordinates. There is one sentence of each name, and the fields of
latitude and longitude, read back as degrees, minutes and hemisphere, give the coordinates up to the
rounding of the minutes. -/
def PrintsCoordinates (location : GpsLocation Single ℚ) (sentences : List CString) : Prop :=
  ∃ rmc gga, sentences.filter (IsNamed "RMC".toList ·) = [rmc] ∧
    sentences.filter (IsNamed "GGA".toList ·) = [gga] ∧
    AccurateFields location ((fieldsOf rmc).drop 3) ∧
    AccurateFields location ((fieldsOf gga).drop 2)

/-! ### One coordinate -/

theorem length_formatD_natCast {width n : Nat} (hwidth : 0 < width) (h : n < 10 ^ width) :
    (formatD width (n : Int)).length = width := by
  have := length_toDigits_le hwidth h
  rw [formatD_natCast, length_zeroPad]
  omega

/-- What is printed of a coordinate without its sign. -/
theorem degreesMinutes_exact (width : Nat) {x : ℚ} (hx : 0 ≤ x) (hlt : x < 256) :
    degreesMinutes exact width x
      = formatD width (⌊x⌋.toNat : Int) ++ formatFixed 9 6 (60 * Int.fract x) := by
  have hfloor : 0 ≤ ⌊x⌋ := Int.floor_nonneg.mpr hx
  have hfloorLt : ⌊x⌋ < 256 := Int.floor_lt.mpr (by exact_mod_cast hlt)
  -- a byte holds the degrees
  have hdegrees : (exact.toUint8 (exact.floor x)).toNat = ⌊x⌋.toNat := by
    show (BitVec.ofInt 8 (truncate (⌊x⌋ : ℚ))).toNat = _
    have htruncate : truncate (⌊x⌋ : ℚ) = ⌊x⌋ := by
      rw [truncate, if_pos (by exact_mod_cast hfloor), Int.floor_intCast]
    rw [htruncate, BitVec.toNat_ofInt]
    omega
  -- the remainder of the minutes is the fraction of a degree
  have hminutes : exact.fmod (exact.mul x (exact.ofRat 60)) (exact.ofRat 60)
      = 60 * Int.fract x := by
    show x * 60 - 60 * truncate (x * 60 / 60) = _
    rw [mul_div_cancel_right₀ x (by norm_num), truncate, if_pos hx, Int.fract]
    ring
  rw [degreesMinutes, hdegrees, hminutes]
  rfl

/-- The minutes are not rounded up to 60. The minutes are printed with six decimals, and a tie is
rounded to the even neighbour, which is 60 at the bound. -/
def MinutesFit (x : ℚ) : Prop := 60 * Int.fract |x| < 60 - 1 / (2 * 10 ^ 6)

instance (x : ℚ) : Decidable (MinutesFit x) := inferInstanceAs (Decidable (_ < _))

theorem minutes_lt_iff (x : ℚ) :
    (unitsOf 6 (60 * Int.fract |x|) : ℚ) / 10 ^ 6 < 60 ↔ MinutesFit x := by
  have hfract : 0 ≤ 60 * Int.fract |x| := mul_nonneg (by norm_num) (Int.fract_nonneg _)
  have hunits := @unitsOf_lt_iff 6 (60 * 10 ^ 6) (60 * Int.fract |x|) (by decide)
  have hcast : (unitsOf 6 (60 * Int.fract |x|) : ℚ) / 10 ^ 6 < 60
      ↔ unitsOf 6 (60 * Int.fract |x|) < 60 * 10 ^ 6 := by
    rw [div_lt_iff₀ (by norm_num)]
    exact_mod_cast Iff.rfl
  -- half a unit below 60 the rounding goes up to the even number
  rw [hcast, hunits, abs_of_nonneg hfract, MinutesFit]
  push_cast
  constructor <;> intro h <;> linarith

/-- A coordinate is accurate exactly when its minutes are not rounded up to 60. -/
theorem accurate_iff {width : Nat} (hwidth : 0 < width) {positive negative : Char}
    {hemisphere : CString} {x : ℚ} (h256 : |x| < 256) (hx : |x| < 10 ^ width)
    (hsign : signOf positive negative hemisphere * |x| = x)
    (hunit : |signOf positive negative hemisphere| = 1) :
    Accurate width positive negative x (degreesMinutes exact width |x|) hemisphere ↔
      MinutesFit x := by
  have hfloor : 0 ≤ ⌊|x|⌋ := Int.floor_nonneg.mpr (abs_nonneg x)
  have hfract : 0 ≤ 60 * Int.fract |x| := mul_nonneg (by norm_num) (Int.fract_nonneg _)
  -- the degrees take exactly `width` places
  have hlength : (formatD width (⌊|x|⌋.toNat : Int)).length = width := by
    refine length_formatD_natCast hwidth ?_
    have hlt : ⌊|x|⌋ < 10 ^ width := Int.floor_lt.mpr (by exact_mod_cast hx)
    zify
    rw [Int.toNat_of_nonneg hfloor]
    exact hlt
  -- so the text splits into the whole degrees and the rounded minutes
  have hdegrees : degreesOf width (degreesMinutes exact width |x|) = ⌊|x|⌋.toNat := by
    rw [degreesOf, degreesMinutes_exact width (abs_nonneg x) h256,
      List.take_append_of_le_length hlength.ge, List.take_of_length_le hlength.le, formatD_natCast,
      ofDigitChars_zeroPad]
  have hminutes : minutesOf width (degreesMinutes exact width |x|)
      = unitsOf 6 (60 * Int.fract |x|) / 10 ^ 6 := by
    rw [minutesOf, degreesMinutes_exact width (abs_nonneg x) h256,
      List.drop_append_of_le_length hlength.ge, List.drop_of_length_le hlength.le, List.nil_append,
      decimalValue_formatFixed 9 (by decide) hfract]
  constructor
  · intro h
    exact (minutes_lt_iff x).mp (hminutes ▸ h.minutes_lt)
  · intro h
    refine ⟨?_, ?_, ?_⟩
    · rw [hminutes]
      positivity
    · rw [hminutes]
      exact (minutes_lt_iff x).mpr h
    · -- the degrees and the exact minutes are the coordinate
      have hcast : ((⌊|x|⌋.toNat : ℕ) : ℚ) = ⌊|x|⌋ := by
        exact_mod_cast Int.toNat_of_nonneg hfloor
      -- the rounding of the minutes is the only error left
      have herror := abs_unitsOf_sub_le 6 (60 * Int.fract |x|)
      rw [abs_of_nonneg hfract] at herror
      have hsplit : |x| = ⌊|x|⌋ + Int.fract |x| := (Int.floor_add_fract |x|).symm
      have hvalue : signOf positive negative hemisphere
          * (⌊|x|⌋ + unitsOf 6 (60 * Int.fract |x|) / 10 ^ 6 / 60) - x
            = signOf positive negative hemisphere
              * ((unitsOf 6 (60 * Int.fract |x|) - 60 * Int.fract |x| * 10 ^ 6)
                / (10 ^ 6 * 60)) := by
        linear_combination hsign - signOf positive negative hemisphere * hsplit
      rw [hdegrees, hminutes, hcast, hvalue, abs_mul, hunit, one_mul, abs_div,
        abs_of_pos (by norm_num : (0 : ℚ) < 10 ^ 6 * 60), div_div]
      exact div_le_div_of_nonneg_right herror (by norm_num)

/-! ### The sentences -/

theorem latitudeOf_exact (location : GpsLocation Single ℚ) :
    (latitudeOf exact location).1 = |location.latitude| ∧
      signOf 'N' 'S' [(latitudeOf exact location).2] * |location.latitude| = location.latitude ∧
      |signOf 'N' 'S' [(latitudeOf exact location).2]| = 1 := by
  simp only [latitudeOf, exact_lt, exact_mul, exact_ofRat, decide_eq_true_eq]
  by_cases h : 0 < location.latitude
  · simp [h, signOf, abs_of_pos h]
  · simp [h, signOf, abs_of_nonpos (not_lt.mp h)]

theorem longitudeOf_exact (location : GpsLocation Single ℚ) :
    (longitudeOf exact location).1 = |location.longitude| ∧
      signOf 'E' 'W' [(longitudeOf exact location).2] * |location.longitude|
        = location.longitude ∧
      |signOf 'E' 'W' [(longitudeOf exact location).2]| = 1 := by
  simp only [longitudeOf, exact_lt, exact_mul, exact_ofRat, decide_eq_true_eq]
  by_cases h : location.longitude < 0
  · simp [h, signOf, abs_of_neg h]
  · simp [h, signOf, abs_of_nonneg (not_lt.mp h)]

/-- The four fields, with whatever comes behind them. -/
theorem accurateFields_latLong_iff {location : GpsLocation Single ℚ}
    (hflag : location.hasLatLong = true) (hlat : |location.latitude| ≤ 90)
    (hlon : |location.longitude| ≤ 180) (rest : List CString) :
    AccurateFields location (latLongFields exact location ++ rest) ↔
      MinutesFit location.latitude ∧ MinutesFit location.longitude := by
  obtain ⟨hlatAbs, hlatSign, hlatUnit⟩ := latitudeOf_exact location
  obtain ⟨hlonAbs, hlonSign, hlonUnit⟩ := longitudeOf_exact location
  have hlatIff := accurate_iff (show 0 < 2 by decide) (by linarith) (by linarith) hlatSign hlatUnit
  have hlonIff := accurate_iff (show 0 < 3 by decide) (by linarith) (by linarith) hlonSign hlonUnit
  rw [← hlatIff, ← hlonIff, ← hlatAbs, ← hlonAbs]
  simp only [latLongFields, hflag, onlyIf, if_true]
  rfl

/-- The coordinates are accurate exactly when the time can be printed and no minutes are rounded up
to 60.

The degrees are cut off first and the minutes are rounded when they are printed, so just below a
whole degree the minutes become 60 and the degrees stay. The error is small in any case. -/
theorem printsCoordinates_iff (location : GpsLocation Single ℚ)
    (extended : GpsLocationExtended Single) (gmtime : Int → Option Tm)
    (hflag : location.hasLatLong = true) (hlat : |location.latitude| ≤ 90)
    (hlon : |location.longitude| ≤ 180) :
    PrintsCoordinates location (locNmeaGeneratePos exact location extended gmtime true) ↔
      (gmtime (location.timestamp.tdiv 1000)).isSome ∧ MinutesFit location.latitude ∧
        MinutesFit location.longitude := by
  cases htm : gmtime (location.timestamp.tdiv 1000) with
  | none =>
      -- without a time there is no RMC
      refine iff_of_false ?_ (fun h => absurd h.1 (by decide))
      rintro ⟨rmc, gga, hrmc, -⟩
      rw [locNmeaGeneratePos, htm] at hrmc
      cases hrmc
  | some tm =>
      obtain ⟨-, hrmc, hgga⟩ := filter_isNamed_pos location extended printsNumbers_exact htm
      obtain ⟨-, hplain⟩ := posTalker_letters exact extended
      have hrmcPlain := isPlain_rmcFields location extended printsNumbers_exact tm hplain
      have hggaPlain := isPlain_ggaFields location extended printsNumbers_exact tm hplain
        (posUsedCount exact extended)
      have haccurate := accurateFields_latLong_iff hflag hlat hlon
      -- whatever is printed behind the coordinates
      have hrmcFields : ∀ rest, AccurateFields location ((fieldsOf (snprintf
          ('$' :: commas (rmcFields exact location extended tm (posTalker exact extended)) ++ ['V'])
            rest)).drop 3) ↔ MinutesFit location.latitude ∧ MinutesFit location.longitude := by
        intro rest
        rw [snprintf, List.append_assoc, fieldsOf_append hrmcPlain]
        exact haccurate _
      have hggaFields : ∀ piece rest, AccurateFields location ((fieldsOf (snprintf (snprintf
          ('$' :: commas (ggaFields exact location extended tm (posTalker exact extended)
            (posUsedCount exact extended))) piece) rest)).drop 2) ↔
          MinutesFit location.latitude ∧ MinutesFit location.longitude := by
        intro piece rest
        rw [snprintf, snprintf, List.append_assoc, fieldsOf_append hggaPlain]
        exact haccurate _
      constructor
      · rintro ⟨rmc, gga, hrmc', -, haccurateRmc, -⟩
        obtain ⟨rfl, -⟩ := List.cons.inj (hrmc.symm.trans hrmc')
        exact ⟨rfl, (hrmcFields _).mp haccurateRmc⟩
      · rintro ⟨-, hfit⟩
        exact ⟨_, _, hrmc, hgga, (hrmcFields _).mpr hfit, (hggaFields _ _).mpr hfit⟩

/-- A place north of the equator and west of Greenwich. -/
theorem printsCoordinates_northWest :
    PrintsCoordinates
      { noFix with hasLatLong := true, latitude := 149 / 4, longitude := -(977 / 8) }
      (locNmeaGeneratePos exact
        { noFix with hasLatLong := true, latitude := 149 / 4, longitude := -(977 / 8) } noData
        (fun _ => some ⟨0, 0, 0, 1, 0, 100⟩) true) :=
  (printsCoordinates_iff
    { noFix with hasLatLong := true, latitude := 149 / 4, longitude := -(977 / 8) } noData
    (fun _ => some ⟨0, 0, 0, 1, 0, 100⟩) rfl (by decide +kernel) (by decide +kernel)).mpr
      ⟨rfl, by decide +kernel, by decide +kernel⟩

/-- A latitude just below ten degrees is printed as nine degrees and sixty minutes. -/
theorem not_printsCoordinates_sixty :
    ¬ PrintsCoordinates { noFix with hasLatLong := true, latitude := 10 - 1 / 2 ^ 40 }
      (locNmeaGeneratePos exact { noFix with hasLatLong := true, latitude := 10 - 1 / 2 ^ 40 }
        noData (fun _ => some ⟨0, 0, 0, 1, 0, 100⟩) true) := by
  rintro ⟨rmc, -, hrmc, -, haccurate, -⟩
  have hprinted : (locNmeaGeneratePos exact
      { noFix with hasLatLong := true, latitude := 10 - 1 / 2 ^ 40 } noData
      (fun _ => some ⟨0, 0, 0, 1, 0, 100⟩) true).filter (IsNamed "RMC".toList ·)
        = ["$GPRMC,000000.00,A,0960.000000,N,00000.000000,E,,,010100,,,A,V*2B\r\n".toList] := by
    decide +kernel
  obtain ⟨rfl, -⟩ := List.cons.inj (hprinted.symm.trans hrmc)
  -- `0960.000000` reads as sixty minutes
  exact absurd haccurate.1.minutes_lt (by decide +kernel)

end LocHal.Util.LocNmea
