import LocHal.Util.NmeaExact
import LocHal.Util.NmeaTrack

/-!
# `LocHal.Util.NmeaCourse`: magnetic north in VTG and RMC

VTG prints the true and the magnetic course, and RMC the variation between them. The block that
takes the deviation off the course assigns a variable of its own, so VTG prints the true course
twice. `agreesOnNorth_iff` says that only a variation that prints as zero or one tenth goes
unnoticed.

The numbers are those of `LocHal.Util.NmeaCoordinates`. `courses_vtg` and `variation_rmc` read the
two courses and the variation back from the sentences. After that the property is about three
numbers of tenths: VTG prints the same number twice, so the variation has to be a whole number of
turns up to three roundings (`exists_turns_iff`), and only the variations 0.0 and 0.1 are.
-/

set_option autoImplicit false

namespace LocHal.Util.LocNmea

/-- The magnetic course of VTG is the true one without the variation of RMC, up to whole turns and
the rounding of the three numbers. Each of them is printed with one decimal, so it is off by a
twentieth at most. The magnetic course has to be a course as well, from 0 to 360. -/
def AgreesOnNorth (sentences : List CString) : Prop :=
  ∃ vtg rmc, sentences.filter (IsNamed "VTG".toList ·) = [vtg] ∧
    sentences.filter (IsNamed "RMC".toList ·) = [rmc] ∧
    let course := decimalValue ((fieldsOf vtg).getD 1 [])
    let magnetic := decimalValue ((fieldsOf vtg).getD 3 [])
    let variation := signOf 'E' 'W' ((fieldsOf rmc).getD 11 [])
      * decimalValue ((fieldsOf rmc).getD 10 [])
    0 ≤ magnetic ∧ magnetic ≤ 360 ∧
      ∃ turns : ℤ, |magnetic - (course - variation) - 360 * turns| ≤ 3 * (1 / 20)

/-- The variation is the absolute value of the deviation, and its direction the sign. -/
theorem variationOf_exact (extended : GpsLocationExtended Single) :
    (variationOf exact extended).1.value = |extended.magneticDeviation.value| ∧
      |signOf 'E' 'W' [(variationOf exact extended).2]| = 1 := by
  simp only [variationOf, exact_lt, exact_mul, exact_ofRat, decide_eq_true_eq]
  by_cases h : extended.magneticDeviation.value < 0
  · have hrange : |extended.magneticDeviation.value * -1| ≤ 4 * 10 ^ 38 := by
      rw [mul_neg_one, abs_neg]
      exact extended.magneticDeviation.inRange
    rw [if_pos (show exact.ofFloat extended.magneticDeviation < 0 from h)]
    refine ⟨?_, by simp [signOf]⟩
    show (Single.ofRat (extended.magneticDeviation.value * -1)).value = _
    rw [Single.value_ofRat hrange, abs_of_neg h, mul_neg_one]
  · rw [if_neg (show ¬ exact.ofFloat extended.magneticDeviation < 0 from h)]
    exact ⟨(abs_of_nonneg (not_lt.mp h)).symm, by simp [signOf]⟩

/-- A variation of some tenths is no whole turn. -/
theorem exists_turns_iff {sign : ℚ} (hsign : |sign| = 1) {tenths : Nat} (h : tenths ≤ 1800)
    (course : ℚ) :
    (∃ turns : ℤ, |course - (course - sign * (tenths / 10)) - 360 * turns| ≤ 3 * (1 / 20)) ↔
      tenths < 2 := by
  have htenths : (tenths : ℚ) ≤ 1800 := by exact_mod_cast h
  have hnonneg : (0 : ℚ) ≤ tenths := Nat.cast_nonneg tenths
  constructor
  · rintro ⟨turns, hturns⟩
    obtain ⟨hlow, hhigh⟩ := abs_le.mp hturns
    rcases (abs_eq (by norm_num)).mp hsign with rfl | rfl
    all_goals
      -- 180 degrees are less than a turn, so the turns are none
      have hlt : (turns : ℚ) < 1 := by linarith
      have hgt : (-1 : ℚ) < turns := by linarith
      have hlt' : turns < 1 := by exact_mod_cast hlt
      have hgt' : -1 < turns := by exact_mod_cast hgt
      obtain rfl : turns = 0 := by omega
      have htwo : (tenths : ℚ) < 2 := by
        push_cast at hlow hhigh
        linarith
      exact_mod_cast htwo
  · intro hlt
    have hone : (tenths : ℚ) ≤ 1 := by exact_mod_cast Nat.le_of_lt_succ hlt
    refine ⟨0, abs_le.mpr ?_⟩
    rcases (abs_eq (by norm_num)).mp hsign with rfl | rfl
    all_goals
      push_cast
      constructor <;> linarith

section
variable (location : GpsLocation Single ℚ) (extended : GpsLocationExtended Single)

/-- VTG prints the true course twice. -/
theorem courses_vtg (hbearing : location.hasBearing = true) :
    let vtg := locNmeaPutChecksum ('$' :: commas (vtgFields exact location
      (posTalker exact extended)) ++ [modeIndicator location extended])
    (fieldsOf vtg).getD 1 [] = formatFixed 0 1 location.bearing.value ∧
      (fieldsOf vtg).getD 3 [] = formatFixed 0 1 location.bearing.value := by
  obtain ⟨-, hplain⟩ := posTalker_letters exact extended
  show (fieldsOf (snprintf _ _)).getD 1 [] = _ ∧ (fieldsOf (snprintf _ _)).getD 3 [] = _
  rw [snprintf, List.append_assoc,
    fieldsOf_append (isPlain_vtgFields location printsNumbers_exact hplain)]
  refine ⟨?_, ?_⟩
  all_goals
    show onlyIf location.hasBearing _ = _
    rw [hbearing]
    rfl

/-- RMC prints the variation and its direction. -/
theorem variation_rmc (hdev : extended.hasMagDev = true) (tm : Tm) :
    let rmc := locNmeaPutChecksum ('$' :: commas (rmcFields exact location extended tm
      (posTalker exact extended)) ++ ['V'])
    (fieldsOf rmc).getD 10 [] = formatFixed 0 1 |extended.magneticDeviation.value| ∧
      (fieldsOf rmc).getD 11 [] = [(variationOf exact extended).2] := by
  obtain ⟨-, hplain⟩ := posTalker_letters exact extended
  show (fieldsOf (snprintf _ _)).getD 10 [] = _ ∧ (fieldsOf (snprintf _ _)).getD 11 [] = _
  rw [snprintf, List.append_assoc,
    fieldsOf_append (isPlain_rmcFields location extended printsNumbers_exact tm hplain),
    ← (variationOf_exact extended).1]
  refine ⟨?_, ?_⟩
  all_goals
    show onlyIf extended.hasMagDev _ = _
    rw [hdev]
    rfl

/-- The number of tenths decides. -/
theorem agreesOnNorth_iff_tenths {gmtime : Int → Option Tm} {tm : Tm}
    (htm : gmtime (location.timestamp.tdiv 1000) = some tm)
    (hbearing : location.hasBearing = true) (hdev : extended.hasMagDev = true)
    (hcourse : 0 ≤ location.bearing.value) (hlt : location.bearing.value < 360)
    (hrange : |extended.magneticDeviation.value| ≤ 180) :
    AgreesOnNorth (locNmeaGeneratePos exact location extended gmtime true) ↔
      unitsOf 1 |extended.magneticDeviation.value| < 2 := by
  obtain ⟨hvtg, hrmc, -⟩ := filter_isNamed_pos location extended printsNumbers_exact htm
  have hcourses := courses_vtg location extended hbearing
  have hvariation := variation_rmc location extended hdev tm
  have hcourseValue := decimalValue_formatFixed 0 (show 0 < 1 by decide) hcourse
  have hvariationValue := decimalValue_formatFixed 0 (show 0 < 1 by decide)
    (abs_nonneg extended.magneticDeviation.value)
  have hunits : unitsOf 1 location.bearing.value ≤ 3600 := by
    refine unitsOf_le ?_
    rw [abs_of_nonneg hcourse]
    push_cast
    linarith
  have htenths : unitsOf 1 |extended.magneticDeviation.value| ≤ 1800 := by
    refine unitsOf_le ?_
    rw [abs_abs]
    push_cast
    linarith
  have hcourseLe : (unitsOf 1 location.bearing.value : ℚ) / 10 ^ 1 ≤ 360 := by
    rw [div_le_iff₀ (by norm_num)]
    exact_mod_cast hunits
  -- VTG prints the true course for the magnetic one: the variation remains
  rw [← exists_turns_iff (variationOf_exact extended).2 htenths
    ((unitsOf 1 location.bearing.value : ℚ) / 10 ^ 1)]
  constructor
  · rintro ⟨vtg, rmc, hvtg', hrmc', -, -, hagree⟩
    -- the sentences of the two names are the ones printed
    obtain ⟨rfl, -⟩ := List.cons.inj (hvtg.symm.trans hvtg')
    obtain ⟨rfl, -⟩ := List.cons.inj (hrmc.symm.trans hrmc')
    rw [hcourses.1, hcourses.2, hvariation.1, hvariation.2, hcourseValue, hvariationValue] at hagree
    simpa using hagree
  · intro hagree
    refine ⟨_, _, hvtg, hrmc, ?_⟩
    rw [hcourses.1, hcourses.2, hvariation.1, hvariation.2, hcourseValue, hvariationValue]
    exact ⟨by positivity, hcourseLe, by simpa using hagree⟩

end

/-- VTG and RMC agree exactly when the time can be printed and the variation is below 0.15.

VTG prints the true course for the magnetic one, since the computed one is a variable of an inner
block with the same name. A variation below 0.15 is printed as 0.0 or 0.1, which is within the
rounding of the numbers. -/
theorem agreesOnNorth_iff (location : GpsLocation Single ℚ) (extended : GpsLocationExtended Single)
    (gmtime : Int → Option Tm) (hbearing : location.hasBearing = true)
    (hdev : extended.hasMagDev = true) (hcourse : 0 ≤ location.bearing.value)
    (hlt : location.bearing.value < 360) (hrange : |extended.magneticDeviation.value| ≤ 180) :
    AgreesOnNorth (locNmeaGeneratePos exact location extended gmtime true) ↔
      (gmtime (location.timestamp.tdiv 1000)).isSome ∧
        |extended.magneticDeviation.value| < 3 / 20 := by
  cases htm : gmtime (location.timestamp.tdiv 1000) with
  | none =>
      -- without a time there is no VTG
      refine iff_of_false ?_ (fun h => absurd h.1 (by decide))
      rintro ⟨vtg, rmc, hvtg, -⟩
      rw [locNmeaGeneratePos, htm] at hvtg
      cases hvtg
  | some tm =>
      rw [agreesOnNorth_iff_tenths location extended htm hbearing hdev hcourse hlt hrange,
        unitsOf_lt_iff (by decide), abs_abs]
      constructor
      · intro h
        -- fewer than two tenths: below 0.15, since the tie goes to the even tenth
        push_cast at h
        exact ⟨rfl, by linarith⟩
      · rintro ⟨-, h⟩
        push_cast
        linarith

/-- A variation of one tenth. -/
theorem agreesOnNorth_tenth :
    AgreesOnNorth (locNmeaGeneratePos exact
      { noFix with hasBearing := true, bearing := .ofRat 90 }
      { noData with hasMagDev := true, magneticDeviation := .ofRat (-1 / 10) }
      (fun _ => some ⟨0, 0, 0, 1, 0, 100⟩) true) :=
  (agreesOnNorth_iff { noFix with hasBearing := true, bearing := .ofRat 90 }
    { noData with hasMagDev := true, magneticDeviation := .ofRat (-1 / 10) }
    (fun _ => some ⟨0, 0, 0, 1, 0, 100⟩) rfl rfl (by decide +kernel) (by decide +kernel)
    (by decide +kernel)).mpr ⟨rfl, by decide +kernel⟩

/-- A course of 90 degrees with a variation of 10 to the east: VTG prints 90 degrees twice. -/
theorem not_agreesOnNorth_ten :
    ¬ AgreesOnNorth (locNmeaGeneratePos exact
      { noFix with hasBearing := true, bearing := .ofRat 90 }
      { noData with hasMagDev := true, magneticDeviation := .ofRat 10 }
      (fun _ => some ⟨0, 0, 0, 1, 0, 100⟩) true) := by
  rintro ⟨vtg, rmc, hvtg, hrmc, -, -, hagree⟩
  have hprinted :
      let sentences := locNmeaGeneratePos exact
        { noFix with hasBearing := true, bearing := .ofRat 90 }
        { noData with hasMagDev := true, magneticDeviation := .ofRat 10 }
        (fun _ => some ⟨0, 0, 0, 1, 0, 100⟩) true
      sentences.filter (IsNamed "VTG".toList ·)
          = ["$GPVTG,90.0,T,90.0,M,,N,,K,N*2C\r\n".toList] ∧
        sentences.filter (IsNamed "RMC".toList ·)
          = ["$GPRMC,000000.00,A,,,,,,90.0,010100,10.0,E,N,V*5D\r\n".toList] := by
    decide +kernel
  obtain ⟨rfl, -⟩ := List.cons.inj (hprinted.1.symm.trans hvtg)
  obtain ⟨rfl, -⟩ := List.cons.inj (hprinted.2.symm.trans hrmc)
  have hcourse : decimalValue "90.0".toList = 90 := by decide +kernel
  have hvariation : decimalValue "10.0".toList = 10 := by decide +kernel
  obtain ⟨turns, hturns⟩ := hagree
  have hle : |decimalValue "90.0".toList
      - (decimalValue "90.0".toList - 1 * decimalValue "10.0".toList) - 360 * turns|
        ≤ 3 * (1 / 20) := hturns
  rw [hcourse, hvariation] at hle
  -- ten degrees are no multiple of a turn
  obtain ⟨hlow, hhigh⟩ := abs_le.mp hle
  have hpos : (0 : ℚ) < turns := by linarith
  have hlt : (turns : ℚ) < 1 := by linarith
  have hpos' : 0 < turns := by exact_mod_cast hpos
  have hlt' : turns < 1 := by exact_mod_cast hlt
  omega

end LocHal.Util.LocNmea
