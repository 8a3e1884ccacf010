import LocHal.Util.NmeaGsa

/-!
# `LocHal.Util.NmeaTrack`: the fields of VTG, RMC and GGA

Each sentence is a list of fields. No piece is too long for the buffer, except the last one of GGA,
which is not checked: `vtgText_eq`, `rmcText_eq` and `ggaHead_eq` give the texts.

A sentence is described three times: by the function of the source that prints it, by the groups of
fields that are printed with one `snprintf` each (`rmcGroups`, `ggaGroups`), and by its fields
(`vtgFields`, `rmcFields`, `ggaFields`). The groups are what the check of the buffer is about, and
the fields are what a reader sees.

The lengths add up: VTG and RMC leave room for the checksum in any case, and GGA fits the buffer
before its last piece. `trackSentences_eq` has the three sentences together, and
`filter_isNamed_pos` picks one of them by its name.
-/

set_option autoImplicit false

namespace LocHal.Util.LocNmea

variable {φ δ : Type}

/-- The field of a value that there may not be. -/
def onlyIf (b : Bool) (f : CString) : CString := if b then f else []

theorem length_onlyIf_le (b : Bool) (f : CString) : (onlyIf b f).length ≤ f.length := by
  cases b
  · exact Nat.zero_le _
  · exact Nat.le_refl _

theorem IsPlain.onlyIf {f : CString} (h : IsPlain f) (b : Bool) : IsPlain (onlyIf b f) := by
  cases b
  · exact isPlain_nil
  · exact h

/-- A character that is no separator is a field. -/
theorem isPlain_singleton {c : Char} (h : c ≠ '$' ∧ c ≠ '*' ∧ c ≠ ',') : IsPlain [c] :=
  ⟨by simp [h.1.symm], by simp [h.2.1.symm], by simp [h.2.2.symm]⟩

theorem onlyIfPiece_eq (b : Bool) (f : CString) :
    (if b then f ++ [','] else [',']) = commas [onlyIf b f] := by
  cases b <;> simp [commas, onlyIf]

/-- A `float` with one decimal, if there is one. -/
theorem length_onlyIf_float_le {r : Reals φ δ} (hr : PrintsNumbers r) (b : Bool) (x : φ) :
    (onlyIf b (r.format1 (r.ofFloat x))).length ≤ 42 :=
  (length_onlyIf_le b _).trans (hr.length_float x)

theorem length_onlyIf_singleton_le (b : Bool) (c : Char) : (onlyIf b [c]).length ≤ 1 :=
  length_onlyIf_le b [c]

section
variable (r : Reals φ δ) (location : GpsLocation φ δ) (extended : GpsLocationExtended φ)

/-! ### VTG -/

/-- The fields of the course. -/
def courseFields (talker : CString) : List CString :=
  let course := onlyIf location.hasBearing (r.format1 (r.ofFloat location.bearing))
  [talker ++ "VTG".toList, course, ['T'], course, ['M']]

/-- The fields of the speed. -/
def speedFields : List CString :=
  [onlyIf location.hasSpeed (r.format1 (r.ofFloat (speedKnots r location))), ['N'],
    onlyIf location.hasSpeed (r.format1 (r.ofFloat (speedKmPerHour r location))), ['K']]

/-- The fields of a VTG sentence before the mode indicator. -/
def vtgFields (talker : CString) : List CString :=
  courseFields r location talker ++ speedFields r location

theorem vtgTrack_eq (talker : CString) :
    vtgTrack r location talker = '$' :: commas (courseFields r location talker) := by
  unfold vtgTrack courseFields onlyIf
  split <;> simp [commas]

theorem speedPiece_eq :
    (if location.hasSpeed then
      r.format1 (r.ofFloat (speedKnots r location)) ++ ",N,".toList
        ++ r.format1 (r.ofFloat (speedKmPerHour r location)) ++ ",K,".toList
    else ",N,,K,".toList) = commas (speedFields r location) := by
  unfold speedFields onlyIf
  split <;> simp [commas]

theorem length_vtgFields_le {r : Reals φ δ} (hr : PrintsNumbers r) {talker : CString}
    (htalker : talker.length = 2) : (commas (vtgFields r location talker)).length ≤ 186 := by
  have hbearing := length_onlyIf_float_le hr location.hasBearing location.bearing
  have hknots := length_onlyIf_float_le hr location.hasSpeed (speedKnots r location)
  have hkm := length_onlyIf_float_le hr location.hasSpeed (speedKmPerHour r location)
  simp [vtgFields, courseFields, speedFields, length_commas, htalker]
  omega

/-- The text of VTG is its fields, and it leaves room for the checksum. -/
theorem vtgText_eq {r : Reals φ δ} (hr : PrintsNumbers r) {talker : CString}
    (htalker : talker.length = 2) :
    vtgText r location extended talker
        = some ('$' :: commas (vtgFields r location talker) ++ [modeIndicator location extended]) ∧
      ('$' :: commas (vtgFields r location talker) ++ [modeIndicator location extended]).length
        ≤ 194 := by
  have hlength := length_vtgFields_le location hr htalker
  constructor
  · have hprint : vtgText r location extended talker = (do
        let text ← tryPrint [] ('$' :: commas (courseFields r location talker))
        let text ← [speedFields r location].foldlM (fun text g => tryPrint text (commas g)) text
        some (snprintf text [modeIndicator location extended])) := by
      unfold vtgText
      rw [vtgTrack_eq, speedPiece_eq]
      simp only [List.foldlM_cons, List.foldlM_nil, bind_pure]
    rw [vtgFields] at hlength ⊢
    rw [hprint, ← bind_assoc, print_groups (by simp at hlength ⊢; omega)]
    show some (snprintf ('$' :: commas _) _) = _
    rw [snprintf_of_lt (by simp at hlength ⊢; omega)]
    simp
  · rw [List.length_append, List.length_cons, List.length_singleton]
    omega

/-! ### RMC -/

/-- The fields of the coordinates. -/
def latLongFields : List CString :=
  [onlyIf location.hasLatLong (degreesMinutes r 2 (latitudeOf r location).1),
    onlyIf location.hasLatLong [(latitudeOf r location).2],
    onlyIf location.hasLatLong (degreesMinutes r 3 (longitudeOf r location).1),
    onlyIf location.hasLatLong [(longitudeOf r location).2]]

/-- The magnetic variation without its sign, and its direction. -/
def variationOf : φ × Char :=
  if r.lt (r.ofFloat extended.magneticDeviation) (r.ofRat 0) then
    (r.toFloat (r.mul (r.ofFloat extended.magneticDeviation) (r.ofRat (-1))), 'W')
  else (extended.magneticDeviation, 'E')

/-- The fields of the variation. -/
def variationFields : List CString :=
  [onlyIf extended.hasMagDev (r.format1 (r.ofFloat (variationOf r extended).1)),
    onlyIf extended.hasMagDev [(variationOf r extended).2]]

/-- `%2.2d%2.2d%2.2d` of the date. -/
def dateOf (tm : Tm) : CString :=
  formatPrecision tm.tmMday.val ++ formatPrecision (tm.tmMon.val + 1)
    ++ formatPrecision (tm.tmYear.tmod 100)

/-- The fields of a RMC sentence behind the time, piece by piece. -/
def rmcGroups (tm : Tm) : List (List CString) :=
  [latLongFields r location,
    [onlyIf location.hasSpeed (r.format1 (r.ofFloat (speedKnots r location)))],
    [onlyIf location.hasBearing (r.format1 (r.ofFloat location.bearing))], [dateOf tm],
    variationFields r extended]

/-- The fields of a RMC sentence before the navigation status. -/
def rmcFields (tm : Tm) (talker : CString) : List CString :=
  [talker ++ "RMC".toList, timeOfDay location tm, ['A']]
    ++ (rmcGroups r location extended tm).flatten ++ [[modeIndicator location extended]]

theorem latLong_eq : latLong r location = commas (latLongFields r location) := by
  unfold latLong latLongFields onlyIf
  split <;> simp [commas]

theorem magneticVariation_eq :
    magneticVariation r extended = commas (variationFields r extended) := by
  unfold magneticVariation variationFields variationOf onlyIf
  split <;> simp [commas]

theorem length_timeOfDay_le (tm : Tm) : (timeOfDay location tm).length ≤ 10 := by
  have hhour := length_formatD_natCast_le 2 (k := 2) (by decide)
    (show tm.tmHour.val < 10 ^ 2 by have := tm.tmHour.isLt; omega)
  have hmin := length_formatD_natCast_le 2 (k := 2) (by decide)
    (show tm.tmMin.val < 10 ^ 2 by have := tm.tmMin.isLt; omega)
  have hsec := length_formatD_natCast_le 2 (k := 2) (by decide)
    (show tm.tmSec.val < 10 ^ 2 by have := tm.tmSec.isLt; omega)
  -- the hundredths may be negative before 1970, which costs one more character
  have hms := length_formatD_le 2 (k := 2) (n := (location.timestamp.tmod 1000).tdiv 10)
    (by decide) (by
      rw [Int.natAbs_tdiv, Int.natAbs_tmod]
      show location.timestamp.natAbs % 1000 / 10 < 100
      omega)
  simp only [timeOfDay, List.length_append, List.length_cons]
  omega

theorem length_degreesMinutes_le {r : Reals φ δ} (hr : PrintsNumbers r) {width : Nat}
    (hwidth : width ≤ 3) (x : δ) : (degreesMinutes r width x).length ≤ 13 := by
  have hdegrees := length_formatD_natCast_le width (k := 3) (by decide)
    (show (r.toUint8 (r.floor x)).toNat < 10 ^ 3 by
      have := (r.toUint8 (r.floor x)).isLt
      omega)
  have hminutes := hr.length_minutes (r.mul x (r.ofRat 60))
  rw [degreesMinutes, List.length_append]
  omega

theorem length_latLongFields_le {r : Reals φ δ} (hr : PrintsNumbers r) :
    (commas (latLongFields r location)).length ≤ 32 := by
  have hlat := (length_onlyIf_le location.hasLatLong _).trans
    (length_degreesMinutes_le hr (show 2 ≤ 3 by decide) (latitudeOf r location).1)
  have hlon := (length_onlyIf_le location.hasLatLong _).trans
    (length_degreesMinutes_le hr (show 3 ≤ 3 by decide) (longitudeOf r location).1)
  have hlat' := length_onlyIf_singleton_le location.hasLatLong (latitudeOf r location).2
  have hlon' := length_onlyIf_singleton_le location.hasLatLong (longitudeOf r location).2
  simp only [latLongFields, length_commas, List.map_cons, List.map_nil, List.sum_cons,
    List.sum_nil]
  omega

theorem length_dateOf_le (tm : Tm) : (dateOf tm).length ≤ 7 := by
  have hmday := length_formatPrecision_natCast_le (n := tm.tmMday.val)
    (by have := tm.tmMday.isLt; omega)
  have hmon := length_formatPrecision_natCast_le (n := tm.tmMon.val + 1)
    (by have := tm.tmMon.isLt; omega)
  have hyear := length_formatPrecision_le (n := tm.tmYear.tmod 100) (by
    rw [Int.natAbs_tmod]
    exact Nat.mod_lt _ (by decide))
  rw [dateOf, List.length_append, List.length_append]
  exact Nat.add_le_add (Nat.add_le_add hmday hmon) hyear

theorem length_rmcFields_le {r : Reals φ δ} (hr : PrintsNumbers r) {talker : CString}
    (htalker : talker.length = 2) (tm : Tm) :
    (commas (rmcFields r location extended tm talker)).length ≤ 192 := by
  have htime := length_timeOfDay_le location tm
  have hcoordinates := length_latLongFields_le location hr
  have hspeed := length_onlyIf_float_le hr location.hasSpeed (speedKnots r location)
  have hbearing := length_onlyIf_float_le hr location.hasBearing location.bearing
  have hdate := length_dateOf_le tm
  have hvariation := length_onlyIf_float_le hr extended.hasMagDev (variationOf r extended).1
  have hdirection := length_onlyIf_singleton_le extended.hasMagDev (variationOf r extended).2
  rw [length_commas] at hcoordinates ⊢
  -- the sum of the coordinates stays whole
  simp only [rmcFields, String.reduceToList, rmcGroups, variationFields, List.flatten_cons,
    List.flatten_nil, List.append_nil, List.cons_append, List.nil_append, List.append_assoc,
    List.map_cons, List.map_append, List.map_nil, List.length_append, List.length_cons,
    List.length_nil, List.sum_cons, List.sum_append, List.sum_nil, htalker]
  omega

/-- The text of RMC is its fields, and it leaves room for the checksum. -/
theorem rmcText_eq {r : Reals φ δ} (hr : PrintsNumbers r) {talker : CString}
    (htalker : talker.length = 2) (tm : Tm) :
    rmcText r location extended tm talker
        = some ('$' :: commas (rmcFields r location extended tm talker) ++ ['V']) ∧
      ('$' :: commas (rmcFields r location extended tm talker) ++ ['V']).length ≤ 194 := by
  have hlength := length_rmcFields_le location extended hr htalker tm
  constructor
  · have htime : '$' :: talker ++ "RMC,".toList ++ timeOfDay location tm ++ ",A,".toList
        = '$' :: commas [talker ++ "RMC".toList, timeOfDay location tm, ['A']] := by
      simp [commas]
    have hdate : dateOf tm ++ [','] = commas [dateOf tm] := rfl
    -- the checked pieces, and the two that are not checked
    have hprint : rmcText r location extended tm talker = (do
        let text ← tryPrint []
          ('$' :: commas [talker ++ "RMC".toList, timeOfDay location tm, ['A']])
        let text ← (rmcGroups r location extended tm).foldlM
          (fun text g => tryPrint text (commas g)) text
        some (snprintf (snprintf text [modeIndicator location extended]) [',', 'V'])) := by
      unfold rmcText rmcGroups
      rw [htime, latLong_eq, onlyIfPiece_eq, onlyIfPiece_eq, ← dateOf, hdate,
        magneticVariation_eq]
      simp only [List.foldlM_cons, List.foldlM_nil, bind_assoc, pure_bind]
    rw [rmcFields, commas_append, List.length_append] at hlength
    rw [hprint, ← bind_assoc, print_groups (by omega)]
    show some (snprintf (snprintf ('$' :: commas _) _) _) = _
    rw [snprintf_snprintf_of_lt (by simp [commas] at hlength ⊢; omega), rmcFields]
    simp [commas_append, commas]
  · rw [List.length_append, List.length_cons, List.length_singleton]
    omega

/-! ### GGA -/

/-- The fields of a GGA sentence behind the time, piece by piece. -/
def ggaGroups (svUsedCount : Nat) : List (List CString) :=
  [latLongFields r location,
    [[gpsQuality location extended], formatD 2 (min svUsedCount 12),
      onlyIf extended.hasDop (r.format1 (r.ofFloat extended.hdop))],
    [onlyIf extended.hasAltitudeMeanSeaLevel (r.format1 (r.ofFloat extended.altitudeMeanSeaLevel)),
      onlyIf extended.hasAltitudeMeanSeaLevel ['M']]]

/-- The fields of a GGA sentence before the separation. -/
def ggaFields (tm : Tm) (talker : CString) (svUsedCount : Nat) : List CString :=
  [talker ++ "GGA".toList, timeOfDay location tm]
    ++ (ggaGroups r location extended svUsedCount).flatten

/-- The fields of the separation, and of the data that there is none of. -/
def separationFields : List CString :=
  let both := location.hasAltitude && extended.hasAltitudeMeanSeaLevel
  [onlyIf both (r.format1 (r.sub location.altitude (r.ofFloat extended.altitudeMeanSeaLevel))),
    onlyIf both ['M'], []]

theorem ggaSeparation_eq :
    ggaSeparation r location extended = commas (separationFields r location extended) := by
  unfold ggaSeparation separationFields onlyIf
  split <;> simp [commas, *]

theorem length_ggaFields_le {r : Reals φ δ} (hr : PrintsNumbers r) {talker : CString}
    (htalker : talker.length = 2) (tm : Tm) (svUsedCount : Nat) :
    (commas (ggaFields r location extended tm talker svUsedCount)).length ≤ 142 := by
  have htime := length_timeOfDay_le location tm
  have hcoordinates := length_latLongFields_le location hr
  have hhdop := length_onlyIf_float_le hr extended.hasDop extended.hdop
  have hmsl := length_onlyIf_float_le hr extended.hasAltitudeMeanSeaLevel
    extended.altitudeMeanSeaLevel
  have hunit := length_onlyIf_singleton_le extended.hasAltitudeMeanSeaLevel 'M'
  have hcount : (formatD 2 (min svUsedCount 12)).length ≤ 2 := by
    have hcast : min (svUsedCount : Int) 12 = ((min svUsedCount 12 : Nat) : Int) := by omega
    rw [hcast]
    exact length_formatD_natCast_le 2 (k := 2) (by decide) (by omega)
  rw [length_commas] at hcoordinates ⊢
  simp only [ggaFields, String.reduceToList, ggaGroups, List.flatten_cons, List.flatten_nil,
    List.append_nil, List.cons_append, List.nil_append, List.map_cons, List.map_append,
    List.map_nil, List.length_append, List.length_cons, List.length_nil, List.sum_cons,
    List.sum_append, List.sum_nil, htalker]
  omega

/-- The text of GGA before its last piece is its fields. -/
theorem ggaHead_eq {r : Reals φ δ} (hr : PrintsNumbers r) {talker : CString}
    (htalker : talker.length = 2) (tm : Tm) (svUsedCount : Nat) :
    ggaHead r location extended tm talker svUsedCount
        = some ('$' :: commas (ggaFields r location extended tm talker svUsedCount)) ∧
      ('$' :: commas (ggaFields r location extended tm talker svUsedCount)).length ≤ 143 := by
  have hlength := length_ggaFields_le location extended hr htalker tm svUsedCount
  refine ⟨?_, Nat.succ_le_succ hlength⟩
  have htime : '$' :: talker ++ "GGA,".toList ++ timeOfDay location tm ++ [',']
      = '$' :: commas [talker ++ "GGA".toList, timeOfDay location tm] := by
    simp [commas]
  have hquality : gpsQuality location extended :: ',' :: formatD 2 (min svUsedCount 12)
      ++ ',' :: (if extended.hasDop then r.format1 (r.ofFloat extended.hdop) ++ [','] else [','])
      = commas [[gpsQuality location extended], formatD 2 (min svUsedCount 12),
        onlyIf extended.hasDop (r.format1 (r.ofFloat extended.hdop))] := by
    rw [onlyIfPiece_eq]
    rfl
  have haltitude : (if extended.hasAltitudeMeanSeaLevel then
      r.format1 (r.ofFloat extended.altitudeMeanSeaLevel) ++ ",M,".toList else [',', ','])
      = commas [onlyIf extended.hasAltitudeMeanSeaLevel
          (r.format1 (r.ofFloat extended.altitudeMeanSeaLevel)),
        onlyIf extended.hasAltitudeMeanSeaLevel ['M']] := by
    unfold onlyIf
    split <;> simp [commas]
  -- each piece ends with a comma and is checked, so all are one row of fields
  have hprint : ggaHead r location extended tm talker svUsedCount = (do
      let text ← tryPrint [] ('$' :: commas [talker ++ "GGA".toList, timeOfDay location tm])
      (ggaGroups r location extended svUsedCount).foldlM
        (fun text g => tryPrint text (commas g)) text) := by
    unfold ggaHead ggaGroups
    rw [htime, latLong_eq, hquality, haltitude]
    simp only [List.foldlM_cons, List.foldlM_nil, bind_pure]
  rw [ggaFields] at hlength
  rw [hprint, print_groups (by omega), ggaFields]

/-! ### All three -/

theorem isPlain_modeIndicator : IsPlain [modeIndicator location extended] := by
  refine isPlain_singleton ?_
  unfold modeIndicator
  split
  · decide
  · split
    · decide
    · split <;> decide

theorem isPlain_timeOfDay (tm : Tm) : IsPlain (timeOfDay location tm) :=
  (((isPlain_formatD 2 _).append (isPlain_formatD 2 _)).append (isPlain_formatD 2 _)).append
    ((isPlain_singleton (by decide)).append (isPlain_formatD 2 _))

theorem isPlain_latLongFields {r : Reals φ δ} (hr : PrintsNumbers r) :
    ∀ f ∈ latLongFields r location, IsPlain f := by
  have hdegrees : ∀ width x, IsPlain (degreesMinutes r width x) := fun width x =>
    (isPlain_formatD width _).append (hr.plain6 _)
  have hlat : IsPlain [(latitudeOf r location).2] := by
    refine isPlain_singleton ?_
    unfold latitudeOf
    split <;> simp
  have hlon : IsPlain [(longitudeOf r location).2] := by
    refine isPlain_singleton ?_
    unfold longitudeOf
    split <;> simp
  intro f hf
  simp only [latLongFields, List.mem_cons, List.not_mem_nil, or_false] at hf
  rcases hf with rfl | rfl | rfl | rfl
  · exact (hdegrees 2 _).onlyIf _
  · exact hlat.onlyIf _
  · exact (hdegrees 3 _).onlyIf _
  · exact hlon.onlyIf _

theorem isPlain_vtgFields {r : Reals φ δ} (hr : PrintsNumbers r) {talker : CString}
    (htalker : IsPlain talker) : ∀ f ∈ vtgFields r location talker, IsPlain f := by
  intro f hf
  simp only [vtgFields, courseFields, speedFields, List.mem_append, List.mem_cons,
    List.not_mem_nil, or_false] at hf
  rcases hf with (rfl | rfl | rfl | rfl | rfl) | (rfl | rfl | rfl | rfl)
  · exact htalker.append ⟨by decide, by decide, by decide⟩
  · exact (hr.plain1 _).onlyIf _
  · exact isPlain_singleton (by decide)
  · exact (hr.plain1 _).onlyIf _
  · exact isPlain_singleton (by decide)
  · exact (hr.plain1 _).onlyIf _
  · exact isPlain_singleton (by decide)
  · exact (hr.plain1 _).onlyIf _
  · exact isPlain_singleton (by decide)

theorem isPlain_rmcFields {r : Reals φ δ} (hr : PrintsNumbers r) (tm : Tm) {talker : CString}
    (htalker : IsPlain talker) : ∀ f ∈ rmcFields r location extended tm talker, IsPlain f := by
  have hdirection : IsPlain [(variationOf r extended).2] := by
    refine isPlain_singleton ?_
    unfold variationOf
    split <;> simp
  intro f hf
  simp only [rmcFields, rmcGroups, variationFields, List.flatten_cons, List.flatten_nil,
    List.mem_append, List.mem_cons, List.not_mem_nil, or_false] at hf
  rcases hf with ((rfl | rfl | rfl) | hf | rfl | rfl | rfl | rfl | rfl) | rfl
  · exact htalker.append ⟨by decide, by decide, by decide⟩
  · exact isPlain_timeOfDay location tm
  · exact isPlain_singleton (by decide)
  · exact isPlain_latLongFields location hr f hf
  · exact (hr.plain1 _).onlyIf _
  · exact (hr.plain1 _).onlyIf _
  · exact ((isPlain_formatPrecision _).append (isPlain_formatPrecision _)).append
      (isPlain_formatPrecision _)
  · exact (hr.plain1 _).onlyIf _
  · exact hdirection.onlyIf _
  · exact isPlain_modeIndicator location extended

theorem isPlain_ggaFields {r : Reals φ δ} (hr : PrintsNumbers r) (tm : Tm) {talker : CString}
    (htalker : IsPlain talker) (svUsedCount : Nat) :
    ∀ f ∈ ggaFields r location extended tm talker svUsedCount, IsPlain f := by
  have hquality : IsPlain [gpsQuality location extended] := by
    refine isPlain_singleton ?_
    unfold gpsQuality
    split
    · decide
    · split
      · decide
      · split <;> decide
  intro f hf
  simp only [ggaFields, ggaGroups, List.flatten_cons, List.flatten_nil, List.mem_append,
    List.mem_cons, List.not_mem_nil, or_false] at hf
  rcases hf with (rfl | rfl) | hf | (rfl | rfl | rfl) | rfl | rfl
  · exact htalker.append ⟨by decide, by decide, by decide⟩
  · exact isPlain_timeOfDay location tm
  · exact isPlain_latLongFields location hr f hf
  · exact hquality
  · exact isPlain_formatD 2 _
  · exact (hr.plain1 _).onlyIf _
  · exact (hr.plain1 _).onlyIf _
  · exact (isPlain_singleton (by decide)).onlyIf _

theorem isPlain_separationFields {r : Reals φ δ} (hr : PrintsNumbers r) :
    ∀ f ∈ separationFields r location extended, IsPlain f := by
  intro f hf
  simp only [separationFields, List.mem_cons, List.not_mem_nil, or_false] at hf
  rcases hf with rfl | rfl | rfl
  · exact (hr.plain1 _).onlyIf _
  · exact (isPlain_singleton (by decide)).onlyIf _
  · exact isPlain_nil

/-- The talker is two letters. -/
theorem posTalker_letters :
    (posTalker r extended).length = 2 ∧ IsPlain (posTalker r extended) := by
  have hstep : ∀ {svType}, svType ∈ constellations → ∀ {talker : CString},
      talker.length = 2 ∧ IsPlain talker →
        let talker' := if 0 < (gsaOf r extended svType true).1 then
            ((locNmeaSvMetaInit (usedCache extended) svType true).elim talker LocNmeaSvMeta.talker)
          else talker
        talker'.length = 2 ∧ IsPlain talker' := by
    intro svType h talker htalker
    obtain ⟨svMeta, hinit, hlength, hplain, -⟩ := locNmeaSvMetaInit_eq (usedCache extended) h true
    -- a constellation with used satellites hands on its talker, else the one before stays
    rw [hinit]
    dsimp only
    split
    · exact ⟨hlength, hplain⟩
    · exact htalker
  exact hstep (by decide) (hstep (by decide) (hstep (by decide)
    ⟨rfl, by decide, by decide, by decide⟩))

/-- The sentences from VTG on. Only the last piece of GGA may be cut. -/
theorem trackSentences_eq {r : Reals φ δ} (hr : PrintsNumbers r) (tm : Tm) :
    trackSentences r location extended tm =
      [locNmeaPutChecksum ('$' :: commas (vtgFields r location (posTalker r extended))
          ++ [modeIndicator location extended]),
        locNmeaPutChecksum ('$' :: commas (rmcFields r location extended tm (posTalker r extended))
          ++ ['V']),
        locNmeaPutChecksum (snprintf
          ('$' :: commas (ggaFields r location extended tm (posTalker r extended)
            (posUsedCount r extended)))
          (commas (separationFields r location extended)))] := by
  obtain ⟨htalker, -⟩ := posTalker_letters r extended
  unfold trackSentences
  dsimp only
  rw [(vtgText_eq location extended hr htalker).1, (rmcText_eq location extended hr htalker tm).1,
    (ggaHead_eq location extended hr htalker tm _).1, ggaSeparation_eq]

/-! ### Names -/

/-- The three letters behind the talker. -/
def IsNamed (name sentence : CString) : Prop := (sentence.drop 3).take 4 = name ++ [',']

instance (name sentence : CString) : Decidable (IsNamed name sentence) :=
  inferInstanceAs (Decidable (_ = _))

/-- A sentence has the name that its first field has. -/
theorem isNamed_iff {name name' talker : CString} (htalker : talker.length = 2)
    (hname : name'.length = 3) (fields : List CString) (last : CString) :
    IsNamed name (locNmeaPutChecksum ('$' :: commas ((talker ++ name') :: fields) ++ last)) ↔
      name' = name := by
  obtain ⟨a, b, rfl⟩ := List.length_eq_two.mp htalker
  obtain ⟨c, d, e, rfl⟩ := List.length_eq_three.mp hname
  show [c, d, e] ++ [','] = name ++ [','] ↔ _
  exact List.append_left_inj _

theorem isNamed_gsaSentences {r : Reals φ δ} (hr : PrintsNumbers r) :
    ∀ sentence ∈ gsaSentences r extended, IsNamed "GSA".toList sentence := by
  intro sentence h
  obtain ⟨svMeta, ids, htalker, -, -, rfl⟩ := exists_of_mem_gsaSentences hr h
  exact (isNamed_iff htalker rfl _ _).mpr rfl

/-- The sentence of each name. -/
theorem filter_isNamed_pos {r : Reals φ δ} (hr : PrintsNumbers r) {gmtime : Int → Option Tm}
    {tm : Tm} (htm : gmtime (location.timestamp.tdiv 1000) = some tm) :
    let sentences := locNmeaGeneratePos r location extended gmtime true
    sentences.filter (IsNamed "VTG".toList ·)
        = [locNmeaPutChecksum ('$' :: commas (vtgFields r location (posTalker r extended))
          ++ [modeIndicator location extended])] ∧
      sentences.filter (IsNamed "RMC".toList ·)
        = [locNmeaPutChecksum ('$' :: commas (rmcFields r location extended tm
          (posTalker r extended)) ++ ['V'])] ∧
      sentences.filter (IsNamed "GGA".toList ·)
        = [locNmeaPutChecksum (snprintf
          ('$' :: commas (ggaFields r location extended tm (posTalker r extended)
            (posUsedCount r extended)))
          (commas (separationFields r location extended)))] := by
  intro sentences
  obtain ⟨htalker, -⟩ := posTalker_letters r extended
  have hsentences :
      sentences = gsaSentences r extended ++ trackSentences r location extended tm := by
    show locNmeaGeneratePos r location extended gmtime true = _
    rw [locNmeaGeneratePos, htm]
    rfl
  -- no GSA sentence has one of the three names
  have hfilter : ∀ name, name ≠ "GSA".toList → sentences.filter (IsNamed name ·)
      = (trackSentences r location extended tm).filter (IsNamed name ·) := by
    intro name hname
    rw [hsentences, List.filter_append, List.filter_eq_nil_iff.mpr, List.nil_append]
    intro sentence h hnamed
    have heq := (of_decide_eq_true hnamed).symm.trans (isNamed_gsaSentences extended hr sentence h)
    exact hname ((List.append_left_inj _).mp heq)
  -- the names of the three sentences
  have hvtg : ∀ name last, IsNamed name (locNmeaPutChecksum
      ('$' :: commas (vtgFields r location (posTalker r extended)) ++ last)) ↔
        "VTG".toList = name :=
    fun _ _ => isNamed_iff htalker rfl _ _
  have hrmc : ∀ name last, IsNamed name (locNmeaPutChecksum
      ('$' :: commas (rmcFields r location extended tm (posTalker r extended)) ++ last)) ↔
        "RMC".toList = name :=
    fun _ _ => isNamed_iff htalker rfl _ _
  have hgga : ∀ name piece, IsNamed name (locNmeaPutChecksum (snprintf
      ('$' :: commas (ggaFields r location extended tm (posTalker r extended)
        (posUsedCount r extended))) piece)) ↔ "GGA".toList = name :=
    fun _ _ => isNamed_iff htalker rfl _ _
  refine ⟨?_, ?_, ?_⟩
  all_goals
    rw [hfilter _ (by decide), trackSentences_eq location extended hr tm]
    simp only [List.filter_cons, hvtg, hrmc, hgga, List.filter_nil]
    rfl

end

end LocHal.Util.LocNmea
