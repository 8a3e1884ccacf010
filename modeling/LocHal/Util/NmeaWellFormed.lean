import LocHal.Util.NmeaExact
import LocHal.Util.NmeaSatellites
import LocHal.Util.NmeaTrack

/-!
# `LocHal.Util.NmeaWellFormed`: the shape of the sentences

`WellFormed` is the shape of a sentence: a body between `$` and `*`, and its checksum. A text that
leaves no room for the checksum does not get it (`wellFormed_put_iff`).

The last piece of GGA has neither a check nor a bound of its length. `allWellFormed_iff` says that
its length decides.

Every piece of a sentence is printed with `snprintf` into what is left of a buffer of 200 bytes. The
lengths show that there is room for every piece but one, whether the function checks it or not. The
pieces are texts without `$` and `*` (`IsBody`), so the checksum is over what stands between them.

The separation of the geoid is the exception. It is the difference of two `double` values, in the
last piece of GGA, which nothing bounds, and no check follows. If the text has more than 194
characters there is no room for the checksum, and the sentence goes out without it
(`wellFormed_put_iff`). The other sentences are treated one by one: `allWellFormed_gsv`,
`allWellFormed_gsa`, `allWellFormed_track_iff`, and `allWellFormed_blank` for the ones without a
fix.
-/

set_option autoImplicit false

namespace LocHal.Util.LocNmea

open LocHal.Lib (CutsInto)

variable {φ δ : Type}

/-- An upper-case hexadecimal digit. -/
def hexDigit (n : Nat) : Char := "0123456789ABCDEF".toList.getD n '0'

/-- A complete sentence, which fits the buffer. -/
def WellFormed (sentence : CString) : Prop :=
  ∃ body, IsBody body ∧ sentence.length < 200 ∧
    sentence = '$' :: body ++ ['*', hexDigit ((checksum body).toNat / 16),
      hexDigit ((checksum body).toNat % 16), '\r', '\n']

/-- Every sentence that is pushed is well formed. A sentence that does not fit is to be left out, so
nothing is said of how many there are. -/
def AllWellFormed (sentences : List CString) : Prop :=
  ∀ sentence ∈ sentences, WellFormed sentence

theorem allWellFormed_append {sentences sentences' : List CString} :
    AllWellFormed (sentences ++ sentences') ↔
      AllWellFormed sentences ∧ AllWellFormed sentences' :=
  List.forall_mem_append

/-! ### A text and its checksum -/

theorem formatX_eq (x : BitVec 8) :
    formatX x = [hexDigit (x.toNat / 16), hexDigit (x.toNat % 16)] := by
  have hdigit : ∀ n < 16, (Nat.digitChar n).toUpper = hexDigit n := by decide
  have := x.isLt
  rw [formatX, hdigit _ (by omega), hdigit _ (by omega)]

/-- A text gets a complete checksum if and only if there is room for it. -/
theorem wellFormed_put_iff {body : CString} (h : IsBody body) (hlength : body.length < 199) :
    WellFormed (locNmeaPutChecksum ('$' :: body)) ↔ ('$' :: body).length ≤ 194 := by
  constructor
  · rintro ⟨body', hbody', -, heq⟩
    have htail : body ++ ('*' :: (formatX (checksum body) ++ ['\r', '\n'])).take
        (200 - 1 - ('$' :: body).length) = body' ++ '*' :: [hexDigit ((checksum body').toNat / 16),
          hexDigit ((checksum body').toNat % 16), '\r', '\n'] := congrArg List.tail heq
    cases hroom : 200 - 1 - ('$' :: body).length with
    | zero =>
        -- no room for the `*` itself
        rw [hroom, List.take_zero, List.append_nil] at htail
        exact absurd (htail ▸ List.mem_append_right _ List.mem_cons_self) h.star
    | succ room =>
        -- both bodies end at the first `*`, so that the checksum is complete
        rw [hroom, List.take_succ_cons] at htail
        have hbody : body = body' := by
          rw [← takeWhile_body h, htail, takeWhile_body hbody']
        have hlengths := congrArg List.length htail
        simp [hbody] at hlengths
        simp at hroom ⊢
        omega
  · intro hle
    refine ⟨body, h, ?_, ?_⟩
    · rw [locNmeaPutChecksum_of_le hle, formatX_eq]
      simp at hle ⊢
      omega
    · rw [locNmeaPutChecksum_of_le hle, formatX_eq]
      rfl

/-- A text of plain fields gets a complete checksum if and only if there is room for it. -/
theorem wellFormed_commas_iff {fields : List CString} (h : ∀ f ∈ fields, IsPlain f)
    {last : CString} (hlast : IsPlain last)
    (hlength : ('$' :: commas fields ++ last).length < 200) :
    WellFormed (locNmeaPutChecksum ('$' :: commas fields ++ last)) ↔
      ('$' :: commas fields ++ last).length ≤ 194 :=
  wellFormed_put_iff ((isBody_commas h).append hlast.isBody) (Nat.lt_of_succ_lt_succ hlength)

/-- A piece that is cut leaves no room for the checksum. -/
theorem wellFormed_snprintf_iff {body piece : CString} (hbody : IsBody body)
    (hpiece : IsBody piece) (hlength : body.length < 199) :
    WellFormed (locNmeaPutChecksum (snprintf ('$' :: body) piece)) ↔
      ('$' :: body ++ piece).length ≤ 194 := by
  have htake : IsBody (piece.take (200 - 1 - ('$' :: body).length)) :=
    ⟨fun h => hpiece.dollar (List.mem_of_mem_take h),
      fun h => hpiece.star (List.mem_of_mem_take h)⟩
  rw [snprintf, List.cons_append, wellFormed_put_iff (hbody.append htake)]
  · simp only [List.length_cons, List.length_append, List.length_take]
    omega
  · simp only [List.length_cons, List.length_append, List.length_take]
    omega

/-! ### GSV -/

section
variable (r : Reals φ δ)

theorem isBody_svBlock (svIdOffset : Nat) (sv : GnssSv φ) : IsBody (svBlock r svIdOffset sv) := by
  have hnumber : ∀ width n, IsBody (',' :: formatD width n) := fun width n =>
    (isPlain_formatD width n).isBody.cons (by decide)
  have hcomma : IsBody [','] := isPlain_nil.isBody.cons (by decide)
  unfold svBlock
  refine ((((hnumber _ _).append (hnumber _ _)).append (hnumber _ _)).append hcomma).append ?_
  split
  · exact (isPlain_formatD _ _).isBody
  · exact isPlain_nil.isBody

/-- The satellites of a GSV sentence and its header are a body. -/
theorem wellFormed_gsvSentence {svMeta : LocNmeaSvMeta} (h : SmallMeta svMeta)
    (htalker : IsPlain svMeta.talker) {sentenceCount sentenceNumber : Nat}
    (hcount : sentenceCount < 100) (hnumber : sentenceNumber < 100) {svs : List (GnssSv φ)}
    (hsvs : svs.length ≤ 4) :
    WellFormed (gsvSentence r svMeta sentenceCount sentenceNumber svs) := by
  let blocks := svs.flatMap (svBlock r svMeta.svIdOffset)
  let body := svMeta.talker ++ "GSV,".toList ++ formatD 1 sentenceCount
    ++ ',' :: formatD 1 sentenceNumber ++ ',' :: formatD 2 svMeta.svCount ++ blocks
    ++ ',' :: formatD 1 svMeta.signalId
  have hblocks : IsBody blocks := by
    constructor
    · intro hmem
      obtain ⟨sv, -, hc⟩ := List.mem_flatMap.mp hmem
      exact (isBody_svBlock r _ sv).dollar hc
    · intro hmem
      obtain ⟨sv, -, hc⟩ := List.mem_flatMap.mp hmem
      exact (isBody_svBlock r _ sv).star hc
  have hfield : ∀ width n, IsBody (',' :: formatD width n) := fun width n =>
    (isPlain_formatD width n).isBody.cons (by decide)
  have hbody : IsBody body := by
    refine IsBody.append (IsBody.append (IsBody.append (IsBody.append (IsBody.append
      (IsBody.append htalker.isBody ⟨by decide, by decide⟩) (isPlain_formatD _ _).isBody)
        (hfield _ _)) (hfield _ _)) hblocks) (hfield _ _)
  have hsentence : gsvSentence r svMeta sentenceCount sentenceNumber svs
      = locNmeaPutChecksum ('$' :: body) := rfl
  -- a sentence of four satellites stays below the 194 characters
  have hlength : ('$' :: body).length ≤ 185 := by
    have hheader := length_gsvHeader_le h hcount hnumber
    have hblocks : blocks.length ≤ 42 * svs.length :=
      length_flatMap_svBlock_le r h.svIdOffset svs
    have hsignal := length_formatD_natCast_le 1 (k := 1) (by decide)
      (show svMeta.signalId < 10 ^ 1 from h.signalId)
    have hsplit : '$' :: body = gsvHeader svMeta sentenceCount sentenceNumber ++ blocks
        ++ ',' :: formatD 1 svMeta.signalId := rfl
    rw [hsplit, List.length_append, List.length_append, List.length_cons]
    omega
  rw [hsentence]
  have hle : ('$' :: body).length ≤ 194 := by omega
  exact (wellFormed_put_iff hbody (by rw [List.length_cons] at hlength; omega)).mpr hle

theorem wellFormed_gsvBlank {svMeta : LocNmeaSvMeta} (h : SmallMeta svMeta)
    (htalker : IsPlain svMeta.talker) : WellFormed (gsvBlank svMeta) := by
  let body := svMeta.talker ++ "GSV,1,1,0,".toList ++ formatD 1 svMeta.signalId
  have hbody : IsBody body :=
    (htalker.isBody.append ⟨by decide, by decide⟩).append (isPlain_formatD _ _).isBody
  have hlength : ('$' :: body).length ≤ 194 := by
    have hsignal := length_formatD_natCast_le 1 (k := 1) (by decide)
      (show svMeta.signalId < 10 ^ 1 from h.signalId)
    simp [body, h.talker]
    omega
  exact (wellFormed_put_iff hbody (by rw [List.length_cons] at hlength; omega)).mpr hlength

/-- The sentences of a constellation: its satellites are cut into fours. -/
theorem allWellFormed_gsv (svNotify : GnssSvNotification φ) (svType : GnssSvType) :
    AllWellFormed (locNmeaGenerateGSV r svNotify (some (gsvMeta svNotify svType))) := by
  have hsmall := smallMeta_gsvMeta svNotify svType
  have htalker : IsPlain (gsvMeta svNotify svType).talker := by
    cases svType <;> exact ⟨by simp [gsvMeta], by simp [gsvMeta], by simp [gsvMeta]⟩
  have hpartition := locNmeaGenerateGSV_partition r svNotify svType
  intro sentence h
  unfold GsvPartition at hpartition
  split at hpartition
  · rw [hpartition, List.mem_singleton] at h
    exact h ▸ wellFormed_gsvBlank hsmall htalker
  · -- at most 64 satellites, so that two digits number the sentences
    obtain ⟨cs, hcuts, heq⟩ := hpartition
    have hfilter := List.length_filter_le (·.type = svType) svNotify.gnssSvs
    have hcount := svNotify.count_le
    have hlength := hcuts.length
    rw [heq] at h
    obtain ⟨j, hj, rfl⟩ := List.mem_mapIdx.mp h
    exact wellFormed_gsvSentence r hsmall htalker (by omega) (by omega)
      (hcuts.length_le _ (List.getElem_mem hj))

end

/-! ### All sentences -/

theorem allWellFormed_blank : AllWellFormed blankSentences := by
  intro sentence h
  obtain ⟨text, htext, rfl⟩ := List.mem_map.mp h
  have htail : text.toList = '$' :: text.toList.tail ∧ IsBody text.toList.tail ∧
      text.toList.length ≤ 194 := by
    simp only [List.mem_cons, List.not_mem_nil, or_false] at htext
    rcases htext with rfl | rfl | rfl | rfl | rfl | rfl <;>
      exact ⟨by decide, ⟨by decide, by decide⟩, by decide⟩
  obtain ⟨htail, hbody, hlength⟩ := htail
  rw [htail] at hlength ⊢
  exact (wellFormed_put_iff hbody (by rw [List.length_cons] at hlength; omega)).mpr hlength

theorem allWellFormed_gsa {r : Reals φ δ} (hr : PrintsNumbers r)
    (extended : GpsLocationExtended φ) : AllWellFormed (gsaSentences r extended) := by
  intro sentence h
  obtain ⟨svMeta, ids, -, hplain, hle, rfl⟩ := exists_of_mem_gsaSentences hr h
  exact (wellFormed_commas_iff (isPlain_gsaFields hr extended hplain ids) (isPlain_formatD 1 _)
    (by omega)).mpr hle

theorem allWellFormed_sv (r : Reals φ δ) (svNotify : GnssSvNotification φ) :
    AllWellFormed (locNmeaGenerateSv r svNotify) := by
  have hone := allWellFormed_gsv r svNotify
  simp only [locNmeaGenerateSv, allWellFormed_append]
  exact ⟨⟨⟨⟨hone .gps, hone .glonass⟩, hone .galileo⟩, hone .qzss⟩, hone .beidou⟩

/-- The fields of GGA fit the buffer, with the room for the checksum. The buffer has 200 bytes, and
the checksum, the line end and the terminator take six of them. One of the last fields is a
difference of two `double` values, so it can have any length. -/
def GgaFits (r : Reals φ δ) (location : GpsLocation φ δ) (extended : GpsLocationExtended φ)
    (tm : Tm) : Prop :=
  ('$' :: commas (ggaFields r location extended tm (posTalker r extended) (posUsedCount r extended)
    ++ separationFields r location extended)).length ≤ 194

instance (r : Reals φ δ) (location : GpsLocation φ δ) (extended : GpsLocationExtended φ) (tm : Tm) :
    Decidable (GgaFits r location extended tm) :=
  inferInstanceAs (Decidable (_ ≤ _))

/-- Of the sentences from VTG on, only GGA may be too long. -/
theorem allWellFormed_track_iff {r : Reals φ δ} (hr : PrintsNumbers r)
    (location : GpsLocation φ δ) (extended : GpsLocationExtended φ) (tm : Tm) :
    AllWellFormed (trackSentences r location extended tm) ↔ GgaFits r location extended tm := by
  obtain ⟨hlength, hplain⟩ := posTalker_letters r extended
  have hvtg := (vtgText_eq location extended hr hlength).2
  have hrmc := (rmcText_eq location extended hr hlength tm).2
  have hgga := (ggaHead_eq location extended hr hlength tm (posUsedCount r extended)).2
  have hvtgFormed := (wellFormed_commas_iff (isPlain_vtgFields location hr hplain)
    (isPlain_modeIndicator location extended) (by omega)).mpr hvtg
  have hrmcFormed := (wellFormed_commas_iff (isPlain_rmcFields location extended hr tm hplain)
    (isPlain_singleton (by decide)) (by omega)).mpr hrmc
  rw [trackSentences_eq location extended hr tm]
  simp only [AllWellFormed, List.forall_mem_cons, and_iff_right hvtgFormed,
    and_iff_right hrmcFormed]
  -- VTG and RMC always fit; the last piece of GGA is cut where it does not
  rw [wellFormed_snprintf_iff (isBody_commas (isPlain_ggaFields location extended hr tm hplain _))
    (isBody_commas (isPlain_separationFields location extended hr))
    (by rw [List.length_cons] at hgga; omega)]
  rw [GgaFits, commas_append, ← List.cons_append]
  simp

/-- All sentences are well formed exactly when GGA fits, or is not built.

Every piece of a sentence is checked against the rest of the buffer, but for the last one of GGA. If
that is cut there is no room for the checksum, and the sentence is pushed without one. -/
theorem allWellFormed_iff {r : Reals φ δ} (hr : PrintsNumbers r) (location : GpsLocation φ δ)
    (extended : GpsLocationExtended φ) (gmtime : Int → Option Tm) (generateNmea : Bool)
    (svNotify : GnssSvNotification φ) :
    AllWellFormed (locNmeaGeneratePos r location extended gmtime generateNmea
        ++ locNmeaGenerateSv r svNotify) ↔
      (generateNmea = true → ∀ tm ∈ gmtime (location.timestamp.tdiv 1000),
        GgaFits r location extended tm) := by
  rw [allWellFormed_append, and_iff_left (allWellFormed_sv r svNotify)]
  unfold locNmeaGeneratePos
  cases gmtime (location.timestamp.tdiv 1000) with
  -- no time: nothing is pushed
  | none => simp [AllWellFormed]
  | some tm =>
      cases generateNmea with
      | false => exact iff_of_true allWellFormed_blank (fun h => absurd h (by decide))
      | true =>
          have htrack := allWellFormed_track_iff hr location extended tm
          simp only [if_true, allWellFormed_append, and_iff_right (allWellFormed_gsa hr extended)]
          simpa using htrack

/-- A fix with all its fields. The altitude of the ellipsoid and that of the mean sea level are both
there, so GGA ends in the height of the geoid, the piece whose length is not checked. -/
def fullFix : GpsLocation Single ℚ where
  hasLatLong := true
  hasAltitude := true
  hasSpeed := true
  hasBearing := true
  latitude := 149 / 4
  longitude := -(977 / 8)
  altitude := 1025 / 8
  speed := .ofRat 15
  bearing := .ofRat 270
  timestamp := 1525651182340

/-- The data of such a fix, with three satellites of GPS and one of GLONASS. -/
def fullData : GpsLocationExtended Single where
  hasGnssSvUsedData := true
  hasDop := true
  hasMagDev := true
  hasAltitudeMeanSeaLevel := true
  gnssSvUsedIds := ⟨0b1101, 0b10, 0, 0, 0⟩
  pdop := .ofRat (3 / 2)
  hdop := .ofRat 1
  vdop := .ofRat (5 / 4)
  magneticDeviation := .ofRat (-13)
  altitudeMeanSeaLevel := .ofRat 96
  sbasCorrectionIono := false
  sensorsOnly := false

/-- The time of the fix. -/
def fullTime : Tm := ⟨42, 59, 23, 6, 4, 118⟩

/-- All sentences of the fix, and of a report with a satellite. -/
theorem allWellFormed_fullFix :
    ggaSeparation exact fullFix fullData = ['3', '2', '.', '1', ',', 'M', ',', ','] ∧
    AllWellFormed
      (locNmeaGeneratePos exact fullFix fullData (fun _ => some fullTime) true
        ++ locNmeaGenerateSv exact
          ⟨[⟨3, .gps, .ofRat 40, .ofRat 30, .ofRat 200, 0⟩], by decide⟩) := by
  refine ⟨by decide +kernel, (allWellFormed_iff printsNumbers_exact fullFix fullData
    (fun _ => some fullTime) true
    ⟨[⟨3, .gps, .ofRat 40, .ofRat 30, .ofRat 200, 0⟩], by decide⟩).mpr fun _ tm htm => ?_⟩
  cases Option.some.inj htm
  decide +kernel

/-- An altitude of 302 digits: the GGA sentence is cut, and is pushed without its checksum. -/
theorem not_allWellFormed_altitude :
    ¬ AllWellFormed
      (locNmeaGeneratePos exact { noFix with hasAltitude := true, altitude := 2 ^ 1000 }
        { noData with hasAltitudeMeanSeaLevel := true }
        (fun _ => some ⟨0, 0, 0, 1, 0, 100⟩) true
          ++ locNmeaGenerateSv exact ⟨[], by decide⟩) := by
  intro h
  have hpos := (allWellFormed_append.mp h).1
  -- of the sentences, only GGA can be the one that fails
  have htrack := (allWellFormed_track_iff printsNumbers_exact
    { noFix with hasAltitude := true, altitude := 2 ^ 1000 }
    { noData with hasAltitudeMeanSeaLevel := true } ⟨0, 0, 0, 1, 0, 100⟩).mp
      (allWellFormed_append.mp hpos).2
  exact absurd htrack (by decide +kernel)

end LocHal.Util.LocNmea
