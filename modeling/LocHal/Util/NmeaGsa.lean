import LocHal.Util.LocNmeaPos
import LocHal.Util.NmeaPrint

/-!
# `LocHal.Util.NmeaGsa`: the text of a GSA sentence

`loc_nmea_sv_meta_init` says what is special to a constellation (`locNmeaSvMetaInit_eq`), and
`loc_nmea_generate_GSA` lists the first 12 ids of its mask. `svUsedList_eq` gives the list of the
loop, and `gsaText_eq` the fields of the sentence.

The mask of a constellation in the cache may have been cut to 32 bits, and the ids have an offset
that depends on the constellation. `cachedMask`, `svIdOffsetOf` and `systemIdOf` are these values as
the `switch` of the source has them. `locNmeaGenerateGSA_eq` puts the text and its checksum
together, and says when there is no sentence: for an empty mask, unless it is that of GPS.
-/

set_option autoImplicit false

namespace LocHal.Util.LocNmea

variable {φ δ : Type}

/-! ### The ids of a mask -/

/-- The positions of the bits that are set, from 1. -/
def idsOf {w : Nat} (mask : BitVec w) : List Nat :=
  ((List.range w).filter (mask.getLsbD ·)).map (· + 1)

theorem svUsedLoop_eq (svIdOffset fuel i : Nat) (mask : BitVec 32) {svUsedList : List Nat}
    (h : svUsedList.length + fuel ≤ 32) :
    svUsedLoop svIdOffset fuel i mask svUsedList
      = svUsedList ++ ((List.range fuel).filter (mask.getLsbD ·)).map (· + i + svIdOffset) := by
  induction fuel generalizing i mask svUsedList with
  | zero => exact (List.append_nil _).symm
  | succ fuel ih =>
      unfold svUsedLoop
      by_cases hmask : mask = 0
      · rw [if_pos (.inl hmask), hmask]
        simp
      · rw [if_neg (not_or.mpr ⟨hmask, by omega⟩), List.range_succ_eq_map, List.filter_cons,
          List.filter_map]
        have hshift : (fun b => (mask >>> 1).getLsbD b) = fun b => mask.getLsbD (Nat.succ b) := by
          funext b
          rw [BitVec.getLsbD_ushiftRight, Nat.add_comm]
        by_cases hbit : mask.getLsbD 0 = true
        · rw [if_pos hbit, if_pos hbit, ih _ _ (by simp; omega), hshift]
          simp [Function.comp_def, Nat.add_comm, Nat.add_left_comm]
        · rw [if_neg hbit, if_neg hbit, ih _ _ (by omega), hshift]
          simp [Function.comp_def, Nat.add_comm, Nat.add_left_comm]

/-- The loop lists the ids of the mask. -/
theorem svUsedList_eq (svIdOffset : Nat) (mask : BitVec 32) :
    svUsedLoop svIdOffset 32 1 mask [] = (idsOf mask).map (· + svIdOffset) := by
  rw [svUsedLoop_eq _ _ _ _ (by simp), List.nil_append, idsOf, List.map_map]
  rfl

theorem idsOf_le {w : Nat} {mask : BitVec w} {id : Nat} (h : id ∈ idsOf mask) : id ≤ w := by
  obtain ⟨b, hb, rfl⟩ := List.mem_map.mp h
  exact List.mem_range.mp (List.mem_filter.mp hb).1

theorem idsOf_eq_nil_iff {w : Nat} {mask : BitVec w} : idsOf mask = [] ↔ mask = 0 := by
  rw [idsOf, List.map_eq_nil_iff, List.filter_eq_nil_iff]
  constructor
  · intro h
    refine BitVec.eq_of_getLsbD_eq fun b hb => ?_
    simpa using h b (List.mem_range.mpr hb)
  · rintro rfl
    simp

/-! ### Constellations -/

/-- The constellations of the GSA sentences, in their order. -/
def constellations : List GnssSvType := [.gps, .glonass, .galileo, .qzss, .beidou]

/-- The offset of the ids. -/
def svIdOffsetOf : GnssSvType → Nat
  | .glonass => 64
  | _ => 0

/-- The system id of NMEA. -/
def systemIdOf : GnssSvType → Nat
  | .gps => 1
  | .glonass => 2
  | .galileo => 3
  | .beidou => 4
  | .qzss => 5
  | _ => 0

/-- The mask of the cache. -/
def cachedMask (cache : LocSvCacheInfo) : GnssSvType → BitVec 32
  | .gps => cache.gpsUsedMask
  | .glonass => cache.gloUsedMask
  | .galileo => cache.galUsedMask
  | .qzss => cache.qzssUsedMask
  | .beidou => cache.bdsUsedMask
  | _ => 0

theorem svIdOffsetOf_le (svType : GnssSvType) : svIdOffsetOf svType ≤ 64 := by
  cases svType <;> decide

theorem systemIdOf_lt (svType : GnssSvType) : systemIdOf svType < 10 := by
  cases svType <;> decide

/-- What GSA takes from the cache. -/
theorem locNmeaSvMetaInit_eq (cache : LocSvCacheInfo) {svType : GnssSvType}
    (h : svType ∈ constellations) (needCombine : Bool) :
    ∃ svMeta, locNmeaSvMetaInit cache svType needCombine = some svMeta ∧
      svMeta.talker.length = 2 ∧ IsPlain svMeta.talker ∧ svMeta.svType = svType ∧
      svMeta.mask = cachedMask cache svType ∧ svMeta.svIdOffset = svIdOffsetOf svType ∧
      svMeta.systemId = systemIdOf svType := by
  simp only [constellations, List.mem_cons, List.not_mem_nil, or_false] at h
  unfold locNmeaSvMetaInit
  rcases h with rfl | rfl | rfl | rfl | rfl <;> dsimp only <;> split
  all_goals exact ⟨_, rfl, rfl, ⟨by simp, by simp, by simp⟩, rfl, rfl, rfl, rfl⟩

/-! ### A GSA sentence -/

/-- The fix type for a number of used satellites. -/
def fixType (svUsedCount : Nat) : Char :=
  if svUsedCount = 0 then '1' else if svUsedCount ≤ 3 then '2' else '3'

/-- The field of an id without its comma. -/
def idText (svUsedList : List Nat) (i : Nat) : CString :=
  if h : i < svUsedList.length then formatD 2 svUsedList[i] else []

theorem idField_eq (svUsedList : List Nat) (i : Nat) :
    idField svUsedList i = idText svUsedList i ++ [','] := by
  unfold idField idText
  split <;> rfl

section
variable (r : Reals φ δ)

/-- The three fields of the dilution of precision. -/
def dopFields (extended : GpsLocationExtended φ) : List CString :=
  if extended.hasDop then
    [r.format1 (r.ofFloat extended.pdop), r.format1 (r.ofFloat extended.hdop),
      r.format1 (r.ofFloat extended.vdop)]
  else [[], [], []]

/-- The fields of a GSA sentence before its system id, without the `$`. -/
def gsaFields (extended : GpsLocationExtended φ) (svMeta : LocNmeaSvMeta) (svUsedList : List Nat) :
    List CString :=
  (svMeta.talker ++ "GSA".toList) :: ['A'] :: [fixType svUsedList.length] ::
    ((List.range 12).map (idText svUsedList) ++ dopFields r extended)

theorem dopPiece_eq (extended : GpsLocationExtended φ) :
    (if extended.hasDop then
      r.format1 (r.ofFloat extended.pdop) ++ ',' :: r.format1 (r.ofFloat extended.hdop)
        ++ ',' :: r.format1 (r.ofFloat extended.vdop) ++ [',']
    else [',', ',', ',']) = commas (dopFields r extended) := by
  unfold dopFields
  split <;> simp [commas]

theorem idFields_eq (svUsedList : List Nat) :
    ((List.range 12).map (idField svUsedList)).flatten
      = commas ((List.range 12).map (idText svUsedList)) := by
  induction List.range 12 with
  | nil => rfl
  | cons i is ih =>
      rw [List.map_cons, List.flatten_cons, ih, List.map_cons, commas, idField_eq,
        List.append_assoc]
      rfl

theorem length_idTexts_le {svUsedList : List Nat} (h : ∀ id ∈ svUsedList, id < 1000) :
    (commas ((List.range 12).map (idText svUsedList))).length ≤ 48 := by
  have hall : ∀ f ∈ (List.range 12).map (idText svUsedList), f.length ≤ 3 := by
    intro f hf
    obtain ⟨i, -, rfl⟩ := List.mem_map.mp hf
    unfold idText
    split
    · next hi =>
        have := length_formatD_natCast_le 2 (k := 3) (by decide) (h _ (List.getElem_mem hi))
        omega
    · exact Nat.zero_le _
  simpa using length_commas_le hall

theorem length_dopFields_le {r : Reals φ δ} (hr : PrintsNumbers r)
    (extended : GpsLocationExtended φ) : (commas (dopFields r extended)).length ≤ 129 := by
  have hp := hr.length_float extended.pdop
  have hh := hr.length_float extended.hdop
  have hv := hr.length_float extended.vdop
  unfold dopFields
  split
  · simp [commas]
    omega
  · decide

theorem isPlain_gsaFields {r : Reals φ δ} (hr : PrintsNumbers r) (extended : GpsLocationExtended φ)
    {svMeta : LocNmeaSvMeta} (htalker : IsPlain svMeta.talker) (svUsedList : List Nat) :
    ∀ f ∈ gsaFields r extended svMeta svUsedList, IsPlain f := by
  intro f hf
  simp only [gsaFields, List.mem_cons, List.mem_append] at hf
  -- the talker, the mode, the fix type, the ids and the dilutions
  rcases hf with rfl | rfl | rfl | hf | hf
  · exact htalker.append ⟨by decide, by decide, by decide⟩
  · exact ⟨by decide, by decide, by decide⟩
  · unfold fixType
    split
    · exact ⟨by decide, by decide, by decide⟩
    · split <;> exact ⟨by decide, by decide, by decide⟩
  · obtain ⟨i, -, rfl⟩ := List.mem_map.mp hf
    unfold idText
    split
    · exact isPlain_formatD 2 _
    · exact isPlain_nil
  · unfold dopFields at hf
    split at hf
    · simp only [List.mem_cons, List.not_mem_nil, or_false] at hf
      rcases hf with rfl | rfl | rfl <;> exact hr.plain1 _
    · simp only [List.mem_cons, List.not_mem_nil, or_false, or_self] at hf
      exact hf ▸ isPlain_nil

/-- The text of a GSA sentence is its fields, and it leaves room for the checksum. -/
theorem gsaText_eq {r : Reals φ δ} (hr : PrintsNumbers r) (extended : GpsLocationExtended φ)
    {svMeta : LocNmeaSvMeta} (htalker : svMeta.talker.length = 2) (hsystem : svMeta.systemId < 10)
    {svUsedList : List Nat} (hids : ∀ id ∈ svUsedList, id < 1000) :
    gsaText r extended svMeta svUsedList
        = some ('$' :: commas (gsaFields r extended svMeta svUsedList)
          ++ formatD 1 svMeta.systemId) ∧
      ('$' :: commas (gsaFields r extended svMeta svUsedList)
        ++ formatD 1 (svMeta.systemId : Int)).length ≤ 194 := by
  have hsys := length_formatD_natCast_le 1 (k := 1) (by decide)
    (show svMeta.systemId < 10 ^ 1 from hsystem)
  have hdop := length_dopFields_le hr extended
  have hidTexts := length_idTexts_le hids
  rw [← idFields_eq] at hidTexts
  -- the three pieces before the system id
  let header := '$' :: svMeta.talker ++ "GSA,A,".toList ++ [fixType svUsedList.length, ',']
  let ids := ((List.range 12).map (idField svUsedList)).flatten
  let dop := commas (dopFields r extended)
  have hheader : header.length = 11 := by simp [header, htalker]
  have hids : ids.length ≤ 48 := hidTexts
  have hdop : dop.length ≤ 129 := hdop
  have hfields : '$' :: commas (gsaFields r extended svMeta svUsedList) = header ++ ids ++ dop := by
    show _ = header ++ ((List.range 12).map (idField svUsedList)).flatten ++ dop
    rw [gsaFields, commas, commas, commas, commas_append, idFields_eq]
    simp [header, dop]
  have hlength : (header ++ ids ++ dop ++ formatD 1 (svMeta.systemId : Int)).length ≤ 194 := by
    rw [List.length_append, List.length_append, List.length_append]
    omega
  rw [hfields]
  refine ⟨?_, hlength⟩
  rw [List.length_append, List.length_append, List.length_append] at hlength
  have hloop : (List.range 12).foldlM (fun text i => tryPrint text (idField svUsedList i)) header
      = some (header ++ ids) := by
    rw [← foldlM_tryPrint (by omega), List.foldlM_map]
  unfold gsaText
  rw [dopPiece_eq]
  change (do
    let text ← tryPrint [] header
    let text ← (List.range 12).foldlM (fun text i => tryPrint text (idField svUsedList i)) text
    some (snprintf (snprintf text dop) (formatD 1 (svMeta.systemId : Int)))) = _
  rw [tryPrint_of_lt (by rw [List.length_nil]; omega)]
  dsimp only [Option.bind_eq_bind, Option.bind_some, List.nil_append]
  rw [hloop]
  dsimp only [Option.bind_some]
  -- the last two pieces are written without a test of the room left
  rw [snprintf_snprintf_of_lt (by rw [List.length_append]; omega)]

/-- The sentence of a constellation, which is not there for an empty mask of another one than
GPS. -/
theorem locNmeaGenerateGSA_eq {r : Reals φ δ} (hr : PrintsNumbers r)
    (extended : GpsLocationExtended φ) (cache : LocSvCacheInfo) {svType : GnssSvType}
    (h : svType ∈ constellations) (needCombine : Bool) :
    let ids := (idsOf (cachedMask cache svType)).map (· + svIdOffsetOf svType)
    ∃ svMeta, svMeta.talker.length = 2 ∧ IsPlain svMeta.talker ∧
      svMeta.systemId = systemIdOf svType ∧
      ('$' :: commas (gsaFields r extended svMeta ids)
        ++ formatD 1 (svMeta.systemId : Int)).length ≤ 194 ∧
      (locNmeaGenerateGSA r extended (locNmeaSvMetaInit cache svType needCombine)).2
        = if svType ≠ .gps ∧ cachedMask cache svType = 0 then []
          else
            [locNmeaPutChecksum ('$' :: commas (gsaFields r extended svMeta ids)
              ++ formatD 1 (svMeta.systemId : Int))] := by
  intro ids
  obtain ⟨svMeta, hinit, hlength, hplain, htype, hmask, hoffset, hsystem⟩ :=
    locNmeaSvMetaInit_eq cache h needCombine
  have hsystemLt := systemIdOf_lt svType
  have hoffsetLe := svIdOffsetOf_le svType
  rw [← hsystem] at hsystemLt
  -- an id and its offset take three digits at most
  have hids : ∀ id ∈ ids, id < 1000 := by
    intro id hid
    obtain ⟨id', hid', rfl⟩ := List.mem_map.mp hid
    have := idsOf_le hid'
    show id' + svIdOffsetOf svType < 1000
    omega
  have hempty : ids = [] ↔ cachedMask cache svType = 0 :=
    List.map_eq_nil_iff.trans idsOf_eq_nil_iff
  obtain ⟨htext, hle⟩ := gsaText_eq hr extended hlength hsystemLt hids
  refine ⟨svMeta, hlength, hplain, hsystem, hle, ?_⟩
  rw [hinit, locNmeaGenerateGSA, hmask, hoffset, htype, svUsedList_eq]
  -- an empty list is printed for GPS only
  by_cases hskip : svType ≠ .gps ∧ cachedMask cache svType = 0
  · rw [if_pos ⟨hempty.mpr hskip.2, hskip.1⟩, if_pos hskip]
  · rw [if_neg fun hnil => hskip ⟨hnil.2, hempty.mp hnil.1⟩, if_neg hskip, htext]

/-- Every GSA sentence is a text of plain fields with its checksum. -/
theorem exists_of_mem_gsaSentences {r : Reals φ δ} (hr : PrintsNumbers r)
    {extended : GpsLocationExtended φ} {sentence : CString}
    (h : sentence ∈ gsaSentences r extended) :
    ∃ svMeta ids, svMeta.talker.length = 2 ∧ IsPlain svMeta.talker ∧
      ('$' :: commas (gsaFields r extended svMeta ids)
        ++ formatD 1 (svMeta.systemId : Int)).length ≤ 194 ∧
      sentence = locNmeaPutChecksum ('$' :: commas (gsaFields r extended svMeta ids)
        ++ formatD 1 (svMeta.systemId : Int)) := by
  obtain ⟨svType, needCombine, hmem, h⟩ : ∃ svType needCombine, svType ∈ constellations ∧
      sentence ∈ (gsaOf r extended svType needCombine).2 := by
    simp only [gsaSentences, List.mem_append] at h
    rcases h with (((h | h) | h) | h) | h
    all_goals exact ⟨_, _, by decide, h⟩
  obtain ⟨svMeta, hlength, hplain, -, hle, heq⟩ :=
    locNmeaGenerateGSA_eq hr extended (usedCache extended) hmem needCombine
  rw [gsaOf, heq] at h
  split at h
  · cases h
  · exact ⟨svMeta, _, hlength, hplain, hle, List.mem_singleton.mp h⟩

end

end LocHal.Util.LocNmea
