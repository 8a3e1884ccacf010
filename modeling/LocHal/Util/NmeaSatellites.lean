import LocHal.Lib.Chunks
import LocHal.Util.NmeaPrint

/-!
# `LocHal.Util.NmeaSatellites`: the satellites of the GSV sentences

`loc_nmea_generate_GSV` goes through the report of all satellites once, and each sentence takes the
next four of its constellation. `locNmeaGenerateSv_partition` says that the sentences of a
constellation are its satellites cut into fours (`GsvPartition`).

No sentence is too long for the buffer, whatever the numbers are (`length_svBlock_le`).

The loop over the sentences keeps the position in the report that it has come to, and the inner loop
goes on from there until it has four satellites of the constellation. `gsvSvLoop_eq` is the inner
loop: it appends the blocks of the next four and stops behind the last of them. `gsvLoop_eq` is the
outer one, by induction on the sentences that are left. `SmallMeta` are the bounds on the counts and
offsets that the callers keep, and `smallMeta_gsvMeta` shows that they do.

The number of sentences is computed beforehand from the count of the satellites of the
constellation, so it has to agree with what the loop finds: `length_filter_type` says so for the
counts that `loc_nmea_generate_sv` makes.
-/

set_option autoImplicit false

namespace LocHal.Util.LocNmea

open LocHal.Lib (CutsInto chunks cutsInto_chunks)

variable {φ δ : Type} (r : Reals φ δ)

/-- What a GSV sentence shows of one satellite. -/
def svBlock (svIdOffset : Nat) (sv : GnssSv φ) : CString :=
  let rounded := fun x => (r.toInt (r.add (r.ofRat (1 / 2)) (r.ofFloat x))).toInt
  (',' :: formatD 2 (sv.svId.toNat + svIdOffset)
    ++ ',' :: formatD 2 (rounded sv.elevation) ++ ',' :: formatD 3 (rounded sv.azimuth)
    ++ [',']) ++
    if r.lt (r.ofRat 0) (r.ofFloat sv.cN0Dbhz) then formatD 2 (rounded sv.cN0Dbhz) else []

/-- The start of a GSV sentence. -/
def gsvHeader (svMeta : LocNmeaSvMeta) (sentenceCount sentenceNumber : Nat) : CString :=
  '$' :: svMeta.talker ++ "GSV,".toList ++ formatD 1 sentenceCount
    ++ ',' :: formatD 1 sentenceNumber ++ ',' :: formatD 2 svMeta.svCount

/-- The GSV sentence with these satellites. -/
def gsvSentence (svMeta : LocNmeaSvMeta) (sentenceCount sentenceNumber : Nat)
    (svs : List (GnssSv φ)) : CString :=
  locNmeaPutChecksum (gsvHeader svMeta sentenceCount sentenceNumber
    ++ svs.flatMap (svBlock r svMeta.svIdOffset) ++ ',' :: formatD 1 svMeta.signalId)

/-- The GSV sentence of a constellation without satellites. -/
def gsvBlank (svMeta : LocNmeaSvMeta) : CString :=
  locNmeaPutChecksum ('$' :: svMeta.talker ++ "GSV,1,1,0,".toList ++ formatD 1 svMeta.signalId)

theorem length_svBlock_le {svIdOffset : Nat} (hoffset : svIdOffset ≤ 64) (sv : GnssSv φ) :
    (svBlock r svIdOffset sv).length ≤ 42 := by
  have hid : (formatD 2 ((sv.svId.toNat : Int) + (svIdOffset : Int))).length ≤ 5 := by
    have := sv.svId.isLt
    exact length_formatD_natCast_le 2 (n := sv.svId.toNat + svIdOffset) (k := 5) (by decide)
      (by omega)
  have hint := fun x => length_formatD_int_le 2 (r.toInt (r.add (r.ofRat (1 / 2)) (r.ofFloat x)))
  have hazimuth :=
    length_formatD_int_le 3 (r.toInt (r.add (r.ofRat (1 / 2)) (r.ofFloat sv.azimuth)))
  have helevation := hint sv.elevation
  have hcn0 := hint sv.cN0Dbhz
  unfold svBlock
  dsimp only
  split <;> simp only [List.length_append, List.length_cons, List.length_nil] at * <;> omega

theorem length_flatMap_svBlock_le {svIdOffset : Nat} (hoffset : svIdOffset ≤ 64)
    (svs : List (GnssSv φ)) : (svs.flatMap (svBlock r svIdOffset)).length ≤ 42 * svs.length := by
  induction svs with
  | nil => exact Nat.le_refl _
  | cons sv svs ih =>
      have := length_svBlock_le r hoffset sv
      rw [List.flatMap_cons, List.length_append, List.length_cons]
      omega

/-- The inner loop takes the next satellites of the constellation. -/
theorem gsvSvLoop_eq (svType : GnssSvType) (svIdOffset : Nat) (svs : List (GnssSv φ)) {i : Nat}
    (hi : i ≤ 4) (text : CString)
    (hfit : text.length + (((svs.filter (·.type = svType)).take (4 - i)).flatMap
      (svBlock r svIdOffset)).length < 200) :
    ∃ rest, gsvSvLoop r svType svIdOffset svs i text
        = some (text ++ ((svs.filter (·.type = svType)).take (4 - i)).flatMap
            (svBlock r svIdOffset), rest) ∧
      rest.filter (·.type = svType) = (svs.filter (·.type = svType)).drop (4 - i) := by
  -- on the satellites; `4 - i` blocks still fit into the sentence
  induction svs generalizing i text with
  | nil => exact ⟨[], by simp [gsvSvLoop], by simp⟩
  | cons sv svs ih =>
      unfold gsvSvLoop
      by_cases hfour : 4 ≤ i
      · -- the sentence is full: what is left starts with this satellite
        obtain rfl : i = 4 := by omega
        exact ⟨sv :: svs, by simp, by simp⟩
      · rw [if_neg hfour]
        by_cases htype : svType = sv.type
        · -- this satellite gives one block, for which there is room
          have hfilter : (sv :: svs).filter (·.type = svType)
              = sv :: svs.filter (·.type = svType) :=
            List.filter_cons_of_pos (by simpa using htype.symm)
          have hroom : 4 - i = (4 - (i + 1)) + 1 := by omega
          rw [hfilter, hroom, List.take_succ_cons, List.flatMap_cons, List.length_append] at hfit
          rw [hfilter, hroom, List.take_succ_cons, List.flatMap_cons, List.drop_succ_cons]
          obtain ⟨rest, hrest, hfilter'⟩ :=
            ih (i := i + 1) (by omega) (text ++ svBlock r svIdOffset sv)
              (by rw [List.length_append]; omega)
          refine ⟨rest, ?_, hfilter'⟩
          rw [if_pos htype, ← List.append_assoc, ← hrest]
          have hblock : text.length + (svBlock r svIdOffset sv).length < 200 := by omega
          unfold svBlock at hblock ⊢
          dsimp only at hblock ⊢
          rw [List.length_append] at hblock
          rw [tryPrint_of_lt (by omega)]
          dsimp only [Option.bind_eq_bind, Option.bind_some]
          split
          · next hlt =>
              rw [if_pos hlt] at hblock
              rw [tryPrint_of_lt (by rw [List.length_append]; omega), List.append_assoc]
              rfl
          · rw [List.append_nil]
        · -- another constellation: passed over, and filtered out on the other side
          rw [if_neg htype]
          have hfilter : (sv :: svs).filter (·.type = svType) = svs.filter (·.type = svType) :=
            List.filter_cons_of_neg (by simpa using Ne.symm htype)
          rw [hfilter] at hfit ⊢
          exact ih hi text hfit

/-- What a constellation of 64 satellites at most needs. -/
structure SmallMeta (svMeta : LocNmeaSvMeta) : Prop where
  talker : svMeta.talker.length = 2
  svCount : svMeta.svCount ≤ 64
  svIdOffset : svMeta.svIdOffset ≤ 64
  signalId : svMeta.signalId < 10

theorem length_gsvHeader_le {svMeta : LocNmeaSvMeta} (h : SmallMeta svMeta)
    {sentenceCount sentenceNumber : Nat} (hcount : sentenceCount < 100)
    (hnumber : sentenceNumber < 100) :
    (gsvHeader svMeta sentenceCount sentenceNumber).length ≤ 15 := by
  have htalker := h.talker
  have hfirst := length_formatD_natCast_le 1 (k := 2) (by decide) hcount
  have hsecond := length_formatD_natCast_le 1 (k := 2) (by decide) hnumber
  have hthird := length_formatD_natCast_le 2 (n := svMeta.svCount) (k := 2) (by decide)
    (by have := h.svCount; omega)
  unfold gsvHeader
  simp only [List.length_append, List.length_cons, htalker] at *
  simp
  omega

/-- The sentences from a number on. -/
theorem gsvLoop_eq {svMeta : LocNmeaSvMeta} (h : SmallMeta svMeta) {sentenceCount : Nat}
    (hcount : sentenceCount < 100) (n : Nat) {sentenceNumber : Nat}
    (hnumber : sentenceNumber + n ≤ 100) (svs : List (GnssSv φ)) :
    gsvLoop r svMeta sentenceCount n sentenceNumber svs
      = (chunks 4 n (svs.filter (·.type = svMeta.svType))).mapIdx fun j chunk =>
          gsvSentence r svMeta sentenceCount (sentenceNumber + j) chunk := by
  induction n generalizing sentenceNumber svs with
  | zero => rfl
  | succ n ih =>
      -- a header, four blocks and the signal id stay below the size of the buffer
      have hheader := length_gsvHeader_le h hcount (show sentenceNumber < 100 by omega)
      have hchunk := length_flatMap_svBlock_le r h.svIdOffset
        ((svs.filter (·.type = svMeta.svType)).take 4)
      have hfour := List.length_take_le 4 (svs.filter (·.type = svMeta.svType))
      have hsignal := length_formatD_natCast_le 1 (k := 1) (by decide)
        (show svMeta.signalId < 10 ^ 1 from h.signalId)
      have hfit : (gsvHeader svMeta sentenceCount sentenceNumber).length
          + (((svs.filter (·.type = svMeta.svType)).take 4).flatMap
            (svBlock r svMeta.svIdOffset)).length < 198 := by omega
      obtain ⟨rest, hloop, hrest⟩ := gsvSvLoop_eq r svMeta.svType svMeta.svIdOffset svs
        (Nat.zero_le 4) (gsvHeader svMeta sentenceCount sentenceNumber)
        (by rw [Nat.sub_zero]; omega)
      have hsentence : (do
          let text ← tryPrint [] (gsvHeader svMeta sentenceCount sentenceNumber)
          gsvSvLoop r svMeta.svType svMeta.svIdOffset svs 0 text)
          = some (gsvHeader svMeta sentenceCount sentenceNumber
            ++ ((svs.filter (·.type = svMeta.svType)).take 4).flatMap
              (svBlock r svMeta.svIdOffset), rest) := by
        rw [tryPrint_of_lt (by rw [List.length_nil]; omega)]
        exact hloop
      rw [gsvLoop, ← gsvHeader, hsentence]
      dsimp only
      -- the next sentence starts after the four satellites of this one
      rw [ih (by omega), hrest, chunks, List.mapIdx_cons]
      congr 1
      · rw [snprintf_of_lt (by rw [List.length_append, List.length_cons]; omega)]
        rfl
      · refine congrArg (List.mapIdx · _) (funext fun j => funext fun chunk => ?_)
        rw [show sentenceNumber + 1 + j = sentenceNumber + (j + 1) by omega]

/-! ### All constellations -/

/-- The sentences of a constellation: its satellites cut into fours, or one sentence without
satellites. Every satellite is in one sentence, in the order of the report, and each sentence has
its number and the number of sentences. -/
def GsvPartition (svMeta : LocNmeaSvMeta) (svs : List (GnssSv φ)) (sentences : List CString) :
    Prop :=
  if svs = [] then sentences = [gsvBlank svMeta]
  else
    ∃ cs : List (List (GnssSv φ)), CutsInto 4 svs cs ∧
      sentences = cs.mapIdx fun j chunk => gsvSentence r svMeta cs.length (1 + j) chunk

/-- The constellations, with the talker, the offset of the ids and the signal of each. -/
def gsvMeta (svNotify : GnssSvNotification φ) (svType : GnssSvType) : LocNmeaSvMeta :=
  let svCount := countOf svNotify svType
  match svType with
  | .glonass => ⟨['G', 'L'], svType, 0, svCount, 64, 1, 2⟩
  | .galileo => ⟨['G', 'A'], svType, 0, svCount, 0, 7, 3⟩
  | .qzss => ⟨['P', 'Q'], svType, 0, svCount, 0, 0, 5⟩
  | .beidou => ⟨['P', 'Q'], svType, 0, svCount, 0, 0, 4⟩
  | _ => ⟨['G', 'P'], svType, 0, svCount, 0, 1, 1⟩

theorem length_filter_type (svNotify : GnssSvNotification φ) (svType : GnssSvType) :
    (svNotify.gnssSvs.filter (·.type = svType)).length = countOf svNotify svType :=
  List.countP_eq_length_filter.symm

theorem smallMeta_gsvMeta (svNotify : GnssSvNotification φ) (svType : GnssSvType) :
    SmallMeta (gsvMeta svNotify svType) := by
  have hcount : countOf svNotify svType ≤ 64 :=
    List.countP_le_length.trans svNotify.count_le
  cases svType <;> exact ⟨rfl, hcount, by simp [gsvMeta], by simp [gsvMeta]⟩

theorem locNmeaGenerateGSV_partition (svNotify : GnssSvNotification φ) (svType : GnssSvType) :
    GsvPartition r (gsvMeta svNotify svType) (svNotify.gnssSvs.filter (·.type = svType))
      (locNmeaGenerateGSV r svNotify (some (gsvMeta svNotify svType))) := by
  have hsmall := smallMeta_gsvMeta svNotify svType
  have hcount : (gsvMeta svNotify svType).svCount = countOf svNotify svType := by
    cases svType <;> rfl
  have htype : (gsvMeta svNotify svType).svType = svType := by cases svType <;> rfl
  have hlength := length_filter_type svNotify svType
  have hle := hcount ▸ hsmall.svCount
  have htalker := hsmall.talker
  have hsignal := length_formatD_natCast_le 1 (k := 1) (by decide)
    (show (gsvMeta svNotify svType).signalId < 10 ^ 1 from hsmall.signalId)
  unfold GsvPartition locNmeaGenerateGSV
  dsimp only
  rw [hcount]
  by_cases hnil : svNotify.gnssSvs.filter (·.type = svType) = []
  · -- no satellite: one sentence that says so
    rw [if_pos hnil, if_pos (by rw [← hlength, hnil]; rfl), gsvBlank]
    congr 2
    refine snprintf_of_lt ?_
    simp
    omega
  · have hpos := List.length_pos_iff.mpr hnil
    rw [if_neg hnil, if_neg (by omega)]
    -- the count of sentences is the number of chunks, rounded up
    have hceil : countOf svNotify svType / 4 + (if countOf svNotify svType % 4 ≠ 0 then 1 else 0)
        = ((svNotify.gnssSvs.filter (·.type = svType)).length + 4 - 1) / 4 := by
      rw [hlength]
      split <;> omega
    rw [hceil, gsvLoop_eq r hsmall (by omega) _ (by omega), htype]
    refine ⟨_, cutsInto_chunks (by decide) _, ?_⟩
    rw [(cutsInto_chunks (by decide) _).length]

/-- The GSV sentences are those of the five constellations, one after the other, and each
constellation has its satellites cut into fours.

So each satellite of a constellation is in one sentence, in the order of the report, the sentences
are numbered from 1, and each says how many there are and how many satellites. A constellation
without satellites has one sentence. -/
theorem locNmeaGenerateSv_partition (svNotify : GnssSvNotification φ) :
    ∃ sentences : GnssSvType → List CString,
      locNmeaGenerateSv r svNotify
          = [.gps, .glonass, .galileo, .qzss, .beidou].flatMap sentences ∧
        ∀ svType ∈ [GnssSvType.gps, .glonass, .galileo, .qzss, .beidou],
          GsvPartition r (gsvMeta svNotify svType)
            (svNotify.gnssSvs.filter (·.type = svType)) (sentences svType) := by
  refine ⟨fun svType => locNmeaGenerateGSV r svNotify (some (gsvMeta svNotify svType)), ?_,
    fun svType _ => locNmeaGenerateGSV_partition r svNotify svType⟩
  simp [locNmeaGenerateSv, locNmeaSvMetaInit, gsvMeta]

end LocHal.Util.LocNmea
