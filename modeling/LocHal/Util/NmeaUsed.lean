import LocHal.Util.NmeaExact
import LocHal.Util.NmeaTrack

/-!
# `LocHal.Util.NmeaUsed`: the satellites of the GSA sentences

`loc_nmea_generate_pos` copies the masks of the used satellites into a cache of 32-bit masks, with
those of QZSS and BeiDou exchanged.

`ListsUsed` is the property, read off the sentences: each constellation has a GSA sentence with its
ids and its fix type. `listsUsed_iff` gives the exact condition on the masks.

The proof goes from the sentences back to the masks. `readGsa_gsa` says that a GSA sentence is read
back as the ids and the fix type that it was made of, and `filterMap_readGsa_trackSentences` that no
other sentence is taken for one. So the property is an equality of masks, one for each
constellation: `shown_eq_iff` turns it into an equality of the first twelve ids, and
`take_idsOf_setWidth_iff` says when a mask keeps them in 32 bits.
-/

set_option autoImplicit false

namespace LocHal.Util.LocNmea

variable {φ δ : Type}

/-! ### Reading a sentence -/

/-- What a GSA sentence shows. -/
structure Gsa where
  fixType : CString
  ids : List CString
  systemId : CString
  deriving DecidableEq, Repr

/-- A sentence that is a GSA sentence is read: the fix type, the twelve fields of the ids, and the
system id behind the dilution of precision. -/
def readGsa (sentence : CString) : Option Gsa :=
  if IsNamed "GSA".toList sentence then
    let fields := fieldsOf sentence
    some ⟨fields.getD 2 [], ((fields.drop 3).take 12).filter (· ≠ []), fields.getD 18 []⟩
  else none

/-- The mask of the used satellites. -/
def usedIdsMask (used : GnssSvUsedInPosition) : GnssSvType → BitVec 64
  | .gps => used.gpsSvUsedIdsMask
  | .glonass => used.gloSvUsedIdsMask
  | .galileo => used.galSvUsedIdsMask
  | .beidou => used.bdsSvUsedIdsMask
  | .qzss => used.qzssSvUsedIdsMask
  | _ => 0

/-- What shows a mask: one sentence, and none for an empty mask of a constellation that is not
GPS. -/
def shown {w : Nat} (svType : GnssSvType) (mask : BitVec w) : List Gsa :=
  if svType ≠ .gps ∧ mask = 0 then []
  else
    [{ fixType := [fixType (idsOf mask).length]
       ids := ((idsOf mask).take 12).map fun id =>
         formatD 2 ((id + svIdOffsetOf svType : Nat) : Int)
       systemId := formatD 1 (systemIdOf svType) }]

/-- The GSA sentences list the used satellites of each constellation. The sentences are read back:
those with the system id of the constellation are the ones that its mask calls for, with the first
twelve ids and the fix type. -/
def ListsUsed (sentences : List CString) (used : GnssSvUsedInPosition) : Prop :=
  ∀ svType ∈ constellations,
    (sentences.filterMap readGsa).filter (·.systemId = formatD 1 (systemIdOf svType))
      = shown svType (usedIdsMask used svType)

instance (sentences : List CString) (used : GnssSvUsedInPosition) :
    Decidable (ListsUsed sentences used) :=
  inferInstanceAs (Decidable (∀ svType ∈ constellations, _))

/-! ### The sentence that is read -/

/-- The ids in the twelve fields that are not empty. -/
theorem filter_idTexts (svUsedList : List Nat) (n : Nat) :
    ((List.range n).map (idText svUsedList)).filter (· ≠ [])
      = (svUsedList.take n).map fun id : Nat => formatD 2 (id : Int) := by
  induction n with
  | zero => rfl
  | succ n ih =>
      rw [List.range_succ, List.map_append, List.filter_append, ih, List.take_add_one,
        List.map_append]
      congr 1
      unfold idText
      by_cases hn : n < svUsedList.length
      · have hne : formatD 2 (svUsedList[n] : Int) ≠ [] := formatD_natCast_ne_nil 2 _
        simp [hn, hne]
      · simp [hn]

/-- What a GSA sentence shows of its list. -/
theorem readGsa_text {r : Reals φ δ} (hr : PrintsNumbers r) (extended : GpsLocationExtended φ)
    {svMeta : LocNmeaSvMeta} (hlength : svMeta.talker.length = 2) (hplain : IsPlain svMeta.talker)
    (svUsedList : List Nat) (rest : CString) :
    readGsa ('$' :: commas (gsaFields r extended svMeta svUsedList) ++ formatD 1 svMeta.systemId
        ++ '*' :: rest)
      = some
        { fixType := [fixType svUsedList.length]
          ids := (svUsedList.take 12).map fun id : Nat => formatD 2 (id : Int)
          systemId := formatD 1 svMeta.systemId } := by
  let idTexts := (List.range 12).map (idText svUsedList)
  have hidTexts : idTexts.length = 12 := by rw [List.length_map, List.length_range]
  obtain ⟨p, h, v, hdop⟩ : ∃ p h v, dopFields r extended = [p, h, v] := by
    unfold dopFields
    split <;> exact ⟨_, _, _, rfl⟩
  have hfields : gsaFields r extended svMeta svUsedList
      = (svMeta.talker ++ "GSA".toList) :: ['A'] :: [fixType svUsedList.length]
        :: (idTexts ++ [p, h, v]) := by rw [gsaFields, hdop]
  unfold readGsa
  rw [fieldsOf_commas (isPlain_gsaFields hr extended hplain svUsedList) (isPlain_formatD 1 _),
    if_pos]
  · rw [hfields]
    dsimp only
    congr 2
    show ((idTexts ++ [p, h, v] ++ [_]).take 12).filter _ = _
    -- the ids are the twelve fields after the fix type
    rw [List.append_assoc, List.take_append_of_le_length hidTexts.ge,
      List.take_of_length_le hidTexts.le]
    exact filter_idTexts svUsedList 12
  · obtain ⟨a, b, htalker⟩ := List.length_eq_two.mp hlength
    rw [hfields, htalker]
    rfl

/-- A mask is shown by the sentence that `loc_nmea_generate_GSA` pushes for it. -/
theorem readGsa_gsa {r : Reals φ δ} (hr : PrintsNumbers r) (extended : GpsLocationExtended φ)
    (cache : LocSvCacheInfo) {svType : GnssSvType} (h : svType ∈ constellations)
    (needCombine : Bool) :
    (locNmeaGenerateGSA r extended (locNmeaSvMetaInit cache svType needCombine)).2.filterMap readGsa
      = shown svType (cachedMask cache svType) := by
  obtain ⟨svMeta, hlength, hplain, hsystem, hle, hsentence⟩ :=
    locNmeaGenerateGSA_eq hr extended cache h needCombine
  rw [hsentence]
  unfold shown
  by_cases hskip : svType ≠ .gps ∧ cachedMask cache svType = 0
  · rw [if_pos hskip, if_pos hskip]
    rfl
  · rw [if_neg hskip, if_neg hskip, locNmeaPutChecksum_of_le hle]
    refine (List.filterMap_cons_some (readGsa_text hr extended hlength hplain _ _)).trans ?_
    rw [hsystem, List.length_map]
    simp [List.map_take, Function.comp_def]

/-! ### The other sentences -/

/-- The sentences from VTG on have other names. -/
theorem filterMap_readGsa_trackSentences {r : Reals φ δ} (hr : PrintsNumbers r)
    (location : GpsLocation φ δ) (extended : GpsLocationExtended φ) (tm : Tm) :
    (trackSentences r location extended tm).filterMap readGsa = [] := by
  obtain ⟨htalker, -⟩ := posTalker_letters r extended
  have hother : ∀ name : CString, name.length = 3 → name ≠ "GSA".toList → ∀ fields last,
      readGsa (locNmeaPutChecksum
        ('$' :: commas ((posTalker r extended ++ name) :: fields) ++ last)) = none :=
    fun _ hlength hne fields last =>
      if_neg fun h => hne ((isNamed_iff htalker hlength fields last).mp h)
  rw [trackSentences_eq location extended hr tm, List.filterMap_eq_nil_iff]
  intro sentence hsentence
  simp only [List.mem_cons, List.not_mem_nil, or_false] at hsentence
  rcases hsentence with rfl | rfl | rfl
  · exact hother "VTG".toList rfl (by decide) _ _
  · exact hother "RMC".toList rfl (by decide) _ _
  · exact hother "GGA".toList rfl (by decide) _ _

/-! ### The masks -/

/-- The part of a mask that the cache keeps, with the constellations exchanged. -/
def keptMask (used : GnssSvUsedInPosition) : GnssSvType → BitVec 32
  | .qzss => used.bdsSvUsedIdsMask.setWidth 32
  | .beidou => used.qzssSvUsedIdsMask.setWidth 32
  | svType => (usedIdsMask used svType).setWidth 32

theorem cachedMask_usedCache {extended : GpsLocationExtended φ}
    (h : extended.hasGnssSvUsedData = true) (svType : GnssSvType) :
    cachedMask (usedCache extended) svType = keptMask extended.gnssSvUsedIds svType := by
  rw [usedCache, if_pos h]
  cases svType <;> rfl

/-- The GSA sentences show the masks of the cache. -/
theorem filterMap_readGsa_gsaSentences {r : Reals φ δ} (hr : PrintsNumbers r)
    {extended : GpsLocationExtended φ} (h : extended.hasGnssSvUsedData = true) :
    (gsaSentences r extended).filterMap readGsa
      = constellations.flatMap fun svType =>
        shown svType (keptMask extended.gnssSvUsedIds svType) := by
  have hread : ∀ svType ∈ constellations, ∀ needCombine,
      (gsaOf r extended svType needCombine).2.filterMap readGsa
        = shown svType (keptMask extended.gnssSvUsedIds svType) := by
    intro svType hmem needCombine
    rw [← cachedMask_usedCache h]
    exact readGsa_gsa hr extended (usedCache extended) hmem needCombine
  simp only [gsaSentences, List.filterMap_append, constellations, List.flatMap_cons,
    List.flatMap_nil, List.append_nil, List.append_assoc]
  rw [hread _ (by decide), hread _ (by decide), hread _ (by decide), hread _ (by decide),
    hread _ (by decide)]

/-- The system id picks the constellation. -/
theorem filter_flatMap_shown (masks : GnssSvType → BitVec 32) {svType : GnssSvType}
    (h : svType ∈ constellations) :
    (constellations.flatMap fun svType' => shown svType' (masks svType')).filter
        (·.systemId = formatD 1 (systemIdOf svType))
      = shown svType (masks svType) := by
  have hshown : ∀ svType', (shown svType' (masks svType')).filter
      (·.systemId = formatD 1 (systemIdOf svType))
        = if systemIdOf svType' = systemIdOf svType then shown svType' (masks svType') else [] := by
    intro svType'
    unfold shown
    split
    · simp
    · by_cases heq : systemIdOf svType' = systemIdOf svType
      · simp [heq]
      · -- two system ids never print the same
        have hne : formatD 1 (systemIdOf svType' : Int) ≠ formatD 1 (systemIdOf svType : Int) :=
          fun hformat => heq (formatD_natCast_injective 1 hformat)
        simp [heq, hne]
  rw [List.filter_flatMap]
  simp only [hshown]
  simp only [constellations, List.mem_cons, List.not_mem_nil, or_false] at h
  -- the five system ids differ, so one constellation is left
  rcases h with rfl | rfl | rfl | rfl | rfl <;> simp [constellations, systemIdOf]

/-- What shows a list of at most twelve ids. -/
def shownIds (svType : GnssSvType) (ids : List Nat) : List Gsa :=
  if svType ≠ .gps ∧ ids = [] then []
  else
    [{ fixType := [fixType ids.length]
       ids := ids.map fun id => formatD 2 ((id + svIdOffsetOf svType : Nat) : Int)
       systemId := formatD 1 (systemIdOf svType) }]

theorem shown_eq_shownIds (svType : GnssSvType) {w : Nat} (mask : BitVec w) :
    shown svType mask = shownIds svType ((idsOf mask).take 12) := by
  -- twelve ids are enough to tell an empty mask and the fix type
  have hempty : (idsOf mask).take 12 = [] ↔ mask = 0 := by
    rw [List.take_eq_nil_iff, or_iff_right (by decide), idsOf_eq_nil_iff]
  have hfix : fixType ((idsOf mask).take 12).length = fixType (idsOf mask).length := by
    rw [List.length_take]
    unfold fixType
    split_ifs <;> first | rfl | omega
  simp only [shown, shownIds, hempty, hfix]

theorem shownIds_injective (svType : GnssSvType) : Function.Injective (shownIds svType) := by
  intro ids ids' h
  have hformat : Function.Injective
      fun id => formatD 2 ((id + svIdOffsetOf svType : Nat) : Int) := by
    intro id id' heq
    exact Nat.add_right_cancel (formatD_natCast_injective 2 heq)
  unfold shownIds at h
  split at h <;> split at h
  · next hids hids' => rw [hids.2, hids'.2]
  · cases h
  · cases h
  · injection h with h
    injection h with _ h
    exact hformat.list_map h

/-- Two masks are shown the same way when their first twelve ids are the same. -/
theorem shown_eq_iff (svType : GnssSvType) {w w' : Nat} (mask : BitVec w) (mask' : BitVec w') :
    shown svType mask = shown svType mask' ↔ (idsOf mask).take 12 = (idsOf mask').take 12 := by
  rw [shown_eq_shownIds, shown_eq_shownIds, (shownIds_injective svType).eq_iff]

/-- The low half of a mask has its first twelve ids, if there are twelve, or no other ids. -/
theorem take_idsOf_setWidth_iff (mask : BitVec 64) :
    (idsOf mask).take 12 = (idsOf (mask.setWidth 32)).take 12 ↔
      mask.toNat < 2 ^ 32 ∨ 12 ≤ (idsOf (mask.setWidth 32)).length := by
  let high := ((List.range 32).filter fun b => mask.getLsbD (32 + b)).map (32 + · + 1)
  -- the ids of the low half come first
  have hsplit : idsOf mask = idsOf (mask.setWidth 32) ++ high := by
    have hlow : (List.range 32).filter (mask.getLsbD ·)
        = (List.range 32).filter ((mask.setWidth 32).getLsbD ·) := by
      refine List.filter_congr fun b hb => ?_
      simp [List.mem_range.mp hb]
    have hrange : List.range 64 = List.range 32 ++ (List.range 32).map (32 + ·) :=
      List.range_add (n := 32) (m := 32)
    rw [idsOf, hrange, List.filter_append, List.map_append, hlow, List.filter_map, List.map_map]
    rfl
  -- the rest is empty exactly when no high bit is set
  have hhigh : high = [] ↔ mask.toNat < 2 ^ 32 := by
    rw [List.map_eq_nil_iff, List.filter_eq_nil_iff]
    constructor
    · intro h
      refine Nat.lt_pow_two_of_testBit _ fun b hb => ?_
      by_cases hb64 : b < 64
      · have := h (b - 32) (List.mem_range.mpr (by omega))
        rw [show 32 + (b - 32) = b by omega] at this
        simpa [BitVec.getLsbD] using this
      · exact BitVec.getLsbD_of_ge mask b (by omega)
    · intro h b _
      have : mask.toNat < 2 ^ (32 + b) :=
        Nat.lt_of_lt_of_le h (Nat.pow_le_pow_right (by decide) (by omega))
      simp [BitVec.getLsbD, Nat.testBit_lt_two_pow this]
  rw [hsplit, List.take_append, List.append_right_eq_self, List.take_eq_nil_iff, hhigh]
  omega

/-- The condition on the masks. Those of GPS, GLONASS and Galileo lose their upper halves in the
cache, which makes no difference if there is nothing in it, or if the twelve ids that are listed are
all in the lower half (`low`). Those of QZSS and BeiDou change places as well, so the first twelve
ids of each must be those of the lower half of the other one (`qzss`, `beidou`). -/
structure KeepsIds (used : GnssSvUsedInPosition) : Prop where
  low : ∀ svType ∈ [GnssSvType.gps, .glonass, .galileo],
    (usedIdsMask used svType).toNat < 2 ^ 32 ∨
      12 ≤ (idsOf ((usedIdsMask used svType).setWidth 32)).length
  qzss : (idsOf used.qzssSvUsedIdsMask).take 12
    = (idsOf (used.bdsSvUsedIdsMask.setWidth 32)).take 12
  beidou : (idsOf used.bdsSvUsedIdsMask).take 12
    = (idsOf (used.qzssSvUsedIdsMask.setWidth 32)).take 12

theorem keepsIds_iff (used : GnssSvUsedInPosition) :
    KeepsIds used ↔ ∀ svType ∈ constellations,
      shown svType (keptMask used svType) = shown svType (usedIdsMask used svType) := by
  -- the cache narrows these three masks, and exchanges the other two
  have hlow : ∀ svType, keptMask used svType = (usedIdsMask used svType).setWidth 32 →
      (shown svType (keptMask used svType) = shown svType (usedIdsMask used svType) ↔
        (usedIdsMask used svType).toNat < 2 ^ 32 ∨
          12 ≤ (idsOf ((usedIdsMask used svType).setWidth 32)).length) := by
    intro svType h
    rw [h, eq_comm, shown_eq_iff, take_idsOf_setWidth_iff]
  simp only [constellations, List.forall_mem_cons]
  rw [hlow .gps rfl, hlow .glonass rfl, hlow .galileo rfl, shown_eq_iff, shown_eq_iff]
  constructor
  · rintro ⟨hlow, hqzss, hbeidou⟩
    exact ⟨hlow _ (by decide), hlow _ (by decide), hlow _ (by decide), hqzss.symm, hbeidou.symm,
      by simp⟩
  · rintro ⟨hgps, hglonass, hgalileo, hqzss, hbeidou, -⟩
    refine ⟨?_, hqzss.symm, hbeidou.symm⟩
    simpa [List.forall_mem_cons] using ⟨hgps, hglonass, hgalileo⟩

/-- The GSA sentences list the used satellites exactly when the time can be printed and the masks
keep their ids in the cache.

The cache has 32 bits for each mask, and those of QZSS and BeiDou are exchanged in it. A sentence
lists twelve ids at most, so what is lost behind twelve others does not show. Without the time no
sentence is printed. -/
theorem listsUsed_iff {r : Reals φ δ} (hr : PrintsNumbers r) (location : GpsLocation φ δ)
    (extended : GpsLocationExtended φ) (hused : extended.hasGnssSvUsedData = true)
    (gmtime : Int → Option Tm) :
    ListsUsed (locNmeaGeneratePos r location extended gmtime true) extended.gnssSvUsedIds ↔
      (gmtime (location.timestamp.tdiv 1000)).isSome ∧ KeepsIds extended.gnssSvUsedIds := by
  unfold locNmeaGeneratePos
  cases hgmtime : gmtime (location.timestamp.tdiv 1000) with
  | none =>
      -- without a time there is no sentence, but GPS is always listed
      refine iff_of_false (fun h => ?_) (by simp)
      have := h .gps (by decide)
      simp [shown] at this
  | some tm =>
      rw [keepsIds_iff]
      simp only [Option.isSome_some, true_and, if_true]
      -- the sentences from VTG on show no list
      have hall : ∀ svType ∈ constellations,
          ((gsaSentences r extended
            ++ trackSentences r location extended tm).filterMap readGsa).filter
              (·.systemId = formatD 1 (systemIdOf svType))
          = shown svType (keptMask extended.gnssSvUsedIds svType) := by
        intro svType hmem
        rw [List.filterMap_append, filterMap_readGsa_trackSentences hr, List.append_nil,
          filterMap_readGsa_gsaSentences hr hused, filter_flatMap_shown _ hmem]
      exact forall₂_congr fun svType hmem => by rw [hall svType hmem]

/-- Four satellites of GPS and three of GLONASS. -/
theorem listsUsed_gps :
    ListsUsed (locNmeaGeneratePos exact noFix { noData with
        hasGnssSvUsedData := true, gnssSvUsedIds := ⟨0x80000013#64, 7#64, 0#64, 0#64, 0#64⟩ }
      (fun _ => some ⟨0, 0, 0, 1, 0, 100⟩) true) ⟨0x80000013#64, 7#64, 0#64, 0#64, 0#64⟩ :=
  (listsUsed_iff printsNumbers_exact noFix { noData with
    hasGnssSvUsedData := true, gnssSvUsedIds := ⟨0x80000013#64, 7#64, 0#64, 0#64, 0#64⟩ } rfl
    fun _ => some ⟨0, 0, 0, 1, 0, 100⟩).mpr
      ⟨rfl, by decide +kernel, by decide +kernel, by decide +kernel⟩

/-- One QZSS satellite, which is shown as one of BeiDou. -/
theorem not_listsUsed_qzss :
    ¬ ListsUsed (locNmeaGeneratePos exact noFix { noData with
        hasGnssSvUsedData := true, gnssSvUsedIds := ⟨0#64, 0#64, 0#64, 0#64, 1#64⟩ }
      (fun _ => some ⟨0, 0, 0, 1, 0, 100⟩) true) ⟨0#64, 0#64, 0#64, 0#64, 1#64⟩ := by
  decide +kernel

end LocHal.Util.LocNmea
