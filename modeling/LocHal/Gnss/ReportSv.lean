import Mathlib.Data.List.Forall2
import LocHal.Util.NmeaExact

/-!
# `LocHal.Gnss.ReportSv`: the satellites that are used in a fix

`GnssAdapter::reportPosition` keeps the masks of the satellites that the fix uses, and
`GnssAdapter::reportSv` sets a flag in the next satellite report. `FlagsExact` is what the comment
there says. `flagsExact_iff` is the exact condition, satellite by satellite (`TestedRight`).

The bit of a satellite is `1 << (svId - 1)`, and that `1` is an `int`. Its bit 31 is the sign, which
is extended to 64 bits: satellite 32 is tested with bits 31 to 63. A wider shift is undefined:
`wideShift` is what the machine makes of it. A flag that is set when the report comes in is never
cleared.

The model has the masks with their flag, the report, and what the caller does with it: whether the
NMEA sentences are generated. `usedAfterPosition` is the part of `reportPosition` that keeps the
masks. The doubles of a satellite are those of the parameter `Reals`, which the flags do not depend
on.

`isFlagged_reportOne` and `getLsbD_reportOne` say what the function does to one satellite.
`isFlagged_reportOne_iff_isUsed` is the condition for one satellite, with one case for each of the
ids up to 31, the id 32 and the ids above. The property is a list of such statements, one for each
satellite, and so is the condition.
-/

set_option autoImplicit false

namespace LocHal.Gnss.ReportSv

open LocHal.Util (CString)
open LocHal.Util.LocNmea (GnssSv GnssSvNotification GnssSvType GnssSvUsedInPosition Reals
  Single exact locNmeaGenerateSv)

variable {φ δ : Type}

/-- The masks of `GnssAdapter`. -/
structure UsedInPosition where
  mGnssSvIdUsedInPosAvail : Bool
  mGnssSvIdUsedInPosition : GnssSvUsedInPosition
  deriving DecidableEq, Repr

/-- What `GnssAdapter::reportPosition` does to the masks. -/
def usedAfterPosition (reported hasGnssSvUsedData : Bool) (gnssSvUsedIds : GnssSvUsedInPosition)
    (state : UsedInPosition) : UsedInPosition :=
  if reported && hasGnssSvUsedData then ⟨true, gnssSvUsedIds⟩
  else { state with mGnssSvIdUsedInPosAvail := false }

/-- The mask of a constellation. -/
def maskOf (used : GnssSvUsedInPosition) : GnssSvType → BitVec 64
  | .gps => used.gpsSvUsedIdsMask
  | .glonass => used.gloSvUsedIdsMask
  | .beidou => used.bdsSvUsedIdsMask
  | .galileo => used.galSvUsedIdsMask
  | .qzss => used.qzssSvUsedIdsMask
  | _ => 0

/-- `svUsedIdMask`. -/
def svUsedIdMask (state : UsedInPosition) (type : GnssSvType) : BitVec 64 :=
  if state.mGnssSvIdUsedInPosAvail then maskOf state.mGnssSvIdUsedInPosition type else 0

/-- `1 << n`, converted to `uint64_t`. -/
def shiftOne (wideShift : Int → BitVec 32) (n : Int) : BitVec 64 :=
  (if 0 ≤ n ∧ n < 32 then 1#32 <<< n.toNat else wideShift n).signExtend 64

/-- `GNSS_SV_OPTIONS_USED_IN_FIX_BIT`. -/
abbrev usedInFixBit : Nat := 2

/-- The loop of `reportSv`, for one satellite. -/
def reportOne (wideShift : Int → BitVec 32) (state : UsedInPosition) (sv : GnssSv φ) :
    GnssSv φ :=
  -- the id as it was received
  let gnssSvId := sv.svId.toInt
  let svUsedIdMask := svUsedIdMask state sv.type
  { sv with
    -- `QZSS_SV_PRN_MIN - 1`
    svId := if sv.type = .qzss then sv.svId + 192 else sv.svId
    gnssSvOptionsMask :=
      if svUsedIdMask &&& shiftOne wideShift (gnssSvId - 1) ≠ 0 then
        sv.gnssSvOptionsMask ||| BitVec.twoPow 16 usedInFixBit
      else sv.gnssSvOptionsMask }

/-- What `reportSv` leaves behind: the report for the callbacks, the NMEA sentences and the
masks. -/
structure Reported (φ : Type) where
  svNotify : GnssSvNotification φ
  nmeaArraystr : List CString
  state : UsedInPosition

/-- `GnssAdapter::reportSv`. `nmea` says whether the sentences are generated here. -/
def reportSv (r : Reals φ δ) (wideShift : Int → BitVec 32) (nmea : Bool) (state : UsedInPosition)
    (svNotify : GnssSvNotification φ) : Reported φ :=
  let reported : GnssSvNotification φ :=
    ⟨svNotify.gnssSvs.map (reportOne wideShift state), by
      rw [List.length_map]
      exact svNotify.count_le⟩
  { svNotify := reported
    nmeaArraystr := if nmea then locNmeaGenerateSv r reported else []
    state := { state with mGnssSvIdUsedInPosAvail := false } }

/-! ### The flag -/

/-- The constellations that have a mask. A satellite of another one is not tested, and the property
leaves it out. -/
def IsKnown (type : GnssSvType) : Prop := type ∈ [.gps, .glonass, .beidou, .galileo, .qzss]

/-- The flag of a satellite. -/
def isFlagged (sv : GnssSv φ) : Bool := sv.gnssSvOptionsMask.getLsbD usedInFixBit

/-- The satellite is used: its bit is set in the mask of its constellation. -/
def IsUsed (state : UsedInPosition) (sv : GnssSv φ) : Prop :=
  state.mGnssSvIdUsedInPosAvail = true ∧
    (maskOf state.mGnssSvIdUsedInPosition sv.type).getLsbD (sv.svId.toNat - 1) = true

/-- The flag of each satellite says whether it is used, and its other option bits are as they were.
The satellites are compared in their order, so none is added or lost. -/
def FlagsExact (state : UsedInPosition) (before after : List (GnssSv φ)) : Prop :=
  List.Forall₂ (fun sv sv' => IsKnown sv.type →
    (isFlagged sv' = true ↔ IsUsed state sv) ∧
      ∀ b, b ≠ usedInFixBit →
        sv'.gnssSvOptionsMask.getLsbD b = sv.gnssSvOptionsMask.getLsbD b) before after

/-- The condition for one satellite. The test is made with `1 << (svId - 1)`, so nothing can go
wrong for the ids 1 to 31, except that a flag is never cleared. -/
structure TestedRight (wideShift : Int → BitVec 32) (state : UsedInPosition) (sv : GnssSv φ) :
    Prop where
  /-- a flag that comes in is right -/
  incoming : isFlagged sv = true → IsUsed state sv
  /-- satellite 32 is not taken for a later one -/
  sign : isFlagged sv = false → state.mGnssSvIdUsedInPosAvail = true → sv.svId.toNat = 32 →
    (∃ b, 32 ≤ b ∧ (maskOf state.mGnssSvIdUsedInPosition sv.type).getLsbD b = true) →
      IsUsed state sv
  /-- the machine's shift finds the bit of a later satellite -/
  wide : isFlagged sv = false → state.mGnssSvIdUsedInPosAvail = true → 32 < sv.svId.toNat →
    (maskOf state.mGnssSvIdUsedInPosition sv.type &&&
        (wideShift (sv.svId.toNat - 1)).signExtend 64 ≠ 0 ↔ IsUsed state sv)

theorem and_ne_zero_iff {w : Nat} {x y : BitVec w} :
    x &&& y ≠ 0 ↔ ∃ b, x.getLsbD b = true ∧ y.getLsbD b = true := by
  constructor
  · intro h
    by_contra hnone
    refine h (BitVec.eq_of_getLsbD_eq fun b _ => ?_)
    rw [BitVec.getLsbD_and]
    by_contra hb
    simp only [BitVec.ofNat_eq_ofNat, BitVec.getLsbD_zero, Bool.not_eq_false, Bool.and_eq_true]
      at hb
    exact hnone ⟨b, hb⟩
  · rintro ⟨b, hx, hy⟩ h
    have hbit := congrArg (fun z => BitVec.getLsbD z b) h
    simp [hx, hy] at hbit

/-- The bits of `1 << n` after the extension. -/
theorem getLsbD_shiftOne {wideShift : Int → BitVec 32} {n : Nat} (hn : n < 32) (b : Nat) :
    (shiftOne wideShift n).getLsbD b = decide (b = n ∨ (n = 31 ∧ 31 ≤ b ∧ b < 64)) := by
  unfold shiftOne
  rw [if_pos ⟨by omega, by omega⟩, Int.toNat_natCast, ← BitVec.twoPow_eq, BitVec.getLsbD_signExtend,
    BitVec.msb_eq_getLsbD_last, BitVec.getLsbD_twoPow, BitVec.getLsbD_twoPow]
  by_cases hb : b < 32
  · rw [if_pos hb]
    simp only [decide_eq_true hn, Bool.true_and, decide_eq_true (show b < 64 by omega)]
    exact decide_eq_decide.mpr (by omega)
  · rw [if_neg hb]
    simp only [decide_eq_true hn, Bool.true_and, ← Bool.decide_and]
    exact decide_eq_decide.mpr (by omega)

/-- The flag after the loop. -/
theorem isFlagged_reportOne (wideShift : Int → BitVec 32) (state : UsedInPosition)
    (sv : GnssSv φ) :
    isFlagged (reportOne wideShift state sv) = true ↔
      isFlagged sv = true ∨ state.mGnssSvIdUsedInPosAvail = true ∧
        maskOf state.mGnssSvIdUsedInPosition sv.type &&& shiftOne wideShift (sv.svId.toInt - 1)
          ≠ 0 := by
  unfold isFlagged reportOne svUsedIdMask
  dsimp only
  by_cases havail : state.mGnssSvIdUsedInPosAvail = true
  · rw [if_pos havail]
    split
    · next h => exact iff_of_true (by simp [usedInFixBit]) (.inr ⟨havail, h⟩)
    · next h => simp [havail, not_not.mp h]
  · rw [if_neg havail]
    simp [havail]

/-- The other option bits after the loop. -/
theorem getLsbD_reportOne (wideShift : Int → BitVec 32) (state : UsedInPosition)
    (sv : GnssSv φ) {b : Nat} (hb : b ≠ usedInFixBit) :
    (reportOne wideShift state sv).gnssSvOptionsMask.getLsbD b
      = sv.gnssSvOptionsMask.getLsbD b := by
  unfold reportOne
  dsimp only
  split
  · rw [BitVec.getLsbD_or, BitVec.getLsbD_twoPow, decide_eq_false (Ne.symm hb), Bool.and_false,
      Bool.or_false]
  · rfl

/-- What the shift of the first 32 satellites tests. -/
theorem and_shiftOne_ne_zero_iff {wideShift : Int → BitVec 32} (x : BitVec 64) {n : Nat}
    (hn : n < 32) :
    x &&& shiftOne wideShift n ≠ 0 ↔
      x.getLsbD n = true ∨ n = 31 ∧ ∃ b, 32 ≤ b ∧ x.getLsbD b = true := by
  rw [and_ne_zero_iff]
  simp only [getLsbD_shiftOne hn, decide_eq_true_eq]
  constructor
  · rintro ⟨b, hx, rfl | ⟨rfl, hle, -⟩⟩
    · exact .inl hx
    · by_cases hb : b = 31
      · exact .inl (hb ▸ hx)
      · exact .inr ⟨rfl, b, by omega, hx⟩
  · rintro (hx | ⟨rfl, b, hle, hx⟩)
    · exact ⟨n, hx, .inl rfl⟩
    · exact ⟨b, hx, .inr ⟨rfl, by omega, BitVec.lt_of_getLsbD hx⟩⟩

/-- One satellite: its flag is right exactly when it is tested right. -/
theorem isFlagged_reportOne_iff_isUsed {wideShift : Int → BitVec 32} {state : UsedInPosition}
    {sv : GnssSv φ} (hfirst : 1 ≤ sv.svId.toNat) (hlast : sv.svId.toNat ≤ 64) :
    (isFlagged (reportOne wideShift state sv) = true ↔ IsUsed state sv) ↔
      TestedRight wideShift state sv := by
  have hid : sv.svId.toInt = (sv.svId.toNat : Int) := by
    rw [BitVec.toInt_eq_toNat_of_lt (by omega)]
  rw [isFlagged_reportOne, hid]
  by_cases hle : sv.svId.toNat ≤ 32
  · -- a shift by 31 sets all the bits from 31 on, the other shifts one bit
    rw [show (sv.svId.toNat : Int) - 1 = ((sv.svId.toNat - 1 : Nat) : Int) by omega,
      and_shiftOne_ne_zero_iff _ (by omega)]
    constructor
    · intro h
      exact ⟨fun hin => h.mp (.inl hin),
        fun _ havail h32 hlater => h.mp (.inr ⟨havail, .inr ⟨by omega, hlater⟩⟩),
        fun _ _ hwide => absurd hle (by omega)⟩
    · rintro ⟨hincoming, hsign, -⟩
      refine ⟨?_, fun hused => .inr ⟨hused.1, .inl hused.2⟩⟩
      rintro (hin | ⟨havail, hbit | ⟨h31, hlater⟩⟩)
      · exact hincoming hin
      · exact ⟨havail, hbit⟩
      · -- satellite 32 with a later bit in the mask: wrong unless it is used too
        cases hflag : isFlagged sv with
        | true => exact hincoming hflag
        | false => exact hsign hflag havail (by omega) hlater
  · -- the shift is the machine's
    have hshift : shiftOne wideShift ((sv.svId.toNat : Int) - 1)
        = (wideShift (sv.svId.toNat - 1)).signExtend 64 := by
      unfold shiftOne
      rw [if_neg (by omega)]
    rw [hshift]
    constructor
    · intro h
      refine ⟨fun hin => h.mp (.inl hin), fun _ _ h32 => absurd h32 (by omega),
        fun hflag havail _ => ⟨fun htested => h.mp (.inr ⟨havail, htested⟩), fun hused => ?_⟩⟩
      rcases h.mpr hused with hin | htested
      · exact absurd hin (by simp [hflag])
      · exact htested.2
    · rintro ⟨hincoming, -, hwide⟩
      cases hflag : isFlagged sv with
      | true => exact iff_of_true (.inl rfl) (hincoming hflag)
      | false =>
          constructor
          · rintro (hin | ⟨havail, htested⟩)
            · exact absurd hin Bool.false_ne_true
            · exact (hwide hflag havail (by omega)).mp htested
          · intro hused
            exact .inr ⟨hused.1, (hwide hflag hused.1 (by omega)).mpr hused⟩

/-- The flags are exact if and only if each satellite of a known constellation is tested right.

There are two ways to go wrong. A flag that comes in set is never cleared. And the bit of a
satellite is made from an `int`, which for the id 32 is negative, and for the ids above it is a
shift by 32 or more, whose value is a parameter. -/
theorem flagsExact_iff (r : Reals φ δ) (wideShift : Int → BitVec 32) (nmea : Bool)
    (state : UsedInPosition) (svNotify : GnssSvNotification φ)
    (hids : ∀ sv ∈ svNotify.gnssSvs, 1 ≤ sv.svId.toNat ∧ sv.svId.toNat ≤ 64) :
    FlagsExact state svNotify.gnssSvs
        (reportSv r wideShift nmea state svNotify).svNotify.gnssSvs ↔
      ∀ sv ∈ svNotify.gnssSvs, IsKnown sv.type → TestedRight wideShift state sv := by
  unfold FlagsExact
  show List.Forall₂ _ _ (svNotify.gnssSvs.map (reportOne wideShift state)) ↔ _
  rw [List.forall₂_map_right_iff, List.forall₂_same]
  refine forall₂_congr fun sv hsv => imp_congr_right fun _ => ?_
  rw [← isFlagged_reportOne_iff_isUsed (hids sv hsv).1 (hids sv hsv).2]
  exact and_iff_left fun b hb => getLsbD_reportOne wideShift state sv hb

/-- A satellite with the id and no flag. -/
def plainSv (type : GnssSvType) (svId : BitVec 16) : GnssSv Single :=
  ⟨svId, type, .ofRat 0, .ofRat 0, .ofRat 0, 0⟩

/-- Satellites 3 and 4 of GPS, where the fix uses the first. -/
theorem flagsExact_gps :
    let state : UsedInPosition := ⟨true, ⟨4, 0, 0, 0, 0⟩⟩
    let svNotify : GnssSvNotification Single := ⟨[plainSv .gps 3, plainSv .gps 4], by decide⟩
    FlagsExact state svNotify.gnssSvs
      (reportSv exact (fun _ => 0) false state svNotify).svNotify.gnssSvs := by
  refine (flagsExact_iff exact _ _ _ _ (by decide)).mpr fun sv hsv _ => ?_
  simp only [List.mem_cons, List.not_mem_nil, or_false] at hsv
  rcases hsv with rfl | rfl
  · exact ⟨fun h => absurd h (by decide), fun _ _ h => absurd h (by decide),
      fun _ _ h => absurd h (by decide)⟩
  · exact ⟨fun h => absurd h (by decide), fun _ _ h => absurd h (by decide),
      fun _ _ h => absurd h (by decide)⟩

/-- Satellite 32 of Galileo gets the flag, since the fix uses satellite 36. -/
theorem not_flagsExact_galileo :
    let state : UsedInPosition := ⟨true, ⟨0, 0, 0x800000000, 0, 0⟩⟩
    let svNotify : GnssSvNotification Single := ⟨[plainSv .galileo 32], by decide⟩
    ¬ FlagsExact state svNotify.gnssSvs
      (reportSv exact (fun _ => 0) false state svNotify).svNotify.gnssSvs := by
  intro state svNotify h
  have hfirst := (List.forall₂_cons.mp h).1 (by unfold IsKnown; decide)
  have hflag : isFlagged (reportOne (fun _ => 0) state (plainSv .galileo 32)) = true := by decide
  exact absurd (hfirst.1.mp hflag).2 (by decide)

end LocHal.Gnss.ReportSv
