import Mathlib.Algebra.Group.Nat.Defs
import LocHal.Core.DebugParsers
import LocHal.Util.Strtol

/-!
# `LocHal.Core.DebugMasks`: the satellite masks of the debug sentences

A mask is printed in hexadecimal and read back with `strtol`, which is signed. `mask_eq_iff` says
when the value survives: it must not have bit 63, which only a mask of 64 bits can. From that,
`parsers_masks_iff` treats the three sentences that carry masks.

The theorem starts from the texts of a sentence. `Carries` says that a sentence has these texts as
its fields, and `PrintsXtra`, `PrintsEphemeris` and `PrintsSvHealth` say which mask each text
prints. The texts may have leading zeros: `strtol` reads them all the same. By `Carries.field_eq`
the parser gets the texts, and `mask_eq_iff` is the statement about one of them. The masks of GPS,
GLONASS and QZSS have 32 bits or less, so only those of BeiDou and Galileo are in the conditions.
-/

set_option autoImplicit false

namespace LocHal.Core

open LocHal.Util (CString)
open LocHal.Util.LocCfg (IsHexText strtol strtol_isHexText)

/-- A sentence that carries the texts, whatever follows the `*`. The texts have no comma and no `*`
of their own, so they are the fields that the parser sees. -/
structure Carries (texts : List CString) (sentence : CString) (length : Nat) : Prop where
  debug : locNmeaIsDebug sentence length = true
  eq : ∃ after, sentence = [','].intercalate texts ++ '*' :: after
  comma : ∀ text ∈ texts, ',' ∉ text
  star : ∀ text ∈ texts, '*' ∉ text

/-- The text of a field is the mask in hexadecimal. -/
def Prints (texts : List CString) (i : Nat) {width : Nat} (x : BitVec width) : Prop :=
  IsHexText x.toNat (field texts i)

/-- The texts of a `$PQWP3` sentence print the masks, in the places of the XTRA parser. The ages
stand between them and may be anything. -/
structure PrintsXtra (p3 : SystemStatusPQWP3) (texts : List CString) : Prop where
  size : 13 ≤ texts.length
  mXtraValidMask : Prints texts 2 p3.mXtraValidMask
  mGpsXtraValid : Prints texts 8 p3.mGpsXtraValid
  mGloXtraValid : Prints texts 9 p3.mGloXtraValid
  mBdsXtraValid : Prints texts 10 p3.mBdsXtraValid
  mGalXtraValid : Prints texts 11 p3.mGalXtraValid
  mQzssXtraValid : Prints texts 12 p3.mQzssXtraValid

/-- The texts of a `$PQWP4` sentence print the masks, in the places of the ephemeris parser. -/
structure PrintsEphemeris (p4 : SystemStatusPQWP4) (texts : List CString) : Prop where
  size : 7 ≤ texts.length
  mGpsEpheValid : Prints texts 2 p4.mGpsEpheValid
  mGloEpheValid : Prints texts 3 p4.mGloEpheValid
  mBdsEpheValid : Prints texts 4 p4.mBdsEpheValid
  mGalEpheValid : Prints texts 5 p4.mGalEpheValid
  mQzssEpheValid : Prints texts 6 p4.mQzssEpheValid

/-- The texts of a `$PQWP5` sentence print the masks: a text is the number that stands for the mask,
in the place of the sentence where the parser looks for it. -/
structure PrintsSvHealth (p5 : SystemStatusPQWP5) (texts : List CString) : Prop where
  size : 17 ≤ texts.length
  mGpsUnknownMask : Prints texts 2 p5.mGpsUnknownMask
  mGloUnknownMask : Prints texts 3 p5.mGloUnknownMask
  mBdsUnknownMask : Prints texts 4 p5.mBdsUnknownMask
  mGalUnknownMask : Prints texts 5 p5.mGalUnknownMask
  mQzssUnknownMask : Prints texts 6 p5.mQzssUnknownMask
  mGpsGoodMask : Prints texts 7 p5.mGpsGoodMask
  mGloGoodMask : Prints texts 8 p5.mGloGoodMask
  mBdsGoodMask : Prints texts 9 p5.mBdsGoodMask
  mGalGoodMask : Prints texts 10 p5.mGalGoodMask
  mQzssGoodMask : Prints texts 11 p5.mQzssGoodMask
  mGpsBadMask : Prints texts 12 p5.mGpsBadMask
  mGloBadMask : Prints texts 13 p5.mGloBadMask
  mBdsBadMask : Prints texts 14 p5.mBdsBadMask
  mGalBadMask : Prints texts 15 p5.mGalBadMask
  mQzssBadMask : Prints texts 16 p5.mQzssBadMask

/-- The masks among the members of the record, which has ages too. The texts say nothing about the
ages here. -/
def SameMasks (p3 q3 : SystemStatusPQWP3) : Prop :=
  p3.mXtraValidMask = q3.mXtraValidMask ∧ p3.mGpsXtraValid = q3.mGpsXtraValid ∧
    p3.mGloXtraValid = q3.mGloXtraValid ∧ p3.mBdsXtraValid = q3.mBdsXtraValid ∧
    p3.mGalXtraValid = q3.mGalXtraValid ∧ p3.mQzssXtraValid = q3.mQzssXtraValid

theorem not_mem_intercalate {texts : List CString} (h : ∀ text ∈ texts, '*' ∉ text) :
    '*' ∉ [','].intercalate texts := by
  induction texts with
  | nil => simp
  | cons text texts ih =>
      have hrest := ih fun t ht => h t (List.mem_cons_of_mem _ ht)
      by_cases hnil : texts = []
      · simpa [hnil] using h text List.mem_cons_self
      · rw [List.intercalate_cons_of_ne_nil hnil]
        simp [h text List.mem_cons_self, hrest]

/-- The parsers see the texts that the sentence carries first. -/
theorem Carries.mField_eq {texts : List CString} {sentence : CString} {length : Nat}
    (h : Carries texts sentence length) (hne : texts ≠ []) :
    ∃ extra, mField sentence length = texts ++ extra := by
  obtain ⟨after, rfl⟩ := h.eq
  have hstar := not_mem_intercalate h.star
  refine ⟨(after.splitOn ',').dropLast, ?_⟩
  rw [Core.mField_eq h.debug (by simp), body_append hstar, trailer_append hstar,
    List.splitOn_intercalate _ h.comma hne]

theorem Carries.length_le {texts : List CString} {sentence : CString} {length : Nat}
    (h : Carries texts sentence length) (hne : texts ≠ []) :
    texts.length ≤ (mField sentence length).length := by
  obtain ⟨extra, heq⟩ := h.mField_eq hne
  rw [heq, List.length_append]
  omega

theorem Carries.field_eq {texts : List CString} {sentence : CString} {length i : Nat}
    (h : Carries texts sentence length) (hi : i < texts.length) :
    field (mField sentence length) i = field texts i := by
  obtain ⟨extra, heq⟩ := h.mField_eq (List.ne_nil_of_length_pos (by omega))
  rw [field, field, heq, List.getD_eq_getElem?_getD, List.getD_eq_getElem?_getD,
    List.getElem?_append_left hi]

/-- A mask survives when it fits a `long`. -/
theorem mask_eq_iff {width i : Nat} {fields : List CString} {x : BitVec width}
    (hwidth : width ≤ 64) (hx : IsHexText x.toNat (field fields i)) :
    mask width fields i = x ↔ x.toNat < 2 ^ 63 := by
  unfold mask
  rw [strtol_isHexText hx, ← BitVec.toNat_inj, BitVec.toNat_ofInt]
  have hlt := x.isLt
  constructor
  · intro heq
    by_contra hge
    -- only a mask of 64 bits reaches `2 ^ 63`, which `strtol` cuts
    have hw : width = 64 := by
      by_contra hne
      have : 2 ^ width ≤ 2 ^ 63 := Nat.pow_le_pow_right (by omega) (by omega)
      omega
    subst hw
    omega
  · intro hsmall
    rw [show min (x.toNat : Int) 0x7fffffffffffffff = x.toNat by omega, ← Int.natCast_emod,
      Int.toNat_natCast, Nat.mod_eq_of_lt hlt]

/-- The mask of a field that the sentence carries. -/
theorem Carries.mask_eq_iff {texts : List CString} {sentence : CString} {length width i : Nat}
    {x : BitVec width} (h : Carries texts sentence length) (hi : i < texts.length)
    (hwidth : width ≤ 64) (hx : Prints texts i x) :
    mask width (mField sentence length) i = x ↔ x.toNat < 2 ^ 63 :=
  Core.mask_eq_iff hwidth (by rwa [h.field_eq hi])

/-- A mask of 32 bits or fewer survives. -/
theorem Carries.mask_eq {texts : List CString} {sentence : CString} {length width i : Nat}
    {x : BitVec width} (h : Carries texts sentence length) (hi : i < texts.length)
    (hwidth : width ≤ 32) (hx : Prints texts i x) : mask width (mField sentence length) i = x :=
  (h.mask_eq_iff hi (by omega) hx).mpr <|
    x.isLt.trans_le (Nat.pow_le_pow_right (by omega) (by omega))

theorem pqwp3Parser_sameMasks_iff {texts : List CString} {sentence : CString} {length : Nat}
    {p3 : SystemStatusPQWP3} (h : Carries texts sentence length) (hp : PrintsXtra p3 texts)
    (uninit : SystemStatusPQWP3) :
    SameMasks (pqwp3Parser uninit (mField sentence length)) p3 ↔
      p3.mBdsXtraValid.toNat < 2 ^ 63 ∧ p3.mGalXtraValid.toNat < 2 ^ 63 := by
  have hsize := hp.size
  have hlength := h.length_le (List.ne_nil_of_length_pos (by omega))
  unfold SameMasks pqwp3Parser
  rw [if_neg (by omega)]
  dsimp only
  -- only the BeiDou and Galileo masks have 64 bits
  rw [h.mask_eq (by omega) (by decide) hp.mXtraValidMask,
    h.mask_eq (by omega) (by decide) hp.mGpsXtraValid,
    h.mask_eq (by omega) (by decide) hp.mGloXtraValid,
    h.mask_eq (by omega) (by decide) hp.mQzssXtraValid,
    h.mask_eq_iff (by omega) (by decide) hp.mBdsXtraValid,
    h.mask_eq_iff (by omega) (by decide) hp.mGalXtraValid]
  tauto

theorem pqwp4Parser_eq_iff {texts : List CString} {sentence : CString} {length : Nat}
    {p4 : SystemStatusPQWP4} (h : Carries texts sentence length) (hp : PrintsEphemeris p4 texts)
    (uninit : SystemStatusPQWP4) :
    pqwp4Parser uninit (mField sentence length) = p4 ↔
      p4.mBdsEpheValid.toNat < 2 ^ 63 ∧ p4.mGalEpheValid.toNat < 2 ^ 63 := by
  have hsize := hp.size
  have hlength := h.length_le (List.ne_nil_of_length_pos (by omega))
  unfold pqwp4Parser
  rw [if_neg (by omega), SystemStatusPQWP4.ext_iff]
  dsimp only
  -- again the two masks of 64 bits
  rw [h.mask_eq (by omega) (by decide) hp.mGpsEpheValid,
    h.mask_eq (by omega) (by decide) hp.mGloEpheValid,
    h.mask_eq (by omega) (by decide) hp.mQzssEpheValid,
    h.mask_eq_iff (by omega) (by decide) hp.mBdsEpheValid,
    h.mask_eq_iff (by omega) (by decide) hp.mGalEpheValid]
  tauto

theorem pqwp5Parser_eq_iff {texts : List CString} {sentence : CString} {length : Nat}
    {p5 : SystemStatusPQWP5} (h : Carries texts sentence length) (hp : PrintsSvHealth p5 texts)
    (uninit : SystemStatusPQWP5) :
    pqwp5Parser uninit (mField sentence length) = p5 ↔
      (p5.mBdsUnknownMask.toNat < 2 ^ 63 ∧ p5.mGalUnknownMask.toNat < 2 ^ 63) ∧
        (p5.mBdsGoodMask.toNat < 2 ^ 63 ∧ p5.mGalGoodMask.toNat < 2 ^ 63) ∧
        p5.mBdsBadMask.toNat < 2 ^ 63 ∧ p5.mGalBadMask.toNat < 2 ^ 63 := by
  have hsize := hp.size
  have hlength := h.length_le (List.ne_nil_of_length_pos (by omega))
  unfold pqwp5Parser
  rw [if_neg (by omega), SystemStatusPQWP5.ext_iff]
  dsimp only
  rw [h.mask_eq (by omega) (by decide) hp.mGpsUnknownMask,
    h.mask_eq (by omega) (by decide) hp.mGloUnknownMask,
    h.mask_eq_iff (by omega) (by decide) hp.mBdsUnknownMask,
    h.mask_eq_iff (by omega) (by decide) hp.mGalUnknownMask,
    h.mask_eq (by omega) (by decide) hp.mQzssUnknownMask,
    h.mask_eq (by omega) (by decide) hp.mGpsGoodMask,
    h.mask_eq (by omega) (by decide) hp.mGloGoodMask,
    h.mask_eq_iff (by omega) (by decide) hp.mBdsGoodMask,
    h.mask_eq_iff (by omega) (by decide) hp.mGalGoodMask,
    h.mask_eq (by omega) (by decide) hp.mQzssGoodMask,
    h.mask_eq (by omega) (by decide) hp.mGpsBadMask,
    h.mask_eq (by omega) (by decide) hp.mGloBadMask,
    h.mask_eq_iff (by omega) (by decide) hp.mBdsBadMask,
    h.mask_eq_iff (by omega) (by decide) hp.mGalBadMask,
    h.mask_eq (by omega) (by decide) hp.mQzssBadMask]
  tauto

/-- The parsers give back the masks that a sentence prints exactly when no mask has bit 63.

The masks of BeiDou and Galileo have 64 bits and are read by `strtol`, which is signed and stops at
`LONG_MAX`. The others have 32 bits, where it does no harm. -/
theorem parsers_masks_iff {texts : List CString} {sentence : CString} {length : Nat}
    (h : Carries texts sentence length) :
    (∀ uninit p3, PrintsXtra p3 texts →
      (SameMasks (pqwp3Parser uninit (mField sentence length)) p3 ↔
        p3.mBdsXtraValid.toNat < 2 ^ 63 ∧ p3.mGalXtraValid.toNat < 2 ^ 63)) ∧
    (∀ uninit p4, PrintsEphemeris p4 texts →
      (pqwp4Parser uninit (mField sentence length) = p4 ↔
        p4.mBdsEpheValid.toNat < 2 ^ 63 ∧ p4.mGalEpheValid.toNat < 2 ^ 63)) ∧
    (∀ uninit p5, PrintsSvHealth p5 texts →
      (pqwp5Parser uninit (mField sentence length) = p5 ↔
        (p5.mBdsUnknownMask.toNat < 2 ^ 63 ∧ p5.mGalUnknownMask.toNat < 2 ^ 63) ∧
          (p5.mBdsGoodMask.toNat < 2 ^ 63 ∧ p5.mGalGoodMask.toNat < 2 ^ 63) ∧
          p5.mBdsBadMask.toNat < 2 ^ 63 ∧ p5.mGalBadMask.toNat < 2 ^ 63)) :=
  ⟨fun uninit _ hp => pqwp3Parser_sameMasks_iff h hp uninit,
    fun uninit _ hp => pqwp4Parser_eq_iff h hp uninit,
    fun uninit _ hp => pqwp5Parser_eq_iff h hp uninit⟩

/-- The fields of a sentence whose masks are all `1`. -/
def onesTexts : List CString := ["$PQWP5".toList, ['0']] ++ List.replicate 15 ['1']

theorem prints_onesTexts {i width : Nat} (hi : i < 15) (hwidth : 0 < width) :
    Prints onesTexts (i + 2) (BitVec.ofNat width 1) := by
  have htext : field onesTexts (i + 2) = ['1'] := by decide +revert
  unfold Prints
  rw [htext, BitVec.toNat_ofNat, Nat.mod_eq_of_lt (Nat.one_lt_two_pow (by omega))]
  exact ⟨[], 0, ['1'], rfl, by simp, by decide⟩

theorem parsers_masks_ones :
    let sentence := [','].intercalate onesTexts ++ "*00".toList
    ∃ p3 p4 p5, SameMasks (pqwp3Parser p3 (mField sentence 42)) p3 ∧
      pqwp4Parser p4 (mField sentence 42) = p4 ∧ pqwp5Parser p5 (mField sentence 42) = p5 := by
  have h : Carries onesTexts ([','].intercalate onesTexts ++ "*00".toList) 42 :=
    ⟨by decide, ⟨_, rfl⟩, by decide, by decide⟩
  have hp {i width : Nat} := @prints_onesTexts i width
  -- one sentence serves all three parsers: each record has ones for its masks
  refine ⟨⟨1, 0, 0, 0, 0, 0, 1, 1, 1, 1, 1⟩, ⟨1, 1, 1, 1, 1⟩,
    ⟨1, 1, 1, 1, 1, 1, 1, 1, 1, 1, 1, 1, 1, 1, 1⟩, ?_, ?_, ?_⟩
  · refine ((parsers_masks_iff h).1 _ _ ⟨?_, ?_, ?_, ?_, ?_, ?_, ?_⟩).mpr (by decide)
    · decide
    all_goals exact hp (by decide) (by decide)
  · refine ((parsers_masks_iff h).2.1 _ _ ⟨?_, ?_, ?_, ?_, ?_, ?_⟩).mpr (by decide)
    · decide
    all_goals exact hp (by decide) (by decide)
  · refine ((parsers_masks_iff h).2.2 _ _ ⟨?_, ?_, ?_, ?_, ?_, ?_, ?_, ?_, ?_, ?_, ?_, ?_, ?_, ?_,
      ?_, ?_⟩).mpr (by decide)
    · decide
    all_goals exact hp (by decide) (by decide)

/-- Bit 63 of the BeiDou mask is lost: the parser stores the greatest `long`. -/
theorem pqwp4Parser_loses_bit63 :
    let texts := ["$PQWP4".toList, ['0'], ['1'], ['1'], "8000000000000000".toList, ['1'], ['1']]
    let sentence := [','].intercalate texts ++ "*00".toList
    let p4 : SystemStatusPQWP4 := ⟨1, 1, 0x8000000000000000, 1, 1⟩
    Carries texts sentence 36 ∧ PrintsEphemeris p4 texts ∧
      ∀ uninit, pqwp4Parser uninit (mField sentence 36)
        = { p4 with mBdsEpheValid := 0x7fffffffffffffff } ∧
          pqwp4Parser uninit (mField sentence 36) ≠ p4 := by
  have hone : IsHexText 1 ['1'] := ⟨[], 0, ['1'], rfl, by simp, by decide⟩
  have hbit : IsHexText 0x8000000000000000 "8000000000000000".toList :=
    ⟨[], 0, _, rfl, by simp, by decide +kernel⟩
  have hne : (⟨1, 1, 0x7fffffffffffffff, 1, 1⟩ : SystemStatusPQWP4)
      ≠ ⟨1, 1, 0x8000000000000000, 1, 1⟩ := by decide
  exact ⟨⟨by decide, ⟨_, rfl⟩, by decide, by decide⟩, ⟨by decide, hone, hone, hbit, hone, hone⟩,
    fun _ => ⟨rfl, hne⟩⟩

end LocHal.Core
