import Mathlib.Data.List.TakeWhile
import LocHal.Util.LocCfg

/-!
# `LocHal.Util.Strtol`: hexadecimal numbers that `strtol` reads

`IsHexText n text` says that a text is a hexadecimal number `n` as `printf` prints it: in lower or
upper case, with leading zeros and the prefix `0x` or without. `strtol` reads the number back unless
it is above the range of a `long`: then it returns the end of the range (`strtol_isHexText`).

The digits are read from the left, and each one multiplies what was read before by 16
(`foldl_toDigits`). Upper and lower case have the same value (`digit_toLower`), and leading zeros
add nothing. A text of digits has nothing that `strtol` would skip or stop at
(`strtol_of_digit_lt`), so the only way not to get the number back is the range.
-/

set_option autoImplicit false

namespace LocHal.Util.LocCfg

/-- The text is a hexadecimal number. -/
def IsHexText (n : Nat) (text : CString) : Prop :=
  ∃ start zeros ds, text = start ++ (List.replicate zeros '0' ++ ds) ∧
    start ∈ [[], "0x".toList, "0X".toList] ∧ ds.map Char.toLower = Nat.toDigits 16 n

theorem digit_digitChar {d : Nat} (hd : d < 16) : digit d.digitChar = d := by
  decide +revert

theorem digit_toLower (c : Char) : digit c.toLower = digit c := by
  have hupper : ∀ i : Fin 26,
      digit (Char.ofNat (65 + i)).toLower = digit (Char.ofNat (65 + i)) := by decide
  by_cases hc : 65 ≤ c.toNat ∧ c.toNat ≤ 90
  · have h := hupper ⟨c.toNat - 65, by omega⟩
    rwa [show 65 + (c.toNat - 65) = c.toNat by omega, Char.ofNat_toNat] at h
  · have hlower : c.toLower = c := dif_neg hc
    rw [hlower]

/-- The digits of a number spell it. -/
theorem foldl_toDigits (n : Nat) :
    ((Nat.toDigits 16 n).map digit).foldl (fun m d => m * 16 + d) 0 = n := by
  induction n using Nat.strongRecOn with
  | ind n ih =>
      by_cases hn : n < 16
      · rw [Nat.toDigits_of_lt_base hn]
        simp [digit_digitChar hn]
      · rw [Nat.toDigits_of_base_le (by omega) (by omega), List.map_append, List.foldl_append,
          ih (n / 16) (by omega)]
        simp only [List.map_cons, List.map_nil, List.foldl_cons, List.foldl_nil]
        rw [digit_digitChar (by omega)]
        omega

theorem digit_lt_of_mem_toDigits {n : Nat} {c : Char} (hc : c ∈ Nat.toDigits 16 n) :
    digit c < 16 := by
  induction n using Nat.strongRecOn with
  | ind n ih =>
      by_cases hn : n < 16
      · rw [Nat.toDigits_of_lt_base hn, List.mem_singleton] at hc
        rw [hc, digit_digitChar hn]
        exact hn
      · rw [Nat.toDigits_of_base_le (by omega) (by omega), List.mem_append,
          List.mem_singleton] at hc
        rcases hc with hc | rfl
        · exact ih (n / 16) (by omega) hc
        · rw [digit_digitChar (by omega)]
          omega

theorem digit_lt_of_mem_hexText {n zeros : Nat} {ds : CString} {c : Char}
    (hds : ds.map Char.toLower = Nat.toDigits 16 n) (hc : c ∈ List.replicate zeros '0' ++ ds) :
    digit c < 16 := by
  rcases List.mem_append.mp hc with hc | hc
  · rw [List.eq_of_mem_replicate hc]
    decide
  · rw [← digit_toLower]
    exact digit_lt_of_mem_toDigits (hds ▸ List.mem_map_of_mem hc)

theorem foldl_replicate_zero (zeros : Nat) :
    (List.replicate zeros '0').foldl (fun m c => m * 16 + digit c) 0 = 0 := by
  induction zeros with
  | zero => rfl
  | succ zeros ih => exact ih

/-- The number after the prefix. -/
theorem digits_hexText {n : Nat} {ds : CString} (zeros : Nat)
    (hds : ds.map Char.toLower = Nat.toDigits 16 n) :
    digits 16 (List.replicate zeros '0' ++ ds) = n := by
  -- the case of the letters does not matter
  have hmap : ds.map digit = (Nat.toDigits 16 n).map digit := by
    rw [← hds, List.map_map]
    exact List.map_congr_left fun c _ => (digit_toLower c).symm
  unfold digits
  rw [List.takeWhile_eq_self_iff.mpr fun c hc => decide_eq_true (digit_lt_of_mem_hexText hds hc),
    List.foldl_append, foldl_replicate_zero, ← List.foldl_map, hmap, foldl_toDigits]

theorem le_toNat_of_digit_lt {c : Char} (hc : digit c < 16) : 48 ≤ c.toNat := by
  by_contra hlt
  have hle : ∀ d : Char, 48 ≤ d.toNat → ¬ d ≤ c := fun d hd hdc => by
    have : d.toNat ≤ c.toNat := hdc
    omega
  unfold digit at hc
  -- below `0` no range of digits or letters applies
  rw [if_neg fun h => hle '0' (by decide) h.1, if_neg fun h => hle 'a' (by decide) h.1,
    if_neg fun h => hle 'A' (by decide) h.1] at hc
  omega

/-- A text of digits has no space, sign or prefix to skip. -/
theorem strtol_of_digit_lt {num : CString} (hnum : ∀ c ∈ num, digit c < 16) :
    strtol 16 num = min (digits 16 num : Int) 0x7fffffffffffffff := by
  cases num with
  | nil => decide
  | cons c rest =>
      have hc := hnum c List.mem_cons_self
      have hle := le_toNat_of_digit_lt hc
      -- `c` is no space and no sign, since it is a digit
      have hspace : isspace c = false := by
        have hne : c ≠ ' ' := by rintro rfl; exact absurd hle (by decide)
        simp [isspace, hne]
        omega
      have hsign : c ≠ '-' ∧ c ≠ '+' :=
        ⟨by rintro rfl; exact absurd hle (by decide), by rintro rfl; exact absurd hle (by decide)⟩
      -- nor can the text go on with `0x`
      have hx : ∀ x ∈ rest, x ≠ 'x' ∧ x ≠ 'X' := fun x hmem =>
        ⟨by rintro rfl; exact absurd (hnum _ (List.mem_cons_of_mem _ hmem)) (by decide),
          by rintro rfl; exact absurd (hnum _ (List.mem_cons_of_mem _ hmem)) (by decide)⟩
      unfold strtol
      rw [List.dropWhile_cons_of_neg (by simp [hspace])]
      split
      next negative s h =>
        split at h
        · next heq => exact absurd (List.cons.inj heq).1 hsign.1
        · next heq => exact absurd (List.cons.inj heq).1 hsign.2
        · obtain ⟨rfl, rfl⟩ := Prod.mk.inj h
          rw [if_neg Bool.false_ne_true]
          split
          · next x tail heq =>
              obtain ⟨rfl, rfl⟩ := List.cons.inj heq
              rw [if_neg fun h => h.2.elim (hx x List.mem_cons_self).1 (hx x List.mem_cons_self).2]
          · rfl

/-- `strtol` gives the number, or the greatest `long` below it. -/
theorem strtol_isHexText {n : Nat} {text : CString} (h : IsHexText n text) :
    strtol 16 text = min (n : Int) 0x7fffffffffffffff := by
  obtain ⟨start, zeros, ds, rfl, hstart, hds⟩ := h
  have hdigits := digits_hexText zeros hds
  have hall := fun c => @digit_lt_of_mem_hexText n zeros ds c hds
  generalize hnum : List.replicate zeros '0' ++ ds = num at hdigits hall ⊢
  simp only [List.mem_cons, List.not_mem_nil, or_false] at hstart
  -- no prefix, `0x` and `0X`
  rcases hstart with rfl | rfl | rfl
  · rw [List.nil_append, strtol_of_digit_lt hall, hdigits]
  · show min (digits 16 num : Int) _ = _
    rw [hdigits]
  · show min (digits 16 num : Int) _ = _
    rw [hdigits]

end LocHal.Util.LocCfg
