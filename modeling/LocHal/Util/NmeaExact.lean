import Mathlib.Data.Rat.Lemmas
import LocHal.Lib.RoundEven
import LocHal.Util.LocNmeaPos
import LocHal.Util.NmeaPrint

/-!
# `LocHal.Util.NmeaExact`: exact arithmetic

`exact` does every operation on rationals without an error, and prints the nearest decimal. A
`float` is a rational in the range of `float` (`Single`), so what it prints is no longer than what
the code prints (`printsNumbers_exact`). `decimalValue` reads a printed number.

The module is for the properties about the values that are printed, which cannot be stated for any
arithmetic: the error of a sum or a product has no bound there. With exact operations the printed
minutes are the nearest decimal of the exact value (`abs_unitsOf_sub_le`), with ties to the even one
as `printf` has it. `unitsOf_lt_iff` says when a value is printed below a bound, which is how
minutes may come out as 60.

`decimalValue_formatFixed` reads the printed text back, so that a property can speak about the text
and not about the number that it came from.
-/

set_option autoImplicit false

namespace LocHal.Util.LocNmea

open LocHal.Lib (roundEven abs_roundEven_sub_le roundEven_lt_iff_of_even roundEven_nonneg)

/-! ### Printing -/

/-- The digits of a number of units of the last decimal. -/
def decimalText (decimals n : Nat) : CString :=
  Nat.toDigits 10 (n / 10 ^ decimals)
    ++ '.' :: zeroPad decimals (Nat.toDigits 10 (n % 10 ^ decimals))

/-- The number of units of the last decimal. -/
def unitsOf (decimals : Nat) (q : ℚ) : Nat := (roundEven (|q| * 10 ^ decimals)).toNat

/-- `%0w.df` for the width `w` and `d` decimals. The sign counts. -/
def formatFixed (width decimals : Nat) (q : ℚ) : CString :=
  if q < 0 then '-' :: zeroPad (width - 1) (decimalText decimals (unitsOf decimals q))
  else zeroPad width (decimalText decimals (unitsOf decimals q))

theorem mem_zeroPad_decimalText {width decimals n : Nat} {c : Char}
    (hc : c ∈ zeroPad width (decimalText decimals n)) : c.isDigit = true ∨ c = '.' := by
  rcases List.mem_append.mp hc with hc | hc
  · rw [List.eq_of_mem_replicate hc]
    exact .inl (by decide)
  · rcases List.mem_append.mp hc with hc | hc
    · exact .inl (Nat.isDigit_of_mem_toDigits (by decide) (by decide) hc)
    · rcases List.mem_cons.mp hc with rfl | hc
      · exact .inr rfl
      · exact .inl (isDigit_of_mem_zeroPad hc)

theorem isPlain_decimalText (width decimals n : Nat) :
    IsPlain (zeroPad width (decimalText decimals n)) :=
  ⟨fun h => absurd (mem_zeroPad_decimalText h) (by decide),
    fun h => absurd (mem_zeroPad_decimalText h) (by decide),
    fun h => absurd (mem_zeroPad_decimalText h) (by decide)⟩

theorem isPlain_formatFixed (width decimals : Nat) (q : ℚ) :
    IsPlain (formatFixed width decimals q) := by
  have hminus : IsPlain ['-'] := ⟨by decide, by decide, by decide⟩
  unfold formatFixed
  split
  · exact hminus.append (isPlain_decimalText _ _ _)
  · exact isPlain_decimalText _ _ _

theorem length_decimalText_le {decimals n k : Nat} (hk : 0 < k) (hdecimals : 0 < decimals)
    (h : n / 10 ^ decimals < 10 ^ k) : (decimalText decimals n).length ≤ k + 1 + decimals := by
  have hint := length_toDigits_le hk h
  have hfraction := length_toDigits_le hdecimals
    (Nat.mod_lt n (Nat.pow_pos (n := decimals) (by decide : 0 < 10)))
  rw [decimalText, List.length_append, List.length_cons, length_zeroPad]
  omega

theorem length_formatFixed_le (width : Nat) {decimals k : Nat} {q : ℚ} (hk : 0 < k)
    (hdecimals : 0 < decimals) (h : unitsOf decimals q / 10 ^ decimals < 10 ^ k) :
    (formatFixed width decimals q).length ≤ max width (k + 1 + decimals) + 1 := by
  have := length_decimalText_le hk hdecimals h
  unfold formatFixed
  split
  · rw [List.length_cons, length_zeroPad]
    omega
  · rw [length_zeroPad]
    omega

/-- The units are the nearest ones. -/
theorem abs_unitsOf_sub_le (decimals : Nat) (q : ℚ) :
    |(unitsOf decimals q : ℚ) - |q| * 10 ^ decimals| ≤ 1 / 2 := by
  have hnonneg : 0 ≤ roundEven (|q| * 10 ^ decimals) :=
    roundEven_nonneg (mul_nonneg (abs_nonneg q) (by positivity))
  have hcast : (unitsOf decimals q : ℚ) = (roundEven (|q| * 10 ^ decimals) : ℚ) := by
    rw [unitsOf]
    exact_mod_cast Int.toNat_of_nonneg hnonneg
  rw [hcast]
  exact abs_roundEven_sub_le _

/-- A number up to a bound has no more units than the bound. -/
theorem unitsOf_le {decimals n : Nat} {q : ℚ} (h : |q| * 10 ^ decimals ≤ n) :
    unitsOf decimals q ≤ n := by
  have := (abs_le.mp (abs_unitsOf_sub_le decimals q)).2
  have hlt : (unitsOf decimals q : ℚ) < n + 1 := by linarith
  exact Nat.le_of_lt_succ (by exact_mod_cast hlt)

/-- The units below an even number of them. -/
theorem unitsOf_lt_iff {decimals n : Nat} {q : ℚ} (hn : n % 2 = 0) :
    unitsOf decimals q < n ↔ |q| * 10 ^ decimals < n - 1 / 2 := by
  have hnonneg : 0 ≤ roundEven (|q| * 10 ^ decimals) :=
    roundEven_nonneg (mul_nonneg (abs_nonneg q) (by positivity))
  have hround := roundEven_lt_iff_of_even (q := |q| * 10 ^ decimals) (n := (n : ℤ)) (by omega)
  rw [unitsOf, Int.toNat_lt hnonneg, hround, Int.cast_natCast]

/-! ### The arithmetic -/

/-- A `float`: a rational in the range of `float`. -/
structure Single where
  value : ℚ
  inRange : |value| ≤ 4 * 10 ^ 38

/-- The nearest rational in the range. -/
def Single.ofRat (q : ℚ) : Single :=
  ⟨max (-(4 * 10 ^ 38)) (min q (4 * 10 ^ 38)),
    abs_le.mpr ⟨le_max_left _ _, max_le (by norm_num) (min_le_right _ _)⟩⟩

theorem Single.value_ofRat {q : ℚ} (h : |q| ≤ 4 * 10 ^ 38) : (Single.ofRat q).value = q := by
  obtain ⟨hlow, hhigh⟩ := abs_le.mp h
  show max (-(4 * 10 ^ 38)) (min q (4 * 10 ^ 38)) = q
  rw [min_eq_left hhigh, max_eq_right hlow]

/-- The integer towards zero. -/
def truncate (q : ℚ) : ℤ := if 0 ≤ q then ⌊q⌋ else ⌈q⌉

/-- The operations without an error. -/
def exact : Reals Single ℚ where
  ofFloat := Single.value
  toFloat := Single.ofRat
  ofRat := id
  add := (· + ·)
  sub := (· - ·)
  mul := (· * ·)
  fmod x y := x - y * truncate (x / y)
  floor x := ⌊x⌋
  lt x y := decide (x < y)
  toInt x := BitVec.ofInt 32 (truncate x)
  toUint8 x := BitVec.ofInt 8 (truncate x)
  format1 := formatFixed 0 1
  format6 := formatFixed 9 6

@[simp] theorem exact_lt (x y : ℚ) : exact.lt x y = decide (x < y) := rfl

@[simp] theorem exact_mul (x y : ℚ) : exact.mul x y = x * y := rfl

@[simp] theorem exact_ofRat (q : ℚ) : exact.ofRat q = q := rfl

theorem abs_sub_truncate_lt (q : ℚ) : |q - truncate q| < 1 := by
  unfold truncate
  rw [abs_lt]
  split
  · have := Int.floor_le q
    have := Int.lt_floor_add_one q
    constructor <;> linarith
  · have := Int.le_ceil q
    have := Int.ceil_lt_add_one q
    constructor <;> linarith

theorem abs_fmod_lt (x : ℚ) : |exact.fmod x (exact.ofRat 60)| < 60 := by
  have h := abs_sub_truncate_lt (x / 60)
  have hmul : x - 60 * truncate (x / 60) = 60 * (x / 60 - truncate (x / 60)) := by
    rw [mul_sub, mul_div_cancel₀ x (by norm_num)]
  show |x - 60 * truncate (x / 60)| < 60
  rw [hmul, abs_mul, abs_of_pos (by norm_num : (0 : ℚ) < 60)]
  linarith

theorem printsNumbers_exact : PrintsNumbers exact where
  plain1 := isPlain_formatFixed 0 1
  plain6 := isPlain_formatFixed 9 6
  length_float x := by
    -- a `float` has 39 digits at most before the point
    have hunits : unitsOf 1 x.value ≤ 4 * 10 ^ 39 := by
      refine unitsOf_le ?_
      have := x.inRange
      push_cast
      linarith
    have hlength := length_formatFixed_le 0 (k := 39) (q := x.value) (by decide)
      (show 0 < 1 by decide) (by omega)
    exact hlength
  length_minutes x := by
    have hunits : unitsOf 6 (exact.fmod x (exact.ofRat 60)) ≤ 60 * 10 ^ 6 := by
      refine unitsOf_le ?_
      have := abs_fmod_lt x
      push_cast
      linarith
    exact length_formatFixed_le 9 (k := 2) (by decide) (by decide) (by omega)

/-- A location without data. -/
def noFix : GpsLocation Single ℚ :=
  ⟨false, false, false, false, 0, 0, 0, .ofRat 0, .ofRat 0, 0⟩

/-- An extension without data. -/
def noData : GpsLocationExtended Single :=
  ⟨false, false, false, false, ⟨0, 0, 0, 0, 0⟩, .ofRat 0, .ofRat 0, .ofRat 0, .ofRat 0, .ofRat 0,
    false, false⟩

/-! ### Reading -/

/-- The number that digits around a point spell. -/
def digitsValue (ds : CString) : ℚ :=
  let fraction := (ds.dropWhile (· ≠ '.')).tail
  Nat.ofDigitChars 10 (ds.takeWhile (· ≠ '.')) 0
    + Nat.ofDigitChars 10 fraction 0 / 10 ^ fraction.length

/-- The number that a text spells. -/
def decimalValue : CString → ℚ
  | '-' :: ds => -digitsValue ds
  | ds => digitsValue ds

/-- The sign that a hemisphere stands for. -/
def signOf (positive negative : Char) (hemisphere : CString) : ℚ :=
  if hemisphere = [positive] then 1 else if hemisphere = [negative] then -1 else 0

theorem digitsValue_decimalText (width : Nat) {decimals : Nat} (hdecimals : 0 < decimals)
    (n : Nat) :
    digitsValue (zeroPad width (decimalText decimals n)) = n / 10 ^ decimals := by
  let whole := List.replicate (width - (decimalText decimals n).length) '0'
    ++ Nat.toDigits 10 (n / 10 ^ decimals)
  let fraction := zeroPad decimals (Nat.toDigits 10 (n % 10 ^ decimals))
  have hsplit : zeroPad width (decimalText decimals n) = whole ++ '.' :: fraction := by
    rw [zeroPad, decimalText, ← List.append_assoc]
    rfl
  -- the first point of the text is the one between the two parts
  have hdigits : ∀ c ∈ whole, decide (c ≠ '.') = true := by
    intro c hc
    refine decide_eq_true ?_
    rintro rfl
    rcases List.mem_append.mp hc with hc | hc
    · exact absurd (List.eq_of_mem_replicate hc) (by decide)
    · exact absurd (Nat.isDigit_of_mem_toDigits (by decide) (by decide) hc) (by decide)
  have hwhole : Nat.ofDigitChars 10 whole 0 = n / 10 ^ decimals := by
    rw [Nat.ofDigitChars_append, Nat.ofDigitChars_replicate_zero, Nat.mul_zero,
      Nat.ofDigitChars_ten_toDigits]
  have hfraction : Nat.ofDigitChars 10 fraction 0 = n % 10 ^ decimals := ofDigitChars_zeroPad _ _
  have hlength : fraction.length = decimals := by
    have := length_toDigits_le hdecimals
      (Nat.mod_lt n (Nat.pow_pos (n := decimals) (by decide : 0 < 10)))
    rw [length_zeroPad]
    omega
  rw [digitsValue, hsplit, List.takeWhile_append_of_pos hdigits,
    List.dropWhile_append_of_pos hdigits, List.takeWhile_cons_of_neg (by decide), List.append_nil,
    List.dropWhile_cons_of_neg (by decide), List.tail_cons]
  rw [hwhole, hfraction, hlength, eq_div_iff (by positivity), add_mul,
    div_mul_cancel₀ _ (by positivity)]
  exact_mod_cast Nat.div_add_mod' n (10 ^ decimals)

/-- What is printed of a number that is not negative reads as its units. -/
theorem decimalValue_formatFixed (width : Nat) {decimals : Nat} (hdecimals : 0 < decimals) {q : ℚ}
    (h : 0 ≤ q) :
    decimalValue (formatFixed width decimals q) = unitsOf decimals q / 10 ^ decimals := by
  rw [formatFixed, if_neg (by linarith), ← digitsValue_decimalText width hdecimals]
  unfold decimalValue
  split
  · next ds heq =>
      -- no minus sign is printed
      have hminus := mem_zeroPad_decimalText (heq ▸ List.mem_cons_self : '-' ∈ _)
      exact absurd hminus (by decide)
  · rfl

end LocHal.Util.LocNmea
