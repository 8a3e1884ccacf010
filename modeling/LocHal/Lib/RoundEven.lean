import Mathlib.Data.Rat.Floor
import Mathlib.Tactic.Linarith

/-!
# `LocHal.Lib.RoundEven`: rounding to the nearest integer

`roundEven` takes the even one of two nearest integers. `abs_roundEven_sub_le` is the error, and
`roundEven_lt_iff_of_even` says when a rational is rounded below an even integer.

The error is half a unit at most, which leaves two integers when a rational lies in the middle
between them. `even_roundEven_of_tie` says which of them is taken. So a rational half a unit below
an even integer is not rounded below it, and below an odd one it would be; this is why
`roundEven_lt_iff_of_even` asks for an even bound.

The definition is by the floor and can be evaluated.
-/

set_option autoImplicit false

namespace LocHal.Lib

/-- The nearest integer, and the even one of two. -/
def roundEven (q : ℚ) : ℤ :=
  if q - ⌊q⌋ < 1 / 2 then ⌊q⌋
  else if 1 / 2 < q - ⌊q⌋ then ⌊q⌋ + 1
  else if ⌊q⌋ % 2 = 0 then ⌊q⌋ else ⌊q⌋ + 1

theorem abs_roundEven_sub_le (q : ℚ) : |(roundEven q : ℚ) - q| ≤ 1 / 2 := by
  have hle := Int.floor_le q
  have hlt := Int.lt_floor_add_one q
  unfold roundEven
  rw [abs_le]
  split
  · constructor <;> linarith
  · split
    · push_cast
      constructor <;> linarith
    · split
      · constructor <;> linarith
      · push_cast
        constructor <;> linarith

/-- A tie goes to the even integer. -/
theorem even_roundEven_of_tie {q : ℚ} (h : |(roundEven q : ℚ) - q| = 1 / 2) :
    roundEven q % 2 = 0 := by
  have hle := Int.floor_le q
  unfold roundEven at h ⊢
  split
  · next hbelow =>
      rw [if_pos hbelow, abs_sub_comm, abs_of_nonneg (by linarith)] at h
      linarith
  · next hbelow =>
      rw [if_neg hbelow] at h
      split
      · next habove =>
          rw [if_pos habove, abs_of_nonneg (by push_cast; linarith [Int.lt_floor_add_one q])] at h
          push_cast at h
          linarith
      · split
        · assumption
        · omega

theorem roundEven_nonneg {q : ℚ} (h : 0 ≤ q) : 0 ≤ roundEven q := by
  have := (abs_le.mp (abs_roundEven_sub_le q)).1
  have hlt : (-1 : ℚ) < roundEven q := by linarith
  have : -1 < roundEven q := by exact_mod_cast hlt
  omega

/-- What is rounded below an even integer: half a unit below it is not. -/
theorem roundEven_lt_iff_of_even {q : ℚ} {n : ℤ} (hn : n % 2 = 0) :
    roundEven q < n ↔ q < n - 1 / 2 := by
  obtain ⟨hlow, hhigh⟩ := abs_le.mp (abs_roundEven_sub_le q)
  constructor
  · intro h
    have hle : (roundEven q : ℚ) ≤ n - 1 := by exact_mod_cast Int.le_sub_one_of_lt h
    refine lt_of_le_of_ne (by linarith) fun heq => ?_
    -- then the rounded one is the odd integer below, at half a unit
    have htie : |(roundEven q : ℚ) - q| = 1 / 2 := by
      rw [abs_of_nonpos (by linarith)]
      linarith
    have heven := even_roundEven_of_tie htie
    have : (roundEven q : ℚ) = n - 1 := by linarith
    have : roundEven q = n - 1 := by exact_mod_cast this
    omega
  · intro h
    have : (roundEven q : ℚ) < n := by linarith
    exact_mod_cast this

example : [1 / 2, 3 / 2, 5 / 2, 26 / 10, -1 / 2].map roundEven = [0, 2, 2, 3, 0] := by
  decide +kernel

end LocHal.Lib
