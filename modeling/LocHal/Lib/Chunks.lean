import Mathlib.Data.List.Basic

/-!
# `LocHal.Lib.Chunks`: a list in chunks of one size

`chunks size k xs` cuts `k` chunks off a list. `CutsInto` says what it means that chunks are the
list cut into pieces of the size: nothing is lost or repeated, and only the last chunk may be short.

`cutsInto_chunks` is the result: as many chunks as it takes cut the list. It is put together from
what `chunks` does for any number of them. `length_chunks` counts them, `flatten_chunks` says that
enough of them lose nothing, and `getElem_chunks` says where in the list each of them stands.
-/

set_option autoImplicit false

namespace LocHal.Lib

variable {α : Type}

/-- The first `k` chunks. -/
def chunks (size : Nat) : Nat → List α → List (List α)
  | 0, _ => []
  | k + 1, xs => xs.take size :: chunks size k (xs.drop size)

/-- The chunks are the list, cut into pieces of the size. -/
structure CutsInto (size : Nat) (xs : List α) (cs : List (List α)) : Prop where
  flatten : cs.flatten = xs
  length : cs.length = (xs.length + size - 1) / size
  length_le : ∀ c ∈ cs, c.length ≤ size
  full : ∀ (i : Nat) (h : i + 1 < cs.length), cs[i].length = size

theorem length_chunks (size k : Nat) (xs : List α) : (chunks size k xs).length = k := by
  induction k generalizing xs with
  | zero => rfl
  | succ k ih => exact congrArg (· + 1) (ih _)

theorem flatten_chunks {size k : Nat} {xs : List α} (h : xs.length ≤ size * k) :
    (chunks size k xs).flatten = xs := by
  induction k generalizing xs with
  | zero =>
      rw [Nat.mul_zero, Nat.le_zero] at h
      rw [List.eq_nil_of_length_eq_zero h]
      rfl
  | succ k ih =>
      have hdrop : (xs.drop size).length ≤ size * k := by
        rw [List.length_drop]
        rw [Nat.mul_succ] at h
        omega
      rw [chunks, List.flatten_cons, ih hdrop, List.take_append_drop]

theorem getElem_chunks {size k : Nat} (xs : List α) {i : Nat} (h : i < (chunks size k xs).length) :
    (chunks size k xs)[i] = (xs.drop (size * i)).take size := by
  induction k generalizing xs i with
  | zero => exact absurd h (Nat.not_lt_zero i)
  | succ k ih =>
      cases i with
      | zero => rfl
      | succ i =>
          have hi : i < (chunks size k (xs.drop size)).length := Nat.lt_of_succ_lt_succ h
          show (chunks size k (xs.drop size))[i] = _
          rw [ih _ hi, List.drop_drop, Nat.mul_succ, Nat.add_comm]

/-- As many chunks as it takes. -/
theorem cutsInto_chunks {size : Nat} (hsize : 0 < size) (xs : List α) :
    CutsInto size xs (chunks size ((xs.length + size - 1) / size) xs) := by
  have hmod := Nat.div_add_mod (xs.length + size - 1) size
  have hlt := Nat.mod_lt (xs.length + size - 1) hsize
  refine ⟨flatten_chunks (by omega), length_chunks _ _ _, ?_, ?_⟩
  · intro c hc
    obtain ⟨i, hi, rfl⟩ := List.mem_iff_getElem.mp hc
    rw [getElem_chunks]
    exact List.length_take_le _ _
  · intro i hi
    rw [length_chunks] at hi
    rw [getElem_chunks, List.length_take, List.length_drop]
    -- there are elements for the next chunk
    have hnext : size * (i + 1) + size ≤ size * ((xs.length + size - 1) / size) := by
      rw [← Nat.mul_succ]
      exact Nat.mul_le_mul_left _ hi
    rw [Nat.mul_succ] at hnext
    omega

end LocHal.Lib
