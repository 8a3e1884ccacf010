import Mathlib.Data.List.Induction

/-!
# `LocHal.Lib.PackedSlots`: arrays whose used slots come first

An array of optional slots is packed when its used slots stand before its free ones: it is
`slots l n`, the entries `l` and then `n` free slots. A scan stops at the first free slot, so it
sees the entries only (`length_takeWhile_slots`). A slot is freed by moving the last entry into it
(`moveLast`), which leaves the array packed.

The lemmas hold for every type of entries. Nothing here names the program.
-/

set_option autoImplicit false

namespace PackedSlots

variable {α : Type*}

/-- The entries in the first slots, and then `n` free slots. -/
def slots (l : List α) (n : Nat) : List (Option α) := l.map some ++ List.replicate n none

@[simp] theorem slots_cons (a : α) (l : List α) (n : Nat) :
    slots (a :: l) n = some a :: slots l n := rfl

/-- A scan over the used slots stops behind the last entry. -/
theorem length_takeWhile_slots (l : List α) (n : Nat) :
    ((slots l n).takeWhile Option.isSome).length = l.length := by
  induction l with
  | nil => cases n <;> rfl
  | cons a l ih =>
      rw [slots_cons, List.takeWhile_cons_of_pos rfl, List.length_cons, List.length_cons, ih]

/-- It stops at a free slot, or behind the last slot. -/
theorem getElem?_takeWhile_isSome (l : List (Option α)) :
    l[(l.takeWhile Option.isSome).length]? = none ∨
      l[(l.takeWhile Option.isSome).length]? = some none := by
  induction l with
  | nil => exact Or.inl rfl
  | cons slot l ih =>
      cases slot with
      | none => exact Or.inr rfl
      | some a =>
          rw [List.takeWhile_cons_of_pos rfl, List.length_cons, List.getElem?_cons_succ]
          exact ih

/-- The first free slot takes the next entry. -/
theorem slots_concat (l : List α) (a : α) (n : Nat) :
    slots (l ++ [a]) n = l.map some ++ some a :: List.replicate n none := by
  simp [slots]

/-- Slot `last` is copied to the first slot, and then it is freed. -/
def moveLast (l : List (Option α)) (last : Nat) : List (Option α) :=
  (l.set 0 (l.getD last none)).set last none

/-- With the first slot freed, the last entry moves there and leaves one more free slot. -/
theorem moveLast_slots (l : List α) (n : Nat) :
    ∃ l' : List α, l'.Perm l ∧ moveLast (none :: slots l n) l.length = slots l' (n + 1) := by
  induction l using List.reverseRecOn with
  | nil => exact ⟨[], List.Perm.nil, rfl⟩
  | append_singleton l a =>
      refine ⟨a :: l, (List.perm_append_singleton a l).symm, ?_⟩
      have hget : (none :: slots (l ++ [a]) n).getD (l ++ [a]).length none = some a := by
        rw [slots_concat, List.length_append, List.length_singleton, List.getD_cons_succ]
        simp
      have hset : (slots (l ++ [a]) n).set l.length none = slots l (n + 1) := by
        rw [slots_concat, slots]
        simp [List.replicate_succ]
      unfold moveLast
      rw [hget, List.set_cons_zero, List.length_append, List.length_singleton,
        List.set_cons_succ, hset, slots_cons]

end PackedSlots
