import Mathlib.Tactic.Common

/-!
# `LocHal.Lib.AlignedFilterMap`: values that close up beside an array

A loop that keeps some values of an array closes them up. An array beside it that does not close up
is then read at other indices. `filterMap_aligned_iff` says when every value still stands at its own
index: those that are left out come last.

One direction is an induction on the list: a first element with a value keeps its index, and so do
the others behind it; a first element without a value shifts all the others. `eq_none_of_shifted`
says what is left in that case. If the values stand where they were, although the list has moved up,
then there are none, since the last one would stand behind the end of the closed up list.
-/

set_option autoImplicit false

namespace AlignedFilterMap

variable {α β : Type*} {f : α → Option β} {xs : List α}

/-- Values that all stand further on than the closed up list has them are not there. -/
theorem eq_none_of_shifted {n : Nat} (hn : 0 < n)
    (h : ∀ (i : Nat) x y, xs[i]? = some x → f x = some y → (xs.filterMap f)[i + n]? = some y) :
    ∀ x ∈ xs, f x = none := by
  induction xs generalizing n with
  | nil => exact nofun
  | cons x xs ih =>
      cases hx : f x with
      | none =>
          -- without the value the rest is one further on
          rw [List.filterMap_cons_none hx] at h
          have hrest := ih (Nat.succ_pos n) fun i x' y hi hy => by
            have hnext := h (i + 1) x' y (by rw [List.getElem?_cons_succ]; exact hi) hy
            rwa [show i + 1 + n = i + (n + 1) by omega] at hnext
          exact List.forall_mem_cons.mpr ⟨hx, hrest⟩
      | some y =>
          rw [List.filterMap_cons_some hx] at h
          have hrest := ih hn fun i x' y' hi hy => by
            have hnext := h (i + 1) x' y' (by rw [List.getElem?_cons_succ]; exact hi) hy
            rwa [show i + 1 + n = i + n + 1 by omega, List.getElem?_cons_succ] at hnext
          -- so the value is alone, and it does not stand at an index that is not 0
          have hnil : xs.filterMap f = [] := List.filterMap_eq_nil_iff.mpr hrest
          have hfirst := h 0 x y rfl hx
          rw [hnil, Nat.zero_add, List.getElem?_eq_none (by rwa [List.length_singleton])] at hfirst
          cases hfirst

/-- The values stand at the indices that they had exactly when those that are left out come last. -/
theorem filterMap_aligned_iff :
    (∀ (i : Nat) x y, xs[i]? = some x → f x = some y → (xs.filterMap f)[i]? = some y) ↔
      xs.Pairwise fun x later => (f later).isSome → (f x).isSome := by
  induction xs with
  | nil => exact ⟨fun _ => List.Pairwise.nil, fun _ i x y hi => nomatch hi⟩
  | cons x xs ih =>
      rw [List.pairwise_cons]
      cases hx : f x with
      | none =>
          rw [List.filterMap_cons_none hx]
          constructor
          · intro h
            have hrest := eq_none_of_shifted Nat.one_pos fun i x' y hi hy =>
              h (i + 1) x' y (by rw [List.getElem?_cons_succ]; exact hi) hy
            refine ⟨fun later hlater hsome => ?_, ?_⟩
            · rw [hrest later hlater] at hsome
              exact hsome
            · refine List.pairwise_iff_forall_sublist.mpr fun {a b} hab hsome => ?_
              rw [hrest b (hab.subset (by simp))] at hsome
              cases hsome
          · rintro ⟨hnone, -⟩ i x' y hi hy
            -- nothing of the list has a value
            rcases List.mem_cons.mp (List.mem_of_getElem? hi) with rfl | hmem
            · cases hx.symm.trans hy
            · exact absurd (hnone x' hmem (by rw [hy]; rfl)) Bool.false_ne_true
      | some y =>
          rw [List.filterMap_cons_some hx]
          have hfirst : ∀ later ∈ xs, (f later).isSome = true → (some y).isSome = true :=
            fun _ _ _ => rfl
          rw [and_iff_right hfirst, ← ih]
          constructor
          · intro h i x' y' hi hy
            have hnext := h (i + 1) x' y' (by rw [List.getElem?_cons_succ]; exact hi) hy
            rwa [List.getElem?_cons_succ] at hnext
          · intro h i x' y' hi hy
            cases i with
            | zero =>
                rw [List.getElem?_cons_zero, Option.some.injEq] at hi
                rw [← hi, hx] at hy
                exact hy
            | succ i =>
                rw [List.getElem?_cons_succ] at hi ⊢
                exact h i x' y' hi hy

end AlignedFilterMap
