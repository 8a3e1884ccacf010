import Mathlib.Tactic.Common

/-!
# `LocHal.Lib.SinceLast`: the end of a list from its last mark on

`sinceLast p l` is what is left of `l` when everything before the last element with `p` is thrown
away. Without such an element it is all of `l`. It says what a queue holds that is emptied when a
marked element comes: the list `l` is the history of what was pushed, and `sinceLast p l` is what
is still in the queue.

The rules are for the two ends of the list: an element that comes at the back, and one that is
taken from the front.

`Stands sets ends l` is the other question about such a history: whether something that an element
has set is still in force, because no element since then has ended it. Setting it anew may end what
was set before, so that an element can do both. `stands_concat` is the rule for one more element,
and all that an invariant over a run needs.
-/

set_option autoImplicit false

namespace SinceLast

variable {α : Type*} {p : α → Bool}

/-- The list from the last element with `p` on. -/
def sinceLast (p : α → Bool) : List α → List α
  | [] => []
  | a :: l => if l.any p then sinceLast p l else a :: l

@[simp] theorem sinceLast_nil : sinceLast p [] = [] := rfl

/-- A mark further on throws the first element away. -/
theorem sinceLast_cons_of_any {a : α} {l : List α} (h : l.any p = true) :
    sinceLast p (a :: l) = sinceLast p l := if_pos h

/-- Without a mark further on the first element stays. -/
theorem sinceLast_cons_of_not_any {a : α} {l : List α} (h : l.any p = false) :
    sinceLast p (a :: l) = a :: l := by
  rw [sinceLast, h]
  rfl

/-- Without a mark everything stays. -/
theorem sinceLast_of_not_any {l : List α} (h : l.any p = false) : sinceLast p l = l := by
  cases l with
  | nil => rfl
  | cons a l =>
      rw [List.any_cons, Bool.or_eq_false_iff] at h
      exact sinceLast_cons_of_not_any h.2

/-- Nothing new is in the rest. -/
theorem mem_of_mem_sinceLast {a : α} : ∀ {l : List α}, a ∈ sinceLast p l → a ∈ l := by
  intro l
  induction l with
  | nil =>
      intro h
      cases h
  | cons b l ih =>
      intro h
      by_cases hany : l.any p = true
      · rw [sinceLast_cons_of_any hany] at h
        exact List.mem_cons_of_mem b (ih h)
      · rw [sinceLast_cons_of_not_any (Bool.eq_false_iff.mpr hany)] at h
        exact h

/-- A mark at the back throws everything before it away. -/
theorem sinceLast_concat_of_mark {a : α} (ha : p a = true) :
    ∀ l : List α, sinceLast p (l ++ [a]) = [a] := by
  intro l
  induction l with
  | nil => rfl
  | cons b l ih =>
      have hany : (l ++ [a]).any p = true := by simp [ha]
      rw [List.cons_append, sinceLast_cons_of_any hany]
      exact ih

/-- An element at the back that is no mark is kept with the rest. -/
theorem sinceLast_concat_of_not_mark {a : α} (ha : p a = false) :
    ∀ l : List α, sinceLast p (l ++ [a]) = sinceLast p l ++ [a] := by
  intro l
  induction l with
  | nil => rfl
  | cons b l ih =>
      have hsame : (l ++ [a]).any p = l.any p := by simp [ha]
      rw [List.cons_append]
      cases hany : l.any p with
      | true =>
          rw [sinceLast_cons_of_any (hsame.trans hany), sinceLast_cons_of_any hany]
          exact ih
      | false =>
          rw [sinceLast_cons_of_not_any (hsame.trans hany), sinceLast_cons_of_not_any hany]
          rfl

/-! ### What is in force -/

/-- An element of the list has set it, and no later one has ended it. -/
def Stands (sets ends : α → Prop) (l : List α) : Prop :=
  ∃ earlier a later, l = earlier ++ a :: later ∧ sets a ∧ ∀ b ∈ later, ¬ ends b

variable {sets ends : α → Prop} {l : List α} {a : α}

theorem not_stands_nil : ¬ Stands sets ends [] := by
  rintro ⟨earlier, a, later, h, -⟩
  simp at h

/-- After one more element, either this one has set it, or it stood and is not ended. -/
theorem stands_concat : Stands sets ends (l ++ [a]) ↔ sets a ∨ Stands sets ends l ∧ ¬ ends a := by
  constructor
  · rintro ⟨earlier, b, later, heq, hsets, hlater⟩
    rcases List.eq_nil_or_concat later with rfl | ⟨later, c, rfl⟩
    · obtain ⟨-, hlast⟩ := List.append_inj' heq rfl
      obtain rfl := List.singleton_inj.mp hlast
      exact Or.inl hsets
    · rw [List.concat_eq_append] at heq hlater
      rw [← List.cons_append, ← List.append_assoc] at heq
      obtain ⟨rfl, hlast⟩ := List.append_inj' heq rfl
      obtain rfl := List.singleton_inj.mp hlast
      right
      exact ⟨⟨earlier, b, later, rfl, hsets, fun x hx => hlater x (List.mem_append_left _ hx)⟩,
        hlater a (List.mem_append_right _ (List.mem_singleton_self a))⟩
  · rintro (hsets | ⟨⟨earlier, b, later, rfl, hsets, hlater⟩, hends⟩)
    · exact ⟨l, a, [], rfl, hsets, by simp⟩
    · refine ⟨earlier, b, later ++ [a], by simp, hsets, fun x hx => ?_⟩
      rcases List.mem_append.mp hx with hx | hx
      · exact hlater x hx
      · exact List.mem_singleton.mp hx ▸ hends

/-- An element that neither sets nor ends it leaves it as it is. -/
theorem stands_concat_of_neither (hsets : ¬ sets a) (hends : ¬ ends a) :
    Stands sets ends (l ++ [a]) ↔ Stands sets ends l := by
  rw [stands_concat, or_iff_right hsets, and_iff_left hends]

/-- After an element that ends what was set before, only what it sets itself is in force. -/
theorem stands_concat_of_ends (hends : ends a) : Stands sets ends (l ++ [a]) ↔ sets a := by
  rw [stands_concat, or_iff_left fun h => h.2 hends]

end SinceLast
