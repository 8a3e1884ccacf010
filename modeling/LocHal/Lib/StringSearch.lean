import Mathlib.Tactic.Common

/-!
# `LocHal.Lib.StringSearch`: searches that skip

A search moves a window over a text and compares it with a pattern. It may skip positions at which
the pattern does not occur. `NoneBefore` is the invariant of such a search: nothing before the
window is an occurrence. The rules say how the window moves on and what the search returns in the
end, which is what `naiveSearch` returns.

The second part is about what a mismatch says. A window that agrees with the pattern behind an
offset `p` and differs at `p` rules out a shift `s` unless the pattern agrees with itself under it:
for `s` up to `p` the part behind `p` is there again in the pattern, with another character before
it (`Reappears`). For a greater `s` the pattern from `s` on is the beginning of the pattern
(`Border`).

Both are what a search may conclude from a mismatch: by `Mismatch.reappears` and `Mismatch.border`
an occurrence further on shows one of them. A search that skips all shifts under which neither holds
misses nothing. `Mismatch.getElem?_eq` is for a table about the character alone.
-/

set_option autoImplicit false

namespace StringSearch

variable {α : Type*} {pat text : List α} {k p s w : Nat}

/-- The pattern occurs in the text at `k`. -/
def OccursAt (pat text : List α) (k : Nat) : Prop :=
  ∀ j < pat.length, text[k + j]? = pat[j]?

instance [DecidableEq α] (pat text : List α) (k : Nat) : Decidable (OccursAt pat text k) :=
  inferInstanceAs (Decidable (∀ j < pat.length, _))

theorem OccursAt.length_le (h : OccursAt pat text k) (hpat : pat ≠ []) :
    k + pat.length ≤ text.length := by
  have hpos := List.length_pos_iff.mpr hpat
  have hlast := h (pat.length - 1) (by omega)
  rw [List.getElem?_eq_getElem (show pat.length - 1 < pat.length by omega)] at hlast
  obtain ⟨hlt, -⟩ := List.getElem?_eq_some_iff.mp hlast
  omega

/-- The first position at which the pattern occurs. -/
def naiveSearch [DecidableEq α] (pat text : List α) : Option Nat :=
  (List.range (text.length + 1)).find? fun k => decide (OccursAt pat text k)

/-- The pattern occurs nowhere before `w`. -/
def NoneBefore (pat text : List α) (w : Nat) : Prop :=
  ∀ k < w, ¬ OccursAt pat text k

theorem noneBefore_zero (pat text : List α) : NoneBefore pat text 0 :=
  fun _ hk => absurd hk (Nat.not_lt_zero _)

/-- The window moves on over positions at which the pattern does not occur. -/
theorem NoneBefore.advance (h : NoneBefore pat text w) {d : Nat}
    (hskip : ∀ s < d, ¬ OccursAt pat text (w + s)) : NoneBefore pat text (w + d) := by
  intro k hk
  by_cases hlt : k < w
  · exact h k hlt
  · have hskipped := hskip (k - w) (by omega)
    rwa [show w + (k - w) = k by omega] at hskipped

section

variable [DecidableEq α]

/-- What is found is the first occurrence. -/
theorem naiveSearch_eq_some_iff (hpat : pat ≠ []) :
    naiveSearch pat text = some k ↔ OccursAt pat text k ∧ NoneBefore pat text k := by
  unfold naiveSearch
  rw [List.find?_range_eq_some]
  constructor
  · rintro ⟨hk, -, hbefore⟩
    refine ⟨of_decide_eq_true hk, fun j hj hoccurs => ?_⟩
    have hnot := hbefore j hj
    rw [decide_eq_true hoccurs] at hnot
    cases hnot
  · rintro ⟨hk, hbefore⟩
    have hlength := hk.length_le hpat
    refine ⟨decide_eq_true hk, List.mem_range.mpr (by omega), fun j hj => ?_⟩
    rw [decide_eq_false (hbefore j hj)]
    rfl

/-- An occurrence with none before it is the first. -/
theorem NoneBefore.naiveSearch_eq_some (h : NoneBefore pat text k) (hpat : pat ≠ [])
    (hk : OccursAt pat text k) : naiveSearch pat text = some k :=
  (naiveSearch_eq_some_iff hpat).mpr ⟨hk, h⟩

/-- Nothing is found exactly where the pattern does not occur. -/
theorem naiveSearch_eq_none_iff (hpat : pat ≠ []) :
    naiveSearch pat text = none ↔ ∀ k, ¬ OccursAt pat text k := by
  unfold naiveSearch
  rw [List.find?_range_eq_none]
  constructor
  · intro h k hk
    have hlength := hk.length_le hpat
    have hnot := h k (by omega)
    rw [decide_eq_true hk] at hnot
    cases hnot
  · intro h k _
    rw [decide_eq_false (h k)]
    rfl

/-- A window that is over the end of the text has passed everything. -/
theorem NoneBefore.naiveSearch_eq_none (h : NoneBefore pat text w) (hpat : pat ≠ [])
    (hw : text.length < w + pat.length) : naiveSearch pat text = none := by
  refine (naiveSearch_eq_none_iff hpat).mpr fun k hk => ?_
  have hlength := hk.length_le hpat
  exact h k (by omega) hk

end

/-! ### Mismatches -/

/-- The window at `w` agrees with the pattern behind the offset `p` and differs from it at `p`. -/
structure Mismatch (pat text : List α) (w p : Nat) : Prop where
  lt : p < pat.length
  inside : w + p < text.length
  behind : ∀ j, p < j → j < pat.length → text[w + j]? = pat[j]?
  differs : text[w + p]? ≠ pat[p]?

/-- The pattern from `q` on is the beginning of the pattern. -/
def Border (pat : List α) (q : Nat) : Prop :=
  ∀ j < pat.length - q, pat[q + j]? = pat[j]?

/-- What is behind `p` is there again `s` places before, with another character in front. -/
structure Reappears (pat : List α) (p s : Nat) : Prop where
  pos : 0 < s
  le : s ≤ p
  behind : ∀ j, p < j → j < pat.length → pat[j - s]? = pat[j]?
  differs : pat[p - s]? ≠ pat[p]?

instance [DecidableEq α] (pat : List α) (q : Nat) : Decidable (Border pat q) :=
  inferInstanceAs (Decidable (∀ j < pat.length - q, _))

theorem border_zero (pat : List α) : Border pat 0 := fun j _ => by rw [Nat.zero_add]

/-- A mismatch is no occurrence. -/
theorem Mismatch.not_occursAt (h : Mismatch pat text w p) : ¬ OccursAt pat text w :=
  fun hw => h.differs (hw p h.lt)

/-- A window differs from the pattern at one last offset. -/
theorem Mismatch.unique {p' : Nat} (h : Mismatch pat text w p) (h' : Mismatch pat text w p') :
    p = p' := by
  rcases Nat.lt_trichotomy p p' with hlt | heq | hgt
  · exact absurd (h.behind p' hlt h'.lt) h'.differs
  · exact heq
  · exact absurd (h'.behind p hgt h.lt) h.differs

/-- An occurrence further on by at most `p` shows what is behind `p` again. -/
theorem Mismatch.reappears (h : Mismatch pat text w p) (hs : OccursAt pat text (w + s))
    (hpos : 0 < s) (hle : s ≤ p) : Reappears pat p s := by
  have hlt := h.lt
  refine ⟨hpos, hle, fun j hj hjn => ?_, fun heq => h.differs ?_⟩
  · rw [← h.behind j hj hjn, ← hs (j - s) (by omega)]
    congr 1
    omega
  · rw [← heq, ← hs (p - s) (by omega)]
    congr 1
    omega

/-- An occurrence further on by more than `p` is a border. -/
theorem Mismatch.border (h : Mismatch pat text w p) (hs : OccursAt pat text (w + s))
    (hlt : p < s) : Border pat s := by
  intro j hj
  rw [← h.behind (s + j) (by omega) (by omega), ← hs j (by omega)]
  congr 1
  omega

/-- An occurrence has the character of the mismatch at its place. -/
theorem Mismatch.getElem?_eq (h : Mismatch pat text w p) (hs : OccursAt pat text (w + s))
    (hle : s ≤ p) : pat[p - s]? = text[w + p]? := by
  have hlt := h.lt
  rw [← hs (p - s) (by omega)]
  congr 1
  omega

end StringSearch
