import Mathlib.Tactic.Common

/-!
# `LocHal.Lib.CheckedArray`: loops over arrays with checked accesses

An array is a list, and an access with an index outside of it has no result. A program that has a
result has made no such access.

`upTo` and `downFrom` are the two counting loops. The rules turn an invariant that each pass keeps
into a result of the whole loop, so the proof of what a loop computes is also the proof that its
accesses are within bounds.

The lemmas on `append` are for the loops that fill an array or read it from one end: the array is
what has been done and what is left, and the access is at the border. `upTo_invariant` and
`downFrom_invariant` count the passes, so an invariant may depend on how far the loop has come.
-/

set_option autoImplicit false

namespace CheckedArray

variable {α σ : Type*} {xs : List α} {x : α} {i n : Nat}

/-- `xs[i]`. -/
def read (xs : List α) (i : Int) : Option α :=
  if 0 ≤ i then xs[i.toNat]? else none

/-- `xs[i] = x`. -/
def write (xs : List α) (i : Int) (x : α) : Option (List α) :=
  if 0 ≤ i ∧ i < xs.length then some (xs.set i.toNat x) else none

theorem read_natCast (xs : List α) (i : Nat) : read xs i = xs[i]? := by
  unfold read
  rw [if_pos (Int.natCast_nonneg i), Int.toNat_natCast]

theorem read_of_getElem? (h : xs[i]? = some x) : read xs i = some x :=
  (read_natCast xs i).trans h

theorem write_natCast (x : α) (h : i < xs.length) : write xs i x = some (xs.set i x) := by
  unfold write
  rw [if_pos ⟨Int.natCast_nonneg i, Int.ofNat_lt.mpr h⟩, Int.toNat_natCast]

/-- An access behind the front of an array. -/
theorem read_append (front xs : List α) (k : Nat) :
    read (front ++ xs) (front.length + k : Nat) = xs[k]? := by
  rw [read_natCast, List.getElem?_append_right (Nat.le_add_right _ _), Nat.add_sub_cancel_left]

theorem write_append (front : List α) (x : α) (h : i < xs.length) :
    write (front ++ xs) (front.length + i : Nat) x = some (front ++ xs.set i x) := by
  rw [write_natCast x (by rw [List.length_append]; omega),
    List.set_append_right _ _ (Nat.le_add_right _ _), Nat.add_sub_cancel_left]

/-- The access at the end of the front. -/
theorem read_append_cons (front : List α) (x : α) (xs : List α) :
    read (front ++ x :: xs) front.length = some x :=
  read_append front (x :: xs) 0

theorem write_append_cons (front : List α) (x y : α) (xs : List α) :
    write (front ++ x :: xs) front.length y = some (front ++ y :: xs) :=
  @write_append _ (x :: xs) 0 front y (Nat.zero_lt_succ xs.length)

/-! ### Counting loops -/

/-- `for (i = 0; i < n; i++)`. -/
def upTo : Nat → (Nat → σ → Option σ) → σ → Option σ
  | 0, _, s => some s
  | n + 1, body, s => (upTo n body s).bind (body n)

/-- `for (i = n - 1; i >= 0; i--)`. -/
def downFrom : Nat → (Nat → σ → Option σ) → σ → Option σ
  | 0, _, s => some s
  | n + 1, body, s => (body n s).bind (downFrom n body)

variable {body : Nat → σ → Option σ} {s : σ}

/-- What holds before the first pass and is carried on by each holds after the last. -/
theorem upTo_invariant (I : Nat → σ → Prop) (hstart : I 0 s)
    (hstep : ∀ i < n, ∀ s, I i s → ∃ s', body i s = some s' ∧ I (i + 1) s') :
    ∃ s', upTo n body s = some s' ∧ I n s' := by
  induction n with
  | zero => exact ⟨s, rfl, hstart⟩
  | succ n ih =>
      obtain ⟨s', hs', hI⟩ := ih fun i hi => hstep i (Nat.lt_succ_of_lt hi)
      obtain ⟨s'', hs'', hI'⟩ := hstep n (Nat.lt_succ_self n) s' hI
      refine ⟨s'', ?_, hI'⟩
      rw [upTo, hs', Option.bind_some, hs'']

theorem downFrom_invariant (I : Nat → σ → Prop) (hstart : I n s)
    (hstep : ∀ i < n, ∀ s, I (i + 1) s → ∃ s', body i s = some s' ∧ I i s') :
    ∃ s', downFrom n body s = some s' ∧ I 0 s' := by
  induction n generalizing s with
  | zero => exact ⟨s, rfl, hstart⟩
  | succ n ih =>
      -- the first pass is the one with the last index
      obtain ⟨s', hs', hI⟩ := hstep n (Nat.lt_succ_self n) s hstart
      obtain ⟨s'', hs'', hI'⟩ := ih hI fun i hi => hstep i (Nat.lt_succ_of_lt hi)
      refine ⟨s'', ?_, hI'⟩
      rw [downFrom, hs', Option.bind_some, hs'']

end CheckedArray
